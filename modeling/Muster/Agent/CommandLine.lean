/-!
The command line of the agent.
-/
namespace Muster.Agent

/-- What the command line asks for. -/
inductive Command
  | run (configPath : String)
  | version
  | help
deriving Repr, DecidableEq

/-- Why a command line is not understood. -/
inductive UsageError
  | noPath
  | unknownArgument (argument : String)
  | noConfig
deriving Repr, DecidableEq

/-- The message for a command line that is not understood. -/
def UsageError.message : UsageError → String
  | .noPath => "--config requires a path argument"
  | .unknownArgument argument => "unknown argument '" ++ argument ++ "'"
  | .noConfig => "--config <path> is required"

def usage : String :=
  "Usage: fleet-agent [OPTIONS]\n\nOptions:\n" ++
  "  -c, --config <PATH>  Configuration file path\n" ++
  "  -V, --version        Print version\n" ++
  "  -h, --help           Print help"

def versionText : String := "fleet-agent 0.1.0"

/-- What the arguments ask for. The first one decides. -/
def parseArguments : List String → Except UsageError Command
  | [] => .error .noConfig
  | first :: rest =>
      if first = "--version" ∨ first = "-V" then .ok .version
      else if first = "--help" ∨ first = "-h" then .ok .help
      else if first = "--config" ∨ first = "-c" then
        match rest with
        | path :: _ => .ok (.run path)
        | [] => .error .noPath
      else .error (.unknownArgument first)

end Muster.Agent
