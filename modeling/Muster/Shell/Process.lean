import Muster.Shell.Run
/-!
A process that runs a script: it has nothing to read, what it writes is collected, and it has a limit of
time. It is over when everything that may still write for it is over, too.
-/
namespace Muster.Shell

/-- How a process ended, and what it wrote. One that a signal has ended has no exit code. -/
structure Ending where
  exitCode : Option Nat
  output : List Char
  errors : List Char
deriving Repr, DecidableEq

/-- The number of the process that runs the script. -/
def firstProcess : Nat := 100

/-- The numbers of the sinks behind the output and the error output. -/
def outputSink : Nat := 1
def errorSink : Nat := 2

/-- How deep commands may lie within one another. -/
def deepest : Nat := 12000

/-- The microseconds until a process has begun to run. -/
def startMicros : Nat := 1000

def Machine.start (limit : Nat) : Machine where
  scope :=
    { process := firstProcess
      bindings := [("PWD".toList, "/work".toList), ("OPTIND".toList, ['1'])]
      streams := [(0, .nowhere), (1, .sink outputSink), (2, .sink errorSink)] }
  fresh := firstProcess
  elapsed := startMicros
  limit

/-- Runs a script to its end. The answer is nothing if that takes at least the limit of time, given in
microseconds. -/
def runProcess (script : List Char) (limit : Nat) : Option Ending :=
  let run : Run Unit := toItsEnd deepest (runText deepest script)
  let (result, machine) := (attempt run).run.run (.start limit)
  let jobs := machine.jobs.filter (!·.isAloof)
  let rest := (runJobs deepest).run.run { machine with jobs }
  let inTime := rest.2.elapsed < limit
  let code := match result with
    | .ok (some (.killed _ _)) => none
    | _ => some machine.scope.status
  match result, rest with
  | .ok (some .stuck), _ | _, (.error .stuck, _) => none
  | _, (_, machine) =>
      if inTime then
        let octets (sink : Nat) := ((machine.sinks.lookup sink).getD []).reverse
        some ⟨code, octets outputSink, octets errorSink⟩
      else none

end Muster.Shell
