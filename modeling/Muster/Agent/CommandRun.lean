import Muster.Agent.Execution
import Muster.Shell.Process
import Muster.Text.Utf8
/-!
Running the command of a task: the shell gets it as a script, with a limit of time. Output that is no
text is read as far as it is one.
-/
namespace Muster.Agent

open Muster.Text Muster.Time

/-- The octets of a text, as scripts hold them. -/
def scriptOctets (text : String) : List Char :=
  (toUtf8 text).map fun b => Char.ofNat b.toNat

/-- The text of some octets, with a mark where they are none. -/
def outputText (octets : List Char) : String :=
  ofUtf8Lossy (octets.map fun c => UInt8.ofNat c.toNat)

def execute (command : String) (timeout : Duration) : Execution :=
  if command.contains '\x00' then .withNul
  else
    match Shell.runProcess (scriptOctets command) (timeout.nanos / 1000) with
    | none => .timedOut timeout
    | some ending =>
        { exitCode := ending.exitCode.map Int.ofNat
          output := outputText ending.output
          errors := outputText ending.errors }

end Muster.Agent
