import Muster.Shell.Format
import Muster.Shell.Pattern
import Muster.Shell.Utility
/-!
The machine that runs scripts. Its scope belongs to one shell and is left behind with it; the world
around the scope, with the contents of all streams and the time that has passed, goes on.
-/
namespace Muster.Shell

/-- Where a stream leads: nowhere, to what is written to it, or to what can be read from it. -/
inductive Stream
  | nowhere
  | sink (number : Nat)
  | source (number : Nat)
deriving Repr, DecidableEq

/-- What belongs to one shell. The arguments are those of the shell or of the function under way; the
variables that a function has made its own are kept with the values that they had before. Options are
letters, and traps go by the number of their signal. -/
structure Scope where
  name : List Char := "sh".toList
  process : Nat
  parents : List Nat := []
  bindings : Variables := []
  exported : List (List Char) := []
  constants : List (List Char) := []
  arguments : List (List Char) := []
  functions : List (List Char × Command) := []
  locals : Option (List (List Char × Option (List Char))) := none
  streams : List (Nat × Stream) := []
  options : List Char := []
  traps : List (Nat × List Char) := []
  arrived : List Nat := []
  directory : List Char := "/work".toList
  calling : String := ""
  calls : Nat := 0
  loops : Nat := 0
  testing : Bool := false
  lines : Nat := 0
  line : Nat := 1
  status : Nat := 0
  substituted : Option Nat := none
  latestJob : Option Nat := none
  piped : Bool := false

/-- A script in the background, with the scope and the time it starts with. -/
structure Job where
  number : Nat
  scope : Scope
  body : Script
  started : Nat

def Command.redirections : Command → List Redirection
  | .simple _ _ _ redirections | .group _ redirections | .subshell _ redirections
  | .choice _ _ redirections | .loop _ _ _ redirections | .each _ _ _ redirections
  | .select _ _ redirections => redirections
  | .define _ _ | .background _ => []

/-- Does a job leave alone what its shell writes to? A single command may send all that it writes
elsewhere. -/
def Job.isAloof (job : Job) : Bool :=
  match job.body with
  | [.mk _ _ [command]] =>
      [1, 2].all fun number => command.redirections.any fun
        | .mk stream opening _ => stream = number && opening ≠ .read
  | _ => false

/-- A machine. What was written to a sink is kept with its last octet first. A job in the background
runs when somebody waits for it, as if it had run from the beginning. Times are in microseconds. -/
structure Machine where
  scope : Scope
  sinks : List (Nat × List Char) := []
  sources : List (Nat × List Char) := []
  files : List (List Char × Nat) := []
  jobs : List Job := []
  ended : List (Nat × Nat) := []
  fresh : Nat
  elapsed : Nat := 0
  limit : Nat

/-- Why a machine does not go on with the next step. -/
inductive Halt
  | exit
  | killed (process signal : Nat)
  | leave (loops : Nat)
  | again (loops : Nat)
  | back
  | stuck
deriving Repr, DecidableEq

/-- A run of the machine, which may halt. -/
abbrev Run := ExceptT Halt (StateM Machine)

def scope : Run Scope := do
  return (← get).scope

def modifyScope (change : Scope → Scope) : Run Unit :=
  modify fun machine => { machine with scope := change machine.scope }

def setStatus (status : Nat) : Run Unit :=
  modifyScope fun scope => { scope with status }

def pass (micros : Nat) : Run Unit := do
  modify fun machine => { machine with elapsed := machine.elapsed + micros }
  let machine ← get
  if machine.limit ≤ machine.elapsed then throw .stuck

/-- What keeps a run from going on, if anything does. -/
def attempt (run : Run Unit) : Run (Option Halt) := do
  try
    run
    return none
  catch halt => return some halt

def freshNumber : Run Nat := do
  modify fun machine => { machine with fresh := machine.fresh + 1 }
  return (← get).fresh

/-- A list of pairs with a new pair for a key. -/
def put {α β : Type} [DecidableEq α] (key : α) (value : β) (pairs : List (α × β)) : List (α × β) :=
  (key, value) :: pairs.filter (·.1 ≠ key)

def write (stream : Nat) (octets : List Char) : Run Unit := do
  match (← scope).streams.lookup stream with
  | some (.sink number) =>
      modify fun machine =>
        let before := (machine.sinks.lookup number).getD []
        { machine with sinks := put number (octets.reverse ++ before) machine.sinks }
  | _ => return ()

/-- What has been written to a sink. -/
def written (number : Nat) : Run (List Char) := do
  return ((← get).sinks.lookup number).getD [] |>.reverse

def input : Run (List Char) := do
  match (← scope).streams.lookup 0 with
  | some (.source number) => return ((← get).sources.lookup number).getD []
  | _ => return []

def leaveInput (rest : List Char) : Run Unit := do
  match (← scope).streams.lookup 0 with
  | some (.source number) =>
      modify fun machine => { machine with sources := put number rest machine.sources }
  | _ => return ()

def openSource (octets : List Char) : Run Stream := do
  let number ← freshNumber
  modify fun machine => { machine with sources := (number, octets) :: machine.sources }
  return .source number

def openSink : Run Nat := do
  let number ← freshNumber
  modify fun machine => { machine with sinks := (number, []) :: machine.sinks }
  return number

/-- A path from the root on. -/
def Scope.path (scope : Scope) (name : List Char) : List Char :=
  match name with
  | '/' :: _ => name
  | ['.'] => scope.directory
  | '.' :: '/' :: rest => scope.directory ++ '/' :: rest
  | _ => scope.directory ++ '/' :: name

def directories : List (List Char) :=
  ["/", "/bin", "/dev", "/etc", "/proc", "/tmp", "/usr", "/usr/bin", "/var", "/var/tmp", "/work"].map
    String.toList

/-- The octets of a file, if it can be read. -/
def Machine.file? (machine : Machine) (name : List Char) : Option (List Char) :=
  let path := machine.scope.path name
  match String.ofList path with
  | "/dev/null" => some []
  | "/dev/zero" => some (List.replicate 1048576 '\x00')
  | _ => do
      let number ← machine.files.lookup path
      some ((machine.sinks.lookup number).getD []).reverse

/-- Complains, with the name of the shell, the line and the builtin under way in front. -/
def complain (message : String) : Run Unit := do
  let scope ← scope
  let place := String.ofList scope.name ++ ": " ++ Text.ofInt scope.line ++ ": " ++ scope.calling
  write 2 (place ++ message ++ "\n").toList

def fail (message : String) (status : Nat) : Run Unit := do
  complain message
  setStatus status

def giveUp {α : Type} (message : String) : Run α := do
  fail message 2
  throw .exit

def valueOf? (name : List Char) : Run (Option (List Char)) := do
  return (← scope).bindings.lookup name

/-- Sets a variable, unless it is a constant. -/
def assign (name value : List Char) : Run Unit := do
  if (← scope).constants.contains name then
    giveUp (String.ofList name ++ ": is read only")
  modifyScope fun scope => { scope with bindings := put name value scope.bindings }

/-- Gives a variable its earlier value back. -/
def restore (name : List Char) (value : Option (List Char)) : Run Unit :=
  modifyScope fun scope =>
    { scope with bindings := match value with
      | some value => put name value scope.bindings
      | none => scope.bindings.filter (·.1 ≠ name) }

/-- The signals that scripts send, by name. -/
def signals : List (String × Nat) :=
  [("HUP", 1), ("INT", 2), ("QUIT", 3), ("ILL", 4), ("TRAP", 5), ("ABRT", 6), ("BUS", 7), ("FPE", 8),
    ("KILL", 9), ("USR1", 10), ("SEGV", 11), ("USR2", 12), ("PIPE", 13), ("ALRM", 14), ("TERM", 15),
    ("STKFLT", 16), ("CHLD", 17), ("CONT", 18), ("STOP", 19), ("TSTP", 20), ("TTIN", 21),
    ("TTOU", 22), ("URG", 23), ("XCPU", 24), ("XFSZ", 25), ("VTALRM", 26), ("PROF", 27),
    ("WINCH", 28), ("IO", 29), ("PWR", 30), ("SYS", 31)]

def signal? (text : List Char) : Option Nat :=
  match decimal? text with
  | some n => if n ≤ 64 then some n else none
  | none =>
      signals.lookup (String.ofList text).toUpper

/-- What is said of a process that a signal has ended. -/
def signalText (signal : Nat) : String :=
  match signal with
  | 1 => "Hangup"
  | 3 => "Quit"
  | 4 => "Illegal instruction"
  | 6 => "Aborted"
  | 8 => "Floating point exception"
  | 9 => "Killed"
  | 10 => "User defined signal 1"
  | 11 => "Segmentation fault"
  | 12 => "User defined signal 2"
  | 14 => "Alarm clock"
  | 15 => "Terminated"
  | n => "Signal " ++ Text.ofInt n

/-- What a signal does to a process that has not made provision for it. -/
inductive SignalEffect
  | nothing
  | stop
  | finish
deriving Repr, DecidableEq

def signalEffect (signal : Nat) : SignalEffect :=
  if signal = 0 ∨ signal = 17 ∨ signal = 18 ∨ signal = 23 ∨ signal = 28 then .nothing
  else if 19 ≤ signal ∧ signal ≤ 22 then .stop
  else .finish

/-- An octet of an expanded word: is it quoted, and does it come from the value of a parameter? There
may also be a field without any octet, and a place where one field ends and the next begins. -/
inductive Glyph
  | octet (c : Char) (quoted value : Bool)
  | filled
  | boundary
deriving Repr, DecidableEq

def valueGlyphs (quoted : Bool) (octets : List Char) : List Glyph :=
  let glyphs := octets.map fun c => Glyph.octet c quoted (!quoted)
  if quoted then .filled :: glyphs else glyphs

def glyphOctets (glyphs : List Glyph) : List Char :=
  glyphs.filterMap fun
    | .octet c _ _ => some c
    | .filled => none
    | .boundary => some ' '

/-- The glyphs as octets of a pattern. -/
def patternOctets (glyphs : List Glyph) : List PatternOctet :=
  glyphs.filterMap fun
    | .octet c quoted _ => some (c, quoted)
    | _ => none

/-- Fields that are being made: those that are done, the last one first, and the one under way with
its last octet first. -/
abbrev Fields := List (List Char) × Option (List Char)

/-- The field under way is done, if there is one. -/
def Fields.close : Fields → Fields
  | (done, some field) => (field.reverse :: done, none)
  | (done, none) => (done, none)

/-- The fields with one more glyph. Values are split at separators, of which blanks in a row count
once. -/
def Fields.add (separators : List Char) (fields : Fields) (glyph : Glyph) : Fields :=
  let (done, field) := fields
  match glyph with
  | .boundary => fields.close
  | .filled => (done, some (field.getD []))
  | .octet c quoted value =>
      if value && !quoted && separators.contains c then
        if field.isSome || isGap c || c = '\n' then fields.close
        else ([] :: done, none)
      else (done, some (c :: field.getD []))

def splitFields (separators : List Char) (glyphs : List Glyph) : List (List Char) :=
  let fields : Fields := glyphs.foldl (Fields.add separators) ([], none)
  fields.close.1.reverse

/-- The separators of fields where nothing else is set. -/
def standardSeparators : List Char := [' ', '\t', '\n']

/-- A message for an expression without a value. -/
def ArithmeticFault.message (expression : List Char) (fault : ArithmeticFault) : String :=
  let about (what : String) : String :=
    "arithmetic expression: " ++ what ++ ": \"" ++ String.ofList expression ++ "\""
  match fault with
  | .noPrimary => about "expecting primary"
  | .noEnd => about "expecting EOF"
  | .noClosing => about "expecting ')'"
  | .noColon => about "expecting ':'"
  | .zeroDivision => about "division by zero"
  | .illegalNumber text => "Illegal number: " ++ String.ofList text

end Muster.Shell
