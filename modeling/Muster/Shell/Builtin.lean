import Muster.Shell.Condition
import Muster.Shell.Machine
/-!
Builtins: commands that work on the shell itself, so far as they run no other command.
-/
namespace Muster.Shell

/-- Complains and gives up what the scope is doing, with a status that is not an error of the shell. -/
def complete (status : Nat) (halt : Halt) : Run Unit := do
  setStatus status
  throw halt

/-- The number that a builtin is called with, if it is called with one. -/
def countArgument (arguments : List (List Char)) (standard : Nat) : Run Nat := do
  match arguments with
  | [] => return standard
  | argument :: _ =>
      match decimal? argument with
      | some n => return n
      | none => giveUp ("Illegal number: " ++ String.ofList argument)

def joinWords (words : List (List Char)) : List Char :=
  (words.intersperse [' ']).flatten

/-- Says its arguments, in which escapes mean something. -/
def echo (arguments : List (List Char)) : Run Unit := do
  let (quiet, words) := match arguments with
    | ['-', 'n'] :: words => (true, words)
    | words => (false, words)
  let (octets, ended) := unescaped (joinWords words)
  write 1 (if quiet || ended then octets else octets ++ ['\n'])
  setStatus 0

/-- Says its arguments by a format. -/
def print (arguments : List (List Char)) : Run Unit := do
  match (if arguments.head? = some ['-', '-'] then arguments.drop 1 else arguments) with
  | [] => fail "usage: printf format [arg ...]" 2
  | format :: arguments =>
      let formatted := Shell.format format arguments
      write 1 formatted.output
      for complaint in formatted.complaints do complain (String.ofList complaint)
      setStatus formatted.status

/-- What conditions see of the files of a machine. -/
def Machine.view (machine : Machine) : FileView where
  isThere name :=
    directories.contains (machine.scope.path name) || (machine.file? name).isSome
  isDirectory name := directories.contains (machine.scope.path name)
  isRegular name := (machine.files.lookup (machine.scope.path name)).isSome
  size name := ((machine.file? name).getD []).length

def check (words : List (List Char)) : Run Unit := do
  match condition (← get).view words with
  | .ok holds => setStatus (if holds then 0 else 1)
  | .error message => fail message 2

/-- Asks whether a condition holds that ends with a bracket. -/
def checkBracketed (words : List (List Char)) : Run Unit := do
  if words.getLast? = some [']'] then check words.dropLast
  else fail "missing ]" 2

/-- The octets of a line, those behind a backslash marked, and the text behind the line if the line
ends. A backslash joins lines. -/
def takeLine (raw : Bool) : List Char → List (Char × Bool) × Option (List Char)
  | [] => ([], none)
  | '\n' :: rest => ([], some rest)
  | '\\' :: c :: rest =>
      if raw then
        let (line, behind) := takeLine raw (c :: rest)
        (('\\', false) :: line, behind)
      else
        let (line, behind) := takeLine raw rest
        (if c = '\n' then line else (c, true) :: line, behind)
  | c :: rest =>
      let (line, behind) := takeLine raw rest
      ((c, false) :: line, behind)

/-- The pieces of a line for some names. The last one gets all that is left. -/
def shareLine (separators : List Char) : List (List Char) → List (Char × Bool) →
    List (List Char × List Char)
  | [], _ => []
  | [name], line =>
      let isBlank (octet : Char × Bool) : Bool :=
        !octet.2 && separators.contains octet.1 && (isGap octet.1 || octet.1 = '\n')
      let rest := (line.dropWhile isBlank).reverse.dropWhile isBlank
      [(name, rest.reverse.map (·.1))]
  | name :: names, line =>
      let separates (octet : Char × Bool) : Bool := !octet.2 && separators.contains octet.1
      let isBlank (octet : Char × Bool) : Bool :=
        separates octet && (isGap octet.1 || octet.1 = '\n')
      let line := line.dropWhile isBlank
      let field := line.takeWhile (!separates ·)
      let behind := (line.drop field.length).dropWhile isBlank
      let behind := match behind with
        | octet :: rest =>
            if (line.drop field.length).head?.all isBlank then behind
            else if separates octet then rest else behind
        | [] => []
      (name, field.map (·.1)) :: shareLine separators names behind

/-- The separators of fields at present. -/
def separators : Run (List Char) := do
  return (← valueOf? "IFS".toList).getD standardSeparators

def read (arguments : List (List Char)) : Run Unit := do
  let raw := arguments.head? = some ['-', 'r']
  let names := if raw then arguments.drop 1 else arguments
  if names.isEmpty then fail "arg count" 2
  else match names.find? (!isName ·) with
    | some name => fail (String.ofList name ++ ": bad variable name") 2
    | none =>
        let (line, behind) := takeLine raw (← input)
        leaveInput (behind.getD [])
        for (name, value) in shareLine (← separators) names line do
          assign name value
        setStatus (if behind.isSome then 0 else 1)

/-- A value between quotes, as lists of variables show it. -/
def quotedValue (value : List Char) : List Char :=
  let inner := value.flatMap fun c => if c = '\'' then "'\"'\"'".toList else [c]
  '\'' :: inner ++ ['\'']

/-- Shows variables, with a word in front of each. -/
def showVariables (word : String) (names : List (List Char)) : Run Unit := do
  let bindings := (← scope).bindings
  for name in names.mergeSort (fun a b => !decide (b < a)) do
    let value := match bindings.lookup name with
      | some value => '=' :: quotedValue value
      | none => []
    write 1 (word.toList ++ name ++ value ++ ['\n'])
  setStatus 0

def optionLetter? (name : List Char) : Option Char :=
  match String.ofList name with
  | "errexit" => some 'e'
  | "nounset" => some 'u'
  | "xtrace" => some 'x'
  | "noglob" => some 'f'
  | "noexec" => some 'n'
  | "verbose" => some 'v'
  | "allexport" => some 'a'
  | "noclobber" => some 'C'
  | "notify" => some 'b'
  | "monitor" => some 'm'
  | _ => none

def switch (on : Bool) (letter : Char) : Run Unit := do
  if "euxfnvaCbm".contains letter then
    modifyScope fun scope =>
      let others := scope.options.filter (· ≠ letter)
      { scope with options := if on then letter :: others else others }
  else giveUp ("Illegal option -" ++ String.singleton letter)

/-- Takes options off the arguments of a shell or of the builtin that sets them. What comes back is
the rest, and whether the options were ended on purpose. -/
def switchAll : List (List Char) → Run (List (List Char) × Bool)
  | [] => return ([], false)
  | ['-', '-'] :: rest => return (rest, true)
  | (sign :: 'o' :: []) :: name :: rest => do
      if sign ≠ '-' ∧ sign ≠ '+' then return ((sign :: 'o' :: []) :: name :: rest, false)
      else match optionLetter? name with
        | some letter =>
            switch (sign = '-') letter
            switchAll rest
        | none => giveUp ("Illegal option -o " ++ String.ofList name)
  | (sign :: c :: letters) :: rest => do
      if sign ≠ '-' ∧ sign ≠ '+' then return ((sign :: c :: letters) :: rest, false)
      else
        for letter in c :: letters do switch (sign = '-') letter
        switchAll rest
  | rest => return (rest, false)

def setOptions (arguments : List (List Char)) : Run Unit := do
  if arguments.isEmpty then
    showVariables "" ((← scope).bindings.map (·.1))
  else
    let (rest, ended) ← switchAll arguments
    if ended || !rest.isEmpty then modifyScope ({ · with arguments := rest })
    setStatus 0

def shift (arguments : List (List Char)) : Run Unit := do
  let n ← countArgument arguments 1
  if (← scope).arguments.length < n then giveUp "can't shift that many"
  else
    modifyScope fun scope => { scope with arguments := scope.arguments.drop n }
    setStatus 0

/-- A name, and the value behind the equals sign if there is one. -/
def splitAssignment (word : List Char) : List Char × Option (List Char) :=
  let name := word.takeWhile (· ≠ '=')
  if name.length = word.length then (name, none) else (name, some (word.drop (name.length + 1)))

/-- Marks variables, some of which get values first. Without any, shows those that are marked. -/
def declare (word : String) (marked : Scope → List (List Char))
    (mark : List Char → Scope → Scope) (arguments : List (List Char)) : Run Unit := do
  if arguments.isEmpty ∨ arguments = [['-', 'p']] then
    showVariables (word ++ " ") (marked (← scope)).eraseDups
  else
    for argument in arguments do
      let (name, value) := splitAssignment argument
      if !isName name then giveUp (String.ofList argument ++ ": bad variable name")
      if let some value := value then assign name value
      modifyScope (mark name)
    setStatus 0

def unset (arguments : List (List Char)) : Run Unit := do
  match arguments with
  | ['-', 'f'] :: names =>
      modifyScope fun scope =>
        { scope with functions := scope.functions.filter fun (name, _) => !names.contains name }
      setStatus 0
  | _ =>
      let names := if arguments.head? = some ['-', 'v'] then arguments.drop 1 else arguments
      for name in names do
        if !isName name then giveUp (String.ofList name ++ ": bad variable name")
        if (← scope).constants.contains name then giveUp (String.ofList name ++ ": is read only")
        restore name none
        modifyScope fun scope => { scope with exported := scope.exported.filter (· ≠ name) }
      setStatus 0

/-- Makes variables a function's own. -/
def makeLocal (arguments : List (List Char)) : Run Unit := do
  if (← scope).locals.isNone then giveUp "not in a function"
  for argument in arguments do
    let (name, value) := splitAssignment argument
    if !isName name then giveUp (String.ofList argument ++ ": bad variable name")
    let before ← valueOf? name
    modifyScope fun scope =>
      let locals := scope.locals.getD []
      let more := if (locals.lookup name).isSome then locals else (name, before) :: locals
      { scope with locals := some more }
    if let some value := value then assign name value
  setStatus 0

def changeDirectory (arguments : List (List Char)) : Run Unit := do
  let scope ← scope
  let back := arguments.head? = some ['-']
  let target := match arguments with
    | [] => (scope.bindings.lookup "HOME".toList).getD scope.directory
    | name :: _ =>
        if back then (scope.bindings.lookup "OLDPWD".toList).getD scope.directory else name
  let path := if target = "..".toList then
      let above := scope.directory.reverse.dropWhile (· ≠ '/') |>.drop 1
      if above.isEmpty then ['/'] else above.reverse
    else scope.path target
  if directories.contains path then
    modifyScope ({ · with directory := path })
    assign "OLDPWD".toList scope.directory
    assign "PWD".toList path
    if back then write 1 (path ++ ['\n'])
    setStatus 0
  else fail ("can't cd to " ++ String.ofList target) 2

/-- A signal reaches the present process. -/
def receive (signal : Nat) : Run Unit := do
  let scope ← scope
  let trap := if signal = 9 then none else scope.traps.lookup signal
  match trap with
  | some action =>
      if !action.isEmpty then
        modifyScope fun scope => { scope with arrived := scope.arrived ++ [signal] }
  | none =>
      match signalEffect signal with
      | .nothing => return ()
      | .stop => throw .stuck
      | .finish => throw (.killed scope.process signal)

/-- Sends a signal to a process. The answer tells whether there is such a process. -/
def send (signal : Nat) (target : List Char) : Run Bool := do
  match decimal? target with
  | none =>
      if target.head? = some '-' then
        receive signal
        return true
      else
        complain ("Illegal number: " ++ String.ofList target)
        return false
  | some process =>
      let machine ← get
      if process = machine.scope.process then
        receive signal
        return true
      else if process = 0 ∨ machine.scope.parents.contains process then
        if signalEffect signal = .finish then
          throw (.killed (if process = 0 then machine.scope.parents.getLastD
            machine.scope.process else process) signal)
        return true
      else if machine.jobs.any (·.number = process) then
        if signalEffect signal = .finish then
          modify fun machine =>
            { machine with
              jobs := machine.jobs.filter (·.number ≠ process)
              ended := (process, 128 + signal) :: machine.ended }
        return true
      else
        complain "No such process\n"
        return false

def kill (arguments : List (List Char)) : Run Unit := do
  let usage := "Usage: kill [-s sigspec | -signum | -sigspec] [pid | job]... or\nkill -l [exitstatus]"
  let sendAll (signal : Nat) (targets : List (List Char)) : Run Unit := do
    if targets.isEmpty then fail usage 2
    else
      let mut status := 0
      for target in targets do
        if !(← send signal target) then status := 1
      setStatus status
  let toTargets (rest : List (List Char)) : List (List Char) :=
    if rest.head? = some ['-', '-'] then rest.drop 1 else rest
  match arguments with
  | ['-', 'l'] :: rest =>
      match rest with
      | number :: _ =>
          let n := (decimal? number).getD 0
          match signals.find? (·.2 = if 128 < n then n - 128 else n) with
          | some (name, _) => write 1 (name ++ "\n").toList
          | none => fail ("Illegal number: " ++ String.ofList number) 2
      | [] =>
          write 1 ('0' :: '\n' :: (signals.flatMap fun (name, _) => (name ++ "\n").toList))
      setStatus 0
  | ['-', 's'] :: name :: rest =>
      match signal? name with
      | some signal => sendAll signal (toTargets rest)
      | none => fail ("invalid signal number or name: " ++ String.ofList name) 2
  | ['-', '-'] :: rest => sendAll 15 rest
  | ('-' :: c :: name) :: rest =>
      match signal? (c :: name) with
      | some signal => sendAll signal (toTargets rest)
      | none => fail ("Illegal option -" ++ String.singleton c) 2
  | targets => sendAll 15 targets

/-- The signal that a trap is set for; zero stands for the end of the shell. -/
def trapSignal? (name : List Char) : Option Nat :=
  if (String.ofList name).toUpper = "EXIT" then some 0 else signal? name

def setTraps (arguments : List (List Char)) : Run Unit := do
  let arguments := if arguments.head? = some ['-', '-'] then arguments.drop 1 else arguments
  let change (names : List (List Char)) (action : Option (List Char)) : Run Unit := do
    for name in names do
      match trapSignal? name with
      | none =>
          write 2 ("trap: ".toList ++ name ++ ": bad trap\n".toList)
          setStatus 1
          return
      | some signal =>
          modifyScope fun scope =>
            let others := scope.traps.filter (·.1 ≠ signal)
            { scope with traps := match action with
              | some action => (signal, action) :: others
              | none => others }
    setStatus 0
  match arguments with
  | [] =>
      for (signal, action) in (← scope).traps.mergeSort (fun a b => a.1 ≤ b.1) do
        let name := ((signals.find? (·.2 = signal)).map (·.1)).getD "EXIT"
        write 1 ("trap -- ".toList ++ quotedValue action ++ (" " ++ name ++ "\n").toList)
      setStatus 0
  | [name] => change [name] none
  | ['-'] :: names => change names none
  | action :: names =>
      if (decimal? action).isSome then change (action :: names) none else change names (some action)

def exit (arguments : List (List Char)) : Run Unit := do
  complete ((← countArgument arguments (← scope).status) % 256) .exit

def return? (arguments : List (List Char)) : Run Unit := do
  complete (← countArgument arguments (← scope).status) .back

/-- Leaves loops, or begins another round of one. Outside of loops nothing happens. -/
def skip (halt : Nat → Halt) (arguments : List (List Char)) : Run Unit := do
  let n ← countArgument arguments 1
  let loops := (← scope).loops
  setStatus 0
  if n = 0 then giveUp "Illegal number: 0"
  if loops ≠ 0 then throw (halt (min n loops))

/-- The builtins whose failure ends the shell, and whose assignments stay. -/
def isSpecialBuiltin (name : String) : Bool :=
  [":", ".", "break", "continue", "eval", "exec", "exit", "export", "readonly", "return", "set",
    "shift", "times", "trap", "unset"].contains name

def builtin? (name : String) : Option (List (List Char) → Run Unit) :=
  match name with
  | ":" | "true" => some fun _ => setStatus 0
  | "false" => some fun _ => setStatus 1
  | "echo" => some echo
  | "printf" => some print
  | "test" => some check
  | "[" => some checkBracketed
  | "read" => some read
  | "set" => some setOptions
  | "shift" => some shift
  | "export" => some (declare name (·.exported) fun name scope =>
      { scope with exported := name :: scope.exported })
  | "readonly" => some (declare name (·.constants) fun name scope =>
      { scope with constants := name :: scope.constants })
  | "unset" => some unset
  | "local" => some makeLocal
  | "cd" => some changeDirectory
  | "pwd" => some fun _ => do
      write 1 ((← scope).directory ++ ['\n'])
      setStatus 0
  | "umask" => some fun arguments => do
      if arguments.isEmpty then write 1 "0022\n".toList
      setStatus 0
  | "times" => some fun _ => do
      let line := "0m0.000000s 0m0.000000s\n"
      write 1 (line ++ line).toList
      setStatus 0
  | "kill" => some kill
  | "trap" => some setTraps
  | "exit" => some exit
  | "return" => some return?
  | "break" => some (skip .leave)
  | "continue" => some (skip .again)
  | _ => none

end Muster.Shell
