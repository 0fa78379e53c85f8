import Muster.Shell.Builtin
/-!
Running scripts. Words are expanded, redirections opened, and commands carried out, in functions that
call one another with ever less fuel; the fuel bounds how deep commands lie within one another, and a
loop is bounded by the time that is left.
-/
namespace Muster.Shell

/-- Runs something in a scope that is left behind. What comes back is its status. Only a signal that
ends another process and a lack of time go further. -/
def apart (enter : Scope → Scope) (run : Run Unit) : Run Nat := do
  let outer ← scope
  modifyScope enter
  let halt ← attempt run
  let status := (← scope).status
  modifyScope fun _ => outer
  match halt with
  | some (.killed process signal) => throw (.killed process signal)
  | some .stuck => throw .stuck
  | _ => return status

/-- The scope of a subshell. Traps do not reach into it. -/
def Scope.below (scope : Scope) : Scope :=
  { scope with traps := [], arrived := [] }

/-- Runs a round of a loop. The answer tells whether there may be another one. -/
def goesOn (round : Run Unit) : Run Bool := do
  let outer ← scope
  let halt ← attempt round
  modifyScope ({ · with testing := outer.testing, loops := outer.loops })
  match halt with
  | none => return true
  | some (.leave loops) => if 1 < loops then throw (.leave (loops - 1)) else return false
  | some (.again loops) => if 1 < loops then throw (.again (loops - 1)) else return true
  | some halt => throw halt

/-- Ends the shell after a failure, if it is to end then and the failure was not asked about. -/
def exitOnFailure : Run Unit := do
  let scope ← scope
  if scope.status ≠ 0 ∧ !scope.testing ∧ scope.options.contains 'e' then throw .exit

/-- Runs something whose failure is asked about. -/
def asking (asks : Bool) (run : Run Unit) : Run Unit := do
  let outer := (← scope).testing
  modifyScope ({ · with testing := outer || asks })
  run
  modifyScope ({ · with testing := outer })

/-- Runs something inside of one more loop. -/
def looping (run : Run Unit) : Run Unit := do
  let loops := (← scope).loops
  modifyScope ({ · with loops := loops + 1 })
  run
  modifyScope ({ · with loops })

def Scope.parameter? (scope : Scope) (name : List Char) : Option (List Char) :=
  let number (n : Nat) : List Char := Text.natDigits n
  match String.ofList name with
  | "#" => some (number scope.arguments.length)
  | "?" => some (number scope.status)
  | "$" => some (number scope.process)
  | "!" => scope.latestJob.map number
  | "-" => some scope.options
  | "0" => some scope.name
  | "@" | "*" => if scope.arguments.isEmpty then none else some (joinWords scope.arguments)
  | "LINENO" => some (number scope.line)
  | "PPID" => some (number (scope.parents.headD 1))
  | _ =>
      match decimal? name with
      | some n => scope.arguments[n - 1]?
      | none => scope.bindings.lookup name

def Scope.parameterGlyphs (scope : Scope) (quoted : Bool) (name : List Char) : List Glyph :=
  let each := (scope.arguments.map (valueGlyphs quoted)).intersperse [.boundary] |>.flatten
  if name = ['@'] ∨ (name = ['*'] ∧ !quoted) then each
  else if name = ['*'] then
    let separators := (scope.bindings.lookup "IFS".toList).getD standardSeparators
    valueGlyphs true ((scope.arguments.intersperse (separators.take 1)).flatten)
  else valueGlyphs quoted ((scope.parameter? name).getD [])

/-- A glyph that is to be split as if it came from a value. -/
def Glyph.asValue : Glyph → Glyph
  | .octet c quoted _ => .octet c quoted (!quoted)
  | glyph => glyph

/-- An output without the line breaks at its end, as it takes the place of its substitution. -/
def substituteText (octets : List Char) : List Char :=
  let octets := octets.filter (· ≠ '\x00')
  (octets.reverse.dropWhile (· = '\n')).reverse

def connect (number : Nat) (stream : Stream) : Run Unit :=
  modifyScope fun scope => { scope with streams := put number stream scope.streams }

/-- Does this path lie in a directory that is there? -/
def isPlaced (path : List Char) : Bool :=
  let above := path.reverse.dropWhile (· ≠ '/') |>.drop 1
  directories.contains (if above.isEmpty then ['/'] else above.reverse)

/-- Opens a stream by name. The answer is what is wrong, if anything is. -/
def openStream (number : Nat) (opening : Opening) (name : List Char) : Run (Option String) := do
  let machine ← get
  let path := machine.scope.path name
  match opening with
  | .here =>
      connect number (← openSource name)
      return none
  | .copy =>
      if name = ['-'] then
        modifyScope fun scope => { scope with streams := scope.streams.filter (·.1 ≠ number) }
        return none
      else
        match (decimal? name).bind fun n => machine.scope.streams.lookup n with
        | some stream =>
            connect number stream
            return none
        | none => return some (String.ofList name ++ ": Bad file descriptor")
  | .read =>
      match machine.file? name with
      | some octets =>
          connect number (← openSource octets)
          return none
      | none => return some ("cannot open " ++ String.ofList name ++ ": No such file")
  | .write | .append =>
      match String.ofList path with
      | "/dev/null" =>
          connect number .nowhere
          return none
      | "/dev/stdout" =>
          connect number ((machine.scope.streams.lookup 1).getD .nowhere)
          return none
      | "/dev/stderr" =>
          connect number ((machine.scope.streams.lookup 2).getD .nowhere)
          return none
      | _ =>
          if directories.contains path then
            return some ("cannot create " ++ String.ofList name ++ ": Is a directory")
          else if !isPlaced path then
            return some ("cannot create " ++ String.ofList name ++ ": Directory nonexistent")
          else
            match opening, machine.files.lookup path with
            | .append, some sink =>
                connect number (.sink sink)
                return none
            | _, _ =>
                let sink ← openSink
                modify fun machine => { machine with files := put path sink machine.files }
                connect number (.sink sink)
                return none

/-- A command line as it is shown before it runs. -/
def trace (assignments : List (List Char × List Char)) (words : List (List Char)) : Run Unit := do
  if (← scope).options.contains 'x' then
    let shown := assignments.map fun (name, value) => name ++ '=' :: value
    write 2 ('+' :: ' ' :: joinWords (shown ++ words) ++ ['\n'])

def programName (name : List Char) : Option String :=
  let base := (name.reverse.takeWhile (· ≠ '/')).reverse
  if base.length = name.length then some (String.ofList name)
  else if ["/bin/".toList, "/usr/bin/".toList].contains (name.take (name.length - base.length)) then
    some (String.ofList base)
  else none

/-- The builtins that are also there as programs. -/
def isProgram (name : String) : Bool :=
  ["true", "false", "echo", "printf", "test", "[", "kill", "pwd"].contains name

/-- Complains of a name that no program has. What is there but cannot be run is another matter. -/
def refuseProgram (name : List Char) : Run Unit := do
  let view := (← get).view
  let shown := String.ofList name
  if name.isEmpty then fail ": Permission denied" 127
  else if name.contains '/' ∧ view.isThere name then fail (shown ++ ": Permission denied") 126
  else fail (shown ++ ": not found") 127

def runUtility (name : String) (utility : Call → Outcome) (arguments : List (List Char)) :
    Run Unit := do
  let machine ← get
  let reads := readsInput name
  let given ← if reads then input else pure []
  let outcome := utility { arguments, input := given, file? := machine.file? }
  if outcome.endless ∧ !machine.scope.piped then throw .stuck
  if reads then leaveInput []
  write 1 outcome.output
  write 2 outcome.errors
  pass (1000 + outcome.micros)
  setStatus outcome.status

/-- The words of a script that has to be run in a shell of its own: its options, the script and the
arguments behind it. -/
structure Invocation where
  options : List Char := []
  script : Option (List Char)
  words : List (List Char)

/-- What a shell is called for. Without an option that gives the script, the first word names a file
with it, and without any word it is in the input. -/
def invocation : List (List Char) → Option Invocation
  | ('-' :: c :: letters) :: rest =>
      if (c :: letters).contains 'c' then
        match rest with
        | script :: words => some ⟨(c :: letters).filter (· ≠ 'c'), some script, words⟩
        | [] => none
      else (invocation rest).map fun inner => { inner with options := c :: letters ++ inner.options }
  | words => some ⟨[], none, words⟩

/-- The scope that a new shell begins with: variables that are exported, streams and place. -/
def Scope.newShell (scope : Scope) (process : Nat) (parents : List Nat) : Scope :=
  { process
    parents
    bindings := scope.bindings.filter fun (name, _) => scope.exported.contains name
    exported := scope.exported
    streams := scope.streams
    directory := scope.directory }

mutual

def expand : Nat → Word → Run (List Glyph)
  | 0, _ => throw .stuck
  | fuel + 1, word => do
      let mut glyphs := []
      for part in word do
        glyphs := glyphs ++ (← expandPart fuel part)
      return glyphs

def expandPart : Nat → Part → Run (List Glyph)
  | 0, _ => throw .stuck
  | fuel + 1, part =>
      match part with
      | .text quoted octets =>
          let glyphs := octets.map fun c => Glyph.octet c quoted false
          return if quoted then .filled :: glyphs else glyphs
      | .parameter quoted name treatment emptyCounts word =>
          expandParameter fuel quoted name treatment emptyCounts word
      | .substitution quoted script => do
          let sink ← openSink
          let status ← apart (fun scope =>
            { scope.below with streams := put 1 (.sink sink) scope.streams }) (runInner fuel script)
          modifyScope ({ · with substituted := some status })
          return valueGlyphs quoted (substituteText (← written sink))
      | .arithmetic quoted parts => do
          let expression := glyphOctets (← expand fuel parts)
          match evaluate expression (← scope).bindings with
          | .error fault => giveUp (fault.message expression)
          | .ok (value, bindings) =>
              modifyScope ({ · with bindings })
              return valueGlyphs quoted (numberText value)

def expandParameter : Nat → Bool → List Char → Treatment → Bool → Word → Run (List Glyph)
  | 0, _, _, _, _, _ => throw .stuck
  | fuel + 1, quoted, name, treatment, emptyCounts, word => do
      let scope ← scope
      let value := scope.parameter? name
      let present := value.any fun value => !(emptyCounts && value.isEmpty)
      let all := name = ['@'] || name = ['*']
      let itself := scope.parameterGlyphs quoted name
      let other : Run (List Glyph) := do
        let glyphs ← expand fuel word
        return if quoted then .filled :: glyphs else glyphs.map Glyph.asValue
      let unset := "parameter not set"
      let cut (drop : List Glob → List Char → List Char) : Run (List Glyph) := do
        let pattern := Glob.ofOctets (patternOctets (← expand fuel word))
        return valueGlyphs quoted (drop pattern (value.getD []))
      if name.isEmpty then giveUp "Bad substitution"
      match treatment with
      | .plain =>
          if value.isNone ∧ !all ∧ scope.options.contains 'u' then
            giveUp (String.ofList name ++ ": " ++ unset)
          else return itself
      | .length =>
          let length := if all then scope.arguments.length else (value.getD []).length
          return valueGlyphs quoted (Text.natDigits length)
      | .orElse => if present then return itself else other
      | .orAssign =>
          if present then return itself
          else
            let text := glyphOctets (← expand fuel word)
            assign name text
            return valueGlyphs quoted text
      | .orFail =>
          if present then return itself
          else
            let text := glyphOctets (← expand fuel word)
            let message := if !text.isEmpty then String.ofList text
              else if emptyCounts then unset ++ " or null" else unset
            giveUp (String.ofList name ++ ": " ++ message)
      | .ifSet => if present then other else return valueGlyphs quoted []
      | .withoutPrefix longest => cut (dropFitting longest)
      | .withoutSuffix longest => cut (dropFittingEnd longest)

/-- The octets of a word that stays in one piece. -/
def expandWhole : Nat → Word → Run (List Char)
  | 0, _ => throw .stuck
  | fuel + 1, word => do
      return glyphOctets (← expand fuel word)

def expandFields : Nat → List Word → Run (List (List Char))
  | 0, _ => throw .stuck
  | fuel + 1, words => do
      let mut fields := []
      for word in words do
        let glyphs ← expand fuel word
        fields := fields ++ splitFields (← separators) glyphs
      return fields

/-- Opens streams one after the other. What cannot be opened is complained about; the answer tells
whether all went well. -/
def openAll : Nat → List Redirection → Run Bool
  | 0, _ => throw .stuck
  | fuel + 1, redirections => do
      for .mk number opening target in redirections do
        let name ← expandWhole fuel target
        if let some message ← openStream number opening name then
          fail message 2
          return false
      return true

def redirecting : Nat → List Redirection → Run Unit → Run Unit
  | 0, _, _ => throw .stuck
  | fuel + 1, redirections, run => do
      if redirections.isEmpty then run
      else
        let { streams, .. } ← scope
        let halt ← attempt (do if ← openAll fuel redirections then run)
        modifyScope ({ · with streams })
        if let some halt := halt then throw halt

/-- Runs a script in a subshell, and what it has set for its end. -/
def runInner : Nat → Script → Run Unit
  | 0, _ => throw .stuck
  | fuel + 1, script => toItsEnd fuel (runSteps fuel script)

/-- Runs something, and then the trap for the end of the shell. -/
def toItsEnd : Nat → Run Unit → Run Unit
  | 0, _ => throw .stuck
  | fuel + 1, run => do
      match ← attempt run with
      | some (.killed process signal) => throw (.killed process signal)
      | some .stuck => throw .stuck
      | _ =>
          let scope ← scope
          match scope.traps.lookup 0 with
          | none => return ()
          | some action =>
              modifyScope ({ · with traps := scope.traps.filter (·.1 ≠ 0) })
              runText fuel action
              setStatus scope.status

def runSteps : Nat → Script → Run Unit
  | 0, _ => throw .stuck
  | fuel + 1, script => do
      let followers := (script.drop 1).map fun | .mk link _ _ => link ≠ .always
      for (.mk link negated pipeline, followed) in script.zip (followers ++ [false]) do
        let { status, .. } ← scope
        let due := match link with
          | .always => true
          | .ifSuccess => status = 0
          | .ifFailure => status ≠ 0
        if due then
          asking (negated || followed) (runPipeline fuel pipeline)
          if negated then
            setStatus (if (← scope).status = 0 then 1 else 0)

/-- Runs a pipeline. Its commands run at the same time, each in a subshell. -/
def runPipeline : Nat → List Command → Run Unit
  | 0, _ => throw .stuck
  | fuel + 1, pipeline => do
      match pipeline with
      | [command] => runCommand fuel command
      | _ =>
          let started := (← get).elapsed
          let mut ended := started
          let mut source := (← scope).streams.lookup 0
          let mut status := 0
          for (command, i) in pipeline.zipIdx do
            let sink ← openSink
            let isLast := i + 1 = pipeline.length
            modify ({ · with elapsed := started })
            let feed := source
            status ← apart (fun scope =>
              let streams := feed.elim scope.streams (put 0 · scope.streams)
              { scope.below with
                piped := scope.piped || !isLast
                streams := if isLast then streams else put 1 (.sink sink) streams })
              (toItsEnd fuel (runCommand fuel command))
            ended := max ended (← get).elapsed
            source := some (← openSource (← written sink))
          modify ({ · with elapsed := ended })
          setStatus status
          exitOnFailure

def runCommand : Nat → Command → Run Unit
  | 0, _ => throw .stuck
  | fuel + 1, command => do
      match command with
      | .simple below assignments words redirections =>
          pass 4
          modifyScope fun scope => { scope with line := scope.lines - below + 1 }
          runSimple fuel assignments words redirections
          runTraps fuel
          exitOnFailure
      | .group body redirections => redirecting fuel redirections (runSteps fuel body)
      | .subshell body redirections =>
          redirecting fuel redirections (do
            setStatus (← apart Scope.below (runInner fuel body)))
          exitOnFailure
      | .choice branches otherwise redirections =>
          redirecting fuel redirections (runChoice fuel branches otherwise)
      | .loop untilSuccess test body redirections =>
          redirecting fuel redirections (looping (runLoop fuel untilSuccess test body))
      | .each name items body redirections =>
          redirecting fuel redirections (looping do
            let { arguments, .. } ← scope
            let values ← match items with
              | some words => expandFields fuel words
              | none => pure arguments
            setStatus 0
            for value in values do
              assign name value
              if !(← goesOn (runSteps fuel body)) then return)
      | .select subject clauses redirections =>
          redirecting fuel redirections (runSelect fuel subject clauses)
      | .define name body =>
          modifyScope fun scope => { scope with functions := put name body scope.functions }
          setStatus 0
      | .background body =>
          let number ← freshNumber
          let input ← openSource []
          modify fun machine =>
            let streams := put 0 input machine.scope.streams
            let scope := { machine.scope.below with streams }
            { machine with jobs := machine.jobs ++ [⟨number, scope, body, machine.elapsed⟩] }
          modifyScope ({ · with latestJob := some number })
          setStatus 0

/-- Runs the first branch whose test succeeds, or what is to be done otherwise. -/
def runChoice : Nat → List (Script × Script) → Script → Run Unit
  | 0, _, _ => throw .stuck
  | fuel + 1, branches, otherwise => do
      for (test, body) in branches do
        asking true (runSteps fuel test)
        if (← scope).status = 0 then
          runSteps fuel body
          return
      setStatus 0
      runSteps fuel otherwise

def runLoop : Nat → Bool → Script → Script → Run Unit
  | 0, _, _, _ => throw .stuck
  | fuel + 1, untilSuccess, test, body => do
      let machine ← get
      let mut status := 0
      for _ in [0:machine.limit - machine.elapsed + 1] do
        pass 1
        if !(← goesOn (asking true (runSteps fuel test))) then return
        if ((← scope).status = 0) = untilSuccess then
          setStatus status
          return
        if !(← goesOn (runSteps fuel body)) then return
        status := (← scope).status
      throw .stuck

/-- Runs the first clause with a pattern that stands for the subject. -/
def runSelect : Nat → Word → List (List Word × Script) → Run Unit
  | 0, _, _ => throw .stuck
  | fuel + 1, subject, clauses => do
      let text ← expandWhole fuel subject
      setStatus 0
      for (patterns, body) in clauses do
        for pattern in patterns do
          let pattern := Glob.ofOctets (patternOctets (← expand fuel pattern))
          if fits pattern text then
            runSteps fuel body
            return

/-- Runs a simple command. Without a name it sets variables; otherwise its assignments hold for the
command only, unless it is a special builtin. -/
def runSimple : Nat → List (List Char × Word) → List Word → List Redirection → Run Unit
  | 0, _, _, _ => throw .stuck
  | fuel + 1, assignments, words, redirections => do
      modifyScope ({ · with substituted := none })
      let fields ← expandFields fuel words
      let name := String.ofList (fields.headD [])
      let special := isSpecialBuiltin name
      let assignAll (assigned : List (List Char × List Char)) : Run Unit := do
        for (name, value) in assigned do assign name value
      let calling (run : Run Unit) : Run Unit := do
        let outer := (← scope).calling
        modifyScope ({ · with calling := if special || (builtin? name).isSome then name ++ ": " else outer })
        let halt ← attempt run
        modifyScope ({ · with calling := outer })
        if let some halt := halt then throw halt
      if fields.isEmpty then
        let mut assigned := []
        for (name, word) in assignments do
          let value ← expandWhole fuel word
          assign name value
          assigned := assigned ++ [(name, value)]
        if !assigned.isEmpty then trace assigned []
        setStatus ((← scope).substituted.getD 0)
        redirecting fuel redirections (pure ())
      else
        let assigned ← assignments.mapM fun (name, word) => do
          return (name, ← expandWhole fuel word)
        trace assigned fields
        if name = "exec" then
          if ← openAll fuel redirections then
            assignAll assigned
            calling (runNamed fuel false fields)
          else throw .exit
        else if special then
          let { streams, .. } ← scope
          let opened ← openAll fuel redirections
          if opened then
            assignAll assigned
            let halt ← attempt (calling (runNamed fuel false fields))
            modifyScope ({ · with streams })
            if let some halt := halt then throw halt
          else
            modifyScope ({ · with streams })
            throw .exit
        else
          let outer ← scope
          redirecting fuel redirections (do
            assignAll assigned
            modifyScope fun scope =>
              { scope with exported := assigned.map (·.1) ++ scope.exported }
            calling (runNamed fuel false fields)
            for (name, _) in assigned do
              restore name (outer.bindings.lookup name)
            if !assigned.isEmpty then modifyScope ({ · with exported := outer.exported }))

/-- Runs what a name stands for: a function, a builtin or a program. -/
def runNamed : Nat → Bool → List (List Char) → Run Unit
  | 0, _, _ => throw .stuck
  | _ + 1, _, [] => return ()
  | fuel + 1, withoutFunctions, word :: arguments => do
      let name := String.ofList word
      let { functions, .. } ← scope
      let function := if withoutFunctions then none else functions.lookup word
      match name, function with
      | "eval", _ =>
          let { lines, line, .. } ← scope
          setStatus 0
          runText fuel (joinWords arguments)
          modifyScope ({ · with lines, line })
      | "exec", _ =>
          if !arguments.isEmpty then
            modifyScope ({ · with traps := [] })
            runProgram fuel true arguments
            throw .exit
      | ".", _ =>
          let file := arguments.headD []
          match (← get).file? file with
          | some text => runText fuel text
          | none => giveUp ("cannot open " ++ String.ofList file ++ ": No such file")
      | _, some body => callFunction fuel body arguments
      | "command", none =>
          match arguments with
          | ['-', 'v'] :: names =>
              let known (name : List Char) : Bool :=
                let name := String.ofList name
                isSpecialBuiltin name || (builtin? name).isSome || (utility? name).isSome ||
                  name = "sh"
              write 1 (joinLines (names.filter known))
              setStatus (if names.all known then 0 else 127)
          | _ => runNamed fuel true arguments
      | "wait", none =>
          runJobs fuel
          let { ended, .. } ← get
          setStatus (arguments.foldl (fun _ number =>
            ((decimal? number).bind fun n => ended.lookup n).getD 127) 0)
      | _, none =>
          match builtin? name with
          | some run => run arguments
          | none => runProgram fuel false (word :: arguments)

def callFunction : Nat → Command → List (List Char) → Run Unit
  | 0, _, _ => throw .stuck
  | fuel + 1, body, arguments => do
      let outer ← scope
      if 1000 ≤ outer.calls then giveUp "Maximum function recursion depth (1000) reached"
      modifyScope ({ · with
        arguments, locals := some [], loops := 0, calls := outer.calls + 1 })
      let halt ← attempt (runCommand fuel body)
      for (name, value) in (← scope).locals.getD [] do restore name value
      modifyScope ({ · with
        arguments := outer.arguments, locals := outer.locals, loops := outer.loops
        calls := outer.calls, testing := outer.testing })
      match halt with
      | none | some .back => return ()
      | some halt => throw halt

/-- Runs a program, possibly in place of the present process. -/
def runProgram : Nat → Bool → List (List Char) → Run Unit
  | 0, _, _ => throw .stuck
  | _ + 1, _, [] => return ()
  | fuel + 1, inPlace, word :: arguments => do
      match programName word with
      | some "sh" =>
          match invocation arguments with
          | some called => runShell fuel inPlace called
          | none => write 2 "sh: 0: -c requires an argument\n".toList; setStatus 2
      | some name =>
          match utility? name, builtin? name with
          | some utility, _ =>
              settleJobs fuel ((← get).elapsed + (if name = "sleep" then
                (arguments.filterMap micros?).sum else 0))
              runUtility name utility arguments
          | none, some run => if isProgram name then run arguments else refuseProgram word
          | none, none => refuseProgram word
      | none => refuseProgram word

/-- Runs a script in a shell of its own. -/
def runShell : Nat → Bool → Invocation → Run Unit
  | 0, _, _ => throw .stuck
  | fuel + 1, inPlace, called => do
      pass 1000
      let outer ← scope
      let process ← if inPlace then pure outer.process else freshNumber
      let parents := if inPlace then outer.parents else outer.process :: outer.parents
      let text ← match called.script, called.words with
        | some script, _ => pure script
        | none, file :: _ => pure (((← get).file? file).getD [])
        | none, [] => do
            let text ← input
            leaveInput []
            pure text
      let name := if called.script.isNone ∧ called.words.isEmpty then "sh".toList
        else called.words.headD "sh".toList
      let enter (scope : Scope) : Scope :=
        { scope.newShell process parents with
          name, arguments := called.words.drop 1, options := called.options }
      let run := apart enter (toItsEnd fuel (runText fuel text))
      try
        setStatus (← run)
      catch halt =>
        match halt with
        | .killed target signal =>
            if target = process ∧ !inPlace then
              if signal ≠ 2 ∧ signal ≠ 13 then write 2 (signalText signal ++ "\n").toList
              setStatus (128 + signal)
            else throw halt
        | _ => throw halt

/-- Runs a text line by line. -/
def runText : Nat → List Char → Run Unit
  | 0, _ => throw .stuck
  | fuel + 1, text => do
      let lines := text.count '\n'
      modifyScope ({ · with lines })
      let mut rest := text
      for _ in [0:text.length + 1] do
        let start := skipLines rest.length rest
        if start.isEmpty then return
        match (readRow (8 * start.length + 64)).run start with
        | .ok (script, behind) =>
            runSteps fuel script
            modifyScope ({ · with lines })
            rest := behind
        | .error (fault, left) =>
            modifyScope ({ · with line := lines - left.count '\n' + 1 })
            giveUp fault.message

/-- Does what is to be done for the signals that have arrived. -/
def runTraps : Nat → Run Unit
  | 0 => throw .stuck
  | fuel + 1 => do
      let scope ← scope
      modifyScope ({ · with arrived := [] })
      for signal in scope.arrived do
        let { lines, line, status, .. } ← Shell.scope
        runText fuel ((scope.traps.lookup signal).getD [])
        modifyScope ({ · with lines, line, status })

/-- Runs a job in the background from its beginning on. -/
def runJob : Nat → Job → Run Unit
  | 0, _ => throw .stuck
  | fuel + 1, job => do
      let now := (← get).elapsed
      modify ({ · with elapsed := job.started })
      let status ← apart (fun _ => job.scope) (runInner fuel job.body)
      modify fun machine =>
        { machine with
          elapsed := max now machine.elapsed
          ended := (job.number, status) :: machine.ended }

/-- Runs all jobs in the background to their end. -/
def runJobs : Nat → Run Unit
  | 0 => throw .stuck
  | fuel + 1 => do
      let { jobs, .. } ← get
      modify ({ · with jobs := [] })
      for job in jobs do runJob fuel job

/-- Runs the jobs that come to their end before a time. -/
def settleJobs : Nat → Nat → Run Unit
  | 0, _ => throw .stuck
  | fuel + 1, time => do
      let { jobs, .. } ← get
      modify ({ · with jobs := [] })
      for job in jobs do
        let before ← get
        let halt ← attempt (runJob fuel job)
        if halt.isSome ∨ time < (← get).elapsed then
          set { before with jobs := before.jobs ++ [job] }

end

end Muster.Shell
