import Muster.Shell.Script
/-!
Reading scripts. The reader works on the text that is left, and every function returns what it read
and the rest. A document that is given in place follows the line that mentions it, and is cut out of
the text at the mention.
-/
namespace Muster.Shell

/-- A blank between the words of a line. -/
def isGap (c : Char) : Bool :=
  c = ' ' || c = '\t'

def endsWord (c : Char) : Bool :=
  isGap c || c = '\n' || c = ';' || c = '&' || c = '|' || c = '<' || c = '>' || c = '(' || c = ')'

def isNameStart (c : Char) : Bool :=
  c.isAlpha || c = '_'

def isNamePart (c : Char) : Bool :=
  c.isAlphanum || c = '_'

def isName : List Char → Bool
  | [] => false
  | c :: rest => isNameStart c && rest.all isNamePart

/-- A parameter with a name of one octet that is not alphabetic. -/
def isSpecial (c : Char) : Bool :=
  "@*#?-$!".contains c

/-- Skips blanks, joined lines and a comment. -/
def skipGaps : List Char → List Char
  | '\\' :: '\n' :: rest => skipGaps rest
  | '#' :: rest => rest.dropWhile (· ≠ '\n')
  | c :: rest => if isGap c then skipGaps rest else c :: rest
  | [] => []

/-- Skips lines without any command. -/
def skipLines : Nat → List Char → List Char
  | 0, text => text
  | fuel + 1, text =>
      match skipGaps text with
      | '\n' :: rest => skipLines fuel rest
      | text => text

/-- The text in front of a closing parenthesis that belongs to none inside, and the rest behind
it. -/
def untilClosing : Nat → List Char → Option (List Char × List Char)
  | _, [] => none
  | 0, ')' :: rest => some ([], rest)
  | depth, c :: rest =>
      let depth := if c = '(' then depth + 1 else if c = ')' then depth - 1 else depth
      (untilClosing depth rest).map fun (inner, rest) => (c :: inner, rest)

/-- The script between back quotes, without the backslashes that protect it, and the rest. -/
def untilBackquote (quoted : Bool) : List Char → Option (List Char × List Char)
  | [] => none
  | '`' :: rest => some ([], rest)
  | '\\' :: c :: rest =>
      let shielded := c = '$' || c = '`' || c = '\\' || (quoted && c = '"')
      (untilBackquote quoted rest).map fun (inner, rest) =>
        (if shielded then c :: inner else '\\' :: c :: inner, rest)
  | c :: rest => (untilBackquote quoted rest).map fun (inner, rest) => (c :: inner, rest)

/-- The lines up to one that is equal to a mark, and the text behind that. Tabs in front of the lines
may be taken away. -/
def untilMark (mark : List Char) (untab : Bool) : Nat → List Char → List Char × List Char
  | 0, text => ([], text)
  | fuel + 1, text =>
      if text.isEmpty then ([], [])
      else
        let line := text.takeWhile (· ≠ '\n')
        let ended := line.length < text.length
        let rest := text.drop (line.length + 1)
        let line := if untab then line.dropWhile (· = '\t') else line
        if line = mark then ([], rest)
        else
          let (lines, rest) := untilMark mark untab fuel rest
          (line ++ (if ended then '\n' :: lines else lines), rest)

/-- The words that a word cannot be where a command may begin. -/
def closers : List String :=
  ["then", "do", "done", "fi", "else", "elif", "esac", "\x7d"]

/-- The unquoted text that a word begins with. -/
def plainHead (text : List Char) : List Char :=
  text.takeWhile fun c => !endsWord c && !"'\"\\$`".contains c

/-- The reserved word here; the empty text where a word goes on behind its plain part. -/
def reservedHead (text : List Char) : String :=
  let head := plainHead text
  if (text.drop head.length).head?.all endsWord then String.ofList head else ""

/-- The name of what stands here, as messages show it. -/
def tokenName (text : List Char) : String :=
  match text with
  | [] => "end of file"
  | '\n' :: _ => "newline"
  | ';' :: ';' :: _ => "\";;\""
  | '&' :: '&' :: _ => "\"&&\""
  | '|' :: '|' :: _ => "\"||\""
  | c :: _ =>
      if ";&|()".contains c then "\"" ++ String.singleton c ++ "\""
      else if c = '<' ∨ c = '>' then "redirection"
      else
        let word := reservedHead text
        if closers.contains word then "\"" ++ word ++ "\"" else "word"

def consPlain (c : Char) : Word → Word
  | .text false octets :: rest => .text false (c :: octets) :: rest
  | parts => .text false [c] :: parts

def consQuoted (c : Char) : Word → Word
  | .text true octets :: rest => .text true (c :: octets) :: rest
  | parts => .text true [c] :: parts

/-- The treatment that follows a parameter's name between braces, and the rest. -/
def takeTreatment (text : List Char) : Option (Treatment × Bool × List Char) :=
  match text with
  | ':' :: '-' :: rest => some (.orElse, true, rest)
  | ':' :: '=' :: rest => some (.orAssign, true, rest)
  | ':' :: '?' :: rest => some (.orFail, true, rest)
  | ':' :: '+' :: rest => some (.ifSet, true, rest)
  | '-' :: rest => some (.orElse, false, rest)
  | '=' :: rest => some (.orAssign, false, rest)
  | '?' :: rest => some (.orFail, false, rest)
  | '+' :: rest => some (.ifSet, false, rest)
  | '%' :: '%' :: rest => some (.withoutSuffix true, false, rest)
  | '%' :: rest => some (.withoutSuffix false, false, rest)
  | '#' :: '#' :: rest => some (.withoutPrefix true, false, rest)
  | '#' :: rest => some (.withoutPrefix false, false, rest)
  | '\x7d' :: _ => some (.plain, false, text)
  | _ => none

def takeParameterName (text : List Char) : List Char × List Char :=
  match text with
  | c :: rest =>
      if isNameStart c then
        let name := text.takeWhile isNamePart
        (name, text.drop name.length)
      else if c.isDigit then
        let name := text.takeWhile Char.isDigit
        (name, text.drop name.length)
      else if isSpecial c then ([c], rest)
      else ([], text)
  | [] => ([], [])

/-- The reading of a part of a script: the text that is left, or the fault and where it lies. -/
abbrev Reading (α : Type) := StateT (List Char) (Except (ScriptFault × List Char)) α

/-- The text is no script, because of what stands here. -/
def refuse {α : Type} (fault : ScriptFault) : Reading α := do
  throw (fault, ← get)

/-- The text is no script, because of the token that stands here. -/
def refuseToken {α : Type} (expected : Option String) : Reading α := do
  let text ← get
  throw (.unexpected (tokenName text) expected, text)

/-- What reading a text that was cut out of another one gives. -/
def readInner {α : Type} (reading : Reading α) (text : List Char) : Reading α := do
  let outer ← get
  match reading.run text with
  | .ok (a, _) => return a
  | .error (fault, _) => throw (fault, outer)

/-- Takes a reserved word that has to stand here. -/
def takeReserved (word : String) : Reading Unit := do
  modify skipGaps
  let text ← get
  if reservedHead text = word then set (text.drop word.length)
  else refuseToken (some word)

/-- Where a word ends: at a delimiter, at the closing quote, at the closing brace, or with the text. -/
inductive WordEnd
  | delimiter
  | quote
  | brace (quoted : Bool)
  | never (quoted : Bool)
deriving DecidableEq

/-- Are the octets quoted up to this end? -/
def WordEnd.quotes : WordEnd → Bool
  | .delimiter => false
  | .quote => true
  | .brace quoted => quoted
  | .never quoted => quoted

/-- Does a backslash take away the meaning of an octet between double quotes? -/
def isProtected (ending : WordEnd) (c : Char) : Bool :=
  "$`\\".contains c || (c = '"' && ending ≠ .never true) || (c = '\x7d' && ending = .brace true)

mutual

/-- The parts of a word up to its end. The closing quote or brace is taken along. -/
def readParts : Nat → WordEnd → Reading Word
  | 0, _ => refuse .tooDeep
  | fuel + 1, ending => do
      let quoted := ending.quotes
      let cons := if quoted then consQuoted else consPlain
      match ← get with
      | [] =>
          match ending with
          | .quote => refuse .openQuote
          | .brace _ => refuse (.missing "\x7d")
          | _ => return []
      | '\\' :: '\n' :: rest =>
          set rest
          readParts fuel ending
      | '\\' :: c :: rest =>
          set rest
          let parts ← readParts fuel ending
          if quoted && !isProtected ending c then return consQuoted '\\' (consQuoted c parts)
          else return consQuoted c parts
      | '$' :: rest =>
          set rest
          match ← readDollar fuel quoted with
          | some part => return part :: (← readParts fuel ending)
          | none => return cons '$' (← readParts fuel ending)
      | '`' :: rest =>
          match untilBackquote quoted rest with
          | none => refuse .openBackquote
          | some (script, rest) =>
              set rest
              let script ← readInner (readAll fuel) script
              return .substitution quoted script :: (← readParts fuel ending)
      | c :: rest =>
          if c = '"' ∧ ending = .quote then
            set rest
            return []
          else if c = '\x7d' ∧ (ending = .brace true ∨ ending = .brace false) then
            set rest
            return []
          else if c = '"' ∧ (!quoted ∨ ending = .brace true) then
            set rest
            let inner ← readParts fuel .quote
            let inner := if inner.isEmpty then [.text true []] else inner
            return inner ++ (← readParts fuel ending)
          else if c = '\'' ∧ !quoted then
            let inner := rest.takeWhile (· ≠ '\'')
            if inner.length = rest.length then refuse .openQuote
            else
              set (rest.drop (inner.length + 1))
              return .text true inner :: (← readParts fuel ending)
          else if ending = .delimiter ∧ endsWord c then return []
          else
            set rest
            return cons c (← readParts fuel ending)

/-- What stands behind a dollar sign; nothing where the sign stands for itself. -/
def readDollar : Nat → Bool → Reading (Option Part)
  | 0, _ => refuse .tooDeep
  | fuel + 1, quoted => do
      match ← get with
      | '(' :: '(' :: rest =>
          match untilClosing 0 rest with
          | some (inner, ')' :: rest) =>
              set rest
              let parts ← readInner (readParts fuel (.never true)) inner
              return some (.arithmetic quoted parts)
          | some _ =>
              set ('(' :: rest)
              readSubstitution fuel quoted
          | none => refuse (.missing "))")
      | '(' :: rest =>
          set rest
          readSubstitution fuel quoted
      | '\x7b' :: rest =>
          set rest
          some <$> readBraces fuel quoted
      | c :: rest =>
          if isNameStart c then
            let name := (c :: rest).takeWhile isNamePart
            set ((c :: rest).drop name.length)
            return some (.parameter quoted name .plain false [])
          else if c.isDigit || isSpecial c then
            set rest
            return some (.parameter quoted [c] .plain false [])
          else return none
      | [] => return none

def readSubstitution : Nat → Bool → Reading (Option Part)
  | 0, _ => refuse .tooDeep
  | fuel + 1, quoted => do
      let script ← readSteps fuel
      match ← get with
      | ')' :: rest =>
          set rest
          return some (.substitution quoted script)
      | _ => refuseToken (some ")")

def readBraces : Nat → Bool → Reading Part
  | 0, _ => refuse .tooDeep
  | fuel + 1, quoted => do
      let text ← get
      match text with
      | '#' :: c :: rest =>
          let (name, behind) := takeParameterName (c :: rest)
          match behind with
          | '\x7d' :: behind =>
              if name.isEmpty then readTreated fuel quoted
              else
                set behind
                return .parameter quoted name .length false []
          | _ => readTreated fuel quoted
      | _ => readTreated fuel quoted

/-- A parameter between braces with its treatment. What is no parameter is read up to the brace that
closes it, as one without a name. -/
def readTreated : Nat → Bool → Reading Part
  | 0, _ => refuse .tooDeep
  | fuel + 1, quoted => do
      let text ← get
      let (name, behind) := takeParameterName text
      match (if name.isEmpty then none else takeTreatment behind) with
      | none =>
          let inner := text.takeWhile (· ≠ '\x7d')
          if inner.length = text.length then refuse (.missing "\x7d")
          else
            set (text.drop (inner.length + 1))
            return .parameter quoted [] .plain false []
      | some (treatment, emptyCounts, rest) =>
          set rest
          let pattern := match treatment with
            | .withoutSuffix _ | .withoutPrefix _ => true
            | _ => false
          let word ← readParts fuel (.brace (quoted && !pattern))
          return .parameter quoted name treatment emptyCounts word

/-- A redirection, if one stands here. -/
def readRedirection : Nat → Reading (Option Redirection)
  | 0 => refuse .tooDeep
  | fuel + 1 => do
      let text ← get
      let digits := text.takeWhile Char.isDigit
      let given (standard : Nat) : Nat :=
        if digits.isEmpty then standard
        else digits.foldl (fun n c => n * 10 + (c.toNat - '0'.toNat)) 0
      let target (stream : Nat) (opening : Opening) (rest : List Char) :
          Reading (Option Redirection) := do
        set (skipGaps rest)
        let word ← readParts fuel .delimiter
        if word.isEmpty then refuseToken none
        else return some (.mk stream opening word)
      match text.drop digits.length with
      | '<' :: '<' :: '-' :: rest => some <$> readHere fuel (given 0) true rest
      | '<' :: '<' :: rest => some <$> readHere fuel (given 0) false rest
      | '<' :: '&' :: rest => target (given 0) .copy rest
      | '<' :: '>' :: rest => target (given 0) .read rest
      | '<' :: rest => target (given 0) .read rest
      | '>' :: '>' :: rest => target (given 1) .append rest
      | '>' :: '&' :: rest => target (given 1) .copy rest
      | '>' :: '|' :: rest => target (given 1) .write rest
      | '>' :: rest => target (given 1) .write rest
      | _ => return none

/-- A document in place: its lines begin behind the present one. With any quote in its mark it is
taken as it stands. -/
def readHere : Nat → Nat → Bool → List Char → Reading Redirection
  | 0, _, _, _ => refuse .tooDeep
  | fuel + 1, stream, untab, rest => do
      set (skipGaps rest)
      let mark ← readParts fuel .delimiter
      let quoted := mark.any fun
        | .text quoted _ => quoted
        | _ => false
      let words := mark.flatMap fun
        | .text _ octets => octets
        | _ => []
      let behind ← get
      let line := behind.takeWhile (· ≠ '\n')
      let (inner, rest) := untilMark words untab behind.length (behind.drop (line.length + 1))
      set (line ++ '\n' :: rest)
      if quoted then return .mk stream .here [.text true inner]
      else return .mk stream .here (← readInner (readParts fuel (.never true)) inner)

def readRedirections : Nat → Reading (List Redirection)
  | 0 => refuse .tooDeep
  | fuel + 1 => do
      modify skipGaps
      match ← readRedirection fuel with
      | some redirection => return redirection :: (← readRedirections fuel)
      | none => return []

/-- The words, assignments and redirections of a simple command from here on. -/
def readSimple : Nat → Bool →
    Reading (List (List Char × Word) × List Word × List Redirection)
  | 0, _ => refuse .tooDeep
  | fuel + 1, assigning => do
      modify skipGaps
      match ← readRedirection fuel with
      | some redirection =>
          let (assignments, words, redirections) ← readSimple fuel assigning
          return (assignments, words, redirection :: redirections)
      | none =>
          let text ← get
          if text.head?.all endsWord then return ([], [], [])
          else
            let name := text.takeWhile isNamePart
            if assigning ∧ isName name ∧ (text.drop name.length).head? = some '=' then
              set (text.drop (name.length + 1))
              let value ← readParts fuel .delimiter
              let (assignments, words, redirections) ← readSimple fuel true
              return ((name, value) :: assignments, words, redirections)
            else
              let word ← readParts fuel .delimiter
              let (assignments, words, redirections) ← readSimple fuel false
              return (assignments, word :: words, redirections)

/-- The commands up to a reserved word, which is taken along. -/
def readUntil : Nat → String → Reading Script
  | 0, _ => refuse .tooDeep
  | fuel + 1, word => do
      let script ← readSteps fuel
      if script.isEmpty then refuseToken (if (← get).isEmpty then some word else none)
      takeReserved word
      return script

/-- The branches of a choice behind its first reserved word. -/
def readBranches : Nat → Reading (List (Script × Script) × Script)
  | 0 => refuse .tooDeep
  | fuel + 1 => do
      let test ← readUntil fuel "then"
      let body ← readSteps fuel
      if body.isEmpty then refuseToken (if (← get).isEmpty then some "fi" else none)
      modify skipGaps
      let text ← get
      if reservedHead text = "elif" then
        set (text.drop 4)
        let (branches, otherwise) ← readBranches fuel
        return ((test, body) :: branches, otherwise)
      else if reservedHead text = "else" then
        set (text.drop 4)
        return ([(test, body)], ← readUntil fuel "fi")
      else
        takeReserved "fi"
        return ([(test, body)], [])

def readClauses : Nat → Reading (List (List Word × Script))
  | 0 => refuse .tooDeep
  | fuel + 1 => do
      modify fun text => skipLines text.length text
      let text ← get
      if reservedHead text = "esac" then
        set (text.drop 4)
        return []
      else
        match text with
        | '(' :: rest => set (skipGaps rest)
        | [] => refuseToken (some ")")
        | _ => pure ()
        let patterns ← readPatterns fuel
        let body ← readSteps fuel
        modify fun text => skipLines text.length text
        match ← get with
        | ';' :: ';' :: rest =>
            set rest
            return (patterns, body) :: (← readClauses fuel)
        | text =>
            if text.isEmpty then refuseToken (some ";;")
            takeReserved "esac"
            return [(patterns, body)]

/-- The patterns of a clause, and the parenthesis behind them. -/
def readPatterns : Nat → Reading (List Word)
  | 0 => refuse .tooDeep
  | fuel + 1 => do
      modify skipGaps
      let pattern ← readParts fuel .delimiter
      if pattern.isEmpty then refuseToken none
      modify skipGaps
      match ← get with
      | '|' :: rest =>
          set rest
          return pattern :: (← readPatterns fuel)
      | ')' :: rest =>
          set rest
          return [pattern]
      | _ => refuseToken (some ")")

/-- The words of a repetition up to the end of its line. -/
def readItems : Nat → Reading (List Word)
  | 0 => refuse .tooDeep
  | fuel + 1 => do
      modify skipGaps
      if (← get).head?.all endsWord then return []
      else
        let word ← readParts fuel .delimiter
        return word :: (← readItems fuel)

def readEach : Nat → Reading Command
  | 0 => refuse .tooDeep
  | fuel + 1 => do
      modify skipGaps
      let text ← get
      let name := text.takeWhile isNamePart
      if !isName name then refuse .badVariable
      set (skipLines text.length (text.drop name.length))
      let text ← get
      let items ← if reservedHead text = "in" then do
          set (text.drop 2)
          let items ← readItems fuel
          match (← get).head? with
          | some '\n' | some ';' => pure (some items)
          | _ => refuseToken none
        else pure none
      modify skipGaps
      match ← get with
      | ';' :: rest => set rest
      | _ => pure ()
      modify fun text => skipLines text.length text
      takeReserved "do"
      let body ← readUntil fuel "done"
      return .each name items body (← readRedirections fuel)

def readSelect : Nat → Reading Command
  | 0 => refuse .tooDeep
  | fuel + 1 => do
      modify skipGaps
      let subject ← readParts fuel .delimiter
      modify fun text => skipLines text.length text
      takeReserved "in"
      let clauses ← readClauses fuel
      return .select subject clauses (← readRedirections fuel)

def readCommand : Nat → Reading Command
  | 0 => refuse .tooDeep
  | fuel + 1 => do
      modify skipGaps
      let text ← get
      let below := text.count '\n'
      match text with
      | '(' :: rest =>
          set rest
          let body ← readSteps fuel
          match ← get with
          | ')' :: rest =>
              set rest
              return .subshell body (← readRedirections fuel)
          | _ => refuseToken (some ")")
      | _ =>
          match reservedHead text with
          | "\x7b" =>
              set (text.drop 1)
              let body ← readUntil fuel "\x7d"
              return .group body (← readRedirections fuel)
          | "if" =>
              set (text.drop 2)
              let (branches, otherwise) ← readBranches fuel
              return .choice branches otherwise (← readRedirections fuel)
          | "while" =>
              set (text.drop 5)
              let test ← readUntil fuel "do"
              let body ← readUntil fuel "done"
              return .loop false test body (← readRedirections fuel)
          | "until" =>
              set (text.drop 5)
              let test ← readUntil fuel "do"
              let body ← readUntil fuel "done"
              return .loop true test body (← readRedirections fuel)
          | "for" =>
              set (text.drop 3)
              readEach fuel
          | "case" =>
              set (text.drop 4)
              readSelect fuel
          | word =>
              if closers.contains word then refuseToken none
              let name := plainHead text
              match skipGaps (text.drop name.length) with
              | '(' :: rest =>
                  match isName name, skipGaps rest with
                  | true, ')' :: rest =>
                      set (skipLines text.length rest)
                      return .define name (← readCommand fuel)
                  | true, rest =>
                      set rest
                      refuseToken (some ")")
                  | _, _ => readPlain fuel below
              | _ => readPlain fuel below

/-- A simple command; there must be something of it. -/
def readPlain : Nat → Nat → Reading Command
  | 0, _ => refuse .tooDeep
  | fuel + 1, below => do
      let (assignments, words, redirections) ← readSimple fuel true
      if assignments.isEmpty ∧ words.isEmpty ∧ redirections.isEmpty then refuseToken none
      else
        match ← get with
        | '(' :: _ => refuseToken none
        | _ => return .simple below assignments words redirections

def readPipeline : Nat → Reading (List Command)
  | 0 => refuse .tooDeep
  | fuel + 1 => do
      let command ← readCommand fuel
      modify skipGaps
      match ← get with
      | '|' :: '|' :: _ => return [command]
      | '|' :: rest =>
          set (skipLines rest.length rest)
          return command :: (← readPipeline fuel)
      | _ => return [command]

/-- One step: a pipeline, whose outcome may be turned round. -/
def readStep : Nat → Link → Reading Step
  | 0, _ => refuse .tooDeep
  | fuel + 1, link => do
      modify skipGaps
      let text ← get
      let negated := reservedHead text = "!"
      if negated then set (text.drop 1)
      return .mk link negated (← readPipeline fuel)

/-- The steps that are joined to the one before. -/
def readJoined : Nat → Reading Script
  | 0 => refuse .tooDeep
  | fuel + 1 => do
      modify skipGaps
      match ← get with
      | '&' :: '&' :: rest =>
          set (skipLines rest.length rest)
          let step ← readStep fuel .ifSuccess
          return step :: (← readJoined fuel)
      | '|' :: '|' :: rest =>
          set (skipLines rest.length rest)
          let step ← readStep fuel .ifFailure
          return step :: (← readJoined fuel)
      | _ => return []

/-- A step with those that are joined to it, and the separator behind them. -/
def readLine : Nat → Reading Script
  | 0 => refuse .tooDeep
  | fuel + 1 => do
      let step ← readStep fuel .always
      let joined ← readJoined fuel
      modify skipGaps
      match ← get with
      | ';' :: ';' :: _ => return step :: joined
      | ';' :: rest =>
          set rest
          return step :: joined
      | '&' :: rest =>
          set rest
          return [.mk .always false [.background (step :: joined)]]
      | _ => return step :: joined

/-- The steps up to a closing word or parenthesis. -/
def readSteps : Nat → Reading Script
  | 0 => refuse .tooDeep
  | fuel + 1 => do
      modify fun text => skipLines text.length text
      let text ← get
      match text with
      | [] | ')' :: _ | ';' :: ';' :: _ => return []
      | _ =>
          if closers.contains (reservedHead text) then return []
          else
            let line ← readLine fuel
            return line ++ (← readSteps fuel)

/-- The steps up to the end of a line, which is taken along. -/
def readRow : Nat → Reading Script
  | 0 => refuse .tooDeep
  | fuel + 1 => do
      let line ← readLine fuel
      modify skipGaps
      match ← get with
      | [] => return line
      | '\n' :: rest =>
          set rest
          return line
      | _ => return line ++ (← readRow fuel)

def readAll : Nat → Reading Script
  | 0 => refuse .tooDeep
  | fuel + 1 => do
      let script ← readSteps fuel
      if (← get).isEmpty then return script else refuseToken none

end

end Muster.Shell
