/-!
Scripts as they are read: words, redirections and commands. A script is a sequence of octets, and each
octet is held as the character with its number.
-/
namespace Muster.Shell

/-- What is made of the value of a parameter. -/
inductive Treatment
  | plain
  | length
  | orElse
  | orAssign
  | orFail
  | ifSet
  | withoutSuffix (longest : Bool)
  | withoutPrefix (longest : Bool)
deriving Repr, DecidableEq

/-- How a redirection opens its stream. -/
inductive Opening
  | read
  | write
  | append
  | copy
  | here
deriving Repr, DecidableEq

/-- What joins a command to the one before it. -/
inductive Link
  | always
  | ifSuccess
  | ifFailure
deriving Repr, DecidableEq

mutual

/-- A part of a word. Quoted parts are neither split nor matched against anything. In a treatment
that tells unset and empty apart, `emptyCounts` says that empty counts as unset. -/
inductive Part
  | text (quoted : Bool) (octets : List Char)
  | parameter (quoted : Bool) (name : List Char) (treatment : Treatment) (emptyCounts : Bool)
      (word : List Part)
  | substitution (quoted : Bool) (script : List Step)
  | arithmetic (quoted : Bool) (expression : List Part)

/-- A redirection of a stream by number. -/
inductive Redirection
  | mk (stream : Nat) (opening : Opening) (target : List Part)

/-- A command, and how it hangs together with the one before it. -/
inductive Step
  | mk (link : Link) (negated : Bool) (pipeline : List Command)

/-- A command. A simple one knows how many lines of its text begin behind it. -/
inductive Command
  | simple (below : Nat) (assignments : List (List Char × List Part)) (words : List (List Part))
      (redirections : List Redirection)
  | group (body : List Step) (redirections : List Redirection)
  | subshell (body : List Step) (redirections : List Redirection)
  | choice (branches : List (List Step × List Step)) (otherwise : List Step)
      (redirections : List Redirection)
  | loop (untilSuccess : Bool) (test body : List Step) (redirections : List Redirection)
  | each (name : List Char) (items : Option (List (List Part))) (body : List Step)
      (redirections : List Redirection)
  | select (subject : List Part) (clauses : List (List (List Part) × List Step))
      (redirections : List Redirection)
  | define (name : List Char) (body : Command)
  | background (body : List Step)

end

abbrev Word := List Part

/-- Commands one behind the other. -/
abbrev Script := List Step

/-- Why a text is no script. -/
inductive ScriptFault
  | openQuote
  | openBackquote
  | missing (closing : String)
  | badVariable
  | unexpected (token : String) (expected : Option String)
  | tooDeep
deriving Repr, DecidableEq

def ScriptFault.message (fault : ScriptFault) : String :=
  "Syntax error: " ++ match fault with
    | .openQuote => "Unterminated quoted string"
    | .openBackquote => "EOF in backquote substitution"
    | .missing closing => "Missing '" ++ closing ++ "'"
    | .badVariable => "Bad for loop variable"
    | .unexpected token none => token ++ " unexpected"
    | .unexpected token (some expected) => token ++ " unexpected (expecting \"" ++ expected ++ "\")"
    | .tooDeep => "Nested too deeply"

end Muster.Shell
