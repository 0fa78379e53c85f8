/-!
Splitting a command into words with the quoting rules of a POSIX shell. Words end at a space, a tab
or a line feed; quotes and backslashes join what they protect to the word they stand in. The split
fails in one case only: a quote that is never closed.
-/
namespace Muster.Text

/-- Where the next character stands: between words, inside a bare word, inside quotes, inside a
comment, or behind a backslash in one of the places that know it. -/
inductive Place
  | between
  | bare
  | single
  | double
  | comment
  | escapedBetween
  | escapedBare
  | escapedDouble
deriving Repr, DecidableEq

/-- A split under way: the closed words and the open one, each latest first. -/
structure Splitting where
  closed : List String
  word : List Char
  place : Place
deriving Repr, DecidableEq

/-- The same split with the next character in another place. -/
def Splitting.goTo (split : Splitting) (place : Place) : Splitting :=
  { split with place }

def Splitting.push (split : Splitting) (c : Char) (place : Place) : Splitting :=
  ⟨split.closed, c :: split.word, place⟩

def Splitting.close (split : Splitting) : Splitting :=
  ⟨String.ofList split.word.reverse :: split.closed, [], .between⟩

/-- A character that ends a bare word. -/
def isWordEnd (c : Char) : Bool :=
  c = ' ' || c = '\t' || c = '\n'

/-- A character that a backslash protects inside double quotes. -/
def isProtected (c : Char) : Bool :=
  c = '$' || c = '`' || c = '"' || c = '\\'

/-- The split behind one more character. A backslash before a line feed vanishes with it; between
words that leaves the split between words. -/
def Splitting.step (split : Splitting) (c : Char) : Splitting :=
  match split.place with
  | .between =>
      if c = '\'' then split.goTo .single
      else if c = '"' then split.goTo .double
      else if c = '\\' then split.goTo .escapedBetween
      else if c = '#' then split.goTo .comment
      else if isWordEnd c then split
      else split.push c .bare
  | .bare =>
      if c = '\'' then split.goTo .single
      else if c = '"' then split.goTo .double
      else if c = '\\' then split.goTo .escapedBare
      else if isWordEnd c then split.close
      else split.push c .bare
  | .single => if c = '\'' then split.goTo .bare else split.push c .single
  | .double =>
      if c = '"' then split.goTo .bare
      else if c = '\\' then split.goTo .escapedDouble
      else split.push c .double
  | .comment => if c = '\n' then split.goTo .between else split
  | .escapedBetween => if c = '\n' then split.goTo .between else split.push c .bare
  | .escapedBare => if c = '\n' then split.goTo .bare else split.push c .bare
  | .escapedDouble =>
      if c = '\n' then split.goTo .double
      else if isProtected c then split.push c .double
      else (split.push '\\' .double).push c .double

/-- The words at the end of the text; `none` inside quotes. A backslash at the end is literal. -/
def Splitting.finish (split : Splitting) : Option (List String) :=
  match split.place with
  | .between | .comment => some split.closed.reverse
  | .bare => some split.close.closed.reverse
  | .escapedBetween | .escapedBare => some (split.push '\\' .bare).close.closed.reverse
  | .single | .double | .escapedDouble => none

def Splitting.start : Splitting :=
  ⟨[], [], .between⟩

/-- The words of a text, unless a quote stays open. -/
def words? (text : String) : Option (List String) :=
  (text.toList.foldl Splitting.step Splitting.start).finish

example : words? "echo \"a b\" 'c d'\\ e" = some ["echo", "a b", "c d e"] := by decide
example : words? "a # b" = some ["a"] := by decide
example : words? "'" = none := by decide

end Muster.Text
