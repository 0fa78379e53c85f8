import Muster.Http.Percent
/-!
The target of a request: its path, and the query behind a question mark. A fragment does not count.
-/
namespace Muster.Http

/-- The pieces of a text between separators; one more than there are separators. -/
def pieces (separator : Char) : List Char → List (List Char)
  | [] => [[]]
  | c :: rest =>
      if c = separator then [] :: pieces separator rest
      else match pieces separator rest with
        | piece :: others => (c :: piece) :: others
        | [] => [[c]]

/-- A target taken apart. -/
structure Target where
  path : List Char
  query : List Char
deriving Repr, DecidableEq

def Target.ofText (text : String) : Target :=
  let shown := text.toList.takeWhile (· ≠ '#')
  let path := shown.takeWhile (· ≠ '?')
  ⟨path, shown.drop (path.length + 1)⟩

def Target.segments? (target : Target) : Option (List String) :=
  match target.path with
  | '/' :: rest => some ((pieces '/' rest).map String.ofList)
  | _ => none

/-- A field of a query: name and value, with the first equals sign in between. -/
def queryField (piece : List Char) : String × String :=
  let name := piece.takeWhile (· ≠ '=')
  (formText (String.ofList name), formText (String.ofList (piece.drop (name.length + 1))))

def Target.queryFields (target : Target) : List (String × String) :=
  ((pieces '&' target.query).filter (!·.isEmpty)).map queryField

end Muster.Http
