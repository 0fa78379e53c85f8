import Muster.Files.FileSystem
/-!
A file system in memory. Every place is named by the way to it from the root. A directory may refuse
new entries, as those that belong to somebody else do.
-/
namespace Muster.Files

/-- What is at a place: a file with its octets and permission bits, or a directory with the error
that a new entry in it meets, if it meets one. -/
inductive Entry
  | file (octets : List UInt8) (mode : Nat)
  | directory (refusal : Option FileError)
deriving Repr, DecidableEq

/-- A place: the names on the way from the root to it. -/
abbrev Place := List String

/-- What is at which place. -/
structure Tree where
  entries : List (Place × Entry)
deriving Repr, DecidableEq

/-- What is at a place. The root is a directory at any rate. -/
def Tree.at? (tree : Tree) (place : Place) : Option Entry :=
  match tree.entries.lookup place with
  | some entry => some entry
  | none => if place.isEmpty then some (.directory (some .denied)) else none

def Tree.put (tree : Tree) (place : Place) (entry : Entry) : Tree :=
  ⟨(place, entry) :: tree.entries.filter (·.1 ≠ place)⟩

/-- The longest name, in octets. -/
def longestName : Nat := 255

/-- The names in a path, with single points and doubled slashes left out. -/
def pathNames (path : String) : List String :=
  ((path.splitOn "/").filter fun name => !name.isEmpty && name ≠ ".")

/-- Does a path end like that of a directory? -/
def endsAsDirectory (path : String) : Bool :=
  path.endsWith "/" || path.endsWith "/." || path = "."

def nextPlace (place : Place) (name : String) : Except FileError Place :=
  if name = ".." then .ok place.dropLast
  else if longestName < name.utf8ByteSize then .error .nameTooLong
  else .ok (place ++ [name])

/-- The directory that some names lead to. -/
def Tree.descend (tree : Tree) : Place → List String → Except FileError Place
  | place, [] => .ok place
  | place, name :: rest => do
      let next ← nextPlace place name
      match tree.at? next with
      | none => .error .notFound
      | some (.file _ _) => .error .notDirectory
      | some (.directory _) => tree.descend next rest

/-- The place that a path leads to, which need not exist; the directory it lies in must. -/
def Tree.find (tree : Tree) (path : String) : Except FileError Place :=
  if path.contains '\x00' then .error .nulInName
  else if path.isEmpty then .error .notFound
  else
    let names := pathNames path
    match names.getLast? with
    | none => .ok []
    | some name => do nextPlace (← tree.descend [] names.dropLast) name

def Tree.read (tree : Tree) (path : String) : Except FileError (List UInt8) := do
  match tree.at? (← tree.find path) with
  | none => .error .notFound
  | some (.directory _) => .error .isDirectory
  | some (.file octets _) => if endsAsDirectory path then .error .notDirectory else .ok octets

def Tree.checkNew (tree : Tree) (directory : Place) : Except FileError Unit :=
  match tree.at? directory with
  | some (.directory none) => .ok ()
  | some (.directory (some refusal)) => .error refusal
  | some (.file _ _) => .error .notDirectory
  | none => .error .notFound

/-- Makes the directories that some names lead along, as far as they are not there yet. -/
def Tree.makeAlong (tree : Tree) : Place → List String → Except FileError Unit × Tree
  | _, [] => (.ok (), tree)
  | place, name :: rest =>
      match nextPlace place name with
      | .error error => (.error error, tree)
      | .ok next =>
          match tree.at? next with
          | some (.directory _) => tree.makeAlong next rest
          | some (.file _ _) => (.error .notDirectory, tree)
          | none =>
              match tree.checkNew place with
              | .error error => (.error error, tree)
              | .ok () => (tree.put next (.directory none)).makeAlong next rest

def Tree.makeDirectories (tree : Tree) (path : String) : Except FileError Unit × Tree :=
  tree.makeAlong [] (pathNames path)

/-- The permission bits of a private file. -/
def privateMode : Nat := 0o600

/-- Writes a file. One that is there already keeps its permissions. -/
def Tree.writePrivate (tree : Tree) (path : String) (octets : List UInt8) :
    Except FileError Unit × Tree :=
  match tree.find path with
  | .error error => (.error error, tree)
  | .ok place =>
      if endsAsDirectory path then (.error .isDirectory, tree)
      else match tree.at? place with
        | some (.directory _) => (.error .isDirectory, tree)
        | some (.file _ mode) => (.ok (), tree.put place (.file octets mode))
        | none =>
            match tree.checkNew place.dropLast with
            | .error error => (.error error, tree)
            | .ok () => (.ok (), tree.put place (.file octets privateMode))

def Tree.fileSystem : FileSystem (StateM Tree) where
  read path := do return (← get).read path
  makeDirectories path tree := tree.makeDirectories path
  writePrivate path octets tree := tree.writePrivate path octets

end Muster.Files
