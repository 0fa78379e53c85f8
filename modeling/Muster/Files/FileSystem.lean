import Muster.Text.Utf8
/-!
What the programs ask of a file system, whatever it is: a record of operations in a monad. The files
of the machine are one, and a tree of files in memory is another.
-/
namespace Muster.Files

open Muster.Text

/-- Why an operation on files fails. -/
inductive FileError
  | notFound
  | denied
  | notDirectory
  | isDirectory
  | nameTooLong
  | nulInName
  | notText
  | other (detail : String)
deriving Repr, DecidableEq

def FileError.message : FileError → String
  | .notFound => "No such file or directory (os error 2)"
  | .denied => "Permission denied (os error 13)"
  | .notDirectory => "Not a directory (os error 20)"
  | .isDirectory => "Is a directory (os error 21)"
  | .nameTooLong => "File name too long (os error 36)"
  | .nulInName => "file name contained an unexpected NUL byte"
  | .notText => "stream did not contain valid UTF-8"
  | .other detail => detail

/-- Operations on files. A private file can be read and written by its owner only. -/
structure FileSystem (m : Type → Type) where
  read : String → m (Except FileError (List UInt8))
  makeDirectories : String → m (Except FileError Unit)
  writePrivate : String → List UInt8 → m (Except FileError Unit)

/-- The text that octets from a file spell. -/
def decodeText (octets : Except FileError (List UInt8)) : Except FileError String := do
  match ofUtf8? (← octets) with
  | some text => .ok text
  | none => .error .notText

def FileSystem.readText {m : Type → Type} [Monad m] (files : FileSystem m) (path : String) :
    m (Except FileError String) := do
  return decodeText (← files.read path)

/-- The directory that a path lies in, as it is written; none for a path without one. Slashes at the
end of the path do not count. -/
def parent? (path : String) : Option String :=
  let name := path.toList.reverse.dropWhile (· = '/')
  match name.dropWhile (· ≠ '/') with
  | [] => none
  | slashes =>
      match slashes.dropWhile (· = '/') with
      | [] => some "/"
      | directory => some (String.ofList directory.reverse)

end Muster.Files
