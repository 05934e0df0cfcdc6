import SyscallMeter.Text.Search

/-! Files by their paths: which there are, and where a new one can be made. -/
namespace SyscallMeter

/-- What lies at a path. -/
inductive FileKind
  | regular
  | directory
  /-- A directory in which nothing can be made. -/
  | sealedDirectory
  /-- A device or the like. -/
  | special
  deriving DecidableEq, Repr

def FileKind.isDirectory : FileKind → Bool
  | directory => true
  | sealedDirectory => true
  | _ => false

inductive FileError
  | missing
  | notDirectory
  | isDirectory
  | nameTooLong
  /-- A path cannot hold the character zero. -/
  | unusableName
  deriving DecidableEq, Repr

/-- What the system says of a path that leads nowhere. -/
def noSuchFile : String := "No such file or directory (os error 2)"

def FileError.message : FileError → String
  | missing => noSuchFile
  | notDirectory => "Not a directory (os error 20)"
  | isDirectory => "Is a directory (os error 21)"
  | nameTooLong => "File name too long (os error 36)"
  | unusableName => "file name contained an unexpected NUL byte"

/-- The names that lead from the root to a file. -/
abbrev FilePlace := List String

structure Files where
  /-- What there is besides the root. -/
  entries : List (FilePlace × FileKind)
  /-- Where paths start that do not start at the root. -/
  working : FilePlace

namespace Files

/-- Bytes that one name may have. -/
def maxName : Nat := 255

/-- Bytes that a path may have, with the zero behind it. -/
def maxPath : Nat := 4096

def kind? (f : Files) (place : FilePlace) : Option FileKind :=
  if place.isEmpty then some .directory else f.entries.lookup place

/-- Follows names from a place on. Only through directories does a path lead on. -/
def follow (f : Files) (place : FilePlace) : List String → Except FileError FilePlace
  | [] => .ok place
  | name :: rest =>
    match f.kind? place with
    | none => .error .missing
    | some kind =>
      if ! kind.isDirectory then .error .notDirectory
      else if name = "" ∨ name = "." then f.follow place rest
      else if name = ".." then f.follow place.dropLast rest
      else if name.utf8ByteSize > maxName then .error .nameTooLong
      else f.follow (place ++ [name]) rest

/-- The names in a path. -/
def names (path : String) : List String := (Text.splitOn '/' path.toList).map String.ofList

def start (f : Files) (path : String) : FilePlace :=
  if path.toList.head? = some '/' then [] else f.working

/-- What is wrong with a path before any of it is followed. -/
def pathError? (path : String) : Option FileError :=
  if path.toList.contains '\x00' then some .unusableName
  else if path.isEmpty then some .missing
  else if path.utf8ByteSize ≥ maxPath then some .nameTooLong
  else none

/-- The place that a path leads to. There may be nothing. -/
def resolve (f : Files) (path : String) : Except FileError FilePlace :=
  match pathError? path with
  | some e => .error e
  | none => f.follow (f.start path) (names path)

/-- Whether a path leads to a regular file. -/
def isFile (f : Files) (path : String) : Bool :=
  match f.resolve path with
  | .ok place => f.kind? place == some .regular
  | .error _ => false

/-- Where the last name of a path puts a new file. An old one there gives way. -/
def createIn (f : Files) (directory : FilePlace) (name : String) :
    Except FileError FilePlace :=
  if name = "." ∨ name = ".." then .error .isDirectory
  else if name.utf8ByteSize > maxName then .error .nameTooLong
  else
    match f.kind? (directory ++ [name]) with
    | some kind => if kind.isDirectory then .error .isDirectory else .ok (directory ++ [name])
    | none =>
      if f.kind? directory = some .sealedDirectory then .error .missing
      else .ok (directory ++ [name])

/-- Where a new file of a path is put. A path that ends in a slash stands for a directory. -/
def create (f : Files) (path : String) : Except FileError FilePlace :=
  match pathError? path with
  | some e => .error e
  | none =>
    match (names path).reverse.dropWhile (· = "") with
    | [] => .error .isDirectory
    | name :: before =>
      match f.follow (f.start path) before.reverse with
      | .error e => .error e
      | .ok directory =>
        match f.kind? directory with
        | none => .error .missing
        | some kind =>
          if ! kind.isDirectory then .error .notDirectory
          else if path.toList.getLast? = some '/' then .error .isDirectory
          else f.createIn directory name

end Files

end SyscallMeter
