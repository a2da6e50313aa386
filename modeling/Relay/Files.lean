import Relay.Error

/-!
# Files

A `Source` tells what is in the file that a path leads to. `Files.read` is the source of a tree of
files (`Files`), in which one directory is where paths begin.

A path is walked name by name, from the root if it begins with a slash. Empty names and `.` stay
where they are, `..` goes back and stays at the root, and any other name must be there; only a
directory can be walked through.
-/

namespace Relay

/-- What is in the file that a path leads to. -/
abbrev Source := String → Except FileCause (List UInt8)

/-- What has a path. -/
inductive Entry where
  | file (bytes : List UInt8)
  | directory
  deriving DecidableEq, Repr

/-- A tree of files. -/
structure Files where
  /-- What there is, each with its path from the root. -/
  entries : List (String × Entry) := []
  /-- The path of the directory where paths without a slash in front begin. -/
  directory : String := "/"
  deriving DecidableEq, Repr

namespace Files

/-- A name of a path may have so many bytes. -/
def maxNameLength : Nat := 255

/-- A path may have so many bytes. -/
def maxPathLength : Nat := 4095

/-- The names of a path. -/
def namesOf (path : String) : List (List Char) :=
  path.toList.splitOn '/'

/-- The names that lead to a place from the root. -/
def placeOf (path : String) : List (List Char) :=
  (namesOf path).filter (fun name => !name.isEmpty)

/-- How many bytes a text has. -/
def byteLength (text : List Char) : Nat :=
  (Text.Utf8.encode text).length

/-- What is at a place. A place that leads to others is a directory. -/
def entry? (files : Files) (place : List (List Char)) : Option Entry :=
  match files.entries.find? (fun entry => placeOf entry.1 = place) with
  | some entry => some entry.2
  | none =>
    let paths := files.directory :: files.entries.map (·.1)
    if paths.any (fun path => place.isPrefixOf (placeOf path)) then some .directory else none

/-- Walks along names from a place, which is a directory. -/
def walk (files : Files) (place : List (List Char)) : List (List Char) → Except FileCause Entry
  | [] => .ok .directory
  | name :: more =>
    if name.isEmpty || name = ['.'] then walk files place more
    else if name = ['.', '.'] then walk files place.dropLast more
    else if maxNameLength < byteLength name then .error .tooLong
    else
      match files.entry? (place ++ [name]) with
      | none => .error .notFound
      | some .directory => walk files (place ++ [name]) more
      | some (.file bytes) => if more.isEmpty then .ok (.file bytes) else .error .notDirectory

/-- What a path leads to. -/
def find (files : Files) (path : String) : Except FileCause Entry :=
  if path.toList.contains '\x00' then .error .badName
  else if path.isEmpty then .error .notFound
  else if maxPathLength < byteLength path.toList then .error .tooLong
  else if path.toList.head? = some '/' then walk files [] (namesOf path)
  else walk files (placeOf files.directory) (namesOf path)

/-- The bytes of the file that a path leads to. -/
def read (files : Files) (path : String) : Except FileCause (List UInt8) :=
  match files.find path with
  | .error cause => .error cause
  | .ok .directory => .error .isDirectory
  | .ok (.file bytes) => .ok bytes

end Files

end Relay
