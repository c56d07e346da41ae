import ConfigSchema.Source.Path

/-! # Files

Files and directories under absolute paths, given by their parts. A path is looked up part by part
from the root or from the working directory, and every part that is passed must be a directory. -/
namespace ConfigSchema

inductive FileError
  | notFound | notDirectory | isDirectory | nameTooLong | nulByte | forbidden | notText
deriving DecidableEq, Repr

def FileError.message : FileError → String
  | notFound => "No such file or directory (os error 2)"
  | notDirectory => "Not a directory (os error 20)"
  | isDirectory => "Is a directory (os error 21)"
  | nameTooLong => "File name too long (os error 36)"
  | nulByte => "file name contained an unexpected NUL byte"
  | forbidden => "Permission denied (os error 13)"
  | notText => "stream did not contain valid UTF-8"

/-- What a path can lead to. A locked file is there but must not be read. -/
inductive FileEntry
  | file (content : ByteArray)
  | locked
  | directory

/-- Files and directories, the latest first, and the working directory. The root is always there. -/
structure FileSystem where
  entries : List (List String × FileEntry) := []
  workingDirectory : Option (List String) := some []

namespace FileSystem

def find? (files : FileSystem) (place : List String) : Option FileEntry :=
  if place.isEmpty then some .directory else files.entries.lookup place

/-- Goes on from a place along the parts of a path. -/
def walk (files : FileSystem) : (place : List String) → (parts : List String) →
    Except FileError FileEntry
  | place, [] =>
    match files.find? place with
    | some entry => .ok entry
    | none => .error .notFound
  | place, part :: rest =>
    match files.find? place with
    | none => .error .notFound
    | some (.file _) | some .locked => .error .notDirectory
    | some .directory =>
      if part = "" || part = "." then files.walk place rest
      else if part = ".." then files.walk place.dropLast rest
      else if part.utf8ByteSize > 255 then .error .nameTooLong
      else files.walk (place ++ [part]) rest

/-- What a path leads to. -/
def lookup (files : FileSystem) (path : String) : Except FileError FileEntry :=
  if path.toList.contains '\x00' then .error .nulByte
  else if path.isEmpty then .error .notFound
  else
    let parts := Path.parts path
    if Path.isAbsolute path then files.walk [] parts
    else
      match files.workingDirectory with
      | some place => files.walk place parts
      | none => if parts.all fun part => part = "" || part = "." then .ok .directory
          else .error .notFound

/-- Whether a path leads anywhere. -/
def pathExists (files : FileSystem) (path : String) : Bool := (files.lookup path).isOk

def readText (files : FileSystem) (path : String) : Except FileError String := do
  match ← files.lookup path with
  | .directory => .error .isDirectory
  | .locked => .error .forbidden
  | .file content =>
    match String.fromUTF8? content with
    | some text => .ok text
    | none => .error .notText

/-- The absolute path of the working directory, unless it has been deleted. From a deleted one
nothing is found. -/
def currentDirectory? (files : FileSystem) : Option String :=
  files.workingDirectory.map fun place => "/" ++ String.intercalate "/" place

def placeOf (files : FileSystem) (path : String) : List String :=
  let start := if Path.isAbsolute path then [] else files.workingDirectory.getD []
  start ++ (Path.parts path).filter fun part => part ≠ "" && part ≠ "."

def put (files : FileSystem) (place : List String) (entry : FileEntry) : FileSystem :=
  { files with entries := (place, entry) :: files.entries.filter fun old => old.1 ≠ place }

/-- Writes a file or makes a directory, and the directories above it. -/
def write (files : FileSystem) (path : String) (entry : FileEntry) : FileSystem :=
  let place := files.placeOf path
  let above := (List.range place.length).map fun length => place.take length
  let files := above.foldl (fun files outer =>
    if (files.find? outer).isSome then files else files.put outer .directory) files
  files.put place entry

def remove (files : FileSystem) (path : String) : FileSystem :=
  let place := files.placeOf path
  match files.find? place with
  | some (.file _) | some .locked =>
    { files with entries := files.entries.filter fun old => old.1 ≠ place }
  | _ => files

end FileSystem

end ConfigSchema
