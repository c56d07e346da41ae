/-! # File paths as texts -/
namespace ConfigSchema.Path

/-- The parts of a path, between slashes; empty parts and single dots stand for nothing. -/
def parts (path : String) : List String := (path.toList.splitOn '/').map String.ofList

def isAbsolute (path : String) : Bool := path.startsWith "/"

/-- The last part that stands for something, if that is a name. -/
def fileName? (path : String) : Option String :=
  match ((parts path).filter fun part => part ≠ "" && part ≠ ".").getLast? with
  | some ".." => none
  | name => name

/-- What follows the last dot of the last part, unless that dot comes first. -/
def extension? (path : String) : Option String := do
  let reversed := (← fileName? path).toList.reverse
  let extension := reversed.takeWhile (· ≠ '.')
  if extension.length + 1 < reversed.length then some (String.ofList extension.reverse) else none

def join (directory file : String) : String :=
  if directory.endsWith "/" then directory ++ file else directory ++ "/" ++ file

end ConfigSchema.Path
