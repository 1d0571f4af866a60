import BoundaryContract.Text.Split

/-!
# Paths

A path is a text. What it names is told by its steps, which are the names between its slashes; its
last name can have an extension.
-/

namespace BoundaryContract.Path

/-- The names between the slashes of a path. -/
def names (path : String) : List String := (Text.split '/' path.toList).map String.ofList

/-- The steps of a path: its names without empty ones and single periods. -/
def steps (path : String) : List String :=
  (names path).filter fun name => name ≠ "" && name ≠ "."

/-- Whether a path begins at the root. -/
def isAbsolute (path : String) : Bool := path.toList.head? == some '/'

/-- Whether a path can only name a directory: it ends in a slash or a period of its own. -/
def namesDirectory (path : String) : Bool :=
  match (names path).getLast? with
  | some name => name == "" || name == "."
  | none => true

/-- The last name of a path, unless that is a step upwards. -/
def fileName? (path : String) : Option String :=
  match (steps path).getLast? with
  | some ".." => none
  | name => name

/-- What follows the last period of a name that begins with something else. -/
def extensionOf? (name : List Char) : Option (List Char) :=
  let reversed := name.reverse
  let after := reversed.takeWhile (· ≠ '.')
  if after.length + 1 < name.length then some after.reverse else none

/-- The extension of a path. -/
def extension? (path : String) : Option String := do
  let name ← fileName? path
  return String.ofList (← extensionOf? name.toList)

/-- A path inside a directory. -/
def join (directory name : String) : String :=
  if directory.isEmpty || directory.toList.getLast? == some '/' then directory ++ name
  else directory ++ "/" ++ name

end BoundaryContract.Path
