import BoundaryContract.FileSystem.Path

/-!
# The file system

A tree of directories and files, seen from a working directory inside it. Writing a file first makes
the directories it needs, one after another; if it fails after that, they stay.
-/

namespace BoundaryContract

/-- A file or a directory. -/
inductive Entry
  | file (content : ByteArray)
  | directory (entries : List (String × Entry))

/-- What the root holds, and the names that lead from there to the working directory. -/
structure FileSystem where
  entries : List (String × Entry)
  directory : List String

/-- Why a file cannot be read or written. -/
inductive FileFault
  | notFound
  | alreadyExists
  | notDirectory
  | isDirectory
  | notText
  /-- Any other fault, with its own wording. -/
  | other (message : String)
deriving DecidableEq

/-- The wording of a fault. -/
def FileFault.message : FileFault → String
  | .notFound => "No such file or directory (os error 2)"
  | .alreadyExists => "File exists (os error 17)"
  | .notDirectory => "Not a directory (os error 20)"
  | .isDirectory => "Is a directory (os error 21)"
  | .notText => "stream did not contain valid UTF-8"
  | .other message => message

namespace Entry

/-- Whether an entry is a directory. -/
def isDirectory : Entry → Bool
  | .directory _ => true
  | .file _ => false

/-- What is found inside an entry by following names. -/
def find? : List String → Entry → Option Entry
  | [], e => some e
  | name :: rest, .directory entries => (entries.lookup name).bind (find? rest)
  | _ :: _, .file _ => none

/-- The entries with one replaced or added. -/
def replace (name : String) (e : Entry) : List (String × Entry) → List (String × Entry)
  | [] => [(name, e)]
  | (n, old) :: rest => if n = name then (n, e) :: rest else (n, old) :: replace name e rest

/-- The entries with a file written at a list of names. Directories are created on the way; a file
on the way is in the way, and so is a directory at the end. -/
def write (content : ByteArray) :
    (names : List String) → List (String × Entry) → Except FileFault (List (String × Entry))
  | [], _ => .error .isDirectory
  | [name], entries =>
    match entries.lookup name with
    | some (.directory _) => .error .isDirectory
    | _ => .ok (replace name (.file content) entries)
  | name :: next :: rest, entries =>
    match entries.lookup name with
    | some (.file _) =>
      .error (if rest.isEmpty then .alreadyExists else .notDirectory)
    | some (.directory inner) => do
      return replace name (.directory (← write content (next :: rest) inner)) entries
    | none => do
      return replace name (.directory (← write content (next :: rest) [])) entries

/-- The entries with the directories of a list of names. -/
def makeDirectories :
    (names : List String) → List (String × Entry) → Except FileFault (List (String × Entry))
  | [], entries => .ok entries
  | name :: rest, entries =>
    match entries.lookup name with
    | some (.file _) => .error .notDirectory
    | some (.directory inner) => do
      return replace name (.directory (← makeDirectories rest inner)) entries
    | none => do return replace name (.directory (← makeDirectories rest [])) entries

/-- The entries without a file; nothing if there is no file at the list of names. -/
def remove? : (names : List String) → List (String × Entry) → Option (List (String × Entry))
  | [], _ => none
  | [name], entries =>
    match entries.lookup name with
    | some (.file _) => some (entries.filter fun entry => entry.1 ≠ name)
    | _ => none
  | name :: rest, entries =>
    match entries.lookup name with
    | some (.directory inner) => do
      return replace name (.directory (← remove? rest inner)) entries
    | _ => none

end Entry

namespace FileSystem

/-- The root as an entry. -/
def root (fs : FileSystem) : Entry := .directory fs.entries

/-- The names at which a path starts. -/
def start (fs : FileSystem) (path : String) : List String :=
  if Path.isAbsolute path then [] else fs.directory

/-- Follows steps from a list of names. A step upwards needs a directory to leave. -/
def follow (root : Entry) : (names steps : List String) → Option (List String)
  | names, [] => some names
  | names, step :: rest =>
    if step = ".." then
      if (root.find? names).any Entry.isDirectory then follow root names.dropLast rest else none
    else follow root (names ++ [step]) rest

/-- The names that lead from the root to a path. -/
def names? (fs : FileSystem) (path : String) : Option (List String) :=
  if path.isEmpty then none
  else follow fs.root (fs.start path) (Path.steps path)

/-- What is at a path. -/
def find? (fs : FileSystem) (path : String) : Option Entry := do
  let e ← fs.root.find? (← fs.names? path)
  if Path.namesDirectory path && !e.isDirectory then none else some e

/-- Whether there is anything at a path. -/
def contains (fs : FileSystem) (path : String) : Bool := (fs.find? path).isSome

/-- The text of a file. -/
def readText (fs : FileSystem) (path : String) : Except FileFault String :=
  match fs.find? path with
  | none => .error .notFound
  | some (.directory _) => .error .isDirectory
  | some (.file content) =>
    match String.fromUTF8? content with
    | some text => .ok text
    | none => .error .notText

/-- The names that lead to a path of which not everything is there yet, and the directories that are
left upwards on the way. -/
def plan : (names steps : List String) → List (List String) × List String
  | names, [] => ([], names)
  | names, step :: rest =>
    if step = ".." then
      let (left, target) := plan names.dropLast rest
      (names :: left, target)
    else plan (names ++ [step]) rest

/-- How a change to a file system ends, and what is there afterwards: a change that fails can leave
a part of itself behind. -/
abbrev Outcome (ε : Type) := Except ε Unit × FileSystem

/-- Makes the directories that steps lead through from a list of names, as far as they are missing
(`made` tells whether one was missing before). A file ends it, and what is made already stays. The
last directory is tried first, so only the directories before it are asked to be directories, until
one has to be made. -/
def makeAll : (made : Bool) → (names steps : List String) → FileSystem → Outcome FileFault
  | _, _, [], fs => (.ok (), fs)
  | made, names, step :: rest, fs =>
    if step = ".." then makeAll made names.dropLast rest fs
    else
      match fs.root.find? (names ++ [step]) with
      | some (.directory _) => makeAll made (names ++ [step]) rest fs
      | some (.file _) =>
        (.error (if made || rest.isEmpty then .alreadyExists else .notDirectory), fs)
      | none =>
        match Entry.makeDirectories (names ++ [step]) fs.entries with
        | .ok entries => makeAll true (names ++ [step]) rest { fs with entries }
        | .error fault => (.error fault, fs)

/-- The fault of writing to a path that can only name a directory. After a slash it does not matter
what is there. -/
def directoryFault (fs : FileSystem) (path : String) (names : List String) : FileFault :=
  if (Path.names path).getLast? = some "" then .isDirectory
  else
    match fs.root.find? names with
    | none => .notFound
    | some (.file _) => .notDirectory
    | some (.directory _) => .isDirectory

/-- Writes a text to a file, which is created with the directories it needs or replaced. The
directories are made first, and stay if the file cannot be written. -/
def writeText (fs : FileSystem) (path text : String) : Outcome FileFault :=
  if path.isEmpty then (.error .notFound, fs)
  else
    let target := (plan (fs.start path) (Path.steps path)).2
    match makeAll false (fs.start path) (Path.steps path).dropLast fs with
    | (.error fault, fs) => (.error fault, fs)
    | (.ok (), fs) =>
      if Path.namesDirectory path then (.error (fs.directoryFault path target), fs)
      else
        match Entry.write text.toUTF8 target fs.entries with
        | .ok entries => (.ok (), { fs with entries })
        | .error fault => (.error fault, fs)

/-- Removes a file, if there is one. -/
def remove? (fs : FileSystem) (path : String) : Option FileSystem := do
  return { fs with entries := (← Entry.remove? (← fs.names? path) fs.entries) }

end FileSystem

end BoundaryContract
