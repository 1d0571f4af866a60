import BoundaryContract.Command.Line
import BoundaryContract.Usage.Notice

/-!
# The program

Takes a picture of the part of the file system that a command line is about, carries the command
line out, and writes what it leaves behind.
-/

namespace BoundaryContract

/-- The variables of the environment that matter. -/
def variableNames : List String :=
  ["BRIDGETEST_CONFIG", "BRIDGETEST_LOG_FORMAT", "RUST_LOG", "HOME", "XDG_CONFIG_HOME", "CLICOLOR",
   "CLICOLOR_FORCE", "NO_COLOR"]

/-- The variables that are set. -/
def readVariables : IO (List (String × String)) := do
  let values ← variableNames.mapM fun name => do return (← IO.getEnv name).map (name, ·)
  return values.filterMap id

/-- The path that names lead to from the root. -/
def absolutePath (names : List String) : String := "/" ++ "/".intercalate names

/-- What is found at a path; a directory is seen as an empty one. -/
def lookAt (names : List String) : IO (Option Entry) := do
  try
    let path ← IO.FS.realPath (absolutePath names)
    if ← path.isDir then return some (.directory [])
    else return some (.file (← IO.FS.readBinFile path))
  catch _ => return none

/-- The entries with what is found on the way to a path, whose first steps lead to `above`. -/
def addPath (above : List String) : List String → List (String × Entry) →
    IO (List (String × Entry))
  | [], entries => return entries
  | name :: rest, entries => do
    let names := above ++ [name]
    let known := match entries.lookup name with
      | some (.directory inner) => inner
      | _ => []
    match ← lookAt names with
    | some (.directory _) =>
      return Entry.replace name (.directory (← addPath names rest known)) entries
    | some file => return Entry.replace name file entries
    | none => return entries

/-- The names that lead to a path, after those of the directories that it leaves upwards. -/
def FileSystem.places (fs : FileSystem) (path : String) : List (List String) :=
  let (left, target) := plan (fs.start path) (Path.steps path)
  left ++ [target]

/-- A picture of the file system with what is found at some paths. -/
def takePicture (directory : List String) (paths : List String) : IO FileSystem := do
  let places := paths.flatMap (FileSystem.mk [] directory).places
  let entries ← (directory :: places).foldlM (fun entries names => addPath [] names entries) []
  return ⟨entries, directory⟩

/-- Makes the directories that a command line leaves behind on the way to a path, and writes the
file. -/
def writeBack (old new : FileSystem) (path : String) : IO Unit := do
  let (left, target) := FileSystem.plan (old.start path) (Path.steps path)
  for names in left ++ [target.dropLast] do
    if (new.root.find? names).any Entry.isDirectory then IO.FS.createDirAll (absolutePath names)
  match new.readText path with
  | .ok text =>
    if (old.readText path).toOption ≠ some text then IO.FS.writeFile (absolutePath target) text
  | .error _ => return

/-- A time in nanoseconds as a text in microseconds. -/
def elapsedText (nanoseconds : Nat) : String :=
  let fraction := toString (nanoseconds % 1000)
  toString (nanoseconds / 1000) ++ "." ++ "".pushn '0' (3 - fraction.length) ++ fraction ++ "µs"

/-- Writes what a command line leaves behind. -/
def deliver (exit : Command.Exit) : IO UInt32 := do
  IO.print exit.output
  IO.eprint exit.errors
  return exit.code.toUInt32

/-- Tells why a command line is not carried out. -/
def refuse (refusal : Usage.Refusal) : IO UInt32 := do
  let notice := refusal.notice Command.Request.usage
  if refusal.exitCode = 0 then IO.print notice else IO.eprint notice
  return refusal.exitCode.toUInt32

end BoundaryContract

open BoundaryContract in
/-- Runs the program. -/
def main (args : List String) : IO UInt32 := do
  let vars ← readVariables
  let terminal ← (← IO.getStdout).isTty
  let directory := Path.steps (← IO.currentDir).toString
  let bare : Command.Environment := ⟨vars, ⟨[], directory⟩, terminal⟩
  let asked := (Command.Request.read vars args).toOption
  let paths := (asked.map fun request => request.paths bare).getD []
  let files ← takePicture directory paths
  let env := { bare with files }
  let start ← IO.monoNanosNow
  let _ ← IO.lazyPure fun _ => Command.execute env args ""
  let finish ← IO.monoNanosNow
  match Command.execute env args (elapsedText (finish - start)) with
  | .error refusal => refuse refusal
  | .ok exit =>
    match asked.bind Command.Request.target? with
    | some path => writeBack files exit.files path
    | none => pure ()
    deliver exit
