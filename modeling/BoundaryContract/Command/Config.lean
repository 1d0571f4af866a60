import BoundaryContract.Config.File
import BoundaryContract.Console
import BoundaryContract.Text.Space

/-!
# The configuration commands

Showing the settings in force, writing a file with the default settings, and telling where settings
are read from.
-/

namespace BoundaryContract.Command

/-- Shows the settings in force. -/
def showConfig (format : ConfigFormat) (config : BoundaryContract.Config) : Reply :=
  .done (Console.line (String.ofList (Text.trimEnd (config.toText format).toList)))

/-- What is asked of writing a file with the default settings. -/
structure ConfigInit where
  path : Option String := none
  force : Bool := false
deriving DecidableEq

/-- Writes a file with the default settings. What is already there is only replaced by force. -/
def initConfig (args : ConfigInit) (files : FileSystem) (console : Console) :
    Reply × FileSystem :=
  let path := args.path.getD Config.projectYaml
  if files.contains path && !args.force then
    (.fail (.config (path ++ " already exists; use --force to overwrite")), files)
  else
    match Config.store {} files path with
    | (.error e, files) => (.fail e, files)
    | (.ok (), files) =>
      (.done (console.success ("✓ Created config at " ++ path) ++
        console.info "Edit it to change the default backend, tier or output format."), files)

/-- Tells where settings are read from, and which default paths there are. -/
def configPath (file : Option String) (w : Workspace) (console : Console) : Reply :=
  let source := match Config.sourcePath w file with
    | some path => Console.line path
    | none => console.warning "No configuration file found; using defaults"
  let order := (Config.defaultPaths w).map fun path =>
    console.info ((if w.files.contains path then "✓ " else "✗ ") ++ path)
  .done (source ++ console.heading "Search Order" ++ String.join order)

end BoundaryContract.Command
