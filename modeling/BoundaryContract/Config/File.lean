import BoundaryContract.Command.Error
import BoundaryContract.Config

/-!
# Configuration files

The extension of a file decides whether it is read and written as YAML or JSON. Without an explicit
path the first default path at which there is anything is taken, so that a bad file there is
reported and not passed over.
-/

namespace BoundaryContract

/-- A document format of configuration files. -/
inductive ConfigFormat
  | json
  | yaml
deriving DecidableEq

namespace ConfigFormat

/-- All document formats, in the order in which they are offered. -/
def all : List ConfigFormat := [json, yaml]

/-- The name of a document format. -/
def name : ConfigFormat → String
  | .json => "json"
  | .yaml => "yaml"

end ConfigFormat

/-- Where configuration can be found: the files, and the path of the user's own configuration. -/
structure Workspace where
  files : FileSystem
  userConfig : Option String

namespace Config

/-- The configuration file of a project. -/
def projectYaml : String := ".bridgetest.yaml"

/-- The same in JSON. -/
def projectJson : String := ".bridgetest.json"

/-- The path of the user's configuration in a configuration directory. -/
def userPath (directory : String) : String :=
  Path.join (Path.join directory "bridgetest") "config.yaml"

/-- The format that the extension of a path stands for. -/
def formatOf (path : String) : Except Command.Error ConfigFormat :=
  match Path.extension? path with
  | some "yaml" | some "yml" => .ok .yaml
  | some "json" => .ok .json
  | _ => .error (.invalidFormat path "YAML or JSON")

/-- The configuration of a text. -/
def ofText : ConfigFormat → String → Except Command.Error Config
  | .yaml, text => (ofYamlText text).mapError .yaml
  | .json, text => (ofJsonText text).mapError .json

/-- The text of a configuration. -/
def toText (c : Config) : ConfigFormat → String
  | .yaml => c.toYamlText
  | .json => c.toJsonText

/-- The configuration of a file. -/
def ofFile (files : FileSystem) (path : String) : Except Command.Error Config :=
  if files.contains path then do
    let format ← formatOf path
    let text ← (files.readText path).mapError .io
    ofText format text
  else .error (.fileNotFound path)

/-- The default paths, in the order in which they are tried. -/
def defaultPaths (w : Workspace) : List String :=
  [projectYaml, projectJson] ++ w.userConfig.toList

/-- The path that configuration is read from, if there is one. -/
def sourcePath (w : Workspace) (file : Option String) : Option String :=
  match file with
  | some path => some path
  | none => (defaultPaths w).find? w.files.contains

/-- The configuration of the first default path at which there is anything. -/
def loadDefault (w : Workspace) : Except Command.Error Config :=
  match (defaultPaths w).find? w.files.contains with
  | some path => ofFile w.files path
  | none => .ok {}

/-- The configuration in force. -/
def load (w : Workspace) (file : Option String) : Except Command.Error Config :=
  match file with
  | some path => ofFile w.files path
  | none => loadDefault w

/-- Writes a configuration to a file. The format is settled before anything is changed. -/
def store (c : Config) (files : FileSystem) (path : String) :
    FileSystem.Outcome Command.Error :=
  match formatOf path with
  | .error e => (.error e, files)
  | .ok format =>
    match files.writeText path (c.toText format) with
    | (.ok (), files) => (.ok (), files)
    | (.error fault, files) => (.error (.io fault), files)

/-- The file system after a configuration is written to a file, if it can be. -/
def save (c : Config) (files : FileSystem) (path : String) : Except Command.Error FileSystem :=
  match c.store files path with
  | (.ok (), files) => .ok files
  | (.error e, _) => .error e

end Config

end BoundaryContract
