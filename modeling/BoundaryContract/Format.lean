import BoundaryContract.Json.Printer
import BoundaryContract.Value.Tagged
import BoundaryContract.Yaml.Printer

/-!
# Output formats

What is written for a program to read is a document, which has a JSON form and a YAML form. A format
chooses between the forms; the format for human readers falls back to pretty JSON where there is no
wording of its own.
-/

namespace BoundaryContract

/-- How output is written. -/
inductive Format
  | human
  | json
  | yaml
  | jsonPretty
deriving DecidableEq

/-- Something to be written, in both document formats. -/
structure Document where
  json : Json
  yaml : Yaml

namespace Document

/-- A JSON value as a document. -/
def ofJson (json : Json) : Document := ⟨json, Yaml.ofJson json⟩

/-- A value as a document, with its kind as a tag. -/
def ofValue (v : Value) : Document := ⟨v.toTagged, Yaml.ofValue v⟩

end Document

namespace Format

/-- All formats, in the order in which they are offered. -/
def all : List Format := [human, json, yaml, jsonPretty]

/-- The name of a format. -/
def name : Format → String
  | .human => "human"
  | .json => "json"
  | .yaml => "yaml"
  | .jsonPretty => "json-pretty"

/-- The text of a document in a format. -/
def render (format : Format) (doc : Document) : String :=
  match format with
  | .json => doc.json.compact
  | .yaml => doc.yaml.render
  | .human | .jsonPretty => doc.json.pretty

end Format

end BoundaryContract
