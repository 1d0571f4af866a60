import BoundaryContract.Backend
import BoundaryContract.Format
import BoundaryContract.Json.Shape
import BoundaryContract.Yaml.Shape

/-!
# Configuration

The settings that a configuration file can give. A file is a JSON or YAML document in which
everything is optional; written out, a configuration names every setting.
-/

namespace BoundaryContract

/-- What the conformance suite runs against, and how mismatches count, unless a command says
otherwise. -/
structure SuiteSettings where
  backend : Backend := .native
  tier : Tier := .asserted
deriving DecidableEq

/-- How commands write their output, unless they are told otherwise. -/
structure OutputSettings where
  format : Format := .human
  color : Bool := true
deriving DecidableEq

/-- What is logged and how. -/
structure LoggingSettings where
  level : Option String := none
  format : Option String := none
  threadIds : Bool := false
deriving DecidableEq

/-- All settings. -/
structure Config where
  suite : SuiteSettings := {}
  output : OutputSettings := {}
  logging : LoggingSettings := {}
deriving DecidableEq

/-- All tiers, in the order in which they are offered. -/
def Tier.all : List Tier := [.asserted, .smoke]

namespace Config

/-! ### Reading -/

/-- The setting of alternatives that have names. -/
def named {α : Type} (all : List α) (name : α → String) (set : α → Config → Config) :
    Setting Config :=
  .choice (all.map fun a => (name a, set a))

/-- The settings of the suite. -/
def suiteSection : Section Config :=
  ⟨"struct SuiteConfig",
    [("backend", named Backend.all Backend.name fun b c => { c with suite.backend := b }),
     ("tier", named Tier.all Tier.name fun t c => { c with suite.tier := t })]⟩

/-- The settings of the output. -/
def outputSection : Section Config :=
  ⟨"struct OutputConfig",
    [("format", named Format.all Format.name fun f c => { c with output.format := f }),
     ("color", .flag fun b c => { c with output.color := b })]⟩

/-- The settings of the log. -/
def loggingSection : Section Config :=
  ⟨"struct LoggingConfig",
    [("level", .text fun s c => { c with logging.level := s }),
     ("format", .text fun s c => { c with logging.format := s }),
     ("thread_ids", .flag fun b c => { c with logging.threadIds := b })]⟩

/-- What a document can say about a configuration. -/
def shape : Shape Config :=
  ⟨"struct Config",
    [("suite", suiteSection), ("output", outputSection), ("logging", loggingSection)]⟩

/-- The configuration of a JSON text. -/
def ofJsonText (text : String) : Except Json.ReadError Config := Json.readShape shape {} text

/-- The configuration of a YAML text. -/
def ofYamlText (text : String) : Except Yaml.ReadError Config := Yaml.readShape shape {} text

/-! ### Writing -/

/-- A text or nothing as JSON. -/
def textOrNull : Option String → Json
  | some s => .string s
  | none => .null

/-- A configuration as JSON, in the order of its settings. -/
def toJson (c : Config) : Json :=
  .object
    [("suite", .object
      [("backend", .string c.suite.backend.name), ("tier", .string c.suite.tier.name)]),
     ("output", .object
      [("format", .string c.output.format.name), ("color", .bool c.output.color)]),
     ("logging", .object
      [("level", textOrNull c.logging.level), ("format", textOrNull c.logging.format),
       ("thread_ids", .bool c.logging.threadIds)])]

/-- The JSON text of a configuration. -/
def toJsonText (c : Config) : String := c.toJson.pretty

/-- The YAML text of a configuration. -/
def toYamlText (c : Config) : String := (Yaml.ofJson c.toJson).render

end Config

end BoundaryContract
