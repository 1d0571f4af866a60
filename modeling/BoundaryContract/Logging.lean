import BoundaryContract.Config
import BoundaryContract.Event
import BoundaryContract.Text.Lowercase

/-!
# Logging settings

What is logged is settled in steps: how often more detail was asked for, the configuration file, the
environment, and whether quiet was asked for. Names of formats that are not known are reported and
change nothing.
-/

namespace BoundaryContract

/-- How log lines are laid out. -/
inductive LogFormat
  | compact
  | full
  | json
deriving DecidableEq

namespace LogFormat

/-- The name of a format as a title. -/
def title : LogFormat → String
  | .compact => "Compact"
  | .full => "Full"
  | .json => "Json"

/-- All formats. -/
def all : List LogFormat := [compact, full, json]

/-- The name of a format. -/
def name : LogFormat → String
  | .compact => "compact"
  | .full => "full"
  | .json => "json"

/-- The format of a name in any mixture of upper and lower case. -/
def ofName? (name : String) : Option LogFormat :=
  all.find? fun format => format.name == Text.lower name

end LogFormat

/-- What is logged and how. -/
structure Logging where
  level : String := "warn"
  format : LogFormat := .compact
  /-- Whether the log is for someone who reads along. -/
  console : Bool := true
  threadIds : Bool := false
  sourceLocation : Bool := false
deriving DecidableEq

/-- The variables of the environment that settle what is logged. -/
structure LoggingVariables where
  level : Option String := none
  format : Option String := none

namespace Logging

/-- The settings for how often more detail was asked for. -/
def ofVerbosity : Nat → Logging
  | 0 => {}
  | 1 => { level := "info" }
  | 2 => { level := "debug", sourceLocation := true }
  | _ => { level := "trace", format := .full, sourceLocation := true, threadIds := true }

/-- The settings with a format given by name, and the event of a name that is not known. -/
def withFormat (s : Logging) (warning : String) : Option String → Logging × List Event
  | none => (s, [])
  | some name =>
    match LogFormat.ofName? name with
    | some format => ({ s with format }, [])
    | none => (s, [⟨.warn, warning ++ ": " ++ name ++ ", using default", []⟩])

/-- The settings after those of a file. The level of a file counts only if no more detail was asked
for. -/
def mergeFile (s : Logging) (file : LoggingSettings) (verbosity : Nat) : Logging × List Event :=
  let level := if verbosity = 0 then file.level.getD s.level else s.level
  let (s, events) :=
    { s with level }.withFormat "Invalid log format in config" file.format
  ({ s with threadIds := s.threadIds || file.threadIds }, events)

/-- The settings after those of the environment. -/
def mergeVariables (s : Logging) (vars : LoggingVariables) : Logging × List Event :=
  { s with level := vars.level.getD s.level }.withFormat "Invalid log format" vars.format

/-- The settings if quiet is asked for: only errors are logged. -/
def silence (s : Logging) (quiet : Bool) : Logging :=
  if quiet then { s with level := "error", console := false } else s

/-- The settings in force, and the events of settling them. -/
def resolve (verbosity : Nat) (quiet : Bool) (file : LoggingSettings) (vars : LoggingVariables) :
    Logging × List Event :=
  let (s, fromFile) := (ofVerbosity verbosity).mergeFile file verbosity
  let (s, fromVariables) := s.mergeVariables vars
  (s.silence quiet, fromFile ++ fromVariables)

end Logging

end BoundaryContract
