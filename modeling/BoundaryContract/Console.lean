import BoundaryContract.Format
import BoundaryContract.Text.Ansi

/-!
# The console

What a command says, as text: messages for human readers and documents in the chosen format.
Messages appear in the human format only, and the quiet ones among them not at all when quiet is
asked for. Each part of the console gives the text it adds to the output.
-/

namespace BoundaryContract

/-- The settings of a command's output. -/
structure Console where
  format : Format := .human
  color : Bool := false
  quiet : Bool := false
  /-- How many times more detail was asked for. -/
  verbosity : Nat := 0
deriving DecidableEq

namespace Console

variable (c : Console)

/-- Whether more detail was asked for. -/
def isVerbose : Bool := c.verbosity > 0

/-- A text and the end of its line. -/
def line (text : String) : String := text ++ "\n"

/-- A message for human readers, colored or plain. -/
def message (colored plain : String) : String :=
  if c.format = .human then line (if c.color then colored else plain) else ""

/-- A message that quiet suppresses. -/
def quietable (colored plain : String) : String :=
  if c.quiet then "" else c.message colored plain

/-- A remark. -/
def info (text : String) : String :=
  c.quietable (Text.paint .blue "ℹ" ++ " " ++ text) ("INFO: " ++ text)

/-- Good news. -/
def success (text : String) : String := c.quietable (Text.paint .green text) text

/-- A warning. -/
def warning (text : String) : String :=
  c.message (Text.paint .yellow text) ("WARNING: " ++ text)

/-- Bad news. -/
def error (text : String) : String := c.message (Text.paint .red text) ("ERROR: " ++ text)

/-- A heading after an empty line. -/
def heading (title : String) : String :=
  let text := c.quietable (Text.paint .brightBlue ("═══ " ++ title ++ " ═══"))
    ("=== " ++ title ++ " ===")
  if text.isEmpty then "" else line "" ++ text

/-- A text with exactly one line break at its end. -/
def oneBreak (text : String) : String :=
  line (String.ofList (text.toList.reverse.dropWhile (· = '\n')).reverse)

/-- A finished text: human text keeps the line breaks it ends in, everything else ends in exactly
one. -/
def finish (text : String) : String :=
  if c.format = .human ∧ text.toList.getLast? = some '\n' then text else oneBreak text

/-- A document in the format of the console. -/
def document (doc : Document) : String := c.finish (c.format.render doc)

end Console

end BoundaryContract
