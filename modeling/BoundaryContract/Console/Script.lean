import BoundaryContract.Console.Report
import BoundaryContract.Console.Surface

/-!
# Scripts for the console

What a command says is a sequence of steps, each a message, a document or a text of its own. The
console adds the text of one step after another to the output.
-/

namespace BoundaryContract.Console

/-- One thing that is said on the console. -/
inductive Step
  /-- A text as it is. -/
  | write (text : String)
  /-- A text as a line. -/
  | writeLine (text : String)
  | info (text : String)
  | success (text : String)
  | warning (text : String)
  | error (text : String)
  | heading (title : String)
  | data (doc : Document)
  | report (r : Report) (failuresOnly : Bool)
  | surface (symbols : Bool)

/-- The text that a step adds to the output. -/
def say (c : Console) : Step → String
  | .write text => text
  | .writeLine text => line text
  | .info text => c.info text
  | .success text => c.success text
  | .warning text => c.warning text
  | .error text => c.error text
  | .heading title => c.heading title
  | .data doc => c.document doc
  | .report r failuresOnly => c.report r failuresOnly
  | .surface symbols => c.surface symbols

/-- The output of a sequence of steps. -/
def transcript (c : Console) (steps : List Step) : String := String.join (steps.map c.say)

end BoundaryContract.Console
