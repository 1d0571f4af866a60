import BoundaryContract.Console
import BoundaryContract.Suite.Report

/-!
# Reports on the console

A conformance report for human readers has a line a check and a summary; in the other formats it is
one document with the counts beside the checks.
-/

namespace BoundaryContract

/-- A check as a document. -/
def Check.toJson (c : Check) : Json :=
  .object
    [("actual", c.actual.toTagged.sorted), ("call", .string c.call),
     ("expected", c.expected.toTagged.sorted), ("name", .string c.name), ("passed", .bool c.passed)]

namespace Report

/-- A report as a document. -/
def toJson (r : Report) : Json :=
  .object
    [("backend", .string r.backend), ("checks", .array (r.checks.map Check.toJson)),
     ("failed", .int r.failed), ("passed", .int r.passed), ("success", .bool r.isSuccess),
     ("tier", .string r.tier.name), ("total", .int r.total)]

/-- A text filled up with spaces to a number of characters. -/
def pad (width : Nat) (s : String) : String :=
  s ++ String.ofList (List.replicate (width - s.length) ' ')

/-- The width of the column of names: the longest name, in bytes. -/
def nameWidth (r : Report) : Nat :=
  (r.checks.map fun c => c.name.utf8ByteSize).foldl max 0

/-- The line of a check, with its name in a column. -/
def checkLine (width : Nat) (c : Check) : String :=
  if c.passed then
    Console.line ("  ✓ " ++ pad width c.name ++ "  " ++ c.call ++ " = " ++ c.actual.display)
  else
    Console.line ("  ✗ " ++ pad width c.name ++ "  " ++ c.call ++ " expected " ++
      c.expected.display ++ ", got " ++ c.actual.display)

/-- A report for human readers; checks that passed can be left out. -/
def listing (r : Report) (failuresOnly : Bool) : String :=
  let shown := if failuresOnly then r.failures else r.checks
  Console.line ("═══ Conformance: " ++ r.backend ++ " (" ++ r.tier.name ++ ") ═══") ++
    Console.line "" ++ String.join (shown.map (checkLine r.nameWidth)) ++ Console.line ""

/-- How much of a run passed. -/
def summary (r : Report) : String :=
  s!"{r.passed}/{r.total} checks passed ({r.backend} backend, {r.tier.name} tier)"

end Report

namespace Console

variable (c : Console)

/-- The summary of a report, as news that is good, mixed or bad. -/
def verdict (r : Report) : String :=
  if r.failed = 0 then c.success ("✓ " ++ r.summary)
  else if r.isSuccess then c.warning ("⚠ " ++ r.summary)
  else c.error ("✗ " ++ r.summary)

/-- A report in the format of the console. -/
def report (r : Report) (failuresOnly : Bool) : String :=
  match c.format with
  | .human => c.finish (r.listing failuresOnly) ++ c.verdict r
  | _ => c.document (.ofJson r.toJson)

end Console

end BoundaryContract
