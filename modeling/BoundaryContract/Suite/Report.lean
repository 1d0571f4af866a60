import BoundaryContract.Error
import BoundaryContract.Event
import BoundaryContract.Value

/-!
# Conformance reports

A check is one observed call beside what was expected of it; a report is the checks of a run in
order. Whether a check passed is recorded with it, and everything a report counts is counted from
that.
-/

namespace BoundaryContract

/-- How mismatches are treated. -/
inductive Tier
  /-- Every mismatch fails the run. -/
  | asserted
  /-- Mismatches are only reported. -/
  | smoke
deriving DecidableEq

/-- The name of a tier. -/
def Tier.name : Tier → String
  | .asserted => "asserted"
  | .smoke => "smoke"

/-- One observed call and its expected result. -/
structure Check where
  /-- The group and the case. -/
  name : String
  /-- The call that gave the actual result. -/
  call : String
  expected : Value
  actual : Value
  passed : Bool
deriving DecidableEq

namespace Check

/-- A check that passes if the actual value is the expected one. -/
def ofValues (name call : String) (expected actual : Value) : Check :=
  ⟨name, call, expected, actual, expected = actual⟩

/-- The description of a mismatch, if the check did not pass. -/
def failureMessage? (c : Check) : Option String :=
  if c.passed then none
  else some (c.name ++ ": " ++ c.call ++ " expected " ++ c.expected.display ++ ", got " ++
    c.actual.display)

/-- The event that a check leaves. -/
def event (tier : Tier) (c : Check) : Event :=
  match c.failureMessage? with
  | none => ⟨.debug, "Check passed", [("check", .text c.name), ("call", .text c.call)]⟩
  | some message =>
    ⟨.warn, if tier = .smoke then "Smoke check mismatch" else "Check failed",
      [("message", .text message)]⟩

end Check

/-- The outcome of a run. -/
structure Report where
  backend : String
  tier : Tier
  checks : List Check
deriving DecidableEq

namespace Report

/-- The number of checks. -/
def total (r : Report) : Nat := r.checks.length

/-- The number of checks that passed. -/
def passed (r : Report) : Nat := r.checks.countP Check.passed

/-- The number of checks that did not pass. -/
def failed (r : Report) : Nat := r.total - r.passed

/-- The checks that did not pass. -/
def failures (r : Report) : List Check := r.checks.filter fun c => !c.passed

/-- Whether the run counts as successful for its tier. -/
def isSuccess (r : Report) : Bool := r.tier = .smoke || r.failed = 0

/-- The report of a successful run, or the error of an unsuccessful one. -/
def toResult (r : Report) : Except Error Report :=
  if r.isSuccess then .ok r else .error (.conformance r.failed r.total)

end Report

end BoundaryContract
