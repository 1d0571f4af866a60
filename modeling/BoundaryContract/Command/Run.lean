import BoundaryContract.Command.Error
import BoundaryContract.Config
import BoundaryContract.Console.Report

/-!
# The run command

Runs the conformance suite and reports on it. The command fails if the run left handles behind or
did not succeed.
-/

namespace BoundaryContract.Command

/-- What is asked of a run; the configured backend and tier are meant unless others are named. -/
structure Run where
  backend : Option Backend := none
  tier : Option Tier := none
  failuresOnly : Bool := false
deriving DecidableEq

namespace Run

/-- Why a run counts as failed. -/
def fault? (r : Report) (leaked : Nat) : Option Error :=
  if leaked ≠ 0 then some (.other s!"{leaked} FFI handle(s) were not freed")
  else if r.isSuccess then none
  else some (.conformanceFailed r.backend r.failed r.total)

/-- Runs the suite and reports; `elapsed` is the time that a verbose console tells. -/
def run (args : Run) (config : Config) (console : Console) (elapsed : String) : Reply :=
  let backend := args.backend.getD config.suite.backend
  let tier := args.tier.getD config.suite.tier
  let (report, leaked) := backend.runSuite tier
  let time := if console.isVerbose then console.info ("Suite finished in " ++ elapsed) else ""
  ⟨console.report report args.failuresOnly ++ time, fault? report leaked⟩

end Run

end BoundaryContract.Command
