import BoundaryContract.Boundary.Handles
import BoundaryContract.Boundary.Native
import BoundaryContract.Invoke
import BoundaryContract.Suite

/-!
# Backends

The two boundaries that a command can drive: the one that holds its structs itself, and the one
behind the exported functions. Each use of a backend starts from a state without any structs.
-/

namespace BoundaryContract

/-- A boundary chosen by name. -/
inductive Backend
  | native
  | ffi
deriving DecidableEq

namespace Backend

/-- All backends, in the order in which they are offered. -/
def all : List Backend := [native, ffi]

/-- The name of a backend. -/
def name : Backend → String
  | .native => "native"
  | .ffi => "ffi"

/-- The name of a backend as a title. -/
def title : Backend → String
  | .native => "Native"
  | .ffi => "Ffi"

/-- The result of calling a function of the surface. -/
def invoke (b : Backend) (name : String) (args : List Value) : Except Error Value :=
  match b with
  | .native => ((nativeBoundary.toBoundary.invoke name args).run Store.empty).value
  | .ffi => (((handleBoundary 0).toBoundary.invoke name args).run Abi.State.empty).value

/-- The report of the conformance suite, and the number of handles that the run left behind. -/
def runSuite (b : Backend) (tier : Tier) : Report × Nat :=
  match b with
  | .native => (((Suite.run nativeBoundary.toBoundary tier).run Store.empty).value, 0)
  | .ffi =>
    let o := (Suite.run (handleBoundary 0).toBoundary tier).run Abi.State.empty
    (o.value, o.state.live)

end Backend

end BoundaryContract
