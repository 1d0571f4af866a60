import BoundaryContract.Boundary.Native
import BoundaryContract.Client

/-!
# Client programs with direct values

On the native boundary a client can also work with whole values: load a struct from a value, dump it
as one, and compare two structs.
-/

namespace BoundaryContract.Client

/-- A step of a client program on the native boundary. -/
inductive NativeStep
  | step (s : Step)
  /-- Reads an outer struct from a value into a slot. -/
  | loadOuter (slot : String) (value : Value)
  /-- Reads a nested struct from a value into a slot. -/
  | loadInner (slot : String) (value : Value)
  /-- The value of a slot. -/
  | dump (slot : String)
  /-- Whether two slots of one kind hold equal structs. -/
  | equal (slot other : String)
deriving DecidableEq

/-- Performs a step on the native boundary. -/
def NativeStep.perform (m : Memory Nat Nat) : NativeStep → Action Store (Answer × Memory Nat Nat)
  | .step s => s.perform nativeBoundary m
  | .loadOuter slot value =>
    match Outer.ofValue value with
    | .error e => pure (.failed e, m)
    | .ok x => do
      let a ← Store.addOuter x
      return (.none, ← storeOuter nativeBoundary m slot a)
  | .loadInner slot value =>
    match Inner.ofValue value with
    | .error e => pure (.failed e, m)
    | .ok x => do
      let b ← Store.addInner x
      return (.none, ← storeInner nativeBoundary m slot b)
  | .dump slot =>
    match m.outers.lookup slot with
    | some a => keeping m .value (.gets fun s => (s.outer a).toValue)
    | none =>
      match m.inners.lookup slot with
      | some b => keeping m .value (.gets fun s => (s.inner b).toValue)
      | none => refuse m
  | .equal slot other =>
    match m.outers.lookup slot, m.outers.lookup other with
    | some a, some b => keeping m .bool (.gets fun s => s.outer a = s.outer b)
    | _, _ =>
      match m.inners.lookup slot, m.inners.lookup other with
      | some a, some b => keeping m .bool (.gets fun s => s.inner a = s.inner b)
      | _, _ => refuse m

/-- Runs steps in order on the native boundary, with the slots as they are after each of them. -/
def runNativeSteps (m : Memory Nat Nat) : List NativeStep →
    Action Store (List (Answer × Memory Outer Inner) × Memory Nat Nat)
  | [] => pure ([], m)
  | step :: rest => do
    let (answer, m) ← step.perform m
    let seen ← observe nativeBoundary m
    let (answers, m) ← runNativeSteps m rest
    return ((answer, seen) :: answers, m)

end BoundaryContract.Client
