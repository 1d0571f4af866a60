import BoundaryContract.Abi.Slice
import BoundaryContract.Action
import BoundaryContract.Record
import BoundaryContract.Table

/-!
# The heap of handles

Everything handed across the boundary is an object behind an opaque handle. The heap holds the live
objects and counts them; each thread has a slot for its last error. A pointer is null or a handle.
-/

namespace BoundaryContract.Abi

/-- What a handle refers to. -/
inductive Object
  | outer (x : Outer)
  | inner (x : Inner)
  | string (s : String)
deriving DecidableEq

/-- An opaque handle. -/
abbrev Handle := Nat

/-- Null or a handle. -/
abbrev Pointer := Option Handle

/-- A thread of the caller. -/
abbrev ThreadId := Nat

/-- The live objects, their count, and the last error of each thread. -/
structure State where
  objects : Table Object
  /-- The handle of the next new object. -/
  next : Handle
  /-- Handles handed out and not yet released. -/
  live : Nat
  lastError : ThreadId → Option Failure

namespace State

/-- No objects and no errors. -/
def empty : State := ⟨[], 0, 0, fun _ => none⟩

/-- The code of a thread's last error. -/
def code (s : State) (t : ThreadId) : Code :=
  match s.lastError t with
  | some failure => failure.code
  | none => .success

/-- Sets or clears the last error of a thread. -/
def setLastError (t : ThreadId) (failure : Option Failure) (s : State) : State :=
  { s with lastError := fun u => if u = t then failure else s.lastError u }

/-- Adds an object under a new handle. -/
def insert (x : Object) (s : State) : State :=
  { s with objects := (s.next, x) :: s.objects, next := s.next + 1, live := s.live + 1 }

/-- Changes the object of a handle. -/
def update (h : Handle) (f : Object → Object) (s : State) : State :=
  { s with objects := s.objects.update h f }

/-- Removes the object of a handle. -/
def release (h : Handle) (s : State) : State :=
  { s with objects := s.objects.erase h, live := s.live - 1 }

end State

/-- The inside of an exported call: it reads and changes the heap, and may fail. -/
abbrev Body := ExceptT Failure (Action State)

/-- Runs the inside of an exported call. The thread's slot is cleared first; a failure is recorded
in the slot and in the log, and the call returns the neutral value. -/
def guarded {α : Type} (t : ThreadId) (neutral : α) (body : Body α) : Action State α := do
  Action.modify (State.setLastError t none)
  match ← body.run with
  | .ok a => pure a
  | .error failure =>
    Action.emit failure.event
    Action.modify (State.setLastError t (some failure))
    pure neutral

namespace Body

/-- An action on the heap that cannot fail. -/
def lift {α : Type} (a : Action State α) : Body α := ExceptT.lift a

/-- The object behind the pointer passed for the named parameter. -/
def object (param : String) (p : Pointer) : Body (Handle × Object) :=
  match p with
  | none => throw (.null param)
  | some h => do
    let objects ← lift (.gets State.objects)
    match objects.get? h with
    | some x => pure (h, x)
    | none => throw (.notLive param)

/-- The outer struct behind a pointer, with its handle. -/
def outer (param : String) (p : Pointer) : Body (Handle × Outer) := do
  match ← object param p with
  | (h, .outer x) => pure (h, x)
  | _ => throw (.notLive param)

/-- The nested struct behind a pointer, with its handle. -/
def inner (param : String) (p : Pointer) : Body (Handle × Inner) := do
  match ← object param p with
  | (h, .inner x) => pure (h, x)
  | _ => throw (.notLive param)

/-- The text behind a pointer. -/
def string (param : String) (p : Pointer) : Body String := do
  match ← object param p with
  | (_, .string s) => pure s
  | _ => throw (.notLive param)

/-- The text of a view. -/
def text (param : String) (slice : Slice) : Body String :=
  ExceptT.mk (pure (slice.toText param))

/-- Hands a new object to the caller. -/
def handOut (x : Object) : Body Pointer := do
  let h ← lift (.gets State.next)
  lift (.modify (State.insert x))
  return some h

/-- Replaces the object of a handle. -/
def replace (h : Handle) (x : Object) : Body Unit :=
  lift (.modify (State.update h fun _ => x))

/-- Releases the object behind a pointer; null is accepted. -/
def release (p : Pointer) : Body Unit :=
  match p with
  | none => pure ()
  | some h => do
    let objects ← lift (.gets State.objects)
    match objects.get? h with
    | some _ => lift (.modify (State.release h))
    | none => pure ()

end Body

end BoundaryContract.Abi
