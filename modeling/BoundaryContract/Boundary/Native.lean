import BoundaryContract.Boundary
import BoundaryContract.Record
import BoundaryContract.Reference
import BoundaryContract.Table

/-!
# The native boundary

The surface served directly: structs are plain values in a store, and a reference is the key of a
value. Every getter copies out of the store and every setter copies into it.
-/

namespace BoundaryContract

/-- The structs in use, each under the key that refers to it. -/
structure Store where
  outers : Table Outer
  inners : Table Inner
  /-- The key of the next new struct. -/
  next : Nat
deriving DecidableEq

namespace Store

/-- A store without structs. -/
def empty : Store := ⟨[], [], 0⟩

/-- The outer struct of a reference. -/
def outer (s : Store) (a : Nat) : Outer := (s.outers.get? a).getD .default

/-- The nested struct of a reference. -/
def inner (s : Store) (b : Nat) : Inner := (s.inners.get? b).getD .default

/-- Puts an outer struct into the store. -/
def addOuter (x : Outer) : Action Store Nat := fun s =>
  ⟨s.next, { s with outers := (s.next, x) :: s.outers, next := s.next + 1 }, []⟩

/-- Puts a nested struct into the store. -/
def addInner (x : Inner) : Action Store Nat := fun s =>
  ⟨s.next, { s with inners := (s.next, x) :: s.inners, next := s.next + 1 }, []⟩

/-- Changes the outer struct of a reference. -/
def updateOuter (a : Nat) (f : Outer → Outer) : Action Store Unit :=
  .modify fun s => { s with outers := s.outers.update a f }

/-- Changes the nested struct of a reference. -/
def updateInner (b : Nat) (f : Inner → Inner) : Action Store Unit :=
  .modify fun s => { s with inners := s.inners.update b f }

end Store

/-- The surface served by plain values in a store. -/
def nativeBoundary : CloningBoundary Store Nat Nat where
  name := "native"
  newOuter := Store.addOuter .default
  newInner := Store.addInner .default
  dropOuter a := .modify fun s => { s with outers := s.outers.erase a }
  dropInner b := .modify fun s => { s with inners := s.inners.erase b }
  outerInt32 a := .gets fun s => (s.outer a).int32
  setOuterInt32 a n := Store.updateOuter a fun x => { x with int32 := n }
  outerBool a := .gets fun s => (s.outer a).bool
  outerString a := .gets fun s => (s.outer a).string
  setOuterString a t := Store.updateOuter a fun x => { x with string := t }
  outerInner a := do
    let x ← Action.gets fun s => (s.outer a).inner
    Store.addInner x
  setOuterInner a b := do
    let y ← Action.gets fun s => s.inner b
    Store.updateOuter a fun x => { x with inner := y }
  innerInt32 b := .gets fun s => (s.inner b).int32
  setInnerInt32 b n := Store.updateInner b fun x => { x with int32 := n }
  simple := Reference.simple
  primitiveArgs := Reference.primitiveArgs
  stringArg := Reference.stringArg
  primitiveAndStringArg := Reference.primitiveAndStringArg
  returnPrimitive := pure Reference.fixedInt32
  returnString := pure Reference.fixedString
  combo str1 str2 b := pure (Reference.select str1 str2 b)
  cloneOuter a := do
    let x ← Action.gets fun s => s.outer a
    Store.addOuter x
  cloneInner b := do
    let y ← Action.gets fun s => s.inner b
    Store.addInner y

end BoundaryContract
