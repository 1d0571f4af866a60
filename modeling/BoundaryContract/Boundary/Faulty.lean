import BoundaryContract.Boundary
import BoundaryContract.Reference
import BoundaryContract.Table

/-!
# A family of faulty boundaries

A boundary that is right except for a chosen combination of faults: wrong defaults, integers that
are clamped or shifted when they are set, texts that are cut or appended to, nested storage that is
shared, and wrong results of the free functions. Its nested structs are cells that several structs
can share.
-/

namespace BoundaryContract

/-- How the selecting function goes wrong. -/
inductive ComboFault
  /-- The flag is read the wrong way round. -/
  | invert
  /-- Always the first text. -/
  | first
  /-- Always the second text. -/
  | second
  /-- Both texts, one after the other. -/
  | concat
deriving DecidableEq

/-- A combination of faults; without any the boundary is right. -/
structure Faults where
  /-- The integer of a new outer struct. -/
  int32Default : Int32 := 0
  /-- The integer of a new nested struct, alone or inside an outer one. -/
  innerDefault : Int32 := 0
  /-- The text of a new outer struct. -/
  stringDefault : String := ""
  /-- The truth value of a new outer struct. -/
  boolDefault : Bool := false
  /-- A bound to which every integer that is set is first reduced. -/
  clamp : Option Int32 := none
  /-- What is added, wrapping around, to every integer that is set. -/
  offset : Int32 := 0
  /-- How many characters the text's getter gives at most. -/
  stringLimit : Option Nat := none
  /-- The text's setter appends. -/
  stringAppend : Bool := false
  /-- The text's setter ignores the empty text. -/
  keepOnEmpty : Bool := false
  /-- The nested struct's getter shares the storage. -/
  aliasGet : Bool := false
  /-- The nested struct's setter adopts the argument's storage. -/
  aliasSet : Bool := false
  /-- The nested struct's setter also overwrites the outer integer. -/
  clobberSibling : Bool := false
  /-- The fixed integer result. -/
  returnPrimitive : Int32 := Reference.fixedInt32
  /-- The fixed text result. -/
  returnString : String := Reference.fixedString
  combo : Option ComboFault := none
deriving DecidableEq

namespace Faults

/-- What a setter stores for an integer. -/
def stored (f : Faults) (n : Int32) : Int32 :=
  (match f.clamp with
    | some bound => if n ≤ bound then n else bound
    | none => n) + f.offset

/-- What the text's getter gives. -/
def shown (f : Faults) (s : String) : String :=
  match f.stringLimit with
  | some limit => String.ofList (s.toList.take limit)
  | none => s

/-- The text after its setter was called. -/
def overwritten (f : Faults) (old new : String) : String :=
  if f.keepOnEmpty ∧ new = "" then old
  else if f.stringAppend then old ++ new
  else new

/-- What the selecting function gives. -/
def selected (f : Faults) (str1 str2 : String) (b : Bool) : String :=
  match f.combo with
  | none => Reference.select str1 str2 b
  | some .invert => Reference.select str1 str2 (!b)
  | some .first => str1
  | some .second => str2
  | some .concat => str1 ++ str2

end Faults

/-- An outer struct whose nested struct is a cell that others may share. -/
structure SharingOuter where
  int32 : Int32
  bool : Bool
  string : String
  /-- The key of the cell. -/
  cell : Nat
deriving DecidableEq

/-- Outer structs and the cells that hold their nested integers. -/
structure SharedStore where
  outers : Table SharingOuter
  cells : Table Int32
  /-- The key of the next new struct or cell. -/
  next : Nat
deriving DecidableEq

namespace SharedStore

/-- A store without structs. -/
def empty : SharedStore := ⟨[], [], 0⟩

/-- The outer struct of a reference. -/
def outer (s : SharedStore) (a : Nat) : SharingOuter := (s.outers.get? a).getD ⟨0, false, "", 0⟩

/-- The integer in a cell. -/
def cell (s : SharedStore) (b : Nat) : Int32 := (s.cells.get? b).getD 0

/-- A new cell. -/
def addCell (n : Int32) : Action SharedStore Nat := fun s =>
  ⟨s.next, { s with cells := (s.next, n) :: s.cells, next := s.next + 1 }, []⟩

/-- A new outer struct. -/
def addOuter (x : SharingOuter) : Action SharedStore Nat := fun s =>
  ⟨s.next, { s with outers := (s.next, x) :: s.outers, next := s.next + 1 }, []⟩

/-- Changes an outer struct. -/
def updateOuter (a : Nat) (f : SharingOuter → SharingOuter) : Action SharedStore Unit :=
  .modify fun s => { s with outers := s.outers.update a f }

/-- Sets the integer in a cell. -/
def setCell (b : Nat) (n : Int32) : Action SharedStore Unit :=
  .modify fun s => { s with cells := s.cells.update b fun _ => n }

end SharedStore

/-- The boundary with a combination of faults. Its functions without result do nothing, and nothing
is released when a struct's life ends. -/
def faultyBoundary (f : Faults) : Boundary SharedStore Nat Nat where
  name := "faulty"
  newOuter := do
    let cell ← SharedStore.addCell f.innerDefault
    SharedStore.addOuter ⟨f.int32Default, f.boolDefault, f.stringDefault, cell⟩
  newInner := SharedStore.addCell f.innerDefault
  dropOuter _ := pure ()
  dropInner _ := pure ()
  outerInt32 a := .gets fun s => (s.outer a).int32
  setOuterInt32 a n := SharedStore.updateOuter a fun x => { x with int32 := f.stored n }
  outerBool a := .gets fun s => (s.outer a).bool
  outerString a := .gets fun s => f.shown (s.outer a).string
  setOuterString a t :=
    SharedStore.updateOuter a fun x => { x with string := f.overwritten x.string t }
  outerInner a := do
    let cell ← Action.gets fun s => (s.outer a).cell
    if f.aliasGet then pure cell
    else
      let n ← Action.gets fun s => s.cell cell
      SharedStore.addCell n
  setOuterInner a b := do
    let n ← Action.gets fun s => s.cell b
    if f.aliasSet then SharedStore.updateOuter a fun x => { x with cell := b }
    else
      let cell ← Action.gets fun s => (s.outer a).cell
      SharedStore.setCell cell n
    if f.clobberSibling then SharedStore.updateOuter a fun x => { x with int32 := n }
  innerInt32 b := .gets fun s => s.cell b
  setInnerInt32 b n := SharedStore.setCell b (f.stored n)
  simple := pure ()
  primitiveArgs _ _ := pure ()
  stringArg _ := pure ()
  primitiveAndStringArg _ _ _ := pure ()
  returnPrimitive := pure f.returnPrimitive
  returnString := pure f.returnString
  combo str1 str2 b := pure (f.selected str1 str2 b)

end BoundaryContract
