import BoundaryContract.Proofs.Client.Slots
import BoundaryContract.Proofs.Invoke

/-!
# Clients of plain values

What a client program means when its slots simply hold plain values: `Step.onValues` gives the
answer to a step and the slots after it, and `Step.events` the events that the step leaves. Nothing
in these definitions knows of references, copies or ownership, so a boundary that does what they say
behaves as if its structs were values.

The events of a step depend on the boundary in one place only: a call by name first leaves an event
that names the backend, so `Step.events` takes that event as a parameter.
-/

namespace BoundaryContract.Client

/-! ### Memories -/

namespace Memory

variable {α β : Type}

/-- Puts an outer struct into a slot. -/
def putOuter (m : Memory α β) (slot : String) (a : α) : Memory α β :=
  { m with outers := m.outers.put slot a }

/-- Puts a nested struct into a slot. -/
def putInner (m : Memory α β) (slot : String) (b : β) : Memory α β :=
  { m with inners := m.inners.put slot b }

/-- Empties the slots of a name. -/
def remove (m : Memory α β) (slot : String) : Memory α β :=
  ⟨m.outers.remove slot, m.inners.remove slot⟩

/-- The number of occupied slots. -/
def occupied (m : Memory α β) : Nat := m.outers.length + m.inners.length

end Memory

/-! ### Steps -/

/-- The answer to a step and the slots after it, when the slots hold plain values. -/
def Step.onValues (v : Memory Outer Inner) : Step → Answer × Memory Outer Inner
  | .newOuter slot => (.none, v.putOuter slot .default)
  | .newInner slot => (.none, v.putInner slot .default)
  | .clone source slot =>
    match v.outers.lookup source, v.inners.lookup source with
    | some x, _ => (.none, v.putOuter slot x)
    | none, some y => (.none, v.putInner slot y)
    | none, none => (.noSuchSlot, v)
  | .drop slot =>
    (.bool ((v.outers.lookup slot).isSome || (v.inners.lookup slot).isSome), v.remove slot)
  | .getInt32 slot =>
    match v.outers.lookup slot, v.inners.lookup slot with
    | some x, _ => (.int32 x.int32, v)
    | none, some y => (.int32 y.int32, v)
    | none, none => (.noSuchSlot, v)
  | .setInt32 slot n =>
    match v.outers.lookup slot, v.inners.lookup slot with
    | some x, _ => (.none, v.putOuter slot { x with int32 := n })
    | none, some _ => (.none, v.putInner slot ⟨n⟩)
    | none, none => (.noSuchSlot, v)
  | .getBool slot =>
    match v.outers.lookup slot with
    | some x => (.bool x.bool, v)
    | none => (.noSuchSlot, v)
  | .getString slot =>
    match v.outers.lookup slot with
    | some x => (.string x.string, v)
    | none => (.noSuchSlot, v)
  | .setString slot s =>
    match v.outers.lookup slot with
    | some x => (.none, v.putOuter slot { x with string := s })
    | none => (.noSuchSlot, v)
  | .getInner source slot =>
    match v.outers.lookup source with
    | some x => (.none, v.putInner slot x.inner)
    | none => (.noSuchSlot, v)
  | .setInner slot source =>
    match v.outers.lookup slot, v.inners.lookup source with
    | some x, some y => (.none, v.putOuter slot { x with inner := y })
    | _, _ => (.noSuchSlot, v)
  | .simple | .primitiveArgs _ _ | .stringArg _ | .primitiveAndStringArg _ _ _ => (.none, v)
  | .returnPrimitive => (.int32 Reference.fixedInt32, v)
  | .returnString => (.string Reference.fixedString, v)
  | .combo str1 str2 b => (.string (Reference.select str1 str2 b), v)
  | .invoke function args =>
    match invoked function args with
    | .ok (w, _) => (.value w, v)
    | .error e => (.failed e, v)

/-- The events of a step, given the event of a call by name. -/
def Step.events (invoking : String → Event) : Step → List Event
  | .simple => Reference.events Reference.simple
  | .primitiveArgs i b => Reference.events (Reference.primitiveArgs i b)
  | .stringArg s => Reference.events (Reference.stringArg s)
  | .primitiveAndStringArg i b s => Reference.events (Reference.primitiveAndStringArg i b s)
  | .invoke function args =>
    match invoked function args with
    | .ok (_, es) => invoking function :: es
    | .error _ => []
  | _ => []

/-- The answers to a run of steps, each with the slots after it, when the slots hold plain
values. -/
def runOnValues (v : Memory Outer Inner) : List Step → List (Answer × Memory Outer Inner)
  | [] => []
  | step :: rest => step.onValues v :: runOnValues (step.onValues v).2 rest

/-- Whether a step with this answer reached the boundary. A step that needs an empty slot does not,
nor a call by name that is not accepted, nor dropping what no slot holds. -/
def Step.reached : Step → Answer → Bool
  | _, .noSuchSlot | _, .failed _ => false
  | .drop _, answer => answer = .bool true
  | _, _ => true

/-! ### References and the values behind them -/

namespace Memory

variable {ω ι : Type} (k : Memory (ω × Outer) (ι × Inner)) (slot : String)

/-- The references in a memory that holds references with their values. -/
def refs : Memory ω ι := ⟨k.outers.map Prod.fst, k.inners.map Prod.fst⟩

/-- The values in a memory that holds references with their values. -/
def values : Memory Outer Inner := ⟨k.outers.map Prod.snd, k.inners.map Prod.snd⟩

@[simp] theorem lookup_refs_outers :
    k.refs.outers.lookup slot = (k.outers.lookup slot).map Prod.fst :=
  Slots.lookup_map ..

@[simp] theorem lookup_refs_inners :
    k.refs.inners.lookup slot = (k.inners.lookup slot).map Prod.fst :=
  Slots.lookup_map ..

@[simp] theorem lookup_values_outers :
    k.values.outers.lookup slot = (k.outers.lookup slot).map Prod.snd :=
  Slots.lookup_map ..

@[simp] theorem lookup_values_inners :
    k.values.inners.lookup slot = (k.inners.lookup slot).map Prod.snd :=
  Slots.lookup_map ..

theorem refs_putOuter (a : ω) (x : Outer) :
    (k.putOuter slot (a, x)).refs = k.refs.putOuter slot a := by
  simp [refs, putOuter, Slots.map_put]

theorem refs_putInner (b : ι) (y : Inner) :
    (k.putInner slot (b, y)).refs = k.refs.putInner slot b := by
  simp [refs, putInner, Slots.map_put]

theorem values_putOuter (a : ω) (x : Outer) :
    (k.putOuter slot (a, x)).values = k.values.putOuter slot x := by
  simp [values, putOuter, Slots.map_put]

theorem values_putInner (b : ι) (y : Inner) :
    (k.putInner slot (b, y)).values = k.values.putInner slot y := by
  simp [values, putInner, Slots.map_put]

theorem refs_remove : (k.remove slot).refs = k.refs.remove slot := by
  simp [refs, remove, Slots.map_remove]

theorem values_remove : (k.remove slot).values = k.values.remove slot := by
  simp [values, remove, Slots.map_remove]

@[simp] theorem occupied_refs : k.refs.occupied = k.outers.held.card + k.inners.held.card := by
  simp [occupied, refs]

end Memory

end BoundaryContract.Client
