import BoundaryContract.Invoke

/-!
# Client programs

A client keeps structs in named slots and works on them one step at a time: it creates, copies,
drops, reads and writes them, and calls the free functions directly or by name. Outer and nested
structs have slots of their own. After each step the content of every slot can be observed through
the getters.
-/

namespace BoundaryContract.Client

/-- A step of a client program. -/
inductive Step
  | newOuter (slot : String)
  | newInner (slot : String)
  /-- Copies the outer struct in a slot, or else the nested one. -/
  | clone (source slot : String)
  /-- Drops whatever the slots of a name hold. -/
  | drop (slot : String)
  | getInt32 (slot : String)
  | setInt32 (slot : String) (n : Int32)
  | getBool (slot : String)
  | getString (slot : String)
  | setString (slot : String) (s : String)
  /-- Copies the nested struct of an outer one into a slot. -/
  | getInner (source slot : String)
  /-- Copies a nested struct into an outer one. -/
  | setInner (slot source : String)
  | simple
  | primitiveArgs (i : Int32) (b : Bool)
  | stringArg (s : String)
  | primitiveAndStringArg (i : Int32) (b : Bool) (s : String)
  | returnPrimitive
  | returnString
  | combo (str1 str2 : String) (b : Bool)
  | invoke (function : String) (args : List Value)
deriving DecidableEq

/-- The answer to a step. -/
inductive Answer
  | none
  | int32 (n : Int32)
  | bool (b : Bool)
  | string (s : String)
  | value (v : Value)
  | failed (e : Error)
  /-- A slot that the step needs is empty, and nothing changed. -/
  | noSuchSlot
deriving DecidableEq

/-- Occupied slots by name. -/
abbrev Slots (α : Type) := List (String × α)

namespace Slots

variable {α : Type}

/-- Puts something into a slot. -/
def put (name : String) (a : α) : Slots α → Slots α
  | [] => [(name, a)]
  | (n, b) :: rest => if n = name then (name, a) :: rest else (n, b) :: put name a rest

/-- Empties a slot. -/
def remove (name : String) : Slots α → Slots α
  | [] => []
  | (n, b) :: rest => if n = name then rest else (n, b) :: remove name rest

end Slots

/-- The slots of a client. -/
structure Memory (ω ι : Type) where
  outers : Slots ω
  inners : Slots ι

/-- A client without structs. -/
def Memory.empty {ω ι : Type} : Memory ω ι := ⟨[], []⟩

section

variable {σ ω ι : Type} (B : CloningBoundary σ ω ι)

/-- Drops what a slot held before something was put into it. -/
def dropOld {α : Type} (drop : α → Action σ Unit) (old : Option α) : Action σ Unit :=
  match old with
  | some a => drop a
  | none => pure ()

/-- Puts an outer struct into a slot and drops the one it replaces. -/
def storeOuter (m : Memory ω ι) (slot : String) (a : ω) : Action σ (Memory ω ι) := do
  dropOld B.dropOuter (m.outers.lookup slot)
  return { m with outers := m.outers.put slot a }

/-- Puts a nested struct into a slot and drops the one it replaces. -/
def storeInner (m : Memory ω ι) (slot : String) (b : ι) : Action σ (Memory ω ι) := do
  dropOld B.dropInner (m.inners.lookup slot)
  return { m with inners := m.inners.put slot b }

/-- An answer that leaves the slots as they are. -/
def keeping {α : Type} (m : Memory ω ι) (answer : α → Answer) (call : Action σ α) :
    Action σ (Answer × Memory ω ι) :=
  (fun a => (answer a, m)) <$> call

/-- The answer to a step that needs an empty slot. -/
def refuse (m : Memory ω ι) : Action σ (Answer × Memory ω ι) := pure (.noSuchSlot, m)

/-- Performs a step. -/
def Step.perform (m : Memory ω ι) : Step → Action σ (Answer × Memory ω ι)
  | .newOuter slot => do
    let a ← B.newOuter
    return (.none, ← storeOuter B m slot a)
  | .newInner slot => do
    let b ← B.newInner
    return (.none, ← storeInner B m slot b)
  | .clone source slot =>
    match m.outers.lookup source with
    | some a => do
      let copy ← B.cloneOuter a
      return (.none, ← storeOuter B m slot copy)
    | none =>
      match m.inners.lookup source with
      | some b => do
        let copy ← B.cloneInner b
        return (.none, ← storeInner B m slot copy)
      | none => refuse m
  | .drop slot => do
    dropOld B.dropOuter (m.outers.lookup slot)
    dropOld B.dropInner (m.inners.lookup slot)
    let held := (m.outers.lookup slot).isSome || (m.inners.lookup slot).isSome
    return (.bool held, ⟨m.outers.remove slot, m.inners.remove slot⟩)
  | .getInt32 slot =>
    match m.outers.lookup slot with
    | some a => keeping m .int32 (B.outerInt32 a)
    | none =>
      match m.inners.lookup slot with
      | some b => keeping m .int32 (B.innerInt32 b)
      | none => refuse m
  | .setInt32 slot n =>
    match m.outers.lookup slot with
    | some a => keeping m (fun _ => .none) (B.setOuterInt32 a n)
    | none =>
      match m.inners.lookup slot with
      | some b => keeping m (fun _ => .none) (B.setInnerInt32 b n)
      | none => refuse m
  | .getBool slot =>
    match m.outers.lookup slot with
    | some a => keeping m .bool (B.outerBool a)
    | none => refuse m
  | .getString slot =>
    match m.outers.lookup slot with
    | some a => keeping m .string (B.outerString a)
    | none => refuse m
  | .setString slot s =>
    match m.outers.lookup slot with
    | some a => keeping m (fun _ => .none) (B.setOuterString a s)
    | none => refuse m
  | .getInner source slot =>
    match m.outers.lookup source with
    | some a => do
      let b ← B.outerInner a
      return (.none, ← storeInner B m slot b)
    | none => refuse m
  | .setInner slot source =>
    match m.outers.lookup slot, m.inners.lookup source with
    | some a, some b => keeping m (fun _ => .none) (B.setOuterInner a b)
    | _, _ => refuse m
  | .simple => keeping m (fun _ => .none) B.simple
  | .primitiveArgs i b => keeping m (fun _ => .none) (B.primitiveArgs i b)
  | .stringArg s => keeping m (fun _ => .none) (B.stringArg s)
  | .primitiveAndStringArg i b s => keeping m (fun _ => .none) (B.primitiveAndStringArg i b s)
  | .returnPrimitive => keeping m .int32 B.returnPrimitive
  | .returnString => keeping m .string B.returnString
  | .combo str1 str2 b => keeping m .string (B.combo str1 str2 b)
  | .invoke function args => do
    match ← B.toBoundary.invoke function args with
    | .ok value => return (.value value, m)
    | .error e => return (.failed e, m)

/-- Applies an action to the content of every slot. -/
def forSlots {α β : Type} (f : α → Action σ β) : Slots α → Action σ (Slots β)
  | [] => pure []
  | (name, a) :: rest => do
    let b ← f a
    return (name, b) :: (← forSlots f rest)

/-- The content of an outer struct, read through its getters. -/
def observeOuter (a : ω) : Action σ Outer := do
  let int32 ← B.outerInt32 a
  let bool ← B.outerBool a
  let string ← B.outerString a
  let b ← B.outerInner a
  let inner ← B.innerInt32 b
  B.dropInner b
  return ⟨int32, bool, string, ⟨inner⟩⟩

/-- The content of a nested struct, read through its getter. -/
def observeInner (b : ι) : Action σ Inner := Inner.mk <$> B.innerInt32 b

/-- The content of every slot. -/
def observe (m : Memory ω ι) : Action σ (Memory Outer Inner) := do
  let outers ← forSlots (observeOuter B) m.outers
  let inners ← forSlots (observeInner B) m.inners
  return ⟨outers, inners⟩

/-- Drops everything in the slots. -/
def dropAll (m : Memory ω ι) : Action σ Unit := do
  let _ ← forSlots B.dropOuter m.outers
  let _ ← forSlots B.dropInner m.inners
  return ()

/-- Runs steps in order, with the slots as they are after each of them. -/
def runSteps (m : Memory ω ι) : List Step →
    Action σ (List (Answer × Memory Outer Inner) × Memory ω ι)
  | [] => pure ([], m)
  | step :: rest => do
    let (answer, m) ← step.perform B m
    let seen ← observe B m
    let (answers, m) ← runSteps m rest
    return ((answer, seen) :: answers, m)

end

end BoundaryContract.Client
