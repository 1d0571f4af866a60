import BoundaryContract.Proofs.Client.Values

/-!
# Clients of a boundary that serves plain values

On a boundary that serves plain values, a client program behaves as if its slots held the values
themselves. The invariant is `Tracks H s m v`: the state `s` bears out, as a holding, that the
references in the slots `m` stand for the values in the slots `v`. Every step keeps it
(`Serves.perform`), and so does looking at all slots through the getters, which shows exactly the
values (`Serves.observe`).

A step that reaches the boundary leaves a settled state. A step that does not reach it leaves the
state as it is, and then nothing more is known of it than before.
-/

namespace BoundaryContract

open Client

variable {σ ω ι : Type} {B : CloningBoundary σ ω ι} {H Holds Settled : Holding σ ω ι} {s s' : σ}

namespace Client

/-- The references in the slots of a client stand for these values, and the state bears it out. -/
def Tracks (H : Holding σ ω ι) (s : σ) (m : Memory ω ι) (v : Memory Outer Inner) : Prop :=
  ∃ k : Memory (ω × Outer) (ι × Inner), k.refs = m ∧ k.values = v ∧ H s k.outers.held k.inners.held

namespace Tracks

variable {k : Memory (ω × Outer) (ι × Inner)} {slot : String} {a : ω} {b : ι} {x x' : Outer}
  {y y' : Inner}

/-- What one holding implies for the slots, a weaker one implies too. -/
theorem mono {H' : Holding σ ω ι} {m : Memory ω ι} {v : Memory Outer Inner}
    (hH : ∀ {s os is}, H s os is → H' s os is) (h : Tracks H s m v) : Tracks H' s m v := by
  obtain ⟨k, hm, hv, hk⟩ := h
  exact ⟨k, hm, hv, hH hk⟩

/-- An outer struct in a slot is one of those that are held. -/
theorem outer (hl : k.outers.lookup slot = some (a, x)) (h : H s k.outers.held k.inners.held) :
    H s ((a, x) ::ₘ (k.outers.remove slot).held) k.inners.held :=
  Slots.held_of_lookup hl ▸ h

/-- A nested struct in a slot is one of those that are held. -/
theorem inner (hl : k.inners.lookup slot = some (b, y)) (h : H s k.outers.held k.inners.held) :
    H s k.outers.held ((b, y) ::ₘ (k.inners.remove slot).held) :=
  Slots.held_of_lookup hl ▸ h

/-- An outer struct that is still held as it was leaves the slots standing for the same values. -/
theorem of_outer (hl : k.outers.lookup slot = some (a, x))
    (h : H s ((a, x) ::ₘ (k.outers.remove slot).held) k.inners.held) :
    Tracks H s k.refs k.values :=
  ⟨k, rfl, rfl, Slots.held_of_lookup hl ▸ h⟩

/-- A nested struct that is still held as it was leaves the slots standing for the same values. -/
theorem of_inner (hl : k.inners.lookup slot = some (b, y))
    (h : H s k.outers.held ((b, y) ::ₘ (k.inners.remove slot).held)) :
    Tracks H s k.refs k.values :=
  ⟨k, rfl, rfl, Slots.held_of_lookup hl ▸ h⟩

theorem putOuter (h : H s ((a, x) ::ₘ (k.outers.remove slot).held) k.inners.held) :
    Tracks H s (k.refs.putOuter slot a) (k.values.putOuter slot x) :=
  ⟨k.putOuter slot (a, x), k.refs_putOuter .., k.values_putOuter .., Slots.held_put .. ▸ h⟩

theorem putInner (h : H s k.outers.held ((b, y) ::ₘ (k.inners.remove slot).held)) :
    Tracks H s (k.refs.putInner slot b) (k.values.putInner slot y) :=
  ⟨k.putInner slot (b, y), k.refs_putInner .., k.values_putInner .., Slots.held_put .. ▸ h⟩

theorem remove (h : H s (k.outers.remove slot).held (k.inners.remove slot).held) :
    Tracks H s (k.refs.remove slot) (k.values.remove slot) :=
  ⟨k.remove slot, k.refs_remove slot, k.values_remove slot, h⟩

/-- Changing an outer struct in its slot changes the value and keeps the reference. -/
theorem setOuter (hl : k.outers.lookup slot = some (a, x))
    (h : H s ((a, x') ::ₘ (k.outers.remove slot).held) k.inners.held) :
    Tracks H s k.refs (k.values.putOuter slot x') := by
  have hput : k.refs.putOuter slot a = k.refs :=
    congrArg (Memory.mk · k.refs.inners) (Slots.put_of_lookup (by simp [hl]))
  exact hput ▸ putOuter h

/-- Changing a nested struct in its slot changes the value and keeps the reference. -/
theorem setInner (hl : k.inners.lookup slot = some (b, y))
    (h : H s k.outers.held ((b, y') ::ₘ (k.inners.remove slot).held)) :
    Tracks H s k.refs (k.values.putInner slot y') := by
  have hput : k.refs.putInner slot b = k.refs :=
    congrArg (Memory.mk k.refs.outers) (Slots.put_of_lookup (by simp [hl]))
  exact hput ▸ putInner h

end Tracks

/-- A step gave the answer and left the slots that it leaves on plain values, and if it reached the
boundary, the state is settled. -/
structure Performs (Holds Settled : Holding σ ω ι) (step : Step) (v : Memory Outer Inner)
    (r : Answer × Memory ω ι) (s : σ) : Prop where
  answer : r.1 = (step.onValues v).1
  tracks : Tracks Holds s r.2 (step.onValues v).2
  settled : step.reached r.1 → Tracks Settled s r.2 (step.onValues v).2

namespace Performs

variable {step : Step} {v v' : Memory Outer Inner} {m m' : Memory ω ι} {answer : Answer}

/-- A step that leaves a settled state performs, whether it reached the boundary or not. -/
theorem of_settled (S : Serves B Holds Settled) (hv : step.onValues v = (answer, v'))
    (h : Tracks Settled s m v') : Performs Holds Settled step v (answer, m) s := by
  refine ⟨by rw [hv], ?_, fun _ => ?_⟩
  · exact hv ▸ h.mono S.holds
  · exact hv ▸ h

/-- A step that does not reach the boundary need not settle the state. -/
theorem of_unreached (hv : step.onValues v = (answer, v')) (hr : step.reached answer = false)
    (h : Tracks Holds s m v') : Performs Holds Settled step v (answer, m) s := by
  refine ⟨by rw [hv], hv ▸ h, fun hr' => ?_⟩
  rw [hr] at hr'
  cases hr'

end Performs

end Client

namespace Serves

/-! ### Putting structs into slots -/

section

variable {os : Multiset (ω × Outer)} {is : Multiset (ι × Inner)} (slot : String)

/-- Dropping what an outer slot held takes it out of what is held. -/
theorem dropOldOuter (S : Serves B Holds Settled) {outers : Slots (ω × Outer)}
    (h : Settled s (os + outers.held) is) :
    (dropOld B.dropOuter ((outers.lookup slot).map Prod.fst)).Gives s [] fun _ s' =>
      Settled s' (os + (outers.remove slot).held) is := by
  cases hl : outers.lookup slot with
  | none =>
    rw [Slots.remove_of_lookup_none hl]
    exact .pure h
  | some old =>
    rw [Slots.held_of_lookup hl, Multiset.add_cons] at h
    exact S.dropOuter (S.holds h)

/-- Dropping what a nested slot held takes it out of what is held. -/
theorem dropOldInner (S : Serves B Holds Settled) {inners : Slots (ι × Inner)}
    (h : Settled s os (is + inners.held)) :
    (dropOld B.dropInner ((inners.lookup slot).map Prod.fst)).Gives s [] fun _ s' =>
      Settled s' os (is + (inners.remove slot).held) := by
  cases hl : inners.lookup slot with
  | none =>
    rw [Slots.remove_of_lookup_none hl]
    exact .pure h
  | some old =>
    rw [Slots.held_of_lookup hl, Multiset.add_cons] at h
    exact S.dropInner (S.holds h)

variable {k : Memory (ω × Outer) (ι × Inner)} {a : ω} {b : ι} {x : Outer} {y : Inner}

/-- A new outer struct that is put into a slot takes the place of what the slot held. -/
theorem storeOuter (S : Serves B Holds Settled)
    (h : Settled s ((a, x) ::ₘ k.outers.held) k.inners.held) :
    (storeOuter B k.refs slot a).Gives s [] fun m s' =>
      Tracks Settled s' m (k.values.putOuter slot x) := by
  rw [Client.storeOuter, Memory.lookup_refs_outers]
  rw [← Multiset.singleton_add] at h
  refine .bind_silent (S.dropOldOuter slot h) fun _ _ hs => .pure (.putOuter ?_)
  rwa [← Multiset.singleton_add]

/-- A new nested struct that is put into a slot takes the place of what the slot held. -/
theorem storeInner (S : Serves B Holds Settled)
    (h : Settled s k.outers.held ((b, y) ::ₘ k.inners.held)) :
    (storeInner B k.refs slot b).Gives s [] fun m s' =>
      Tracks Settled s' m (k.values.putInner slot y) := by
  rw [Client.storeInner, Memory.lookup_refs_inners]
  rw [← Multiset.singleton_add] at h
  refine .bind_silent (S.dropOldInner slot h) fun _ _ hs => .pure (.putInner ?_)
  rwa [← Multiset.singleton_add]

end

/-! ### Steps that store, read, write or call

A step that reaches the boundary stores a struct that a call hands out, reads the struct in its
slot, writes to it, or only calls. There is one lemma for each of these ways, from what the call
gives to what the step performs.
-/

section

variable {k : Memory (ω × Outer) (ι × Inner)} {slot : String} {step : Step} {a : ω} {b : ι}
  {x x' : Outer} {y y' : Inner} {es : List Event} {α : Type} {result : α}

/-- A step that stores an outer struct: a call hands it out, and it goes into its slot. -/
private theorem storesOuter (S : Serves B Holds Settled) {make : Action σ ω}
    (hv : step.onValues k.values = (.none, k.values.putOuter slot x))
    (h : make.Gives s [] fun a s' => Settled s' ((a, x) ::ₘ k.outers.held) k.inners.held) :
    (do let a ← make
        return (Answer.none, ← Client.storeOuter B k.refs slot a)).Gives s []
      (Performs Holds Settled step k.values) :=
  .bind_silent h fun _ _ hs =>
    .bind_silent (S.storeOuter slot hs) fun _ _ hm => .pure (.of_settled S hv hm)

/-- A step that stores a nested struct: a call hands it out, and it goes into its slot. -/
private theorem storesInner (S : Serves B Holds Settled) {make : Action σ ι}
    (hv : step.onValues k.values = (.none, k.values.putInner slot y))
    (h : make.Gives s [] fun b s' => Settled s' k.outers.held ((b, y) ::ₘ k.inners.held)) :
    (do let b ← make
        return (Answer.none, ← Client.storeInner B k.refs slot b)).Gives s []
      (Performs Holds Settled step k.values) :=
  .bind_silent h fun _ _ hs =>
    .bind_silent (S.storeInner slot hs) fun _ _ hm => .pure (.of_settled S hv hm)

/-- A step that answers with what a call gives, and whose slots stand for the same values after the
call as before. -/
private theorem reads (S : Serves B Holds Settled) {call : Action σ α} (answer : α → Answer)
    (hv : step.onValues k.values = (answer result, k.values))
    (h : call.Gives s es fun r s' => r = result ∧ Tracks Settled s' k.refs k.values) :
    (keeping k.refs answer call).Gives s es (Performs Holds Settled step k.values) := by
  refine h.map fun r s' hs => ?_
  rw [hs.1]
  exact .of_settled S hv hs.2

/-- Reading the outer struct in a slot gives it back unchanged. -/
private theorem readsOuter (S : Serves B Holds Settled) {call : Action σ α} (answer : α → Answer)
    (hl : k.outers.lookup slot = some (a, x))
    (hv : step.onValues k.values = (answer result, k.values))
    (h : call.Gives s [] fun r s' =>
      r = result ∧ Settled s' ((a, x) ::ₘ (k.outers.remove slot).held) k.inners.held) :
    (keeping k.refs answer call).Gives s [] (Performs Holds Settled step k.values) :=
  S.reads answer hv (h.mono fun _ _ hs => ⟨hs.1, .of_outer hl hs.2⟩)

/-- Reading the nested struct in a slot gives it back unchanged. -/
private theorem readsInner (S : Serves B Holds Settled) {call : Action σ α} (answer : α → Answer)
    (hl : k.inners.lookup slot = some (b, y))
    (hv : step.onValues k.values = (answer result, k.values))
    (h : call.Gives s [] fun r s' =>
      r = result ∧ Settled s' k.outers.held ((b, y) ::ₘ (k.inners.remove slot).held)) :
    (keeping k.refs answer call).Gives s [] (Performs Holds Settled step k.values) :=
  S.reads answer hv (h.mono fun _ _ hs => ⟨hs.1, .of_inner hl hs.2⟩)

/-- A step whose call gives nothing back and leaves the references standing for the new values. -/
private theorem writes (S : Serves B Holds Settled) {call : Action σ Unit}
    {v' : Memory Outer Inner} (hv : step.onValues k.values = (.none, v'))
    (h : call.Gives s es fun _ s' => Tracks Settled s' k.refs v') :
    (keeping k.refs (fun _ => .none) call).Gives s es (Performs Holds Settled step k.values) :=
  h.map fun _ _ hs => .of_settled S hv hs

/-- Writing to the outer struct in a slot changes the value in the slot. -/
private theorem writesOuter (S : Serves B Holds Settled) {call : Action σ Unit}
    (hl : k.outers.lookup slot = some (a, x))
    (hv : step.onValues k.values = (.none, k.values.putOuter slot x'))
    (h : call.Gives s [] fun _ s' =>
      Settled s' ((a, x') ::ₘ (k.outers.remove slot).held) k.inners.held) :
    (keeping k.refs (fun _ => .none) call).Gives s [] (Performs Holds Settled step k.values) :=
  S.writes hv (h.mono fun _ _ hs => .setOuter hl hs)

/-- Writing to the nested struct in a slot changes the value in the slot. -/
private theorem writesInner (S : Serves B Holds Settled) {call : Action σ Unit}
    (hl : k.inners.lookup slot = some (b, y))
    (hv : step.onValues k.values = (.none, k.values.putInner slot y'))
    (h : call.Gives s [] fun _ s' =>
      Settled s' k.outers.held ((b, y') ::ₘ (k.inners.remove slot).held)) :
    (keeping k.refs (fun _ => .none) call).Gives s [] (Performs Holds Settled step k.values) :=
  S.writes hv (h.mono fun _ _ hs => .setInner hl hs)

/-- A free function that returns something is answered with what it returns. -/
private theorem answers (S : Serves B Holds Settled) {call : Action σ α} (answer : α → Answer)
    (hv : step.onValues k.values = (answer result, k.values))
    (h : call.Gives s es fun r s' => r = result ∧ Settled s' k.outers.held k.inners.held) :
    (keeping k.refs answer call).Gives s es (Performs Holds Settled step k.values) :=
  S.reads answer hv (h.mono fun _ _ hs => ⟨hs.1, k, rfl, rfl, hs.2⟩)

/-- A free function that returns nothing leaves every struct as it was. -/
private theorem calls (S : Serves B Holds Settled) {call : Action σ Unit}
    (hv : step.onValues k.values = (.none, k.values))
    (h : call.Gives s es fun _ s' => Settled s' k.outers.held k.inners.held) :
    (keeping k.refs (fun _ => .none) call).Gives s es (Performs Holds Settled step k.values) :=
  S.writes hv (h.mono fun _ _ hs => ⟨k, rfl, rfl, hs⟩)

end

/-! ### Steps that look into slots

Each looks for a struct in an outer slot, some of them then in a nested one, and goes one of the
ways above with what it finds. If there is nothing, it is refused.
-/

section

variable {k : Memory (ω × Outer) (ι × Inner)} (slot source : String)

/-- A step that finds an empty slot is refused, and what is held stays held. -/
private theorem refused {step : Step} (hv : step.onValues k.values = (.noSuchSlot, k.values))
    (hr : step.reached .noSuchSlot = false) (hk : Holds s k.outers.held k.inners.held) :
    (refuse k.refs).Gives s [] (Performs Holds Settled step k.values) :=
  .pure (.of_unreached hv hr ⟨k, rfl, rfl, hk⟩)

/-- A copy is stored beside the struct it is taken from. -/
private theorem perform_clone (S : Serves B Holds Settled)
    (hk : Holds s k.outers.held k.inners.held) :
    ((Step.clone source slot).perform B k.refs).Gives s []
      (Performs Holds Settled (.clone source slot) k.values) := by
  rw [Step.perform, Memory.lookup_refs_outers, Memory.lookup_refs_inners]
  cases ho : k.outers.lookup source with
  | some c =>
    have hcopy := S.cloneOuter (Tracks.outer ho hk)
    rw [← Slots.held_of_lookup ho] at hcopy
    exact S.storesOuter (by simp [Step.onValues, ho]) hcopy
  | none =>
    cases hi : k.inners.lookup source with
    | some c =>
      have hcopy := S.cloneInner (Tracks.inner hi hk)
      rw [← Slots.held_of_lookup hi] at hcopy
      exact S.storesInner (by simp [Step.onValues, ho, hi]) hcopy
    | none => exact refused (by simp [Step.onValues, ho, hi]) rfl hk

/-- A copy of the nested struct is stored beside the outer one. -/
private theorem perform_getInner (S : Serves B Holds Settled)
    (hk : Holds s k.outers.held k.inners.held) :
    ((Step.getInner source slot).perform B k.refs).Gives s []
      (Performs Holds Settled (.getInner source slot) k.values) := by
  rw [Step.perform, Memory.lookup_refs_outers]
  cases ho : k.outers.lookup source with
  | some c =>
    have hcopy := S.outerInner (Tracks.outer ho hk)
    rw [← Slots.held_of_lookup ho] at hcopy
    exact S.storesInner (by simp [Step.onValues, ho]) hcopy
  | none => exact refused (by simp [Step.onValues, ho]) rfl hk

/-- Both slots of a name are emptied, and what they held is given back. -/
private theorem perform_drop (S : Serves B Holds Settled)
    (hk : Holds s k.outers.held k.inners.held) :
    ((Step.drop slot).perform B k.refs).Gives s []
      (Performs Holds Settled (.drop slot) k.values) := by
  rw [Step.perform, Memory.lookup_refs_outers, Memory.lookup_refs_inners]
  cases ho : k.outers.lookup slot with
  | some c =>
    refine .bind_silent (S.dropOuter (Tracks.outer ho hk)) fun _ s' hs => ?_
    rw [← Multiset.zero_add k.inners.held] at hs
    refine .bind_silent (S.dropOldInner slot hs) fun _ s'' hs' => .pure ?_
    rw [Multiset.zero_add] at hs'
    exact .of_settled S (by simp [Step.onValues, ho]) (.remove hs')
  | none =>
    refine .bind_run rfl ?_
    cases hi : k.inners.lookup slot with
    | some d =>
      refine .bind_silent (S.dropInner (Tracks.inner hi hk)) fun _ s' hs => .pure ?_
      rw [← Slots.remove_of_lookup_none ho] at hs
      exact .of_settled S (by simp [Step.onValues, ho, hi]) (.remove hs)
    | none =>
      -- neither slot of the name holds anything, so the boundary is not reached
      rw [← Slots.remove_of_lookup_none ho, ← Slots.remove_of_lookup_none hi] at hk
      refine .bind_run rfl (.pure ?_)
      exact .of_unreached (by simp [Step.onValues, ho, hi]) rfl (.remove hk)

/-- The integer is read from the outer struct of the name, or else from the nested one. -/
private theorem perform_getInt32 (S : Serves B Holds Settled)
    (hk : Holds s k.outers.held k.inners.held) :
    ((Step.getInt32 slot).perform B k.refs).Gives s []
      (Performs Holds Settled (.getInt32 slot) k.values) := by
  rw [Step.perform, Memory.lookup_refs_outers, Memory.lookup_refs_inners]
  cases ho : k.outers.lookup slot with
  | some c =>
    exact S.readsOuter .int32 ho (by simp [Step.onValues, ho]) (S.outerInt32 (Tracks.outer ho hk))
  | none =>
    cases hi : k.inners.lookup slot with
    | some c =>
      exact S.readsInner .int32 hi (by simp [Step.onValues, ho, hi])
        (S.innerInt32 (Tracks.inner hi hk))
    | none => exact refused (by simp [Step.onValues, ho, hi]) rfl hk

/-- The Boolean is read from the outer struct of the name. -/
private theorem perform_getBool (S : Serves B Holds Settled)
    (hk : Holds s k.outers.held k.inners.held) :
    ((Step.getBool slot).perform B k.refs).Gives s []
      (Performs Holds Settled (.getBool slot) k.values) := by
  rw [Step.perform, Memory.lookup_refs_outers]
  cases ho : k.outers.lookup slot with
  | some c =>
    exact S.readsOuter .bool ho (by simp [Step.onValues, ho]) (S.outerBool (Tracks.outer ho hk))
  | none => exact refused (by simp [Step.onValues, ho]) rfl hk

/-- The text is read from the outer struct of the name. -/
private theorem perform_getString (S : Serves B Holds Settled)
    (hk : Holds s k.outers.held k.inners.held) :
    ((Step.getString slot).perform B k.refs).Gives s []
      (Performs Holds Settled (.getString slot) k.values) := by
  rw [Step.perform, Memory.lookup_refs_outers]
  cases ho : k.outers.lookup slot with
  | some c =>
    exact S.readsOuter .string ho (by simp [Step.onValues, ho]) (S.outerString (Tracks.outer ho hk))
  | none => exact refused (by simp [Step.onValues, ho]) rfl hk

/-- The integer is written to the outer struct of the name, or else to the nested one. -/
private theorem perform_setInt32 (S : Serves B Holds Settled) (n : Int32)
    (hk : Holds s k.outers.held k.inners.held) :
    ((Step.setInt32 slot n).perform B k.refs).Gives s []
      (Performs Holds Settled (.setInt32 slot n) k.values) := by
  rw [Step.perform, Memory.lookup_refs_outers, Memory.lookup_refs_inners]
  cases ho : k.outers.lookup slot with
  | some c =>
    have hset := S.setOuterInt32 n (Tracks.outer ho hk)
    exact S.writesOuter ho (by simp [Step.onValues, ho]) hset
  | none =>
    cases hi : k.inners.lookup slot with
    | some c =>
      have hset := S.setInnerInt32 n (Tracks.inner hi hk)
      exact S.writesInner hi (by simp [Step.onValues, ho, hi]) hset
    | none => exact refused (by simp [Step.onValues, ho, hi]) rfl hk

/-- The text is written to the outer struct of the name. -/
private theorem perform_setString (S : Serves B Holds Settled) (text : String)
    (hk : Holds s k.outers.held k.inners.held) :
    ((Step.setString slot text).perform B k.refs).Gives s []
      (Performs Holds Settled (.setString slot text) k.values) := by
  rw [Step.perform, Memory.lookup_refs_outers]
  cases ho : k.outers.lookup slot with
  | some c =>
    have hset := S.setOuterString text (Tracks.outer ho hk)
    exact S.writesOuter ho (by simp [Step.onValues, ho]) hset
  | none => exact refused (by simp [Step.onValues, ho]) rfl hk

/-- The nested struct is copied into the outer one and keeps its own slot. -/
private theorem perform_setInner (S : Serves B Holds Settled)
    (hk : Holds s k.outers.held k.inners.held) :
    ((Step.setInner slot source).perform B k.refs).Gives s []
      (Performs Holds Settled (.setInner slot source) k.values) := by
  rw [Step.perform, Memory.lookup_refs_outers, Memory.lookup_refs_inners]
  cases ho : k.outers.lookup slot with
  | some c =>
    cases hi : k.inners.lookup source with
    | some d =>
      -- both structs are taken out of what is held, and the argument is put back unchanged
      have hs := Tracks.inner hi hk
      rw [Slots.held_of_lookup ho] at hs
      have hset := S.setOuterInner hs
      rw [← Slots.held_of_lookup hi] at hset
      have hv : (Step.setInner slot source).onValues k.values =
          (.none, k.values.putOuter slot { c.2 with inner := d.2 }) := by
        simp [Step.onValues, ho, hi]
      exact S.writesOuter ho hv hset
    | none => exact refused (by simp [Step.onValues, ho, hi]) rfl hk
  | none => exact refused (by simp [Step.onValues, ho]) rfl hk

end

/-- A call by name answers with its value after its event, or with the error, and then nothing was
called. -/
private theorem perform_invoke (S : Serves B Holds Settled)
    {k : Memory (ω × Outer) (ι × Inner)} (function : String) (args : List Value)
    (hk : Holds s k.outers.held k.inners.held) :
    ((Step.invoke function args).perform B k.refs).Gives s
      ((Step.invoke function args).events B.toBoundary.invoking)
      (Performs Holds Settled (.invoke function args) k.values) := by
  rw [Step.perform, Step.events]
  cases hr : invoked function args with
  | ok r =>
    refine (S.invoke_ok hk hr).bind_quiet fun w s' hs => ?_
    rw [hs.1]
    exact .pure (.of_settled S (by simp [Step.onValues, hr]) ⟨k, rfl, rfl, hs.2⟩)
  | error e =>
    rw [B.toBoundary.invoke_error hr]
    exact .pure (.of_unreached (by simp [Step.onValues, hr]) rfl ⟨k, rfl, rfl, hk⟩)

/-- Every step gives the answer and the events that it gives on plain values, and keeps the
references standing for the values. -/
theorem perform (S : Serves B Holds Settled) {m : Memory ω ι} {v : Memory Outer Inner}
    (h : Tracks Holds s m v) (step : Step) :
    (step.perform B m).Gives s (step.events B.toBoundary.invoking)
      (Performs Holds Settled step v) := by
  obtain ⟨k, rfl, rfl, hk⟩ := h
  cases step with
  | newOuter slot => exact S.storesOuter rfl (S.newOuter hk)
  | newInner slot => exact S.storesInner rfl (S.newInner hk)
  | clone source slot => exact S.perform_clone slot source hk
  | drop slot => exact S.perform_drop slot hk
  | getInt32 slot => exact S.perform_getInt32 slot hk
  | setInt32 slot n => exact S.perform_setInt32 slot n hk
  | getBool slot => exact S.perform_getBool slot hk
  | getString slot => exact S.perform_getString slot hk
  | setString slot text => exact S.perform_setString slot text hk
  | getInner source slot => exact S.perform_getInner slot source hk
  | setInner slot source => exact S.perform_setInner slot source hk
  | simple => exact S.calls rfl (S.simple hk)
  | primitiveArgs i b => exact S.calls rfl (S.primitiveArgs i b hk)
  | stringArg text => exact S.calls rfl (S.stringArg text hk)
  | primitiveAndStringArg i b text => exact S.calls rfl (S.primitiveAndStringArg i b text hk)
  | returnPrimitive => exact S.answers .int32 rfl (S.returnPrimitive hk)
  | returnString => exact S.answers .string rfl (S.returnString hk)
  | combo str1 str2 b => exact S.answers .string rfl (S.combo str1 str2 b hk)
  | invoke function args => exact S.perform_invoke function args hk

/-! ### Looking at the slots -/

section

variable {os : Multiset (ω × Outer)} {is : Multiset (ι × Inner)} {a : ω} {b : ι} {x : Outer}
  {y : Inner}

/-- The getters of an outer struct show its value, and the copy of its nested struct that they take
is given back. -/
theorem observeOuter (S : Serves B Holds Settled) (h : Holds s ((a, x) ::ₘ os) is) :
    (observeOuter B a).Gives s [] fun seen s' => seen = x ∧ Holds s' ((a, x) ::ₘ os) is := by
  refine .bind_silent (S.outerInt32 h) ?_
  rintro _ s1 ⟨rfl, h1⟩
  refine .bind_silent (S.outerBool (S.holds h1)) ?_
  rintro _ s2 ⟨rfl, h2⟩
  refine .bind_silent (S.outerString (S.holds h2)) ?_
  rintro _ s3 ⟨rfl, h3⟩
  refine .bind_silent (S.outerInner (S.holds h3)) fun b s4 h4 => ?_
  refine .bind_silent (S.innerInt32 (S.holds h4)) ?_
  rintro _ s5 ⟨rfl, h5⟩
  exact .bind_silent (S.dropInner (S.holds h5)) fun _ s6 h6 => .pure ⟨rfl, S.holds h6⟩

/-- The getter of a nested struct shows its value. -/
theorem observeInner (S : Serves B Holds Settled) (h : Holds s os ((b, y) ::ₘ is)) :
    (observeInner B b).Gives s [] fun seen s' => seen = y ∧ Holds s' os ((b, y) ::ₘ is) :=
  (S.innerInt32 h).map fun _ _ hs => ⟨congrArg Inner.mk hs.1, S.holds hs.2⟩

end

/-- Looking at every slot in turn shows what each of them holds, if looking at one shows what that
one holds and leaves everything as it is. -/
private theorem forSlots_gives {α γ : Type} {P : σ → Multiset (α × γ) → Prop} {f : α → Action σ γ}
    (hf : ∀ {s a x rest}, P s ((a, x) ::ₘ rest) →
      (f a).Gives s [] fun seen s' => seen = x ∧ P s' ((a, x) ::ₘ rest))
    {slots : Slots (α × γ)} (h : P s slots.held) :
    (forSlots f (slots.map Prod.fst)).Gives s [] fun seen s' =>
      seen = slots.map Prod.snd ∧ P s' slots.held := by
  induction slots generalizing P s with
  | nil => exact .pure ⟨rfl, h⟩
  | cons e slots ih =>
    obtain ⟨n, a, x⟩ := e
    rw [Slots.held_cons] at h
    refine .bind_silent (hf h) ?_
    rintro _ s' ⟨rfl, h'⟩
    -- the rest of the slots is looked at with the first of them set aside
    have hrest := ih (P := fun s rest => P s ((a, _) ::ₘ rest)) (fun {s b y rest} hb => by
      rw [Multiset.cons_swap] at hb
      refine (hf hb).mono fun _ _ hs => ?_
      rwa [Multiset.cons_swap]) h'
    refine .bind_silent hrest ?_
    rintro _ s'' ⟨rfl, h''⟩
    exact .pure ⟨rfl, h''⟩

/-- The getters show the values in the slots, silently, and nothing is changed by looking. -/
theorem observe (S : Serves B Holds Settled) {m : Memory ω ι} {v : Memory Outer Inner}
    (h : Tracks Holds s m v) :
    (observe B m).Gives s [] fun seen s' => seen = v ∧ Tracks Holds s' m v := by
  obtain ⟨k, rfl, rfl, hk⟩ := h
  refine .bind_silent (forSlots_gives (P := fun s os => Holds s os k.inners.held)
    S.observeOuter hk) ?_
  rintro _ s1 ⟨rfl, h1⟩
  refine .bind_silent (forSlots_gives (P := fun s is => Holds s k.outers.held is)
    S.observeInner h1) ?_
  rintro _ s2 ⟨rfl, h2⟩
  exact .pure ⟨rfl, k, rfl, rfl, h2⟩

/-- A run of steps, with a look at the slots after each of them, shows what it does on plain
values. -/
theorem runSteps (S : Serves B Holds Settled) (steps : List Step) {m : Memory ω ι}
    {v : Memory Outer Inner} (h : Tracks Holds s m v) :
    (runSteps B m steps).Gives s (steps.flatMap (Step.events B.toBoundary.invoking)) fun r _ =>
      r.1 = runOnValues v steps := by
  induction steps generalizing s m v with
  | nil => exact .pure rfl
  | cons step steps ih =>
    refine .bind (S.perform h step) fun r s1 hr => ?_
    refine .bind_silent (S.observe hr.tracks) ?_
    rintro _ s2 ⟨rfl, hs2⟩
    refine .bind_quiet (ih hs2) fun r' s3 hr' => .pure ?_
    rw [hr.answer, hr']
    rfl

/-! ### Dropping everything -/

/-- Dropping what every slot holds, one after another, leaves nothing held. -/
private theorem forSlots_drops {α γ : Type} {P : σ → Multiset (α × γ) → Prop}
    {f : α → Action σ Unit}
    (hf : ∀ {s a x rest}, P s ((a, x) ::ₘ rest) → (f a).Gives s [] fun _ s' => P s' rest)
    {slots : Slots (α × γ)} (h : P s slots.held) :
    (forSlots f (slots.map Prod.fst)).Gives s [] fun _ s' => P s' 0 := by
  induction slots generalizing s with
  | nil => exact .pure h
  | cons e slots ih =>
    rw [Slots.held_cons] at h
    exact .bind_silent (hf h) fun _ _ h' => .bind_silent (ih h') fun _ _ h'' => .pure h''

/-- After everything is dropped, nothing is held. -/
theorem dropAll (S : Serves B Holds Settled) {m : Memory ω ι} {v : Memory Outer Inner}
    (h : Tracks Holds s m v) : (dropAll B m).Gives s [] fun _ s' => Holds s' 0 0 := by
  obtain ⟨k, rfl, -, hk⟩ := h
  refine .bind_silent (forSlots_drops (P := fun s os => Holds s os k.inners.held)
    (fun h => (S.dropOuter h).mono fun _ _ => S.holds) hk) fun _ s1 h1 => ?_
  refine .bind_silent (forSlots_drops (P := fun s is => Holds s 0 is)
    (fun h => (S.dropInner h).mono fun _ _ => S.holds) h1) fun _ s2 h2 => ?_
  exact .pure h2

end Serves

end BoundaryContract
