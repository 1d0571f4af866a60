import BoundaryContract.Proofs.Abi.Changes
import BoundaryContract.Proofs.Table

/-!
# The heap and its callers' ledger

The callers of the exported functions keep a ledger of the handles they were given and have not
freed. They write it from what they see, the pointers that come back and the handles they pass to a
freeing call, without looking into the heap. A run is disciplined if every handle that is passed is
null or live and of the right kind, and no handle is freed that is not in the ledger. From the start
of the process the second part follows from the first (`disciplined_iff_admissible`); it matters for
runs that begin when others already hold handles.

`disciplined_run_keeps_books` says that the heap of every disciplined run agrees with this ledger,
call by call and as a whole. A call makes at most one change to the heap (`Entry.Changes`), and from
these four kinds of change the invariants follow: `State.Sound` of the heap by itself, and
`State.Agrees` of the heap with the ledger.
-/

namespace BoundaryContract.Abi

/-! ### Ledgers and discipline -/

/-- Handles that were given to the callers and not freed, with the kinds they were given as. -/
abbrev Ledger := List (PointerKind × Handle)

/-- The ledger after a call: a handle that was freed is struck off and one that was returned is
written down. -/
def Entry.book (e : Entry) (ledger : Ledger) : Ledger :=
  e.returned?.toList ++ (e.freed?.elim ledger fun x => ledger.erase x)

/-- The ledger after a schedule that begins with the given ledger. -/
def finalLedger (s : State) (ledger : Ledger) : Schedule → Ledger
  | [] => ledger
  | (t, c) :: rest => finalLedger (Entry.make s t c).after ((Entry.make s t c).book ledger) rest

/-- In this schedule every handle that is passed is null or live and of the right kind, and only
handles from the ledger are freed, so none twice. -/
def Disciplined (s : State) (ledger : Ledger) : Schedule → Prop
  | [] => True
  | (t, c) :: rest =>
    (Entry.make s t c).Admissible ∧ (∀ x ∈ (Entry.make s t c).freed?, x ∈ ledger) ∧
      Disciplined (Entry.make s t c).after ((Entry.make s t c).book ledger) rest

instance Disciplined.decidable :
    ∀ (s : State) (ledger : Ledger) (schedule : Schedule), Decidable (Disciplined s ledger schedule)
  | _, _, [] => .isTrue trivial
  | s, ledger, (t, c) :: rest =>
    have := Disciplined.decidable (Entry.make s t c).after ((Entry.make s t c).book ledger) rest
    inferInstanceAs (Decidable (_ ∧ _ ∧ _))

/-- Discipline asks for live handles, call by call. -/
theorem Disciplined.admissible {s : State} {ledger : Ledger} {schedule : Schedule}
    (h : Disciplined s ledger schedule) : ∀ e ∈ history s schedule, e.Admissible := by
  induction schedule generalizing s ledger with
  | nil => exact List.forall_mem_nil _
  | cons step schedule ih =>
    obtain ⟨hadm, -, hrest⟩ := h
    rw [history, List.forall_mem_cons]
    exact ⟨hadm, ih hrest⟩

/-- A state that the process can be in if every handle that was passed was null or live and of the
right kind. -/
def Reachable (s : State) : Prop :=
  ∃ schedule, (∀ e ∈ history .empty schedule, e.Admissible) ∧ finalState .empty schedule = s

variable {s s₀ : State} {t : ThreadId} {c : Call Pointer} {e : Entry} {ledger : Ledger}
  {schedule : Schedule}

/-! ### The heap by itself -/

/-- Handles are handed out in sequence, and no live outer struct has its truth value set. -/
structure State.Sound (s : State) : Prop where
  fresh : s.objects.Fresh s.next
  unset : Unset s.objects

namespace State.Sound

theorem empty : State.empty.Sound := ⟨.nil _, nofun⟩

/-- Soundness is about the heap and not about the slots. -/
theorem congr {s' : State} (h : s.SameHeap s') (hs : s'.Sound) : s.Sound := by
  obtain ⟨hfresh, hunset⟩ := hs
  rw [← h.objects] at hfresh hunset
  rw [← h.next] at hfresh
  exact ⟨hfresh, hunset⟩

/-- Every change of the heap leaves it sound. -/
theorem after (hchange : e.Changes) (hs : e.before.Sound) : e.after.Sound := by
  cases hchange with
  | nothing heap => exact hs.congr heap
  | handsOut x heap _ _ unset =>
    refine congr heap ⟨hs.fresh.insert x, fun g y hy => ?_⟩
    rw [State.objects_insert, Table.get?_cons] at hy
    split at hy
    · cases hy
      exact unset hs.unset
    · exact hs.unset g y hy
  | writes h x heap _ _ _ unset =>
    refine congr heap ⟨hs.fresh.update h _, fun g y hy => ?_⟩
    rw [State.objects_update, Table.get?_update] at hy
    split at hy
    · obtain ⟨_, -, rfl⟩ := Option.map_eq_some_iff.mp hy
      exact unset hs.unset
    · exact hs.unset g y hy
  | frees kind h heap =>
    refine congr heap ⟨hs.fresh.erase h, fun g y hy => ?_⟩
    rw [State.objects_release] at hy
    by_cases hg : h = g
    · rw [← hg, hs.fresh.get?_erase] at hy
      cases hy
    · rw [Table.get?_erase_of_ne hg] at hy
      exact hs.unset g y hy

end State.Sound

/-- Calls with null or live handles lead from sound states to sound states. -/
theorem finalState_sound (hs : s.Sound) (hadm : ∀ e ∈ history s schedule, e.Admissible) :
    (finalState s schedule).Sound := by
  induction schedule generalizing s with
  | nil => exact hs
  | cons step schedule ih =>
    obtain ⟨t, c⟩ := step
    rw [history, List.forall_mem_cons] at hadm
    have hchange : (Entry.make s t c).Changes := Entry.make_changes hadm.1
    exact ih (State.Sound.after hchange hs) hadm.2

theorem Reachable.sound (h : Reachable s) : s.Sound := by
  obtain ⟨schedule, hadm, rfl⟩ := h
  exact finalState_sound .empty hadm

/-! ### The heap and the ledger -/

/-- The heap agrees with a ledger that was begun when `start` handles were live. -/
structure State.Agrees (start : Nat) (s : State) (ledger : Ledger) : Prop where
  /-- The live handles are those of the beginning and those in the ledger. -/
  live : s.live = start + ledger.length
  /-- No handle is in the ledger twice. -/
  nodup : (ledger.map Prod.snd).Nodup
  /-- Every handle in the ledger is live and of the kind it was given as. -/
  holds : ∀ x ∈ ledger, (s.objects.get? x.2).map Object.kind = some x.1

/-- A handle that an admissible call accesses is live and of the right kind. -/
theorem Call.Admissible.live {objects : Table Object} {access : Access} {kind : PointerKind}
    {h : Handle} (hadm : c.Admissible objects) (hh : c.handle? access = some (kind, h)) :
    (objects.get? h).map Object.kind = some kind := by
  obtain ⟨⟨name, ⟨k, a, _ | g⟩ | view⟩, hp, harg⟩ := List.exists_of_findSome?_eq_some hh
  · cases harg
  · have hlive := hadm _ hp
    rw [Argument.handle?] at harg
    split at harg
    · cases harg
      exact hlive
    · cases harg
  · cases harg

namespace State.Agrees

variable {start : Nat}

/-- Whether the books are right is decided by the heap. -/
theorem congr {s' : State} (h : s.SameHeap s') (hs : s'.Agrees start ledger) :
    s.Agrees start ledger := by
  obtain ⟨hlive, hnodup, hholds⟩ := hs
  rw [← h.live] at hlive
  rw [← h.objects] at hholds
  exact ⟨hlive, hnodup, hholds⟩

/-- A handle in the ledger is not the next one to be handed out. -/
theorem next_notMem (hs : s.Agrees start ledger) (hsound : s.Sound) :
    s.next ∉ ledger.map Prod.snd := by
  intro hmem
  obtain ⟨x, hx, hnext⟩ := List.mem_map.mp hmem
  have hlive := hs.holds x hx
  rw [hnext, hsound.fresh.get?_next] at hlive
  cases hlive

/-- The ledger that is kept through a call agrees with the heap after it. -/
theorem after (hchange : e.Changes) (hadm : e.Admissible) (hsound : e.before.Sound)
    (hs : e.before.Agrees start ledger) (hfree : ∀ x ∈ e.freed?, x ∈ ledger) :
    e.after.Agrees start (e.book ledger) := by
  cases hchange with
  | nothing heap returned freed =>
    rw [Entry.book, returned, freed]
    exact hs.congr heap
  | handsOut x heap returned freed =>
    rw [Entry.book, returned, freed]
    refine congr heap ⟨?_, List.nodup_cons.mpr ⟨hs.next_notMem hsound, hs.nodup⟩, ?_⟩
    · rw [State.live_insert, hs.live]
      rfl
    · intro y hy
      rw [State.objects_insert, Table.get?_cons]
      rcases List.mem_cons.mp hy with rfl | hy
      · simp
      · have hne : e.before.next ≠ y.2 := fun h =>
          hs.next_notMem hsound (List.mem_map.mpr ⟨y, hy, h.symm⟩)
        rw [if_neg hne, hs.holds y hy]
  | writes h x heap returned freed written =>
    rw [Entry.book, returned, freed]
    refine congr heap ⟨hs.live, hs.nodup, fun y hy => ?_⟩
    have hy' := hs.holds y hy
    rw [State.objects_update, Table.get?_update]
    split
    · next hh =>
      -- the object is replaced by one of the same kind
      have hx := hadm.live written
      rw [hh, hy'] at hx
      rw [Option.map_map, Option.some.inj hx]
      obtain ⟨z, hz, -⟩ := Option.map_eq_some_iff.mp hy'
      rw [hz]
      rfl
    · exact hy'
  | frees kind h heap returned freed =>
    have hmem : (kind, h) ∈ ledger := hfree _ freed
    rw [Entry.book, returned, freed]
    refine congr heap ⟨?_, ?_, fun y hy => ?_⟩
    · have hlength := List.length_erase_of_mem hmem
      have hpos := List.length_pos_of_mem hmem
      rw [State.live_release, hs.live]
      show start + ledger.length - 1 = start + (ledger.erase (kind, h)).length
      omega
    · exact hs.nodup.sublist (List.erase_sublist.map _)
    · -- the ledger has each handle once, so striking this one off strikes off no other
      have hledger : ledger.Nodup := hs.nodup.of_map
      obtain ⟨hne, hy⟩ := hledger.mem_erase_iff.mp hy
      have hh : h ≠ y.2 := fun hh => hne (List.inj_on_of_nodup_map hs.nodup hy hmem hh.symm)
      rw [State.objects_release, Table.get?_erase_of_ne hh, hs.holds y hy]

end State.Agrees

/-! ### Discipline from the start -/

/-- Every live handle is in the ledger, as what it is. -/
def State.Accounted (s : State) (ledger : Ledger) : Prop :=
  ∀ h x, s.objects.get? h = some x → (x.kind, h) ∈ ledger

/-- A call enters in the ledger every handle that it makes live. -/
theorem State.Accounted.after (hchange : e.Changes) (hadm : e.Admissible)
    (hsound : e.before.Sound) (hs : e.before.Accounted ledger) :
    e.after.Accounted (e.book ledger) := by
  intro g y hy
  cases hchange with
  | nothing heap returned freed =>
    rw [heap.objects] at hy
    rw [Entry.book, returned, freed]
    exact hs g y hy
  | handsOut x heap returned freed =>
    rw [heap.objects, State.objects_insert, Table.get?_cons] at hy
    rw [Entry.book, returned, freed]
    split at hy
    · next hg =>
      cases hy
      exact hg ▸ .head _
    · exact .tail _ (hs g y hy)
  | writes h x heap returned freed written =>
    rw [heap.objects, State.objects_update, Table.get?_update] at hy
    rw [Entry.book, returned, freed]
    split at hy
    · next hg =>
      obtain ⟨z, hz, rfl⟩ := Option.map_eq_some_iff.mp hy
      have hkind := hadm.live written
      rw [hg, hz] at hkind
      exact Option.some.inj hkind ▸ hs g z hz
    · exact hs g y hy
  | frees kind h heap returned freed =>
    rw [heap.objects, State.objects_release] at hy
    rw [Entry.book, returned, freed]
    -- nothing is left under the freed handle, so the live one is another
    have hg : g ≠ h := by
      rintro rfl
      rw [hsound.fresh.get?_erase] at hy
      cases hy
    rw [Table.get?_erase_of_ne hg.symm] at hy
    exact (List.mem_erase_of_ne fun heq => hg (Prod.ext_iff.mp heq).2).mpr (hs g y hy)

/-- When every live handle is in the ledger, whoever passes only live handles also frees only what
is in it. -/
theorem disciplined_of_admissible (hsound : s.Sound) (hs : s.Accounted ledger)
    (hadm : ∀ e ∈ history s schedule, e.Admissible) : Disciplined s ledger schedule := by
  induction schedule generalizing s ledger with
  | nil => trivial
  | cons step schedule ih =>
    obtain ⟨t, c⟩ := step
    rw [history, List.forall_mem_cons] at hadm
    obtain ⟨hc, hrest⟩ := hadm
    have hchange : (Entry.make s t c).Changes := Entry.make_changes hc
    refine ⟨hc, fun x hx => ?_, ih (State.Sound.after hchange hsound) ?_ hrest⟩
    · -- a handle that is freed is live, hence in the ledger
      obtain ⟨y, hy, hkind⟩ := Option.map_eq_some_iff.mp (hc.live hx)
      have hmem := hs x.2 y hy
      rw [hkind] at hmem
      exact hmem
    · exact State.Accounted.after hchange hc hsound hs

/-- From the start of the process, discipline is no more than passing null or live handles. -/
theorem disciplined_iff_admissible (schedule : Schedule) :
    Disciplined .empty [] schedule ↔ ∀ e ∈ history .empty schedule, e.Admissible :=
  ⟨Disciplined.admissible, disciplined_of_admissible .empty nofun⟩

/-! ### Single calls -/

/-- What a call may do to the handles that are live when it is made. -/
structure Entry.Contained (e : Entry) : Prop where
  /-- A handle that is returned was not live before. -/
  fresh : ∀ kind h, e.returned? = some (kind, h) → e.before.objects.get? h = none
  /-- Behind a handle that is returned is an object of the kind that it was returned as. -/
  kind : ∀ kind h, e.returned? = some (kind, h) →
    (e.after.objects.get? h).map Object.kind = some kind
  /-- Apart from the handle that is written through, the one that is freed and the one that is
  returned, every handle has the same object behind it as before, or none as before. -/
  frame : ∀ h, e.Spares h → (∀ kind, e.returned? ≠ some (kind, h)) →
    e.after.objects.get? h = e.before.objects.get? h
  /-- Copying a nested struct into an outer one leaves the nested one as it was. -/
  argument : ∀ this h, e.call = .setOuterInner this (some h) →
    e.after.objects.get? h = e.before.objects.get? h
  /-- A handle that is freed is no longer live. -/
  gone : ∀ kind h, e.freed? = some (kind, h) → e.after.objects.get? h = none
  /-- The count of live handles has room for the one that is freed. -/
  noUnderflow : ∀ x ∈ e.freed?, 0 < e.before.live

namespace Entry

/-- The handle that is copied from is not the one that is copied into, for they are of different
kinds. -/
private theorem spares_argument {this : Pointer} {h : Handle} (hadm : e.Admissible)
    (hcall : e.call = .setOuterInner this (some h)) : e.Spares h := by
  intro kind
  refine ⟨fun hw => ?_, fun hf => ?_⟩
  · have hlive := hadm.live hw
    have hinner : (e.before.objects.get? h).map Object.kind = some .inner := by
      refine hadm ⟨"value", .handle .inner .reads (some h)⟩ ?_
      rw [hcall]
      exact .tail _ (.head _)
    rw [written?, hcall] at hw
    rw [hinner] at hlive
    cases this with
    | none => cases hw
    | some g =>
      cases hw
      cases hlive
  · rw [freed?, hcall, Call.handle?_frees rfl] at hf
    cases hf

/-- Behind a handle that a call neither writes through, frees nor returns, nothing changes. -/
theorem Changes.frame (hchange : e.Changes) {h : Handle} (hspares : e.Spares h)
    (hreturned : ∀ kind, e.returned? ≠ some (kind, h)) :
    e.after.objects.get? h = e.before.objects.get? h := by
  cases hchange with
  | nothing heap => rw [heap.objects]
  | handsOut x heap returned =>
    have hne : e.before.next ≠ h := fun hh => hreturned x.kind (hh ▸ returned)
    rw [heap.objects, State.objects_insert, Table.get?_cons, if_neg hne]
  | writes g x heap _ _ written =>
    have hne : g ≠ h := fun hg => (hspares x.kind).1 (hg ▸ written)
    rw [heap.objects, State.objects_update, Table.get?_update, if_neg hne]
  | frees kind g heap _ freed =>
    have hne : g ≠ h := fun hg => (hspares kind).2 (hg ▸ freed)
    rw [heap.objects, State.objects_release, Table.get?_erase_of_ne hne]

/-- What a call does to the handles follows from the change that it makes. -/
theorem Changes.contained {start : Nat} (hchange : e.Changes) (hadm : e.Admissible)
    (hsound : e.before.Sound) (hs : e.before.Agrees start ledger)
    (hfree : ∀ x ∈ e.freed?, x ∈ ledger) : e.Contained := by
  -- only a call that hands out returns a handle, and that is the next one
  have hreturned : ∀ kind h, e.returned? = some (kind, h) → h = e.before.next ∧
      (e.after.objects.get? h).map Object.kind = some kind := by
    intro kind h hr
    cases hchange with
    | nothing heap returned => cases returned.symm.trans hr
    | handsOut x heap returned =>
      cases returned.symm.trans hr
      exact ⟨rfl, by simp [heap.objects]⟩
    | writes g x heap returned => cases returned.symm.trans hr
    | frees k g heap returned => cases returned.symm.trans hr
  have hfresh : ∀ kind h, e.returned? = some (kind, h) → e.before.objects.get? h = none := by
    intro kind h hr
    rw [(hreturned kind h hr).1]
    exact hsound.fresh.get?_next
  refine
    { fresh := hfresh
      kind := fun kind h hr => (hreturned kind h hr).2
      frame := fun h => hchange.frame
      argument := fun this h hcall => ?_
      gone := fun kind h hf => ?_
      noUnderflow := fun x hx => ?_ }
  · have hlive : (e.before.objects.get? h).map Object.kind = some .inner := by
      refine hadm ⟨"value", .handle .inner .reads (some h)⟩ ?_
      rw [hcall]
      exact .tail _ (.head _)
    refine hchange.frame (spares_argument hadm hcall) fun kind hr => ?_
    rw [hfresh kind h hr] at hlive
    cases hlive
  · cases hchange with
    | nothing heap _ freed => cases freed.symm.trans hf
    | handsOut x heap _ freed => cases freed.symm.trans hf
    | writes g x heap _ freed => cases freed.symm.trans hf
    | frees k g heap _ freed =>
      cases freed.symm.trans hf
      rw [heap.objects, State.objects_release, hsound.fresh.get?_erase]
  · have hpos := List.length_pos_of_mem (hfree x hx)
    rw [hs.live]
    omega

end Entry

/-! ### Runs -/

/-- What the first call of a disciplined run does, to the heap by itself and to its agreement with
the ledger. -/
theorem disciplined_cons {start : Nat} (hsound : s.Sound) (hs : s.Agrees start ledger)
    (h : Disciplined s ledger ((t, c) :: schedule)) :
    (Entry.make s t c).Contained ∧ (Entry.make s t c).after.Sound ∧
      (Entry.make s t c).after.Agrees start ((Entry.make s t c).book ledger) := by
  obtain ⟨hadm, hfree, -⟩ := h
  have hchange : (Entry.make s t c).Changes := Entry.make_changes hadm
  have hsound' : (Entry.make s t c).before.Sound := hsound
  have hs' : (Entry.make s t c).before.Agrees start ledger := hs
  exact ⟨hchange.contained hadm hsound' hs' hfree, hsound'.after hchange,
    hs'.after hchange hadm hsound' hfree⟩

/-- A disciplined run keeps the heap sound and in agreement with the ledger. -/
theorem finalState_agrees {start : Nat} (hsound : s.Sound) (hs : s.Agrees start ledger)
    (h : Disciplined s ledger schedule) :
    (finalState s schedule).Sound ∧
      (finalState s schedule).Agrees start (finalLedger s ledger schedule) := by
  induction schedule generalizing s ledger with
  | nil => exact ⟨hsound, hs⟩
  | cons step schedule ih =>
    obtain ⟨t, c⟩ := step
    obtain ⟨-, hsound', hs'⟩ := disciplined_cons hsound hs h
    rw [finalState, finalLedger]
    exact ih hsound' hs' h.2.2

/-- Each call of a disciplined run does to the handles no more than it may. -/
theorem contained_of_mem_history {start : Nat} (hsound : s.Sound) (hs : s.Agrees start ledger)
    (h : Disciplined s ledger schedule) : ∀ e ∈ history s schedule, e.Contained := by
  induction schedule generalizing s ledger with
  | nil => exact List.forall_mem_nil _
  | cons step schedule ih =>
    obtain ⟨t, c⟩ := step
    obtain ⟨hcontained, hsound', hs'⟩ := disciplined_cons hsound hs h
    rw [history, List.forall_mem_cons]
    exact ⟨hcontained, ih hsound' hs' h.2.2⟩

/-- A handle that is live keeps what is behind it for as long as nobody writes through it or frees
it. -/
theorem get?_finalState {start : Nat} {g : Handle} {x : Object} (hsound : s.Sound)
    (hs : s.Agrees start ledger) (h : Disciplined s ledger schedule)
    (hx : s.objects.get? g = some x) (hspares : ∀ e ∈ history s schedule, e.Spares g) :
    (finalState s schedule).objects.get? g = some x := by
  induction schedule generalizing s ledger with
  | nil => exact hx
  | cons step schedule ih =>
    obtain ⟨t, c⟩ := step
    obtain ⟨hcontained, hsound', hs'⟩ := disciplined_cons hsound hs h
    rw [history, List.forall_mem_cons] at hspares
    rw [finalState]
    refine ih hsound' hs' h.2.2 ?_ hspares.2
    rw [hcontained.frame g hspares.1 fun kind hr => ?_]
    · exact hx
    · -- the handle is live before the call, so the call cannot return it
      cases (hcontained.fresh kind g hr).symm.trans hx

/-- A schedule in two parts ends where the second part ends from the end of the first. -/
theorem finalState_append (s : State) (first second : Schedule) :
    finalState s (first ++ second) = finalState (finalState s first) second := by
  induction first generalizing s with
  | nil => rfl
  | cons step first ih => exact ih _

/-- The two parts of a disciplined run are disciplined. -/
theorem disciplined_append {first second : Schedule}
    (h : Disciplined s ledger (first ++ second)) :
    Disciplined s ledger first ∧
      Disciplined (finalState s first) (finalLedger s ledger first) second := by
  induction first generalizing s ledger with
  | nil => exact ⟨trivial, h⟩
  | cons step first ih =>
    obtain ⟨t, c⟩ := step
    obtain ⟨hadm, hfree, hrest⟩ := h
    obtain ⟨hfirst, hsecond⟩ := ih hrest
    exact ⟨⟨hadm, hfree, hfirst⟩, hsecond⟩

theorem State.Agrees.nil (s : State) : s.Agrees s.live [] := ⟨rfl, .nil, nofun⟩

/-- The heap agrees with its callers' ledger. Whatever calls any number of threads make, in any
order, from a reachable state on, as long as they pass only null or live handles of the right kind
and free only what they were given and have not freed: the live handles are those from the beginning
and those in the ledger. Every call is contained, and from any moment on a live handle keeps what is
behind it until somebody writes through it or frees it. The truth value of an outer struct is never
set. -/
theorem disciplined_run_keeps_books (s₀ : State) (hs₀ : Reachable s₀) (schedule : Schedule)
    (h : Disciplined s₀ [] schedule) :
    (finalState s₀ schedule).Agrees s₀.live (finalLedger s₀ [] schedule) ∧
      (∀ e ∈ history s₀ schedule, e.Contained) ∧
      (∀ first second, schedule = first ++ second → ∀ g x,
        (finalState s₀ first).objects.get? g = some x →
        (∀ e ∈ history (finalState s₀ first) second, e.Spares g) →
        (finalState s₀ schedule).objects.get? g = some x) ∧
      ∀ g x, (finalState s₀ schedule).objects.get? g = some (.outer x) → x.bool = false := by
  obtain ⟨hsound, hagrees⟩ := finalState_agrees hs₀.sound (.nil s₀) h
  refine ⟨hagrees, contained_of_mem_history hs₀.sound (.nil s₀) h, ?_, fun g x => hsound.unset g _⟩
  rintro first second rfl g x hx hspares
  obtain ⟨hfirst, hsecond⟩ := disciplined_append h
  obtain ⟨hsound', hagrees'⟩ := finalState_agrees hs₀.sound (.nil s₀) hfirst
  rw [finalState_append]
  exact get?_finalState hsound' hagrees' hsecond hx hspares

/-- The state after one outer struct was made. -/
def oneOuter : State := finalState .empty [(0, .outerDefault)]

/-- Two threads copy an outer struct, take the text of the copy, write to the original, and free the
copy. -/
def copyingSchedule : Schedule :=
  [(0, .outerClone (some 0)), (1, .outerString (some 1)), (0, .setOuterInt32 (some 0) 5),
    (1, .outerFree (some 1))]

/-- Of what the copying schedule was given, the text is still live. -/
theorem copyingSchedule_keeps_books :
    Reachable oneOuter ∧ Disciplined oneOuter [] copyingSchedule ∧
      (finalState oneOuter copyingSchedule).Agrees 1 [(.string, 2)] := by
  have hreachable : Reachable oneOuter := ⟨[(0, .outerDefault)], by decide, rfl⟩
  have hdisciplined : Disciplined oneOuter [] copyingSchedule := by decide
  exact ⟨hreachable, hdisciplined,
    (disciplined_run_keeps_books oneOuter hreachable copyingSchedule hdisciplined).1⟩

end BoundaryContract.Abi
