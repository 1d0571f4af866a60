import BoundaryContract.Proofs.Boundary.Faulty
import BoundaryContract.Proofs.Suite.Passing
import BoundaryContract.Proofs.Table

/-!
# What the suite detects

`failed_eq_zero_iff` characterizes the faulty boundaries that pass the suite: those whose faults are
all `Undetected`. Faults come in any combination, so this says in particular that no fault hides
another one.

Each group of the suite is settled by itself, in whatever store the groups before it have left, and
two of them presuppose what other groups show. The round trips of texts start from a default that is
shown as the empty text, which a getter that shows nothing lets any default be; and copies are
compared by integers that were set, so integers have to be stored as they are.

What remains undetected is a bound that no integer exceeds, which is no fault at all, and a limit of
thirteen characters or more, which is one: no sample is longer.
-/

namespace BoundaryContract

/-- Only faults that the suite does not notice. -/
structure Faults.Undetected (f : Faults) : Prop where
  int32Default : f.int32Default = 0
  innerDefault : f.innerDefault = 0
  stringDefault : f.stringDefault = ""
  boolDefault : f.boolDefault = false
  clamp : ∀ c ∈ f.clamp, c = Int32.maxValue
  offset : f.offset = 0
  /-- The longest sample has thirteen characters. -/
  stringLimit : ∀ n ∈ f.stringLimit, 13 ≤ n
  stringAppend : f.stringAppend = false
  keepOnEmpty : f.keepOnEmpty = false
  aliasGet : f.aliasGet = false
  aliasSet : f.aliasSet = false
  clobberSibling : f.clobberSibling = false
  returnPrimitive : f.returnPrimitive = Reference.fixedInt32
  returnString : f.returnString = Reference.fixedString
  combo : f.combo = none

namespace Suite

open SharedStore

variable {f : Faults} {tier : Tier} {s : SharedStore} {a b : Nat}

/-! ### Measurements -/

theorem measure_outerInt32 :
    (outerInt32 (faultyBoundary f) a).run s = ⟨.int32 (s.outer a).int32, s, []⟩ := rfl

theorem measure_outerString :
    (outerString (faultyBoundary f) a).run s = ⟨.string (f.shown (s.outer a).string), s, []⟩ := rfl

theorem measure_innerInt32 :
    (innerInt32 (faultyBoundary f) b).run s = ⟨.int32 (s.cell b), s, []⟩ := rfl

theorem measure_nestedInt32_shared (h : f.aliasGet = true) :
    (nestedInt32 (faultyBoundary f) a).run s = ⟨.int32 (s.cell (s.outer a).cell), s, []⟩ := by
  simp [nestedInt32, Action.run_bind, run_outerInner_shared h, run_innerInt32, run_dropInner]

/-- Without the fault, a cell is left over for every copy that was read. -/
theorem measure_nestedInt32_copied (h : f.aliasGet = false) :
    (nestedInt32 (faultyBoundary f) a).run s =
      ⟨.int32 (s.cell (s.outer a).cell),
        ⟨s.outers, (s.next, s.cell (s.outer a).cell) :: s.cells, s.next + 1⟩, []⟩ := by
  simp [nestedInt32, Action.run_bind, run_outerInner_copied h, run_innerInt32, run_dropInner, cell]

/-- Whether the nested struct is shared or copied, its integer is the same. -/
theorem value_nestedInt32 :
    ((nestedInt32 (faultyBoundary f) a).run s).value = .int32 (s.cell (s.outer a).cell) := by
  cases h : f.aliasGet with
  | true => rw [measure_nestedInt32_shared h]
  | false => rw [measure_nestedInt32_copied h]

/-- A new nested struct shows the default, whatever other faults there are. -/
theorem value_freshInnerInt32 :
    ((freshInnerInt32 (faultyBoundary f)).run s).value = .int32 f.innerDefault := by
  simp [freshInnerInt32, Action.run_bind, run_newInner, run_innerInt32, run_dropInner, cell]

/-! ### Defaults -/

/-- The defaults are right exactly when each of them is; the text only as far as it is shown. -/
theorem passes_defaults :
    Passes (defaults (faultyBoundary f) tier) s ↔
      f.int32Default = 0 ∧ f.boolDefault = false ∧ f.shown f.stringDefault = "" ∧
        f.innerDefault = 0 := by
  rw [defaults, passes_bind, passes_bind_of_value fun _ _ => rfl, run_newOuter]
  simp -implicitDefEqProofs [passes_runProbes_cons, Action.run_map, measure_outerInt32,
    run_outerBool, measure_outerString, value_nestedInt32, value_freshInnerInt32, outer, cell]

/-! ### Round trips of integers -/

/-- Setting and reading an integer leaves the outer struct in place, so the samples can be tried one
after another. -/
theorem passes_int32Probes {x : SharingOuter} (hx : s.outers.get? a = some x)
    (samples : List Int32) :
    Passes (runProbes tier (samples.flatMap (int32Probes (faultyBoundary f) a))) s ↔
      ∀ n ∈ samples, f.stored n = n := by
  induction samples generalizing s x with
  | nil => exact ⟨fun _ => List.forall_mem_nil _, fun _ => passes_runProbes_nil⟩
  | cons n samples ih =>
    -- both probes of the integer read it in the store that it was set in
    let s' : SharedStore :=
      { s with outers := s.outers.update a fun x => { x with int32 := f.stored n } }
    have hx' : s'.outers.get? a = some { x with int32 := f.stored n } := by
      rw [Table.get?_update, if_pos rfl, hx, Option.map_some]
    have hread : (outerInt32 (faultyBoundary f) a).run s' = ⟨.int32 (f.stored n), s', []⟩ := by
      rw [measure_outerInt32, outer, hx', Option.getD_some]
    have hset : (do
        (faultyBoundary f).setOuterInt32 a n
        outerInt32 (faultyBoundary f) a).run s = ⟨.int32 (f.stored n), s', []⟩ := by
      rw [Action.run_bind, run_setOuterInt32, hread, List.append_nil]
    rw [List.flatMap_cons, int32Probes, List.cons_append, List.cons_append, List.nil_append,
      passes_runProbes_cons, hset, passes_runProbes_cons, hread, ih hx', List.forall_mem_cons,
      Value.int32.injEq, and_self_left]

/-- The checks of the outer struct come before those of the nested one. -/
private theorem passes_int32RoundTrip_iff {σ ω ι : Type} {B : Boundary σ ω ι} {s : σ} :
    Passes (int32RoundTrip B tier) s ↔
      Passes (do
        let a ← B.newOuter
        runProbes tier (int32Samples.flatMap (int32Probes B a))) s ∧
      Passes (do
        let a ← B.newOuter
        let _ ← runProbes tier (int32Samples.flatMap (int32Probes B a))
        let b ← B.newInner
        B.setInnerInt32 b (-42)
        runProbes tier
          [⟨"i32_round_trip.struct_b", "StructB.set_i32_field(-42); StructB.get_i32_field()",
            .int32 (-42), innerInt32 B b⟩]) s :=
  List.forall_mem_append

/-- The samples decide about all integers. -/
theorem passes_int32RoundTrip :
    Passes (int32RoundTrip (faultyBoundary f) tier) s ↔ ∀ n, f.stored n = n := by
  rw [passes_int32RoundTrip_iff]
  simp only [passes_bind]
  rw [run_newOuter, passes_int32Probes (Table.get?_cons_self _ _ _)]
  simp -implicitDefEqProofs only [passes_runProbes_cons, passes_runProbes_nil, run_newInner,
    run_setInnerInt32, measure_innerInt32, cell, Table.update, if_true, Table.get?_cons,
    Option.getD_some, Value.int32.injEq, and_true]
  constructor
  · intro h
    have hmin : Int32.minValue ∈ int32Samples := by decide
    have hmax : Int32.maxValue ∈ int32Samples := by decide
    exact Faults.stored_eq_self_iff.mpr (Faults.of_stored_extremes (h.1 _ hmin) (h.1 _ hmax))
  · intro h
    exact ⟨fun n _ => h n, h (-42)⟩

/-! ### Round trips of texts -/

/-- The texts of the round trips, in the order they are set. -/
def roundTripTexts : List String := stringSamples ++ [ownedSample]

/-- What the getter gives for each text when they are set one after another. -/
def readBack (f : Faults) : String → List String → List String
  | _, [] => []
  | old, t :: ts => f.shown (f.overwritten old t) :: readBack f (f.overwritten old t) ts

/-- The probe sets the text and expects to read it back. -/
structure SetsText (f : Faults) (a : Nat) (t : String) (p : Probe SharedStore) : Prop where
  expected : p.expected = .string t
  measure : p.measure = do
    (faultyBoundary f).setOuterString a t
    outerString (faultyBoundary f) a

/-- Texts set one after another pass when each is read back as it was set. -/
theorem passes_of_setsText {x : SharingOuter} (hx : s.outers.get? a = some x) {ts : List String}
    {ps : List (Probe SharedStore)} (h : List.Forall₂ (SetsText f a) ts ps) :
    Passes (runProbes tier ps) s ↔ readBack f x.string ts = ts := by
  induction h generalizing s x with
  | nil => exact ⟨fun _ => rfl, fun _ => passes_runProbes_nil⟩
  | @cons t p ts ps hp _ ih =>
    let s' : SharedStore :=
      { s with outers := s.outers.update a fun x => { x with string := f.overwritten x.string t } }
    have hx' : s'.outers.get? a = some { x with string := f.overwritten x.string t } := by
      rw [Table.get?_update, if_pos rfl, hx, Option.map_some]
    have hmeasure :
        p.measure.run s = ⟨.string (f.shown (f.overwritten x.string t)), s', []⟩ := by
      rw [hp.measure, Action.run_bind, run_setOuterString, measure_outerString, outer, hx',
        Option.getD_some, List.append_nil]
    rw [passes_runProbes_cons, hmeasure, hp.expected, ih hx', readBack, List.cons_eq_cons,
      Value.string.injEq]

/-- The round trips of texts pass when the texts come back, starting from the default. -/
theorem passes_stringRoundTrip :
    Passes (stringRoundTrip (faultyBoundary f) tier) s ↔
      readBack f f.stringDefault roundTripTexts = roundTripTexts := by
  have howned (s : SharedStore) : Passes (runProbes tier [ownedProbe]) s :=
    passes_runProbes_cons.mpr ⟨rfl, passes_runProbes_nil⟩
  rw [stringRoundTrip, passes_bind, passes_bind_of_value fun _ _ => rfl, run_newOuter,
    passes_runProbes_append, and_iff_left (howned _)]
  let x : SharingOuter := ⟨f.int32Default, f.boolDefault, f.stringDefault, s.next⟩
  refine passes_of_setsText (x := x) (Table.get?_cons_self _ x _) ?_
  exact .cons ⟨rfl, rfl⟩ (.cons ⟨rfl, rfl⟩ (.cons ⟨rfl, rfl⟩ (.cons ⟨rfl, rfl⟩
    (.cons ⟨rfl, rfl⟩ .nil))))

/-- Without a fault of the setter each text is read back by itself. -/
theorem readBack_eq_map (happend : f.stringAppend = false) (hkeep : f.keepOnEmpty = false)
    (old : String) (ts : List String) : readBack f old ts = ts.map f.shown := by
  induction ts generalizing old with
  | nil => rfl
  | cons t ts ih => rw [readBack, f.overwritten_eq happend hkeep, ih, List.map_cons]

/-- The first sample shows a limit, the second one, which is shorter, that the setter appends, and
the third one, which is empty, that it keeps the text. A wrong default that was shown as the empty
text takes a limit of its own. -/
theorem readBack_eq_iff (hdefault : f.shown f.stringDefault = "") :
    readBack f f.stringDefault roundTripTexts = roundTripTexts ↔
      f.stringDefault = "" ∧ (∀ n ∈ f.stringLimit, 13 ≤ n) ∧ f.stringAppend = false ∧
        f.keepOnEmpty = false := by
  constructor
  · intro h
    simp only [roundTripTexts, stringSamples, List.cons_append, readBack, List.cons_eq_cons] at h
    obtain ⟨hfirst, hsecond, hthird, -⟩ := h
    have hlimit (n : Nat) (hn : n ∈ f.stringLimit) : 13 ≤ n := by
      have hlength : "Hello, World!".length ≤ n := hfirst ▸ f.length_shown_le hn
      exact hlength
    have hlimit' (n : Nat) (hn : n ∈ f.stringLimit) : 1 ≤ n :=
      Nat.le_trans (by decide) (hlimit n hn)
    -- something of every text is shown, so the default is the empty text that it is shown as
    have hempty : f.stringDefault = "" := f.eq_empty_of_shown hlimit' hdefault
    rw [hempty, f.overwritten_empty] at hsecond hthird
    have happend : f.stringAppend = false := by
      refine Bool.eq_false_iff.mpr fun happend => ?_
      -- as much of the longer text is shown as of the first sample, and the second one is shorter
      rw [f.overwritten_of_append happend (by decide)] at hsecond
      have hlength : 13 ≤ (f.shown ("Hello, World!" ++ "Hello, Rust!")).length :=
        f.le_length_shown hlimit (by decide)
      rw [hsecond] at hlength
      exact absurd hlength (by decide)
    refine ⟨hempty, hlimit, happend, Bool.eq_false_iff.mpr fun hkeep => ?_⟩
    rw [f.overwritten_of_keep hkeep, f.overwritten_of_ne happend (by decide)] at hthird
    exact absurd (f.eq_empty_of_shown hlimit' hthird) (by decide)
  · intro ⟨_, hlimit, happend, hkeep⟩
    have hlength : ∀ t ∈ roundTripTexts, t.length ≤ 13 := by decide
    have hshown : ∀ t ∈ roundTripTexts, f.shown t = id t := fun t ht =>
      f.shown_of_length_le fun n hn => Nat.le_trans (hlength t ht) (hlimit n hn)
    rw [readBack_eq_map happend hkeep, List.map_congr_left hshown, List.map_id]

/-! ### Copies -/

/-- The checks of a copy that was taken come before those of a struct that was copied in. -/
private theorem passes_copyOut_iff {σ ω ι : Type} {B : Boundary σ ω ι} {s : σ} :
    Passes (copyOut B tier) s ↔
      Passes (do
        let a ← B.newOuter
        B.setOuterInt32 a 42
        let copy ← B.outerInner a
        runProbes tier (copyProbes B a copy)) s ∧
      Passes (do
        let a ← B.newOuter
        B.setOuterInt32 a 42
        let copy ← B.outerInner a
        let _ ← runProbes tier (copyProbes B a copy)
        let other ← B.newInner
        B.setInnerInt32 other 44
        runProbes tier (storedProbes B a other)) s :=
  List.forall_mem_append

/-- Copies pass when none of the three ways of sharing is at work. -/
theorem passes_copyOut (hstored : ∀ n, f.stored n = n) (hinner : f.innerDefault = 0) :
    Passes (copyOut (faultyBoundary f) tier) s ↔
      f.aliasGet = false ∧ f.aliasSet = false ∧ f.clobberSibling = false := by
  rw [passes_copyOut_iff]
  simp -implicitDefEqProofs only [copyProbes, storedProbes, passes_bind, passes_runProbes_cons,
    passes_runProbes_nil, state_runProbes_cons, state_runProbes_nil, and_true, Action.run_bind,
    run_newOuter, run_setOuterInt32, run_setInnerInt32, run_newInner, measure_outerInt32,
    measure_innerInt32, run_setOuterInner, hstored, hinner, Value.int32.injEq]
  cases hget : f.aliasGet with
  | true =>
    -- what is set through the copy is read through the original
    simp -implicitDefEqProofs [run_outerInner_shared hget, measure_nestedInt32_shared hget, outer,
      cell, Table.update]
  | false =>
    -- the copy keeps its change to itself, and the other two faults are left to the setter
    simp -implicitDefEqProofs only [run_outerInner_copied hget, measure_nestedInt32_copied hget]
    cases hset : f.aliasSet <;> cases hclobber : f.clobberSibling <;>
      simp -implicitDefEqProofs [withInner, outer, cell, Table.update, Nat.add_assoc, hset,
        hclobber]

/-! ### Free functions -/

/-- No fault shows in a function without a result. -/
theorem passes_voidFunctions : Passes (voidFunctions (faultyBoundary f) tier) s := by
  simp [voidFunctions, unitResult, Action.run_map]

theorem passes_fixedReturns :
    Passes (fixedReturns (faultyBoundary f) tier) s ↔
      f.returnPrimitive = Reference.fixedInt32 ∧ f.returnString = Reference.fixedString := by
  simp [fixedReturns, faultyBoundary]

/-- The probes of pairs of texts, which only differ in what they select from. -/
private theorem exists_of_mem_comboProbes {entries : List ((String × String) × Nat)}
    {p : Probe SharedStore} (hp : p ∈ entries.flatMap (comboProbes (faultyBoundary f))) :
    ∃ str1 str2 b, p.expected = .string (Reference.select str1 str2 b) ∧
      ∀ s, p.measure.run s = ⟨.string (f.selected str1 str2 b), s, []⟩ := by
  simp only [List.mem_flatMap, comboProbes, List.mem_map] at hp
  obtain ⟨⟨⟨str1, str2⟩, k⟩, -, b, -, rfl⟩ := hp
  exact ⟨str1, str2, b, rfl, fun _ => rfl⟩

/-- Selection passes when the function selects as it should. -/
theorem passes_comboSelection :
    Passes (comboSelection (faultyBoundary f) tier) s ↔ f.combo = none := by
  have hstate : ∀ p ∈ comboSamples.zipIdx.flatMap (comboProbes (faultyBoundary f)),
      (p.measure.run s).state = s := by
    intro p hp
    obtain ⟨_, _, _, -, hrun⟩ := exists_of_mem_comboProbes hp
    rw [hrun]
  rw [comboSelection, passes_runProbes_iff_forall hstate]
  constructor
  · intro h
    have hne : "Combo function!" ≠ "Don't print me" := by decide
    refine (Faults.combo_eq_none_iff hne).mpr fun b => ?_
    have hb : b ∈ [true, false] := by cases b <;> decide
    exact Value.string.inj (h _ (List.mem_flatMap_of_mem List.mem_cons_self
      (List.mem_map_of_mem hb)))
  · intro h p hp
    obtain ⟨str1, str2, b, hexpected, hrun⟩ := exists_of_mem_comboProbes hp
    rw [hrun, hexpected, Faults.selected, h]

/-! ### The whole suite -/

/-- The suite reports no failed check exactly when no fault of the boundary is one that it notices,
whatever other faults there are and whatever the store holds at the start. -/
theorem failed_eq_zero_iff (f : Faults) (tier : Tier) (s : SharedStore) :
    ((run (faultyBoundary f) tier).run s).value.failed = 0 ↔ f.Undetected := by
  rw [failed_run_eq_zero, groups]
  simp only [passes_runGroups_cons, passes_runGroups_nil, passes_defaults, passes_int32RoundTrip,
    passes_stringRoundTrip, passes_voidFunctions, passes_fixedReturns, passes_comboSelection,
    true_and, and_true]
  constructor
  · intro ⟨⟨hint32, hbool, hshown, hinner⟩, hstored, htexts, hcopies, ⟨hprimitive, hstring⟩, hcombo⟩
    obtain ⟨hoffset, hclamp⟩ := Faults.stored_eq_self_iff.mp hstored
    obtain ⟨hdefault, hlimit, happend, hkeep⟩ := (readBack_eq_iff hshown).mp htexts
    obtain ⟨hget, hset, hclobber⟩ := (passes_copyOut hstored hinner).mp hcopies
    exact ⟨hint32, hinner, hdefault, hbool, hclamp, hoffset, hlimit, happend, hkeep, hget, hset,
      hclobber, hprimitive, hstring, hcombo⟩
  · intro h
    have hshown : f.shown f.stringDefault = "" := by
      rw [h.stringDefault]
      exact f.shown_of_length_le fun n _ => Nat.zero_le n
    have hstored : ∀ n, f.stored n = n := Faults.stored_eq_self_iff.mpr ⟨h.offset, h.clamp⟩
    refine ⟨⟨h.int32Default, h.boolDefault, hshown, h.innerDefault⟩, hstored, ?_, ?_,
      ⟨h.returnPrimitive, h.returnString⟩, h.combo⟩
    · exact (readBack_eq_iff hshown).mpr
        ⟨h.stringDefault, h.stringLimit, h.stringAppend, h.keepOnEmpty⟩
    · exact (passes_copyOut hstored h.innerDefault).mpr ⟨h.aliasGet, h.aliasSet, h.clobberSibling⟩

end Suite

end BoundaryContract
