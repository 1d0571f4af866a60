import BoundaryContract.Proofs.Boundary.Handles
import BoundaryContract.Proofs.Text.WellFormed

/-!
# Texts cross byte for byte

What a caller passes as a text are bytes, and what it gets back are bytes. The exported calls accept
well-formed bytes only and hand out exactly the bytes they were given
(`texts_cross_byte_for_byte`).

On the way back, the boundary of handles decodes bytes as if they could be damaged, and reads no
bytes as the empty text. Both are harmless, since every text that is behind a handle or in a struct
is encoded in well-formed bytes.
-/

namespace BoundaryContract.Abi

open Text (WellFormed)

variable {s : State} {t : ThreadId} {h : Handle} {x : Outer} {view : Slice} {bytes : ByteArray}

/-! ### Views -/

/-- The view is one of these bytes. A null pointer is a view as well, of no bytes. -/
inductive Slice.Views : Slice → ByteArray → Prop
  | bytes (content : ByteArray) : Views (.bytes content) content
  | null : Views (.null 0) .empty

namespace Slice.Views

/-- Well-formed bytes are those of a text, and this is what is seen in them. -/
theorem exists_text (h : view.Views bytes) (hbytes : WellFormed bytes.data.toList) :
    ∃ text : String, bytes = text.toUTF8 ∧ ∀ param, view.toText param = .ok text := by
  cases h with
  | bytes content =>
    obtain ⟨text, rfl⟩ := Text.exists_text hbytes
    exact ⟨text, rfl, fun param => toText_ofString param text⟩
  | null => exact ⟨"", rfl, fun _ => rfl⟩

/-- Other bytes are refused, and the parameter they were passed for is named. -/
theorem toText_eq_error (h : view.Views bytes) (hbytes : ¬ WellFormed bytes.data.toList)
    (param : String) : view.toText param = .error (.invalidUtf8 param) := by
  cases h with
  | bytes content =>
    -- no bytes would be well-formed
    have hsize : bytes.size ≠ 0 := by
      intro hsize
      rw [ByteArray.size_eq_zero_iff.mp hsize] at hbytes
      exact hbytes .nil
    rw [toText, if_neg hsize, Text.fromUTF8?_eq_none hbytes]
  | null => exact absurd .nil hbytes

end Slice.Views

/-! ### Reading back -/

/-- The bytes behind a pointer and their number. -/
def readString (t : ThreadId) (p : Pointer) : Action State (Option ByteArray × Nat) := do
  let data ← stringData t p
  let length ← stringLength t p
  return (data, length)

/-- The bytes of the text of an outer struct and their number. -/
def readOuterString (t : ThreadId) (p : Pointer) : Action State (Option ByteArray × Nat) := do
  let string ← outerString t p
  readString t string

/-- Reading an owned text gives its bytes and how many they are. -/
theorem run_readString {text : String} (t : ThreadId)
    (hx : s.objects.get? h = some (.string text)) :
    (readString t (some h)).run s =
      ⟨(some text.toUTF8, text.toUTF8.size), s.setLastError t none, []⟩ := by
  have hx' : (s.setLastError t none).objects.get? h = some (.string text) := hx
  simp only [readString, Action.run_bind, run_stringData t hx, run_stringLength t hx',
    Action.run_pure, State.setLastError_setLastError, List.append_nil]

/-- The getter of the text, read to the end, gives the bytes of the text. -/
theorem value_readOuterString (t : ThreadId) (hx : s.objects.get? h = some (.outer x)) :
    ((readOuterString t (some h)).run s).value = (some x.string.toUTF8, x.string.toUTF8.size) := by
  rw [readOuterString, Action.run_bind, run_outerString t hx, run_readString]
  exact Table.get?_cons_self ..

/-! ### Refusals -/

/-- A view that is no text is refused before anything is stored. -/
theorem run_setOuterString_of_error (t : ThreadId) (hx : s.objects.get? h = some (.outer x))
    {f : Failure} (hview : view.toText "value" = .error f) :
    (setOuterString t (some h) view).run s = ⟨(), s.setLastError t (some f), [f.event]⟩ := by
  simp [setOuterString, run_guarded, Body.exec_outer_some, hx, hview]

section

variable {view1 view2 : Slice} {f : Failure} (t : ThreadId) (s : State) (b : Bool)

/-- A first view that is no text is refused whatever the second one is. -/
theorem run_combo_of_error_left (hview1 : view1.toText "str1" = .error f) :
    (combo t view1 view2 b).run s = ⟨none, s.setLastError t (some f), [f.event]⟩ := by
  simp [combo, run_guarded, hview1]

/-- A second view that is no text is refused even where the first one is selected. -/
theorem run_combo_of_error_right {text1 : String} (hview1 : view1.toText "str1" = .ok text1)
    (hview2 : view2.toText "str2" = .error f) :
    (combo t view1 view2 b).run s = ⟨none, s.setLastError t (some f), [f.event]⟩ := by
  simp [combo, run_guarded, hview1, hview2]

end

theorem value_readString_none (t : ThreadId) (s : State) :
    ((readString t none).run s).value = (none, 0) := by
  simp [readString, Action.run_bind, stringData, stringLength, run_guarded]

/-! ### What is given comes back -/

/-- What becomes of bytes that are set as the text of an outer struct. -/
structure SetterCrosses (t : ThreadId) (s : State) (h : Handle) (x : Outer) (view : Slice)
    (bytes : ByteArray) : Prop where
  /-- Well-formed bytes are read back, and all of them. -/
  stored : WellFormed bytes.data.toList →
    let set := (setOuterString t (some h) view).run s
    set.state.lastError t = none ∧
      ((readOuterString t (some h)).run set.state).value = (some bytes, bytes.size)
  /-- Other bytes are refused, and what was there before is read. -/
  refused : ¬ WellFormed bytes.data.toList →
    let set := (setOuterString t (some h) view).run s
    set.state.lastError t = some ⟨.utf8Error, "Invalid UTF-8 in value"⟩ ∧
      ((readOuterString t (some h)).run set.state).value =
        (some x.string.toUTF8, x.string.toUTF8.size)

/-- What becomes of bytes of which one sequence is selected. -/
structure ComboCrosses (t : ThreadId) (s : State) (b : Bool) (view1 view2 : Slice)
    (bytes1 bytes2 : ByteArray) : Prop where
  /-- The bytes selected are returned if both sequences are well-formed, and only then. -/
  selects : let made := (combo t view1 view2 b).run s
    let bytes := if b then bytes1 else bytes2
    ((readString t made.value).run made.state).value = (some bytes, bytes.size) ↔
      WellFormed bytes1.data.toList ∧ WellFormed bytes2.data.toList
  /-- A call that selects leaves no error. -/
  clear : WellFormed bytes1.data.toList → WellFormed bytes2.data.toList →
    ((combo t view1 view2 b).run s).state.lastError t = none
  /-- The first sequence is checked first, even if the second one is selected. -/
  refusedLeft : ¬ WellFormed bytes1.data.toList →
    let made := (combo t view1 view2 b).run s
    made.value = none ∧
      made.state.lastError t = some ⟨.utf8Error, "Invalid UTF-8 in str1"⟩
  /-- The second sequence is checked as well, even if the first one is selected. -/
  refusedRight : WellFormed bytes1.data.toList → ¬ WellFormed bytes2.data.toList →
    let made := (combo t view1 view2 b).run s
    made.value = none ∧
      made.state.lastError t = some ⟨.utf8Error, "Invalid UTF-8 in str2"⟩

/-- A view of bytes is stored byte for byte if they are well-formed, and refused otherwise. -/
theorem setterCrosses (t : ThreadId) (hx : s.objects.get? h = some (.outer x))
    (hview : view.Views bytes) : SetterCrosses t s h x view bytes := by
  constructor
  · intro hbytes set
    obtain ⟨text, rfl, htext⟩ := hview.exists_text hbytes
    have hset : set = _ := run_setOuterString t hx (htext "value")
    have hx' : set.state.objects.get? h = some (.outer { x with string := text }) := by
      rw [hset]
      show Table.get? h (s.objects.update h _) = _
      rw [Table.get?_update, if_pos rfl, hx]
      rfl
    refine ⟨?_, value_readOuterString t hx'⟩
    rw [hset]
    exact State.lastError_setLastError_self ..
  · intro hbytes set
    have hset : set = _ :=
      run_setOuterString_of_error t hx (hview.toText_eq_error hbytes "value")
    have hx' : set.state.objects.get? h = some (.outer x) := by
      rw [hset]
      exact hx
    refine ⟨?_, value_readOuterString t hx'⟩
    rw [hset]
    exact State.lastError_setLastError_self ..

/-- Two views of bytes give the bytes of the selected one if both are well-formed. -/
theorem comboCrosses (t : ThreadId) (s : State) (b : Bool) {view1 view2 : Slice}
    {bytes1 bytes2 : ByteArray} (hview1 : view1.Views bytes1) (hview2 : view2.Views bytes2) :
    ComboCrosses t s b view1 view2 bytes1 bytes2 := by
  -- both views are decoded before one of them is selected
  have hleft : ¬ WellFormed bytes1.data.toList → (combo t view1 view2 b).run s =
      ⟨none, s.setLastError t (some (.invalidUtf8 "str1")), [(Failure.invalidUtf8 "str1").event]⟩ :=
    fun hbytes1 => run_combo_of_error_left t s b (hview1.toText_eq_error hbytes1 "str1")
  have hright : WellFormed bytes1.data.toList → ¬ WellFormed bytes2.data.toList →
      (combo t view1 view2 b).run s =
      ⟨none, s.setLastError t (some (.invalidUtf8 "str2")),
        [(Failure.invalidUtf8 "str2").event]⟩ := by
    intro hbytes1 hbytes2
    obtain ⟨text1, -, htext1⟩ := hview1.exists_text hbytes1
    exact run_combo_of_error_right t s b (htext1 "str1") (hview2.toText_eq_error hbytes2 "str2")
  have hboth : WellFormed bytes1.data.toList → WellFormed bytes2.data.toList →
      ∃ text : String, text.toUTF8 = (if b then bytes1 else bytes2) ∧
      (combo t view1 view2 b).run s =
        ⟨some s.next, (s.setLastError t none).insert (.string text), []⟩ := by
    intro hbytes1 hbytes2
    obtain ⟨text1, rfl, htext1⟩ := hview1.exists_text hbytes1
    obtain ⟨text2, rfl, htext2⟩ := hview2.exists_text hbytes2
    refine ⟨_, ?_, run_combo t s (htext1 "str1") (htext2 "str2") b⟩
    cases b <;> rfl
  refine ⟨⟨?_, ?_⟩, ?_, ?_, ?_⟩
  · -- a null pointer has no bytes behind it, so nothing was refused
    intro hread
    by_contra hnot
    have hnone : ((combo t view1 view2 b).run s).value = none := by
      by_cases hbytes1 : WellFormed bytes1.data.toList
      · rw [hright hbytes1 fun hbytes2 => hnot ⟨hbytes1, hbytes2⟩]
      · rw [hleft hbytes1]
    rw [hnone, value_readString_none] at hread
    cases hread
  · rintro ⟨hbytes1, hbytes2⟩
    obtain ⟨text, htext, hrun⟩ := hboth hbytes1 hbytes2
    rw [hrun, run_readString t (Table.get?_cons_self ..), htext]
  · intro hbytes1 hbytes2
    obtain ⟨text, -, hrun⟩ := hboth hbytes1 hbytes2
    rw [hrun]
    exact State.lastError_setLastError_self ..
  · intro hbytes1
    rw [hleft hbytes1]
    exact ⟨rfl, State.lastError_setLastError_self ..⟩
  · intro hbytes1 hbytes2
    rw [hright hbytes1 hbytes2]
    exact ⟨rfl, State.lastError_setLastError_self ..⟩

/-- The text that the boundary of handles gives for a pointer that a call hands out. -/
theorem value_bind_takeString {a : Action State Pointer} {text : String} (t : ThreadId)
    (ha : a.run s = ⟨some s.next, (s.setLastError t none).insert (.string text), []⟩) :
    ((a >>= takeString t).run s).value = text := by
  rw [Action.run_bind, ha, run_takeString t (Table.get?_cons_self ..)]

/-- Texts cross byte for byte, in whatever state of the heap. Bytes that are set as the text of a
live struct, or of which one sequence is selected, come back as they were if they are well-formed;
otherwise the call is refused with the error for that and changes no text.

What is behind a live handle of a text and what a live struct holds is well-formed, so the boundary
of handles gives every text as it is, although it decodes bytes as if they could be damaged and
reads a null pointer as the empty text. -/
theorem texts_cross_byte_for_byte (t : ThreadId) (s : State) :
    (∀ h x view bytes, s.objects.get? h = some (.outer x) → view.Views bytes →
      SetterCrosses t s h x view bytes) ∧
    (∀ b view1 view2 bytes1 bytes2, view1.Views bytes1 → view2.Views bytes2 →
      ComboCrosses t s b view1 view2 bytes1 bytes2) ∧
    (∀ h text, s.objects.get? h = some (.string text) →
      WellFormed text.toUTF8.data.toList ∧
      ((readString t (some h)).run s).value = (some text.toUTF8, text.toUTF8.size) ∧
      ((takeString t (some h)).run s).value = text) ∧
    (∀ h x, s.objects.get? h = some (.outer x) →
      WellFormed x.string.toUTF8.data.toList ∧
      (((handleBoundary t).outerString (some h)).run s).value = x.string) ∧
    ((handleBoundary t).returnString.run s).value = Reference.fixedString ∧
    ∀ str1 str2 b, (((handleBoundary t).combo str1 str2 b).run s).value =
      if b then str1 else str2 := by
  refine ⟨fun h x view bytes hx hview => setterCrosses t hx hview,
    fun b view1 view2 bytes1 bytes2 hview1 hview2 => comboCrosses t s b hview1 hview2, ?_, ?_, ?_,
    ?_⟩
  · intro h text hx
    rw [run_readString t hx, run_takeString t hx]
    exact ⟨Text.wellFormed_toUTF8 text, rfl, rfl⟩
  · intro h x hx
    exact ⟨Text.wellFormed_toUTF8 x.string, value_bind_takeString t (run_outerString t hx)⟩
  · exact value_bind_takeString t (run_returnString t s)
  · intro str1 str2 b
    have hcombo := run_combo t s (Slice.toText_ofString "str1" str1)
      (Slice.toText_ofString "str2" str2) b
    show _ = Reference.select str1 str2 b
    exact value_bind_takeString t hcombo

end BoundaryContract.Abi
