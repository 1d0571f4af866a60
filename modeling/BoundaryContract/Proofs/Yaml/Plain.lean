import BoundaryContract.Proofs.Yaml.Cursor
import BoundaryContract.Yaml.Style
import Mathlib.Data.List.Basic

/-!
# Plain scalars are read back

A content that is allowed to stand plainly (`AllowsPlain`) is words with spaces between them, and
nothing in it looks like structure. So the reader of plain scalars passes all of it and stops where
the scalar was meant to end: at the colon of a key or the end of the text (`Scalar.plain_at`), or
after a line break at the next key (`Scalar.plain_line`).
-/

namespace BoundaryContract.Yaml

/-- The content is not empty and allowed to stand plainly. -/
def AllowsPlain (s : List Char) : Prop := s ≠ [] ∧ (Allowance.ofContent s).plain

/-! ### What the allowance says -/

/-- A word ends, as far as the characters inside a content go. -/
def endsBefore (ch : Char) : Bool := isBlank ch || isBreak ch || ch == '\x00'

/-- Whether a word ends is decided by what comes first. -/
theorem endsWord_append {s : List Char} (hs : s ≠ []) (tail : List Char) :
    endsWord (s ++ tail) = endsWord s := by
  obtain ⟨ch, cs, rfl⟩ := List.exists_cons_of_ne_nil hs
  rfl

namespace Allowance

variable {ended : Bool} {ch : Char} {s cs tail : List Char}

/-- Where nothing inside a text is bad, its first character is not, and nothing after it. -/
theorem badInside_cons (h : badInside ended (ch :: cs) = false) :
    (ch = ':' → endsWord cs = false) ∧ (ended → ch ≠ '#') ∧
      badInside (endsBefore ch) cs = false := by
  simp only [badInside, Bool.or_eq_false_iff, Bool.and_eq_false_iff] at h
  obtain ⟨⟨hcolon, hnumber⟩, hrest⟩ := h
  refine ⟨?_, ?_, hrest⟩
  · rintro rfl
    exact hcolon.resolve_left (by decide)
  · rintro rfl rfl
    exact absurd (hnumber.resolve_left (by decide)) (by decide)

/-- Behind a character of the content, what counts is whether a word ends at it. -/
theorem badInside_append (h : badInside ended (s ++ ch :: cs) = false) :
    badInside (endsBefore ch) cs = false := by
  induction s generalizing ended with
  | nil => exact (badInside_cons h).2.2
  | cons first s ih => exact ih (badInside_cons h).2.2

/-- Three characters at the start are in the content if what follows it begins otherwise. -/
theorem exists_eq_of_append_eq {x : Char} {rest : List Char} (hs : s ≠ [])
    (h : s ++ tail = x :: x :: x :: rest) (htail : tail.head? ≠ some x) :
    ∃ more, s = x :: x :: x :: more := by
  match s with
  | [] => exact absurd rfl hs
  | [_] | [_, _] =>
    simp only [List.cons_append, List.nil_append, List.cons.injEq] at h
    simp [h] at htail
  | _ :: _ :: _ :: more =>
    simp only [List.cons_append, List.cons.injEq] at h
    obtain ⟨rfl, rfl, rfl, -⟩ := h
    exact ⟨more, rfl⟩

/-- What follows a content can complete no document marker in it. -/
theorem marksDocument_append (hs : s ≠ []) (h : marksDocument s = false)
    (hdash : tail.head? ≠ some '-') (hperiod : tail.head? ≠ some '.') :
    marksDocument (s ++ tail) = false := by
  by_contra hmarks
  rw [Bool.not_eq_false] at hmarks
  unfold marksDocument at hmarks
  split at hmarks
  · next rest heq =>
    obtain ⟨more, rfl⟩ := exists_eq_of_append_eq hs heq hdash
    cases h
  · next rest heq =>
    obtain ⟨more, rfl⟩ := exists_eq_of_append_eq hs heq hperiod
    cases h
  · cases hmarks

end Allowance

/-! ### Words and spaces -/

/-- Words with spaces between them, of which none looks like structure where it stands. -/
structure Words (s : List Char) : Prop where
  first : ∃ ch cs, s = ch :: cs ∧ isSolid ch
  unbroken : ∀ ch ∈ s, isBreak ch = false ∧ (isBlank ch → ch = ' ')
  last : s.getLast? ≠ some ' '
  inside : Allowance.badInside true s = false

/-- Words are a first word, and then spaces and words again unless it was the last one. -/
theorem Words.split {s : List Char} (h : Words s) : ∃ w, w ≠ [] ∧ (∀ ch ∈ w, isSolid ch) ∧
    (s = w ∨ ∃ k rest, s = w ++ (List.replicate (k + 1) ' ' ++ rest) ∧ Words rest) := by
  obtain ⟨first, cs, hs, hfirst⟩ := h.first
  let w := s.takeWhile isSolid
  let t := s.dropWhile isSolid
  have hwt : w ++ t = s := List.takeWhile_append_dropWhile
  have hw : ∀ ch ∈ w, isSolid ch := fun ch hch => List.mem_takeWhile_imp hch
  have hne : w ≠ [] := by
    simp only [w, hs, List.takeWhile_cons_of_pos hfirst]
    exact List.cons_ne_nil _ _
  refine ⟨w, hne, hw, ?_⟩
  by_cases ht : t = []
  · exact .inl (by rw [← hwt, ht, List.append_nil])
  -- the word ends at a space; the spaces there end at the next word
  have hspace : t.head? = some ' ' := by
    obtain ⟨ch, cs, hcons⟩ := List.exists_cons_of_ne_nil ht
    have hch : isSolid ch = false := eq_false_of_dropWhile hcons
    obtain ⟨hbreak, hblank⟩ := h.unbroken ch (by rw [← hwt, hcons]; simp)
    rw [hcons, hblank (by simpa [isSolid, hbreak] using hch)]
    rfl
  obtain ⟨k, rest, hrest, hstop⟩ := exists_spaces hspace
  have hsplit : s = w ++ (List.replicate (k + 1) ' ' ++ rest) := by rw [← hrest, hwt]
  have hrest' : rest ≠ [] := by
    intro hnil
    rw [hnil, List.append_nil] at hsplit
    apply h.last
    rw [hsplit, List.getLast?_append_of_ne_nil _ (by simp), List.getLast?_replicate,
      if_neg k.succ_ne_zero]
  refine .inr ⟨k, rest, hsplit, ?_⟩
  have hmem : ∀ ch ∈ rest, ch ∈ s := fun ch hch => by
    rw [hsplit]
    simp [hch]
  obtain ⟨ch, cs, hcons⟩ := List.exists_cons_of_ne_nil hrest'
  exact
    { first := by
        have hspace : ch ≠ ' ' := by
          rw [hcons] at hstop
          simpa using hstop
        obtain ⟨hbreak, hblank⟩ := h.unbroken ch (hmem ch (by simp [hcons]))
        have hblank : isBlank ch = false := by
          by_contra hch
          exact hspace (hblank (by simpa using hch))
        exact ⟨ch, cs, hcons, by simp [isSolid, hbreak, hblank]⟩
      unbroken := fun ch hch => h.unbroken ch (hmem ch hch)
      last := by
        intro hlast
        apply h.last
        rw [hsplit, ← List.append_assoc, List.getLast?_append_of_ne_nil _ hrest', hlast]
      inside := by
        have hinside := h.inside
        rw [hsplit, List.replicate_succ', ← List.append_assoc, ← List.append_assoc,
          List.append_assoc _ [' '], List.singleton_append] at hinside
        exact Allowance.badInside_append hinside }

/-! ### Contents that are allowed -/

namespace AllowsPlain

variable {s tail : List Char}

/-- What the allowance of a content that begins with `ch` rules out. -/
theorem rules {ch : Char} {cs : List Char} (h : AllowsPlain (ch :: cs)) :
    Allowance.marksDocument (ch :: cs) = false ∧ Allowance.badStart (ch :: cs) = false ∧
      Allowance.badInside (endsBefore ch) cs = false ∧ ch ≠ ' ' ∧
      (ch :: cs).getLast? ≠ some ' ' ∧ ∀ c ∈ ch :: cs, isPrintable c ∧ isBreak c = false := by
  obtain ⟨-, hplain⟩ := h
  simp only [Allowance.ofContent, Bool.not_eq_true', Bool.or_eq_false_iff] at hplain
  obtain ⟨⟨⟨⟨⟨⟨⟨⟨hmarks, hstart⟩, hinside⟩, hfirst, hlast⟩, -⟩, -⟩, -⟩, hspecial⟩, hbreaks⟩ :=
    hplain
  refine ⟨hmarks, hstart, hinside, by simpa [Allowance.isSpace] using hfirst, ?_,
    fun c hc => ⟨?_, ?_⟩⟩
  · intro heq
    rw [heq] at hlast
    cases hlast
  · simpa using List.any_eq_false.mp hspecial c hc
  · simpa using List.any_eq_false.mp hbreaks c hc

theorem printable (h : AllowsPlain s) : ∀ ch ∈ s, isPrintable ch := by
  obtain ⟨first, cs, rfl⟩ := List.exists_cons_of_ne_nil h.1
  exact fun ch hch => (h.rules.2.2.2.2.2 ch hch).1

theorem words (h : AllowsPlain s) : Words s := by
  obtain ⟨first, cs, rfl⟩ := List.exists_cons_of_ne_nil h.1
  obtain ⟨-, hstart, hinside, hspace, hlast, hchars⟩ := h.rules
  have hblank : ∀ ch ∈ first :: cs, isBlank ch → ch = ' ' :=
    fun ch hch => eq_space_of_isBlank (hchars ch hch).1
  simp only [Allowance.badStart, Bool.or_eq_false_iff] at hstart
  exact
    { first := by
        have hfirst : isBlank first = false := by
          by_contra hfirst
          exact hspace (hblank first List.mem_cons_self (by simpa using hfirst))
        exact ⟨first, cs, rfl, by simp [isSolid, hfirst, (hchars _ List.mem_cons_self).2]⟩
      unbroken := fun ch hch => ⟨(hchars ch hch).2, hblank ch hch⟩
      last := hlast
      inside := by
        obtain ⟨hindicator, hcolon⟩ := hstart
        have hnumber : first ≠ '#' := by
          rintro rfl
          cases hindicator
        rw [Allowance.badInside, Bool.or_eq_false_iff, Bool.or_eq_false_iff]
        refine ⟨⟨?_, by simp [hnumber]⟩, hinside⟩
        by_contra hbad
        obtain ⟨rfl, hends⟩ : first = ':' ∧ endsWord cs := by simpa using hbad
        simp [hends] at hcolon }

end AllowsPlain

/-- A string that is written plainly may stand plainly. -/
theorem allowsPlain_of_choose {s : String} (h : Style.choose s = .plain) :
    AllowsPlain s.toList := by
  simp only [Style.choose] at h
  split at h
  · split at h <;> cases h
  · split at h
    · split at h <;> cases h
    · next hcondition =>
      rw [Bool.not_eq_true, Bool.or_eq_false_iff] at hcondition
      refine ⟨?_, by simpa using hcondition.2⟩
      intro hnil
      rw [String.toList_eq_nil_iff.mp hnil] at hcondition
      exact absurd hcondition.1 (by decide)

/-! ### Reading -/

namespace Scalar

variable {margin fuel k : Nat} {start : Mark} {text w s tail cs : List Char} {g : Gap} {c : Cursor}

/-- A word is read up to where it ends. -/
theorem plainWord_append {ended : Bool} (hw : ∀ ch ∈ w, isSolid ch)
    (hinside : Allowance.badInside ended (w ++ s) = false)
    (hend : endsPlainWord false (s ++ tail)) :
    plainWord false (w ++ (s ++ tail)) = (w.length, false) := by
  induction w generalizing ended with
  | nil =>
    rw [List.nil_append]
    cases hrest : s ++ tail with
    | nil => rfl
    | cons ch cs =>
      rw [hrest] at hend
      simp only [plainWord, hend, Bool.false_and, if_true, Bool.false_eq_true, if_false]
      split <;> rfl
  | cons ch w ih =>
    obtain ⟨hch, hw⟩ := List.forall_mem_cons.mp hw
    rw [List.cons_append] at hinside
    obtain ⟨hcolon, -, hinside⟩ := Allowance.badInside_cons hinside
    have hblank := isBlank_of_isSolid hch
    have hbreak := isBreak_of_isSolid hch
    have hnext : endsPlainWord false (ch :: (w ++ (s ++ tail))) = false := by
      -- a colon inside the word has something solid after it
      have hbefore : (ch == ':' && endsWord (w ++ (s ++ tail))) = false := by
        by_contra hbad
        obtain ⟨rfl, hends⟩ : ch = ':' ∧ endsWord (w ++ (s ++ tail)) := by simpa using hbad
        have hne : w ++ s ≠ [] := by
          intro hnil
          rw [hnil] at hcolon
          cases hcolon rfl
        rw [← List.append_assoc, endsWord_append hne, hcolon rfl] at hends
        cases hends
      simp [endsPlainWord, hblank, hbreak, hbefore]
    rw [List.cons_append, plainWord, hblank, hbreak]
    simp [hnext, ih hw hinside]

/-- At the start of a word, the reader takes the word and goes on with what stands after it. -/
theorem plainFrom_word (hne : w ≠ []) (hw : ∀ ch ∈ w, isSolid ch)
    (hinside : Allowance.badInside true (w ++ s) = false)
    (hend : endsPlainWord false (s ++ tail)) (h : c.rest = w ++ (s ++ tail))
    (hmarker : c.atDocumentMarker = false) :
    plainFrom false margin start (fuel + 1) text g c =
      if (c.skip w.length).atBlankOrBreak then
        let (gap, after) := Gap.read margin fuel .none (c.skip w.length)
        if isBlank after.peek then fault .tabViolatesIndentation .plainScalar start after
        else if after.mark.column < margin then .ok ⟨text ++ g.text ++ w, gap.broken, after⟩
        else plainFrom false margin start fuel (text ++ g.text ++ w) gap after
      else .ok ⟨text ++ g.text ++ w, false, c.skip w.length⟩ := by
  have hnumber : c.peek ≠ '#' := by
    obtain ⟨ch, cs, rfl⟩ := List.exists_cons_of_ne_nil hne
    rw [List.cons_append] at hinside h
    rw [Cursor.peek_of_rest h]
    exact (Allowance.badInside_cons hinside).2.1 rfl
  have hlength : plainWord false c.rest = (w.length, false) := by
    rw [h, plainWord_append hw hinside hend]
  have hword : c.rest.take w.length = w := by rw [h, List.take_left]
  have hempty : w.isEmpty = false := by simpa using hne
  rw [plainFrom, hmarker, if_neg (by simpa using hnumber), hlength]
  simp only [hword, hempty, Bool.false_eq_true, if_false, Bool.not_false, Bool.true_and,
    decide_eq_true_eq]
  rfl

/-- A word and the spaces after it. -/
theorem plainFrom_spaces (hne : w ≠ []) (hw : ∀ ch ∈ w, isSolid ch) (hs : BeginsSolid (s ++ tail))
    (hinside : Allowance.badInside true (w ++ (List.replicate (k + 1) ' ' ++ s)) = false)
    (h : c.rest = w ++ (List.replicate (k + 1) ' ' ++ s ++ tail))
    (hmarker : c.atDocumentMarker = false) (hcolumn : margin ≤ c.mark.column + 1)
    (hfuel : k < fuel) :
    plainFrom false margin start (fuel + 1) text g c =
      plainFrom false margin start fuel (text ++ g.text ++ w)
        ⟨false, List.replicate (k + 1) ' ', [], []⟩ (c.skip (w.length + (k + 1))) := by
  have hafter : (c.skip w.length).rest = List.replicate (k + 1) ' ' ++ (s ++ tail) := by
    rw [Cursor.rest_skip_append h, List.append_assoc]
  have hblank : (c.skip w.length).atBlankOrBreak := by
    rw [Cursor.atBlankOrBreak, Cursor.peek_of_rest
      (by rw [hafter, List.replicate_succ, List.cons_append])]
    rfl
  have hlength : 0 < w.length := List.length_pos_iff.mpr hne
  have hsolid : BeginsSolid (c.skip (w.length + (k + 1))).rest := by
    rw [← Cursor.skip_skip, Cursor.rest_skip, hafter, List.drop_left' List.length_replicate]
    exact hs
  rw [plainFrom_word hne hw hinside rfl h hmarker, if_pos hblank,
    Gap.read_spaces hafter hs (Nat.succ_le_of_lt hfuel), Cursor.skip_skip]
  simp only [Gap.none, Bool.false_eq_true, if_false, List.nil_append]
  rw [Cursor.isBlank_peek hsolid, if_neg Bool.false_ne_true, if_neg]
  rw [Cursor.column_skip]
  omega

/-- All words but the last are passed. -/
theorem exists_plainFrom_eq (hs : Words s) (h : c.rest = s ++ tail)
    (hmarker : c.atDocumentMarker = false) (hcolumn : margin ≤ c.mark.column + 1)
    (hfuel : s.length + tail.length + 1 < fuel) :
    ∃ fuel' text' g' w k, plainFrom false margin start fuel text g c =
        plainFrom false margin start (fuel' + 1) text' g' (c.skip k) ∧
      tail.length < fuel' ∧ text' ++ g'.text ++ w = text ++ g.text ++ s ∧ k + w.length = s.length ∧
      w ≠ [] ∧ (∀ ch ∈ w, isSolid ch) ∧ Allowance.badInside true w = false ∧
      (c.skip k).rest = w ++ tail ∧ (c.skip k).atDocumentMarker = false := by
  induction hn : s.length using Nat.strong_induction_on generalizing s fuel text g c with
  | _ n ih =>
  obtain ⟨fuel, rfl⟩ : ∃ m, fuel = m + 1 := ⟨fuel - 1, by omega⟩
  obtain ⟨w, hne, hw, rfl | ⟨k, rest, rfl, hrest⟩⟩ := hs.split
  · exact ⟨fuel, text, g, s, 0, rfl, by omega, rfl, by omega, hne, hw, hs.inside, h, hmarker⟩
  · -- after the first word, the rest is shorter and begins with a word again
    have hlength : 0 < w.length := List.length_pos_iff.mpr hne
    simp only [List.length_append, List.length_replicate] at hn hfuel
    obtain ⟨first, cs, hfirst, hsolid⟩ := hrest.first
    have hbegins : BeginsSolid (rest ++ tail) := by
      rw [hfirst, List.cons_append]
      exact beginsSolid_cons.mpr hsolid
    rw [List.append_assoc] at h
    have hafter : (c.skip (w.length + (k + 1))).rest = rest ++ tail := by
      rw [← Cursor.skip_skip, Cursor.rest_skip, Cursor.rest_skip_append h, List.append_assoc,
        List.drop_left' List.length_replicate]
    have hmarker' : (c.skip (w.length + (k + 1))).atDocumentMarker = false :=
      Cursor.atDocumentMarker_eq_false (by rw [Cursor.column_skip]; omega)
    obtain ⟨fuel', text', g', w', k', heq, hfuel', htext, hk', hw'⟩ :=
      ih rest.length (by omega) (g := ⟨false, List.replicate (k + 1) ' ', [], []⟩) hrest hafter
        hmarker' (by rw [Cursor.column_skip]; omega)
        (by omega : rest.length + tail.length + 1 < fuel) rfl
    rw [Cursor.skip_skip] at heq hw'
    refine ⟨fuel', text', g', w', w.length + (k + 1) + k', ?_, hfuel', ?_, ?_, hw'⟩
    · rw [plainFrom_spaces hne hw hbegins hs.inside h hmarker hcolumn (by omega), heq]
    · rw [htext]
      simp [Gap.text]
    · omega

/-- A plain scalar at the colon of a key, or at the end of the text. -/
theorem plain_at (hs : AllowsPlain s) (h : c.rest = s ++ tail) (hend : endsPlainWord false tail)
    (htail : BeginsSolid tail) (hcolumn : margin ≤ c.mark.column + 1)
    (hmarker : c.atDocumentMarker = false) :
    plain false margin c = .ok ⟨s, false, c.skip s.length⟩ := by
  have hlength : s.length + tail.length + 1 < c.rest.length + 2 := by
    rw [h, List.length_append]
    omega
  obtain ⟨fuel, text, g, w, k, heq, -, htext, hk, hne, hw, hinside, hrest, hmarker'⟩ :=
    exists_plainFrom_eq (g := .none) hs.words h hmarker hcolumn hlength
  have hafter : ((c.skip k).skip w.length).rest = tail := Cursor.rest_skip_append hrest
  have hblank : ((c.skip k).skip w.length).atBlankOrBreak = false := by
    rw [Cursor.atBlankOrBreak, Cursor.isBlank_peek (hafter ▸ htail),
      Cursor.isBreak_peek (hafter ▸ htail.unbroken)]
    rfl
  rw [plain, heq, plainFrom_word (s := []) hne hw (by rw [List.append_nil]; exact hinside) hend
    hrest hmarker', hblank, if_neg Bool.false_ne_true, htext, Cursor.skip_skip, hk]
  rfl

/-- A plain scalar at the end of its line, before a line that is not indented deep enough to go on
with it. -/
theorem plain_line (hs : AllowsPlain s) (h : c.rest = s ++ '\n' :: (List.replicate k ' ' ++ cs))
    (hcs : BeginsSolid cs) (hk : k < margin) (hcolumn : margin ≤ c.mark.column + 1)
    (hmarker : c.atDocumentMarker = false) :
    ∃ c', plain false margin c = .ok ⟨s, true, c'⟩ ∧ c'.rest = cs ∧ c'.mark.column = k := by
  have hlength : s.length + ('\n' :: (List.replicate k ' ' ++ cs)).length + 1 <
      c.rest.length + 2 := by
    rw [h, List.length_append]
    omega
  obtain ⟨fuel, text, g, w, j, heq, hfuel, htext, hj, hne, hw, hinside, hrest, hmarker'⟩ :=
    exists_plainFrom_eq (g := .none) hs.words h hmarker hcolumn hlength
  have hafter : ((c.skip j).skip w.length).rest = '\n' :: (List.replicate k ' ' ++ cs) :=
    Cursor.rest_skip_append hrest
  have hbreak : ((c.skip j).skip w.length).atBlankOrBreak := by
    rw [Cursor.atBlankOrBreak, Cursor.peek_of_rest hafter]
    decide
  have hfurther : ∀ b ∈ ([] : List Char), isKeptBreak b := List.forall_mem_nil _
  have hfuel' : ([] : List Char).length + k < fuel := by
    simp only [List.length_cons, List.length_append, List.length_replicate] at hfuel
    rw [List.length_nil]
    omega
  obtain ⟨c', hread, hcs', hcolumn'⟩ := Gap.read_breaks (by decide) hfurther hafter hcs hfuel'
  refine ⟨c', ?_, hcs', hcolumn'⟩
  rw [plain, heq, plainFrom_word (s := []) hne hw (by rw [List.append_nil]; exact hinside) rfl
    hrest hmarker', if_pos hbreak, hread, htext]
  simp only [Cursor.isBlank_peek (hcs' ▸ hcs), Bool.false_eq_true, if_false]
  rw [if_pos (by omega)]
  rfl

end Scalar

end BoundaryContract.Yaml
