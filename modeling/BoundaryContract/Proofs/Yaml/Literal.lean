import BoundaryContract.Proofs.Yaml.Cursor
import BoundaryContract.Proofs.Yaml.Printer
import Mathlib.Data.List.Basic

/-!
# Literal blocks are read back

A literal block gives the lines of a content, each that is not empty inside a margin. Its reader
takes a line and the breaks after it at a time (`Scalar.blockLines_literal`); what becomes of the
last breaks is told by the header, which also has a mark for the margin if the first line could not
show it.
-/

namespace BoundaryContract.Yaml

/-! ### Lines -/

section Lines

variable {indent : Nat} {bs line s : List Char}

/-- A content that does not begin with a break is a line, and then breaks and the rest of it, unless
the line was all. -/
theorem exists_line (hs : BeginsUnbroken s) (hne : s ≠ [])
    (hkept : ∀ ch ∈ s, isBreak ch → isKeptBreak ch) :
    ∃ line, (∀ ch ∈ line, isBreak ch = false) ∧ line ≠ [] ∧
      (s = line ∨ ∃ b bs rest, s = line ++ (b :: bs ++ rest) ∧ (∀ b' ∈ b :: bs, isKeptBreak b') ∧
        BeginsUnbroken rest) := by
  let line := s.takeWhile (fun ch => !isBreak ch)
  let t := s.dropWhile (fun ch => !isBreak ch)
  have hsplit : line ++ t = s := List.takeWhile_append_dropWhile
  have hline : line ≠ [] := by
    obtain ⟨ch, cs, rfl⟩ := List.exists_cons_of_ne_nil hne
    simp [line, hs ch rfl]
  refine ⟨line, fun ch hch => by simpa using List.mem_takeWhile_imp hch, hline, ?_⟩
  by_cases hnil : t = []
  · exact .inl (by rw [← hsplit, hnil, List.append_nil])
  have hrest : t.takeWhile isBreak ++ t.dropWhile isBreak = t := List.takeWhile_append_dropWhile
  obtain ⟨b, bs, hcons⟩ : ∃ b bs, t.takeWhile isBreak = b :: bs := by
    obtain ⟨ch, cs, hcons⟩ := List.exists_cons_of_ne_nil hnil
    have hbreak : (!isBreak ch) = false := eq_false_of_dropWhile hcons
    refine ⟨ch, cs.takeWhile isBreak, ?_⟩
    rw [hcons, List.takeWhile_cons_of_pos (by simpa using hbreak)]
  rw [hcons] at hrest
  refine .inr ⟨b, bs, t.dropWhile isBreak, by rw [hrest, hsplit], fun b' hb' => ?_,
    beginsUnbroken_dropWhile t⟩
  refine hkept b' ?_ (List.mem_takeWhile_imp (hcons ▸ hb'))
  rw [← hsplit, ← hrest]
  exact List.mem_append_right line (List.mem_append_left _ hb')

/-- A line of the content is written as it is. -/
theorem literalBody_line (hline : ∀ ch ∈ line, isBreak ch = false) :
    literalBody indent false (line ++ s) = line ++ literalBody indent false s := by
  induction line with
  | nil => rfl
  | cons ch line ih =>
    obtain ⟨hch, hline⟩ := List.forall_mem_cons.mp hline
    rw [List.cons_append, literalBody, hch, if_neg Bool.false_ne_true, ih hline]
    rfl

/-- After a break, what is not empty begins with the margin. -/
theorem literalBody_true (hs : BeginsUnbroken s) (hne : s ≠ []) :
    literalBody indent true s = margin indent ++ literalBody indent false s := by
  obtain ⟨ch, cs, rfl⟩ := List.exists_cons_of_ne_nil hne
  simp [literalBody, hs ch rfl]

/-- Breaks are written as they are, without a margin. -/
theorem literalBody_breaks (hbs : ∀ b ∈ bs, isBreak b) (hne : bs ≠ []) (afterBreak : Bool) :
    literalBody indent afterBreak (bs ++ s) = bs ++ literalBody indent true s := by
  induction bs generalizing afterBreak with
  | nil => exact absurd rfl hne
  | cons b bs ih =>
    obtain ⟨hb, hbs⟩ := List.forall_mem_cons.mp hbs
    rw [List.cons_append, literalBody, if_pos hb]
    by_cases hnil : bs = []
    · rw [hnil]
      rfl
    · rw [ih hbs hnil]
      rfl

/-- The lines end like the content. -/
theorem getLast?_literalBody (indent : Nat) (hne : s ≠ []) (afterBreak : Bool) :
    (literalBody indent afterBreak s).getLast? = s.getLast? := by
  induction s generalizing afterBreak with
  | nil => exact absurd rfl hne
  | cons ch s ih =>
    have hrest (after : Bool) :
        (ch :: literalBody indent after s).getLast? = (ch :: s).getLast? := by
      by_cases hs : s = []
      · rw [hs, literalBody]
      · rw [List.getLast?_cons, ih hs, List.getLast?_cons]
    rw [literalBody]
    split
    · exact hrest true
    · rw [List.getLast?_append_of_ne_nil _ (List.cons_ne_nil ch _)]
      exact hrest false

end Lines

/-- A content in two parts: one that ends otherwise than in a break, and the breaks after it. -/
structure Ended (s body ends : List Char) : Prop where
  eq : s = body ++ ends
  unbroken : ∀ ch ∈ body.getLast?, isBreak ch = false
  breaks : ∀ b ∈ ends, isBreak b

/-- A content that begins otherwise than with a break is not all breaks. -/
theorem Ended.body_ne_nil {s body ends : List Char} (h : Ended s body ends) (hs : BeginsUnbroken s)
    (hne : s ≠ []) : body ≠ [] := by
  rintro rfl
  obtain ⟨ch, cs, rfl⟩ := List.exists_cons_of_ne_nil hne
  have hbreak := h.breaks ch (by rw [← List.nil_append ends, ← h.eq]; simp)
  rw [hs ch rfl] at hbreak
  cases hbreak

namespace Scalar

variable {start : Mark} {indent fuel k : Nat} {bs breaks cs : List Char} {c : Cursor}

/-- What stands after the breaks of a block: the margin and a line of the block, or something that
is not indented so deep. -/
structure AtLine (indent k : Nat) (cs : List Char) : Prop where
  le : k ≤ indent
  unbroken : BeginsUnbroken cs
  solid : k < indent → BeginsSolid cs

/-- The body of a block is at its margin. -/
theorem atLine_literalBody {s : List Char} (hs : BeginsUnbroken s) (hne : s ≠ [])
    (tail : List Char) : AtLine indent indent (literalBody indent false s ++ tail) := by
  refine ⟨Nat.le_refl _, ?_, fun hlt => absurd hlt (Nat.lt_irrefl _)⟩
  obtain ⟨ch, cs, rfl⟩ := List.exists_cons_of_ne_nil hne
  have hbreak : isBreak ch = false := hs ch rfl
  rw [literalBody, if_neg (by simp [hbreak])]
  simpa [BeginsUnbroken] using hbreak

/-- The body of a block begins like its content. -/
theorem beginsSolid_literalBody {s : List Char} (hs : BeginsSolid s) (hne : s ≠ [])
    (tail : List Char) : BeginsSolid (literalBody indent false s ++ tail) := by
  obtain ⟨ch, cs, rfl⟩ := List.exists_cons_of_ne_nil hne
  rw [beginsSolid_cons] at hs
  rw [literalBody, if_neg (by simp [isBreak_of_isSolid hs])]
  exact beginsSolid_cons.mpr hs

/-- The spaces before something solid are counted. -/
theorem length_spaces (hcs : BeginsSolid cs) :
    ((List.replicate k ' ' ++ cs).takeWhile (· == ' ')).length = k := by
  have hstop : cs.takeWhile (· == ' ') = [] := by
    cases cs with
    | nil => rfl
    | cons ch cs =>
      have hblank := isBlank_of_isSolid (hcs ch rfl)
      simp only [isBlank, Bool.or_eq_false_iff] at hblank
      rw [List.takeWhile_cons_of_neg (by simp [hblank])]
  rw [List.takeWhile_append_of_pos (by simp), hstop, List.append_nil, List.length_replicate]

/-- As many spaces are taken for the margin as it is deep. -/
theorem AtLine.min_spaces (h : AtLine indent k cs) :
    min ((List.replicate k ' ' ++ cs).takeWhile (· == ' ')).length indent = k := by
  have hle := h.le
  by_cases hk : k < indent
  · rw [length_spaces (h.solid hk), Nat.min_eq_left hle]
  · rw [List.takeWhile_append_of_pos (by simp), List.length_append, List.length_replicate]
    omega

/-- Blank lines are passed, and as much of the margin after them as there is. -/
theorem blankLines_append (hbs : ∀ b ∈ bs, isKeptBreak b) (hindent : 0 < indent)
    (hcs : AtLine indent k cs) (h : c.rest = bs ++ (List.replicate k ' ' ++ cs))
    (hcolumn : c.mark.column = 0) (hfuel : bs.length < fuel) (deepest : Nat) (breaks : List Char) :
    ∃ deepest' c', blankLines start indent fuel deepest breaks c =
        .ok (deepest', breaks ++ bs, c') ∧
      c'.rest = cs ∧ c'.mark.column = k := by
  induction bs generalizing fuel deepest breaks c with
  | nil =>
    obtain ⟨fuel, rfl⟩ : ∃ m, fuel = m + 1 := ⟨fuel - 1, by omega⟩
    rw [List.nil_append] at h
    have hskip : (c.skip k).rest = cs := by
      rw [Cursor.rest_skip, h, List.drop_left' List.length_replicate]
    -- the margin after the last break is passed as far as it goes
    have hspaces : (if indent = 0 then (c.takeWhile (· == ' ')).length
        else min (c.takeWhile (· == ' ')).length (indent - c.mark.column)) = k := by
      rw [if_neg hindent.ne', hcolumn, Nat.sub_zero, Cursor.takeWhile, h, hcs.min_spaces]
    have hcolumn' : (c.skip k).mark.column = k := by
      rw [Cursor.column_skip, hcolumn, Nat.zero_add]
    have htab :
        ((decide (indent = 0) || decide (k < indent)) && (c.skip k).peek == '\t') = false := by
      by_cases hk : k < indent
      · have hblank := Cursor.isBlank_peek (c := c.skip k) (hskip.symm ▸ hcs.solid hk)
        simp only [isBlank, Bool.or_eq_false_iff] at hblank
        simp [hblank]
      · simp [hk, hindent.ne']
    have hbreak : isBreak (c.skip k).peek = false :=
      Cursor.isBreak_peek (hskip.symm ▸ hcs.unbroken)
    refine ⟨max deepest k, c.skip k, ?_, hskip, hcolumn'⟩
    rw [blankLines]
    simp only [hspaces, hcolumn', htab, hbreak, Bool.false_eq_true, if_false, List.append_nil]
  | cons b bs ih =>
    obtain ⟨hb, hbs⟩ := List.forall_mem_cons.mp hbs
    rw [List.length_cons] at hfuel
    obtain ⟨fuel, rfl⟩ : ∃ m, fuel = m + 1 := ⟨fuel - 1, by omega⟩
    rw [List.cons_append] at h
    have hpeek : c.peek = b := Cursor.peek_of_rest h
    have hbreak : isBreak b := isBreak_of_isKeptBreak hb
    have hblank := not_isBlank_of_isKeptBreak hb
    simp only [isBlank, Bool.or_eq_false_iff] at hblank
    have hspaces : (if indent = 0 then (c.takeWhile (· == ' ')).length
        else min (c.takeWhile (· == ' ')).length (indent - c.mark.column)) = 0 := by
      rw [Cursor.takeWhile, h, List.takeWhile_cons_of_neg (by simp [hblank])]
      simp
    -- a blank line has no spaces, and the next one begins at the column zero again
    obtain ⟨deepest', c', hlines, hrest, hcolumn'⟩ :=
      ih (c := c.nextLine) hbs (by rw [Cursor.nextLine_of_kept h hb])
        (by rw [Cursor.nextLine_of_kept h hb]; rfl) (by omega : bs.length < fuel)
        (max deepest c.mark.column) (breaks ++ [b])
    refine ⟨deepest', c', ?_, hrest, hcolumn'⟩
    rw [blankLines]
    simp only [hspaces, Cursor.skip_zero, hpeek, hblank, hbreak, Bool.and_false, Bool.false_eq_true,
      if_false, if_true, Cursor.lineBreak_of_kept h hb, hlines, List.append_assoc,
      List.singleton_append]

/-- No line is read outside the margin or at the end of the text. -/
theorem blockLines_stop {literal spaced : Bool} {text first further : List Char}
    (h : c.mark.column ≠ indent ∨ c.rest = []) :
    blockLines literal start indent fuel text first further spaced c =
      .ok (text, first, further, c) := by
  cases fuel with
  | zero => rfl
  | succ fuel =>
    rw [blockLines, if_neg]
    obtain hcolumn | hrest := h
    · simp [hcolumn]
    · simp [Cursor.atEnd, hrest]

/-- A line of a literal block and the breaks after it. -/
theorem blockLines_line {line : List Char} {text first further : List Char} {spaced : Bool}
    {deepest : Nat} {c' : Cursor} (hline : ∀ ch ∈ line, isBreak ch = false) (hne : line ≠ [])
    (h : c.rest = line ++ cs) (hcs : ∀ ch ∈ cs.head?, isBreak ch) (hcolumn : c.mark.column = indent)
    (hblank : blankLines start indent ((c.skip line.length).rest.length + 1) 0 []
      (c.skip line.length).nextLine = .ok (deepest, breaks, c')) :
    ∃ spaced', blockLines true start indent (fuel + 1) text first further spaced c =
      blockLines true start indent fuel (text ++ first ++ further ++ line)
        (c.skip line.length).lineBreak breaks spaced' c' := by
  have htake : c.takeWhile (fun ch => !isBreak ch) = line := by
    rw [Cursor.takeWhile, h, List.takeWhile_append_of_pos (by simpa using hline)]
    cases cs with
    | nil => simp
    | cons ch cs => rw [List.takeWhile_cons_of_neg (by simp [hcs ch rfl]), List.append_nil]
  have hend : c.atEnd = false := by
    rw [Cursor.atEnd, h]
    simp [hne]
  refine ⟨isBlank c.peek, ?_⟩
  rw [blockLines, if_pos (by simp [hcolumn, hend])]
  simp only [htake, hblank, Bool.not_true, Bool.false_and, Bool.false_eq_true, if_false]
  rfl

/-- The margin is found by the first line. -/
theorem blankLines_margin (h : c.rest = List.replicate k ' ' ++ cs) (hcs : BeginsSolid cs)
    (hcolumn : c.mark.column = 0) :
    blankLines start 0 (fuel + 1) 0 [] c = .ok (k, [], c.skip k) := by
  have hskip : (c.skip k).rest = cs := by
    rw [Cursor.rest_skip, h, List.drop_left' List.length_replicate]
  have hspaces : (c.takeWhile (· == ' ')).length = k := by
    rw [Cursor.takeWhile, h, length_spaces hcs]
  have hblank := Cursor.isBlank_peek (c := c.skip k) (hskip.symm ▸ hcs)
  simp only [isBlank, Bool.or_eq_false_iff] at hblank
  have hbreak : isBreak (c.skip k).peek = false :=
    Cursor.isBreak_peek (hskip.symm ▸ hcs.unbroken)
  rw [blankLines]
  simp only [if_true, hspaces, hblank, hbreak, Bool.and_false, Bool.false_eq_true, if_false,
    Cursor.column_skip, hcolumn]
  simp

/-- At the end of the text there are no further blank lines. -/
theorem blankLines_nil (h : c.rest = []) (deepest : Nat) :
    ∃ deepest', blankLines start indent (fuel + 1) deepest breaks c =
        .ok (deepest', breaks, c) := by
  have hpeek : c.peek = '\x00' := by
    rw [Cursor.peek, h]
    rfl
  have hspaces : (c.takeWhile (· == ' ')).length = 0 := by
    rw [Cursor.takeWhile, h]
    rfl
  refine ⟨max deepest c.mark.column, ?_⟩
  rw [blankLines]
  simp only [hspaces, Nat.zero_min, ite_self, Cursor.skip_zero, hpeek]
  rw [if_neg (by simp), if_neg (by decide)]

section Lines

variable {line s tail text first further : List Char} {m : Nat} {spaced : Bool} {b : Char}

/-- A line without a break at the end of the content. -/
theorem blockLines_last (further : List Char) (hline : ∀ ch ∈ line, isBreak ch = false)
    (hne : line ≠ []) (h : c.rest = line ++ tail) (htail : Follows line tail m cs)
    (hcs : BeginsSolid cs) (hm : m < indent) (hcolumn : c.mark.column = indent) :
    ∃ first' c', blockLines true start indent (fuel + 1) text first further spaced c =
        .ok (text ++ first ++ further ++ line, first', [], c') ∧
      c'.rest = cs ∧ (cs ≠ [] → c'.mark.column = m) := by
  have hnext := Cursor.rest_skip_append h
  obtain ⟨last, hlast⟩ : ∃ last, line.getLast? = some last :=
    ⟨_, List.getLast?_eq_some_getLast hne⟩
  have hends := hline last (List.mem_of_getLast? hlast)
  obtain rfl | ⟨rfl, rfl⟩ := htail.line hlast hends
  · have hbreak : isKeptBreak '\n' := by decide
    have hnone : ∀ b ∈ ([] : List Char), isKeptBreak b := List.forall_mem_nil _
    obtain ⟨deepest, c', hblank, hrest, hcolumn'⟩ :=
      blankLines_append (c := (c.skip line.length).nextLine) hnone (Nat.zero_lt_of_lt hm)
        ⟨hm.le, hcs.unbroken, fun _ => hcs⟩ (by rw [Cursor.nextLine_of_kept hnext hbreak]; rfl)
        (by rw [Cursor.nextLine_of_kept hnext hbreak]; rfl) (Nat.succ_pos _) 0 []
    obtain ⟨spaced', hlines⟩ := blockLines_line hline hne h (by simp; decide) hcolumn hblank
    exact ⟨_, c', by rw [hlines, blockLines_stop (.inl (by omega))]; rfl, hrest, fun _ => hcolumn'⟩
  · have hstay : (c.skip line.length).nextLine = c.skip line.length := by
      rw [Cursor.nextLine]
      simp only [hnext]
    obtain ⟨deepest, hblank⟩ := blankLines_nil hnext 0
    obtain ⟨spaced', hlines⟩ :=
      blockLines_line hline hne h (by simp) hcolumn (by rw [hstay, hblank])
    exact ⟨_, _, by rw [hlines, blockLines_stop (.inr hnext)], hnext, fun hcs => absurd rfl hcs⟩

/-- A line and the breaks after it, up to the next line or the end of the block. -/
theorem blockLines_breaks {k : Nat} (further : List Char) (hline : ∀ ch ∈ line, isBreak ch = false)
    (hne : line ≠ []) (hb : isKeptBreak b) (hbs : ∀ b ∈ bs, isKeptBreak b) (hindent : 0 < indent)
    (h : c.rest = line ++ (b :: bs ++ (List.replicate k ' ' ++ cs))) (hcs : AtLine indent k cs)
    (hcolumn : c.mark.column = indent) :
    ∃ spaced' c', blockLines true start indent (fuel + 1) text first further spaced c =
        blockLines true start indent fuel (text ++ first ++ further ++ line) [b] bs spaced' c' ∧
      c'.rest = cs ∧ c'.mark.column = k := by
  have hnext := Cursor.rest_skip_append h
  have hlength : bs.length < (c.skip line.length).rest.length + 1 := by
    rw [hnext]
    simp only [List.length_append, List.length_cons]
    omega
  obtain ⟨deepest, c', hblank, hrest, hcolumn'⟩ :=
    blankLines_append (c := (c.skip line.length).nextLine) hbs hindent hcs
      (by rw [Cursor.nextLine_of_kept hnext hb]; rfl)
      (by rw [Cursor.nextLine_of_kept hnext hb]; rfl)
      hlength 0 []
  obtain ⟨spaced', hlines⟩ := blockLines_line hline hne h
    (by simpa using isBreak_of_isKeptBreak hb) hcolumn hblank
  refine ⟨spaced', c', ?_, hrest, hcolumn'⟩
  rw [hlines, Cursor.lineBreak_of_kept hnext hb, List.nil_append]

/-- The lines of a literal block are read back: all of the content but the breaks at its end, and
these apart. -/
theorem blockLines_literal (further : List Char)
    (hs : BeginsUnbroken s) (hne : s ≠ []) (hkept : ∀ ch ∈ s, isBreak ch → isKeptBreak ch)
    (h : c.rest = literalBody indent false s ++ tail) (htail : Follows s tail m cs)
    (hcs : BeginsSolid cs) (hm : m < indent) (hcolumn : c.mark.column = indent)
    (hfuel : c.rest.length < fuel) :
    ∃ body ends first' further' c', Ended s body ends ∧
      blockLines true start indent fuel text first further spaced c =
        .ok (text ++ first ++ further ++ body, first', further', c') ∧
      (ends = [] → further' = []) ∧ (∀ b bs, ends = b :: bs → first' = [b] ∧ further' = bs) ∧
      c'.rest = cs ∧ (cs ≠ [] → c'.mark.column = m) := by
  induction hn : s.length using Nat.strong_induction_on
    generalizing s fuel text first further spaced c with
  | _ n ih =>
  obtain ⟨fuel, rfl⟩ : ∃ m, fuel = m + 1 := ⟨fuel - 1, by omega⟩
  obtain ⟨line, hline, hline', rfl | ⟨b, bs, rest, rfl, hbreaks, hunbroken⟩⟩ :=
    exists_line hs hne hkept
  · -- the content is one line, without a break after it
    rw [← List.append_nil s, literalBody_line hline, literalBody, List.append_nil] at h
    obtain ⟨first', c', hlines, hrest, hcolumn'⟩ :=
      blockLines_last further hline hline' h htail hcs hm hcolumn
    refine ⟨s, [], first', [], c', ⟨(List.append_nil s).symm, ?_, List.forall_mem_nil _⟩,
      hlines, fun _ => rfl, fun _ _ heq => absurd heq.symm (List.cons_ne_nil _ _), hrest, hcolumn'⟩
    exact fun ch hch => hline ch (List.mem_of_getLast? hch)
  obtain ⟨hb, hbs⟩ := List.forall_mem_cons.mp hbreaks
  have hbreaks' : ∀ b' ∈ b :: bs, isBreak b' :=
    fun b' hb' => isBreak_of_isKeptBreak (hbreaks b' hb')
  rw [literalBody_line hline, literalBody_breaks hbreaks' (List.cons_ne_nil b bs),
    List.append_assoc, List.append_assoc] at h
  by_cases hend : rest = []
  · -- the content ends in these breaks
    subst hend
    rw [List.append_nil] at htail
    rw [literalBody, List.nil_append] at h
    obtain ⟨last, hlast⟩ : ∃ last, (b :: bs).getLast? = some last :=
      ⟨_, List.getLast?_eq_some_getLast (List.cons_ne_nil b bs)⟩
    have htail' := ((follows_append (List.cons_ne_nil b bs)).mp htail).margin hlast
      (hbreaks' last (List.mem_of_getLast? hlast))
    rw [htail'] at h
    obtain ⟨spaced', c', hlines, hcs', hcolumn'⟩ :=
      blockLines_breaks further hline hline' hb hbs (Nat.zero_lt_of_lt hm) h
        ⟨hm.le, hcs.unbroken, fun _ => hcs⟩ hcolumn
    refine ⟨line, b :: bs, [b], bs, c', ⟨by rw [List.append_nil], ?_, hbreaks'⟩, ?_,
      fun heq => absurd heq (List.cons_ne_nil b bs), ?_, hcs', fun _ => hcolumn'⟩
    · exact fun ch hch => hline ch (List.mem_of_getLast? hch)
    · rw [hlines, blockLines_stop (.inl (by omega))]
    · rintro _ _ ⟨⟩
      exact ⟨rfl, rfl⟩
  · -- another line follows
    rw [literalBody_true hunbroken hend, List.append_assoc] at h
    obtain ⟨spaced', c', hlines, hcs', hcolumn'⟩ :=
      blockLines_breaks further hline hline' hb hbs (Nat.zero_lt_of_lt hm) h
        (atLine_literalBody hunbroken hend tail) hcolumn
    have hshorter : c'.rest.length < c.rest.length := by
      simp only [hcs', h, List.length_append, List.length_cons]
      omega
    obtain ⟨body, ends, first', further', c'', hended, hrec, hstrip, hkeep, hafter⟩ :=
      ih rest.length (by
        rw [← hn]
        simp only [List.length_append, List.length_cons]
        omega) bs hunbroken hend (fun ch hch => hkept ch (by simp [hch])) hcs'
        ((follows_append hend).mp (by rwa [← List.append_assoc] at htail)) hcolumn'
        (by omega : c'.rest.length < fuel) rfl
    -- the rest of the content is not empty, so the content ends as the rest does
    have hbody : body ≠ [] := hended.body_ne_nil hunbroken hend
    refine ⟨line ++ (b :: bs ++ body), ends, first', further', c'', ⟨?_, ?_, hended.breaks⟩, ?_,
      hstrip, hkeep, hafter⟩
    · rw [hended.eq]
      simp
    · rw [← List.append_assoc, List.getLast?_append_of_ne_nil _ hbody]
      exact hended.unbroken
    · rw [hlines, hrec]
      simp

end Lines

/-! ### Headers -/

/-- The mark of a chomping in a header. -/
def Chomping.mark : Chomping → List Char
  | .strip => ['-']
  | .clip => []
  | .keep => ['+']

/-- The chomping that keeps the breaks at the end of a content. -/
def chompingFor (s : List Char) : Chomping :=
  match s.reverse with
  | [] => .strip
  | [c] => if isBreak c then .keep else .strip
  | c :: d :: _ => if !isBreak c then .strip else if isBreak d then .keep else .clip

/-- Whether the first line of a content cannot show the margin. -/
def hidesMargin : List Char → Bool
  | c :: _ => c == ' ' || isBreak c
  | [] => false

theorem literalHeader_eq (s : List Char) :
    literalHeader s = '|' :: (if hidesMargin s then ['2'] else []) ++ (chompingFor s).mark := by
  have hmark : (match s with
      | c :: _ => if (c == ' ' || isBreak c) = true then ['2'] else []
      | [] => []) = if hidesMargin s then ['2'] else [] := by
    cases s <;> rfl
  have hchomp : (match s.reverse with
      | [] => ['-']
      | [c] => if isBreak c then ['+'] else ['-']
      | c :: d :: _ => if !isBreak c then ['-'] else if isBreak d then ['+'] else []) =
      (chompingFor s).mark := by
    rw [chompingFor]
    split
    · rfl
    · split <;> rfl
    · split
      · rfl
      · split <;> rfl
  exact congrArg ('|' :: ·) (congrArg₂ (· ++ ·) hmark hchomp)

/-- A header is read up to the end of its line. -/
theorem header_append (start : Mark) {marked : Bool} {chomping : Chomping}
    (h : c.rest = (if marked then ['2'] else []) ++ chomping.mark ++ '\n' :: cs) :
    ∃ c', header start c = .ok (chomping, if marked then 2 else 0, c') ∧ c'.rest = '\n' :: cs := by
  obtain ⟨rest, mark⟩ := c
  obtain rfl := h
  cases marked <;> cases chomping <;> exact ⟨_, rfl, rfl⟩

section Chomping

variable {s : List Char} {a b : Char}

theorem chompingFor_strip (hb : isBreak b = false) : chompingFor (s ++ [b]) = .strip := by
  rw [chompingFor, List.reverse_append, List.reverse_singleton, List.singleton_append]
  cases s.reverse <;> simp [hb]

theorem chompingFor_clip (ha : isBreak a = false) (hb : isBreak b) :
    chompingFor (s ++ [a] ++ [b]) = .clip := by
  simp [chompingFor, ha, hb]

theorem chompingFor_keep (ha : isBreak a) (hb : isBreak b) :
    chompingFor (s ++ [a] ++ [b]) = .keep := by
  simp [chompingFor, ha, hb]

theorem chompingFor_break (hb : isBreak b) : chompingFor [b] = .keep := by
  simp [chompingFor, hb]

end Chomping

/-- What is kept of the breaks that have been read is the breaks of the content: a first break and
further ones after a line, or further ones alone. -/
theorem append_chomped {s body ends first further : List Char} (h : Ended s body ends)
    (hne : s ≠ []) (hstrip : ends = [] → further = [])
    (hbody : body = [] → first = [] ∧ further = ends)
    (hkeep : body ≠ [] → ∀ b bs, ends = b :: bs → first = [b] ∧ further = bs) :
    body ++ (if chompingFor s = .strip then [] else first) ++
      (if chompingFor s = .keep then further else []) = s := by
  obtain ⟨rfl, hunbroken, hbreaks⟩ := h
  obtain rfl | ⟨init, last, rfl⟩ := List.eq_nil_or_concat ends
  · -- no breaks at the end
    obtain rfl | ⟨line, last, rfl⟩ := List.eq_nil_or_concat body
    · exact absurd rfl hne
    · rw [List.append_nil, List.concat_eq_append, chompingFor_strip (hunbroken last (by simp))]
      simp
  · rw [List.concat_eq_append] at hbreaks hkeep hbody ⊢
    have hlast : isBreak last := hbreaks last (by simp)
    obtain rfl | ⟨init, before, rfl⟩ := List.eq_nil_or_concat init
    · -- one break
      obtain rfl | ⟨line, before, rfl⟩ := List.eq_nil_or_concat body
      · obtain ⟨rfl, rfl⟩ := hbody rfl
        simp [chompingFor_break hlast]
      · rw [List.concat_eq_append] at hunbroken hkeep ⊢
        obtain ⟨rfl, rfl⟩ := hkeep (by simp) last [] rfl
        rw [List.nil_append, chompingFor_clip (hunbroken before (by simp)) hlast]
        simp
    · -- several breaks
      rw [List.concat_eq_append] at hbreaks hkeep hbody ⊢
      have hbefore : isBreak before := hbreaks before (by simp)
      rw [← List.append_assoc, ← List.append_assoc, chompingFor_keep hbefore hlast]
      by_cases hnil : body = []
      · obtain ⟨rfl, rfl⟩ := hbody hnil
        simp
      · obtain ⟨b, bs, hcons⟩ := List.exists_cons_of_ne_nil
          (show init ++ [before] ++ [last] ≠ [] by simp)
        obtain ⟨rfl, rfl⟩ := hkeep hnil b bs hcons
        simp only [reduceCtorEq, if_false, if_true, List.append_assoc] at hcons ⊢
        rw [hcons]
        rfl

/-- At the start of a block of which the margin is given, the breaks before its first line are
passed and do not count for the margin. -/
theorem blankLines_given (start : Mark) {s tail : List Char} {m : Nat} (hne : s ≠ [])
    (hprintable : ∀ ch ∈ s, isPrintable ch) (h : c.rest = literalBody indent true s ++ tail)
    (htail : Follows s tail m cs) (hcs : BeginsSolid cs) (hm : m < indent)
    (hcolumn : c.mark.column = 0) :
    ∃ deepest bs rest c', s = bs ++ rest ∧ (∀ b ∈ bs, isBreak b) ∧ BeginsUnbroken rest ∧
      blankLines start indent (c.rest.length + 1) 0 [] c = .ok (deepest, bs, c') ∧
      (rest = [] → c'.rest = cs ∧ c'.mark.column = m) ∧
      (rest ≠ [] → c'.rest = literalBody indent false rest ++ tail ∧ c'.mark.column = indent) := by
  let bs := s.takeWhile isBreak
  let rest := s.dropWhile isBreak
  -- the content is split after the breaks in front of its first line
  have hsplit : bs ++ rest = s := List.takeWhile_append_dropWhile
  have hbs : ∀ b ∈ bs, isBreak b := fun b hb => List.mem_takeWhile_imp hb
  have hkept : ∀ b ∈ bs, isKeptBreak b := fun b hb =>
    isKeptBreak_of_isPrintable (hprintable b (hsplit ▸ List.mem_append_left rest hb)) (hbs b hb)
  have hunbroken : BeginsUnbroken rest := beginsUnbroken_dropWhile s
  have hbody (t : List Char) :
      literalBody indent true (bs ++ t) = bs ++ literalBody indent true t := by
    by_cases hnil : bs = []
    · rw [hnil]
      rfl
    · exact literalBody_breaks hbs hnil true
  rw [← hsplit, hbody, List.append_assoc] at h
  have hlength : bs.length < c.rest.length + 1 := by
    rw [h, List.length_append]
    omega
  by_cases hend : rest = []
  · -- the content is nothing but breaks, so the margin is that of what follows the block
    rw [hend, List.append_nil] at hsplit
    obtain ⟨last, hlast⟩ : ∃ last, s.getLast? = some last :=
      ⟨_, List.getLast?_eq_some_getLast hne⟩
    have hbreak := hbs last (hsplit ▸ List.mem_of_getLast? hlast)
    rw [hend, literalBody, List.nil_append, htail.margin hlast hbreak] at h
    obtain ⟨deepest, c', hlines, hrest, hcolumn'⟩ :=
      blankLines_append hkept (Nat.zero_lt_of_lt hm) ⟨hm.le, hcs.unbroken, fun _ => hcs⟩ h hcolumn
        hlength 0 []
    exact ⟨deepest, bs, [], c', by rw [List.append_nil, hsplit], hbs, BeginsSolid.nil.unbroken,
      hlines, fun _ => ⟨hrest, hcolumn'⟩, fun hsome => absurd rfl hsome⟩
  · rw [literalBody_true hunbroken hend, List.append_assoc] at h
    obtain ⟨deepest, c', hlines, hrest, hcolumn'⟩ :=
      blankLines_append hkept (Nat.zero_lt_of_lt hm) (atLine_literalBody hunbroken hend tail) h
        hcolumn hlength 0 []
    exact ⟨deepest, bs, rest, c', hsplit.symm, hbs, hunbroken, hlines,
      fun hnil => absurd hnil hend, fun _ => ⟨hrest, hcolumn'⟩⟩

/-- A content of which the first line can show the margin begins with something solid. -/
theorem beginsSolid_of_not_hidesMargin {s : List Char} (hprintable : ∀ ch ∈ s, isPrintable ch)
    (hshows : ¬ hidesMargin s) : BeginsSolid s := by
  cases s with
  | nil => exact .nil
  | cons first more =>
    obtain ⟨hspace, hbreak⟩ : first ≠ ' ' ∧ isBreak first = false := by
      simpa [hidesMargin] using hshows
    have hblank : isBlank first = false := by
      by_contra hblank
      exact hspace (eq_space_of_isBlank (hprintable first List.mem_cons_self)
        (by simpa using hblank))
    exact beginsSolid_cons.mpr (by simp [isSolid, hblank, hbreak])

/-- At the start of a block, the breaks before its first line are passed and the margin is found, or
given by its mark. -/
theorem blankLines_start (start : Mark) {s tail : List Char} {m : Nat} (hne : s ≠ [])
    (hprintable : ∀ ch ∈ s, isPrintable ch) (h : c.rest = literalBody indent true s ++ tail)
    (htail : Follows s tail m cs) (hcs : BeginsSolid cs) (hm : m < indent)
    (hcolumn : c.mark.column = 0) :
    ∃ deepest bs rest c', s = bs ++ rest ∧ (∀ b ∈ bs, isBreak b) ∧ BeginsUnbroken rest ∧
      blankLines start (if hidesMargin s then indent else 0) (c.rest.length + 1) 0 [] c =
        .ok (deepest, bs, c') ∧ (hidesMargin s = false → deepest = indent) ∧
      (rest = [] → c'.rest = cs ∧ c'.mark.column = m) ∧
      (rest ≠ [] → c'.rest = literalBody indent false rest ++ tail ∧ c'.mark.column = indent) := by
  by_cases hmargin : hidesMargin s
  · obtain ⟨deepest, bs, rest, c', hsplit, hbs, hunbroken, hlines, hafter⟩ :=
      blankLines_given start hne hprintable h htail hcs hm hcolumn
    rw [if_pos hmargin]
    exact ⟨deepest, bs, rest, c', hsplit, hbs, hunbroken, hlines,
      fun hshows => absurd hmargin (by simp [hshows]), hafter⟩
  · -- no break comes first, and the spaces before the first line show the margin
    have hsolid : BeginsSolid s := beginsSolid_of_not_hidesMargin hprintable hmargin
    rw [literalBody_true hsolid.unbroken hne, List.append_assoc] at h
    have hlines : blankLines start 0 (c.rest.length + 1) 0 [] c = .ok (indent, [], c.skip indent) :=
      blankLines_margin h (beginsSolid_literalBody hsolid hne tail) hcolumn
    rw [if_neg hmargin]
    exact ⟨indent, [], s, c.skip indent, rfl, List.forall_mem_nil _, hsolid.unbroken, hlines,
      fun _ => rfl, fun hnil => absurd hnil hne, fun _ =>
        ⟨by rw [Cursor.rest_skip, h, margin, List.drop_left' List.length_replicate],
          by rw [Cursor.column_skip, hcolumn, Nat.zero_add]⟩⟩

/-- The lines of a block after the blank ones at its start, with what is kept of the breaks at the
end. -/
theorem exists_blockLines (start : Mark) {s bs rest tail : List Char} {m : Nat} (hne : s ≠ [])
    (hprintable : ∀ ch ∈ s, isPrintable ch) (hsplit : s = bs ++ rest) (hbs : ∀ b ∈ bs, isBreak b)
    (hunbroken : BeginsUnbroken rest) (htail : Follows s tail m cs) (hcs : BeginsSolid cs)
    (hm : m < indent) (hnone : rest = [] → c.rest = cs ∧ c.mark.column = m)
    (hsome : rest ≠ [] → c.rest = literalBody indent false rest ++ tail ∧ c.mark.column = indent)
    (hfuel : c.rest.length < fuel) :
    ∃ text first further c', blockLines true start indent fuel [] [] bs false c =
        .ok (text, first, further, c') ∧
      text ++ (if chompingFor s = .strip then [] else first) ++
        (if chompingFor s = .keep then further else []) = s ∧
      c'.rest = cs ∧ (cs ≠ [] → c'.mark.column = m) := by
  by_cases hend : rest = []
  · -- no line comes after the blank ones
    obtain ⟨hrest, hcolumn⟩ := hnone hend
    rw [hend, List.append_nil] at hsplit
    refine ⟨[], [], bs, c, blockLines_stop (.inl (by omega)), ?_, hrest, fun _ => hcolumn⟩
    exact append_chomped ⟨hsplit, by simp, hbs⟩ hne id (fun _ => ⟨rfl, rfl⟩)
      fun hbody => absurd rfl hbody
  · obtain ⟨hrest, hcolumn⟩ := hsome hend
    have hmem : ∀ ch ∈ rest, ch ∈ s := fun ch hch => by
      rw [hsplit]
      exact List.mem_append_right bs hch
    obtain ⟨body, ends, first, further, c', hended, hlines, hstrip, hkeep, hafter⟩ :=
      blockLines_literal bs hunbroken hend
        (fun ch hch => isKeptBreak_of_isPrintable (hprintable ch (hmem ch hch))) hrest
        ((follows_append hend).mp (hsplit ▸ htail)) hcs hm hcolumn hfuel
    have hbody : body ≠ [] := hended.body_ne_nil hunbroken hend
    refine ⟨bs ++ body, first, further, c', hlines, ?_, hafter⟩
    refine append_chomped ⟨?_, ?_, hended.breaks⟩ hne hstrip (fun hnil => ?_) fun _ => hkeep
    · rw [hsplit, hended.eq, List.append_assoc]
    · rw [List.getLast?_append_of_ne_nil _ hbody]
      exact hended.unbroken
    · exact absurd (List.append_eq_nil_iff.mp hnil).2 hbody

/-- A literal block is read back, up to the next line outside its margin. -/
theorem block_literal {s tail : List Char} {m n : Nat} (hne : s ≠ [])
    (hprintable : ∀ ch ∈ s, isPrintable ch)
    (h : c.rest = literalHeader s ++ '\n' :: (literalBody (n + 2) true s ++ tail))
    (htail : Follows s tail m cs) (hcs : BeginsSolid cs) (hm : m < n + 2) :
    ∃ c', block true n c = .ok (s, c') ∧ c'.rest = cs ∧ (cs ≠ [] → c'.mark.column = m) := by
  rw [literalHeader_eq] at h
  have hheader : (c.skip 1).rest = (if hidesMargin s then ['2'] else []) ++ (chompingFor s).mark ++
      '\n' :: (literalBody (n + 2) true s ++ tail) := by
    rw [Cursor.rest_skip, h]
    rfl
  obtain ⟨c₁, hread, hline⟩ := header_append c.mark hheader
  have hpeek : c₁.peek = '\n' := Cursor.peek_of_rest hline
  have hblanks : (c₁.skipWhile isBlank).skipComment = c₁ := by
    have hstay : c₁.skipWhile isBlank = c₁ := by
      rw [Cursor.skipWhile, hline, List.takeWhile_cons_of_neg (by decide)]
      rfl
    rw [hstay, Cursor.skipComment_eq_self (by rw [hpeek]; decide)]
  have hend : c₁.atLineEnd := by
    rw [Cursor.atLineEnd, hpeek, Bool.or_eq_true]
    exact .inr (by decide)
  have hnext : c₁.nextLine = ⟨literalBody (n + 2) true s ++ tail, c₁.mark.nextLine 1⟩ :=
    Cursor.nextLine_of_kept hline (by decide)
  obtain ⟨deepest, bs, rest, c₂, hsplit, hbs, hunbroken, hstart, hfound, hnone, hsome⟩ :=
    blankLines_start c.mark (c := c₁.nextLine) hne hprintable (by rw [hnext]) htail hcs hm
      (by rw [hnext]; rfl)
  have hmark : (if (if hidesMargin s then 2 else 0) = 0 then 0 else if (0 : Int) ≤ n
      then (n : Int).toNat + (if hidesMargin s then 2 else 0) else if hidesMargin s then 2 else 0) =
      if hidesMargin s then n + 2 else 0 := by
    split <;> simp
  -- the margin is the one that was written, whether it is found or given
  have hindent : (if (if hidesMargin s then n + 2 else 0) = 0
      then max deepest (max ((n : Int) + 1).toNat 1) else if hidesMargin s then n + 2 else 0) =
      n + 2 := by
    by_cases hmargin : hidesMargin s
    · simp [hmargin]
    · rw [if_neg hmargin, if_pos rfl, hfound (by simpa using hmargin)]
      omega
  obtain ⟨text, first, further, c', hlines, htext, hafter⟩ :=
    exists_blockLines c.mark hne hprintable hsplit hbs
      hunbroken htail hcs hm hnone hsome (Nat.lt_succ_self _)
  refine ⟨c', ?_, hafter⟩
  rw [block]
  simp only [hread, bind, Except.bind, hblanks, hend, Bool.not_true, Bool.false_eq_true, if_false,
    hmark, hstart, hindent, hlines, htext, pure, Except.pure]

end Scalar

/-- A string that is written in a literal block has no characters that need an escape. -/
theorem literal_of_choose {s : String} (h : Style.choose s = .literal) :
    s.toList ≠ [] ∧ ∀ ch ∈ s.toList, isPrintable ch := by
  have hnewline : '\n' ∈ s.toList := by
    by_contra hmem
    simp only [Style.choose] at h
    rw [if_neg (by simpa using hmem)] at h
    split at h
    · split at h <;> cases h
    · cases h
  have hallowed : (Allowance.ofContent s.toList).literal := by
    by_contra hallowed
    simp only [Style.choose] at h
    rw [if_pos (by simpa using hnewline), if_neg hallowed] at h
    cases h
  refine ⟨List.ne_nil_of_mem hnewline, ?_⟩
  revert hallowed
  generalize s.toList = content
  cases content with
  | nil => exact fun _ => List.forall_mem_nil _
  | cons first content =>
    intro hallowed ch hch
    simp only [Allowance.ofContent, Bool.not_eq_true', Bool.or_eq_false_iff] at hallowed
    simpa using List.any_eq_false.mp hallowed.2 ch hch

/-- A string is read back from a literal block. -/
theorem block_of_choose {s : String} {n m : Nat} {tail cs : List Char} {c : Cursor}
    (h : Style.choose s = .literal) (hrest : c.rest = stringChars (n + 2) s ++ tail)
    (htail : Follows (stringChars (n + 2) s) tail m cs) (hcs : BeginsSolid cs) (hm : m < n + 2) :
    c.peek = '|' ∧ ∃ c', Scalar.block true n c = .ok (s.toList, c') ∧ c'.rest = cs ∧
      (cs ≠ [] → c'.mark.column = m) := by
  obtain ⟨hne, hprintable⟩ := literal_of_choose h
  simp only [stringChars, h, List.append_assoc] at hrest htail
  have hfollows : Follows s.toList tail m cs := by
    rw [follows_append (List.cons_ne_nil _ _), ← List.singleton_append] at htail
    have hbody : literalBody (n + 2) true s.toList ≠ [] := by
      intro hnil
      have hlast := getLast?_literalBody (n + 2) hne true
      rw [hnil, List.getLast?_nil] at hlast
      exact hne (List.getLast?_eq_none_iff.mp hlast.symm)
    rw [follows_append hbody] at htail
    simpa only [Follows, lineStart, getLast?_literalBody _ hne] using htail
  refine ⟨?_, Scalar.block_literal hne hprintable hrest hfollows hcs hm⟩
  rw [Scalar.literalHeader_eq] at hrest
  exact Cursor.peek_of_rest hrest

end BoundaryContract.Yaml
