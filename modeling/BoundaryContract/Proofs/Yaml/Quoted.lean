import BoundaryContract.Proofs.Yaml.Cursor
import BoundaryContract.Yaml.Printer
import Mathlib.Data.List.Basic

/-!
# Quoted scalars are read back

A content is divided into words by spaces, or also by breaks, and the reader of quoted scalars takes
a word and the gap after it at a time (`Scalar.quotedFrom_gap`) until the closing quote
(`Scalar.quotedFrom_close`). Between single quotes a quote is doubled and a line after a break is
indented; between double quotes no break is left, and every character that is not printed as it is
has an escape.
-/

namespace BoundaryContract.Yaml

/-! ### Pairs of characters -/

section Pairs

variable {first second : Char → Bool} {a b : Char} {s t : List Char}

theorem hasPair_cons (h : Allowance.hasPair first second (a :: s) = false) :
    Allowance.hasPair first second s = false := by
  cases s with
  | nil => rfl
  | cons b s =>
    rw [Allowance.hasPair, Bool.or_eq_false_iff] at h
    exact h.2

theorem hasPair_append (h : Allowance.hasPair first second (s ++ t) = false) :
    Allowance.hasPair first second t = false := by
  induction s with
  | nil => exact h
  | cons a s ih => exact ih (hasPair_cons h)

/-- Two kinds of characters that make no pair do not meet. -/
theorem not_of_hasPair (h : Allowance.hasPair first second (s ++ a :: b :: t) = false)
    (ha : first a) : second b = false := by
  have hpair := hasPair_append h
  rw [Allowance.hasPair, Bool.or_eq_false_iff, ha, Bool.true_and] at hpair
  exact hpair.1

/-- What follows a run of the first kind is not of the second kind. -/
theorem head_of_hasPair {p : Char → Bool} (h : Allowance.hasPair p second t = false)
    (hne : t.takeWhile p ≠ []) :
    ∀ ch ∈ (t.dropWhile p).head?, p ch = false ∧ second ch = false := by
  intro ch hch
  obtain ⟨cs, hcs⟩ := List.head?_eq_some_iff.mp hch
  obtain ⟨run, last, hrun⟩ := (List.eq_nil_or_concat (t.takeWhile p)).resolve_left hne
  have hlast : p last := List.mem_takeWhile_imp (by rw [hrun]; simp)
  refine ⟨eq_false_of_dropWhile hcs, not_of_hasPair (s := run) (t := cs) ?_ hlast⟩
  rw [← List.takeWhile_append_dropWhile (p := p) (l := t), hrun, hcs, List.concat_eq_append,
    List.append_assoc] at h
  exact h

end Pairs

/-! ### The loop -/

namespace Scalar

variable {single : Bool} {start : Mark} {fuel indent : Nat} {text text' s tail : List Char}
  {g : Gap} {c c₁ c₂ : Cursor}

/-- Before the closing quote, a word and the gap after it are added to the content. -/
theorem quotedFrom_gap (hmarker : c.atDocumentMarker = false) (hend : c.atEnd = false)
    (hrun : quotedRun single start fuel text c = .ok (text', c₁)) (hpeek : c₁.peek ≠ quote single)
    (hescape : c₁.peek ≠ '\\') (hread : Gap.read 0 fuel .none c₁ = (g, c₂)) :
    quotedFrom single start (fuel + 1) text c =
      quotedFrom single start fuel (text' ++ g.text) c₂ := by
  have hclosed : (c₁.peek == quote single) = false := by simpa using hpeek
  have hplain : (!single && c₁.peek == '\\') = false := by simp [hescape]
  rw [quotedFrom]
  simp only [hmarker, hend, hrun, Bool.false_eq_true, if_false, bind, Except.bind, hclosed, hplain,
    hread]

/-- The closing quote ends the content. -/
theorem quotedFrom_close (hmarker : c.atDocumentMarker = false) (hend : c.atEnd = false)
    (hrun : quotedRun single start fuel text c = .ok (text', c₁)) (hpeek : c₁.peek = quote single) :
    quotedFrom single start (fuel + 1) text c = .ok (text', c₁.skip 1) := by
  rw [quotedFrom, hmarker, hend, hrun]
  show (if c₁.peek == quote single then _ else _) = _
  rw [if_pos (by simpa using hpeek)]
  rfl

/-- What the loop reads next of the content `s`: its last word and the closing quote, or a word and
the gap after it, in front of the rest of the content. -/
inductive Piece (single : Bool) (start : Mark) (fuel : Nat) (text : List Char) (c : Cursor)
    (s tail : List Char) (More : List Char → Cursor → Prop) : Prop
  | last {c₁ : Cursor} (run : quotedRun single start fuel text c = .ok (text ++ s, c₁))
    (rest : c₁.rest = quote single :: tail)
  | gap {w t : List Char} {g : Gap} {c₁ c₂ : Cursor} (content : s = w ++ (g.text ++ t))
    (shorter : t.length < s.length)
    (run : quotedRun single start fuel text c = .ok (text ++ w, c₁))
    (peek : c₁.peek ≠ quote single ∧ c₁.peek ≠ '\\')
    (read : Gap.read 0 fuel .none c₁ = (g, c₂)) (column : 0 < c₂.mark.column)
    (length : c₂.rest.length < fuel) (more : More t c₂)

/-- A content that is read piece by piece is read back, up to the closing quote. -/
theorem quotedFrom_of_pieces (Stands : List Char → Cursor → Prop)
    (hend : ∀ s c, Stands s c → c.rest ≠ [])
    (hpiece : ∀ fuel text s c, Stands s c → c.rest.length ≤ fuel →
      Piece single start fuel text c s tail Stands)
    (hs : Stands s c) (hcolumn : 0 < c.mark.column) (hfuel : c.rest.length < fuel) :
    ∃ c', quotedFrom single start fuel text c = .ok (text ++ s, c') ∧ c'.rest = tail := by
  induction hn : s.length using Nat.strong_induction_on generalizing s fuel text c with
  | _ n ih =>
  obtain ⟨fuel, rfl⟩ : ∃ m, fuel = m + 1 := ⟨fuel - 1, by omega⟩
  have hmarker := Cursor.atDocumentMarker_eq_false hcolumn
  have hatEnd : c.atEnd = false := by simpa [Cursor.atEnd] using hend s c hs
  cases hpiece fuel text s c hs (Nat.le_of_lt_succ hfuel) with
  | @last c₁ hrun hrest =>
    refine ⟨c₁.skip 1, quotedFrom_close hmarker hatEnd hrun (Cursor.peek_of_rest hrest), ?_⟩
    rw [Cursor.rest_skip, hrest]
    rfl
  | @gap w t g c₁ c₂ hcontent hshorter hrun hpeek hread hcolumn' hlength hmore =>
    obtain ⟨c', hfrom, htail⟩ : ∃ c', quotedFrom single start fuel (text ++ w ++ g.text) c₂ =
        .ok (text ++ w ++ g.text ++ t, c') ∧ c'.rest = tail :=
      ih t.length (hn ▸ hshorter) hmore hcolumn' hlength rfl
    refine ⟨c', ?_, htail⟩
    rw [quotedFrom_gap hmarker hatEnd hrun hpeek.1 hpeek.2 hread, hfrom, hcontent]
    simp

end Scalar

/-- A text does not get shorter where something is written for every character. -/
theorem length_le_length_flatMap {f : Char → List Char} (hf : ∀ ch, f ch ≠ []) (s : List Char) :
    s.length ≤ (s.flatMap f).length := by
  induction s with
  | nil => exact Nat.le_refl 0
  | cons ch s ih =>
    have hlength : 0 < (f ch).length := List.length_pos_iff.mpr (hf ch)
    rw [List.flatMap_cons, List.length_append, List.length_cons]
    omega

/-! ### Single quotes -/

/-- A character between single quotes, where a quote is doubled. -/
def doubledQuote (ch : Char) : List Char := if ch == '\'' then ['\'', '\''] else [ch]

theorem doubledQuote_ne_nil (ch : Char) : doubledQuote ch ≠ [] := by
  rw [doubledQuote]
  split <;> exact List.cons_ne_nil _ _

section Single

variable {indent : Nat} {ch : Char} {bs r s t : List Char}

/-- A character inside a line is written by itself, or twice if it is a quote. -/
theorem singleQuotedBody_cons (h : isBreak ch = false) :
    singleQuotedBody indent false (ch :: s) =
      doubledQuote ch ++ singleQuotedBody indent false s := by
  rw [singleQuotedBody, h]
  rfl

/-- The characters of a line are written one by one. -/
theorem singleQuotedBody_append (hr : ∀ ch ∈ r, isBreak ch = false) :
    singleQuotedBody indent false (r ++ t) =
      r.flatMap doubledQuote ++ singleQuotedBody indent false t := by
  induction r with
  | nil => rfl
  | cons ch r ih =>
    obtain ⟨hch, hr⟩ := List.forall_mem_cons.mp hr
    rw [List.cons_append, singleQuotedBody_cons hch, ih hr, List.flatMap_cons, List.append_assoc]

/-- Something that begins otherwise than with a break is indented after breaks. -/
theorem singleQuotedBody_true (hs : ∀ ch ∈ s.head?, isBreak ch = false) :
    singleQuotedBody indent true s = margin indent ++ singleQuotedBody indent false s := by
  cases s with
  | nil => simp [singleQuotedBody]
  | cons ch s => simp [singleQuotedBody, hs ch rfl]

/-- After breaks the line is indented once. -/
theorem singleQuotedBody_breaks (hbs : ∀ b ∈ bs, isBreak b) (hne : bs ≠ [])
    (ht : ∀ ch ∈ t.head?, isBreak ch = false) (afterBreak : Bool) :
    singleQuotedBody indent afterBreak (bs ++ t) =
      bs ++ (margin indent ++ singleQuotedBody indent false t) := by
  induction bs generalizing afterBreak with
  | nil => exact absurd rfl hne
  | cons b bs ih =>
    obtain ⟨hb, hbs⟩ := List.forall_mem_cons.mp hbs
    rw [List.cons_append, singleQuotedBody, if_pos hb]
    by_cases hnil : bs = []
    · rw [hnil, List.nil_append, singleQuotedBody_true ht]
      rfl
    · rw [ih hbs hnil]
      rfl

/-- What is written begins like the content, or else with the closing quote. -/
theorem beginsSolid_singleQuotedBody (indent : Nat) (hs : BeginsSolid s) (tail : List Char) :
    BeginsSolid (singleQuotedBody indent false s ++ '\'' :: tail) := by
  cases s with
  | nil => exact beginsSolid_cons.mpr (by decide)
  | cons ch s =>
    rw [beginsSolid_cons] at hs
    rw [singleQuotedBody_cons (isBreak_of_isSolid hs), doubledQuote]
    split
    · exact beginsSolid_cons.mpr (by decide)
    · exact beginsSolid_cons.mpr hs

end Single

/-- A content that can stand between single quotes: breaks are kept and no space stands beside one.
-/
structure SingleText (s : List Char) : Prop where
  blank : ∀ ch ∈ s, isBlank ch → ch = ' '
  kept : ∀ ch ∈ s, isBreak ch → isKeptBreak ch ∧ ch ≠ '\n'
  breakSpace : Allowance.hasPair isBreak Allowance.isSpace s = false
  spaceBreak : Allowance.hasPair Allowance.isSpace isBreak s = false

theorem SingleText.of_append {r s : List Char} (h : SingleText (r ++ s)) : SingleText s where
  blank ch hch := h.blank ch (List.mem_append_right r hch)
  kept ch hch := h.kept ch (List.mem_append_right r hch)
  breakSpace := hasPair_append h.breakSpace
  spaceBreak := hasPair_append h.spaceBreak

/-- A content is a word, and then a run of spaces or a run of breaks before the rest of it, unless
the word was all. -/
theorem SingleText.split {s : List Char} (h : SingleText s) : ∃ w, (∀ ch ∈ w, isSolid ch) ∧
    (s = w ∨ ∃ g rest, s = w ++ (g ++ rest) ∧ g ≠ [] ∧ BeginsSolid rest ∧
      ((∀ ch ∈ g, ch = ' ') ∨ ∀ ch ∈ g, isKeptBreak ch ∧ ch ≠ '\n')) := by
  let w := s.takeWhile isSolid
  let t := s.dropWhile isSolid
  have hwt : w ++ t = s := List.takeWhile_append_dropWhile
  have ht := (hwt ▸ h : SingleText (w ++ t)).of_append
  refine ⟨w, fun ch hch => List.mem_takeWhile_imp hch, ?_⟩
  by_cases hnil : t = []
  · exact .inl (by rw [← hwt, hnil, List.append_nil])
  obtain ⟨first, cs, hcons⟩ := List.exists_cons_of_ne_nil hnil
  have hfirst : isSolid first = false := eq_false_of_dropWhile hcons
  have hmem : first ∈ t := by simp [hcons]
  -- what is neither a space nor a break is solid, since there is no other blank
  have hsolid : ∀ ch ∈ t, Allowance.isSpace ch = false → isBreak ch = false → isSolid ch := by
    intro ch hch hspace hbreak
    have hblank : isBlank ch = false := by
      by_contra hblank
      simp [ht.blank ch hch (by simpa using hblank), Allowance.isSpace] at hspace
    simp [isSolid, hblank, hbreak]
  refine .inr ?_
  by_cases hblank : isBlank first
  · have hne : t.takeWhile Allowance.isSpace ≠ [] := by
      simp [hcons, ht.blank first hmem hblank, Allowance.isSpace]
    refine ⟨t.takeWhile Allowance.isSpace, t.dropWhile Allowance.isSpace, ?_, hne, ?_, .inl ?_⟩
    · rw [List.takeWhile_append_dropWhile, hwt]
    · intro ch hch
      obtain ⟨hspace, hbreak⟩ := head_of_hasPair ht.spaceBreak hne ch hch
      exact hsolid ch ((List.dropWhile_sublist _).subset (List.mem_of_mem_head? hch)) hspace hbreak
    · intro ch hch
      simpa [Allowance.isSpace] using List.mem_takeWhile_imp hch
  · have hbreak : isBreak first := by
      by_contra hbreak
      simp [isSolid, hblank, hbreak] at hfirst
    have hne : t.takeWhile isBreak ≠ [] := by simp [hcons, hbreak]
    refine ⟨t.takeWhile isBreak, t.dropWhile isBreak, ?_, hne, ?_, .inr ?_⟩
    · rw [List.takeWhile_append_dropWhile, hwt]
    · intro ch hch
      obtain ⟨hbreak, hspace⟩ := head_of_hasPair ht.breakSpace hne ch hch
      exact hsolid ch ((List.dropWhile_sublist _).subset (List.mem_of_mem_head? hch)) hspace hbreak
    · intro ch hch
      exact ht.kept ch ((List.takeWhile_sublist _).subset hch) (List.mem_takeWhile_imp hch)

namespace Scalar

variable {start : Mark} {fuel indent : Nat} {text r s tail : List Char} {c : Cursor}

/-- What ends a word between single quotes: a blank, a break or the closing quote. -/
def EndsSingle (tail : List Char) : Prop :=
  ∃ ch rest, tail = ch :: rest ∧ (isSolid ch = false ∨ (ch = '\'' ∧ rest.head? ≠ some '\''))

/-- A run stops at once where it has to end. -/
theorem singleRun_end (h : EndsSingle c.rest) : singleRun fuel text c = (text, c) := by
  cases fuel with
  | zero => rfl
  | succ fuel =>
    obtain ⟨ch, rest, hrest, hch⟩ := h
    rw [singleRun]
    simp only [hrest]
    split
    · next heq =>
      cases heq
      obtain hch | ⟨-, hch⟩ := hch
      · cases hch
      · exact absurd rfl hch
    · next heq =>
      cases heq
      refine if_pos ?_
      obtain hch | ⟨rfl, -⟩ := hch
      · simp only [isSolid, Bool.and_eq_false_iff, Bool.not_eq_false'] at hch
        rw [Bool.or_assoc, Bool.or_eq_true, Bool.or_eq_true]
        exact .inr hch
      · rfl
    · next heq => cases heq

/-- A word between single quotes is read up to what ends it. -/
theorem singleRun_append (hr : ∀ ch ∈ r, isSolid ch) (h : c.rest = r.flatMap doubledQuote ++ tail)
    (hend : EndsSingle tail) (hfuel : r.length ≤ fuel) :
    ∃ n, singleRun fuel text c = (text ++ r, c.skip n) ∧ (c.skip n).rest = tail := by
  induction r generalizing fuel text c with
  | nil =>
    rw [List.flatMap_nil, List.nil_append] at h
    exact ⟨0, by rw [singleRun_end (h ▸ hend), List.append_nil, Cursor.skip_zero], h⟩
  | cons ch r ih =>
    obtain ⟨hch, hrest⟩ := List.forall_mem_cons.mp hr
    rw [List.length_cons] at hfuel
    obtain ⟨fuel, rfl⟩ : ∃ m, fuel = m + 1 := ⟨fuel - 1, by omega⟩
    rw [List.flatMap_cons, List.append_assoc] at h
    by_cases hquote : ch = '\''
    · -- a quote is written twice
      rw [hquote] at h
      replace h : c.rest = '\'' :: '\'' :: (r.flatMap doubledQuote ++ tail) := h
      have hnext : (c.skip 2).rest = r.flatMap doubledQuote ++ tail := by
        rw [Cursor.rest_skip, h]
        rfl
      obtain ⟨n, hrun, htail⟩ := ih hrest hnext (by omega : r.length ≤ fuel)
      refine ⟨2 + n, ?_, by rw [← Cursor.skip_skip]; exact htail⟩
      rw [singleRun]
      simp only [h]
      rw [hrun, Cursor.skip_skip, List.append_assoc, List.singleton_append, hquote]
    · have hdoubled : doubledQuote ch = [ch] := if_neg (by simpa using hquote)
      rw [hdoubled, List.singleton_append] at h
      have hnext : (c.skip 1).rest = r.flatMap doubledQuote ++ tail := by
        rw [Cursor.rest_skip, h]
        rfl
      obtain ⟨n, hrun, htail⟩ := ih hrest hnext (by omega : r.length ≤ fuel)
      refine ⟨1 + n, ?_, by rw [← Cursor.skip_skip]; exact htail⟩
      rw [singleRun]
      simp only [h]
      split
      · next heq => exact absurd (List.cons.inj heq).1 hquote
      · next heq =>
        rw [(List.cons.inj heq).1] at hquote hch
        rw [if_neg (by simp [hquote, isBlank_of_isSolid hch, isBreak_of_isSolid hch]),
          ← (List.cons.inj heq).1, hrun, Cursor.skip_skip, List.append_assoc, List.singleton_append]
      · next heq => cases heq

/-- A gap between single quotes is read back, up to the next word. -/
theorem exists_gap_single {g : List Char} (hg : g ≠ []) (hs : BeginsSolid s) (hindent : 0 < indent)
    (hgap : (∀ ch ∈ g, ch = ' ') ∨ ∀ ch ∈ g, isKeptBreak ch ∧ ch ≠ '\n')
    (h : c.rest = singleQuotedBody indent false (g ++ s) ++ '\'' :: tail)
    (hfuel : c.rest.length ≤ fuel) :
    ∃ gap c', Gap.read 0 fuel .none c = (gap, c') ∧ gap.text = g ∧ 0 < c'.mark.column ∧
      c'.rest.length < c.rest.length ∧
      c'.rest = singleQuotedBody indent false s ++ '\'' :: tail := by
  have hbegins := beginsSolid_singleQuotedBody indent hs tail
  obtain hspaces | hbreaks := hgap
  · have hg' : g = List.replicate g.length ' ' := List.eq_replicate_iff.mpr ⟨rfl, hspaces⟩
    have hdoubled : g.flatMap doubledQuote = g := by
      rw [List.flatMap_congr fun ch hch => show doubledQuote ch = [ch] by rw [hspaces ch hch]; rfl,
        List.flatMap_singleton']
    have hlength : 0 < g.length := List.length_pos_iff.mpr hg
    rw [singleQuotedBody_append fun ch hch => (by rw [hspaces ch hch]; decide), hdoubled,
      List.append_assoc] at h
    have hk : g.length ≤ fuel := by
      rw [h, List.length_append] at hfuel
      omega
    refine ⟨⟨false, g, [], []⟩, c.skip g.length, ?_, rfl, by rw [Cursor.column_skip]; omega, ?_,
      Cursor.rest_skip_append h⟩
    swap
    · rw [Cursor.rest_skip_append h, h, @List.length_append _ g]
      omega
    rw [hg'] at h
    rw [Gap.read_spaces (by simpa using h) hbegins hk, ← hg']
    rfl
  · -- breaks are followed by the margin, which belongs to the gap that is read
    rw [singleQuotedBody_breaks (fun ch hch => isBreak_of_isKeptBreak (hbreaks ch hch).1) hg
      (fun ch hch => isBreak_of_isSolid (hs ch hch)), List.append_assoc, List.append_assoc] at h
    obtain ⟨b, bs, rfl⟩ := List.exists_cons_of_ne_nil hg
    obtain ⟨⟨hb, hne⟩, hbs⟩ := List.forall_mem_cons.mp hbreaks
    have hk : bs.length + indent < fuel := by
      simp only [h, List.length_append, List.length_cons, margin, List.length_replicate] at hfuel
      omega
    obtain ⟨c', hread, hrest, hcolumn⟩ :=
      Gap.read_breaks hb (fun b hb => (hbs b hb).1) (k := indent)
        (by rw [h, List.append_assoc]; rfl) hbegins hk
    refine ⟨_, c', hread, by simp [Gap.text, hne], by omega, ?_, hrest⟩
    simp only [hrest, h, List.length_append, List.length_cons]
    omega

/-- A content that stands between single quotes, in front of the closing one. -/
private def StandsSingle (indent : Nat) (tail s : List Char) (c : Cursor) : Prop :=
  SingleText s ∧ c.rest = singleQuotedBody indent false s ++ '\'' :: tail

/-- The next piece of a content between single quotes is what the loop reads next. -/
private theorem piece_single (hindent : 0 < indent) (htail : tail.head? ≠ some '\'')
    (hs : StandsSingle indent tail s c) (hfuel : c.rest.length ≤ fuel) :
    Piece true start fuel text c s tail (StandsSingle indent tail) := by
  obtain ⟨hs, h⟩ := hs
  obtain ⟨w, hw, rfl | ⟨g, rest, rfl, hg, hrest, hgap⟩⟩ := hs.split
  · have hbody : singleQuotedBody indent false s = s.flatMap doubledQuote := by
      rw [← List.append_nil s, singleQuotedBody_append fun ch hch => isBreak_of_isSolid (hw ch hch)]
      simp [singleQuotedBody]
    rw [hbody] at h
    have hlength : s.length ≤ fuel := by
      have hle := length_le_length_flatMap doubledQuote_ne_nil s
      rw [h, List.length_append] at hfuel
      omega
    obtain ⟨k, hrun, hquote⟩ :=
      singleRun_append hw h ⟨'\'', tail, rfl, .inr ⟨rfl, htail⟩⟩ hlength
    exact .last (by rw [quotedRun, if_pos rfl, hrun]) hquote
  · rw [singleQuotedBody_append fun ch hch => isBreak_of_isSolid (hw ch hch),
      List.append_assoc] at h
    have hlength : w.length ≤ fuel := by
      have hle := length_le_length_flatMap doubledQuote_ne_nil w
      rw [h, List.length_append] at hfuel
      omega
    -- the gap begins with a character that is neither the quote nor solid
    obtain ⟨first, more, hfirst⟩ : ∃ first more,
        singleQuotedBody indent false (g ++ rest) ++ '\'' :: tail = first :: more ∧
          isSolid first = false := by
      obtain ⟨first, g, rfl⟩ := List.exists_cons_of_ne_nil hg
      obtain hspaces | hbreaks := hgap
      · obtain rfl := hspaces first List.mem_cons_self
        exact ⟨' ', _, rfl, rfl⟩
      · have hbreak := isBreak_of_isKeptBreak (hbreaks first List.mem_cons_self).1
        refine ⟨first, singleQuotedBody indent true (g ++ rest) ++ '\'' :: tail, ?_, ?_⟩
        · rw [List.cons_append, singleQuotedBody, if_pos hbreak, List.cons_append]
        · simp [isSolid, hbreak]
    obtain ⟨hcons, hsolid⟩ := hfirst
    obtain ⟨k, hrun, hafter⟩ :=
      singleRun_append hw h ⟨first, more, hcons, .inl hsolid⟩ hlength
    have hpeek : (c.skip k).peek = first := Cursor.peek_of_rest (hafter.trans hcons)
    have hshorter : (c.skip k).rest.length ≤ c.rest.length := by
      rw [Cursor.rest_skip, List.length_drop]
      omega
    obtain ⟨gap, c', hread, rfl, hcolumn, hlength', hrest'⟩ :=
      exists_gap_single hg hrest hindent hgap hafter (by omega : (c.skip k).rest.length ≤ fuel)
    have hsome : 0 < gap.text.length := List.length_pos_iff.mpr hg
    refine .gap rfl (by simp only [List.length_append]; omega)
      (by rw [quotedRun, if_pos rfl, hrun]) ?_ hread hcolumn (by omega)
      ⟨hs.of_append.of_append, hrest'⟩
    rw [hpeek]
    constructor <;>
      · rintro rfl
        cases hsolid

/-- A content between single quotes is read back, up to the closing quote. -/
theorem quotedFrom_single (hs : SingleText s) (hindent : 0 < indent)
    (h : c.rest = singleQuotedBody indent false s ++ '\'' :: tail) (htail : tail.head? ≠ some '\'')
    (hcolumn : 0 < c.mark.column) (hfuel : c.rest.length < fuel) :
    ∃ c', quotedFrom true start fuel text c = .ok (text ++ s, c') ∧ c'.rest = tail :=
  quotedFrom_of_pieces (StandsSingle indent tail)
    (fun s c hs => by simp [hs.2])
    (fun fuel text s c hs hlength => piece_single hindent htail hs hlength) ⟨hs, h⟩ hcolumn hfuel

end Scalar

/-! ### Double quotes -/

theorem codeDigits_succ (w n : Nat) :
    codeDigits (w + 1) n = (Nat.digitChar (n / Nat.pow 16 w % 16)).toUpper :: codeDigits w n := by
  rw [codeDigits, List.range_succ, List.reverse_append, List.reverse_singleton,
    List.singleton_append, List.map_cons]
  rfl

theorem length_codeDigits (w n : Nat) : (codeDigits w n).length = w := by
  rw [codeDigits, List.length_map, List.length_reverse, List.length_range]

namespace Scalar

variable {start : Mark} {fuel n w : Nat} {ch : Char} {text r s tail : List Char} {c : Cursor}

theorem hexValue?_digitChar : ∀ d < 16, hexValue? (Nat.digitChar d).toUpper = some d := by decide

/-- The digits of a code point are read back. -/
theorem hexNumber?_codeDigits (w v n : Nat) (tail : List Char) :
    hexNumber? w v (codeDigits w n ++ tail) = some (v * Nat.pow 16 w + n % Nat.pow 16 w) := by
  induction w generalizing v with
  | zero => simp [hexNumber?, Nat.mod_one]
  | succ w ih =>
    rw [codeDigits_succ, List.cons_append, hexNumber?,
      hexValue?_digitChar _ (Nat.mod_lt _ (by decide))]
    show hexNumber? w (v * 16 + n / Nat.pow 16 w % 16) (codeDigits w n ++ tail) = _
    have hpow : Nat.pow 16 (w + 1) = Nat.pow 16 w * 16 := rfl
    rw [ih, hpow, Nat.mod_mul, Nat.add_mul, Nat.mul_assoc, Nat.mul_comm 16,
      Nat.mul_comm (n / Nat.pow 16 w % 16), Nat.add_assoc,
      Nat.add_comm (Nat.pow 16 w * (n / Nat.pow 16 w % 16))]

theorem ofCodePoint?_toNat (ch : Char) : ofCodePoint? ch.toNat = some ch := by
  have hvalid : ch.toNat.isValidChar := ch.valid
  rw [ofCodePoint?, if_pos hvalid, Char.ofNat_toNat]

theorem escaped?_of_shortEscape? {letter : Char} (h : shortEscape? ch = some letter) :
    escaped? letter = some ch ∧ isBreak letter = false := by
  revert h
  unfold shortEscape?
  split <;> intro h <;> cases h <;> exact ⟨rfl, rfl⟩

/-- An escaped code point is read back. -/
theorem escape_code {letter : Char} (hletter : escaped? letter = none)
    (hlength : codeLength? letter = some w) (hw : ch.toNat < Nat.pow 16 w)
    (h : c.rest = '\\' :: letter :: codeDigits w ch.toNat ++ tail) :
    escape start c = .ok (ch, c.skip (2 + w)) := by
  have hpeek : c.peekAt 1 = letter := by
    rw [Cursor.peekAt, h]
    rfl
  have hdigits : (c.skip 2).rest = codeDigits w ch.toNat ++ tail := by
    rw [Cursor.rest_skip, h]
    rfl
  have hcode : hexNumber? w 0 (c.skip 2).rest = some ch.toNat := by
    rw [hdigits, hexNumber?_codeDigits, Nat.mod_eq_of_lt hw, Nat.zero_mul, Nat.zero_add]
  rw [escape]
  simp only [hpeek, hletter, hlength, hcode, ofCodePoint?_toNat, Cursor.skip_skip]

/-- How a character is written between double quotes: as it is, or as an escape that is read back.
-/
theorem doubleQuotedChar_cases (ch : Char) :
    (doubleQuotedChar ch = [ch] ∧ isPrintable ch ∧ isBreak ch = false ∧ ch ≠ '"' ∧ ch ≠ '\\') ∨
      ∃ letter more, doubleQuotedChar ch = '\\' :: letter :: more ∧ isBreak letter = false ∧
        ∀ (start : Mark) (c : Cursor) (tail : List Char),
          c.rest = '\\' :: letter :: more ++ tail →
            escape start c = .ok (ch, c.skip (more.length + 2)) := by
  rw [doubleQuotedChar]
  split
  · next hplain =>
    left
    simpa [and_assoc] using hplain
  · right
    split
    · next letter hletter =>
      obtain ⟨hescaped, hbreak⟩ := escaped?_of_shortEscape? hletter
      refine ⟨letter, [], rfl, hbreak, fun start c tail h => ?_⟩
      have hpeek : c.peekAt 1 = letter := by
        rw [Cursor.peekAt, h]
        rfl
      rw [escape]
      simp only [hpeek, hescaped]
      rfl
    · -- a number of two, four or eight digits, whatever its letter is
      have hcode : ∀ (letter : Char) (w : Nat), escaped? letter = none →
          codeLength? letter = some w → ch.toNat < Nat.pow 16 w → isBreak letter = false →
          ∃ l more, '\\' :: letter :: codeDigits w ch.toNat = '\\' :: l :: more ∧
            isBreak l = false ∧ ∀ (start : Mark) (c : Cursor) (tail : List Char),
              c.rest = '\\' :: l :: more ++ tail →
                escape start c = .ok (ch, c.skip (more.length + 2)) := by
        intro letter w hletter hlength hw hbreak
        refine ⟨letter, codeDigits w ch.toNat, rfl, hbreak, fun start c tail h => ?_⟩
        rw [length_codeDigits, Nat.add_comm w 2]
        exact escape_code hletter hlength hw h
      dsimp only
      split
      · next hbyte =>
        have hlt : ch.toNat < Nat.pow 16 2 := Nat.lt_succ_of_le hbyte
        exact hcode 'x' 2 rfl rfl hlt rfl
      · split
        · next hword =>
          have hlt : ch.toNat < Nat.pow 16 4 := Nat.lt_succ_of_le hword
          exact hcode 'u' 4 rfl rfl hlt rfl
        · exact hcode 'U' 8 rfl rfl ch.val.toNat_lt rfl

theorem doubleQuotedChar_ne_nil (ch : Char) : doubleQuotedChar ch ≠ [] := by
  obtain ⟨heq, -⟩ | ⟨letter, more, heq, -⟩ := doubleQuotedChar_cases ch
  all_goals
    rw [heq]
    exact List.cons_ne_nil _ _

/-- Something that begins otherwise than with a space begins with something solid between double
quotes. -/
theorem beginsSolid_doubleQuoted (hs : s.head? ≠ some ' ') (tail : List Char) :
    BeginsSolid (s.flatMap doubleQuotedChar ++ '"' :: tail) := by
  cases s with
  | nil => exact beginsSolid_cons.mpr (by decide)
  | cons ch s =>
    rw [List.flatMap_cons]
    obtain ⟨heq, hprintable, hbreak, -⟩ | ⟨letter, more, heq, -⟩ := doubleQuotedChar_cases ch
    · have hblank : isBlank ch = false := by
        by_contra hblank
        rw [eq_space_of_isBlank hprintable (by simpa using hblank)] at hs
        exact hs rfl
      rw [heq]
      exact beginsSolid_cons.mpr (by simp [isSolid, hblank, hbreak])
    · rw [heq]
      exact beginsSolid_cons.mpr (by decide)

/-- What ends a word between double quotes: a space or the closing quote. -/
def EndsDouble (tail : List Char) : Prop :=
  ∃ ch rest, tail = ch :: rest ∧ (ch = ' ' ∨ ch = '"')

/-- A run stops at once where it has to end. -/
theorem doubleRun_end (h : EndsDouble c.rest) : doubleRun start fuel text c = .ok (text, c) := by
  cases fuel with
  | zero => rfl
  | succ fuel =>
    obtain ⟨ch, rest, hrest, hch⟩ := h
    rw [doubleRun]
    simp only [hrest]
    obtain rfl | rfl := hch <;> rfl

/-- A word between double quotes is read up to what ends it. -/
theorem doubleRun_append (hr : ∀ ch ∈ r, ch ≠ ' ') (h : c.rest = r.flatMap doubleQuotedChar ++ tail)
    (hend : EndsDouble tail) (hfuel : r.length ≤ fuel) (text : List Char) :
    ∃ n, doubleRun start fuel text c = .ok (text ++ r, c.skip n) ∧ (c.skip n).rest = tail := by
  induction r generalizing fuel text c with
  | nil =>
    rw [List.flatMap_nil, List.nil_append] at h
    exact ⟨0, by rw [doubleRun_end (h ▸ hend), List.append_nil, Cursor.skip_zero], h⟩
  | cons ch r ih =>
    obtain ⟨hch, hrest⟩ := List.forall_mem_cons.mp hr
    rw [List.length_cons] at hfuel
    obtain ⟨fuel, rfl⟩ : ∃ m, fuel = m + 1 := ⟨fuel - 1, by omega⟩
    rw [List.flatMap_cons, List.append_assoc] at h
    have hnext := Cursor.rest_skip_append h
    obtain ⟨n, hrun, htail⟩ := ih hrest hnext (by omega : r.length ≤ fuel) (text ++ [ch])
    refine ⟨(doubleQuotedChar ch).length + n, ?_, by rw [← Cursor.skip_skip]; exact htail⟩
    rw [Cursor.skip_skip, List.append_assoc, List.singleton_append] at hrun
    obtain ⟨heq, hprintable, hbreak, hquote, hslash⟩ | ⟨letter, more, heq, hbreak, hescape⟩ :=
      doubleQuotedChar_cases ch
    · have hblank : isBlank ch = false := by
        by_contra hblank
        exact hch (eq_space_of_isBlank hprintable (by simpa using hblank))
      have hends : (ch == '"' || isBlank ch || isBreak ch) = false := by
        simp [hquote, hblank, hbreak]
      rw [heq] at h hrun ⊢
      rw [doubleRun]
      simp only [h, List.singleton_append, hends, Bool.false_eq_true, if_false]
      exact hrun
    · rw [heq] at h hrun ⊢
      rw [doubleRun]
      simp only [h, List.cons_append, List.headD_cons, hbreak, Bool.false_eq_true, if_false,
        hescape start c (r.flatMap doubleQuotedChar ++ tail) h]
      exact hrun

/-- A content that stands between double quotes, in front of the closing one. -/
private def StandsDouble (tail s : List Char) (c : Cursor) : Prop :=
  c.rest = s.flatMap doubleQuotedChar ++ '"' :: tail

/-- The next piece of a content between double quotes is what the loop reads next. -/
private theorem piece_double (h : StandsDouble tail s c) (hfuel : c.rest.length ≤ fuel) :
    Piece false start fuel text c s tail (StandsDouble tail) := by
  rw [StandsDouble] at h
  let w := s.takeWhile (· != ' ')
  let t := s.dropWhile (· != ' ')
  have hwt : w ++ t = s := List.takeWhile_append_dropWhile
  have hw : ∀ ch ∈ w, ch ≠ ' ' := fun ch hch => by simpa using List.mem_takeWhile_imp hch
  rw [← hwt, List.flatMap_append, List.append_assoc] at h
  have hlength : w.length ≤ fuel := by
    have hle := length_le_length_flatMap doubleQuotedChar_ne_nil w
    rw [h, List.length_append] at hfuel
    omega
  by_cases hnil : t = []
  · rw [hnil, List.append_nil] at hwt
    rw [hnil, List.flatMap_nil, List.nil_append] at h
    obtain ⟨k, hrun, hquote⟩ :=
      doubleRun_append hw h ⟨'"', tail, rfl, .inr rfl⟩ hlength text
    exact .last (by rw [quotedRun, if_neg Bool.false_ne_true, hrun, hwt]) hquote
  -- the word ends at a space; the spaces there end at the next word or at the quote
  have hspace : t.head? = some ' ' := by
    obtain ⟨ch, cs, hcons⟩ := List.exists_cons_of_ne_nil hnil
    have hch : (ch != ' ') = false := eq_false_of_dropWhile (p := (· != ' ')) hcons
    rw [hcons, show ch = ' ' by simpa using hch]
    rfl
  obtain ⟨j, rest, hrest, hstop⟩ := exists_spaces hspace
  have hbegins : BeginsSolid (rest.flatMap doubleQuotedChar ++ '"' :: tail) :=
    beginsSolid_doubleQuoted hstop tail
  have hencoded : (List.replicate (j + 1) ' ').flatMap doubleQuotedChar =
      List.replicate (j + 1) ' ' := by
    rw [List.flatMap_congr fun ch hch => show doubleQuotedChar ch = [ch] by
      rw [List.eq_of_mem_replicate hch]; rfl, List.flatMap_singleton']
  rw [hrest, List.flatMap_append, hencoded, List.append_assoc] at h
  obtain ⟨k, hrun, hafter⟩ := doubleRun_append hw h
    ⟨' ', List.replicate j ' ' ++ (rest.flatMap doubleQuotedChar ++ '"' :: tail), rfl, .inl rfl⟩
    hlength text
  have hpeek : (c.skip k).peek = ' ' :=
    Cursor.peek_of_rest (hafter.trans (List.cons_append ..))
  have hj : j + 1 ≤ (c.skip k).rest.length := by
    rw [hafter, List.length_append, List.length_replicate]
    omega
  have hshorter : (c.skip k).rest.length ≤ c.rest.length := by
    rw [Cursor.rest_skip, List.length_drop]
    omega
  have hread : Gap.read 0 fuel .none (c.skip k) =
      (⟨false, List.replicate (j + 1) ' ', [], []⟩, (c.skip k).skip (j + 1)) :=
    Gap.read_spaces hafter hbegins (by omega)
  have hcontent : s = w ++ (List.replicate (j + 1) ' ' ++ rest) := by rw [← hwt, hrest]
  refine .gap hcontent ?_ (by rw [quotedRun, if_neg Bool.false_ne_true, hrun]) ?_ hread ?_ ?_ ?_
  · rw [← hwt, hrest]
    simp only [List.length_append, List.length_replicate]
    omega
  · rw [hpeek]
    decide
  · rw [Cursor.column_skip]
    omega
  · rw [Cursor.rest_skip, List.length_drop]
    omega
  · rw [StandsDouble, Cursor.rest_skip, hafter, List.drop_left' List.length_replicate]

/-- A content between double quotes is read back, up to the closing quote. -/
theorem quotedFrom_double (h : c.rest = s.flatMap doubleQuotedChar ++ '"' :: tail)
    (hcolumn : 0 < c.mark.column) (hfuel : c.rest.length < fuel) :
    ∃ c', quotedFrom false start fuel text c = .ok (text ++ s, c') ∧ c'.rest = tail :=
  quotedFrom_of_pieces (StandsDouble tail)
    (fun s c (hs : c.rest = _) => by simp [hs])
    (fun fuel text s c hs hlength => piece_double hs hlength) h hcolumn hfuel

end Scalar

/-! ### Strings between quotes -/

section

variable {s : String} {indent : Nat} {tail : List Char} {c : Cursor}

/-- A string that is written between single quotes has no characters that need an escape. -/
theorem singleText_of_choose (h : Style.choose s = .singleQuoted) :
    SingleText s.toList ∧ ∀ ch ∈ s.toList, isPrintable ch := by
  have hnewline : '\n' ∉ s.toList := by
    intro hmem
    simp only [Style.choose] at h
    rw [if_pos (by simpa using hmem)] at h
    split at h <;> cases h
  have hallowed : (Allowance.ofContent s.toList).singleQuoted := by
    by_contra hallowed
    simp only [Style.choose] at h
    rw [if_neg (by simpa using hnewline)] at h
    simp only [hallowed, Bool.false_eq_true, if_false] at h
    split at h <;> cases h
  revert hnewline hallowed
  generalize s.toList = content
  intro hnewline hallowed
  cases content with
  | nil => exact ⟨⟨by simp, by simp, rfl, rfl⟩, List.forall_mem_nil _⟩
  | cons first content =>
    simp only [Allowance.ofContent, Bool.not_eq_true', Bool.or_eq_false_iff] at hallowed
    obtain ⟨⟨hbreakSpace, hspaceBreak⟩, hspecial⟩ := hallowed
    have hprintable : ∀ ch ∈ first :: content, isPrintable ch := fun ch hch => by
      simpa using List.any_eq_false.mp hspecial ch hch
    refine ⟨⟨fun ch hch => eq_space_of_isBlank (hprintable ch hch), fun ch hch hbreak => ?_,
      hbreakSpace, hspaceBreak⟩, hprintable⟩
    exact ⟨isKeptBreak_of_isPrintable (hprintable ch hch) hbreak, fun heq => hnewline (heq ▸ hch)⟩

/-- A string is read back from single quotes. -/
theorem quoted_single (h : Style.choose s = .singleQuoted) (hindent : 0 < indent)
    (hrest : c.rest = stringChars indent s ++ tail) (htail : tail.head? ≠ some '\'') :
    c.peek = '\'' ∧ ∃ c', Scalar.quoted true c = .ok (s.toList, c') ∧ c'.rest = tail := by
  simp only [stringChars, h, List.cons_append, List.append_assoc] at hrest
  have hnext : (c.skip 1).rest = singleQuotedBody indent false s.toList ++ '\'' :: tail := by
    rw [Cursor.rest_skip, hrest]
    rfl
  refine ⟨Cursor.peek_of_rest hrest, ?_⟩
  exact Scalar.quotedFrom_single (singleText_of_choose h).1 hindent hnext htail
    (by rw [Cursor.column_skip]; omega) (by rw [Cursor.rest_skip, List.length_drop]; omega)

/-- A string is read back from double quotes. -/
theorem quoted_double (h : Style.choose s = .doubleQuoted)
    (hrest : c.rest = stringChars indent s ++ tail) :
    c.peek = '"' ∧ ∃ c', Scalar.quoted false c = .ok (s.toList, c') ∧ c'.rest = tail := by
  simp only [stringChars, h, List.cons_append, List.append_assoc] at hrest
  have hnext : (c.skip 1).rest = s.toList.flatMap doubleQuotedChar ++ '"' :: tail := by
    rw [Cursor.rest_skip, hrest]
    rfl
  refine ⟨Cursor.peek_of_rest hrest, ?_⟩
  exact Scalar.quotedFrom_double hnext (by rw [Cursor.column_skip]; omega)
    (by rw [Cursor.rest_skip, List.length_drop]; omega)

end

end BoundaryContract.Yaml
