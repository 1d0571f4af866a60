import BoundaryContract.Yaml.Token.Lexer
import Mathlib.Data.List.TakeWhile

/-!
# Moving through YAML text

What the readers of blanks and line breaks do with a text of which the next characters are known.
Between two words of a scalar stand spaces, or breaks and the spaces of a margin (`Gap.read_spaces`,
`Gap.read_breaks`); between two tokens stand the same (`passBlanks_spaces`, `passBlanks_line`).
-/

namespace BoundaryContract.Yaml

/-! ### Characters -/

/-- Neither a blank nor a break. -/
def isSolid (ch : Char) : Bool := !isBlank ch && !isBreak ch

/-- The text ends or goes on with something else than a blank or a break. -/
def BeginsSolid (cs : List Char) : Prop := ∀ ch ∈ cs.head?, isSolid ch

/-- The text ends or goes on with something else than a break. -/
def BeginsUnbroken (cs : List Char) : Prop := ∀ ch ∈ cs.head?, isBreak ch = false

/-- The breaks that a content keeps as they are; the others are read as line feeds. -/
def isKeptBreak (ch : Char) : Bool := ch == '\n' || ch == '\u2028' || ch == '\u2029'

theorem isBreak_of_isKeptBreak {ch : Char} (h : isKeptBreak ch) : isBreak ch := by
  simp only [isKeptBreak, Bool.or_eq_true, beq_iff_eq] at h
  obtain (rfl | rfl) | rfl := h <;> decide

theorem not_isBlank_of_isKeptBreak {ch : Char} (h : isKeptBreak ch) : isBlank ch = false := by
  simp only [isKeptBreak, Bool.or_eq_true, beq_iff_eq] at h
  obtain (rfl | rfl) | rfl := h <;> decide

theorem isBlank_space : isBlank ' ' := by decide

/-- The breaks that may stand in a text are those that are kept. -/
theorem isKeptBreak_of_isPrintable {ch : Char} (hprintable : isPrintable ch) (h : isBreak ch) :
    isKeptBreak ch := by
  simp only [isBreak, Bool.or_eq_true, beq_iff_eq] at h
  obtain (((rfl | rfl) | rfl) | rfl) | rfl := h
  all_goals first | rfl | cases hprintable

/-- The only blank that can stand for itself is the space. -/
theorem eq_space_of_isBlank {ch : Char} (hprintable : isPrintable ch) (h : isBlank ch) :
    ch = ' ' := by
  simp only [isBlank, Bool.or_eq_true, beq_iff_eq] at h
  refine h.resolve_right ?_
  rintro rfl
  cases hprintable

/-- What is left after a run of one kind of characters does not begin with another of them. -/
theorem eq_false_of_dropWhile {p : Char → Bool} {s cs : List Char} {ch : Char}
    (h : s.dropWhile p = ch :: cs) : p ch = false := by
  have hhead := List.head?_dropWhile_not p s
  rw [h] at hhead
  simpa using hhead

section BeginsSolid

variable {ch : Char} {cs : List Char}

/-- After the breaks at its beginning, a text goes on with something else. -/
theorem beginsUnbroken_dropWhile (s : List Char) : BeginsUnbroken (s.dropWhile isBreak) := by
  intro ch hch
  obtain ⟨cs, hcs⟩ := List.head?_eq_some_iff.mp hch
  exact eq_false_of_dropWhile hcs

theorem isBlank_of_isSolid (h : isSolid ch) : isBlank ch = false := by
  simp only [isSolid, Bool.and_eq_true, Bool.not_eq_true'] at h
  exact h.1

theorem isBreak_of_isSolid (h : isSolid ch) : isBreak ch = false := by
  simp only [isSolid, Bool.and_eq_true, Bool.not_eq_true'] at h
  exact h.2

theorem BeginsSolid.unbroken (h : BeginsSolid cs) : BeginsUnbroken cs :=
  fun ch hch => isBreak_of_isSolid (h ch hch)

theorem BeginsSolid.nil : BeginsSolid [] := nofun

theorem beginsSolid_cons : BeginsSolid (ch :: cs) ↔ isSolid ch := by
  simp [BeginsSolid]

/-- Spaces go on up to something else. -/
theorem exists_spaces (h : cs.head? = some ' ') :
    ∃ k rest, cs = List.replicate (k + 1) ' ' ++ rest ∧ rest.head? ≠ some ' ' := by
  induction cs with
  | nil => cases h
  | cons ch cs ih =>
    obtain rfl : ch = ' ' := by simpa using h
    by_cases hcs : cs.head? = some ' '
    · obtain ⟨k, rest, rfl, hrest⟩ := ih hcs
      exact ⟨k + 1, rest, rfl, hrest⟩
    · exact ⟨0, cs, rfl, hcs⟩

end BeginsSolid

/-! ### Cursors -/

namespace Cursor

variable {c : Cursor} {ch : Char} {cs w tail : List Char} {n : Nat}

@[simp] theorem rest_skip (c : Cursor) (n : Nat) : (c.skip n).rest = c.rest.drop n := rfl

@[simp] theorem column_skip (c : Cursor) (n : Nat) :
    (c.skip n).mark.column = c.mark.column + n := rfl

@[simp] theorem line_skip (c : Cursor) (n : Nat) : (c.skip n).mark.line = c.mark.line := rfl

@[simp] theorem index_skip (c : Cursor) (n : Nat) : (c.skip n).mark.index = c.mark.index + n := rfl

theorem skip_zero (c : Cursor) : c.skip 0 = c := rfl

theorem skip_skip (c : Cursor) (m n : Nat) : (c.skip m).skip n = c.skip (m + n) := by
  simp [skip, Mark.right, Nat.add_assoc]

theorem rest_skip_append (h : c.rest = w ++ tail) : (c.skip w.length).rest = tail := by
  rw [rest_skip, h, List.drop_left]

theorem peek_of_rest (h : c.rest = ch :: cs) : c.peek = ch := by
  rw [peek, h, List.headD_cons]

theorem atEnd_of_rest (h : c.rest = ch :: cs) : c.atEnd = false := by
  rw [atEnd, h]
  rfl

/-- What comes next is no blank, also at the end of the text. -/
theorem isBlank_peek (h : BeginsSolid c.rest) : isBlank c.peek = false := by
  cases hrest : c.rest with
  | nil =>
    rw [peek, hrest]
    decide
  | cons ch cs =>
    rw [hrest, beginsSolid_cons] at h
    rw [peek_of_rest hrest, isBlank_of_isSolid h]

/-- What comes next is no break, also at the end of the text. -/
theorem isBreak_peek (h : BeginsUnbroken c.rest) : isBreak c.peek = false := by
  cases hrest : c.rest with
  | nil =>
    rw [peek, hrest]
    decide
  | cons ch cs =>
    rw [hrest] at h
    rw [peek_of_rest hrest]
    exact h ch rfl

/-- Document markers stand at the start of a line only. -/
theorem atDocumentMarker_eq_false (h : 0 < c.mark.column) : c.atDocumentMarker = false := by
  rw [atDocumentMarker, beq_eq_false_iff_ne.mpr h.ne', Bool.false_and]

theorem skipByteOrderMark_eq_self (h : c.peek ≠ byteOrderMark) : c.skipByteOrderMark = c := by
  rw [skipByteOrderMark, if_neg (by simp [h])]

theorem skipComment_eq_self (h : c.peek ≠ '#') : c.skipComment = c := by
  rw [skipComment, if_neg (by simpa using h)]

/-- A break that is kept is followed by the start of a line. -/
theorem nextLine_of_kept (h : c.rest = ch :: cs) (hch : isKeptBreak ch) :
    c.nextLine = ⟨cs, c.mark.nextLine 1⟩ := by
  have hbreak := isBreak_of_isKeptBreak hch
  have hne : ch ≠ '\r' := by
    rintro rfl
    cases hch
  simp only [nextLine, h]
  split
  · next heq =>
    cases heq
    exact absurd rfl hne
  · next heq =>
    cases heq
    rw [if_pos hbreak]
  · next heq => cases heq

/-- A break that is kept is read as itself. -/
theorem lineBreak_of_kept (h : c.rest = ch :: cs) (hch : isKeptBreak ch) : c.lineBreak = [ch] := by
  have hbreak := isBreak_of_isKeptBreak hch
  simp only [isKeptBreak, Bool.or_eq_true, beq_iff_eq] at hch
  simp only [lineBreak, h]
  obtain (rfl | rfl) | rfl := hch <;> rfl

end Cursor

/-! ### Gaps -/

namespace Gap

variable {margin fuel k : Nat} {g : Gap} {c : Cursor} {cs : List Char}

/-- A gap ends where something solid begins. -/
theorem read_solid (h : BeginsSolid c.rest) : read margin fuel g c = (g, c) := by
  cases fuel with
  | zero => rfl
  | succ fuel =>
    rw [read, Cursor.isBlank_peek h, Cursor.isBreak_peek h.unbroken]
    split <;> rfl

/-- Spaces are kept if there was no break before, and count for nothing after a break. -/
theorem read_spaces (h : c.rest = List.replicate k ' ' ++ cs) (hcs : BeginsSolid cs)
    (hfuel : k ≤ fuel) : read margin fuel g c =
      (if g.broken then g else { g with blanks := g.blanks ++ List.replicate k ' ' },
        c.skip k) := by
  induction k generalizing fuel g c with
  | zero =>
    rw [List.replicate_zero, List.nil_append] at h
    rw [read_solid (h ▸ hcs), List.replicate_zero, List.append_nil, ite_self, Cursor.skip_zero]
  | succ k ih =>
    obtain ⟨fuel, rfl⟩ : ∃ n, fuel = n + 1 := ⟨fuel - 1, by omega⟩
    rw [List.replicate_succ, List.cons_append] at h
    have hpeek : c.peek = ' ' := Cursor.peek_of_rest h
    have hrest : (c.skip 1).rest = List.replicate k ' ' ++ cs := by
      rw [Cursor.rest_skip, h, List.drop_one, List.tail_cons]
    have hextend : g.extend c = if g.broken then g else { g with blanks := g.blanks ++ [' '] } := by
      rw [extend, hpeek, if_pos isBlank_space]
    rw [read, if_neg (by simp [hpeek]), hpeek, if_pos isBlank_space,
      ih hrest (Nat.le_of_succ_le_succ hfuel), Cursor.skip_skip, Nat.add_comm 1 k, hextend]
    by_cases hbroken : g.broken
    · simp [hbroken]
    · simp [hbroken, List.replicate_succ]

/-- A break that is kept begins a gap, or is a further break of one. -/
theorem extend_break {b : Char} (hb : isKeptBreak b) (h : c.rest = b :: cs) :
    g.extend c = if g.broken then { g with further := g.further ++ [b] }
      else { g with broken := true, blanks := [], first := [b] } := by
  rw [extend, Cursor.peek_of_rest h, not_isBlank_of_isKeptBreak hb, if_neg Bool.false_ne_true,
    Cursor.lineBreak_of_kept h hb]

/-- A break that is kept is read, and what comes after it is read from the start of a line. -/
theorem read_break {b : Char} (hb : isKeptBreak b) (h : c.rest = b :: cs) :
    read margin (fuel + 1) g c = read margin fuel (g.extend c) c.nextLine := by
  have hpeek : c.peek = b := Cursor.peek_of_rest h
  have hblank : isBlank b = false := not_isBlank_of_isKeptBreak hb
  have htab : b ≠ '\t' := by
    rintro rfl
    cases hblank
  rw [read, if_neg (by simp [hpeek, htab]), hpeek, hblank, if_neg Bool.false_ne_true,
    if_pos (isBreak_of_isKeptBreak hb)]

/-- Of several breaks all but the first are further ones; the margin after them is passed. -/
theorem read_further {bs : List Char} (hbs : ∀ b ∈ bs, isKeptBreak b) (hg : g.broken)
    (h : c.rest = bs ++ List.replicate k ' ' ++ cs) (hcs : BeginsSolid cs)
    (hcolumn : c.mark.column = 0) (hfuel : bs.length + k ≤ fuel) :
    ∃ c', read margin fuel g c = ({ g with further := g.further ++ bs }, c') ∧ c'.rest = cs ∧
      c'.mark.column = k := by
  induction bs generalizing fuel g c with
  | nil =>
    rw [List.nil_append] at h
    refine ⟨c.skip k, ?_, ?_, ?_⟩
    · rw [read_spaces h hcs (by simpa using hfuel), if_pos hg, List.append_nil]
    · rw [Cursor.rest_skip, h, List.drop_left' (List.length_replicate)]
    · rw [Cursor.column_skip, hcolumn, Nat.zero_add]
  | cons b bs ih =>
    obtain ⟨hb, hbs⟩ := List.forall_mem_cons.mp hbs
    rw [List.length_cons] at hfuel
    obtain ⟨fuel, rfl⟩ : ∃ n, fuel = n + 1 := ⟨fuel - 1, by omega⟩
    rw [List.cons_append, List.cons_append] at h
    have hextend : g.extend c = { g with further := g.further ++ [b] } := by
      rw [extend_break hb h, if_pos hg]
    obtain ⟨c', hread, hrest, hcolumn'⟩ :=
      ih (g := g.extend c) (c := c.nextLine) hbs (hextend ▸ hg)
        (by rw [Cursor.nextLine_of_kept h hb])
        (by rw [Cursor.nextLine_of_kept h hb]; rfl) (by omega : bs.length + k ≤ fuel)
    refine ⟨c', ?_, hrest, hcolumn'⟩
    rw [read_break hb h, hread, hextend]
    simp

/-- A gap of breaks and a margin. -/
theorem read_breaks {b : Char} {bs : List Char} (hb : isKeptBreak b)
    (hbs : ∀ b ∈ bs, isKeptBreak b) (h : c.rest = b :: bs ++ List.replicate k ' ' ++ cs)
    (hcs : BeginsSolid cs) (hfuel : bs.length + k < fuel) :
    ∃ c', read margin fuel .none c = (⟨true, [], [b], bs⟩, c') ∧ c'.rest = cs ∧
      c'.mark.column = k := by
  obtain ⟨fuel, rfl⟩ : ∃ n, fuel = n + 1 := ⟨fuel - 1, by omega⟩
  rw [List.cons_append, List.cons_append] at h
  have hextend : Gap.none.extend c = ⟨true, [], [b], []⟩ := by
    rw [extend_break hb h, if_neg (by decide)]
    rfl
  obtain ⟨c', hread, hrest, hcolumn⟩ :=
    read_further (g := ⟨true, [], [b], []⟩) (c := c.nextLine) hbs rfl
      (by rw [Cursor.nextLine_of_kept h hb]) hcs (by rw [Cursor.nextLine_of_kept h hb]; rfl)
      (by omega : bs.length + k ≤ fuel)
  refine ⟨c', ?_, hrest, hcolumn⟩
  rw [read_break hb h, hextend, hread]
  simp

end Gap

/-! ### Blanks between tokens -/

/-- The text ends or goes on with the first character of a token: nothing solid that is passed over.
-/
def BeginsToken (cs : List Char) : Prop :=
  ∀ ch ∈ cs.head?, isSolid ch ∧ ch ≠ '#' ∧ ch ≠ byteOrderMark

theorem BeginsToken.nil : BeginsToken [] := nofun

theorem BeginsToken.solid {cs : List Char} (h : BeginsToken cs) : BeginsSolid cs :=
  fun ch hch => (h ch hch).1

namespace Lexer

variable {flow keyAllowed : Bool} {fuel k : Nat} {c : Cursor} {cs : List Char}

/-- What comes next is passed over by none of the rules for comments and byte order marks. -/
theorem peek_ne_of_beginsToken (h : BeginsToken c.rest) :
    c.peek ≠ '#' ∧ c.peek ≠ byteOrderMark := by
  cases hrest : c.rest with
  | nil =>
    rw [Cursor.peek, hrest]
    decide
  | cons ch cs =>
    rw [hrest] at h
    rw [Cursor.peek_of_rest hrest]
    exact (h ch rfl).2

/-- Spaces before a token are passed. -/
theorem passBlanks_spaces (h : c.rest = List.replicate k ' ' ++ cs) (hcs : BeginsToken cs) :
    passBlanks flow (fuel + 1) keyAllowed c = (keyAllowed, c.skip k) := by
  have hrest : (c.skip k).rest = cs := by
    rw [Cursor.rest_skip, h, List.drop_left' List.length_replicate]
  obtain ⟨hnumber, hmark⟩ := peek_ne_of_beginsToken (c := c.skip k) (hrest.symm ▸ hcs)
  have hbegin : c.peek ≠ byteOrderMark := by
    cases k with
    | zero => exact hmark
    | succ k =>
      rw [List.replicate_succ, List.cons_append] at h
      rw [Cursor.peek_of_rest h]
      decide
  have hspaces : c.skipWhile (fun ch => ch == ' ' || (ch == '\t' && (flow || !keyAllowed))) =
      c.skip k := by
    rw [Cursor.skipWhile, h, List.takeWhile_append_of_pos]
    · have hstop : cs.takeWhile (fun ch => ch == ' ' || (ch == '\t' && (flow || !keyAllowed))) =
          [] := by
        cases cs with
        | nil => rfl
        | cons ch cs =>
          have hblank := isBlank_of_isSolid (hcs ch rfl).1
          simp only [isBlank, Bool.or_eq_false_iff] at hblank
          rw [List.takeWhile_cons_of_neg (by simp [hblank])]
      rw [hstop, List.append_nil, List.length_replicate]
    · intro ch hch
      rw [List.eq_of_mem_replicate hch]
      rfl
  have hbreak : isBreak (c.skip k).peek = false :=
    Cursor.isBreak_peek (hrest.symm ▸ hcs.solid.unbroken)
  rw [passBlanks, Cursor.skipByteOrderMark_eq_self hbegin, hspaces,
    Cursor.skipComment_eq_self hnumber, hbreak, if_neg Bool.false_ne_true]

/-- After a line break and a margin a key can begin. -/
theorem passBlanks_line (fuel : Nat) (h : c.rest = '\n' :: (List.replicate k ' ' ++ cs))
    (hcs : BeginsToken cs) :
    ∃ c', passBlanks false (fuel + 2) keyAllowed c = (true, c') ∧ c'.rest = cs ∧
      c'.mark.column = k := by
  have hpeek : c.peek = '\n' := Cursor.peek_of_rest h
  have hnext : c.nextLine = ⟨List.replicate k ' ' ++ cs, c.mark.nextLine 1⟩ :=
    Cursor.nextLine_of_kept h (by decide)
  have hspaces :
      c.skipWhile (fun ch => ch == ' ' || (ch == '\t' && (false || !keyAllowed))) = c := by
    rw [Cursor.skipWhile, h, List.takeWhile_cons_of_neg (by simp)]
    rfl
  refine ⟨c.nextLine.skip k, ?_, ?_, ?_⟩
  · rw [passBlanks, Cursor.skipByteOrderMark_eq_self (by simp [hpeek, byteOrderMark]), hspaces,
      Cursor.skipComment_eq_self (by simp [hpeek]), hpeek, if_pos (by decide),
      passBlanks_spaces (by rw [hnext]) hcs]
    simp
  · rw [hnext, Cursor.rest_skip, List.drop_left' List.length_replicate]
  · rw [hnext, Cursor.column_skip]
    exact Nat.zero_add k

end Lexer

end BoundaryContract.Yaml
