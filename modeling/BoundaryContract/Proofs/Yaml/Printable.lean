import BoundaryContract.Proofs.Yaml.Outline
import BoundaryContract.Yaml.Stream

/-!
# Printed outlines hold printable characters only

Whatever the strings of a document are, its text has no character that a YAML text cannot hold, and
no byte order mark (`allPrintable_outline`): a string with such a character is written with escapes.
-/

namespace BoundaryContract.Yaml

/-- All characters can stand for themselves. -/
def AllPrintable (cs : List Char) : Prop := ∀ ch ∈ cs, isPrintable ch

section AllPrintable

variable {ch : Char} {cs ds s : List Char} {n : Nat}

theorem AllPrintable.nil : AllPrintable [] := List.forall_mem_nil _

theorem AllPrintable.cons (hch : isPrintable ch) (h : AllPrintable cs) : AllPrintable (ch :: cs) :=
  List.forall_mem_cons.mpr ⟨hch, h⟩

theorem AllPrintable.append (h : AllPrintable cs) (h' : AllPrintable ds) :
    AllPrintable (cs ++ ds) :=
  List.forall_mem_append.mpr ⟨h, h'⟩

theorem allPrintable_margin (n : Nat) : AllPrintable (margin n) := by
  intro ch hch
  rw [List.eq_of_mem_replicate hch]
  decide

theorem allPrintable_lineStart (before : List Char) (n : Nat) :
    AllPrintable (lineStart before n) := by
  have hbreak : AllPrintable ('\n' :: margin n) := .cons (by decide) (allPrintable_margin n)
  rw [lineStart]
  split
  · split
    · exact allPrintable_margin n
    · exact hbreak
  · exact allPrintable_margin n

/-! ### Strings -/

/-- Single quotes add nothing that cannot be printed. -/
theorem AllPrintable.singleQuotedBody (h : AllPrintable s) (afterBreak : Bool) :
    AllPrintable (singleQuotedBody n afterBreak s) := by
  have hmargin : AllPrintable (if afterBreak then margin n else []) := by
    split
    · exact allPrintable_margin n
    · exact .nil
  induction s generalizing afterBreak with
  | nil => exact hmargin
  | cons ch s ih =>
    obtain ⟨hch, hs⟩ := List.forall_mem_cons.mp h
    rw [Yaml.singleQuotedBody]
    split
    · exact .cons hch (ih hs true (allPrintable_margin n))
    · refine (hmargin.append ?_).append (ih hs false .nil)
      split
      · exact .cons (by decide) (.cons (by decide) .nil)
      · exact .cons hch .nil

/-- A literal block adds nothing but its margin. -/
theorem AllPrintable.literalBody (h : AllPrintable s) (afterBreak : Bool) :
    AllPrintable (literalBody n afterBreak s) := by
  induction s generalizing afterBreak with
  | nil => exact .nil
  | cons ch s ih =>
    obtain ⟨hch, hs⟩ := List.forall_mem_cons.mp h
    rw [Yaml.literalBody]
    split
    · exact .cons hch (ih hs true)
    · refine .append ?_ (.cons hch (ih hs false))
      split
      · exact allPrintable_margin n
      · exact .nil

theorem allPrintable_literalHeader (s : List Char) : AllPrintable (literalHeader s) := by
  rw [Scalar.literalHeader_eq]
  refine .append (.cons (by decide) ?_) ?_
  · split
    · exact .cons (by decide) .nil
    · exact .nil
  · cases Scalar.chompingFor s
    · exact .cons (by decide) .nil
    · exact .nil
    · exact .cons (by decide) .nil

/-- Hexadecimal digits are printable. -/
theorem allPrintable_codeDigits (width n : Nat) : AllPrintable (codeDigits width n) := by
  have hdigit : ∀ k < 16, isPrintable (Nat.digitChar k).toUpper := by decide
  intro ch hch
  obtain ⟨k, -, rfl⟩ := List.mem_map.mp hch
  exact hdigit _ (Nat.mod_lt _ (by decide))

/-- Between double quotes, a character stands for itself only if it is printable. -/
theorem allPrintable_doubleQuotedChar (ch : Char) : AllPrintable (doubleQuotedChar ch) := by
  rw [doubleQuotedChar]
  split
  · next h =>
    simp only [Bool.and_eq_true] at h
    exact .cons h.1.1.1 .nil
  · split
    · next letter h =>
      refine .cons (by decide) (.cons ?_ .nil)
      unfold shortEscape? at h
      split at h <;> cases h <;> decide
    · have hdigits := allPrintable_codeDigits
      dsimp only
      split
      · exact .cons (by decide) (.cons (by decide) (hdigits 2 _))
      · split
        · exact .cons (by decide) (.cons (by decide) (hdigits 4 _))
        · exact .cons (by decide) (.cons (by decide) (hdigits 8 _))

/-- Whatever a string holds, its text is printable. -/
theorem allPrintable_stringChars (n : Nat) (s : String) : AllPrintable (stringChars n s) := by
  cases hstyle : Style.choose s with
  | plain =>
    rw [stringChars_of_plain hstyle]
    exact (allowsPlain_of_choose hstyle).printable
  | singleQuoted =>
    simp only [stringChars, hstyle]
    exact .append (.cons (by decide) (.singleQuotedBody (singleText_of_choose hstyle).2 false))
      (.cons (by decide) .nil)
  | doubleQuoted =>
    simp only [stringChars, hstyle]
    refine .append (.cons (by decide) ?_) (.cons (by decide) .nil)
    intro ch hch
    obtain ⟨d, -, hmem⟩ := List.mem_flatMap.mp hch
    exact allPrintable_doubleQuotedChar d ch hmem
  | literal =>
    simp only [stringChars, hstyle]
    exact .append (allPrintable_literalHeader _)
      (.cons (by decide) (.literalBody (literal_of_choose hstyle).2 true))

end AllPrintable

/-! ### Outlines -/

/-- The text of an entry is printable if that of its value is. -/
theorem allPrintable_entryChars {key : String} {value : Yaml} {n : Nat} (hsimple : isSimpleKey key)
    (hplain : Style.choose key = .plain) (h : AllPrintable (nodeChars (some n) .value value)) :
    AllPrintable (entryChars n key value) := by
  rw [entryChars_of_plain hsimple hplain]
  exact .append (allowsPlain_of_choose hplain).printable (.cons (by decide) h)

mutual

/-- Everything that is written for an outline can be printed. -/
theorem allPrintable_nodeChars (n : Nat) :
    (value : Yaml) → IsOutline value → AllPrintable (nodeChars (some n) .value value)
  | .plain text, h => by
    rw [nodeChars_plain]
    exact .cons (by decide) (AllowsPlain.printable h)
  | .string s, _ => by
    rw [nodeChars_string]
    exact .cons (by decide) (allPrintable_stringChars _ s)
  | .mapping [], h => absurd rfl h.1
  | .mapping ((key, value) :: rest), h => by
    have hentry := h.2.1
    rw [nodeChars_mapping]
    exact .append (.append (.cons (by decide) (allPrintable_margin _))
      (allPrintable_entryChars hentry.1 hentry.2.1
        (allPrintable_nodeChars (n + 2) value hentry.2.2)))
      (allPrintable_entriesChars (n + 2) rest h.2.2 _)

theorem allPrintable_entriesChars (n : Nat) : (entries : List (String × Yaml)) →
    AreOutlines entries → (before : List Char) → AllPrintable (entriesChars n before entries)
  | [], _, before => by
    rw [entriesChars_nil]
    exact .nil
  | (key, value) :: rest, h, before => by
    have hentry := h.1
    rw [entriesChars_cons]
    exact .append (.append (allPrintable_lineStart before n)
      (allPrintable_entryChars hentry.1 hentry.2.1 (allPrintable_nodeChars n value hentry.2.2)))
      (allPrintable_entriesChars n rest h.2 _)

end

/-- The text of an outline is printable. -/
theorem allPrintable_outline {entries : List (String × Yaml)} (hne : entries ≠ [])
    (h : AreOutlines entries) : AllPrintable (nodeChars none .root (.mapping entries)) := by
  obtain ⟨⟨key, value⟩, rest, rfl⟩ := List.exists_cons_of_ne_nil hne
  obtain ⟨⟨hsimple, hplain, hvalue⟩, hrest⟩ := h
  rw [nodeChars_root]
  exact .append (allPrintable_entryChars hsimple hplain (allPrintable_nodeChars 0 value hvalue))
    (allPrintable_entriesChars 0 rest hrest _)

/-! ### Texts -/

/-- Printable characters can stand in a text, and none is the byte order mark. -/
theorem isAllowed_of_isPrintable {ch : Char} (h : isPrintable ch) :
    isAllowed ch ∧ ch ≠ byteOrderMark := by
  constructor
  · simp only [isPrintable, Bool.or_eq_true, Bool.and_eq_true, beq_iff_eq, decide_eq_true_eq] at h
    simp only [isAllowed, Bool.or_eq_true, Bool.and_eq_true, beq_iff_eq, decide_eq_true_eq]
    omega
  · rintro rfl
    cases h

/-- No character of such a text is forbidden. -/
theorem AllPrintable.forbidden?_eq_none {cs : List Char} (h : AllPrintable cs) (offset : Nat) :
    Stream.forbidden? offset cs = none := by
  induction cs generalizing offset with
  | nil => rfl
  | cons ch cs ih =>
    obtain ⟨hch, hcs⟩ := List.forall_mem_cons.mp h
    rw [Stream.forbidden?, if_pos (isAllowed_of_isPrintable hch).1, ih hcs]

/-- Such a text begins with no byte order mark. -/
theorem AllPrintable.withoutByteOrderMark {cs : List Char} (h : AllPrintable cs) :
    Stream.withoutByteOrderMark cs = cs := by
  cases cs with
  | nil => rfl
  | cons ch cs =>
    rw [Stream.withoutByteOrderMark,
      if_neg (isAllowed_of_isPrintable (h ch List.mem_cons_self)).2]

/-- A printable text is divided into tokens as it is. -/
theorem AllPrintable.ofText {cs : List Char} (h : AllPrintable cs) :
    Stream.ofText (String.ofList cs) = Stream.ofTokens (tokens cs) := by
  simp only [Stream.ofText, String.toList_ofList, h.forbidden?_eq_none, h.withoutByteOrderMark]

end BoundaryContract.Yaml
