import BoundaryContract.Yaml.Printer
import Mathlib.Data.List.Basic

/-!
# Entries of printed mappings

How an entry of a mapping stands in the text, for keys and values that are written plainly, and what
a new line after it depends on.
-/

namespace BoundaryContract.Yaml

variable {n : Nat} {key word : String} {value : Yaml}

/-- What comes before the last part of a text does not matter for the line after it. -/
theorem lineStart_append {t : List Char} (ht : t ≠ []) (s : List Char) (n : Nat) :
    lineStart (s ++ t) n = lineStart t n := by
  rw [lineStart, List.getLast?_append_of_ne_nil _ ht, lineStart]

/-- What follows a text: something on a new line inside a margin, or nothing at all where the line
of the text ends. -/
def Follows (text tail : List Char) (m : Nat) (cs : List Char) : Prop :=
  tail = lineStart text m ++ cs ∨
    (tail = [] ∧ cs = [] ∧ ∀ ch ∈ text.getLast?, isBreak ch = false)

section Follows

variable {s t tail cs : List Char} {m : Nat} {ch : Char}

theorem follows_append (ht : t ≠ []) : Follows (s ++ t) tail m cs ↔ Follows t tail m cs := by
  rw [Follows, Follows, lineStart_append ht, List.getLast?_append_of_ne_nil _ ht]

/-- A new line needs a break if the text before it ends otherwise. -/
theorem Follows.line (h : Follows s tail m cs) (hlast : s.getLast? = some ch)
    (hch : isBreak ch = false) :
    tail = '\n' :: (List.replicate m ' ' ++ cs) ∨ (tail = [] ∧ cs = []) := by
  obtain rfl | ⟨htail, hcs, -⟩ := h
  · rw [lineStart, hlast]
    simp only [hch, Bool.false_eq_true, if_false]
    exact .inl rfl
  · exact .inr ⟨htail, hcs⟩

/-- A text that ends in a break is followed by the margin right away. -/
theorem Follows.margin (h : Follows s tail m cs) (hlast : s.getLast? = some ch)
    (hch : isBreak ch) : tail = List.replicate m ' ' ++ cs := by
  obtain rfl | ⟨-, -, hnone⟩ := h
  · rw [lineStart, hlast]
    simp only [hch, if_true]
    rfl
  · rw [hnone ch hlast] at hch
    cases hch

end Follows

/-- A plain word is written as it is. -/
theorem stringChars_of_plain (h : Style.choose word = .plain) :
    stringChars n word = word.toList := by
  rw [stringChars, h]

/-- Whatever the key and the value are, there is a colon between them. -/
theorem colon_mem_entryChars (n : Nat) (key : String) (value : Yaml) :
    ':' ∈ entryChars n key value := by
  rw [entryChars]
  split <;> simp

theorem entryChars_ne_nil (n : Nat) (key : String) (value : Yaml) : entryChars n key value ≠ [] :=
  List.ne_nil_of_mem (colon_mem_entryChars n key value)

/-- A plain key stands before its colon. -/
theorem entryChars_of_plain (hsimple : isSimpleKey key) (hplain : Style.choose key = .plain)
    (n : Nat) (value : Yaml) :
    entryChars n key value = key.toList ++ ':' :: nodeChars (some n) .value value := by
  rw [entryChars, if_pos hsimple, stringChars_of_plain hplain]

theorem nodeChars_string (n : Nat) (s : String) :
    nodeChars (some n) .value (.string s) = ' ' :: stringChars (n + 2) s := by
  rw [nodeChars]
  rfl

theorem nodeChars_plain (n : Nat) (text : String) :
    nodeChars (some n) .value (.plain text) = ' ' :: text.toList := by
  rw [nodeChars]
  rfl

/-- The outermost mapping begins at the start of the text. -/
theorem nodeChars_root (key : String) (value : Yaml) (rest : List (String × Yaml)) :
    nodeChars none .root (.mapping ((key, value) :: rest)) =
      entryChars 0 key value ++ entriesChars 0 (entryChars 0 key value) rest := by
  rw [nodeChars]
  rfl

/-- A mapping under a key begins on a line of its own, two columns further in. -/
theorem nodeChars_mapping (n : Nat) (key : String) (value : Yaml) (rest : List (String × Yaml)) :
    nodeChars (some n) .value (.mapping ((key, value) :: rest)) =
      '\n' :: margin (n + 2) ++ entryChars (n + 2) key value ++
        entriesChars (n + 2) (entryChars (n + 2) key value) rest := by
  rw [nodeChars]
  rfl

/-- Each entry begins a line, after the text of the one before it. -/
theorem entriesChars_cons (n : Nat) (before : List Char) (key : String) (value : Yaml)
    (rest : List (String × Yaml)) :
    entriesChars n before ((key, value) :: rest) =
      lineStart before n ++ entryChars n key value ++
        entriesChars n (entryChars n key value) rest := by
  rw [entriesChars]

theorem entriesChars_nil (n : Nat) (before : List Char) : entriesChars n before [] = [] := by
  rw [entriesChars]

/-! ### The end of a text -/

/-- The value of the last entry, after an entry with the given value. -/
def lastValue : Yaml → List (String × Yaml) → Yaml
  | value, [] => value
  | _, (_, value) :: rest => lastValue value rest

/-- An entry ends with its value. -/
theorem value_suffix_entryChars (n : Nat) (key : String) (value : Yaml)
    (hsimple : isSimpleKey key) : nodeChars (some n) .value value <:+ entryChars n key value := by
  rw [entryChars, if_pos hsimple]
  exact (List.suffix_cons ':' _).trans (List.suffix_append _ _)

/-- Entries end with the value of the last one. -/
theorem lastValue_suffix (n : Nat) (key : String) (value : Yaml) (rest : List (String × Yaml))
    (hsimple : ∀ key' ∈ ((key, value) :: rest).map Prod.fst, isSimpleKey key') :
    nodeChars (some n) .value (lastValue value rest) <:+
      entryChars n key value ++ entriesChars n (entryChars n key value) rest := by
  induction rest generalizing key value with
  | nil =>
    rw [entriesChars_nil, List.append_nil]
    exact value_suffix_entryChars n key value (hsimple key (by simp))
  | cons entry rest ih =>
    obtain ⟨key', value'⟩ := entry
    rw [entriesChars_cons, List.append_assoc]
    have hsuffix := ih key' value' fun k hk => hsimple k (List.mem_cons_of_mem _ hk)
    exact (hsuffix.trans (List.suffix_append _ _)).trans (List.suffix_append _ _)

section Mapping

variable {last : Yaml} {rest : List (String × Yaml)} (hlast : lastValue value rest = last)
  (hsimple : ∀ key' ∈ ((key, value) :: rest).map Prod.fst, isSimpleKey key')

include hlast hsimple

/-- A text ends with the value of the last entry. -/
theorem suffix_nodeChars_root :
    nodeChars (some 0) .value last <:+ nodeChars none .root (.mapping ((key, value) :: rest)) := by
  rw [nodeChars_root, ← hlast]
  exact lastValue_suffix 0 key value rest hsimple

/-- A mapping ends with the value of its last entry. -/
theorem suffix_nodeChars_mapping (n : Nat) : nodeChars (some (n + 2)) .value last <:+
    nodeChars (some n) .value (.mapping ((key, value) :: rest)) := by
  rw [nodeChars_mapping, ← hlast, List.append_assoc]
  exact (lastValue_suffix (n + 2) key value rest hsimple).trans (List.suffix_append _ _)

end Mapping

end BoundaryContract.Yaml
