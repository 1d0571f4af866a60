import BoundaryContract.Proofs.Yaml.Entry

/-!
# The tokens of outlines

An outline is a document of scalars and mappings with plain keys, nested as deep as one likes
(`IsOutline`). `tokens_outline` says which tokens its text is divided into: the scalars of the
document, as they were before they were written in one style or another, between the marks of keys
and values and the starts and ends of mappings.
-/

namespace BoundaryContract.Yaml

mutual

/-- A document of scalars and mappings that are not empty. -/
def IsOutline : Yaml → Prop
  | .plain text => AllowsPlain text.toList
  | .string _ => True
  | .mapping entries => entries ≠ [] ∧ AreOutlines entries
  | .sequence _ | .tagged _ _ => False

/-- Outlines under plain keys. -/
def AreOutlines : List (String × Yaml) → Prop
  | [] => True
  | (key, value) :: rest =>
    (isSimpleKey key ∧ Style.choose key = .plain ∧ IsOutline value) ∧ AreOutlines rest

end

theorem isOutline_mapping {entries : List (String × Yaml)} (hne : entries ≠ [])
    (h : AreOutlines entries) : IsOutline (.mapping entries) := ⟨hne, h⟩

theorem areOutlines_nil : AreOutlines [] := trivial

theorem areOutlines_cons {key : String} {value : Yaml} {rest : List (String × Yaml)}
    (hsimple : isSimpleKey key) (hplain : Style.choose key = .plain) (hvalue : IsOutline value)
    (hrest : AreOutlines rest) : AreOutlines ((key, value) :: rest) :=
  ⟨⟨hsimple, hplain, hvalue⟩, hrest⟩

mutual

/-- The tokens of an outline. -/
def outlineKinds : Yaml → List TokenKind
  | .plain text => [.scalar text.toList .plain]
  | .string s => [.scalar s.toList (Style.choose s).presentation]
  | .mapping entries => .blockMappingStart :: (entriesKinds entries ++ [.blockEnd])
  | .sequence _ | .tagged _ _ => []

/-- The tokens of the entries of an outline. -/
def entriesKinds : List (String × Yaml) → List TokenKind
  | [] => []
  | (key, value) :: rest =>
    [.key, .scalar key.toList .plain, .value] ++ outlineKinds value ++ entriesKinds rest

end

/-! ### The text of outlines -/

/-- Something is written even for an empty string, which cannot stand plainly. -/
theorem stringChars_ne_nil (n : Nat) (s : String) : stringChars n s ≠ [] := by
  cases hstyle : Style.choose s with
  | plain =>
    rw [stringChars_of_plain hstyle]
    exact (allowsPlain_of_choose hstyle).1
  | singleQuoted => simp [stringChars, hstyle]
  | doubleQuoted => simp [stringChars, hstyle]
  | literal => simp [stringChars, hstyle]

/-- The value of a key begins on the line of the key with a blank, or on the next line. -/
theorem exists_nodeChars_value {value : Yaml} (h : IsOutline value) (n : Nat) :
    ∃ ch cs, nodeChars (some n) .value value = ch :: cs ∧ (ch = ' ' ∨ ch = '\n') := by
  cases value with
  | plain text => exact ⟨' ', _, nodeChars_plain n text, .inl rfl⟩
  | string s => exact ⟨' ', _, nodeChars_string n s, .inl rfl⟩
  | mapping entries =>
    obtain ⟨⟨key, value⟩, rest, rfl⟩ := List.exists_cons_of_ne_nil h.1
    exact ⟨'\n', margin (n + 2) ++ (entryChars (n + 2) key value ++
      entriesChars (n + 2) (entryChars (n + 2) key value) rest), by
        rw [nodeChars_mapping, List.append_assoc, List.cons_append], .inr rfl⟩
  | sequence items => cases h
  | tagged tag content => cases h

theorem nodeChars_value_ne_nil {value : Yaml} (h : IsOutline value) (n : Nat) :
    nodeChars (some n) .value value ≠ [] := by
  obtain ⟨ch, cs, heq, -⟩ := exists_nodeChars_value h n
  rw [heq]
  exact List.cons_ne_nil ch cs

section Entry

variable {n m : Nat} {key : String} {value : Yaml} {tail cs : List Char}

/-- An entry begins with its key. -/
theorem nextKey_entryChars (hsimple : isSimpleKey key) (hplain : Style.choose key = .plain)
    (h : IsOutline value) (n : Nat) (tail : List Char) :
    Lexer.NextKey (entryChars n key value ++ tail) := by
  obtain ⟨ch, cs, heq, hch⟩ := exists_nodeChars_value h n
  refine .inr ⟨key, nodeChars (some n) .value value ++ tail, ?_, ?_, hsimple, hplain⟩
  · rw [entryChars_of_plain hsimple hplain, List.append_assoc, List.cons_append]
  · rw [heq]
    obtain rfl | rfl := hch <;> rfl

/-- What follows an entry follows its value. -/
theorem Follows.value_of_entry (hsimple : isSimpleKey key) (hplain : Style.choose key = .plain)
    (h : IsOutline value) (hfollows : Follows (entryChars n key value) tail m cs) :
    Follows (nodeChars (some n) .value value) tail m cs := by
  rw [entryChars_of_plain hsimple hplain, ← List.singleton_append, ← List.append_assoc,
    follows_append (nodeChars_value_ne_nil h n)] at hfollows
  exact hfollows

end Entry

namespace Lexer

/-- Behind a colon at the end of its line, the lexer is before the first entry of a mapping. -/
theorem AtValue.between_line {s : Lexer} {n m : Nat} {cs : List Char}
    (hs : s.AtValue n ('\n' :: (List.replicate m ' ' ++ cs))) (hbegins : BeginsToken cs) :
    s.Between n s.indents m cs :=
  { toCalm := hs.toCalm
    indent := hs.indent
    indents := rfl
    exists_passBlanks := exists_passBlanks_line s.keyAllowed hbegins (.inl hs.rest) }

/-- From behind the colon of its key, the tokens of a value are given out, in a number of steps that
the length of its text bounds. -/
def EmitsValue (value : Yaml) : Prop :=
  ∀ ⦃s : Lexer⦄ ⦃n m : Nat⦄ ⦃tail cs : List Char⦄,
    s.AtValue n (nodeChars (some n) .value value ++ tail) →
    Follows (nodeChars (some n) .value value) tail m cs → NextKey cs → m ≤ n →
    ∃ k s', k ≤ 8 * (nodeChars (some n) .value value).length ∧
      s.Emits (outlineKinds value) k s' ∧ s'.Between n s.indents m cs

/-- From the start of a line, the tokens of entries are given out, and before them the start of
their mapping unless that is open already. A step is left for the end of the mapping. -/
def EmitsEntries : List (String × Yaml) → Prop
  | [] => True
  | (key, value) :: rest =>
    ∀ ⦃s : Lexer⦄ ⦃indent : Int⦄ ⦃indents : List Int⦄ ⦃n m : Nat⦄ ⦃tail cs : List Char⦄,
      s.Between indent indents n
        (entryChars n key value ++ (entriesChars n (entryChars n key value) rest ++ tail)) →
      Follows (entryChars n key value ++ entriesChars n (entryChars n key value) rest) tail m cs →
      NextKey cs → m ≤ n → indent ≤ n →
      ∃ k s', k < 8 * (entryChars n key value ++
          entriesChars n (entryChars n key value) rest).length ∧
        s.Emits (opening indent n ++ entriesKinds ((key, value) :: rest)) k s' ∧
        s'.Between n (opened indent indents n) m cs

variable {key text : String} {value : Yaml} {entries rest : List (String × Yaml)}

/-- A plain scalar gives out its token. -/
theorem emitsValue_plain (h : AllowsPlain text.toList) : EmitsValue (.plain text) := by
  intro s n m tail cs hs htail hcs hm
  rw [nodeChars_plain] at hs htail ⊢
  have hfollows : Follows text.toList tail m cs := (follows_append (s := [' ']) h.1).mp htail
  obtain ⟨s', hemits, hbetween⟩ := hs.emits_plain h hfollows hcs hm
  refine ⟨2, s', ?_, hemits, hs.indent ▸ hbetween⟩
  rw [List.length_cons]
  omega

/-- A string gives out its token in every style. -/
theorem emitsValue_string (text : String) : EmitsValue (.string text) := by
  intro s n m tail cs hs htail hcs hm
  rw [nodeChars_string] at hs htail ⊢
  have hfollows : Follows (stringChars (n + 2) text) tail m cs :=
    (follows_append (s := [' ']) (stringChars_ne_nil _ text)).mp htail
  obtain ⟨s', hemits, hbetween⟩ := hs.emits_string hfollows hcs hm
  refine ⟨2, s', ?_, hemits, hs.indent ▸ hbetween⟩
  rw [List.length_cons]
  omega

/-- A mapping is opened before its first key, and closed before the next key after it. -/
theorem emitsValue_mapping (h : AreOutlines entries) (hne : entries ≠ [])
    (hemits : EmitsEntries entries) : EmitsValue (.mapping entries) := by
  obtain ⟨⟨key, value⟩, rest, rfl⟩ := List.exists_cons_of_ne_nil hne
  obtain ⟨⟨hsimple, hplain, hvalue⟩, -⟩ := h
  intro s n m tail cs hs htail hcs hm
  rw [nodeChars_mapping] at hs htail ⊢
  rw [List.append_assoc, follows_append (by simp [entryChars_ne_nil])] at htail
  simp only [List.append_assoc, List.cons_append] at hs
  have hline := hs.between_line (nextKey_entryChars hsimple hplain hvalue (n + 2) _).beginsToken
  obtain ⟨k, s', hk, hentries, hbetween⟩ := hemits hline htail hcs (by omega) (by omega)
  rw [opening_of_lt (by omega)] at hentries
  rw [opened_of_lt (by omega)] at hbetween
  obtain ⟨s'', hend, hclosed⟩ := hbetween.emits_blockEnd hcs fun _ => by omega
  refine ⟨k + 1, s'', ?_, ?_, hclosed⟩
  · simp only [List.length_append, List.length_cons] at hk ⊢
    omega
  · rw [outlineKinds]
    exact hentries.trans hend

/-- The key of an entry and its value. -/
theorem emits_entry (hsimple : isSimpleKey key) (hplain : Style.choose key = .plain)
    (hvalue : IsOutline value) (hemits : EmitsValue value) {s : Lexer} {indent : Int}
    {indents : List Int} {n m : Nat} {tail cs : List Char}
    (hs : s.Between indent indents n (entryChars n key value ++ tail))
    (htail : Follows (entryChars n key value) tail m cs) (hcs : NextKey cs) (hm : m ≤ n)
    (hindent : indent ≤ n) : ∃ k s', k < 8 * (entryChars n key value).length ∧
      s.Emits (opening indent n ++ [.key, .scalar key.toList .plain, .value] ++ outlineKinds value)
        k s' ∧ s'.Between n (opened indent indents n) m cs := by
  have hfollows := htail.value_of_entry hsimple hplain hvalue
  rw [entryChars_of_plain hsimple hplain] at hs ⊢
  rw [List.append_assoc, List.cons_append] at hs
  have hends : endsWord (nodeChars (some n) .value value ++ tail) := by
    obtain ⟨ch, chars, heq, rfl | rfl⟩ := exists_nodeChars_value hvalue n <;> rw [heq] <;> rfl
  obtain ⟨k, s₁, hk, hkey, hat, hindents⟩ := hs.emits_key hplain hsimple hends hindent
  obtain ⟨k', s₂, hk', hvalue', hbetween⟩ := hemits hat hfollows hcs hm
  refine ⟨k + k', s₂, ?_, hkey.trans hvalue', hindents ▸ hbetween⟩
  rw [List.length_append, List.length_cons]
  omega

/-- One entry after another: a further entry finds the mapping open. -/
theorem emitsEntries_cons (h : AreOutlines ((key, value) :: rest)) (hvalue : EmitsValue value)
    (hrest : EmitsEntries rest) : EmitsEntries ((key, value) :: rest) := by
  obtain ⟨⟨hsimple, hplain, houtline⟩, hothers⟩ := h
  intro s indent indents n m tail cs hs htail hcs hm hindent
  cases rest with
  | nil =>
    rw [entriesChars_nil, List.append_nil] at htail ⊢
    rw [entriesChars_nil, List.nil_append] at hs
    obtain ⟨k, s', hk, hemits, hbetween⟩ :=
      emits_entry hsimple hplain houtline hvalue hs htail hcs hm hindent
    refine ⟨k, s', hk, ?_, hbetween⟩
    simpa [entriesKinds] using hemits
  | cons entry others =>
    obtain ⟨key', value'⟩ := entry
    obtain ⟨⟨hsimple', hplain', houtline'⟩, -⟩ := hothers
    rw [entriesChars_cons] at hs htail ⊢
    rw [List.append_assoc (lineStart _ n), ← List.append_assoc,
      follows_append (by simp [entryChars_ne_nil])] at htail
    simp only [List.append_assoc] at hs
    obtain ⟨k, s₁, hk, hentry, hbetween⟩ :=
      emits_entry hsimple hplain houtline hvalue hs (.inl rfl)
        (nextKey_entryChars hsimple' hplain' houtline' n _) (Nat.le_refl n) hindent
    obtain ⟨k', s₂, hk', hemits, hend⟩ := hrest hbetween htail hcs hm (Int.le_refl _)
    rw [opening_self, List.nil_append] at hemits
    rw [opened_self] at hend
    refine ⟨k + k', s₂, ?_, ?_, hend⟩
    · simp only [List.length_append] at hk' ⊢
      omega
    · rw [entriesKinds, ← List.append_assoc, ← List.append_assoc]
      exact hentry.trans hemits

mutual

theorem emitsValue_of_isOutline : (value : Yaml) → IsOutline value → EmitsValue value
  | .plain _, h => emitsValue_plain h
  | .string text, _ => emitsValue_string text
  | .mapping entries, h => emitsValue_mapping h.2 h.1 (emitsEntries_of_areOutlines entries h.2)

theorem emitsEntries_of_areOutlines :
    (entries : List (String × Yaml)) → AreOutlines entries → EmitsEntries entries
  | [], _ => trivial
  | (_, value) :: rest, h =>
    emitsEntries_cons h (emitsValue_of_isOutline value h.1.2.2)
      (emitsEntries_of_areOutlines rest h.2)

end

end Lexer

/-- The text of an outline is divided into the tokens of the outline, whether its last line ends
with a break or with the text. -/
theorem tokens_outline {entries : List (String × Yaml)} (hne : entries ≠ [])
    (h : AreOutlines entries) {tail : List Char}
    (htail : Follows (nodeChars none .root (.mapping entries)) tail 0 []) :
    (tokens (nodeChars none .root (.mapping entries) ++ tail)).map Token.kind =
      outlineKinds (.mapping entries) ++ [.streamEnd] := by
  have hemits := Lexer.emitsEntries_of_areOutlines entries h
  obtain ⟨⟨key, value⟩, rest, rfl⟩ := List.exists_cons_of_ne_nil hne
  obtain ⟨⟨hsimple, hplain, hvalue⟩, -⟩ := h
  rw [nodeChars_root] at htail ⊢
  have hstart : (Lexer.start ⟨entryChars 0 key value ++
      (entriesChars 0 (entryChars 0 key value) rest ++
      tail), .origin⟩).Between (-1) [] 0
        (entryChars 0 key value ++ (entriesChars 0 (entryChars 0 key value) rest ++ tail)) :=
    Lexer.between_start (nextKey_entryChars hsimple hplain hvalue 0 _).beginsToken
  obtain ⟨k, s, hk, hentries, hbetween⟩ :=
    hemits hstart htail (.inl rfl) (Nat.le_refl 0) (by omega)
  rw [Lexer.opening_of_lt (by omega)] at hentries
  rw [Lexer.opened_of_lt (by omega)] at hbetween
  obtain ⟨s', hclose, hclosed⟩ := hbetween.emits_blockEnd (.inl rfl) fun hne => absurd rfl hne
  obtain ⟨fuel, hfuel⟩ : ∃ fuel, 8 * (entryChars 0 key value ++
      entriesChars 0 (entryChars 0 key value) rest ++ tail).length + 16 =
        fuel + 1 + 1 + (k + 1) := by
    refine ⟨8 * (entryChars 0 key value ++
      entriesChars 0 (entryChars 0 key value) rest ++ tail).length + 16 - (k + 3), ?_⟩
    simp only [List.length_append] at hk ⊢
    omega
  obtain ⟨ts, hts, hrun⟩ := hentries.trans hclose (fuel + 1)
  obtain ⟨t, hend, ht⟩ := hclosed.run_end fuel
  rw [tokens, hfuel, List.append_assoc, hrun, hend, List.map_append, hts, outlineKinds]
  simp [ht]

end BoundaryContract.Yaml
