import BoundaryContract.Proofs.Yaml.Printable

/-!
# The nodes of outlines

From the tokens of an outline a tree is composed that has the shape of the outline, its scalars, and
neither anchors nor tags (`Node.Shows`). `exists_root_outline` says so for the text of an outline,
which holds this one document and nothing after it.
-/

namespace BoundaryContract.Yaml

mutual

/-- The node is what an outline is read as. -/
inductive Node.Shows : Node → Yaml → Prop
  | plain (mark : Mark) (text : String) :
    Shows (.scalar ⟨none, none, mark⟩ text .plain) (.plain text)
  | string (mark : Mark) (s : String) :
    Shows (.scalar ⟨none, none, mark⟩ s (Style.choose s).presentation) (.string s)
  | mapping (mark : Mark) {nodes : List (Node × Node)} {entries : List (String × Yaml)}
    (h : Node.EntriesShow nodes entries) :
    Shows (.mapping ⟨none, none, mark⟩ nodes) (.mapping entries)

/-- The nodes are what the entries of an outline are read as. -/
inductive Node.EntriesShow : List (Node × Node) → List (String × Yaml) → Prop
  | nil : EntriesShow [] []
  | cons {key node : Node} {nodes : List (Node × Node)} {name : String} {value : Yaml}
    {entries : List (String × Yaml)} (hkey : key.Shows (.plain name)) (hvalue : node.Shows value)
    (hrest : EntriesShow nodes entries) :
    EntriesShow ((key, node) :: nodes) ((name, value) :: entries)

end

namespace Composer

variable {p : Composer} {t : Token} {ts rest : List Token} {fuel : Nat} {block indentless : Bool}

theorem peek_cons (h : p.tokens = t :: rest) (ht : ∀ m, t.kind ≠ .malformed m) :
    p.peek = .ok t := by
  rw [peek, h]
  simp only

theorem skip_cons (h : p.tokens = t :: rest) : p.skip = { p with tokens := rest } := by
  rw [skip, h, List.drop_one, List.tail_cons]

/-- Where neither an anchor nor a tag comes next, there are no properties. -/
theorem readProperties_none (hpeek : p.peek = .ok t) (hanchor : ∀ name, t.kind ≠ .anchor name)
    (htag : ∀ handle suffix, t.kind ≠ .tag handle suffix) : p.readProperties = .ok ({}, p) := by
  have hread : p.readTag {} = .ok ({}, p) := by
    simp only [readTag, hpeek, Bind.bind, Except.bind]
    rfl
  simp only [readProperties, hpeek, Bind.bind, Except.bind]
  rw [hread]
  rfl

/-- A scalar without properties. -/
theorem node_scalar {text : List Char} {presentation : Presentation} (h : p.tokens = t :: rest)
    (ht : t.kind = .scalar text presentation) : node (fuel + 1) block indentless p =
      ⟨.scalar ⟨none, none, t.start⟩ (String.ofList text) presentation,
        some { p with tokens := rest }⟩ := by
  have hpeek : p.peek = .ok t := peek_cons h (by simp [ht])
  have hproperties := readProperties_none hpeek (by simp [ht]) (by simp [ht])
  rw [node]
  simp [hpeek, ht, hproperties, resolveTag, enter, Content.of, scalarTag, skip_cons h]

/-- A block mapping without properties. -/
theorem node_mapping (h : p.tokens = t :: rest) (ht : t.kind = .blockMappingStart) :
    node (fuel + 1) true indentless p =
      ⟨.mapping ⟨none, none, t.start⟩ (blockEntries fuel t.start { p with tokens := rest }).value,
        (blockEntries fuel t.start { p with tokens := rest }).after⟩ := by
  have hpeek : p.peek = .ok t := peek_cons h (by simp [ht])
  have hproperties := readProperties_none hpeek (by simp [ht]) (by simp [ht])
  rw [node]
  simp [hpeek, ht, hproperties, resolveTag, enter, Content.of, skip_cons h]

theorem nodeUnless_eq_node {ends : List TokenKind} {mark : Mark} (h : p.tokens = t :: rest)
    (ht : ∀ m, t.kind ≠ .malformed m) (hends : t.kind ∉ ends) :
    nodeUnless (fuel + 1) block indentless ends mark p = node fuel block indentless p := by
  rw [nodeUnless, peek_cons h ht]
  exact if_neg (by simpa using hends)

/-- The end of a mapping. -/
theorem blockEntries_end {start : Mark} (h : p.tokens = t :: rest) (ht : t.kind = .blockEnd) :
    blockEntries (fuel + 1) start p = ⟨[], some { p with tokens := rest }⟩ := by
  rw [blockEntries, peek_cons h (by simp [ht])]
  simp only [ht, skip_cons h]

/-- The value after its mark. -/
theorem blockValue_mark (h : p.tokens = t :: rest) (ht : t.kind = .value) :
    blockValue (fuel + 1) p = nodeUnless fuel true true [.key, .value, .blockEnd] t.stop
      { p with tokens := rest } := by
  rw [blockValue, peek_cons h (by simp [ht])]
  simp only [ht, if_true, skip_cons h]

/-- An entry between the entries before and after it: its key is a scalar, and its value is there.
-/
theorem blockEntries_entry {start : Mark} {tkey tscalar tvalue first : Token} {text : List Char}
    {node : Node} {ts after : List Token}
    (h : p.tokens = tkey :: tscalar :: tvalue :: first :: ts) (hkey : tkey.kind = .key)
    (hscalar : tscalar.kind = .scalar text .plain) (hvalue : tvalue.kind = .value)
    (hfirst : ∀ m, first.kind ≠ .malformed m)
    (hends : first.kind ∉ [TokenKind.key, .value, .blockEnd])
    (hnode : Composer.node fuel true true { p with tokens := first :: ts } =
      ⟨node, some { p with tokens := after }⟩) :
    blockEntries (fuel + 3) start p =
      joined (.scalar ⟨none, none, tscalar.start⟩ (String.ofList text) .plain, node)
        (blockEntries (fuel + 2) start { p with tokens := after }) := by
  have hread : nodeUnless (fuel + 2) true true [.key, .value, .blockEnd] tkey.stop p.skip =
      ⟨.scalar ⟨none, none, tscalar.start⟩ (String.ofList text) .plain,
        some { p with tokens := tvalue :: first :: ts }⟩ := by
    rw [skip_cons h, nodeUnless_eq_node (p := { p with tokens := _ }) rfl (by simp [hscalar])
      (by simp [hscalar]), node_scalar (p := { p with tokens := _ }) rfl hscalar]
  have hread' : blockValue (fuel + 2) { p with tokens := tvalue :: first :: ts } =
      ⟨node, some { p with tokens := after }⟩ := by
    rw [blockValue_mark (p := { p with tokens := _ }) rfl hvalue,
      nodeUnless_eq_node (p := { p with tokens := _ }) rfl hfirst hends, hnode]
  rw [blockEntries, peek_cons h (by simp [hkey])]
  simp only [hkey, hread, hread']

/-! ### Outlines -/

/-- An outline is composed from its tokens, up to the tokens after it. -/
def Composes (value : Yaml) : Prop :=
  ∀ ⦃p : Composer⦄ ⦃ts rest : List Token⦄ ⦃fuel : Nat⦄ ⦃indentless : Bool⦄,
    p.tokens = ts ++ rest → ts.map Token.kind = outlineKinds value → 4 * ts.length ≤ fuel →
    ∃ node, Composer.node fuel true indentless p = ⟨node, some { p with tokens := rest }⟩ ∧
      node.Shows value

/-- The entries of an outline are composed from their tokens, up to the end of their mapping. -/
def ComposesEntries (entries : List (String × Yaml)) : Prop :=
  ∀ ⦃p : Composer⦄ ⦃ts rest : List Token⦄ ⦃t : Token⦄ ⦃fuel : Nat⦄ ⦃start : Mark⦄,
    p.tokens = ts ++ t :: rest → ts.map Token.kind = entriesKinds entries → t.kind = .blockEnd →
    4 * ts.length < fuel →
    ∃ nodes, blockEntries fuel start p = ⟨nodes, some { p with tokens := rest }⟩ ∧
      Node.EntriesShow nodes entries

/-- What begins an outline ends no entry. -/
theorem exists_outlineKinds {value : Yaml} (h : IsOutline value) : ∃ kind kinds,
    outlineKinds value = kind :: kinds ∧ (∀ m, kind ≠ .malformed m) ∧
      kind ∉ [TokenKind.key, .value, .blockEnd] := by
  cases value with
  | plain text => exact ⟨.scalar text.toList .plain, [], by rw [outlineKinds], by simp, by simp⟩
  | string s =>
    exact ⟨.scalar s.toList (Style.choose s).presentation, [], by rw [outlineKinds], by simp,
      by simp⟩
  | mapping entries =>
    exact ⟨.blockMappingStart, entriesKinds entries ++ [.blockEnd], by rw [outlineKinds], by simp,
      by simp⟩
  | sequence items => cases h
  | tagged tag content => cases h

variable {text : String} {value : Yaml} {entries : List (String × Yaml)}

/-- A plain scalar is composed of its token. -/
theorem composes_plain (text : String) : Composes (.plain text) := by
  intro p ts rest fuel indentless h hts hfuel
  obtain ⟨t, rfl, ht⟩ := List.map_eq_singleton_iff.mp hts
  obtain ⟨fuel, rfl⟩ : ∃ n, fuel = n + 1 := ⟨fuel - 1, by simp at hfuel; omega⟩
  refine ⟨_, node_scalar h ht, ?_⟩
  rw [String.ofList_toList]
  exact .plain t.start text

/-- A string is composed of its token. -/
theorem composes_string (text : String) : Composes (.string text) := by
  intro p ts rest fuel indentless h hts hfuel
  obtain ⟨t, rfl, ht⟩ := List.map_eq_singleton_iff.mp hts
  obtain ⟨fuel, rfl⟩ : ∃ n, fuel = n + 1 := ⟨fuel - 1, by simp at hfuel; omega⟩
  refine ⟨_, node_scalar h ht, ?_⟩
  rw [String.ofList_toList]
  exact .string t.start text

/-- A mapping is composed of its entries between its start and its end. -/
theorem composes_mapping (hentries : ComposesEntries entries) : Composes (.mapping entries) := by
  intro p ts rest fuel indentless h hts hfuel
  obtain ⟨t, ts, rfl, ht, hts⟩ := List.map_eq_cons_iff.mp hts
  obtain ⟨inner, ends, rfl, hinner, hends⟩ := List.map_eq_append_iff.mp hts
  obtain ⟨last, rfl, hlast⟩ := List.map_eq_singleton_iff.mp hends
  simp only [List.length_cons, List.length_append, List.length_nil] at hfuel
  obtain ⟨fuel, rfl⟩ : ∃ n, fuel = n + 1 := ⟨fuel - 1, by omega⟩
  rw [List.cons_append, List.append_assoc, List.singleton_append] at h
  obtain ⟨nodes, hread, hshow⟩ := hentries (p := { p with tokens := inner ++ last :: rest })
    rfl hinner hlast (by omega : 4 * inner.length < fuel)
  refine ⟨.mapping ⟨none, none, t.start⟩ nodes, ?_, .mapping t.start hshow⟩
  rw [node_mapping h ht, hread]

theorem composesEntries_nil : ComposesEntries [] := by
  intro p ts rest t fuel start h hts ht hfuel
  obtain rfl := List.map_eq_nil_iff.mp hts
  obtain ⟨fuel, rfl⟩ : ∃ n, fuel = n + 1 := ⟨fuel - 1, by omega⟩
  exact ⟨[], blockEntries_end h ht, .nil⟩

/-- An entry is composed of its key and its value, before those after it. -/
theorem composesEntries_cons (key : String) (h : IsOutline value) (hvalue : Composes value)
    (hentries : ComposesEntries entries) : ComposesEntries ((key, value) :: entries) := by
  intro p ts rest t fuel start htokens hts ht hfuel
  rw [entriesKinds, List.append_assoc, List.map_eq_append_iff] at hts
  obtain ⟨marks, ts, rfl, hmarks, hts⟩ := hts
  obtain ⟨valueTokens, more, rfl, hvalueTokens, hmore⟩ := List.map_eq_append_iff.mp hts
  obtain ⟨tkey, marks, rfl, hkey, hmarks⟩ := List.map_eq_cons_iff.mp hmarks
  obtain ⟨tscalar, marks, rfl, hscalar, hmarks⟩ := List.map_eq_cons_iff.mp hmarks
  obtain ⟨tvalue, rfl, hmark⟩ := List.map_eq_singleton_iff.mp hmarks
  obtain ⟨kind, kinds, hkinds, hmalformed, hends⟩ := exists_outlineKinds h
  obtain ⟨first, others, rfl, hfirst, -⟩ := List.map_eq_cons_iff.mp (hvalueTokens.trans hkinds)
  simp only [List.length_cons, List.length_append, List.length_nil] at hfuel
  obtain ⟨fuel, rfl⟩ : ∃ n, fuel = n + 3 := ⟨fuel - 3, by omega⟩
  simp only [List.cons_append, List.nil_append, List.append_assoc] at htokens
  let before : Composer := { p with tokens := first :: (others ++ (more ++ t :: rest)) }
  have hbefore : before.tokens = (first :: others) ++ (more ++ t :: rest) := rfl
  have hvalueFuel : 4 * (first :: others).length ≤ fuel := by
    rw [List.length_cons]
    omega
  obtain ⟨node, hnode, hshow⟩ := hvalue hbefore hvalueTokens hvalueFuel
  obtain ⟨nodes, hnodes, hshows⟩ := hentries (p := { p with tokens := more ++ t :: rest })
    rfl hmore ht (by omega : 4 * more.length < fuel + 2)
  refine ⟨_, ?_, .cons (.plain tscalar.start key) hshow hshows⟩
  rw [blockEntries_entry htokens hkey hscalar hmark (hfirst ▸ hmalformed) (hfirst ▸ hends) hnode,
    hnodes, joined, String.ofList_toList]

mutual

theorem composes_of_isOutline : (value : Yaml) → IsOutline value → Composes value
  | .plain text, _ => composes_plain text
  | .string text, _ => composes_string text
  | .mapping entries, h => composes_mapping (composesEntries_of_areOutlines entries h.2)

theorem composesEntries_of_areOutlines :
    (entries : List (String × Yaml)) → AreOutlines entries → ComposesEntries entries
  | [], _ => composesEntries_nil
  | (key, value) :: rest, h =>
    composesEntries_cons key h.1.2.2 (composes_of_isOutline value h.1.2.2)
      (composesEntries_of_areOutlines rest h.2)

end

end Composer

/-- Of the tokens of an outline, the outline is composed as the only document. -/
theorem exists_ofTokens {entries : List (String × Yaml)} (h : IsOutline (.mapping entries))
    {ts : List Token} (hts : ts.map Token.kind = outlineKinds (.mapping entries) ++ [.streamEnd]) :
    ∃ node, node.Shows (.mapping entries) ∧ Stream.ofTokens ts = ⟨some node, none, false⟩ := by
  obtain ⟨content, ends, rfl, hcontent, hends⟩ := List.map_eq_append_iff.mp hts
  obtain ⟨last, rfl, hlast⟩ := List.map_eq_singleton_iff.mp hends
  obtain ⟨first, more, rfl, hfirst, -⟩ := List.map_eq_cons_iff.mp hcontent
  let p : Composer := ⟨first :: more ++ [last], [], standardHandles⟩
  let fuel := 4 * (first :: more ++ [last]).length + 8
  have hfuel : 4 * (first :: more).length ≤ fuel := by
    simp only [fuel, List.length_append]
    omega
  obtain ⟨node, hnode, hshows⟩ := Composer.composes_of_isOutline _ h (p := p) rfl hcontent hfuel
  refine ⟨node, hshows, ?_⟩
  have hpeek : (Composer.mk (first :: more ++ [last]) [] []).peek = .ok first :=
    Composer.peek_cons rfl (by simp [hfirst])
  have hroot : (Composer.mk (first :: more ++ [last]) [] []).root fuel =
      some ⟨node, some { p with tokens := [last] }⟩ := by
    rw [Composer.root, hpeek]
    simp only [hfirst]
    exact congrArg some hnode
  have hpeek' : Composer.peek { p with tokens := [last] } = .ok last :=
    Composer.peek_cons rfl (by simp [hlast])
  have hmore : Composer.hasMore { p with tokens := [last] } = false := by
    simp [Composer.hasMore, hlast]
  rw [Stream.ofTokens, hroot]
  simp only [hpeek', hmore]

/-- The text of an outline holds a document of its shape, and nothing else. -/
theorem exists_root_outline {entries : List (String × Yaml)} (hne : entries ≠ [])
    (h : AreOutlines entries) {tail : List Char} (hprintable : AllPrintable tail)
    (htail : Follows (nodeChars none .root (.mapping entries)) tail 0 []) :
    ∃ node, node.Shows (.mapping entries) ∧
      Stream.ofText (String.ofList (nodeChars none .root (.mapping entries) ++ tail)) =
        ⟨some node, none, false⟩ := by
  obtain ⟨node, hshows, hstream⟩ := exists_ofTokens ⟨hne, h⟩ (tokens_outline hne h htail)
  exact ⟨node, hshows, ((allPrintable_outline hne h).append hprintable).ofText.trans hstream⟩

end BoundaryContract.Yaml
