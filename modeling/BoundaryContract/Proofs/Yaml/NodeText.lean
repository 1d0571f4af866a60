import BoundaryContract.Proofs.Yaml.Parts
import BoundaryContract.Proofs.Yaml.ScalarText

/-!
# Documents are told apart by their text

The text of a document determines the document, up to the line feeds at the end of its last string
if that string keeps the breaks it ends in (`AlikeToEnd`, `unique_node`). Of whole texts this is an
equivalence (`alikeButFeeds_render`).

The kind of a node shows in its first characters (`Formed`, `formed_lead`), except that a scalar and
the first key of a mapping may begin alike; these differ in what comes after them
(`scalar_ne_mapping`). So two nodes with the same text are of the same kind, and their parts are
compared one after another.
-/

namespace BoundaryContract.Yaml

open Text

/-! ### Documents in question -/

mutual

/-- Texts that stand as they are are allowed to and are never those of strings, and tags have
neither spaces nor line feeds in them. -/
def Clear : Yaml → Prop
  | .plain text => AllowsPlain text.toList ∧ Plain.isMistakable text
  | .string _ => True
  | .sequence items => ClearItems items
  | .mapping entries => ClearEntries entries
  | .tagged tag content => (∀ ch ∈ tag.toList, isGap ch = false) ∧ Clear content

/-- Every item is a document in question. -/
def ClearItems : List Yaml → Prop
  | [] => True
  | item :: rest => Clear item ∧ ClearItems rest

/-- Every value of an entry is a document in question. -/
def ClearEntries : List (String × Yaml) → Prop
  | [] => True
  | (_, value) :: rest => Clear value ∧ ClearEntries rest

end

/-- The documents are the same up to their last string, which keeps the breaks it ends in and
differs in the number of line feeds there. -/
inductive AlikeToEnd : Yaml → Yaml → Prop
  | refl (doc : Yaml) : AlikeToEnd doc doc
  | string {s t : String} (h : AlikeStrings s t) : AlikeToEnd (.string s) (.string t)
  | item (items : List Yaml) {last last' : Yaml} (h : AlikeToEnd last last') :
    AlikeToEnd (.sequence (items ++ [last])) (.sequence (items ++ [last']))
  | entry (entries : List (String × Yaml)) (key : String) {last last' : Yaml}
    (h : AlikeToEnd last last') :
    AlikeToEnd (.mapping (entries ++ [(key, last)])) (.mapping (entries ++ [(key, last')]))
  | tagged (tag : String) {content content' : Yaml} (h : AlikeToEnd content content') :
    AlikeToEnd (.tagged tag content) (.tagged tag content')

variable {n N m : Nat} {indent : Option Nat} {p : Place} {broken : Bool} {ch : Char}
  {r r' cs x x' : List Char} {d d' : Yaml}

/-! ### What comes after a node -/

/-- What can come after a node in a place of a container. -/
def Closes (indent : Option Nat) (p : Place) (broken : Bool) (r : List Char) : Prop :=
  match indent, p with
  | none, _ => Leaves 0 broken r
  | some n, .value => LeavesItems n broken r
  | some n, _ => Leaves (n + 1) broken r

/-- What closes a node in a place closes it after a tag. -/
theorem Closes.tagged (h : Closes indent p broken r) : Closes indent .tagged broken r := by
  cases indent with
  | none => exact h
  | some n =>
    cases p with
    | value => exact LeavesItems.leaves h
    | root | compact | tagged => exact h

theorem Closes.scalar (h : Closes indent p broken r) : Leaves (scalarMargin indent) broken r := by
  have htagged := h.tagged
  cases indent with
  | none => exact Leaves.mono htagged (Nat.zero_le 2)
  | some n => exact Leaves.mono htagged (Nat.le_succ (n + 1))

/-- What closes a node leaves the margin of its entries. -/
theorem Closes.mapping (h : Closes indent p broken r) :
    Leaves (p.margin false indent) broken r := by
  have htagged := h.tagged
  cases indent with
  | none => exact htagged
  | some n => exact Leaves.mono htagged (Nat.le_succ (n + 1))

/-- What closes a node is no further item of it. -/
theorem Closes.sequence (h : Closes indent p broken r) :
    LeavesItems (p.margin true indent) broken r := by
  cases indent with
  | none => exact .outer h
  | some n =>
    cases p with
    | value => exact h
    | root | compact | tagged => exact .outer (Leaves.mono h (Nat.le_succ (n + 1)))

/-! ### Beginnings -/

/-- A content that may stand plainly begins like a scalar. -/
theorem lead_of_allowsPlain (hx : AllowsPlain x) (r : List Char) : lead (x ++ r) = .scalar := by
  obtain ⟨ch, cs, rfl, hsolid⟩ := hx.words.first
  have hgap : isGap ch = false := by
    rw [isGap, Bool.or_eq_false_iff, beq_eq_false_iff_ne, beq_eq_false_iff_ne]
    exact ⟨ne_space_of_isSolid hsolid, ne_feed_of_isSolid hsolid⟩
  have hstart := hx.rules.2.1
  rw [Allowance.badStart, Bool.or_eq_false_iff] at hstart
  obtain ⟨hindicator, hmark⟩ := hstart
  -- a mark with a space after it is none of a plain scalar
  have hword : endsWord cs = true → ch ≠ '-' ∧ ch ≠ '?' := by
    intro hends
    rw [hends, Bool.and_true] at hmark
    constructor <;> (rintro rfl; exact absurd hmark (by decide))
  have hspace : ∀ tail, cs ++ r = ' ' :: tail → endsWord cs = true := by
    intro tail heq
    cases cs with
    | nil => rfl
    | cons d cs =>
      obtain ⟨rfl, -⟩ := List.cons.inj heq
      rfl
  rw [List.cons_append, lead, List.dropWhile_cons_of_neg (by rw [hgap]; exact Bool.false_ne_true)]
  split
  · next heq =>
    obtain ⟨rfl, htail⟩ := List.cons.inj heq
    exact absurd rfl (hword (hspace _ htail)).1
  · next heq =>
    obtain ⟨rfl, htail⟩ := List.cons.inj heq
    exact absurd rfl (hword (hspace _ htail)).2
  · next heq =>
    obtain ⟨rfl, -⟩ := List.cons.inj heq
    exact absurd hindicator (by decide)
  · next heq =>
    obtain ⟨rfl, -⟩ := List.cons.inj heq
    exact absurd hindicator (by decide)
  · next heq =>
    obtain ⟨rfl, -⟩ := List.cons.inj heq
    exact absurd hindicator (by decide)
  · rfl

/-- A string begins like a scalar in every style. -/
theorem lead_stringChars (N : Nat) (s : String) (r : List Char) :
    lead (stringChars N s ++ r) = .scalar := by
  cases hstyle : Style.choose s with
  | plain =>
    rw [stringChars_of_plain hstyle]
    exact lead_of_allowsPlain (allowsPlain_of_choose hstyle) r
  | singleQuoted | doubleQuoted | literal =>
    rw [stringChars, hstyle]
    rfl

/-- What an entry begins with. -/
theorem lead_entryChars (n : Nat) (key : String) (value : Yaml) (r : List Char) :
    lead (entryChars n key value ++ r) = if isSimpleKey key then .scalar else .longKey := by
  rw [entryChars]
  split
  · rw [List.append_assoc]
    exact lead_stringChars _ key _
  · rfl

/-- The document is a scalar. -/
def IsScalar : Yaml → Prop
  | .plain _ | .string _ => True
  | .sequence _ | .mapping _ | .tagged _ _ => False

/-- What a node of each kind begins with. -/
inductive Formed : Yaml → Lead → Prop
  | scalar {d : Yaml} (h : d.IsScalar) : Formed d .scalar
  | simpleKey {key : String} {value : Yaml} {rest : List (String × Yaml)} (h : isSimpleKey key) :
    Formed (.mapping ((key, value) :: rest)) .scalar
  | longKey {key : String} {value : Yaml} {rest : List (String × Yaml)} (h : ¬ isSimpleKey key) :
    Formed (.mapping ((key, value) :: rest)) .longKey
  | emptySequence : Formed (.sequence []) .emptySequence
  | emptyMapping : Formed (.mapping []) .emptyMapping
  | item {item : Yaml} {rest : List Yaml} : Formed (.sequence (item :: rest)) .item
  | tag {tag : String} {content : Yaml} : Formed (.tagged tag content) .tag

theorem isGap_gap (p : Place) : ∀ ch ∈ p.gap, isGap ch := by
  have hall : p.gap.all isGap = true := by cases p <;> decide
  exact List.all_eq_true.mp hall

theorem isGap_opening (n : Nat) (p : Place) : ∀ ch ∈ p.opening n, isGap ch := by
  have hmargin : ∀ ch ∈ '\n' :: margin n, isGap ch := by
    intro ch hch
    obtain rfl | hch := List.mem_cons.mp hch
    · rfl
    · rw [List.eq_of_mem_replicate hch]
      rfl
  cases p with
  | root => exact List.forall_mem_nil _
  | compact =>
    intro ch hch
    obtain rfl := List.mem_singleton.mp hch
    rfl
  | value | tagged => exact hmargin

/-- After a dash a node begins with a space. -/
theorem exists_compact (n : Nat) (d : Yaml) : ∃ cs, nodeChars (some n) .compact d = ' ' :: cs := by
  cases d with
  | plain text => exact ⟨_, by rw [nodeChars]; rfl⟩
  | string s => exact ⟨_, by rw [nodeChars]; rfl⟩
  | sequence items => cases items <;> exact ⟨_, by rw [nodeChars]; rfl⟩
  | mapping entries => cases entries <;> exact ⟨_, by rw [nodeChars]; rfl⟩
  | tagged tag content => exact ⟨_, by rw [nodeChars]; rfl⟩

theorem lead_item (n : Nat) (d : Yaml) (r : List Char) :
    lead ('-' :: nodeChars (some n) .compact d ++ r) = .item := by
  obtain ⟨cs, hcs⟩ := exists_compact n d
  rw [hcs]
  rfl

/-- The first characters of a node tell its kind. -/
theorem formed_lead (hd : d.Clear) (indent : Option Nat) (p : Place) (r : List Char) :
    Formed d (lead (nodeChars indent p d ++ r)) := by
  cases d with
  | plain text =>
    rw [nodeChars, List.append_assoc, lead_append (isGap_gap p), lead_of_allowsPlain hd.1]
    exact .scalar trivial
  | string s =>
    rw [nodeChars, List.append_assoc, lead_append (isGap_gap p), lead_stringChars]
    exact .scalar trivial
  | sequence items =>
    cases items with
    | nil =>
      rw [nodeChars, List.append_assoc, lead_append (isGap_gap p)]
      exact .emptySequence
    | cons item rest =>
      rw [nodeChars]
      simp only [List.append_assoc]
      rw [lead_append (isGap_opening _ p), lead_item]
      exact .item
  | mapping entries =>
    cases entries with
    | nil =>
      rw [nodeChars, List.append_assoc, lead_append (isGap_gap p)]
      exact .emptyMapping
    | cons entry rest =>
      obtain ⟨key, value⟩ := entry
      rw [nodeChars]
      simp only [List.append_assoc]
      rw [lead_append (isGap_opening _ p), lead_entryChars]
      split
      · next hsimple => exact .simpleKey hsimple
      · next hlong => exact .longKey hlong
  | tagged tag content =>
    rw [nodeChars]
    simp only [List.append_assoc]
    rw [lead_append (isGap_gap p)]
    exact .tag

/-- Nodes with the same text begin alike. -/
theorem exists_formed (hd : d.Clear) (hd' : d'.Clear)
    (h : nodeChars indent p d ++ r = nodeChars indent p d' ++ r') :
    ∃ start, Formed d start ∧ Formed d' start := by
  refine ⟨_, formed_lead hd indent p r, ?_⟩
  rw [h]
  exact formed_lead hd' indent p r'

/-! ### Scalars -/

/-- A scalar with its text and what can come after it. -/
inductive ScalarAt (N : Nat) : Yaml → List Char → List Char → Prop
  | plain {text : String} {r : List Char} (hplain : AllowsPlain text.toList)
    (hmistakable : Plain.isMistakable text) (hr : Stops r) :
    ScalarAt N (.plain text) text.toList r
  | string {s : String} {r : List Char} (hr : EndsString N s r) :
    ScalarAt N (.string s) (stringChars N s) r

/-- The text of a scalar determines it, up to line feeds at the end. -/
theorem scalar_unique (hN : 0 < N) (hd : ScalarAt N d x r) (hd' : ScalarAt N d' x' r')
    (h : x ++ r = x' ++ r') : SameUpTo AlikeToEnd d d' r r' := by
  cases hd with
  | plain hplain hmistakable hr =>
    cases hd' with
    | plain hplain' _ hr' =>
      obtain ⟨hsame, hrest⟩ := plain_unique hplain hplain' hr hr' h
      exact .inl ⟨congrArg plain (String.toList_inj.mp hsame), hrest⟩
    | string hr' => exact absurd h (plain_ne_string hplain hmistakable hr hr')
  | string hr =>
    cases hd' with
    | plain hplain hmistakable hr' =>
      exact absurd h.symm (plain_ne_string hplain hmistakable hr' hr)
    | string hr' =>
      exact (string_unique hN hr hr' h).map string fun _ _ => AlikeToEnd.string

theorem scalarMargin_pos (indent : Option Nat) : 0 < scalarMargin indent := by
  cases indent <;> exact Nat.succ_pos _

/-- A scalar stands after its gap. -/
theorem exists_scalarAt (hscalar : d.IsScalar) (hd : d.Clear)
    (hr : Closes indent p (isBroken (nodeChars indent p d)) r) :
    ∃ x, nodeChars indent p d = p.gap ++ x ∧ ScalarAt (scalarMargin indent) d x r ∧
      Leaves (scalarMargin indent) (isBroken x) r := by
  have hleaves := hr.scalar
  cases d with
  | plain text =>
    rw [nodeChars, isBroken_append hd.1.1] at hleaves
    refine ⟨text.toList, by rw [nodeChars], .plain hd.1 hd.2 ?_, hleaves⟩
    rw [isBroken_of_allowsPlain hd.1] at hleaves
    exact hleaves.stops
  | string s =>
    obtain ⟨ch, cs, hcs, -⟩ := exists_stringChars (scalarMargin indent) s
    have hne : stringChars (scalarMargin indent) s ≠ [] := by
      rw [hcs]
      exact List.cons_ne_nil ch cs
    rw [nodeChars, isBroken_append hne] at hleaves
    exact ⟨_, by rw [nodeChars], .string (.leaves hleaves), hleaves⟩
  | sequence | mapping | tagged => exact hscalar.elim

/-- After the colon of a key or a tag, a node begins with a space or a line feed. -/
theorem exists_separated (indent : Option Nat) (hp : p ≠ .root) (d : Yaml) :
    ∃ ch cs, nodeChars indent p d = ch :: cs ∧ isGap ch := by
  have hgap : ∃ cs, p.gap = ' ' :: cs := by
    cases p with
    | root => exact absurd rfl hp
    | compact | value | tagged => exact ⟨[], rfl⟩
  have hopening (n : Nat) : ∃ ch cs, p.opening n = ch :: cs ∧ isGap ch := by
    cases p with
    | root => exact absurd rfl hp
    | compact | value | tagged => exact ⟨_, _, rfl, by decide⟩
  obtain ⟨gap, hgap⟩ := hgap
  -- a collection with parts begins below the line, and everything else on it
  cases d with
  | plain text => exact ⟨' ', _, by rw [nodeChars, hgap]; rfl, by decide⟩
  | string s => exact ⟨' ', _, by rw [nodeChars, hgap]; rfl, by decide⟩
  | sequence items =>
    cases items with
    | nil => exact ⟨' ', _, by rw [nodeChars, hgap]; rfl, by decide⟩
    | cons item rest =>
      obtain ⟨ch, cs, hcs, hch⟩ := hopening (p.margin true indent)
      exact ⟨ch, _, by rw [nodeChars, hcs]; rfl, hch⟩
  | mapping entries =>
    cases entries with
    | nil => exact ⟨' ', _, by rw [nodeChars, hgap]; rfl, by decide⟩
    | cons entry rest =>
      obtain ⟨ch, cs, hcs, hch⟩ := hopening (p.margin false indent)
      exact ⟨ch, _, by rw [nodeChars, hcs]; rfl, hch⟩
  | tagged tag content => exact ⟨' ', _, by rw [nodeChars, hgap]; rfl, by decide⟩

/-- Below the root something is written for every document. -/
theorem separated_ne_nil (indent : Option Nat) (hp : p ≠ .root) (d : Yaml) :
    nodeChars indent p d ≠ [] := by
  obtain ⟨ch, cs, hcs, -⟩ := exists_separated indent hp d
  rw [hcs]
  exact List.cons_ne_nil ch cs

/-- The colon after a key ends a word, whatever the value is. -/
theorem endsWord_value (n : Nat) (d : Yaml) (r : List Char) :
    endsWord (nodeChars (some n) .value d ++ r) := by
  have hp : Place.value ≠ .root := Place.noConfusion
  obtain ⟨ch, cs, hcs, hch⟩ := exists_separated (some n) hp d
  rw [hcs]
  rw [isGap, Bool.or_eq_true, beq_iff_eq, beq_iff_eq] at hch
  obtain rfl | rfl := hch <;> rfl

/-- An entry with a short key stands on the line of its key. -/
theorem entryChars_of_simple {key : String} (hsimple : isSimpleKey key) (n N : Nat)
    (value : Yaml) :
    entryChars n key value = stringChars N key ++ ':' :: nodeChars (some n) .value value := by
  rw [entryChars, if_pos hsimple, stringChars_of_simple hsimple _ N]

/-- A scalar is no mapping: after its first key, the mapping goes on with a colon. -/
theorem scalar_ne_mapping {key : String} {value : Yaml} {rest : List (String × Yaml)}
    (hscalar : d.IsScalar) (hd : d.Clear)
    (hr : Closes indent p (isBroken (nodeChars indent p d)) r) (hsimple : isSimpleKey key) :
    nodeChars indent p d ++ r ≠ nodeChars indent p (.mapping ((key, value) :: rest)) ++ r' := by
  intro h
  obtain ⟨x, hx, hat, hleaves⟩ := exists_scalarAt hscalar hd hr
  let n := p.margin false indent
  let more := entriesChars n (entryChars n key value) rest ++ r'
  have hmapping : nodeChars indent p (.mapping ((key, value) :: rest)) ++ r' =
      p.opening n ++ (entryChars n key value ++ more) := by
    rw [nodeChars, List.append_assoc, List.append_assoc]
  have hcs : endsWord (nodeChars (some n) .value value ++ more) := endsWord_value n value more
  rw [entryChars_of_simple hsimple n (scalarMargin indent), List.append_assoc,
    List.cons_append] at hmapping
  rw [hx, hmapping, List.append_assoc] at h
  -- after a colon or a tag, a mapping begins with a line feed and a scalar with a space
  have hafter : x ++ r = stringChars (scalarMargin indent) key ++
      ':' :: (nodeChars (some n) .value value ++ more) := by
    cases p with
    | root => exact h
    | compact => exact (List.cons.inj h).2
    | value | tagged =>
      obtain ⟨hspace, -⟩ := List.cons.inj h
      exact absurd hspace (by decide)
  have hkey : ScalarAt (scalarMargin indent) (.string key) _ _ := .string (.colon hsimple hcs)
  have hsame := scalar_unique (scalarMargin_pos indent) hkey hat hafter.symm
  obtain ⟨rfl, rfl⟩ := hsame.eq (s := []) (by decide)
  -- the scalar is the key, so nothing that leaves it begins with a colon
  cases hat with
  | string _ =>
    rw [isBroken_stringChars (choose_ne_literal hsimple)] at hleaves
    exact hleaves.ne_colon _ rfl

/-! ### Items and entries -/

/-- The text of an item. -/
def itemText (n : Nat) (item : Yaml) : List Char := '-' :: nodeChars (some n) .compact item

/-- The text of an entry. -/
def entryText (n : Nat) (entry : String × Yaml) : List Char := entryChars n entry.1 entry.2

theorem itemsChars_eq (n : Nat) (before : List Char) (items : List Yaml) :
    itemsChars n before items = partsChars (itemText n) n before items := by
  induction items generalizing before with
  | nil => rw [itemsChars, partsChars]
  | cons item rest ih => rw [itemsChars, partsChars, ih, itemText]

theorem entriesChars_eq (n : Nat) (before : List Char) (entries : List (String × Yaml)) :
    entriesChars n before entries = partsChars (entryText n) n before entries := by
  induction entries generalizing before with
  | nil => rw [entriesChars, partsChars]
  | cons entry rest ih => rw [entriesChars, partsChars, ih, entryText]

/-- Items are told from what comes after their sequence by the dash. -/
theorem parted_items (n : Nat) : Parted (itemText n) n (LeavesItems n) (Leaves (n + 1)) where
  solid _ := ⟨'-', _, rfl, by decide⟩
  last hr := hr.leaves
  next _ _ _ := .line (Nat.lt_succ_self n) (by decide)
  ne_next hr item r' := by
    obtain ⟨cs, hcs⟩ := exists_compact n item
    rw [itemText, hcs]
    exact hr.ne_item

/-- An entry begins with something solid. -/
theorem exists_entryChars (n : Nat) (key : String) (value : Yaml) :
    ∃ ch cs, entryChars n key value = ch :: cs ∧ isSolid ch := by
  rw [entryChars]
  split
  · obtain ⟨ch, cs, hcs, hch⟩ := exists_stringChars (n + 2) key
    rw [hcs]
    exact ⟨ch, _, rfl, hch⟩
  · exact ⟨'?', _, rfl, by decide⟩

/-- Entries are told from what comes after their mapping by the margin. -/
theorem parted_entries (n : Nat) : Parted (entryText n) n (Leaves n) (LeavesItems n) where
  solid entry := exists_entryChars n entry.1 entry.2
  last hr := .outer hr
  next broken entry r := by
    obtain ⟨ch, cs, hcs, hch⟩ := exists_entryChars n entry.1 entry.2
    have hlead := lead_entryChars n entry.1 entry.2 r
    rw [hcs] at hlead
    rw [entryText, hcs]
    have hitem : lead (ch :: (cs ++ r)) ≠ .item := by
      rw [show lead (ch :: (cs ++ r)) = _ from hlead]
      split <;> exact Lead.noConfusion
    exact .line hch hitem
  ne_next hr entry r' := by
    obtain ⟨ch, cs, hcs, hch⟩ := exists_entryChars n entry.1 entry.2
    rw [entryText, hcs]
    exact hr.ne_line hch

/-! ### Nodes -/

/-- The text of the document determines it wherever it stands, up to line feeds at the end. -/
def Unique (d : Yaml) : Prop :=
  ∀ (indent : Option Nat) (p : Place) {d' : Yaml} {r r' : List Char}, d'.Clear →
    Closes indent p (isBroken (nodeChars indent p d)) r →
    Closes indent p (isBroken (nodeChars indent p d')) r' →
    nodeChars indent p d ++ r = nodeChars indent p d' ++ r' → SameUpTo AlikeToEnd d d' r r'

/-- The text of an item determines it if the text of its node does. -/
theorem told_item (h : d.Unique) (n : Nat) :
    Told (itemText n) (Leaves (n + 1)) AlikeToEnd Clear d := by
  intro d' r r' hd' hr hr' heq
  have hbroken (d : Yaml) : isBroken (itemText n d) = isBroken (nodeChars (some n) .compact d) := by
    obtain ⟨cs, hcs⟩ := exists_compact n d
    rw [itemText, hcs]
    exact isBroken_append (List.cons_ne_nil ' ' cs) ['-']
  rw [hbroken] at hr hr'
  exact h (some n) .compact hd' hr hr' (List.cons.inj heq).2

/-- A line begins after an entry if one begins after its value. -/
theorem isBroken_entryChars (n : Nat) (key : String) (value : Yaml) :
    isBroken (entryChars n key value) =
      if isSimpleKey key then isBroken (nodeChars (some n) .value value)
      else isBroken (nodeChars (some n) .compact value) := by
  have happend {p : Place} (hp : p ≠ .root) (s : List Char) :
      isBroken (s ++ ':' :: nodeChars (some n) p value) =
        isBroken (nodeChars (some n) p value) := by
    rw [List.append_cons, isBroken_append (separated_ne_nil (some n) hp value)]
  rw [entryChars]
  split
  · exact happend Place.noConfusion _
  · exact happend Place.noConfusion _

section Entry

variable {key key' : String}

/-- Entries whose keys stand on one line. -/
theorem simpleEntry_unique (h : d.Unique) (hd' : d'.Clear) (hkey : isSimpleKey key)
    (hkey' : isSimpleKey key') (hr : LeavesItems n (isBroken (entryChars n key d)) r)
    (hr' : LeavesItems n (isBroken (entryChars n key' d')) r')
    (heq : entryChars n key d ++ r = entryChars n key' d' ++ r') :
    SameUpTo (AlikeMembers AlikeToEnd) (key, d) (key', d') r r' := by
  rw [isBroken_entryChars, if_pos hkey] at hr
  rw [isBroken_entryChars, if_pos hkey'] at hr'
  rw [entryChars_of_simple hkey n (n + 2), entryChars_of_simple hkey' n (n + 2), List.append_assoc,
    List.append_assoc, List.cons_append, List.cons_append] at heq
  -- each key ends at its colon
  have hkeys := string_unique (Nat.succ_pos _) (.colon hkey (endsWord_value n d r))
    (.colon hkey' (endsWord_value n d' r')) heq
  obtain ⟨rfl, hvalues⟩ := hkeys.eq (s := []) (by decide)
  have hsame := h (some n) .value hd' hr hr' (List.cons.inj hvalues).2
  exact hsame.map (Prod.mk key) fun _ _ halike => ⟨rfl, halike⟩

/-- Entries whose keys have a mark and a line of their own. -/
theorem longEntry_unique (h : d.Unique) (hd' : d'.Clear) (hkey : ¬ isSimpleKey key)
    (hkey' : ¬ isSimpleKey key') (hr : LeavesItems n (isBroken (entryChars n key d)) r)
    (hr' : LeavesItems n (isBroken (entryChars n key' d')) r')
    (heq : entryChars n key d ++ r = entryChars n key' d' ++ r') :
    SameUpTo (AlikeMembers AlikeToEnd) (key, d) (key', d') r r' := by
  rw [isBroken_entryChars, if_neg hkey] at hr
  rw [isBroken_entryChars, if_neg hkey'] at hr'
  have hlong {key : String} (hkey : ¬ isSimpleKey key) (d : Yaml) (r : List Char) :
      entryChars n key d ++ r = '?' :: ' ' :: (stringChars (n + 2) key ++
        (newLine (isBroken (stringChars (n + 2) key)) n ++
          ':' :: (nodeChars (some n) .compact d ++ r))) := by
    obtain ⟨ch, cs, hcs, -⟩ := exists_stringChars (n + 2) key
    have hbroken : isBroken ('?' :: ' ' :: stringChars (n + 2) key) =
        isBroken (stringChars (n + 2) key) := by
      rw [hcs]
      exact isBroken_append (List.cons_ne_nil ch cs) ['?', ' ']
    rw [entryChars, if_neg hkey]
    simp only [lineStart_eq, hbroken, List.append_assoc, List.cons_append]
  rw [hlong hkey, hlong hkey'] at heq
  -- each key ends where the line of its colon begins, which is indented less deep
  have hends {key : String} (cs : List Char) : EndsString (n + 2) key
      (newLine (isBroken (stringChars (n + 2) key)) n ++ ':' :: cs) :=
    .leaves (.line (by omega) (by decide))
  obtain ⟨-, heq⟩ := List.cons.inj heq
  obtain ⟨-, heq⟩ := List.cons.inj heq
  have hkeys := string_unique (Nat.succ_pos _) (hends _) (hends _) heq
  obtain ⟨rfl, hvalues⟩ := hkeys.eq (by decide)
  have hcolon := List.append_cancel_left hvalues
  have hsame := h (some n) .compact hd' hr.leaves hr'.leaves (List.cons.inj hcolon).2
  exact hsame.map (Prod.mk key) fun _ _ halike => ⟨rfl, halike⟩

end Entry

/-- The text of an entry determines it if the text of its value does. -/
theorem told_entry {key : String} (h : d.Unique) (n : Nat) :
    Told (entryText n) (LeavesItems n) (AlikeMembers AlikeToEnd) (fun entry => entry.2.Clear)
      (key, d) := by
  rintro ⟨key', d'⟩ r r' hd' hr hr' heq
  have hlead := lead_entryChars n key d r
  rw [show entryChars n key d ++ r = entryChars n key' d' ++ r' from heq, lead_entryChars] at hlead
  -- whether the key stands on one line shows in what the entry begins with
  by_cases hkey : isSimpleKey key
  · by_cases hkey' : isSimpleKey key'
    · exact simpleEntry_unique h hd' hkey hkey' hr hr' heq
    · rw [if_pos hkey, if_neg hkey'] at hlead
      cases hlead
  · by_cases hkey' : isSimpleKey key'
    · rw [if_neg hkey, if_pos hkey'] at hlead
      cases hlead
    · exact longEntry_unique h hd' hkey hkey' hr hr' heq

/-- The text of a scalar determines it wherever the scalar stands. -/
theorem unique_of_isScalar (hscalar : d.IsScalar) (hd : d.Clear) : d.Unique := by
  intro indent p d' r r' hd' hr hr' h
  obtain ⟨start, hstart, hstart'⟩ := exists_formed hd hd' h
  -- of what is no scalar, only the first key of a mapping begins alike
  have hscalar' : d'.IsScalar := by
    cases hstart with
    | scalar _ =>
      cases hstart' with
      | scalar hscalar' => exact hscalar'
      | simpleKey hsimple => exact absurd h (scalar_ne_mapping hscalar hd hr hsimple)
    | simpleKey | longKey | emptySequence | emptyMapping | item | tag => exact hscalar.elim
  obtain ⟨x, hx, hat, -⟩ := exists_scalarAt hscalar hd hr
  obtain ⟨x', hx', hat', -⟩ := exists_scalarAt hscalar' hd' hr'
  rw [hx, hx', List.append_assoc, List.append_assoc, List.append_right_inj] at h
  exact scalar_unique (scalarMargin_pos indent) hat hat' h

theorem nodeChars_sequence (indent : Option Nat) (p : Place) (item : Yaml) (rest : List Yaml) :
    nodeChars indent p (.sequence (item :: rest)) = p.opening (p.margin true indent) ++
      blockChars (itemText (p.margin true indent)) (p.margin true indent) item rest := by
  rw [nodeChars, itemsChars_eq, List.append_assoc]
  rfl

theorem nodeChars_mapping_cons (indent : Option Nat) (p : Place) (entry : String × Yaml)
    (rest : List (String × Yaml)) :
    nodeChars indent p (.mapping (entry :: rest)) = p.opening (p.margin false indent) ++
      blockChars (entryText (p.margin false indent)) (p.margin false indent) entry rest := by
  obtain ⟨key, value⟩ := entry
  rw [nodeChars, entriesChars_eq, List.append_assoc]
  rfl

theorem clear_of_mem {items : List Yaml} (h : ClearItems items) : ∀ item ∈ items, item.Clear := by
  induction items with
  | nil => exact List.forall_mem_nil _
  | cons item rest ih => exact List.forall_mem_cons.mpr ⟨h.1, ih h.2⟩

theorem clear_value_of_mem {entries : List (String × Yaml)} (h : ClearEntries entries) :
    ∀ entry ∈ entries, entry.2.Clear := by
  induction entries with
  | nil => exact List.forall_mem_nil _
  | cons entry rest ih => exact List.forall_mem_cons.mpr ⟨h.1, ih h.2⟩

theorem AlikeToEnd.sequence {items items' : List Yaml} (h : AlikeLast AlikeToEnd items items') :
    AlikeToEnd (.sequence items) (.sequence items') := by
  obtain ⟨init, d, d', rfl, rfl, hd⟩ := h
  exact .item init hd

theorem AlikeToEnd.mapping {entries entries' : List (String × Yaml)}
    (h : AlikeLast (AlikeMembers AlikeToEnd) entries entries') :
    AlikeToEnd (.mapping entries) (.mapping entries') := by
  obtain ⟨init, ⟨key, d⟩, ⟨key', d'⟩, rfl, rfl, rfl, hd⟩ := h
  exact .entry init key hd

/-- The text of a sequence determines it if the texts of the items do. -/
theorem unique_sequence {items : List Yaml} (hitems : ∀ item ∈ items, item.Unique)
    (hd : (Yaml.sequence items).Clear) : (Yaml.sequence items).Unique := by
  intro indent p d' r r' hd' hr hr' h
  obtain ⟨start, hstart, hstart'⟩ := exists_formed hd hd' h
  cases hstart with
  | scalar hscalar => exact hscalar.elim
  | emptySequence =>
    cases hstart' with
    | emptySequence => exact .inl ⟨rfl, List.append_cancel_left h⟩
  | @item item rest =>
    cases hstart' with
    | @item item' rest' =>
      rw [nodeChars_sequence] at hr hr'
      rw [nodeChars_sequence, nodeChars_sequence] at h
      have hsame := (parted_items _).unique_block _
        (fun d hd => told_item (hitems d hd) _) (clear_of_mem hd') hr.sequence hr'.sequence h
      exact hsame.map Yaml.sequence fun _ _ => AlikeToEnd.sequence

/-- The text of a mapping determines it if the texts of the values do. -/
theorem unique_mapping {entries : List (String × Yaml)}
    (hentries : ∀ entry ∈ entries, entry.2.Unique) (hd : (Yaml.mapping entries).Clear) :
    (Yaml.mapping entries).Unique := by
  intro indent p d' r r' hd' hr hr' h
  obtain ⟨start, hstart, hstart'⟩ := exists_formed hd hd' h
  cases entries with
  | nil =>
    cases hstart with
    | scalar hscalar => exact hscalar.elim
    | emptyMapping =>
      cases hstart' with
      | emptyMapping => exact .inl ⟨rfl, List.append_cancel_left h⟩
  | cons entry rest =>
    -- a scalar begins like a short key, but it has no colon after it
    have hmapping : ∃ entry' rest', d' = .mapping (entry' :: rest') := by
      cases hstart with
      | scalar hscalar => exact hscalar.elim
      | simpleKey hsimple =>
        cases hstart' with
        | scalar hscalar' => exact absurd h.symm (scalar_ne_mapping hscalar' hd' hr' hsimple)
        | simpleKey => exact ⟨_, _, rfl⟩
      | longKey =>
        cases hstart' with
        | longKey => exact ⟨_, _, rfl⟩
    obtain ⟨entry', rest', rfl⟩ := hmapping
    rw [nodeChars_mapping_cons] at hr hr'
    rw [nodeChars_mapping_cons, nodeChars_mapping_cons] at h
    have hsame := (parted_entries _).unique_block _
      (fun e he => told_entry (hentries e he) _) (clear_value_of_mem hd') hr.mapping hr'.mapping h
    exact hsame.map Yaml.mapping fun _ _ => AlikeToEnd.mapping

/-- A tag ends at the space or line feed after it. -/
theorem tag_unique {t t' : List Char} (ht : ∀ ch ∈ t, isGap ch = false)
    (ht' : ∀ ch ∈ t', isGap ch = false) {ch ch' : Char} {cs' : List Char} (hch : isGap ch)
    (hch' : isGap ch') (h : t ++ ch :: cs = t' ++ ch' :: cs') : t = t' ∧ ch :: cs = ch' :: cs' := by
  have hsplit {t : List Char} (ht : ∀ ch ∈ t, isGap ch = false) {ch : Char} (hch : isGap ch)
      (cs : List Char) : (t ++ ch :: cs).takeWhile (fun ch => !isGap ch) = t := by
    rw [List.takeWhile_append_of_pos (by simpa using ht),
      List.takeWhile_cons_of_neg (by simp [hch]),
      List.append_nil]
  have htags : t = t' := by rw [← hsplit ht hch cs, h, hsplit ht' hch']
  subst htags
  exact ⟨rfl, List.append_cancel_left h⟩

/-- The tag comes first, and then its content as after a tag. -/
theorem nodeChars_tagged (indent : Option Nat) (p : Place) (tag : String) (content : Yaml) :
    nodeChars indent p (.tagged tag content) =
      (p.gap ++ '!' :: tag.toList) ++ nodeChars indent .tagged content := by
  rw [nodeChars, tagChars]

/-- The text of a tagged node determines it if the text of its content does. -/
theorem unique_tagged {tag : String} (h : d.Unique) (hd : (Yaml.tagged tag d).Clear) :
    (Yaml.tagged tag d).Unique := by
  intro indent p d' r r' hd' hr hr' heq
  obtain ⟨start, hstart, hstart'⟩ := exists_formed hd hd' heq
  cases hstart with
  | scalar hscalar => exact hscalar.elim
  | tag =>
    cases hstart' with
    | @tag tag' content =>
      have hp : Place.tagged ≠ .root := Place.noConfusion
      rw [nodeChars_tagged, isBroken_append (separated_ne_nil indent hp _)] at hr hr'
      rw [nodeChars_tagged, nodeChars_tagged] at heq
      simp only [List.append_assoc, List.append_right_inj, List.cons_append, List.cons.injEq,
        true_and] at heq
      -- both tags end where their contents begin
      obtain ⟨ch, cs, hcs, hch⟩ := exists_separated indent hp d
      obtain ⟨ch', cs', hcs', hch'⟩ := exists_separated indent hp content
      rw [hcs, hcs', List.cons_append, List.cons_append] at heq
      obtain ⟨htags, hcontents⟩ := tag_unique hd.1 hd'.1 hch hch' heq
      rw [← List.cons_append, ← List.cons_append, ← hcs, ← hcs'] at hcontents
      have hsame := h indent .tagged hd'.2 hr.tagged hr'.tagged hcontents
      rw [String.toList_inj.mp htags]
      exact hsame.map (Yaml.tagged tag') fun _ _ => AlikeToEnd.tagged tag'

mutual

/-- The text of a document determines it, up to the line feeds of its last string. -/
theorem unique_node : ∀ d : Yaml, d.Clear → d.Unique
  | .plain _, hd => unique_of_isScalar trivial hd
  | .string _, hd => unique_of_isScalar trivial hd
  | .sequence items, hd => unique_sequence (unique_items items hd) hd
  | .mapping entries, hd => unique_mapping (unique_values entries hd) hd
  | .tagged _ content, hd => unique_tagged (unique_node content hd.2) hd

theorem unique_items : ∀ items : List Yaml, ClearItems items → ∀ item ∈ items, item.Unique
  | [], _ => List.forall_mem_nil _
  | item :: rest, hd => List.forall_mem_cons.mpr ⟨unique_node item hd.1, unique_items rest hd.2⟩

theorem unique_values : ∀ entries : List (String × Yaml), ClearEntries entries →
    ∀ entry ∈ entries, entry.2.Unique
  | [], _ => List.forall_mem_nil _
  | (_, value) :: rest, hd =>
    List.forall_mem_cons.mpr ⟨unique_node value hd.1, unique_values rest hd.2⟩

end

/-! ### Documents that are alike -/

/-- The texts of strings that are alike differ in line feeds at the end only: their headers are the
same, and so are their lines. -/
theorem AlikeStrings.stringChars {s t : String} (h : AlikeStrings s t) (N : Nat) :
    AlikeButFeeds (stringChars N s) (stringChars N t) := by
  have hadded {s t : String} (h : AlikeStrings s t) {k : Nat}
      (hk : t.toList = s.toList ++ feeds k) :
      AlikeButFeeds (Yaml.stringChars N s) (Yaml.stringChars N t) := by
    obtain ⟨⟨hs, hkeep⟩, ⟨ht, hkeep'⟩, -⟩ := h
    have hmargin : Scalar.hidesMargin t.toList = Scalar.hidesMargin s.toList := by
      obtain ⟨ch, cs, hcs⟩ := List.exists_cons_of_ne_nil (literal_of_choose hs).1
      rw [hk, hcs]
      rfl
    have hheader : literalHeader t.toList = literalHeader s.toList := by
      rw [Scalar.literalHeader_eq, Scalar.literalHeader_eq, hmargin, hkeep, hkeep']
    rw [stringChars_of_literal hs, stringChars_of_literal ht, hheader, hk,
      literalBody_append_feeds]
    exact (((AlikeButFeeds.append_feeds _ k).append_left ['\n']).append_left _)
  obtain ⟨k, hk | hk⟩ := h.2.2.exists_append
  · exact hadded h hk
  · exact (hadded h.symm hk).symm

/-- Entries with one key are alike if their values are. -/
theorem alike_entryText {key : String} {d d' : Yaml}
    (h : ∀ indent p, AlikeButFeeds (nodeChars indent p d) (nodeChars indent p d')) (n : Nat) :
    AlikeButFeeds (entryText n (key, d)) (entryText n (key, d')) := by
  rw [entryText, entryText, entryChars, entryChars]
  split
  · exact ((h _ _).append_left [':']).append_left _
  · exact ((h _ _).append_left [':']).append_left _

/-- The texts of documents that are alike differ in line feeds at the end only. -/
theorem AlikeToEnd.nodeChars (h : AlikeToEnd d d') (indent : Option Nat) (p : Place) :
    AlikeButFeeds (nodeChars indent p d) (nodeChars indent p d') := by
  induction h generalizing indent p with
  | refl doc => exact .refl _
  | string h =>
    rw [Yaml.nodeChars, Yaml.nodeChars]
    exact (h.stringChars _).append_left _
  | @item items last last' _ ih =>
    have hitem (n : Nat) : AlikeButFeeds (itemText n last) (itemText n last') :=
      (ih (some n) .compact).append_left ['-']
    cases items with
    | nil =>
      rw [List.nil_append, List.nil_append, nodeChars_sequence, nodeChars_sequence]
      simp only [blockChars, partsChars, List.append_nil]
      exact (hitem _).append_left _
    | cons first rest =>
      rw [List.cons_append, List.cons_append, nodeChars_sequence, nodeChars_sequence]
      exact ((alike_partsChars (hitem _) _ _ rest).append_left _).append_left _
  | @entry entries key last last' _ ih =>
    have hentry (n : Nat) : AlikeButFeeds (entryText n (key, last)) (entryText n (key, last')) :=
      alike_entryText ih n
    cases entries with
    | nil =>
      rw [List.nil_append, List.nil_append, nodeChars_mapping_cons, nodeChars_mapping_cons]
      simp only [blockChars, partsChars, List.append_nil]
      exact (hentry _).append_left _
    | cons first rest =>
      rw [List.cons_append, List.cons_append, nodeChars_mapping_cons, nodeChars_mapping_cons]
      exact ((alike_partsChars (hentry _) _ _ rest).append_left _).append_left _
  | tagged tag _ ih =>
    rw [nodeChars_tagged, nodeChars_tagged]
    exact (ih indent .tagged).append_left _

/-! ### Whole texts -/

/-- What is printed is the node of the root and line feeds after it. -/
theorem exists_toList_render (d : Yaml) :
    ∃ k, d.render.toList = nodeChars none .root d ++ feeds k := by
  rw [render, String.toList_ofList, lineStart_eq, newLine]
  split
  · exact ⟨0, rfl⟩
  · exact ⟨1, rfl⟩

/-- The texts of two documents differ in line feeds at the end only exactly if the documents are
alike up to their last strings. -/
theorem alikeButFeeds_render (hd : d.Clear) (hd' : d'.Clear) :
    AlikeButFeeds d.render.toList d'.render.toList ↔ AlikeToEnd d d' := by
  obtain ⟨j, hj⟩ := exists_toList_render d
  obtain ⟨k, hk⟩ := exists_toList_render d'
  rw [hj, hk, AlikeButFeeds.append_feeds_iff]
  constructor
  · rintro ⟨m, n, h⟩
    obtain ⟨rfl, -⟩ | ⟨halike, -⟩ := unique_node d hd none .root hd' (.ends m) (.ends n) h
    · exact .refl d
    · exact halike
  · intro h
    exact h.nodeChars none .root

end BoundaryContract.Yaml
