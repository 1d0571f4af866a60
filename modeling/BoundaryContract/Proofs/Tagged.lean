import BoundaryContract.Format
import BoundaryContract.Proofs.Json.Closing
import BoundaryContract.Proofs.Json.Nesting
import BoundaryContract.Proofs.Marshal

/-!
# The tagged form of values is lossless

Reading the tagged JSON of a value gives back the value, with its fields in their order and equal
names kept, as long as the brackets of the text nest no deeper than a reader follows. A text that
nests deeper is refused for that reason and for no other, so it is never taken for another value.

A tagged struct has two entries, and a reader takes them in either order; where documents are built
by key they come sorted. `IsTagged` covers both.

The reader meets the containers of the text from the outside in. `Decoded` says what that means for
any part of a value: it is read if what it nests fits in what may still be opened, and refused
otherwise. One lemma adds a container around a part (`Decoded.enter`), another reads one part after
another (`Decoded.cons`), and the rest follows the constructors of a value.
-/

namespace BoundaryContract.Value

open Json (Tree Fault Closing Key)

/-! ### Tagged documents -/

/-- The entries of a struct's content, in either order. -/
def StructEntries (name : String) (items : List Json) (entries : List (String × Json)) : Prop :=
  entries = [("name", .string name), ("fields", .array items)] ∨
    entries = [("fields", .array items), ("name", .string name)]

mutual

/-- The JSON is a tagged form of the value. -/
inductive IsTagged : Json → Value → Prop
  | unit : IsTagged (.string "Unit") .unit
  | int32 {n : Int32} : IsTagged (.object [("Int32", .int n.toInt)]) (.int32 n)
  | bool {b : Bool} : IsTagged (.object [("Bool", .bool b)]) (.bool b)
  | string {s : String} : IsTagged (.object [("String", .string s)]) (.string s)
  | struct {name : String} {fields : List (String × Value)} {items : List Json}
    {entries : List (String × Json)} (hentries : StructEntries name items entries)
    (h : AreTagged items fields) :
    IsTagged (.object [("Struct", .object entries)]) (.struct name fields)

/-- The items are pairs of the names and the tagged forms of the fields. -/
inductive AreTagged : List Json → List (String × Value) → Prop
  | nil : AreTagged [] []
  | cons {name : String} {v : Value} {json : Json} {items : List Json}
    {fields : List (String × Value)} (h : IsTagged json v) (hrest : AreTagged items fields) :
    AreTagged (.array [.string name, json] :: items) ((name, v) :: fields)

end

mutual

/-- The tagged form that is written is a tagged form. -/
theorem isTagged_toTagged : ∀ v : Value, IsTagged v.toTagged v
  | .unit => .unit
  | .int32 _ => .int32
  | .bool _ => .bool
  | .string _ => .string
  | .struct _ fields => .struct (.inl rfl) (areTagged_fieldsToTagged fields)

/-- The fields are written as pairs of names and tagged forms. -/
theorem areTagged_fieldsToTagged : ∀ fields : List (String × Value),
    AreTagged (fieldsToTagged fields) fields
  | [] => .nil
  | (_, v) :: rest => .cons (isTagged_toTagged v) (areTagged_fieldsToTagged rest)

end

/-- Sorting a tagged struct moves the fields in front of the name. -/
theorem sorted_struct (name : String) (fields : List (String × Value)) :
    (toTagged (.struct name fields)).sorted =
      .object [("Struct", .object
        [("fields", .array (Json.sortedItems (fieldsToTagged fields))),
          ("name", .string name)])] := by
  have hlt : "fields" < "name" := by decide
  rw [toTagged]
  simp only [Json.sorted, Json.sortedEntries, Json.ofEntries, Json.sortEntries, List.foldl_cons,
    List.foldl_nil, Json.insertEntry, if_pos hlt]

mutual

/-- Sorted by key the tagged form of a value is a tagged form of it still. -/
theorem isTagged_sorted : ∀ v : Value, IsTagged v.toTagged.sorted v
  | .unit => .unit
  | .int32 _ => .int32
  | .bool _ => .bool
  | .string _ => .string
  | .struct name fields => by
    rw [sorted_struct]
    exact .struct (.inr rfl) (areTagged_sortedItems fields)

/-- Sorting keeps the fields in their order. -/
theorem areTagged_sortedItems : ∀ fields : List (String × Value),
    AreTagged (Json.sortedItems (fieldsToTagged fields)) fields
  | [] => .nil
  | (_, v) :: rest => .cons (isTagged_sorted v) (areTagged_sortedItems rest)

end

mutual

/-- What is sorted stays as it is. -/
theorem sorted_sorted_toTagged : ∀ v : Value, v.toTagged.sorted.sorted = v.toTagged.sorted
  | .unit | .int32 _ | .bool _ | .string _ => rfl
  | .struct name fields => by
    have hkeys : ["fields", "name"].Pairwise (· < ·) := by decide
    let content : List (String × Json) :=
      [("fields", .array (Json.sortedItems (fieldsToTagged fields))), ("name", .string name)]
    have hcontent : (Json.object content).sorted = .object content := by
      refine Json.sorted_object hkeys ?_
      simp only [content, Json.sortedEntries, Json.sorted, sortedItems_sortedItems fields]
    rw [sorted_struct]
    refine Json.sorted_object (List.pairwise_singleton _ _) ?_
    rw [Json.sortedEntries, hcontent, Json.sortedEntries]

/-- Fields that are sorted stay as they are. -/
theorem sortedItems_sortedItems : ∀ fields : List (String × Value),
    Json.sortedItems (Json.sortedItems (fieldsToTagged fields)) =
      Json.sortedItems (fieldsToTagged fields)
  | [] => rfl
  | (name, v) :: rest => by
    simp only [fieldsToTagged, Json.sortedItems, Json.sorted, sorted_sorted_toTagged v,
      sortedItems_sortedItems rest]

end

/-! ### What a reader makes of a part -/

/-- A part that nests `depth` containers is read as `x` where `d` more may be opened, or refused for
nesting too deep. -/
def Decoded {α : Type} (depth d : Nat) (r : Except Fault α) (x : α) : Prop :=
  (depth ≤ d ∧ r = .ok x) ∨ (d < depth ∧ ∃ fault, r = .error fault ∧ fault.cause = .tooDeep)

namespace Decoded

variable {α : Type} {m n d : Nat}

theorem of_ok (d : Nat) (x : α) : Decoded 0 d (.ok x) x := .inl ⟨Nat.zero_le d, rfl⟩

/-- Two parts, one after the other. -/
theorem cons {r : Except Fault α} {rs : Except Fault (List α)} {x : α} {xs : List α}
    (h : Decoded m d r x) (hs : Decoded n d rs xs) :
    Decoded (max m n) d (do return (← r) :: (← rs)) (x :: xs) := by
  obtain ⟨hle, rfl⟩ | ⟨hlt, fault, rfl, hcause⟩ := h
  · obtain ⟨hle', rfl⟩ | ⟨hlt', fault, rfl, hcause⟩ := hs
    · exact .inl ⟨Nat.max_le.mpr ⟨hle, hle'⟩, rfl⟩
    · exact .inr ⟨Nat.lt_of_lt_of_le hlt' (Nat.le_max_right _ _), fault, rfl, hcause⟩
  · exact .inr ⟨Nat.lt_of_lt_of_le hlt (Nat.le_max_left _ _), fault, rfl, hcause⟩

/-- A part inside a container: the container itself has to be one that may be opened. -/
theorem enter {r : Nat → Except Fault α} {x : α} {start : List Char}
    (hzero : r 0 = .error (Json.tooDeep start)) (hsucc : ∀ d, Decoded n d (r (d + 1)) x) (d : Nat) :
    Decoded (n + 1) d (r d) x := by
  cases d with
  | zero => exact .inr ⟨Nat.succ_pos n, _, hzero, rfl⟩
  | succ d =>
    obtain ⟨hle, hok⟩ | ⟨hlt, herror⟩ := hsucc d
    · exact .inl ⟨Nat.succ_le_succ hle, hok⟩
    · exact .inr ⟨Nat.succ_lt_succ hlt, herror⟩

end Decoded

/-! ### Scalars and tags -/

variable {tree : Tree} {d : Nat}

theorem asString_of_holds {s : String} (h : tree.Holds (.string s)) : tree.asString = .ok s := by
  cases h
  rfl

theorem asBool_of_holds {b : Bool} (h : tree.Holds (.bool b)) : tree.asBool = .ok b := by
  cases h
  rfl

/-- A tree of an integer of 32 bits is read as the integer. -/
theorem asInt32_of_holds {n : Int32} (h : tree.Holds (.int n.toInt)) : tree.asInt32 = .ok n := by
  cases h with
  | number hvalue =>
    have hrange : Int32.minValue.toInt ≤ n.toInt ∧ n.toInt ≤ Int32.maxValue.toInt :=
      ⟨n.minValue_le_toInt, n.toInt_le⟩
    simp only [Tree.asInt32, hvalue, bind, Except.bind, if_pos hrange, Int32.ofInt_toInt]
    rfl

/-- Of an object with one entry, whose key is a tag, it is the content that counts. -/
theorem asVariant_single {α : Type} {names : List String} {bare : String → Except Fault α}
    {carrying : String → Tree → Except Fault α} {key : Key} {content : Tree} {tag : String}
    {stop start : List Char} (hkey : key.content = .ok tag) (htag : names.contains tag)
    (hsnug : (Tree.object [(key, content)] (.closed stop) start).Snug) :
    (Tree.object [(key, content)] (.closed stop) start).asVariant names bare carrying =
      carrying tag content := by
  have hclose : Json.skipBlanks (content.stop?.getD []) = '\x7d' :: stop := by
    obtain ⟨-, -, hlast⟩ := hsnug
    exact hlast rfl stop rfl
  simp only [Tree.asVariant, hkey, bind, Except.bind, htag, if_true]
  cases carrying tag content with
  | error fault => rfl
  | ok x =>
    dsimp only
    rw [hclose]
    rfl

/-- A value that is tagged is read from its content, inside one more container. -/
theorem decoded_tagged {tag : String} {json : Json} {n : Nat} {v : Value}
    (htag : tags.contains tag) (h : tree.Holds (.object [(tag, json)])) (hsnug : tree.Snug)
    (hcontent : ∀ (content : Tree) (d : Nat), content.Holds json → content.Snug →
      Decoded n d (contentOfTree d content tag) v) :
    Decoded (n + 1) d (ofTree d tree) v := by
  cases h with
  | object hentries =>
    rcases hentries with _ | ⟨hkey, hvalue, hnil⟩
    cases hnil
    have hcontent' := hsnug.1
    refine Decoded.enter (r := fun d => ofTree d _) rfl (fun d => ?_) d
    rw [ofTree, asVariant_single hkey htag hsnug]
    exact hcontent _ d hvalue hcontent'

/-! ### Structs -/

/-- A pair of a name and a value. -/
theorem decoded_fieldOfTree {name : String} {v : Value} {json : Json} {n : Nat}
    (h : tree.Holds (.array [.string name, json])) (hsnug : tree.Snug)
    (hvalue : ∀ (value : Tree) (d : Nat), value.Holds json → value.Snug →
      Decoded n d (ofTree d value) v) :
    Decoded (n + 1) d (fieldOfTree d tree) (name, v) := by
  cases h with
  | array hitems =>
    rcases hitems with _ | ⟨hname, hrest⟩
    rcases hrest with _ | ⟨hcontent, hnil⟩
    cases hnil
    obtain ⟨-, ⟨hsnug, -, hlast⟩, -⟩ := hsnug
    have hclose := hlast rfl _ rfl
    refine Decoded.enter (r := fun d => fieldOfTree d _) rfl (fun d => ?_) d
    rw [fieldOfTree]
    dsimp only
    rw [asString_of_holds hname]
    obtain ⟨hle, hok⟩ | ⟨hlt, fault, herror, hcause⟩ := hvalue _ d hcontent hsnug
    · refine .inl ⟨hle, ?_⟩
      simp only [bind, Except.bind, hok, Tree.overlongFault?, hclose]
      rfl
    · -- the fault is moved to the end of the pair, its cause stays
      refine .inr ⟨hlt, ?_⟩
      simp only [bind, Except.bind, herror]
      exact ⟨_, rfl, hcause⟩

/-- The list of a struct's fields. -/
theorem decoded_fieldsOfTree {fields : List (String × Value)} {items : List Json} {n : Nat}
    (h : tree.Holds (.array items)) (hsnug : tree.Snug)
    (hfields : ∀ (closing : Closing) (trees : List Tree) (d : Nat), Tree.ItemsHold trees items →
      Tree.SnugItems closing trees → Decoded n d (fieldsOfItems d trees) fields) :
    Decoded (n + 1) d (fieldsOfTree d tree) fields := by
  cases h with
  | array hitems =>
    refine Decoded.enter (r := fun d => fieldsOfTree d _) rfl (fun d => ?_) d
    rw [fieldsOfTree]
    obtain ⟨hle, hok⟩ | ⟨hlt, fault, herror, hcause⟩ := hfields _ _ d hitems hsnug
    · exact .inl ⟨hle, by rw [hok]; rfl⟩
    · exact .inr ⟨hlt, fault, by rw [herror]; rfl, hcause⟩

/-- Whichever entry of a struct comes first, its content is the name and what its fields are read
as. -/
theorem exists_structOfEntries {name : String} {items : List Json}
    {entries : List (String × Json)} {trees : List (Key × Tree)} {closing : Closing}
    (hstruct : StructEntries name items entries) (h : Tree.EntriesHold trees entries)
    (hsnug : Tree.SnugEntries closing trees) :
    ∃ list : Tree, list.Holds (.array items) ∧ list.Snug ∧ ∀ d,
      structOfEntries d ⟨none, none⟩ trees =
        (fieldsOfTree d list).map fun fields => ⟨some name, some fields⟩ := by
  have hne : ¬("fields" = "name") := by decide
  obtain rfl | rfl := hstruct
  · rcases h with _ | ⟨hkey, hname, hrest⟩
    rcases hrest with _ | ⟨hkey', hlist, hnil⟩
    cases hnil
    obtain ⟨-, ⟨hsnug, -⟩, -⟩ := hsnug
    refine ⟨_, hlist, hsnug, fun d => ?_⟩
    simp only [structOfEntries, hkey, hkey', asString_of_holds hname, bind, Except.bind, if_true,
      if_neg hne]
    rfl
  · rcases h with _ | ⟨hkey, hlist, hrest⟩
    rcases hrest with _ | ⟨hkey', hname, hnil⟩
    cases hnil
    obtain ⟨hsnug, -⟩ := hsnug
    refine ⟨_, hlist, hsnug, fun d => ?_⟩
    simp only [structOfEntries, hkey, hkey', asString_of_holds hname, bind, Except.bind, if_true,
      if_neg hne]
    rfl

/-- The content of a struct: its name, and its fields two containers further in. -/
theorem decoded_struct {name : String} {fields : List (String × Value)} {items : List Json}
    {entries : List (String × Json)} {n : Nat} (hstruct : StructEntries name items entries)
    (h : tree.Holds (.object entries)) (hsnug : tree.Snug)
    (hfields : ∀ (closing : Closing) (trees : List Tree) (d : Nat), Tree.ItemsHold trees items →
      Tree.SnugItems closing trees → Decoded n d (fieldsOfItems d trees) fields) :
    Decoded (n + 1 + 1) d (contentOfTree d tree "Struct") (.struct name fields) := by
  cases h with
  | object hentries =>
    obtain ⟨list, hlist, hsnug, hcontent⟩ := exists_structOfEntries hstruct hentries hsnug
    refine Decoded.enter (r := fun d => contentOfTree d _ "Struct") rfl (fun d => ?_) d
    rw [contentOfTree]
    · simp only [hcontent, bind, Except.bind]
      obtain ⟨hle, hok⟩ | ⟨hlt, fault, herror, hcause⟩ :=
        decoded_fieldsOfTree (d := d) hlist hsnug hfields
      · exact .inl ⟨hle, by rw [hok]; rfl⟩
      · exact .inr ⟨hlt, fault, by rw [herror]; rfl, hcause⟩
    all_goals decide

/-! ### Values -/

mutual

/-- All numbers of a tagged value are integers of 32 bits. -/
theorem IsTagged.integral {json : Json} {v : Value} (h : IsTagged json v) : json.Integral := by
  cases h with
  | unit => exact trivial
  | @int32 n => exact ⟨Json.fits64_toInt n, trivial⟩
  | bool | string => exact ⟨trivial, trivial⟩
  | struct hentries h =>
    obtain rfl | rfl := hentries
    · exact ⟨⟨trivial, h.integralItems, trivial⟩, trivial⟩
    · exact ⟨⟨h.integralItems, trivial, trivial⟩, trivial⟩

theorem AreTagged.integralItems {items : List Json} {fields : List (String × Value)}
    (h : AreTagged items fields) : Json.IntegralItems items := by
  cases h with
  | nil => exact trivial
  | cons h hrest => exact ⟨⟨trivial, h.integral, trivial⟩, hrest.integralItems⟩

end

/-- Tagged forms hold no doubles, so their texts are read back. -/
theorem integral_toTagged (v : Value) : v.toTagged.Integral := (isTagged_toTagged v).integral

/-- A struct nests its fields in three containers. -/
theorem depth_struct {name : String} {items : List Json} {entries : List (String × Json)}
    (h : StructEntries name items entries) :
    (Json.object [("Struct", .object entries)]).depth = Json.depthItems items + 1 + 1 + 1 := by
  obtain rfl | rfl := h <;> simp [Json.depth, Json.depthEntries]

mutual

/-- The tree of a tagged value is read as the value, unless it nests too deep. -/
theorem IsTagged.decoded {json : Json} {v : Value} (h : IsTagged json v) (tree : Tree) (d : Nat)
    (hholds : tree.Holds json) (hsnug : tree.Snug) : Decoded json.depth d (ofTree d tree) v := by
  cases h with
  | unit =>
    cases hholds
    exact .of_ok d _
  | int32 =>
    refine decoded_tagged (by decide) hholds hsnug fun content d hcontent _ => ?_
    rw [contentOfTree, asInt32_of_holds hcontent]
    exact .of_ok d _
  | bool =>
    refine decoded_tagged (by decide) hholds hsnug fun content d hcontent _ => ?_
    rw [contentOfTree, asBool_of_holds hcontent]
    exact .of_ok d _
  | string =>
    refine decoded_tagged (by decide) hholds hsnug fun content d hcontent _ => ?_
    rw [contentOfTree, asString_of_holds hcontent]
    exact .of_ok d _
  | struct hentries h =>
    rw [depth_struct hentries]
    exact decoded_tagged (by decide) hholds hsnug fun content d hcontent hsnug =>
      decoded_struct hentries hcontent hsnug h.decodedItems

/-- The fields are read pair by pair, each within two containers. -/
theorem AreTagged.decodedItems {items : List Json} {fields : List (String × Value)}
    (h : AreTagged items fields) (closing : Closing) (trees : List Tree) (d : Nat)
    (hholds : Tree.ItemsHold trees items) (hsnug : Tree.SnugItems closing trees) :
    Decoded (Json.depthItems items) d (fieldsOfItems d trees) fields := by
  cases h with
  | nil =>
    cases hholds
    exact .of_ok d _
  | @cons name v json items fields h hrest =>
    have hdepth : (Json.array [.string name, json]).depth = json.depth + 1 := by
      simp [Json.depth, Json.depthItems]
    rcases hholds with _ | ⟨hitem, hitems⟩
    obtain ⟨hsnug, hsnugs, -⟩ := hsnug
    rw [fieldsOfItems, Json.depthItems, hdepth]
    exact (decoded_fieldOfTree hitem hsnug h.decoded).cons
      (hrest.decodedItems closing _ d hitems hsnugs)

end

/-! ### Texts -/

/-- A text is read as a value, or it nests too deep and is refused for that. -/
def ReadsUnlessDeep (text : String) (v : Value) : Prop :=
  (Json.nesting text ≤ Json.maxDepth ∧ readTagged text = .ok v) ∨
    (Json.maxDepth < Json.nesting text ∧
      ∃ e, readTagged text = .error (.json e) ∧ e.cause = .tooDeep)

/-- A tagged form of a value, printed in any layout. -/
theorem IsTagged.readsUnlessDeep {json : Json} {v : Value} (h : IsTagged json v)
    (L : Json.Layout) : ReadsUnlessDeep (String.ofList (L.chars 0 json)) v := by
  obtain ⟨hholds, hstop⟩ := L.parse_chars h.integral
  rw [ReadsUnlessDeep, Json.nesting_chars L h.integral, readTagged, Json.decodeText,
    String.toList_ofList]
  obtain ⟨hle, hok⟩ | ⟨hlt, fault, herror, hcause⟩ :=
    h.decoded _ Json.maxDepth hholds (Tree.snug_parse _)
  · refine .inl ⟨hle, ?_⟩
    rw [hok, hstop]
    rfl
  · refine .inr ⟨hlt, fault.toError (L.chars 0 json), ?_, hcause⟩
    rw [herror]

/-- The tagged form is read from its text in every layout. -/
theorem readsUnlessDeep_chars (L : Json.Layout) (v : Value) :
    ReadsUnlessDeep (String.ofList (L.chars 0 v.toTagged)) v :=
  (isTagged_toTagged v).readsUnlessDeep L

/-- The tagged form of a value loses nothing, whether it is printed compactly or over several lines:
the text is read back as exactly the value, or else its brackets nest too deep and it is refused for
that reason. -/
theorem readTagged_render (v : Value) :
    ReadsUnlessDeep (Format.json.render (.ofValue v)) v ∧
      ReadsUnlessDeep (Format.jsonPretty.render (.ofValue v)) v := by
  constructor
  · show ReadsUnlessDeep (String.ofList (Json.compactChars v.toTagged)) v
    rw [Json.compactChars_eq 0]
    exact readsUnlessDeep_chars _ v
  · show ReadsUnlessDeep (String.ofList (Json.prettyChars 0 v.toTagged)) v
    rw [Json.prettyChars_eq]
    exact readsUnlessDeep_chars _ v

end BoundaryContract.Value
