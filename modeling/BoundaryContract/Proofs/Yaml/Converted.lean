import BoundaryContract.Proofs.Json.Unambiguous
import BoundaryContract.Proofs.Yaml.NodeText
import BoundaryContract.Proofs.Yaml.NumberText

/-!
# Values as YAML documents

JSON values without doubles and values with their kinds as tags become documents that are told apart
by their text (`clear_ofJson`, `clear_ofValue`). Different values become different documents, and
documents that are alike up to their last string come from values that are: the conversion is
`Faithful`, member by member (`Faithful.map`). So the documents are alike exactly if the values are
(`alikeToEnd_ofJson_iff`, `alikeToEnd_ofValue_iff`).
-/

namespace BoundaryContract

open Yaml (AlikeStrings)

/-! ### Values that are alike -/

/-- The values are the same up to their last string, which keeps the breaks it ends in where it is
written in a block, and differs in the number of line feeds there. -/
inductive Json.AlikeToEnd : Json → Json → Prop
  | refl (json : Json) : AlikeToEnd json json
  | string {s t : String} (h : AlikeStrings s t) : AlikeToEnd (.string s) (.string t)
  | item (items : List Json) {last last' : Json} (h : AlikeToEnd last last') :
    AlikeToEnd (.array (items ++ [last])) (.array (items ++ [last']))
  | entry (entries : List (String × Json)) (key : String) {last last' : Json}
    (h : AlikeToEnd last last') :
    AlikeToEnd (.object (entries ++ [(key, last)])) (.object (entries ++ [(key, last')]))

/-- The values are the same up to the string in the last place, which keeps the breaks it ends in
where it is written in a block, and differs in the number of line feeds there. -/
inductive Value.AlikeToEnd : Value → Value → Prop
  | refl (v : Value) : AlikeToEnd v v
  | string {s t : String} (h : AlikeStrings s t) : AlikeToEnd (.string s) (.string t)
  | field (name : String) (fields : List (String × Value)) (key : String) {last last' : Value}
    (h : AlikeToEnd last last') :
    AlikeToEnd (.struct name (fields ++ [(key, last)])) (.struct name (fields ++ [(key, last')]))

namespace Yaml

/-! ### Documents in question -/

theorem clear_null : (Yaml.plain "null").Clear := ⟨⟨by decide, by decide⟩, by decide⟩

theorem clear_bool (b : Bool) : (Yaml.plain (if b then "true" else "false")).Clear := by
  cases b
  · exact ⟨⟨by decide, by decide⟩, by decide⟩
  · exact ⟨⟨by decide, by decide⟩, by decide⟩

/-- A number that fits into 64 bits stands plainly and is not read as a string. -/
theorem clear_int {z : Int} (hz : Json.Fits64 z) :
    (Yaml.plain (String.ofList (Json.intChars z))).Clear := by
  refine ⟨?_, isMistakable_intChars hz⟩
  rw [String.toList_ofList]
  exact allowsPlain_intChars z

mutual

/-- The document of a JSON value without doubles is one of those in question. -/
theorem clear_ofJson : ∀ json : Json, json.Integral → (ofJson json).Clear
  | .null, _ => clear_null
  | .bool b, _ => clear_bool b
  | .number (.int _), hz => clear_int hz
  | .string _, _ => trivial
  | .array items, h => clear_ofItems items h
  | .object entries, h => clear_ofEntries entries h

theorem clear_ofItems : ∀ items : List Json, Json.IntegralItems items → ClearItems (ofItems items)
  | [], _ => trivial
  | item :: rest, h => ⟨clear_ofJson item h.1, clear_ofItems rest h.2⟩

theorem clear_ofEntries : ∀ entries : List (String × Json), Json.IntegralEntries entries →
    ClearEntries (ofEntries entries)
  | [], _ => trivial
  | (_, value) :: rest, h => ⟨clear_ofJson value h.1, clear_ofEntries rest h.2⟩

end

/-- A tag without gaps may stand before a document in question. -/
theorem clear_tagged {tag : String} {content : Yaml}
    (htag : tag.toList.all (fun ch => !isGap ch) = true) (hcontent : content.Clear) :
    (Yaml.tagged tag content).Clear := by
  refine ⟨?_, hcontent⟩
  intro ch hch
  have hgap := List.all_eq_true.mp htag ch hch
  rwa [Bool.not_eq_true'] at hgap

mutual

/-- The document of a marshaled value is one of those in question. -/
theorem clear_ofValue : ∀ v : Value, (ofValue v).Clear
  | .unit => trivial
  | .int32 n => by
    refine clear_tagged (by decide) ?_
    rw [Value.int32Text_eq]
    exact clear_int (Json.fits64_toInt n)
  | .bool b => clear_tagged (by decide) (clear_bool b)
  | .string _ => clear_tagged (by decide) trivial
  | .struct _ fields => clear_tagged (by decide) ⟨trivial, clear_ofFields fields, trivial⟩

theorem clear_ofFields : ∀ fields : List (String × Value), ClearItems (ofFields fields)
  | [] => trivial
  | (_, value) :: rest => ⟨⟨trivial, clear_ofValue value, trivial⟩, clear_ofFields rest⟩

end

/-! ### What documents that are alike have in common -/

section Inversion

variable {d content : Yaml} {text tag s : String} {items : List Yaml}
  {entries : List (String × Yaml)}

/-- A text that stands as it is is alike to nothing else. -/
theorem AlikeToEnd.of_plain (h : AlikeToEnd (.plain text) d) : d = .plain text := by
  cases h
  rfl

theorem AlikeToEnd.of_string (h : AlikeToEnd (.string s) d) :
    ∃ t, d = .string t ∧ (s = t ∨ AlikeStrings s t) := by
  cases h with
  | refl => exact ⟨s, rfl, .inl rfl⟩
  | string h => exact ⟨_, rfl, .inr h⟩

theorem AlikeToEnd.of_sequence (h : AlikeToEnd (.sequence items) d) :
    ∃ items', d = .sequence items' ∧ (items = items' ∨ AlikeLast AlikeToEnd items items') := by
  cases h with
  | refl => exact ⟨items, rfl, .inl rfl⟩
  | item init h => exact ⟨_, rfl, .inr ⟨init, _, _, rfl, rfl, h⟩⟩

/-- A mapping is alike to mappings only, and differs in the last entry. -/
theorem AlikeToEnd.of_mapping (h : AlikeToEnd (.mapping entries) d) :
    ∃ entries', d = .mapping entries' ∧
      (entries = entries' ∨ AlikeLast (AlikeMembers AlikeToEnd) entries entries') := by
  cases h with
  | refl => exact ⟨entries, rfl, .inl rfl⟩
  | entry init key h => exact ⟨_, rfl, .inr ⟨init, _, _, rfl, rfl, rfl, h⟩⟩

theorem AlikeToEnd.of_tagged (h : AlikeToEnd (.tagged tag content) d) :
    ∃ content', d = .tagged tag content' ∧ AlikeToEnd content content' := by
  cases h with
  | refl => exact ⟨content, rfl, .refl content⟩
  | tagged _ h => exact ⟨_, rfl, h⟩

end Inversion

/-- Sequences of two items differ in the second at most. -/
theorem AlikeToEnd.of_two_items {x y x' y' : Yaml}
    (h : AlikeToEnd (.sequence [x, y]) (.sequence [x', y'])) : x = x' ∧ AlikeToEnd y y' := by
  obtain ⟨items', hitems, hsame | halike⟩ := h.of_sequence
  · cases hitems
    cases hsame
    exact ⟨rfl, .refl y⟩
  · cases hitems
    exact halike.pair

/-- Mappings of two entries differ in the second at most. -/
theorem AlikeToEnd.of_two_entries {key key' : String} {x y x' y' : Yaml}
    (h : AlikeToEnd (.mapping [(key, x), (key', y)]) (.mapping [(key, x'), (key', y')])) :
    x = x' ∧ AlikeToEnd y y' := by
  obtain ⟨entries', hentries, hsame | halike⟩ := h.of_mapping
  · cases hentries
    cases hsame
    exact ⟨rfl, .refl y⟩
  · cases hentries
    obtain ⟨hx, -, hy⟩ := halike.pair
    exact ⟨(Prod.mk.inj hx).2, hy⟩

/-! ### Faithful conversions -/

/-- What becomes of `x` tells it from the good values, and if what becomes of one of them is alike,
then it is alike itself. -/
structure Faithful {α β : Type} (f : α → β) (alike : α → α → Prop) (alike' : β → β → Prop)
    (good : α → Prop) (x : α) : Prop where
  eq {y : α} (hy : good y) (h : f x = f y) : x = y
  alike {y : α} (hy : good y) (h : alike' (f x) (f y)) : alike x y

section Faithful

variable {α β : Type} {f : α → β} {alike : α → α → Prop} {alike' : β → β → Prop}
  {good : α → Prop} {xs ys : List α}

/-- Lists with one image are the same if the conversion is faithful for each member. -/
theorem Faithful.eq_of_map (h : ∀ x ∈ xs, Faithful f alike alike' good x) (hys : ∀ y ∈ ys, good y)
    (heq : xs.map f = ys.map f) : xs = ys := by
  induction xs generalizing ys with
  | nil => exact (List.map_eq_nil_iff.mp heq.symm).symm
  | cons x xs ih =>
    obtain ⟨y, ys, rfl, hxy, hrest⟩ := List.map_eq_cons_iff.mp heq.symm
    obtain ⟨hx, hxs⟩ := List.forall_mem_cons.mp h
    obtain ⟨hy, hys⟩ := List.forall_mem_cons.mp hys
    rw [hx.eq hy hxy.symm, ih hxs hys hrest.symm]

/-- A conversion of members that is faithful is so for lists. -/
theorem Faithful.map (h : ∀ x ∈ xs, Faithful f alike alike' good x) :
    Faithful (List.map f) (AlikeLast alike) (AlikeLast alike') (fun ys => ∀ y ∈ ys, good y) xs where
  eq hys heq := eq_of_map h hys heq
  alike {ys} hys := by
    rintro ⟨init, b, b', hxs, hys', hb⟩
    obtain ⟨xs, last, rfl, rfl, hlast⟩ := List.map_eq_append_iff.mp hxs
    obtain ⟨x, rfl, rfl⟩ := List.map_eq_singleton_iff.mp hlast
    obtain ⟨ys, last', rfl, hinit, hlast'⟩ := List.map_eq_append_iff.mp hys'
    obtain ⟨y, rfl, rfl⟩ := List.map_eq_singleton_iff.mp hlast'
    obtain ⟨hxs, hx⟩ := List.forall_mem_append.mp h
    obtain ⟨hys, hy⟩ := List.forall_mem_append.mp hys
    -- what becomes of the members before the last is the same
    obtain rfl := eq_of_map hxs hys hinit.symm
    have hxy := (hx x (List.mem_singleton_self x)).alike (hy y (List.mem_singleton_self y)) hb
    exact ⟨xs, x, y, rfl, rfl, hxy⟩

end Faithful

/-! ### JSON values -/

theorem ofItems_eq_map (items : List Json) : ofItems items = items.map ofJson := by
  induction items with
  | nil => rfl
  | cons item rest ih => rw [ofItems, ih, List.map_cons]

theorem ofEntries_eq_map (entries : List (String × Json)) :
    ofEntries entries = entries.map (Prod.map id ofJson) := by
  induction entries with
  | nil => rfl
  | cons entry rest ih => rw [ofEntries, ih, List.map_cons, Prod.map, id]

theorem integral_of_mem {items : List Json} (h : Json.IntegralItems items) :
    ∀ item ∈ items, item.Integral := by
  induction items with
  | nil => exact List.forall_mem_nil _
  | cons item rest ih => exact List.forall_mem_cons.mpr ⟨h.1, ih h.2⟩

theorem integral_value_of_mem {entries : List (String × Json)} (h : Json.IntegralEntries entries) :
    ∀ entry ∈ entries, entry.2.Integral := by
  induction entries with
  | nil => exact List.forall_mem_nil _
  | cons entry rest ih => exact List.forall_mem_cons.mpr ⟨h.1, ih h.2⟩

/-- The JSON value is told from every other by its document. -/
def FaithfulJson : Json → Prop := Faithful ofJson Json.AlikeToEnd AlikeToEnd Json.Integral

variable {json json' : Json}

/-- What stands as it is in YAML text is the JSON text of the value. -/
theorem chars_of_ofJson {text : String} (h : json.Integral) (hplain : ofJson json = .plain text) :
    Json.Layout.compact.chars 0 json = text.toList := by
  cases json with
  | null =>
    cases hplain
    rfl
  | bool b =>
    cases hplain
    cases b <;> rfl
  | number n =>
    cases n with
    | int z =>
      cases hplain
      exact String.toList_ofList.symm
    | float x => exact h.elim
  | string | array | object => cases hplain

/-- A value that stands as it is is told from every other by its text. -/
theorem faithful_of_plain {text : String} (h : json.Integral) (hplain : ofJson json = .plain text) :
    FaithfulJson json := by
  have heq {json' : Json} (h' : json'.Integral) (hplain' : ofJson json' = .plain text) :
      json = json' := by
    refine Json.Layout.compact.chars_inj h h' ?_
    rw [chars_of_ofJson h hplain, chars_of_ofJson h' hplain']
  constructor
  · intro json' h' hsame
    exact heq h' (hsame.symm.trans hplain)
  · intro json' h' halike
    rw [hplain] at halike
    obtain rfl := heq h' halike.of_plain
    exact .refl json

/-- A string is told from every other value by its document. -/
theorem faithful_string (s : String) : FaithfulJson (.string s) := by
  have hstring {json' : Json} {t : String} (h : ofJson json' = .string t) : json' = .string t := by
    cases json' with
    | string t' =>
      cases h
      rfl
    | null | bool | number | array | object => cases h
  constructor
  · intro json' _ hsame
    exact (hstring hsame.symm).symm
  · intro json' _ halike
    obtain ⟨t, ht, rfl | hst⟩ := AlikeToEnd.of_string halike
    · rw [hstring ht]
      exact .refl _
    · rw [hstring ht]
      exact .string hst

/-- An array is told from every other value if its items are. -/
theorem faithful_array {items : List Json} (h : ∀ item ∈ items, FaithfulJson item) :
    FaithfulJson (.array items) := by
  have hitems := Faithful.map h
  have harray {json' : Json} {docs : List Yaml} (h' : ofJson json' = .sequence docs) :
      ∃ items', json' = .array items' ∧ docs = items'.map ofJson := by
    cases json' with
    | array items' =>
      cases h'
      exact ⟨items', rfl, ofItems_eq_map items'⟩
    | null | bool | number | string | object => cases h'
  constructor
  · intro json' h' hsame
    obtain ⟨items', rfl, hdocs⟩ := harray hsame.symm
    rw [ofItems_eq_map] at hdocs
    rw [hitems.eq (integral_of_mem h') hdocs]
  · intro json' h' halike
    rw [ofJson, ofItems_eq_map] at halike
    obtain ⟨docs, hdocs, halike⟩ := halike.of_sequence
    obtain ⟨items', rfl, rfl⟩ := harray hdocs
    obtain hsame | halike := halike
    · rw [hitems.eq (integral_of_mem h') hsame]
      exact .refl _
    · obtain ⟨init, last, last', rfl, rfl, hlast⟩ := hitems.alike (integral_of_mem h') halike
      exact .item init hlast

/-- An object is told from every other value if the values in it are. -/
theorem faithful_object {entries : List (String × Json)}
    (h : ∀ entry ∈ entries, FaithfulJson entry.2) : FaithfulJson (.object entries) := by
  -- an entry keeps its key, so it is told apart by its value
  have hentry : ∀ entry ∈ entries, Faithful (Prod.map id ofJson) (AlikeMembers Json.AlikeToEnd)
      (AlikeMembers AlikeToEnd) (fun e => e.2.Integral) entry := by
    rintro ⟨key, value⟩ hmem
    have hvalue : FaithfulJson value := h _ hmem
    constructor
    · rintro ⟨key', value'⟩ h' hsame
      obtain ⟨hkey, hsame⟩ := Prod.mk.inj hsame
      rw [show key = key' from hkey, hvalue.eq h' hsame]
    · rintro ⟨key', value'⟩ h' ⟨hkey, halike⟩
      exact ⟨hkey, hvalue.alike h' halike⟩
  have hentries := Faithful.map hentry
  have hobject {json' : Json} {docs : List (String × Yaml)} (h' : ofJson json' = .mapping docs) :
      ∃ entries', json' = .object entries' ∧ docs = entries'.map (Prod.map id ofJson) := by
    cases json' with
    | object entries' =>
      cases h'
      exact ⟨entries', rfl, ofEntries_eq_map entries'⟩
    | null | bool | number | string | array => cases h'
  constructor
  · intro json' h' hsame
    obtain ⟨entries', rfl, hdocs⟩ := hobject hsame.symm
    rw [ofEntries_eq_map] at hdocs
    rw [hentries.eq (integral_value_of_mem h') hdocs]
  · intro json' h' halike
    rw [ofJson, ofEntries_eq_map] at halike
    obtain ⟨docs, hdocs, halike⟩ := halike.of_mapping
    obtain ⟨entries', rfl, rfl⟩ := hobject hdocs
    obtain hsame | halike := halike
    · rw [hentries.eq (integral_value_of_mem h') hsame]
      exact .refl _
    · obtain ⟨init, ⟨key, last⟩, ⟨key', last'⟩, rfl, rfl, rfl, hlast⟩ :=
        hentries.alike (integral_value_of_mem h') halike
      exact .entry init key hlast

mutual

/-- JSON values are told apart by their documents. -/
theorem faithful_ofJson : ∀ json : Json, json.Integral → FaithfulJson json
  | .null, h => faithful_of_plain h rfl
  | .bool _, h => faithful_of_plain h rfl
  | .number _, h => faithful_of_plain h rfl
  | .string s, _ => faithful_string s
  | .array items, h => faithful_array (faithful_items items h)
  | .object entries, h => faithful_object (faithful_values entries h)

theorem faithful_items : ∀ items : List Json, Json.IntegralItems items →
    ∀ item ∈ items, FaithfulJson item
  | [], _ => List.forall_mem_nil _
  | item :: rest, h => List.forall_mem_cons.mpr ⟨faithful_ofJson item h.1, faithful_items rest h.2⟩

theorem faithful_values : ∀ entries : List (String × Json), Json.IntegralEntries entries →
    ∀ entry ∈ entries, FaithfulJson entry.2
  | [], _ => List.forall_mem_nil _
  | (_, value) :: rest, h =>
    List.forall_mem_cons.mpr ⟨faithful_ofJson value h.1, faithful_values rest h.2⟩

end

/-- The documents of values are alike exactly if the values are. -/
theorem alikeToEnd_ofJson_iff (h : json.Integral) (h' : json'.Integral) :
    AlikeToEnd (ofJson json) (ofJson json') ↔ json.AlikeToEnd json' := by
  constructor
  · exact (faithful_ofJson json h).alike h'
  · intro halike
    clear h h'
    induction halike with
    | refl json => exact .refl _
    | string h => exact .string h
    | item items _ ih =>
      rw [ofJson, ofJson, ofItems_eq_map, ofItems_eq_map, List.map_append, List.map_append]
      exact .item _ ih
    | entry entries key _ ih =>
      rw [ofJson, ofJson, ofEntries_eq_map, ofEntries_eq_map, List.map_append, List.map_append]
      exact .entry _ key ih

/-! ### Values with their kinds -/

/-- The pair that a field becomes. -/
def ofField (field : String × Value) : Yaml := .sequence [.string field.1, ofValue field.2]

theorem ofFields_eq_map (fields : List (String × Value)) :
    ofFields fields = fields.map ofField := by
  induction fields with
  | nil => rfl
  | cons field rest ih => rw [ofFields, ih, List.map_cons, ofField]

/-- The value is told from every other by its document. -/
def FaithfulValue : Value → Prop := Faithful ofValue Value.AlikeToEnd AlikeToEnd fun _ => True

variable {v v' : Value}

/-- A value is told from every other if its document is alike to no other. -/
theorem faithful_of_alone (h : ∀ v', AlikeToEnd (ofValue v) (ofValue v') → v = v') :
    FaithfulValue v := by
  constructor
  · intro v' _ hsame
    refine h v' ?_
    rw [hsame]
    exact .refl _
  · intro v' _ halike
    obtain rfl := h v' halike
    exact .refl v

/-- The unit value is told from every other by its tag. -/
theorem faithful_unit : FaithfulValue .unit := by
  refine faithful_of_alone fun v' halike => ?_
  obtain ⟨t, ht, -⟩ := AlikeToEnd.of_string halike
  cases v' with
  | unit => rfl
  | int32 | bool | string | struct => cases ht

/-- A number is told from every other value by its tag and its digits. -/
theorem faithful_int32 (n : Int32) : FaithfulValue (.int32 n) := by
  refine faithful_of_alone fun v' halike => ?_
  obtain ⟨content, hcontent, halike⟩ := AlikeToEnd.of_tagged halike
  cases v' with
  | int32 n' =>
    obtain ⟨-, rfl⟩ := tagged.inj hcontent
    rw [Value.int32Text_inj (plain.inj halike.of_plain)]
  | unit | bool | string | struct => simp [ofValue] at hcontent

/-- A boolean is told from every other value by its tag and its word. -/
theorem faithful_bool (b : Bool) : FaithfulValue (.bool b) := by
  refine faithful_of_alone fun v' halike => ?_
  obtain ⟨content, hcontent, halike⟩ := AlikeToEnd.of_tagged halike
  cases v' with
  | bool b' =>
    obtain ⟨-, rfl⟩ := tagged.inj hcontent
    have htext := plain.inj halike.of_plain
    cases b <;> cases b' <;> simp_all
  | unit | int32 | string | struct => simp [ofValue] at hcontent

/-- A string is told from every other value by its tag and its content. -/
theorem faithful_taggedString (s : String) : FaithfulValue (.string s) := by
  have hstring {v' : Value} {content : Yaml} (h : ofValue v' = .tagged "String" content) :
      ∃ t, v' = .string t ∧ content = .string t := by
    cases v' with
    | string t =>
      obtain ⟨-, hcontent⟩ := tagged.inj h
      exact ⟨t, rfl, hcontent.symm⟩
    | unit | int32 | bool | struct => simp [ofValue] at h
  constructor
  · intro v' _ hsame
    obtain ⟨t, rfl, ht⟩ := hstring hsame.symm
    rw [string.inj ht]
  · intro v' _ halike
    obtain ⟨content, hcontent, halike⟩ := AlikeToEnd.of_tagged halike
    obtain ⟨t, rfl, rfl⟩ := hstring hcontent
    obtain ⟨t', ht', rfl | hst⟩ := halike.of_string
    · rw [string.inj ht']
      exact .refl _
    · rw [string.inj ht']
      exact .string hst

/-- A field is told from every other by its name and its value. -/
theorem faithful_ofField {field : String × Value} (h : FaithfulValue field.2) :
    Faithful ofField (AlikeMembers Value.AlikeToEnd) AlikeToEnd (fun _ => True) field := by
  obtain ⟨name, value⟩ := field
  constructor
  · rintro ⟨name', value'⟩ - hsame
    simp only [ofField, sequence.injEq, List.cons.injEq, string.injEq, and_true] at hsame
    obtain ⟨rfl, hvalue⟩ := hsame
    obtain rfl := h.eq trivial hvalue
    rfl
  · rintro ⟨name', value'⟩ - halike
    obtain ⟨hname, hvalue⟩ := AlikeToEnd.of_two_items halike
    exact ⟨string.inj hname, h.alike trivial hvalue⟩

/-- A struct is told from every other value if the values of its fields are. -/
theorem faithful_struct (name : String) {fields : List (String × Value)}
    (h : ∀ field ∈ fields, FaithfulValue field.2) : FaithfulValue (.struct name fields) := by
  have hfields := Faithful.map fun field hmem => faithful_ofField (h field hmem)
  constructor
  · intro v' _ hsame
    cases v' with
    | struct name' fields' =>
      simp only [ofValue, ofFields_eq_map, tagged.injEq, mapping.injEq, List.cons.injEq,
        Prod.mk.injEq, string.injEq, sequence.injEq, and_true, true_and] at hsame
      obtain ⟨rfl, hsame⟩ := hsame
      rw [hfields.eq (fun _ _ => trivial) hsame]
    | unit | int32 | bool | string => simp [ofValue] at hsame
  · intro v' _ halike
    obtain ⟨content, hcontent, halike⟩ := AlikeToEnd.of_tagged halike
    cases v' with
    | struct name' fields' =>
      obtain ⟨-, rfl⟩ := tagged.inj hcontent
      -- the name stands before the fields, so it is the same
      obtain ⟨hname, hlists⟩ := halike.of_two_entries
      obtain rfl := string.inj hname
      rw [ofFields_eq_map, ofFields_eq_map] at hlists
      obtain ⟨docs, hdocs, hsame | hmembers⟩ := hlists.of_sequence
      · rw [hfields.eq (fun _ _ => trivial) (hsame.trans (sequence.inj hdocs).symm)]
        exact .refl _
      · obtain rfl := sequence.inj hdocs
        obtain ⟨init, ⟨key, last⟩, ⟨key', last'⟩, rfl, rfl, rfl, hlast⟩ :=
          hfields.alike (fun _ _ => trivial) hmembers
        exact .field name init key hlast
    | unit | int32 | bool | string => simp [ofValue] at hcontent

mutual

/-- Values are told apart by their documents. -/
theorem faithful_ofValue : ∀ v : Value, FaithfulValue v
  | .unit => faithful_unit
  | .int32 n => faithful_int32 n
  | .bool b => faithful_bool b
  | .string s => faithful_taggedString s
  | .struct name fields => faithful_struct name (faithful_fields fields)

theorem faithful_fields : ∀ fields : List (String × Value), ∀ field ∈ fields, FaithfulValue field.2
  | [] => List.forall_mem_nil _
  | (_, value) :: rest => List.forall_mem_cons.mpr ⟨faithful_ofValue value, faithful_fields rest⟩

end

/-- The documents of values are alike exactly if the values are. -/
theorem alikeToEnd_ofValue_iff :
    AlikeToEnd (ofValue v) (ofValue v') ↔ v.AlikeToEnd v' := by
  constructor
  · exact (faithful_ofValue v).alike trivial
  · intro halike
    induction halike with
    | refl v => exact .refl _
    | string h => exact .tagged _ (.string h)
    | field name fields key _ ih =>
      rw [ofValue, ofValue, ofFields_eq_map, ofFields_eq_map, List.map_append, List.map_append]
      have hfield := AlikeToEnd.item [.string key] ih
      have hfields := AlikeToEnd.item (fields.map ofField) hfield
      exact .tagged _ (.entry [("name", .string name)] "fields" hfields)

end Yaml

end BoundaryContract
