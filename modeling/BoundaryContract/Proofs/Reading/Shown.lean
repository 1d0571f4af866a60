import BoundaryContract.Proofs.Reading.Marshal
import BoundaryContract.Proofs.Reading.Plain

/-!
# What plain JSON shows of a struct

A struct is read by the first field of each declared name, while its plain JSON shows the last one:
the entries are collected one after another, and a later one replaces an earlier one of its key. So
the two ways of reading a struct, from the value and from its plain JSON, agree where no name stands
for two different values (`Value.Unambiguous`), and need not agree otherwise
(`Value.toJson_shows_last`).
-/

namespace BoundaryContract

namespace Json

variable {entries sorted : List (String × Json)} {key : String} {value : Json}

/-! ### Entries collected by key -/

/-- Inserting an entry where it belongs is seen like putting it in front. -/
theorem lookup_insertEntry (key : String) (value : Json) (entries : List (String × Json))
    (k : String) :
    (insertEntry key value entries).lookup k = ((key, value) :: entries).lookup k := by
  induction entries with
  | nil => rfl
  | cons entry rest ih =>
    obtain ⟨key', value'⟩ := entry
    rw [insertEntry]
    split
    · rfl
    · split
      · next h =>
        subst h
        rw [List.lookup_cons, List.lookup_cons, List.lookup_cons]
        cases k == key <;> rfl
      · next h =>
        rw [List.lookup_cons, ih, List.lookup_cons, List.lookup_cons, List.lookup_cons]
        cases hk : k == key' with
        | false => rfl
        | true =>
          have hne : (k == key) = false := by
            rw [eq_of_beq hk]
            exact beq_false_of_ne (Ne.symm h)
          rw [hne]

/-- Under a key is the last entry collected for it. -/
theorem lookup_collected (entries sorted : List (String × Json)) (key : String) :
    (entries.foldl (fun sorted entry => insertEntry entry.1 entry.2 sorted) sorted).lookup key =
      (entries.reverse.lookup key).or (sorted.lookup key) := by
  induction entries generalizing sorted with
  | nil => rfl
  | cons entry rest ih =>
    rw [List.foldl_cons, ih, lookup_insertEntry, List.reverse_cons, List.lookup_append,
      Option.or_assoc]
    refine congrArg _ ?_
    rw [List.lookup_cons, List.lookup_cons]
    cases key == entry.1 <;> rfl

/-- Of the entries of one key, the last one is left after sorting. -/
theorem lookup_sortEntries (entries : List (String × Json)) (key : String) :
    (sortEntries entries).lookup key = entries.reverse.lookup key := by
  rw [sortEntries, lookup_collected, List.lookup_nil, Option.or_none]

end Json

namespace Value

/-! ### Plain JSON by key -/

/-- Looking from behind, the fields are shown one by one. -/
theorem lookup_fieldsToJson (fields : List (String × Value)) (name : String) :
    (fieldsToJson fields).reverse.lookup name = (fields.reverse.lookup name).map toJson := by
  induction fields with
  | nil => rfl
  | cons field rest ih =>
    rw [fieldsToJson, List.reverse_cons, List.reverse_cons, List.lookup_append, List.lookup_append,
      ih, Option.map_or, List.lookup_cons, List.lookup_cons]
    cases name == field.1 <;> rfl

/-- The plain JSON of a struct shows the last field of each name. -/
theorem find?_toJson (owner name : String) (fields : List (String × Value)) :
    (toJson (.struct owner fields)).find? name = (fields.reverse.lookup name).map toJson := by
  rw [toJson, Json.ofEntries, Json.find?, Json.lookup_sortEntries, lookup_fieldsToJson]

/-! ### Values in which every name is clear -/

/-- No name stands for two different values among the fields of a struct. -/
def ClearNames (fields : List (String × Value)) : Prop :=
  ∀ name v w, (name, v) ∈ fields → (name, w) ∈ fields → v = w

/-- In no struct of the value a name stands for two different values. -/
inductive Unambiguous : Value → Prop
  | unit : Unambiguous .unit
  | int32 {n : Int32} : Unambiguous (.int32 n)
  | bool {b : Bool} : Unambiguous (.bool b)
  | string {s : String} : Unambiguous (.string s)
  | struct {name : String} {fields : List (String × Value)} (hclear : ClearNames fields)
    (h : ∀ field ∈ fields, Unambiguous field.2) : Unambiguous (.struct name fields)

variable {fields : List (String × Value)} {v : Value}

/-- Where no name is used twice, it does not matter from which end one looks. -/
theorem lookup_reverse (h : ClearNames fields) (name : String) :
    fields.reverse.lookup name = fields.lookup name :=
  (Source.lookup_eq_of_perm fields.reverse_perm.symm (h name)).symm

theorem field?_struct (owner name : String) (fields : List (String × Value)) :
    (Value.struct owner fields).field? name = fields.lookup name := rfl

/-- A struct whose names are used once shows each of its fields. -/
theorem find?_toJson_of_clear (h : ClearNames fields) (owner name : String) :
    (toJson (.struct owner fields)).find? name =
      ((Value.struct owner fields).field? name).map toJson := by
  rw [find?_toJson, lookup_reverse h, field?_struct]

/-- The object of a struct has the keys that the struct has as names. -/
theorem find?_toJson_eq_none_iff (owner name : String) (fields : List (String × Value)) :
    (toJson (.struct owner fields)).find? name = none ↔
      (Value.struct owner fields).field? name = none := by
  rw [find?_toJson, Option.map_eq_none_iff, field?_struct, List.lookup_eq_none_iff,
    List.lookup_eq_none_iff]
  simp only [List.mem_reverse]

/-- A scalar is still the same scalar when it is shown. -/
theorem scalar?_toJson {v u : Value} (h : own.scalar? v = some u) :
    Json.plain.scalar? v.toJson = some u := by
  cases v with
  | struct name fields => cases h
  | unit | int32 n | bool b | string s =>
    cases h
    exact scalar?_eq_some_iff.mpr ⟨rfl, nofun⟩

/-- Where every name is clear, the plain JSON of a value stands for what the value stands for. -/
theorem stands_toJson (hclear : v.Unambiguous) {kind : Kind} {u : Value}
    (h : own.Stands kind v u) : Json.plain.Stands kind v.toJson u := by
  induction hclear generalizing kind u with
  | @struct name fields hclear _ ih =>
    cases h with
    | unit h | int32 h | bool h | string h => cases h
    | @struct _ _ type parts _ hopen h =>
      obtain ⟨rfl, hparts⟩ := Option.ite_none_right_eq_some.mp hopen.found
      obtain rfl : fields = parts := Option.some.inj hparts
      rw [toJson, Json.ofEntries]
      refine .struct (opens_object hopen.declared) (Source.standEach_iff.mpr ?_)
      refine (Source.standEach_iff.mp h).imp fun a f hf => ?_
      obtain ⟨hname, w, hpart, hw⟩ := hf
      refine ⟨hname, w.toJson, ?_, ih _ (Source.mem_of_lookup hpart) hw⟩
      -- the entry is that of the last field of the name, which is the first one too
      rw [Json.lookup_sortEntries, lookup_fieldsToJson, lookup_reverse hclear, hpart,
        Option.map_some]
  | unit | int32 | bool | string =>
    cases h with
    | unit h => exact .unit (scalar?_toJson h)
    | int32 h => exact .int32 (scalar?_toJson h)
    | bool h => exact .bool (scalar?_toJson h)
    | string h => exact .string (scalar?_toJson h)
    | struct hopen h => cases hopen.found

end Value

/-! ### Both ways of reading a struct -/

/-- The datum that the plain JSON of a value is read as. -/
def Marshal.ofPlain (α : Type) [Marshal α] (v : Value) : Except Error α := do
  ofValue (← Value.ofJson (kind α) v.toJson)

/-- Read through its plain JSON a value gives the same struct where every name is clear. -/
theorem Marshal.Settled.ofPlain_eq {α : Type} [Marshal α] [LawfulMarshal α]
    (hsettled : Marshal.Settled α) {v : Value} (hclear : v.Unambiguous) {x : α}
    (h : Marshal.ofValue v = .ok x) : Marshal.ofPlain α v = .ok x := by
  have hstands : Value.own.Stands (Marshal.kind α) v (Marshal.toValue x) :=
    hsettled.ofValue_eq_ok_iff.mp h
  rw [Marshal.ofPlain, Value.ofJson_eq_ok_iff.mpr (Value.stands_toJson hclear hstands)]
  exact LawfulMarshal.ofValue_toValue x

/-- What plain JSON shows of a value, next to what is read from the value. -/
structure Value.ShowsLast (v : Value) : Prop where
  /-- Under a key is the last field of the name. -/
  last (owner name : String) (fields : List (String × Value)) : v = .struct owner fields →
    v.toJson.find? name = (fields.reverse.lookup name).map toJson
  absent (owner name : String) (fields : List (String × Value)) : v = .struct owner fields →
    (v.toJson.find? name = none ↔ v.field? name = none)
  /-- That is the first one where no name stands for two different values. -/
  first (owner name : String) (fields : List (String × Value)) : v = .struct owner fields →
    ClearNames fields → v.toJson.find? name = (v.field? name).map toJson
  /-- There both structs are read in either way alike. -/
  inner (x : Inner) : v.Unambiguous → Inner.ofValue v = .ok x → Marshal.ofPlain Inner v = .ok x
  outer (x : Outer) : v.Unambiguous → Outer.ofValue v = .ok x → Marshal.ofPlain Outer v = .ok x

/-- Plain JSON shows the last field of each name, and that is the one that is read where no name
stands for two different values. -/
theorem Value.toJson_shows_last (v : Value) : v.ShowsLast where
  last owner name fields hv := by
    rw [hv, find?_toJson]
  absent owner name fields hv := by
    rw [hv]
    exact find?_toJson_eq_none_iff owner name fields
  first owner name fields hv hclear := by
    rw [hv]
    exact find?_toJson_of_clear hclear owner name
  inner x hclear h := Marshal.settled_inner.ofPlain_eq hclear h
  outer x hclear h := Marshal.settled_outer.ofPlain_eq hclear h

/-- A struct with two fields of one name. -/
def Value.twofold : Value :=
  .struct "StructB" [("i32_field", .int32 1), ("i32_field", .int32 2)]

/-- It is read by the first of them and shown with the last. -/
theorem Value.twofold_shown_otherwise : Inner.ofValue twofold = .ok ⟨1⟩ ∧
    Marshal.ofPlain Inner twofold = .ok ⟨2⟩ ∧ twofold.field? "i32_field" = some (.int32 1) ∧
    twofold.toJson.find? "i32_field" = some (toJson (.int32 2)) ∧
    toJson (.int32 2) ≠ toJson (.int32 1) := by
  refine ⟨rfl, rfl, rfl, ?_, ?_⟩
  · exact find?_toJson _ _ _
  · intro h
    cases h

end BoundaryContract
