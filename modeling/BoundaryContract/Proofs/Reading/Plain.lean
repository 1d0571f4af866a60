import BoundaryContract.Proofs.Marshal
import BoundaryContract.Proofs.Reading
import Mathlib.Data.List.Nodup

/-!
# Reading plain JSON by kind

`Json.plain` says what plain JSON is as a source of values: an integer of 32 bits is a scalar, a
number with a fraction or an exponent is none, and an object of any keys may be any struct of the
surface. Reading by a kind is settled by it (`Value.settles_ofJson`): the proof follows the JSON,
and the fields of a struct are settled one after another in the order of their declaration.

`Value.ofJson_exact` spells out what follows for every kind.
-/

namespace BoundaryContract

/-- Plain JSON as a source of values. -/
def Json.plain : Source Json where
  scalar?
    | .null => some .unit
    | .bool b => some (.bool b)
    | .string s => some (.string s)
    | .number (.int z) => if Value.fitsInt32 z then some (.int32 (.ofInt z)) else none
    | _ => none
  parts? _
    | .object entries => some entries
    | _ => none
  kind := Json.closestKind

namespace Value

variable {kind : Kind} {json : Json} {name : String} {type : StructType}
  {entries entries' : List (String × Json)} {v : Value} {e : Error}

/-- The scalars found are the plain JSON of themselves. -/
theorem scalar?_eq_some_iff : Json.plain.scalar? json = some v ↔
    json = v.toJson ∧ ∀ name fields, v ≠ .struct name fields := by
  constructor
  · intro h
    cases json with
    | null | bool b | string s =>
      cases h
      refine ⟨rfl, fun name fields h => ?_⟩
      cases h
    | number n =>
      cases n with
      | int z =>
        obtain ⟨hfits, hz⟩ := Option.ite_none_right_eq_some.mp h
        cases hz
        rw [toJson, toInt_ofInt_of_fits hfits]
        refine ⟨rfl, fun name fields h => ?_⟩
        cases h
      | float x => cases h
    | array items | object entries => cases h
  · -- the plain JSON of a scalar is read back as the scalar
    rintro ⟨rfl, hscalar⟩
    cases v with
    | unit | bool b | string s => rfl
    | int32 n =>
      have hn : Json.plain.scalar? (toJson (.int32 n)) = some (.int32 (.ofInt n.toInt)) :=
        if_pos (fitsInt32_toInt n)
      rw [hn, Int32.ofInt_toInt]
    | struct name fields => exact absurd rfl (hscalar name fields)

theorem opens_object (htype : StructType.ofName? name = some type) :
    Json.plain.Opens name (.object entries) type entries :=
  ⟨htype, rfl⟩

/-- Nothing but an object may be a struct. -/
theorem eq_object_of_opens (h : Json.plain.Opens name json type entries) :
    json = .object entries := by
  have hfound := h.found
  cases json with
  | object entries =>
    cases hfound
    rfl
  | null | bool b | number n | string s | array items => cases hfound

/-- Fields are collected as they are settled. -/
theorem settlesEach_collectFields {accessors : List Accessor}
    (h : ∀ {key x}, entries.lookup key = some x → ∀ kind,
      Json.plain.Settles kind x (ofJson kind x)) :
    Json.plain.SettlesEach name entries accessors
      (collectFields name (fun a => entryOfJson? a.kind a.field entries) accessors) := by
  induction accessors with
  | nil => exact .nil
  | cons a accessors ih =>
    rw [collectFields, entryOfJson?_eq]
    cases hpart : entries.lookup a.field with
    | none => exact .missing hpart
    | some x =>
      have hx : Json.plain.Settles a.kind x (ofJson a.kind x) := h hpart a.kind
      rw [Option.map_some]
      cases hread : ofJson a.kind x with
      | error e =>
        -- whatever is declared after it, this is the first fault
        rw [hread] at hx
        exact .faulty hpart hx
      | ok v =>
        rw [hread] at hx
        have hcons := Source.SettlesEach.cons hpart hx ih
        cases hrest : collectFields name (fun a => entryOfJson? a.kind a.field entries) accessors
        with
        | ok fields | error e =>
          rw [hrest] at hcons
          exact hcons

mutual

/-- Reading by a kind gives the value for which the JSON stands, or what is wrong with it. -/
theorem settles_ofJson : ∀ (json : Json) (kind : Kind),
    Json.plain.Settles kind json (ofJson kind json)
  | .null, kind => by
    have hscalar : Json.plain.scalar? .null = some .unit := rfl
    rw [ofJson]
    exact Source.settles_scalar (.unit hscalar) hscalar fun _ => rfl
  | .bool b, kind => by
    have hscalar : Json.plain.scalar? (.bool b) = some (.bool b) := rfl
    rw [ofJson]
    exact Source.settles_scalar (.bool hscalar) hscalar fun _ => rfl
  | .string s, kind => by
    have hscalar : Json.plain.scalar? (.string s) = some (.string s) := rfl
    rw [ofJson]
    exact Source.settles_scalar (.string hscalar) hscalar fun _ => rfl
  | .number (.int z), kind => by
    rw [ofJson]
    by_cases hfits : fitsInt32 z
    · have hscalar : Json.plain.scalar? (.number (.int z)) = some (.int32 (.ofInt z)) :=
        if_pos hfits
      simp only [hfits, and_true]
      exact Source.settles_scalar (.int32 hscalar) hscalar fun _ => rfl
    · -- a number that does not fit is no scalar of the surface, whatever kind is asked for
      have hscalar : Json.plain.scalar? (.number (.int z)) = none := if_neg hfits
      rw [if_neg fun h => hfits h.2]
      exact Source.settles_mismatch hscalar fun _ => rfl
  | .number (.float x), kind => Source.settles_mismatch rfl fun _ => rfl
  | .array items, kind => Source.settles_mismatch rfl fun _ => rfl
  | .object entries, .unit | .object entries, .int32 | .object entries, .bool
  | .object entries, .string => .mismatch (by rintro ⟨v, hv, -⟩; cases hv)
  | .object entries, .struct name => by
    rw [ofJson]
    cases htype : StructType.ofName? name with
    | none =>
      refine .mismatch ?_
      rintro ⟨type, parts, hdeclared, -⟩
      rw [htype] at hdeclared
      cases hdeclared
    | some type =>
      have hfields := (settlesEach_collectFields (settles_of_lookup entries)).settles
        (opens_object htype)
      dsimp only
      split
      · next fields hread =>
        rw [hread] at hfields
        exact hfields
      · next e hread =>
        rw [hread] at hfields
        exact hfields

/-- The entries of an object are read as whatever kind is asked for. -/
theorem settles_of_lookup : ∀ (entries : List (String × Json)) {key : String} {x : Json},
    entries.lookup key = some x → ∀ kind, Json.plain.Settles kind x (ofJson kind x)
  | [], _, _, h, _ => nomatch h
  | (k, json) :: rest, key, x, h, kind => by
    rw [List.lookup_cons] at h
    split at h
    · cases h
      exact settles_ofJson json kind
    · exact settles_of_lookup rest h kind

end

theorem ofJson_eq_ok_iff : ofJson kind json = .ok v ↔ Json.plain.Stands kind json v :=
  (settles_ofJson json kind).eq_ok_iff

theorem ofJson_eq_error_iff : ofJson kind json = .error e ↔ Json.plain.Faulty kind json e :=
  (settles_ofJson json kind).eq_error_iff

/-! ### Every kind spelled out -/

/-- A struct of the surface is read from an object in which everything declared can be read. -/
theorem ofJson_struct_eq_ok_iff : ofJson (.struct name) json = .ok v ↔
    ∃ type entries fields, StructType.ofName? name = some type ∧ json = .object entries ∧
      v = .struct name fields ∧ List.Forall₂ (fun a f => f.1 = a.field ∧
        ∃ x, entries.lookup a.field = some x ∧ ofJson a.kind x = .ok f.2) type.fields fields := by
  simp only [ofJson_eq_ok_iff]
  constructor
  · intro h
    cases h with
    | struct hopen h =>
      exact ⟨_, _, _, hopen.declared, eq_object_of_opens hopen, rfl, Source.standEach_iff.mp h⟩
  · rintro ⟨type, entries, fields, htype, rfl, rfl, h⟩
    exact .struct (opens_object htype) (Source.standEach_iff.mpr h)

/-- An object in which not everything declared can be read has the fault of the first field of which
this is so. -/
theorem ofJson_struct_eq_error_iff (htype : StructType.ofName? name = some type) :
    ofJson (.struct name) (.object entries) = .error e ↔
      ∃ before a after, type.fields = before ++ a :: after ∧
        (∀ b ∈ before, ∃ x v, entries.lookup b.field = some x ∧ ofJson b.kind x = .ok v) ∧
        (entries.lookup a.field = none ∧ e = .missingField name a.field ∨
          ∃ x, entries.lookup a.field = some x ∧ ofJson a.kind x = .error e) := by
  simp only [ofJson_eq_ok_iff, ofJson_eq_error_iff]
  exact (opens_object htype).faulty_iff.trans Source.fieldFault_iff

/-- What is read of an object depends on the first entry of each declared key only. -/
theorem ofJson_struct_congr (htype : StructType.ofName? name = some type)
    (h : ∀ a ∈ type.fields, entries.lookup a.field = entries'.lookup a.field) :
    ofJson (.struct name) (.object entries) = ofJson (.struct name) (.object entries') :=
  Source.Settles.eq_of_lookup (opens_object htype) (opens_object htype) h
    (settles_ofJson _ _) (settles_ofJson _ _)

/-- Nothing is read as a struct that the surface does not have. -/
theorem ofJson_struct_unknown (htype : StructType.ofName? name = none) (json : Json) :
    ofJson (.struct name) json = .error (.typeMismatch (.struct name) json.closestKind) := by
  refine ofJson_eq_error_iff.mpr (.mismatch ?_)
  rintro ⟨type, parts, hdeclared, -⟩
  rw [htype] at hdeclared
  cases hdeclared

/-! ### What is read and what is wrong otherwise -/

/-- What is read from plain JSON by each kind, and what is reported if nothing is. -/
structure ReadExactly : Prop where
  /-- What is well typed is read, and nothing else. -/
  ok_iff (kind : Kind) (json : Json) (v : Value) :
    ofJson kind json = .ok v ↔ Json.plain.Stands kind json v
  /-- What is reported is what is wrong first. -/
  error_iff (kind : Kind) (json : Json) (e : Error) :
    ofJson kind json = .error e ↔ Json.plain.Faulty kind json e
  unit (json : Json) (v : Value) : ofJson .unit json = .ok v ↔ json = .null ∧ v = .unit
  /-- An integer is read if it has 32 bits; a number with a fraction or an exponent never is. -/
  int32 (json : Json) (v : Value) : ofJson .int32 json = .ok v ↔
    ∃ z : Int, -2147483648 ≤ z ∧ z ≤ 2147483647 ∧ json = .int z ∧
      ∃ n : Int32, n.toInt = z ∧ v = .int32 n
  bool (json : Json) (v : Value) : ofJson .bool json = .ok v ↔ ∃ b, json = .bool b ∧ v = .bool b
  string (json : Json) (v : Value) :
    ofJson .string json = .ok v ↔ ∃ s, json = .string s ∧ v = .string s
  /-- A struct of the surface is read from an object that has everything declared, and consists of
  just that, in the order of the declaration. -/
  struct (name : String) (json : Json) (v : Value) : ofJson (.struct name) json = .ok v ↔
    ∃ type entries fields, StructType.ofName? name = some type ∧ json = .object entries ∧
      v = .struct name fields ∧ List.Forall₂ (fun a f => f.1 = a.field ∧
        ∃ x, entries.lookup a.field = some x ∧ ofJson a.kind x = .ok f.2) type.fields fields
  /-- What is wrong with an object is what is wrong with the first field declared for which nothing
  can be read. -/
  firstFault (name : String) (type : StructType) (entries : List (String × Json)) (e : Error) :
    StructType.ofName? name = some type →
      (ofJson (.struct name) (.object entries) = .error e ↔
        ∃ before a after, type.fields = before ++ a :: after ∧
          (∀ b ∈ before, ∃ x v, entries.lookup b.field = some x ∧ ofJson b.kind x = .ok v) ∧
          (entries.lookup a.field = none ∧ e = .missingField name a.field ∨
            ∃ x, entries.lookup a.field = some x ∧ ofJson a.kind x = .error e))
  /-- Anything else that is not read has another kind. -/
  mismatch (kind : Kind) (json : Json) : (∀ v, ofJson kind json ≠ .ok v) →
    (∀ name entries, kind = .struct name → (StructType.ofName? name).isSome →
      json ≠ .object entries) →
    ofJson kind json = .error (.typeMismatch kind json.closestKind)
  /-- By a struct that is not on the surface nothing is read. -/
  unknown (name : String) (json : Json) : StructType.ofName? name = none →
    ofJson (.struct name) json = .error (.typeMismatch (.struct name) json.closestKind)
  /-- The order of different keys does not matter. -/
  perm (kind : Kind) (entries entries' : List (String × Json)) : entries.Perm entries' →
    (entries.map Prod.fst).Nodup → ofJson kind (.object entries) = ofJson kind (.object entries')
  /-- Neither do keys that are not declared. -/
  extra (name : String) (type : StructType) (entries entries' : List (String × Json)) :
    StructType.ofName? name = some type →
    (∀ a ∈ type.fields, entries.lookup a.field = entries'.lookup a.field) →
    ofJson (.struct name) (.object entries) = ofJson (.struct name) (.object entries')

/-- Reading plain JSON by a kind accepts just what is well typed, and reports the first fault of
anything else. -/
theorem ofJson_exact : ReadExactly where
  ok_iff _ _ _ := ofJson_eq_ok_iff
  error_iff _ _ _ := ofJson_eq_error_iff
  unit json v := by
    rw [ofJson_eq_ok_iff]
    constructor
    · rintro ⟨h⟩
      exact ⟨(scalar?_eq_some_iff.mp h).1, rfl⟩
    · rintro ⟨rfl, rfl⟩
      exact .unit rfl
  int32 json v := by
    rw [ofJson_eq_ok_iff]
    constructor
    · intro h
      cases h with
      | @int32 _ n h =>
        obtain ⟨hlow, hhigh⟩ := fitsInt32_iff.mp (fitsInt32_toInt n)
        exact ⟨n.toInt, hlow, hhigh, (scalar?_eq_some_iff.mp h).1, n, rfl, rfl⟩
    · rintro ⟨_, -, -, rfl, n, rfl, rfl⟩
      exact .int32 (scalar?_eq_some_iff.mpr ⟨rfl, nofun⟩)
  bool json v := by
    rw [ofJson_eq_ok_iff]
    constructor
    · intro h
      cases h with
      | bool h => exact ⟨_, (scalar?_eq_some_iff.mp h).1, rfl⟩
    · rintro ⟨b, rfl, rfl⟩
      exact .bool rfl
  string json v := by
    rw [ofJson_eq_ok_iff]
    constructor
    · intro h
      cases h with
      | string h => exact ⟨_, (scalar?_eq_some_iff.mp h).1, rfl⟩
    · rintro ⟨s, rfl, rfl⟩
      exact .string rfl
  struct _ _ _ := ofJson_struct_eq_ok_iff
  firstFault _ _ _ _ htype := ofJson_struct_eq_error_iff htype
  mismatch kind json hnone hother := by
    cases hread : ofJson kind json with
    | ok v => exact absurd hread (hnone v)
    | error e =>
      rw [ofJson_eq_error_iff] at hread
      cases hread with
      | mismatch h => rfl
      | missing hopen hfirst h | field hopen hfirst hpart h =>
        exact absurd (eq_object_of_opens hopen)
          (hother _ _ rfl (Option.isSome_of_eq_some hopen.declared))
  unknown _ json htype := ofJson_struct_unknown htype json
  perm kind entries entries' hperm hkeys := by
    cases kind with
    | struct name =>
      cases htype : StructType.ofName? name with
      | none =>
        rw [ofJson_struct_unknown htype, ofJson_struct_unknown htype]
        rfl
      | some type =>
        refine ofJson_struct_congr htype fun a _ => ?_
        -- no key is there twice, so an entry is found wherever it stands
        refine Source.lookup_eq_of_perm hperm fun x y hx hy => ?_
        exact congrArg Prod.snd (List.inj_on_of_nodup_map hkeys hx hy rfl)
    | unit | int32 | bool | string => rfl
  extra _ _ _ _ htype h := ofJson_struct_congr htype h

end Value

end BoundaryContract
