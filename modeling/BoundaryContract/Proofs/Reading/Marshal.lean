import BoundaryContract.Proofs.Marshal
import BoundaryContract.Proofs.Reading

/-!
# Reading structs out of values

A struct is read by taking its declared fields out of the value one after another, so each search
sees what the ones before it have left over. `Value.takeField` takes the first field of the name,
and the fields of other names are found as before (`exists_takeField`). So every field is found
where it would be found in the whole list, and `SettlesAfter.take` adds one field after another to
those that are already settled.

`Marshal.ofValue_exact` spells out what follows for both structs.
-/

namespace BoundaryContract

/-- Values themselves as a source of values: a struct may be one of its own name only. -/
def Value.own : Source Value where
  scalar?
    | .struct _ _ => none
    | v => some v
  parts? type
    | .struct name fields => if name = type.name then some fields else none
    | _ => none
  kind := Value.kind

namespace Value

variable {owner field : String} {parts : List (String × Value)} {v w : Value}

/-! ### Taking fields out -/

/-- Taking a field that is not there tells which one is missing. -/
theorem takeField_of_lookup_none (h : parts.lookup field = none) :
    takeField owner field parts = .error (.missingField owner field) := by
  induction parts with
  | nil => rfl
  | cons part parts ih =>
    obtain ⟨name, u⟩ := part
    rw [List.lookup_cons] at h
    split at h
    · cases h
    · next hne => rw [takeField, if_neg (Ne.symm (by simpa using hne)), ih h]

/-- The field taken is the first of its name, and the others are found as before. -/
theorem exists_takeField (owner : String) (h : parts.lookup field = some w) :
    ∃ rest, takeField owner field parts = .ok (w, rest) ∧
      ∀ other, other ≠ field → rest.lookup other = parts.lookup other := by
  induction parts with
  | nil => cases h
  | cons part parts ih =>
    obtain ⟨name, u⟩ := part
    by_cases hname : name = field
    · subst hname
      rw [List.lookup_cons_self, Option.some.injEq] at h
      refine ⟨parts, by rw [takeField, if_pos rfl, h], fun other hother => ?_⟩
      rw [List.lookup_cons, beq_false_of_ne hother]
    · rw [List.lookup_cons, beq_false_of_ne (Ne.symm hname)] at h
      obtain ⟨rest, htake, hrest⟩ := ih h
      refine ⟨(name, u) :: rest, by rw [takeField, if_neg hname, htake], fun other hother => ?_⟩
      rw [List.lookup_cons, List.lookup_cons, hrest other hother]

end Value

/-! ### Values that are no such struct -/

/-- Only a struct of the name is read as the nested type. -/
theorem Inner.ofValue_of_ne {v : Value} (h : ∀ fields, v ≠ .struct "StructB" fields) :
    Inner.ofValue v = .error (v.mismatch (.struct "StructB")) := by
  unfold Inner.ofValue
  split
  · next fields => exact absurd rfl (h fields)
  · rfl

/-- Only a struct of the name is read as the outer type. -/
theorem Outer.ofValue_of_ne {v : Value} (h : ∀ fields, v ≠ .struct "StructA" fields) :
    Outer.ofValue v = .error (v.mismatch (.struct "StructA")) := by
  unfold Outer.ofValue
  split
  · next fields => exact absurd rfl (h fields)
  · rfl

/-! ### Fields one after another -/

namespace Marshal

open Value (own)

/-- Reading values of the type is settled. -/
def Settled (α : Type) [Marshal α] : Prop :=
  ∀ v, own.Settles (kind α) v ((ofValue v : Except Error α).map toValue)

/-- A reader that has read some contents already settles the fields after them. -/
def SettlesAfter {β : Type} (owner : String) (parts : List (String × Value))
    (accessors : List Accessor) (before : List (String × Value))
    (contents : β → List (String × Value)) (r : Except Error β) : Prop :=
  ∃ r', own.SettlesEach owner parts accessors r' ∧ r.map contents = r'.map (before ++ ·)

namespace SettlesAfter

variable {α β : Type} [Marshal α] {owner : String} {parts before : List (String × Value)}
  {accessors : List Accessor} {contents : β → List (String × Value)} {a : Accessor}

/-- When everything declared is read, the contents are those read. -/
theorem done {y : β} (h : contents y = before) :
    SettlesAfter owner parts [] before contents (.ok y) := by
  refine ⟨.ok [], .nil, ?_⟩
  rw [Except.map, Except.map, List.append_nil, h]

/-- A field is taken out and read, and then the fields that are declared after it. -/
theorem take (hread : Settled α) (hkind : a.kind = kind α)
    (hfresh : ∀ b ∈ accessors, b.field ≠ a.field)
    {next : α → Value × List (String × Value) → Except Error β}
    (hnext : ∀ x taken, SettlesAfter owner taken.2 accessors (before ++ [(a.field, toValue x)])
      contents (next x taken)) :
    SettlesAfter owner parts (a :: accessors) before contents (do
      let taken ← Value.takeField owner a.field parts
      let x ← ofValue taken.1
      next x taken) := by
  cases hpart : parts.lookup a.field with
  | none =>
    rw [Value.takeField_of_lookup_none hpart]
    exact ⟨_, .missing hpart, rfl⟩
  | some w =>
    obtain ⟨rest, htake, hrest⟩ := Value.exists_takeField owner hpart
    have hw : own.Settles a.kind w ((ofValue w : Except Error α).map toValue) := by
      rw [hkind]
      exact hread w
    rw [htake]
    cases hx : (ofValue w : Except Error α) with
    | error e =>
      rw [hx] at hw
      refine ⟨.error e, .faulty hpart hw, ?_⟩
      show Except.map contents (ofValue w >>= fun x => next x (w, rest)) = _
      rw [hx]
      rfl
    | ok x =>
      rw [hx] at hw
      obtain ⟨r', hr', heq⟩ := hnext x (w, rest)
      -- the later fields are found in what is left over just as they are in the whole list
      refine ⟨_, .cons hpart hw (hr'.congr fun b hb => hrest b.field (hfresh b hb)), ?_⟩
      show Except.map contents (ofValue w >>= fun x => next x (w, rest)) = _
      rw [hx]
      show (next x (w, rest)).map contents = _
      rw [heq]
      cases r' with
      | error e => rfl
      | ok fields =>
        exact congrArg Except.ok (List.append_cons before (a.field, toValue x) fields).symm

end SettlesAfter

/-! ### Every type of a field -/

/-- Reading an integer is settled. -/
theorem settled_int32 : Settled Int32 := by
  intro v
  cases v with
  | int32 n => exact Source.Stands.int32 rfl
  | unit | bool b | string s | struct name fields =>
    exact Source.Faulty.mismatch fun ⟨w, hw, hkind⟩ => by cases hw <;> cases hkind

/-- Reading a truth value is settled. -/
theorem settled_bool : Settled Bool := by
  intro v
  cases v with
  | bool b => exact Source.Stands.bool rfl
  | unit | int32 n | string s | struct name fields =>
    exact Source.Faulty.mismatch fun ⟨w, hw, hkind⟩ => by cases hw <;> cases hkind

/-- Reading a text is settled. -/
theorem settled_string : Settled String := by
  intro v
  cases v with
  | string s => exact Source.Stands.string rfl
  | unit | int32 n | bool b | struct name fields =>
    exact Source.Faulty.mismatch fun ⟨w, hw, hkind⟩ => by cases hw <;> cases hkind

/-! ### Structs -/

section

variable {α : Type} [Marshal α] {type : StructType} {v : Value}

/-- A struct value of the name of a type may be of that type, and its fields are its parts. -/
theorem opens_struct (htype : StructType.ofName? type.name = some type)
    (fields : List (String × Value)) :
    own.Opens type.name (.struct type.name fields) type fields :=
  ⟨htype, if_pos rfl⟩

/-- A struct of another name is no struct of this one. -/
theorem not_fits_struct (htype : StructType.ofName? type.name = some type)
    (h : ∀ fields, v ≠ .struct type.name fields) : ¬ own.Fits (.struct type.name) v := by
  rintro ⟨type', parts, hdeclared, hparts⟩
  obtain rfl : type = type' := Option.some.inj (htype.symm.trans hdeclared)
  cases v with
  | struct name fields =>
    obtain ⟨rfl, -⟩ := Option.ite_none_right_eq_some.mp hparts
    exact h fields rfl
  | unit | int32 n | bool b | string s => cases hparts

/-- Reading a struct is settled if the fields of one of its name are, and nothing else is read. -/
theorem settled_struct (htype : StructType.ofName? type.name = some type)
    (hkind : kind α = .struct type.name) {contents : α → List (String × Value)}
    (hvalue : ∀ x, toValue x = .struct type.name (contents x))
    (hother : ∀ v, (∀ fields, v ≠ .struct type.name fields) →
      (ofValue v : Except Error α) = .error (v.mismatch (.struct type.name)))
    (hfields : ∀ fields, SettlesAfter type.name fields type.fields [] contents
      (ofValue (.struct type.name fields) : Except Error α)) : Settled α := by
  intro v
  -- nothing but a struct of the name can be of the type, so its fields settle the rest
  have hcontents : (toValue : α → Value) = fun x => .struct type.name (contents x) :=
    funext hvalue
  rw [hkind, hcontents]
  by_cases hv : ∃ fields, v = .struct type.name fields
  · obtain ⟨fields, rfl⟩ := hv
    obtain ⟨r, hr, heq⟩ := hfields fields
    have hr' : (ofValue (.struct type.name fields) : Except Error α).map contents = r := by
      rw [heq]
      cases r <;> rfl
    have hsettles := hr.settles (opens_struct htype fields)
    rw [← hr'] at hsettles
    cases hread : (ofValue (.struct type.name fields) : Except Error α) with
    | ok x | error e =>
      rw [hread] at hsettles
      exact hsettles
  · have hne : ∀ fields, v ≠ .struct type.name fields := fun fields h => hv ⟨fields, h⟩
    rw [hother v hne]
    exact Source.Faulty.mismatch (not_fits_struct htype hne)

end

/-- Reading the nested type is settled; it takes one field. -/
theorem settled_inner : Settled Inner := by
  have htype : StructType.ofName? StructType.inner.name = some .inner := rfl
  refine settled_struct htype rfl (fun _ => rfl) (fun _ => Inner.ofValue_of_ne) fun fields => ?_
  refine .take settled_int32 rfl (List.forall_mem_nil _) fun n taken => ?_
  exact .done rfl

/-- Reading the outer type is settled; it takes its four fields one after another. -/
theorem settled_outer : Settled Outer := by
  have htype : StructType.ofName? StructType.outer.name = some .outer := rfl
  refine settled_struct htype rfl (fun _ => rfl) (fun _ => Outer.ofValue_of_ne) fun fields => ?_
  refine .take settled_int32 rfl (by decide) fun n taken => ?_
  refine .take settled_bool rfl (by decide) fun b taken => ?_
  refine .take settled_string rfl (by decide) fun s taken => ?_
  refine .take settled_inner rfl (by decide) fun y taken => ?_
  exact .done rfl

/-! ### What is wrong with a field -/

section

variable {kind : Kind} {v w : Value} {e : Error}

/-- A struct is of the kind of a struct. -/
theorem kind_struct_ne (hkind : ∀ name, kind ≠ .struct name) (name : String)
    (fields : List (String × Value)) : (Value.struct name fields).kind ≠ kind := by
  rw [Value.kind]
  split
  · exact fun h => hkind _ h.symm
  · exact fun h => hkind _ h.symm

/-- What is read as a scalar is the scalar itself. -/
theorem stands_scalar_iff (hkind : ∀ name, v.kind ≠ .struct name) :
    own.Stands v.kind w v ↔ w = v := by
  constructor
  · intro h
    have hw : own.scalar? w = some v := h.scalar?_eq hkind
    cases w with
    | struct name fields => cases hw
    | unit | int32 n | bool b | string s => exact Option.some.inj hw
  · rintro rfl
    cases w with
    | struct name fields => exact absurd rfl (kind_struct_ne hkind name fields)
    | unit => exact .unit rfl
    | int32 n => exact .int32 rfl
    | bool b => exact .bool rfl
    | string s => exact .string rfl

/-- A value is of a scalar kind at first sight when it is of that kind. -/
theorem fits_scalar_iff (hkind : ∀ name, kind ≠ .struct name) :
    own.Fits kind w ↔ w.kind = kind := by
  rw [Source.fits_iff_of_ne_struct hkind]
  constructor
  · rintro ⟨v, hv, rfl⟩
    cases w with
    | struct name fields => cases hv
    | unit | int32 n | bool b | string s =>
      cases hv
      rfl
  · intro h
    cases w with
    | struct name fields => exact absurd h (kind_struct_ne hkind name fields)
    | unit | int32 n | bool b | string s => exact ⟨_, rfl, h⟩

/-- A scalar that is asked for is at fault for its kind only. -/
theorem faulty_scalar_iff (hkind : ∀ name, kind ≠ .struct name) :
    own.Faulty kind w e ↔ w.kind ≠ kind ∧ e = .typeMismatch kind w.kind := by
  rw [ne_eq, ← fits_scalar_iff hkind]
  constructor
  · intro h
    cases h with
    | mismatch h => exact ⟨h, rfl⟩
    | missing hopen hfirst h | field hopen hfirst hpart h => exact absurd rfl (hkind _)
  · rintro ⟨h, rfl⟩
    exact .mismatch h

end

/-- What was read is known from the value that it is marshaled to. -/
theorem map_toValue_injective {α : Type} [Marshal α] [LawfulMarshal α] :
    Function.Injective (Except.map toValue : Except Error α → Except Error Value) := by
  intro r r' h
  cases r with
  | ok x =>
    cases r' with
    | ok x' => rw [LawfulMarshal.toValue_injective α (Except.ok.inj h)]
    | error e' => cases h
  | error e =>
    cases r' with
    | ok x' => cases h
    | error e' => rw [Except.error.inj h]

namespace Settled

variable {α : Type} [Marshal α] {v : Value} {e : Error}

/-- Reading a type fails with what is wrong with the value. -/
theorem ofValue_eq_error_iff (h : Settled α) :
    (ofValue v : Except Error α) = .error e ↔ own.Faulty (kind α) v e := by
  rw [← (h v).eq_error_iff]
  cases (ofValue v : Except Error α) with
  | ok x => exact ⟨nofun, nofun⟩
  | error e' => exact ⟨fun he => by cases he; rfl, fun he => by cases he; rfl⟩

/-- Reading a type gives what the value stands for. -/
theorem ofValue_eq_ok_iff [LawfulMarshal α] (h : Settled α) {x : α} :
    ofValue v = .ok x ↔ own.Stands (kind α) v (toValue x) := by
  rw [← (h v).eq_ok_iff]
  cases (ofValue v : Except Error α) with
  | ok y =>
    rw [Except.ok.injEq, Except.map, Except.ok.injEq, (LawfulMarshal.toValue_injective α).eq_iff]
  | error e => exact ⟨nofun, nofun⟩

end Settled

/-! ### Structs field by field -/

/-- What is wrong with a value where a field of the kind is declared: a nested struct has the fault
found when it is read itself, and anything else is of another kind. -/
def FieldError (kind : Kind) (w : Value) (e : Error) : Prop :=
  if kind = .struct "StructB" then Inner.ofValue w = .error e
  else w.kind ≠ kind ∧ e = .typeMismatch kind w.kind

/-- A kind of which a struct of the surface has fields. -/
def IsFieldKind (kind : Kind) : Prop :=
  kind = .int32 ∨ kind = .bool ∨ kind = .string ∨ kind = .struct "StructB"

instance : DecidablePred IsFieldKind := fun _ => inferInstanceAs (Decidable (_ ∨ _))

section

variable {kind : Kind} {w : Value} {e : Error}

/-- The fault of a field is what its error says. -/
theorem faulty_iff_fieldError (hkind : IsFieldKind kind) :
    own.Faulty kind w e ↔ FieldError kind w e := by
  rw [FieldError]
  obtain rfl | rfl | rfl | rfl := hkind
  · exact faulty_scalar_iff nofun
  · exact faulty_scalar_iff nofun
  · exact faulty_scalar_iff nofun
  · exact settled_inner.ofValue_eq_error_iff.symm

/-- What has no error as a field stands for something. -/
theorem exists_stands_iff (hkind : IsFieldKind kind) :
    (∃ v, own.Stands kind w v) ↔ ∀ e, ¬ FieldError kind w e := by
  simp only [← faulty_iff_fieldError hkind]
  obtain rfl | rfl | rfl | rfl := hkind
  · exact (settled_int32 w).exists_stands_iff
  · exact (settled_bool w).exists_stands_iff
  · exact (settled_string w).exists_stands_iff
  · exact (settled_inner w).exists_stands_iff

/-- A field is given when its first part has no error. -/
theorem gives_iff_fieldError {parts : List (String × Value)} {a : Accessor}
    (hkind : IsFieldKind a.kind) :
    own.Gives parts a ↔ ∃ w, parts.lookup a.field = some w ∧ ∀ e, ¬ FieldError a.kind w e := by
  simp only [← exists_stands_iff hkind]
  constructor
  · rintro ⟨w, v, hpart, h⟩
    exact ⟨w, hpart, v, h⟩
  · rintro ⟨w, hpart, v, h⟩
    exact ⟨w, v, hpart, h⟩

end

/-- What is read out of values as a struct of the type, and what is reported if nothing is. -/
structure ReadExactly (α : Type) [Marshal α] (type : StructType) : Prop where
  /-- A struct is read where one stands, with just its contents. -/
  ok_iff (v : Value) (x : α) :
    ofValue v = .ok x ↔ own.Stands (.struct type.name) v (toValue x)
  /-- What is reported is what is wrong first. -/
  error_iff (v : Value) (e : Error) :
    (ofValue v : Except Error α) = .error e ↔ own.Faulty (.struct type.name) v e
  /-- What is no struct of the name is of another kind. -/
  mismatch (v : Value) : (∀ fields, v ≠ .struct type.name fields) →
    (ofValue v : Except Error α) = .error (.typeMismatch (.struct type.name) v.kind)
  /-- What is wrong with a struct of the name is what is wrong with the first field declared that is
  missing or of which the first of its name is no such field. -/
  firstFault (fields : List (String × Value)) (e : Error) :
    (ofValue (.struct type.name fields) : Except Error α) = .error e ↔
      ∃ before a after, type.fields = before ++ a :: after ∧
        (∀ b ∈ before, ∃ w, (Value.struct type.name fields).field? b.field = some w ∧
          ∀ e, ¬ FieldError b.kind w e) ∧
        ((Value.struct type.name fields).field? a.field = none ∧
            e = .missingField type.name a.field ∨
          ∃ w, (Value.struct type.name fields).field? a.field = some w ∧ FieldError a.kind w e)
  /-- Of the fields only the first of each declared name matters. -/
  congr (fields fields' : List (String × Value)) :
    (∀ a ∈ type.fields, (Value.struct type.name fields).field? a.field =
      (Value.struct type.name fields').field? a.field) →
    (ofValue (.struct type.name fields) : Except Error α) = ofValue (.struct type.name fields')

/-- A struct type whose reading is settled is read exactly as its declaration says. -/
theorem Settled.readExactly {α : Type} [Marshal α] [LawfulMarshal α] (h : Settled α)
    {type : StructType} (htype : StructType.ofName? type.name = some type)
    (hkind : kind α = .struct type.name) (hfields : ∀ a ∈ type.fields, IsFieldKind a.kind) :
    ReadExactly α type where
  ok_iff v x := hkind ▸ h.ofValue_eq_ok_iff
  error_iff v e := hkind ▸ h.ofValue_eq_error_iff
  mismatch v hv := by
    rw [h.ofValue_eq_error_iff, hkind]
    exact .mismatch (not_fits_struct htype hv)
  firstFault fields e := by
    rw [h.ofValue_eq_error_iff, hkind, (opens_struct htype fields).faulty_iff,
      Source.fieldFault_iff]
    refine exists_congr fun before => exists_congr fun a => exists_congr fun after =>
      and_congr_right fun hsplit => ?_
    have hbefore : ∀ b ∈ before, IsFieldKind b.kind := by
      intro b hb
      exact hfields b (hsplit ▸ List.mem_append_left _ hb)
    have ha : IsFieldKind a.kind := hfields a (hsplit ▸ List.mem_append_right _ (.head _))
    refine and_congr (forall₂_congr fun b hb => gives_iff_fieldError (hbefore b hb)) ?_
    exact or_congr_right (exists_congr fun w => and_congr_right fun _ => faulty_iff_fieldError ha)
  congr fields fields' hsame := by
    have hread := h (.struct type.name fields)
    have hread' := h (.struct type.name fields')
    rw [hkind] at hread hread'
    exact map_toValue_injective
      (hread.eq_of_lookup (opens_struct htype fields) (opens_struct htype fields') hsame hread')

/-- A scalar is what the first field of the name holds. -/
theorem given_scalar_iff {kind : Kind} (hkind : ∀ name, kind ≠ .struct name) {v : Value}
    (hv : v.kind = kind) {parts : List (String × Value)} {field : String} :
    (∃ w, parts.lookup field = some w ∧ own.Stands kind w v) ↔ parts.lookup field = some v := by
  subst hv
  simp only [stands_scalar_iff hkind, exists_eq_right]

/-- The nested type is read from the first field of its name. -/
theorem ofValue_inner_eq_ok_iff (fields : List (String × Value)) (y : Inner) :
    Inner.ofValue (.struct "StructB" fields) = .ok y ↔
      (Value.struct "StructB" fields).field? "i32_field" = some (.int32 y.int32) := by
  have hopen : own.Opens "StructB" (.struct "StructB" fields) .inner fields := ⟨rfl, rfl⟩
  calc Inner.ofValue (.struct "StructB" fields) = .ok y
    _ ↔ own.Stands (.struct "StructB") (.struct "StructB" fields) y.toValue :=
      settled_inner.ofValue_eq_ok_iff
    _ ↔ own.StandEach fields StructType.inner.fields [("i32_field", .int32 y.int32)] :=
      hopen.stands_struct_iff
    _ ↔ (∃ w, fields.lookup "i32_field" = some w ∧ own.Stands .int32 w (.int32 y.int32)) ∧
        own.StandEach fields [] [] := Source.standEach_cons_iff
    _ ↔ fields.lookup "i32_field" = some (.int32 y.int32) := by
      rw [and_iff_left .nil]
      exact given_scalar_iff (by nofun) (by rfl)

/-- The outer type is read from the first field of each of its four names. -/
theorem ofValue_outer_eq_ok_iff (fields : List (String × Value)) (x : Outer) :
    Outer.ofValue (.struct "StructA" fields) = .ok x ↔
      (Value.struct "StructA" fields).field? "i32_field" = some (.int32 x.int32) ∧
      (Value.struct "StructA" fields).field? "bool_field" = some (.bool x.bool) ∧
      (Value.struct "StructA" fields).field? "string_field" = some (.string x.string) ∧
      ∃ w, (Value.struct "StructA" fields).field? "struct_field" = some w ∧
        Inner.ofValue w = .ok x.inner := by
  have hopen : own.Opens "StructA" (.struct "StructA" fields) .outer fields := ⟨rfl, rfl⟩
  calc Outer.ofValue (.struct "StructA" fields) = .ok x
    _ ↔ own.Stands (.struct "StructA") (.struct "StructA" fields) x.toValue :=
      settled_outer.ofValue_eq_ok_iff
    _ ↔ own.StandEach fields StructType.outer.fields
          [("i32_field", .int32 x.int32), ("bool_field", .bool x.bool),
            ("string_field", .string x.string), ("struct_field", x.inner.toValue)] :=
      hopen.stands_struct_iff
    _ ↔ (∃ w, fields.lookup "i32_field" = some w ∧ own.Stands .int32 w (.int32 x.int32)) ∧
        (∃ w, fields.lookup "bool_field" = some w ∧ own.Stands .bool w (.bool x.bool)) ∧
        (∃ w, fields.lookup "string_field" = some w ∧ own.Stands .string w (.string x.string)) ∧
        (∃ w, fields.lookup "struct_field" = some w ∧
          own.Stands (.struct "StructB") w x.inner.toValue) ∧ own.StandEach fields [] [] := by
      refine Source.standEach_cons_iff.trans (and_congr_right fun _ => ?_)
      refine Source.standEach_cons_iff.trans (and_congr_right fun _ => ?_)
      exact Source.standEach_cons_iff.trans (and_congr_right fun _ => Source.standEach_cons_iff)
    _ ↔ _ := by
      refine and_congr (given_scalar_iff (by nofun) (by rfl)) ?_
      refine and_congr (given_scalar_iff (by nofun) (by rfl)) ?_
      refine and_congr (given_scalar_iff (by nofun) (by rfl)) ?_
      rw [and_iff_left .nil]
      exact exists_congr fun w => and_congr_right fun _ => settled_inner.ofValue_eq_ok_iff.symm

/-- Both structs are read from just the values in which every declared field stands, whatever the
order of the fields and whatever else is in the list; anything else has the first fault. -/
theorem ofValue_exact : (ReadExactly Inner .inner ∧
      ∀ fields (y : Inner), Inner.ofValue (.struct "StructB" fields) = .ok y ↔
        (Value.struct "StructB" fields).field? "i32_field" = some (.int32 y.int32)) ∧
    ReadExactly Outer .outer ∧
      ∀ fields (x : Outer), Outer.ofValue (.struct "StructA" fields) = .ok x ↔
        (Value.struct "StructA" fields).field? "i32_field" = some (.int32 x.int32) ∧
        (Value.struct "StructA" fields).field? "bool_field" = some (.bool x.bool) ∧
        (Value.struct "StructA" fields).field? "string_field" = some (.string x.string) ∧
        ∃ w, (Value.struct "StructA" fields).field? "struct_field" = some w ∧
          Inner.ofValue w = .ok x.inner := by
  refine ⟨⟨?_, ofValue_inner_eq_ok_iff⟩, ?_, ofValue_outer_eq_ok_iff⟩
  · exact settled_inner.readExactly rfl rfl (by decide)
  · exact settled_outer.readExactly rfl rfl (by decide)

end Marshal

end BoundaryContract
