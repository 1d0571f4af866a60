import BoundaryContract.Error
import BoundaryContract.Value
import Mathlib.Data.List.Forall2

/-!
# Reading by kind

Values are read by kind from more than one form: from other values when they are marshaled, and
from plain JSON. A `Source` says what is found in such a form at first sight, which is a scalar or
parts under names. Everything else is the same for all of them and follows the declarations of the
surface. `Source.Stands` says for which value of a kind something stands: a struct for the declared
fields in the declared order, each with the value for which the first part of its name stands.
`Source.Faulty` says what is wrong with everything else: the first declared field that is missing
or stands for nothing decides.

Whatever is read stands for one value or has one fault, and not both (`Stands.unique`,
`Faulty.unique`, `Faulty.not_stands`). So a reader whose results are settled by these relations
(`Source.Settles`) is known exactly (`Settles.eq_ok_iff`, `Settles.eq_error_iff`).
-/

namespace BoundaryContract

/-- A form of data that values are read from by kind. -/
structure Source (α : Type) where
  /-- The value that is found if it is no struct. -/
  scalar? : α → Option Value
  /-- What is found under names if it may be a struct of the type. -/
  parts? : StructType → α → Option (List (String × α))
  /-- The kind of what is found, as a mismatch reports it. -/
  kind : α → Kind

namespace Source

variable {α : Type}

/-- What is found may be the struct of this name of the surface, and these are its parts. -/
structure Opens (src : Source α) (name : String) (x : α) (type : StructType)
    (parts : List (String × α)) : Prop where
  declared : StructType.ofName? name = some type
  found : src.parts? type x = some parts

/-- What is found is of the kind at first sight. -/
def Fits (src : Source α) : Kind → α → Prop
  | .struct name, x => ∃ type parts, src.Opens name x type parts
  | kind, x => ∃ v, src.scalar? x = some v ∧ v.kind = kind

mutual

/-- What is found stands for the value of the kind. -/
inductive Stands (src : Source α) : Kind → α → Value → Prop
  | unit {x : α} (h : src.scalar? x = some .unit) : Stands src .unit x .unit
  | int32 {x : α} {n : Int32} (h : src.scalar? x = some (.int32 n)) : Stands src .int32 x (.int32 n)
  | bool {x : α} {b : Bool} (h : src.scalar? x = some (.bool b)) : Stands src .bool x (.bool b)
  | string {x : α} {s : String} (h : src.scalar? x = some (.string s)) :
    Stands src .string x (.string s)
  /-- A struct of the surface stands for the declared fields in the order of their declaration. -/
  | struct {x : α} {name : String} {type : StructType} {parts : List (String × α)}
    {fields : List (String × Value)} (hopen : src.Opens name x type parts)
    (h : StandEach src parts type.fields fields) :
    Stands src (.struct name) x (.struct name fields)

/-- The fields listed are the declared ones in their order, and for the value of each of them the
first part of its name stands. -/
inductive StandEach (src : Source α) :
    List (String × α) → List Accessor → List (String × Value) → Prop
  | nil {parts : List (String × α)} : StandEach src parts [] []
  | cons {parts : List (String × α)} {a : Accessor} {accessors : List Accessor} {x : α} {v : Value}
    {fields : List (String × Value)} (hpart : parts.lookup a.field = some x)
    (h : Stands src a.kind x v) (hrest : StandEach src parts accessors fields) :
    StandEach src parts (a :: accessors) ((a.field, v) :: fields)

end

/-- The first part of the name of the field stands for a value of its kind. -/
def Gives (src : Source α) (parts : List (String × α)) (a : Accessor) : Prop :=
  ∃ x v, parts.lookup a.field = some x ∧ src.Stands a.kind x v

/-- The field is the first of those declared that is not given. -/
inductive FirstUnmet (src : Source α) (parts : List (String × α)) :
    List Accessor → Accessor → Prop
  | here {a : Accessor} {accessors : List Accessor} (h : ¬ src.Gives parts a) :
    FirstUnmet src parts (a :: accessors) a
  | later {a b : Accessor} {accessors : List Accessor} (h : src.Gives parts b)
    (hrest : FirstUnmet src parts accessors a) : FirstUnmet src parts (b :: accessors) a

/-- What is wrong with what is found if a value of the kind is asked for. -/
inductive Faulty (src : Source α) : Kind → α → Error → Prop
  | mismatch {kind : Kind} {x : α} (h : ¬ src.Fits kind x) :
    Faulty src kind x (.typeMismatch kind (src.kind x))
  /-- The first field of a struct that is not given is missing. -/
  | missing {x : α} {name : String} {type : StructType} {parts : List (String × α)} {a : Accessor}
    (hopen : src.Opens name x type parts) (hfirst : src.FirstUnmet parts type.fields a)
    (h : parts.lookup a.field = none) :
    Faulty src (.struct name) x (.missingField name a.field)
  /-- The first field of a struct that is not given is there and faulty itself. -/
  | field {x y : α} {name : String} {type : StructType} {parts : List (String × α)} {a : Accessor}
    {e : Error} (hopen : src.Opens name x type parts)
    (hfirst : src.FirstUnmet parts type.fields a) (hpart : parts.lookup a.field = some y)
    (h : Faulty src a.kind y e) :
    Faulty src (.struct name) x e

variable {src : Source α}

/-! ### One value or one fault -/

/-- What may be the struct of a name is opened in one way. -/
theorem Opens.unique {name : String} {x : α} {type type' : StructType}
    {parts parts' : List (String × α)} (h : src.Opens name x type parts)
    (h' : src.Opens name x type' parts') : type = type' ∧ parts = parts' := by
  have htype : type = type' := Option.some.inj (h.declared.symm.trans h'.declared)
  subst htype
  exact ⟨rfl, Option.some.inj (h.found.symm.trans h'.found)⟩

mutual

/-- What is found stands for one value only. -/
theorem Stands.unique {kind : Kind} {x : α} {v v' : Value} (h : src.Stands kind x v)
    (h' : src.Stands kind x v') : v = v' := by
  cases h with
  | unit h =>
    cases h'
    rfl
  | int32 h | bool h | string h =>
    cases h' with
    | _ h' =>
      rw [h, Option.some.injEq] at h'
      exact h'
  | struct hopen h =>
    cases h' with
    | struct hopen' h' =>
      obtain ⟨rfl, rfl⟩ := hopen.unique hopen'
      rw [h.unique h']

/-- The parts stand for one list of fields only. -/
theorem StandEach.unique {parts : List (String × α)} {accessors : List Accessor}
    {fields fields' : List (String × Value)} (h : src.StandEach parts accessors fields)
    (h' : src.StandEach parts accessors fields') : fields = fields' := by
  cases h with
  | nil =>
    cases h'
    rfl
  | cons hpart h hrest =>
    cases h' with
    | cons hpart' h' hrest' =>
      rw [hpart, Option.some.injEq] at hpart'
      rw [← hpart'] at h'
      rw [h.unique h', hrest.unique hrest']

end

variable {kind : Kind} {x : α} {v : Value} {e e' : Error} {parts parts' : List (String × α)}
  {a a' : Accessor} {accessors : List Accessor} {fields : List (String × Value)}

/-- What stands for a value of a kind is of the kind at first sight. -/
theorem Stands.fits (h : src.Stands kind x v) : src.Fits kind x := by
  cases h with
  | unit h | int32 h | bool h | string h => exact ⟨_, h, rfl⟩
  | struct hopen h => exact ⟨_, _, hopen⟩

/-- What stands for a value that is no struct is found to be that value. -/
theorem Stands.scalar?_eq (hkind : ∀ name, kind ≠ .struct name) (h : src.Stands kind x v) :
    src.scalar? x = some v := by
  cases h with
  | unit h | int32 h | bool h | string h => exact h
  | struct hopen h => exact absurd rfl (hkind _)

/-- Where no struct is asked for, the first sight is a scalar of the kind. -/
theorem fits_iff_of_ne_struct (hkind : ∀ name, kind ≠ .struct name) :
    src.Fits kind x ↔ ∃ v, src.scalar? x = some v ∧ v.kind = kind := by
  cases kind with
  | struct name => exact absurd rfl (hkind name)
  | unit | int32 | bool | string => exact Iff.rfl

/-- What is of a kind at first sight is a scalar or has parts. -/
theorem Fits.scalar_or_parts (h : src.Fits kind x) :
    (∃ v, src.scalar? x = some v ∧ v.kind = kind) ∨
      ∃ type parts, src.parts? type x = some parts := by
  cases kind with
  | struct name =>
    obtain ⟨type, parts, -, hparts⟩ := h
    exact .inr ⟨type, parts, hparts⟩
  | unit | int32 | bool | string => exact .inl h

/-- Parts that stand for the fields give every one of them. -/
theorem StandEach.gives (h : src.StandEach parts accessors fields) :
    ∀ a ∈ accessors, src.Gives parts a := by
  induction accessors generalizing fields with
  | nil => exact List.forall_mem_nil _
  | cons a accessors ih =>
    cases h with
    | cons hpart h hrest => exact List.forall_mem_cons.mpr ⟨⟨_, _, hpart, h⟩, ih hrest⟩

/-- The first field that is not given is a declared one. -/
theorem FirstUnmet.mem (h : src.FirstUnmet parts accessors a) : a ∈ accessors := by
  induction h with
  | here h => exact .head _
  | later h hrest ih => exact .tail _ ih

theorem FirstUnmet.not_gives (h : src.FirstUnmet parts accessors a) : ¬ src.Gives parts a := by
  induction h with
  | here h => exact h
  | later h hrest ih => exact ih

/-- There is one first field that is not given. -/
theorem FirstUnmet.unique (h : src.FirstUnmet parts accessors a)
    (h' : src.FirstUnmet parts accessors a') : a = a' := by
  induction h with
  | here h =>
    cases h' with
    | here h' => rfl
    | later h' hrest' => exact absurd h' h
  | later h hrest ih =>
    cases h' with
    | here h' => exact absurd h h'
    | later h' hrest' => exact ih hrest'

/-- The fields declared before the first that is not given are all given. -/
theorem firstUnmet_iff : src.FirstUnmet parts accessors a ↔ ∃ before after,
    accessors = before ++ a :: after ∧ (∀ b ∈ before, src.Gives parts b) ∧
      ¬ src.Gives parts a := by
  constructor
  · intro h
    induction h with
    | here h => exact ⟨[], _, rfl, List.forall_mem_nil _, h⟩
    | later h hrest ih =>
      obtain ⟨before, after, rfl, hbefore, hnot⟩ := ih
      exact ⟨_ :: before, after, rfl, List.forall_mem_cons.mpr ⟨h, hbefore⟩, hnot⟩
  · rintro ⟨before, after, rfl, hbefore, hnot⟩
    induction before with
    | nil => exact .here hnot
    | cons b before ih =>
      obtain ⟨hb, hbefore⟩ := List.forall_mem_cons.mp hbefore
      exact .later hb (ih hbefore)

/-- What is faulty stands for nothing. -/
theorem Faulty.not_stands (h : src.Faulty kind x e) : ¬ src.Stands kind x v := by
  intro h'
  cases h with
  | mismatch h => exact h h'.fits
  | missing hopen hfirst h | field hopen hfirst hpart h =>
    cases h' with
    | struct hopen' h' =>
      obtain ⟨rfl, rfl⟩ := hopen.unique hopen'
      exact hfirst.not_gives (h'.gives _ hfirst.mem)

/-- What is found has one fault at most. -/
theorem Faulty.unique (h : src.Faulty kind x e) (h' : src.Faulty kind x e') : e = e' := by
  -- two faults of one value can only be of one sort, and then they are about the same field
  induction h with
  | mismatch h =>
    cases h' with
    | mismatch h' => rfl
    | missing hopen' _ _ | field hopen' _ _ _ => exact absurd ⟨_, _, hopen'⟩ h
  | missing hopen hfirst h =>
    cases h' with
    | mismatch h' => exact absurd ⟨_, _, hopen⟩ h'
    | missing hopen' hfirst' h' =>
      obtain ⟨rfl, rfl⟩ := hopen.unique hopen'
      rw [hfirst.unique hfirst']
    | field hopen' hfirst' hpart' h' =>
      obtain ⟨rfl, rfl⟩ := hopen.unique hopen'
      rw [← hfirst.unique hfirst', h] at hpart'
      cases hpart'
  | field hopen hfirst hpart h ih =>
    cases h' with
    | mismatch h' => exact absurd ⟨_, _, hopen⟩ h'
    | missing hopen' hfirst' h' =>
      obtain ⟨rfl, rfl⟩ := hopen.unique hopen'
      rw [← hfirst.unique hfirst', hpart] at h'
      cases h'
    | field hopen' hfirst' hpart' h' =>
      obtain ⟨rfl, rfl⟩ := hopen.unique hopen'
      obtain rfl := hfirst.unique hfirst'
      rw [hpart, Option.some.injEq] at hpart'
      exact ih (hpart' ▸ h')

/-! ### Structs -/

/-- The fields stand side by side with the declared ones, each with the first part of its name. -/
theorem standEach_iff : src.StandEach parts accessors fields ↔
    List.Forall₂ (fun a f => f.1 = a.field ∧
      ∃ x, parts.lookup a.field = some x ∧ src.Stands a.kind x f.2) accessors fields := by
  constructor
  · intro h
    induction accessors generalizing fields with
    | nil =>
      cases h
      exact .nil
    | cons a accessors ih =>
      cases h with
      | cons hpart h hrest => exact .cons ⟨rfl, _, hpart, h⟩ (ih hrest)
  · intro h
    induction h with
    | nil => exact .nil
    | @cons a f _ _ hf _ ih =>
      obtain ⟨name, v⟩ := f
      obtain ⟨rfl, x, hpart, h⟩ := hf
      exact .cons hpart h ih

/-- The first field and the fields after it are given independently of each other. -/
theorem standEach_cons_iff : src.StandEach parts (a :: accessors) ((a.field, v) :: fields) ↔
    (∃ x, parts.lookup a.field = some x ∧ src.Stands a.kind x v) ∧
      src.StandEach parts accessors fields := by
  constructor
  · intro h
    cases h with
    | cons hpart h hrest => exact ⟨⟨_, hpart, h⟩, hrest⟩
  · rintro ⟨⟨x, hpart, h⟩, hrest⟩
    exact .cons hpart h hrest

/-- The first field that is not given is missing or faulty itself. -/
def FieldFault (src : Source α) (owner : String) (parts : List (String × α))
    (accessors : List Accessor) (e : Error) : Prop :=
  ∃ a, src.FirstUnmet parts accessors a ∧
    (parts.lookup a.field = none ∧ e = .missingField owner a.field ∨
      ∃ x, parts.lookup a.field = some x ∧ src.Faulty a.kind x e)

/-- Everything declared before a field with a fault is given. -/
theorem fieldFault_iff {owner : String} : src.FieldFault owner parts accessors e ↔
    ∃ before a after, accessors = before ++ a :: after ∧ (∀ b ∈ before, src.Gives parts b) ∧
      (parts.lookup a.field = none ∧ e = .missingField owner a.field ∨
        ∃ x, parts.lookup a.field = some x ∧ src.Faulty a.kind x e) := by
  constructor
  · rintro ⟨a, hfirst, hfault⟩
    obtain ⟨before, after, haccessors, hbefore, -⟩ := firstUnmet_iff.mp hfirst
    exact ⟨before, a, after, haccessors, hbefore, hfault⟩
  · rintro ⟨before, a, after, haccessors, hbefore, hfault⟩
    refine ⟨a, firstUnmet_iff.mpr ⟨before, after, haccessors, hbefore, ?_⟩, hfault⟩
    -- a field with a fault is not given
    rintro ⟨y, v, hpart, hstands⟩
    obtain ⟨hnone, -⟩ | ⟨x, hsome, hfault⟩ := hfault
    · rw [hnone] at hpart
      cases hpart
    · rw [hsome, Option.some.injEq] at hpart
      exact hfault.not_stands (hpart ▸ hstands)

namespace Opens

variable {name : String} {type : StructType}

/-- What is opened as a struct stands for the struct of the fields that its parts stand for. -/
theorem stands_iff (hopen : src.Opens name x type parts) :
    src.Stands (.struct name) x v ↔
      ∃ fields, v = .struct name fields ∧ src.StandEach parts type.fields fields := by
  constructor
  · intro h
    cases h with
    | struct hopen' h =>
      obtain ⟨rfl, rfl⟩ := hopen.unique hopen'
      exact ⟨_, rfl, h⟩
  · rintro ⟨fields, rfl, h⟩
    exact .struct hopen h

/-- Whether it stands for given fields is a matter of the parts. -/
theorem stands_struct_iff (hopen : src.Opens name x type parts) :
    src.Stands (.struct name) x (.struct name fields) ↔ src.StandEach parts type.fields fields := by
  rw [hopen.stands_iff]
  constructor
  · rintro ⟨fields', heq, h⟩
    cases heq
    exact h
  · exact fun h => ⟨fields, rfl, h⟩

/-- What is opened as a struct has no fault but those of its fields. -/
theorem faulty_iff (hopen : src.Opens name x type parts) :
    src.Faulty (.struct name) x e ↔ src.FieldFault name parts type.fields e := by
  constructor
  · intro h
    cases h with
    | mismatch h => exact absurd ⟨_, _, hopen⟩ h
    | missing hopen' hfirst h =>
      obtain ⟨rfl, rfl⟩ := hopen.unique hopen'
      exact ⟨_, hfirst, .inl ⟨h, rfl⟩⟩
    | field hopen' hfirst hpart h =>
      obtain ⟨rfl, rfl⟩ := hopen.unique hopen'
      exact ⟨_, hfirst, .inr ⟨_, hpart, h⟩⟩
  · rintro ⟨a, hfirst, ⟨h, rfl⟩ | ⟨y, hpart, h⟩⟩
    · exact .missing hopen hfirst h
    · exact .field hopen hfirst hpart h

end Opens

/-! ### What the parts settle -/

theorem mem_of_lookup {name : String} (h : parts.lookup name = some x) : (name, x) ∈ parts := by
  obtain ⟨before, after, rfl, -⟩ := List.lookup_eq_some_iff.mp h
  exact List.mem_append_right _ (.head _)

/-- Where no name is used for two different parts, their order does not matter. -/
theorem lookup_eq_of_perm {name : String} (hperm : parts.Perm parts')
    (honly : ∀ x y, (name, x) ∈ parts → (name, y) ∈ parts → x = y) :
    parts.lookup name = parts'.lookup name := by
  cases hx : parts.lookup name with
  | some x =>
    cases hy : parts'.lookup name with
    | some y => rw [honly x y (mem_of_lookup hx) (hperm.mem_iff.mpr (mem_of_lookup hy))]
    | none =>
      have hne := List.lookup_eq_none_iff.mp hy _ (hperm.mem_iff.mp (mem_of_lookup hx))
      exact absurd rfl (bne_iff_ne.mp hne)
  | none =>
    refine (List.lookup_eq_none_iff.mpr fun part hpart => ?_).symm
    exact List.lookup_eq_none_iff.mp hx part (hperm.mem_iff.mpr hpart)

/-- What a struct stands for depends on the parts of the declared names only, and of each name on
the first. -/
theorem StandEach.congr (hparts : ∀ a ∈ accessors, parts.lookup a.field = parts'.lookup a.field)
    (h : src.StandEach parts accessors fields) : src.StandEach parts' accessors fields := by
  induction accessors generalizing fields with
  | nil =>
    cases h
    exact .nil
  | cons a accessors ih =>
    obtain ⟨ha, haccessors⟩ := List.forall_mem_cons.mp hparts
    cases h with
    | cons hpart h hrest => exact .cons (ha ▸ hpart) h (ih haccessors hrest)

theorem gives_congr (h : parts.lookup a.field = parts'.lookup a.field) :
    src.Gives parts a ↔ src.Gives parts' a := by
  rw [Gives, Gives, h]

/-- The first field that is not given depends on the parts of the declared names only. -/
theorem FirstUnmet.congr (hparts : ∀ a ∈ accessors, parts.lookup a.field = parts'.lookup a.field)
    (h : src.FirstUnmet parts accessors a) : src.FirstUnmet parts' accessors a := by
  induction h with
  | here h => exact .here fun h' => h ((gives_congr (hparts _ (.head _))).mpr h')
  | later h hrest ih =>
    obtain ⟨hb, haccessors⟩ := List.forall_mem_cons.mp hparts
    exact .later ((gives_congr hb).mp h) (ih haccessors)

/-- So does what is wrong with it. -/
theorem FieldFault.congr {owner : String}
    (hparts : ∀ a ∈ accessors, parts.lookup a.field = parts'.lookup a.field)
    (h : src.FieldFault owner parts accessors e) : src.FieldFault owner parts' accessors e := by
  obtain ⟨a, hfirst, hfault⟩ := h
  refine ⟨a, hfirst.congr hparts, ?_⟩
  rwa [← hparts a hfirst.mem]

/-! ### Readers -/

/-- The result of a reader is the value for which stands what is found, or what is wrong with it. -/
def Settles (src : Source α) (kind : Kind) (x : α) : Except Error Value → Prop
  | .ok v => src.Stands kind x v
  | .error e => src.Faulty kind x e

namespace Settles

variable {r : Except Error Value}

/-- A reader that settles what it reads succeeds with what that stands for. -/
theorem eq_ok_iff (h : src.Settles kind x r) : r = .ok v ↔ src.Stands kind x v := by
  cases r with
  | ok w =>
    rw [Except.ok.injEq]
    constructor
    · rintro rfl
      exact h
    · exact h.unique
  | error e => exact ⟨nofun, fun hv => absurd hv h.not_stands⟩

/-- A reader that settles what it reads fails with what is wrong with that. -/
theorem eq_error_iff (h : src.Settles kind x r) : r = .error e ↔ src.Faulty kind x e := by
  cases r with
  | ok w => exact ⟨nofun, fun he => absurd h he.not_stands⟩
  | error e' =>
    rw [Except.error.injEq]
    constructor
    · rintro rfl
      exact h
    · exact h.unique

/-- What is settled either stands for something or is faulty. -/
theorem exists_stands_iff (h : src.Settles kind x r) :
    (∃ v, src.Stands kind x v) ↔ ∀ e, ¬ src.Faulty kind x e := by
  constructor
  · rintro ⟨v, hv⟩ e he
    exact he.not_stands hv
  · intro hnone
    cases r with
    | ok v => exact ⟨v, h⟩
    | error e => exact absurd h (hnone e)

end Settles

/-- A scalar is read by its own kind only. -/
theorem settles_scalar (h : src.Stands v.kind x v) (hscalar : src.scalar? x = some v)
    (hparts : ∀ type, src.parts? type x = none) :
    src.Settles kind x
      (if kind = v.kind then .ok v else .error (.typeMismatch kind (src.kind x))) := by
  by_cases hkind : kind = v.kind
  · rw [if_pos hkind, hkind]
    exact h
  · rw [if_neg hkind]
    refine .mismatch fun hfits => ?_
    obtain ⟨w, hw, rfl⟩ | ⟨type, parts, hsome⟩ := hfits.scalar_or_parts
    · rw [hscalar, Option.some.injEq] at hw
      exact hkind (congrArg Value.kind hw.symm)
    · rw [hparts] at hsome
      cases hsome

/-- What is neither a scalar nor has parts is read by no kind. -/
theorem settles_mismatch (hscalar : src.scalar? x = none)
    (hparts : ∀ type, src.parts? type x = none) :
    src.Settles kind x (.error (.typeMismatch kind (src.kind x))) := by
  refine .mismatch fun hfits => ?_
  obtain ⟨w, hw, -⟩ | ⟨type, parts, hsome⟩ := hfits.scalar_or_parts
  · rw [hscalar] at hw
    cases hw
  · rw [hparts] at hsome
    cases hsome

/-- What is read of a struct depends on the first part of each declared name only. -/
theorem Settles.eq_of_lookup {name : String} {type : StructType} {x' : α}
    {r r' : Except Error Value} (hopen : src.Opens name x type parts)
    (hopen' : src.Opens name x' type parts')
    (hparts : ∀ a ∈ type.fields, parts.lookup a.field = parts'.lookup a.field)
    (h : src.Settles (.struct name) x r) (h' : src.Settles (.struct name) x' r') : r = r' := by
  cases r with
  | ok v =>
    obtain ⟨fields, rfl, hfields⟩ := hopen.stands_iff.mp h
    exact (h'.eq_ok_iff.mpr (hopen'.stands_iff.mpr ⟨fields, rfl, hfields.congr hparts⟩)).symm
  | error e =>
    have hfault : src.FieldFault name parts type.fields e := hopen.faulty_iff.mp h
    exact (h'.eq_error_iff.mpr (hopen'.faulty_iff.mpr (hfault.congr hparts))).symm

/-- The result of a reader of fields is the list of them, or what is wrong with the first that is
not given. -/
def SettlesEach (src : Source α) (owner : String) (parts : List (String × α))
    (accessors : List Accessor) : Except Error (List (String × Value)) → Prop
  | .ok fields => src.StandEach parts accessors fields
  | .error e => src.FieldFault owner parts accessors e

/-- A reader of a struct settles what it reads if it settles the declared fields. -/
theorem SettlesEach.settles {name : String} {type : StructType}
    {r : Except Error (List (String × Value))} (hopen : src.Opens name x type parts)
    (h : src.SettlesEach name parts type.fields r) :
    src.Settles (.struct name) x (r.map (.struct name)) := by
  cases r with
  | ok fields => exact .struct hopen h
  | error e => exact hopen.faulty_iff.mpr h

namespace SettlesEach

variable {owner : String} {r : Except Error (List (String × Value))}

/-- What is settled of the fields depends on the parts of the declared names only. -/
theorem congr (hparts : ∀ a ∈ accessors, parts.lookup a.field = parts'.lookup a.field)
    (h : src.SettlesEach owner parts accessors r) : src.SettlesEach owner parts' accessors r := by
  cases r with
  | ok fields => exact StandEach.congr hparts h
  | error e => exact FieldFault.congr hparts h

theorem nil : src.SettlesEach owner parts [] (.ok []) := StandEach.nil

/-- A first field without a part is missing, whatever comes after it. -/
theorem missing (h : parts.lookup a.field = none) :
    src.SettlesEach owner parts (a :: accessors) (.error (.missingField owner a.field)) := by
  refine ⟨a, .here ?_, .inl ⟨h, rfl⟩⟩
  rintro ⟨x, v, hpart, -⟩
  rw [h] at hpart
  cases hpart

/-- A first field whose part is faulty hands its fault on. -/
theorem faulty (hpart : parts.lookup a.field = some x) (h : src.Faulty a.kind x e) :
    src.SettlesEach owner parts (a :: accessors) (.error e) := by
  refine ⟨a, .here ?_, .inr ⟨x, hpart, h⟩⟩
  rintro ⟨y, v, hpart', hstands⟩
  rw [hpart, Option.some.injEq] at hpart'
  exact h.not_stands (hpart' ▸ hstands)

/-- Where the first field is given, the fields after it decide. -/
theorem cons (hpart : parts.lookup a.field = some x) (h : src.Stands a.kind x v)
    (hrest : src.SettlesEach owner parts accessors r) :
    src.SettlesEach owner parts (a :: accessors) (r.map ((a.field, v) :: ·)) := by
  cases r with
  | ok fields => exact .cons hpart h hrest
  | error e =>
    obtain ⟨b, hfirst, hfault⟩ := hrest
    exact ⟨b, .later ⟨x, v, hpart, h⟩ hfirst, hfault⟩

end SettlesEach

end Source

end BoundaryContract
