import BoundaryContract.Proofs.Call.Arguments
import BoundaryContract.Proofs.Dispatch
import BoundaryContract.Proofs.Reading.Marshal
import BoundaryContract.Proofs.Reading.Plain

/-!
# What a mismatch names

A mismatch names the kind that was asked for and the kind that was found. What is found is
classified on its own (`Source.kind`), and not by what the reader accepts. So the two kinds differ
where the classification is as fine as the reader (`Source.Discerns`): whatever is classified as a
kind is of that kind at first sight. Values are classified like that, and arguments are refused for
their kind alone, so there a mismatch always names two kinds.

Plain JSON is not. Every number is classified as an integer, but only an integer of 32 bits is read,
and a mismatch about any other number names one kind twice. It is the only one that does
(`Inquiry.mismatches_exact`); which part of a value it is about is told by `Source.Reaches`.
-/

namespace BoundaryContract

/-! ### Kinds and their names -/

namespace Kind

/-- The kinds on the surface. -/
def onSurface : List Kind :=
  [.unit, .int32, .bool, .string] ++ StructType.all.map fun type => .struct type.name

/-- The kinds by which a mismatch may tell what was found. -/
def reported : List Kind := .unknownStruct :: onSurface

variable {kind : Kind} {name : String} {type : StructType}

/-- The kind of a declared struct is on the surface. -/
theorem struct_mem_onSurface (h : StructType.ofName? name = some type) :
    .struct name ∈ onSurface := by
  have hfind : StructType.all.find? (fun s => s.name = name) = some type := h
  have hname : type.name = name := by simpa using List.find?_some hfind
  exact List.mem_append_right _
    (List.mem_map.mpr ⟨type, List.mem_of_find?_eq_some hfind, congrArg Kind.struct hname⟩)

/-- A kind of structs that is on the surface is declared. -/
theorem exists_of_struct_mem (h : .struct name ∈ onSurface) :
    ∃ type, StructType.ofName? name = some type ∧ type.name = name := by
  obtain h | h := List.mem_append.mp h
  · simp at h
  · obtain ⟨type, htype, hname⟩ := List.mem_map.mp h
    have hdeclared : ∀ type ∈ StructType.all, StructType.ofName? type.name = some type := by decide
    obtain rfl := Kind.struct.inj hname
    exact ⟨type, hdeclared type htype, rfl⟩

/-- No declared struct has the name that stands for an unknown one. -/
theorem unknownStruct_notMem_onSurface : unknownStruct ∉ onSurface := by decide

theorem mem_onSurface_of_field {a : Accessor} (h : StructType.ofName? name = some type)
    (ha : a ∈ type.fields) : a.kind ∈ onSurface := by
  have hfields : ∀ type ∈ StructType.all, ∀ a ∈ type.fields, a.kind ∈ onSurface := by decide
  exact hfields type (List.mem_of_find?_eq_some h) a ha

theorem mem_onSurface_of_param {f : Function} {p : Param} (hp : p ∈ f.signature.params) :
    p.kind ∈ onSurface := by
  revert p
  cases f <;> decide

/-- Different kinds have different names. -/
theorem typeName_inj : ∀ kind ∈ reported, ∀ kind' ∈ reported,
    kind.typeName = kind'.typeName → kind = kind' := by decide

end Kind

/-- Values are reported by kinds of the surface, or as an unknown struct. -/
theorem Value.kind_mem_reported (v : Value) : v.kind ∈ Kind.reported := by
  cases v with
  | struct name fields =>
    rw [kind]
    split
    · next h =>
      obtain ⟨type, htype⟩ := Option.isSome_iff_exists.mp h
      exact .tail _ (Kind.struct_mem_onSurface htype)
    · exact .head _
  | unit => exact (by decide : Kind.unit ∈ Kind.reported)
  | int32 n => exact (by decide : Kind.int32 ∈ Kind.reported)
  | bool b => exact (by decide : Kind.bool ∈ Kind.reported)
  | string s => exact (by decide : Kind.string ∈ Kind.reported)

/-- So is JSON, whatever it holds. -/
theorem Json.closestKind_mem_reported (json : Json) : json.closestKind ∈ Kind.reported := by
  cases json with
  | null => exact (by decide : Kind.unit ∈ Kind.reported)
  | bool b => exact (by decide : Kind.bool ∈ Kind.reported)
  | number n => exact (by decide : Kind.int32 ∈ Kind.reported)
  | string s => exact (by decide : Kind.string ∈ Kind.reported)
  | array items | object entries => exact .head _

/-- If the error is a mismatch, it names two different kinds, and in different words. -/
def Error.NamesTwo : Error → Prop
  | .typeMismatch expected found => expected ≠ found ∧ expected.typeName ≠ found.typeName
  | _ => True

theorem Error.namesTwo_of_ne {expected found : Kind} (hexpected : expected ∈ Kind.onSurface)
    (hfound : found ∈ Kind.reported) (hne : expected ≠ found) :
    (Error.typeMismatch expected found).NamesTwo :=
  ⟨hne, fun h => hne (Kind.typeName_inj _ (.tail _ hexpected) _ hfound h)⟩

/-! ### The part that a mismatch is about -/

namespace Source

variable {α : Type} {src : Source α} {kind expected found : Kind} {x y : α} {e : Error}

/-- A reader that asks for a kind gets to a part that should be of the other kind: it is the whole,
or is got to in the first field that is not given. -/
inductive Reaches (src : Source α) : Kind → α → Kind → α → Prop
  | whole {kind : Kind} {x : α} : Reaches src kind x kind x
  | field {kind : Kind} {x y z : α} {name : String} {type : StructType}
    {parts : List (String × α)} {a : Accessor} (hopen : src.Opens name x type parts)
    (hfirst : src.FirstUnmet parts type.fields a) (hpart : parts.lookup a.field = some y)
    (h : Reaches src a.kind y kind z) : Reaches src (.struct name) x kind z

/-- A mismatch is about a part that is not of its kind, and names that kind and what the part is
classified as. -/
theorem faulty_mismatch_iff : src.Faulty kind x (.typeMismatch expected found) ↔
    ∃ y, src.Reaches kind x expected y ∧ ¬ src.Fits expected y ∧ found = src.kind y := by
  constructor
  · intro h
    generalize he : Error.typeMismatch expected found = e at h
    induction h with
    | mismatch h =>
      cases he
      exact ⟨_, .whole, h, rfl⟩
    | missing hopen hfirst h => cases he
    | field hopen hfirst hpart h ih =>
      obtain ⟨y, hreach, hy⟩ := ih he
      exact ⟨y, .field hopen hfirst hpart hreach, hy⟩
  · rintro ⟨y, hreach, hfits, rfl⟩
    induction hreach with
    | whole => exact .mismatch hfits
    | field hopen hfirst hpart _ ih => exact .field hopen hfirst hpart (ih hfits)

/-- A reader that asks for a scalar gets to the whole and no further. -/
theorem reaches_iff_of_ne_struct (hkind : ∀ name, kind ≠ .struct name) :
    src.Reaches kind x expected y ↔ expected = kind ∧ y = x := by
  constructor
  · intro h
    cases h with
    | whole => exact ⟨rfl, rfl⟩
    | field hopen hfirst hpart h => exact absurd rfl (hkind _)
  · rintro ⟨rfl, rfl⟩
    exact .whole

/-- On the way into a struct only kinds of the surface are asked for. -/
theorem Reaches.mem_onSurface (h : src.Reaches kind x expected y) (hkind : kind ∈ Kind.onSurface) :
    expected ∈ Kind.onSurface := by
  induction h with
  | whole => exact hkind
  | field hopen hfirst _ _ ih =>
    exact ih (Kind.mem_onSurface_of_field hopen.declared hfirst.mem)

/-- Whatever is classified as the kind is of the kind at first sight. -/
def Discerns (src : Source α) (kind : Kind) : Prop := ∀ x, src.kind x = kind → src.Fits kind x

/-- A mismatch names two kinds unless it is about a part that is classified as the kind asked for
and is not of it. -/
theorem Faulty.namesTwo_or (hreported : ∀ x, src.kind x ∈ Kind.reported)
    (hkind : kind ∈ Kind.onSurface) (h : src.Faulty kind x e) : e.NamesTwo ∨
      ∃ expected y, e = .typeMismatch expected expected ∧ src.Reaches kind x expected y ∧
        ¬ src.Fits expected y ∧ src.kind y = expected := by
  cases e with
  | typeMismatch expected found =>
    obtain ⟨y, hreach, hfits, rfl⟩ := faulty_mismatch_iff.mp h
    by_cases hne : expected = src.kind y
    · exact .inr ⟨expected, y, by rw [← hne], hreach, hfits, hne.symm⟩
    · exact .inl (Error.namesTwo_of_ne (hreach.mem_onSurface hkind) (hreported y) hne)
  | missingField | arityMismatch | unknownFunction | json | conformance => exact .inl trivial

end Source

/-! ### Values -/

namespace Marshal

open Value (own)

variable {kind : Kind}

/-- Values are classified as finely as they are read. -/
theorem discerns_own (hkind : kind ∈ Kind.onSurface) : own.Discerns kind := by
  intro v hv
  cases kind with
  | unit | int32 | bool | string => exact (fits_scalar_iff (by nofun)).mpr hv
  | struct name =>
    obtain ⟨type, htype, rfl⟩ := Kind.exists_of_struct_mem hkind
    cases v with
    | struct name fields =>
      have hkinds : (Value.struct name fields).kind = .struct type.name := hv
      rw [Value.kind] at hkinds
      split at hkinds
      · obtain rfl := Kind.struct.inj hkinds
        exact ⟨type, fields, opens_struct htype fields⟩
      · rw [← hkinds] at hkind
        exact absurd hkind Kind.unknownStruct_notMem_onSurface
    | unit | int32 | bool | string => cases hv

/-- What is reported where a value is read as data of a type names two kinds, if it is a mismatch.
-/
theorem Settled.namesTwo {α : Type} [Marshal α] (h : Settled α)
    (hkind : Marshal.kind α ∈ Kind.onSurface) {v : Value} {e : Error}
    (he : (ofValue v : Except Error α) = .error e) : e.NamesTwo := by
  obtain htwo | ⟨expected, y, -, hreach, hfits, hy⟩ :=
    (h.ofValue_eq_error_iff.mp he).namesTwo_or Value.kind_mem_reported hkind
  · exact htwo
  · exact absurd (discerns_own (hreach.mem_onSurface hkind) y hy) hfits

/-- Reading the value without content is settled. -/
theorem settled_unit : Settled Unit := by
  intro v
  cases v with
  | unit => exact Source.Stands.unit rfl
  | int32 n | bool b | string s | struct name fields =>
    exact Source.Faulty.mismatch fun ⟨w, hw, hkind⟩ => by cases hw <;> cases hkind

end Marshal

/-! ### Calls by name -/

/-- Arguments of the wrong kind are refused for it, so the error names two kinds. -/
theorem Refused.namesTwo {name : String} {args : List Value} {e : Error} (h : Refused name args e) :
    e.NamesTwo := by
  cases h with
  | unknown h | arity f hname h => trivial
  | kind f hname hlength hparams hargs hbefore h =>
    have hp := Kind.mem_onSurface_of_param (f := f) (hparams ▸ List.mem_append_right _ (.head _))
    exact Error.namesTwo_of_ne hp (Value.kind_mem_reported _) h.symm

/-- Arguments that do not pass the check are refused with its error. -/
theorem refused_of_checkArgs {f : Function} {args : List Value} {e : Error}
    (h : f.signature.checkArgs args = .error e) : Refused f.signature.name args e := by
  rw [Signature.checkArgs] at h
  split at h
  · next hlength =>
    have hkinds : args.map Value.kind ≠ f.signature.params.map Param.kind := by
      intro hkinds
      rw [(Signature.checkKinds_eq_ok hlength).mpr hkinds] at h
      cases h
    obtain ⟨ps, p, qs, as, a, bs, hparams, rfl, hbefore, hne⟩ :=
      Signature.exists_mismatch hlength hkinds
    rw [hparams, Signature.checkKinds_of_mismatch hbefore hne, Except.error.injEq] at h
    subst h
    exact .kind f rfl hlength hparams rfl hbefore hne
  · next hlength =>
    rw [Except.error.injEq] at h
    subst h
    exact .arity f rfl hlength

/-- A call by name that fails is refused by the table. -/
theorem refused_of_invoke {σ ω ι : Type} {B : Boundary σ ω ι} {name : String} {args : List Value}
    {s : σ} {e : Error} (h : ((B.invoke name args).run s).value = .error e) :
    Refused name args e := by
  obtain ⟨e', hrefused⟩ | ⟨c, hnamed⟩ := refused_or_named name args
  · rw [hrefused.invoke, Action.run_pure, Except.error.injEq] at h
    rwa [← h]
  · rw [hnamed.invoke, Action.run_bind, Action.run_emit, Action.run_map] at h
    cases h

/-! ### Plain JSON -/

/-- The JSON is a number, and no integer of 32 bits. -/
def Json.IsOtherNumber (json : Json) : Prop :=
  (∃ n, json = .number n) ∧ ∀ n : Int32, json ≠ .int n.toInt

namespace Value

variable {kind : Kind} {json : Json} {e : Error}

/-- The only plain JSON that is classified as a kind of the surface and is not of it. -/
theorem not_fits_iff (hkind : kind ∈ Kind.onSurface) :
    ¬ Json.plain.Fits kind json ∧ kind = json.closestKind ↔ kind = .int32 ∧ json.IsOtherNumber := by
  constructor
  · rintro ⟨hfits, rfl⟩
    cases json with
    | null | bool b | string s => exact absurd ⟨_, rfl, rfl⟩ hfits
    | number n =>
      refine ⟨rfl, ⟨n, rfl⟩, fun m hm => hfits ?_⟩
      exact ⟨.int32 m, scalar?_eq_some_iff.mpr ⟨hm, by nofun⟩, rfl⟩
    | array items | object entries => exact absurd hkind Kind.unknownStruct_notMem_onSurface
  · rintro ⟨rfl, ⟨n, rfl⟩, hother⟩
    refine ⟨?_, rfl⟩
    rintro ⟨v, hv, hint⟩
    obtain ⟨m, rfl⟩ := eq_int32_of_kind hint
    exact hother m (scalar?_eq_some_iff.mp hv).1

/-- Reading plain JSON names two kinds, but for numbers that are no integers of 32 bits. -/
theorem ofJson_namesTwo_or (hkind : kind ∈ Kind.onSurface) (h : ofJson kind json = .error e) :
    e.NamesTwo ∨ e = .typeMismatch .int32 .int32 := by
  obtain htwo | ⟨expected, y, rfl, hreach, hfits, hy⟩ :=
    (ofJson_eq_error_iff.mp h).namesTwo_or Json.closestKind_mem_reported hkind
  · exact .inl htwo
  · obtain ⟨rfl, -⟩ := (not_fits_iff (hreach.mem_onSurface hkind)).mp ⟨hfits, hy.symm⟩
    exact .inr rfl

/-- One kind is named twice where the reader gets to a number that is no integer of 32 bits, and
asks for an integer there. -/
theorem ofJson_eq_error_int32_iff : ofJson kind json = .error (.typeMismatch .int32 .int32) ↔
    ∃ y, Json.plain.Reaches kind json .int32 y ∧ y.IsOtherNumber := by
  rw [ofJson_eq_error_iff, Source.faulty_mismatch_iff]
  refine exists_congr fun y => and_congr_right fun _ => ?_
  exact (not_fits_iff (by decide)).trans (and_iff_right rfl)

/-- A scalar is refused like that only as such a number where an integer is asked for. -/
theorem ofJson_eq_error_int32_iff_of_ne_struct (hkind : ∀ name, kind ≠ .struct name) :
    ofJson kind json = .error (.typeMismatch .int32 .int32) ↔
      kind = .int32 ∧ json.IsOtherNumber := by
  simp only [ofJson_eq_error_int32_iff, Source.reaches_iff_of_ne_struct hkind]
  constructor
  · rintro ⟨_, ⟨rfl, rfl⟩, hother⟩
    exact ⟨rfl, hother⟩
  · rintro ⟨rfl, hother⟩
    exact ⟨json, ⟨rfl, rfl⟩, hother⟩

end Value

/-! ### Literals -/

namespace Command.Call

variable {p : Param} {f : Function} {literal : String} {literals : List String}
  {e : BoundaryContract.Error}

/-- Structs are not written as arguments. -/
theorem ne_struct_of_hasLiterals {kind : Kind} (h : HasLiterals kind) (name : String) :
    kind ≠ .struct name := by
  rintro rfl
  obtain h | h | h := h <;> cases h

/-- An argument is refused for its kind once it has been read as JSON. -/
theorem parseArg_eq_core_iff : parseArg p literal = .error (.core e) ↔
    ∃ json, Json.read literal = .ok json ∧ Value.ofJson p.kind json = .error e := by
  cases hread : Json.read literal with
  | ok json =>
    rw [parseArg_of_read hread]
    simp only [Except.ok.injEq, exists_eq_left']
    cases Value.ofJson p.kind json with
    | ok v => exact ⟨nofun, nofun⟩
    | error e' =>
      show Except.error (Command.Error.core e') = Except.error (.core e) ↔ _
      rw [Except.error.injEq, Except.error.injEq, Command.Error.core.injEq]
  | error fault =>
    rw [parseArg_of_error hread]
    constructor
    · intro h
      split at h <;> cases h
    · rintro ⟨json, hjson, -⟩
      cases hjson

/-- A mismatch is about the first literal that is refused. -/
theorem parseArgs_eq_mismatch_iff {expected found : Kind} :
    parseArgs f.signature literals = .error (.core (.typeMismatch expected found)) ↔
      literals.length = f.signature.arity ∧ ∃ ps p qs ls l ms vs json,
        f.signature.params = ps ++ p :: qs ∧ literals = ls ++ l :: ms ∧ ConvertEach ps ls vs ∧
          Json.read l = .ok json ∧
            Value.ofJson p.kind json = .error (.typeMismatch expected found) := by
  have hparams : ∀ p ∈ f.signature.params, HasLiterals p.kind := fun p hp => hasLiterals_of_mem hp
  rw [parseArgs]
  split
  · next hlength =>
    rw [parseEach_eq_error hparams hlength]
    constructor
    · rintro ⟨ps, p, qs, ls, l, ms, vs, hsplit, hliterals, hbefore, h⟩
      have hp := hparams p (hsplit ▸ List.mem_append_right _ (.head _))
      obtain ⟨json, hread, h⟩ := parseArg_eq_core_iff.mp ((parseArg_eq_error hp).mpr h)
      exact ⟨hlength, ps, p, qs, ls, l, ms, vs, json, hsplit, hliterals, hbefore, hread, h⟩
    · rintro ⟨-, ps, p, qs, ls, l, ms, vs, json, hsplit, hliterals, hbefore, hread, h⟩
      have hp := hparams p (hsplit ▸ List.mem_append_right _ (.head _))
      have hrefused := (parseArg_eq_error hp).mp (parseArg_eq_core_iff.mpr ⟨json, hread, h⟩)
      exact ⟨ps, p, qs, ls, l, ms, vs, hsplit, hliterals, hbefore, hrefused⟩
  · next hlength =>
    constructor
    · intro h
      cases h
    · rintro ⟨h, -⟩
      exact absurd h hlength

/-- The arguments of a command name two kinds, but for the same numbers. -/
theorem parseArgs_namesTwo_or (h : parseArgs f.signature literals = .error (.core e)) :
    e.NamesTwo ∨ e = .typeMismatch .int32 .int32 := by
  cases e with
  | typeMismatch expected found =>
    obtain ⟨-, ps, p, qs, ls, l, ms, vs, json, hparams, -, -, -, h⟩ :=
      parseArgs_eq_mismatch_iff.mp h
    have hp : p ∈ f.signature.params := hparams ▸ List.mem_append_right _ (.head _)
    exact Value.ofJson_namesTwo_or (Kind.mem_onSurface_of_param hp) h
  | missingField | arityMismatch | unknownFunction | json | conformance => exact .inl trivial

/-- One kind is named twice where the first literal that is refused is a number, and the parameter
an integer. -/
theorem parseArgs_eq_error_int32_iff :
    parseArgs f.signature literals = .error (.core (.typeMismatch .int32 .int32)) ↔
      literals.length = f.signature.arity ∧ ∃ ps p qs ls l ms vs json,
        f.signature.params = ps ++ p :: qs ∧ literals = ls ++ l :: ms ∧ ConvertEach ps ls vs ∧
          Json.read l = .ok json ∧ p.kind = .int32 ∧ json.IsOtherNumber := by
  rw [parseArgs_eq_mismatch_iff]
  refine and_congr_right fun _ => exists_congr fun ps => exists_congr fun p => ?_
  refine exists_congr fun qs => exists_congr fun ls => exists_congr fun l => ?_
  refine exists_congr fun ms => exists_congr fun vs => exists_congr fun json => ?_
  refine and_congr_right fun hparams => and_congr_right fun _ => and_congr_right fun _ =>
    and_congr_right fun _ => ?_
  exact Value.ofJson_eq_error_int32_iff_of_ne_struct
    (ne_struct_of_hasLiterals (hasLiterals_of_mem (hparams ▸ List.mem_append_right _ (.head _))))

end Command.Call

/-! ### Everything that is asked for by kind -/

/-- What is read by kind, or checked for its kinds. -/
inductive Inquiry
  /-- A value, as data of a type. -/
  | unit (v : Value)
  | int32 (v : Value)
  | bool (v : Value)
  | string (v : Value)
  | inner (v : Value)
  | outer (v : Value)
  /-- The arguments of a function, checked. -/
  | arguments (f : Function) (args : List Value)
  /-- A call by name. -/
  | call (name : String) (args : List Value)
  /-- Plain JSON, by a kind on the surface. -/
  | plain (kind : {kind : Kind // kind ∈ Kind.onSurface}) (json : Json)
  /-- The arguments of a function, as literals. -/
  | literals (f : Function) (texts : List String)

namespace Inquiry

open Marshal (ofValue)
open Command.Call (parseArgs ConvertEach)

variable {q : Inquiry}

/-- The inquiry fails with the error; a call by name does so at some boundary in some state. -/
def Reports : Inquiry → Error → Prop
  | unit v, e => (ofValue v : Except Error Unit) = .error e
  | int32 v, e => (ofValue v : Except Error Int32) = .error e
  | bool v, e => (ofValue v : Except Error Bool) = .error e
  | string v, e => (ofValue v : Except Error String) = .error e
  | inner v, e => (ofValue v : Except Error Inner) = .error e
  | outer v, e => (ofValue v : Except Error Outer) = .error e
  | arguments f args, e => f.signature.checkArgs args = .error e
  | call name args, e => ∃ (σ ω ι : Type) (B : Boundary σ ω ι) (s : σ),
      ((B.invoke name args).run s).value = .error e
  | plain kind json, e => Value.ofJson kind json = .error e
  | literals f texts, e => parseArgs f.signature texts = .error (.core e)

/-- An integer is asked for, and a number is found that is no integer of 32 bits. In JSON the reader
gets to it; of literals it is the first that is refused. -/
def MeetsOtherNumber : Inquiry → Prop
  | plain kind json => ∃ y, Json.plain.Reaches kind json .int32 y ∧ y.IsOtherNumber
  | literals f texts => texts.length = f.signature.arity ∧ ∃ ps p qs ls l ms vs json,
      f.signature.params = ps ++ p :: qs ∧ texts = ls ++ l :: ms ∧ ConvertEach ps ls vs ∧
        Json.read l = .ok json ∧ p.kind = .int32 ∧ json.IsOtherNumber
  | _ => False

/-- The one kind that may be named twice is that of integers, and it is for such a number. -/
structure NamesTwoButForNumbers (q : Inquiry) : Prop where
  namesTwo_or (e : Error) : q.Reports e → e.NamesTwo ∨ e = .typeMismatch .int32 .int32
  reports_iff : q.Reports (.typeMismatch .int32 .int32) ↔ q.MeetsOtherNumber

/-- The mismatch about those numbers names one kind twice. -/
theorem not_namesTwo_int32 : ¬ (Error.typeMismatch .int32 .int32).NamesTwo :=
  fun h => h.1 rfl

/-- An inquiry that meets no such number names two kinds throughout. -/
theorem NamesTwoButForNumbers.of_namesTwo (h : ∀ e, q.Reports e → e.NamesTwo)
    (hother : ¬ q.MeetsOtherNumber) : q.NamesTwoButForNumbers where
  namesTwo_or e he := .inl (h e he)
  reports_iff := iff_of_false (fun he => not_namesTwo_int32 (h _ he)) hother

/-- Whatever is inquired, a mismatch names two kinds unless it is about such a number. -/
theorem namesTwoButForNumbers (q : Inquiry) : q.NamesTwoButForNumbers := by
  cases q with
  | unit v =>
    exact .of_namesTwo (fun _ => Marshal.settled_unit.namesTwo (by decide)) id
  | int32 v =>
    exact .of_namesTwo (fun _ => Marshal.settled_int32.namesTwo (by decide)) id
  | bool v =>
    exact .of_namesTwo (fun _ => Marshal.settled_bool.namesTwo (by decide)) id
  | string v =>
    exact .of_namesTwo (fun _ => Marshal.settled_string.namesTwo (by decide)) id
  | inner v =>
    exact .of_namesTwo (fun _ => Marshal.settled_inner.namesTwo (by decide)) id
  | outer v =>
    exact .of_namesTwo (fun _ => Marshal.settled_outer.namesTwo (by decide)) id
  | arguments f args =>
    exact .of_namesTwo (fun _ he => (refused_of_checkArgs he).namesTwo) id
  | call name args =>
    refine .of_namesTwo ?_ id
    rintro e ⟨σ, ω, ι, B, s, he⟩
    exact (refused_of_invoke he).namesTwo
  | plain kind json =>
    exact ⟨fun _ => Value.ofJson_namesTwo_or kind.2, Value.ofJson_eq_error_int32_iff⟩
  | literals f texts =>
    exact ⟨fun _ => Command.Call.parseArgs_namesTwo_or, Command.Call.parseArgs_eq_error_int32_iff⟩

/-- All the mismatches that are reported name two kinds unless an integer is asked for and another
number is found, and then an integer is said to be found. -/
theorem mismatches_exact (q : Inquiry) :
    ((∀ e, q.Reports e → e.NamesTwo) ↔ ¬ q.MeetsOtherNumber) ∧
      ∀ e, q.Reports e → ¬ e.NamesTwo → e = .typeMismatch .int32 .int32 := by
  obtain ⟨hor, hiff⟩ := q.namesTwoButForNumbers
  refine ⟨⟨fun htwo hmeets => ?_, fun hnone e he => ?_⟩, fun e he => (hor e he).resolve_left⟩
  · exact not_namesTwo_int32 (htwo _ (hiff.mpr hmeets))
  · obtain htwo | rfl := hor e he
    · exact htwo
    · exact absurd (hiff.mp he) hnone

/-- An integer of more than 32 bits is refused as an integer. -/
theorem large_refused_as_int32 :
    ¬ (∀ e, (plain ⟨.int32, by decide⟩ (.int 2147483648)).Reports e → e.NamesTwo) ∧
      Value.ofJson .int32 (.int 2147483648) = .error (.typeMismatch .int32 .int32) ∧
      (Error.typeMismatch .int32 .int32).message =
        "Type mismatch: expected Int32, found Int32" := by
  have hrefused : Value.ofJson .int32 (.int 2147483648) = .error (.typeMismatch .int32 .int32) := by
    decide
  exact ⟨fun h => not_namesTwo_int32 (h _ hrefused), hrefused, by decide⟩

end Inquiry

end BoundaryContract
