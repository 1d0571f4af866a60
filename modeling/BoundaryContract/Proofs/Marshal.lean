import BoundaryContract.Marshal
import BoundaryContract.Proofs.Invoke
import BoundaryContract.Proofs.Json.RoundTrip
import Mathlib.Data.List.Forall2

/-!
# Marshaling and plain JSON are inverses

Three descriptions of each struct have to agree on the names, the order and the kinds of its fields:
the one that marshals it, the surface, by which plain JSON is read, and the plain JSON itself, whose
entries are sorted by name. `LawfulMarshal` collects what the agreement means for one type, and is
shown for every type that crosses the boundary. What follows from it for any type is
`Marshal.Inverse`: nothing is lost on the way through a value, its plain JSON and the text of that,
and whatever JSON is accepted for the kind of the type stands for exactly one datum
(`marshal_inverse`).
-/

namespace BoundaryContract

namespace Value

/-! ### Reading plain JSON -/

/-- The fields of a struct are collected if each of them can be read, and in the order in which they
are declared. -/
theorem collectFields_eq_ok {owner : String} {read : Accessor → Option (Except Error Value)}
    {accessors : List Accessor} {fields : List (String × Value)} :
    collectFields owner read accessors = .ok fields ↔
      List.Forall₂ (fun a f => f.1 = a.field ∧ read a = some (.ok f.2)) accessors fields := by
  constructor
  · intro h
    induction accessors generalizing fields with
    | nil =>
      cases h
      exact .nil
    | cons a rest ih =>
      rw [collectFields] at h
      cases hread : read a with
      | none => simp [hread] at h
      | some result =>
        cases result with
        | error e => simp [hread] at h
        | ok value =>
          cases hrest : collectFields owner read rest with
          | error e => simp [hread, hrest, bind, Except.bind] at h
          | ok others =>
            rw [hread, hrest] at h
            cases h
            exact .cons ⟨rfl, hread⟩ (ih hrest)
  · intro h
    induction h with
    | nil => rfl
    | cons hf _ ih =>
      obtain ⟨hname, hread⟩ := hf
      rw [collectFields, hread, ih, ← hname]
      rfl

/-- An entry is read where it is found first. -/
theorem entryOfJson?_eq (kind : Kind) (key : String) (entries : List (String × Json)) :
    entryOfJson? kind key entries = (entries.lookup key).map (ofJson kind) := by
  induction entries with
  | nil => rfl
  | cons entry rest ih =>
    obtain ⟨k, json⟩ := entry
    rw [entryOfJson?, List.lookup_cons, ih]
    by_cases h : key = k
    · simp [h]
    · simp [h, beq_false_of_ne h]

/-- An object is read as a struct when its declared entries are read one by one. -/
theorem ofJson_object {name : String} {type : StructType} {entries : List (String × Json)}
    {fields : List (String × Value)} (htype : StructType.ofName? name = some type)
    (hfields : List.Forall₂ (fun a f => f.1 = a.field ∧
      entryOfJson? a.kind a.field entries = some (.ok f.2)) type.fields fields) :
    ofJson (.struct name) (.object entries) = .ok (.struct name fields) := by
  rw [ofJson, htype]
  dsimp only
  rw [collectFields_eq_ok.mpr hfields]

/-- A struct has the declared fields, and something was read for each of them. -/
theorem exists_of_ofJson_struct {name : String} {type : StructType} {json : Json} {v : Value}
    (htype : StructType.ofName? name = some type) (h : ofJson (.struct name) json = .ok v) :
    ∃ fields, v = .struct name fields ∧ List.Forall₂
      (fun a f => f.1 = a.field ∧ ∃ content, ofJson a.kind content = .ok f.2)
      type.fields fields := by
  cases json with
  | object entries =>
    rw [ofJson, htype] at h
    dsimp only at h
    split at h
    · next fields hfields =>
      cases h
      refine ⟨fields, rfl, (collectFields_eq_ok.mp hfields).imp fun a f hf => ?_⟩
      obtain ⟨hname, hread⟩ := hf
      rw [entryOfJson?_eq] at hread
      obtain ⟨content, -, hcontent⟩ := Option.map_eq_some_iff.mp hread
      exact ⟨hname, content, hcontent⟩
    · cases h
  | number n => cases n <;> simp [ofJson] at h
  | null | bool b | string s | array items => simp [ofJson] at h

/-- What is read by a kind is of that kind. -/
theorem kind_of_ofJson {kind : Kind} {json : Json} {v : Value} (h : ofJson kind json = .ok v) :
    v.kind = kind := by
  cases json with
  | null | bool b | string s =>
    rw [ofJson] at h
    split at h
    · next hkind =>
      cases h
      exact hkind.symm
    · cases h
  | number n =>
    cases n with
    | int z =>
      rw [ofJson] at h
      split at h
      · next hkind =>
        cases h
        exact hkind.1.symm
      · cases h
    | float x => cases h
  | array items => cases h
  | object entries =>
    cases kind with
    | struct name =>
      cases htype : StructType.ofName? name with
      | none => simp [ofJson, htype] at h
      | some type =>
        obtain ⟨fields, rfl, -⟩ := exists_of_ofJson_struct htype h
        simp [Value.kind, htype]
    | _ => cases h

theorem fitsInt32_toInt (n : Int32) : fitsInt32 n.toInt :=
  Bool.and_eq_true_iff.mpr ⟨decide_eq_true n.minValue_le_toInt, decide_eq_true n.toInt_le⟩

theorem fitsInt32_iff {z : Int} : fitsInt32 z ↔ -2147483648 ≤ z ∧ z ≤ 2147483647 := by
  rw [fitsInt32, Bool.and_eq_true_iff, decide_eq_true_iff, decide_eq_true_iff]
  exact Iff.rfl

theorem toInt_ofInt_of_fits {z : Int} (h : fitsInt32 z) : (Int32.ofInt z).toInt = z := by
  obtain ⟨hlow, hhigh⟩ := fitsInt32_iff.mp h
  exact Int32.toInt_ofInt_of_le hlow (by omega)

end Value

/-- An integer of 32 bits fits into 64. -/
theorem Json.fits64_toInt (n : Int32) : Fits64 n.toInt := by
  have hlow := n.le_toInt
  have hhigh := n.toInt_lt
  have hmin : Int64.minValue.toInt = -(2 ^ 63 : Int) := by decide
  have hsize : UInt64.size = 2 ^ 64 := rfl
  constructor <;> omega

/-! ### Lawful marshaling -/

/-- The marshaling of a type agrees with the kind it claims and with plain JSON. -/
class LawfulMarshal (α : Type) [Marshal α] : Prop where
  ofValue_toValue (x : α) : Marshal.ofValue (Marshal.toValue x) = .ok x
  kind_toValue (x : α) : (Marshal.toValue x).kind = Marshal.kind α
  /-- Reading plain JSON by the kind undoes writing it. -/
  ofJson_toJson (x : α) :
    Value.ofJson (Marshal.kind α) (Marshal.toValue x).toJson = .ok (Marshal.toValue x)
  /-- Whatever is read by the kind is the value of a datum. -/
  exists_toValue {json : Json} {v : Value} : Value.ofJson (Marshal.kind α) json = .ok v →
    ∃ x : α, v = Marshal.toValue x
  /-- The plain JSON can be printed and read. -/
  printable (x : α) : (Marshal.toValue x).toJson.Printable

/-- Different data have different values. -/
theorem LawfulMarshal.toValue_injective (α : Type) [Marshal α] [LawfulMarshal α] :
    Function.Injective (Marshal.toValue : α → Value) := by
  intro x y hxy
  have h : Marshal.ofValue (Marshal.toValue x) = .ok y := by rw [hxy, ofValue_toValue]
  exact Except.ok.inj ((ofValue_toValue x).symm.trans h)

open Value

instance : LawfulMarshal Unit where
  ofValue_toValue _ := rfl
  kind_toValue _ := rfl
  ofJson_toJson _ := rfl
  exists_toValue h := ⟨(), eq_unit_of_kind (kind_of_ofJson h)⟩
  printable _ := ⟨trivial, rfl, Nat.zero_le _⟩

instance : LawfulMarshal Int32 where
  ofValue_toValue _ := rfl
  kind_toValue _ := rfl
  ofJson_toJson n := by
    show ofJson .int32 (.number (.int n.toInt)) = .ok (.int32 n)
    rw [ofJson, if_pos ⟨rfl, fitsInt32_toInt n⟩, Int32.ofInt_toInt]
  exists_toValue h := eq_int32_of_kind (kind_of_ofJson h)
  printable n := ⟨Json.fits64_toInt n, rfl, Nat.zero_le _⟩

instance : LawfulMarshal Bool where
  ofValue_toValue _ := rfl
  kind_toValue _ := rfl
  ofJson_toJson _ := rfl
  exists_toValue h := eq_bool_of_kind (kind_of_ofJson h)
  printable _ := ⟨trivial, rfl, Nat.zero_le _⟩

instance : LawfulMarshal String where
  ofValue_toValue _ := rfl
  kind_toValue _ := rfl
  ofJson_toJson _ := rfl
  exists_toValue h := eq_string_of_kind (kind_of_ofJson h)
  printable _ := ⟨trivial, rfl, Nat.zero_le _⟩

theorem Inner.toJson_toValue (y : Inner) :
    y.toValue.toJson = .object [("i32_field", .int y.int32.toInt)] := rfl

instance : LawfulMarshal Inner where
  ofValue_toValue _ := rfl
  kind_toValue _ := rfl
  ofJson_toJson y :=
    ofJson_object (show StructType.ofName? "StructB" = some .inner from rfl)
      (.cons ⟨rfl, congrArg some (LawfulMarshal.ofJson_toJson y.int32)⟩ .nil)
  exists_toValue h := by
    obtain ⟨fields, rfl, hfields⟩ := exists_of_ofJson_struct
      (show StructType.ofName? "StructB" = some .inner from rfl) h
    obtain ⟨⟨_, v⟩, _, ⟨rfl, _, hv⟩, hrest, rfl⟩ := List.forall₂_cons_left_iff.mp hfields
    obtain rfl := List.forall₂_nil_left_iff.mp hrest
    obtain ⟨n, rfl⟩ := eq_int32_of_kind (kind_of_ofJson hv)
    exact ⟨⟨n⟩, rfl⟩
  printable y := by
    show y.toValue.toJson.Printable
    rw [Inner.toJson_toValue]
    exact ⟨⟨Json.fits64_toInt y.int32, trivial⟩, rfl, (by decide : 1 ≤ Json.maxDepth)⟩

/-- The entries of the plain JSON of an outer struct are sorted by name. -/
theorem Outer.toJson_toValue (x : Outer) : x.toValue.toJson = .object
    [("bool_field", .bool x.bool), ("i32_field", .int x.int32.toInt),
     ("string_field", .string x.string), ("struct_field", x.inner.toValue.toJson)] := by
  have hbool : "bool_field" < "i32_field" := by decide
  have hstring : ∀ k ∈ ["bool_field", "i32_field"], k < "string_field" := by decide
  have hstruct : ∀ k ∈ ["bool_field", "i32_field", "string_field"], k < "struct_field" := by decide
  simp only [Outer.toValue, Value.toJson, Value.fieldsToJson, Json.ofEntries, Json.sortEntries,
    List.foldl_cons, List.foldl_nil]
  refine congrArg Json.object ?_
  calc Json.insertEntry "struct_field" x.inner.toValue.toJson
        (Json.insertEntry "string_field" (.string x.string)
          (Json.insertEntry "bool_field" (.bool x.bool) [("i32_field", .int x.int32.toInt)]))
    _ = Json.insertEntry "struct_field" x.inner.toValue.toJson
          (Json.insertEntry "string_field" (.string x.string)
            [("bool_field", .bool x.bool), ("i32_field", .int x.int32.toInt)]) := by
      rw [Json.insertEntry_of_lt hbool]
    _ = Json.insertEntry "struct_field" x.inner.toValue.toJson
          [("bool_field", .bool x.bool), ("i32_field", .int x.int32.toInt),
            ("string_field", .string x.string)] :=
      congrArg _ (Json.insertEntry_of_forall_lt hstring)
    _ = _ := Json.insertEntry_of_forall_lt hstruct

instance : LawfulMarshal Outer where
  ofValue_toValue _ := rfl
  kind_toValue _ := rfl
  ofJson_toJson x := by
    show ofJson (.struct "StructA") x.toValue.toJson = _
    rw [Outer.toJson_toValue]
    refine ofJson_object (show StructType.ofName? "StructA" = some .outer from rfl)
      (.cons ⟨rfl, ?_⟩ (.cons ⟨rfl, ?_⟩ (.cons ⟨rfl, ?_⟩ (.cons ⟨rfl, ?_⟩ .nil))))
    · exact congrArg some (LawfulMarshal.ofJson_toJson x.int32)
    · exact congrArg some (LawfulMarshal.ofJson_toJson x.bool)
    · exact congrArg some (LawfulMarshal.ofJson_toJson x.string)
    · exact congrArg some (LawfulMarshal.ofJson_toJson x.inner)
  exists_toValue h := by
    obtain ⟨fields, rfl, hfields⟩ := exists_of_ofJson_struct
      (show StructType.ofName? "StructA" = some .outer from rfl) h
    -- the fields in the order of their declaration, then a datum for what each of them holds
    obtain ⟨⟨_, v1⟩, _, ⟨rfl, _, h1⟩, hrest1, rfl⟩ := List.forall₂_cons_left_iff.mp hfields
    obtain ⟨⟨_, v2⟩, _, ⟨rfl, _, h2⟩, hrest2, rfl⟩ := List.forall₂_cons_left_iff.mp hrest1
    obtain ⟨⟨_, v3⟩, _, ⟨rfl, _, h3⟩, hrest3, rfl⟩ := List.forall₂_cons_left_iff.mp hrest2
    obtain ⟨⟨_, v4⟩, _, ⟨rfl, _, h4⟩, hrest4, rfl⟩ := List.forall₂_cons_left_iff.mp hrest3
    obtain rfl := List.forall₂_nil_left_iff.mp hrest4
    obtain ⟨n, rfl⟩ := eq_int32_of_kind (kind_of_ofJson h1)
    obtain ⟨b, rfl⟩ := eq_bool_of_kind (kind_of_ofJson h2)
    obtain ⟨s, rfl⟩ := eq_string_of_kind (kind_of_ofJson h3)
    obtain ⟨y, rfl⟩ : ∃ y : Inner, v4 = Marshal.toValue y := LawfulMarshal.exists_toValue h4
    exact ⟨⟨n, b, s, y⟩, rfl⟩
  printable x := by
    show x.toValue.toJson.Printable
    have hinner : x.inner.toValue.toJson.Printable := LawfulMarshal.printable x.inner
    rw [Outer.toJson_toValue]
    refine ⟨⟨trivial, Json.fits64_toInt x.int32, trivial, hinner.integral, trivial⟩, ?_, ?_⟩
    · have hkeys :
        ["bool_field", "i32_field", "string_field", "struct_field"].Pairwise (· < ·) := by decide
      rw [Json.sorted, Json.ofEntries, Json.sortEntries_eq_self]
      · simp only [Json.sortedEntries, Json.sorted, Json.int, hinner.sorted]
      · exact hkeys
    · rw [Inner.toJson_toValue]
      exact (by decide : 2 ≤ Json.maxDepth)

/-! ### Both directions -/

/-- Marshaling and plain JSON undo each other: nothing is lost on the way out and back, and whatever
plain JSON is accepted for the kind stands for exactly one datum. -/
structure Marshal.Inverse (α : Type) [Marshal α] : Prop where
  ofValue_toValue (x : α) : ofValue (toValue x) = .ok x
  /-- Through the printed text of the plain JSON, compact or pretty. -/
  ofText (x : α) (text : String) :
    text = (toValue x).toJson.compact ∨ text = (toValue x).toJson.pretty →
      ∃ json v, Json.read text = .ok json ∧ ofJson (kind α) json = .ok v ∧ ofValue v = .ok x
  /-- Whatever is read is of the kind, is the value of one datum only and is taken for it, and is
  read again from its own plain JSON. -/
  of_ofJson (json : Json) (v : Value) : ofJson (kind α) json = .ok v →
    v.kind = kind α ∧ (∃! x : α, toValue x = v) ∧ (∃ x : α, toValue x = v ∧ ofValue v = .ok x) ∧
      ofJson (kind α) v.toJson = .ok v

/-- What holds of the value form of a lawful type holds of its texts as well. -/
theorem LawfulMarshal.inverse (α : Type) [Marshal α] [LawfulMarshal α] : Marshal.Inverse α where
  ofValue_toValue := ofValue_toValue
  ofText x text htext := by
    refine ⟨_, _, ?_, ofJson_toJson x, ofValue_toValue x⟩
    obtain rfl | rfl := htext
    · exact (printable x).read_compact
    · exact (printable x).read_pretty
  of_ofJson json v h := by
    obtain ⟨x, rfl⟩ := exists_toValue h
    exact ⟨kind_toValue x, ⟨x, rfl, fun _ hy => toValue_injective α hy⟩,
      ⟨x, rfl, ofValue_toValue x⟩, ofJson_toJson x⟩

/-- Marshaling and plain JSON are two-sided inverses for every type that crosses the boundary. -/
theorem marshal_inverse : Marshal.Inverse Unit ∧ Marshal.Inverse Int32 ∧ Marshal.Inverse Bool ∧
    Marshal.Inverse String ∧ Marshal.Inverse Inner ∧ Marshal.Inverse Outer :=
  ⟨LawfulMarshal.inverse Unit, LawfulMarshal.inverse Int32, LawfulMarshal.inverse Bool,
    LawfulMarshal.inverse String, LawfulMarshal.inverse Inner, LawfulMarshal.inverse Outer⟩

end BoundaryContract
