import BoundaryContract.Record
import BoundaryContract.Value.Plain

/-!
# Marshaling

`Marshal α` copies data of a known type out into a value and back. Reading a struct takes its
declared fields out of the value one after another, so fields may come in any order, further fields
are ignored, and of equal names the first one counts.
-/

namespace BoundaryContract

/-- Types whose data crosses the boundary as values. -/
class Marshal (α : Type) where
  /-- The kind of the values. -/
  kind : Kind
  /-- The value of a datum. -/
  toValue : α → Value
  /-- The datum of a value. -/
  ofValue : Value → Except Error α

namespace Value

/-- The mismatch of a value with the kind asked for. -/
def mismatch (kind : Kind) (value : Value) : Error := .typeMismatch kind value.kind

/-- Takes the first field of a name out of a list of fields. -/
def takeField (owner field : String) :
    List (String × Value) → Except Error (Value × List (String × Value))
  | [] => .error (.missingField owner field)
  | (name, value) :: rest =>
    if name = field then .ok (value, rest)
    else
      match takeField owner field rest with
      | .ok (taken, rest) => .ok (taken, (name, value) :: rest)
      | .error e => .error e

end Value

instance : Marshal Unit where
  kind := .unit
  toValue _ := .unit
  ofValue
    | .unit => .ok ()
    | value => .error (value.mismatch .unit)

instance : Marshal Int32 where
  kind := .int32
  toValue := .int32
  ofValue
    | .int32 n => .ok n
    | value => .error (value.mismatch .int32)

instance : Marshal Bool where
  kind := .bool
  toValue := .bool
  ofValue
    | .bool b => .ok b
    | value => .error (value.mismatch .bool)

instance : Marshal String where
  kind := .string
  toValue := .string
  ofValue
    | .string s => .ok s
    | value => .error (value.mismatch .string)

namespace Inner

/-- The value of a nested struct. -/
def toValue (x : Inner) : Value :=
  .struct "StructB" [("i32_field", .int32 x.int32)]

/-- The nested struct of a value. -/
def ofValue : Value → Except Error Inner
  | .struct "StructB" fields => do
    let (int32, _) ← Value.takeField "StructB" "i32_field" fields
    return ⟨← Marshal.ofValue int32⟩
  | value => .error (value.mismatch (.struct "StructB"))

end Inner

instance : Marshal Inner where
  kind := .struct "StructB"
  toValue := Inner.toValue
  ofValue := Inner.ofValue

namespace Outer

/-- The value of an outer struct. -/
def toValue (x : Outer) : Value :=
  .struct "StructA"
    [("i32_field", .int32 x.int32), ("bool_field", .bool x.bool),
     ("string_field", .string x.string), ("struct_field", x.inner.toValue)]

/-- The outer struct of a value. -/
def ofValue : Value → Except Error Outer
  | .struct "StructA" fields => do
    let (int32, fields) ← Value.takeField "StructA" "i32_field" fields
    let int32 ← Marshal.ofValue int32
    let (bool, fields) ← Value.takeField "StructA" "bool_field" fields
    let bool ← Marshal.ofValue bool
    let (string, fields) ← Value.takeField "StructA" "string_field" fields
    let string ← Marshal.ofValue string
    let (inner, _) ← Value.takeField "StructA" "struct_field" fields
    return ⟨int32, bool, string, ← Marshal.ofValue inner⟩
  | value => .error (value.mismatch (.struct "StructA"))

end Outer

instance : Marshal Outer where
  kind := .struct "StructA"
  toValue := Outer.toValue
  ofValue := Outer.ofValue

end BoundaryContract
