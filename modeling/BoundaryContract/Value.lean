import BoundaryContract.Surface
import BoundaryContract.Text.Quoted

/-!
# Values

The loosely typed form of everything that crosses the boundary. A struct value is a name and a list
of fields; nothing here asks that the struct is on the surface or that its fields are the declared
ones.
-/

namespace BoundaryContract

/-- A value that crosses the boundary. -/
inductive Value
  | unit
  | int32 (n : Int32)
  | bool (b : Bool)
  | string (s : String)
  | struct (name : String) (fields : List (String × Value))

namespace Value

mutual

/-- Equality of values is decidable. -/
def decEq : (v w : Value) → Decidable (v = w)
  | .unit, .unit => isTrue rfl
  | .int32 m, .int32 n => decidable_of_iff (m = n) (by simp)
  | .bool a, .bool b => decidable_of_iff (a = b) (by simp)
  | .string s, .string t => decidable_of_iff (s = t) (by simp)
  | .struct m fs, .struct n gs =>
    match (inferInstance : Decidable (m = n)), decEqFields fs gs with
    | isTrue h, isTrue h' => isTrue (by rw [h, h'])
    | isFalse h, _ => isFalse (by simp [h])
    | _, isFalse h => isFalse (by simp [h])
  | .unit, .int32 _ | .unit, .bool _ | .unit, .string _ | .unit, .struct _ _
  | .int32 _, .unit | .int32 _, .bool _ | .int32 _, .string _ | .int32 _, .struct _ _
  | .bool _, .unit | .bool _, .int32 _ | .bool _, .string _ | .bool _, .struct _ _
  | .string _, .unit | .string _, .int32 _ | .string _, .bool _ | .string _, .struct _ _
  | .struct _ _, .unit | .struct _ _, .int32 _ | .struct _ _, .bool _ | .struct _ _, .string _ =>
    isFalse (by simp)

/-- Equality of field lists is decidable. -/
def decEqFields : (fs gs : List (String × Value)) → Decidable (fs = gs)
  | [], [] => isTrue rfl
  | [], _ :: _ | _ :: _, [] => isFalse (by simp)
  | (m, v) :: fs, (n, w) :: gs =>
    match (inferInstance : Decidable (m = n)), decEq v w, decEqFields fs gs with
    | isTrue h, isTrue h', isTrue h'' => isTrue (by rw [h, h', h''])
    | isFalse h, _, _ => isFalse (by simp [h])
    | _, isFalse h, _ => isFalse (by simp [h])
    | _, _, isFalse h => isFalse (by simp [h])

end

instance : DecidableEq Value := decEq

instance : Inhabited Value := ⟨.unit⟩

/-- The kind of a value; a struct that is not on the surface has the kind of an unknown one. -/
def kind : Value → Kind
  | .unit => .unit
  | .int32 _ => .int32
  | .bool _ => .bool
  | .string _ => .string
  | .struct name _ => if (StructType.ofName? name).isSome then .struct name else .unknownStruct

/-- The first field of a name. -/
def field? (name : String) : Value → Option Value
  | .struct _ fields => fields.lookup name
  | _ => none

/-- The text of a 32-bit integer. -/
def int32Text (n : Int32) : String := toString n.toInt

mutual

/-- A value as it is shown to a reader. -/
def display : Value → String
  | .unit => "()"
  | .int32 n => "Int32(" ++ int32Text n ++ ")"
  | .bool b => "Bool(" ++ toString b ++ ")"
  | .string s => "String(" ++ Text.quote s ++ ")"
  | .struct name fields => name ++ " \x7b " ++ displayFields fields ++ " \x7d"

/-- The fields of a struct as they are shown, separated by commas. -/
def displayFields : List (String × Value) → String
  | [] => ""
  | [(name, value)] => name ++ ": " ++ display value
  | (name, value) :: rest => name ++ ": " ++ display value ++ ", " ++ displayFields rest

end

end Value

end BoundaryContract
