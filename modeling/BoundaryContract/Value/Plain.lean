import BoundaryContract.Error
import BoundaryContract.Json.Basic
import BoundaryContract.Value

/-!
# Plain JSON of values

The JSON form of a value without its kind: a struct is an object keyed by field name. Reading it
back needs the kind, and takes the fields of a struct from the surface.
-/

namespace BoundaryContract

namespace Json

/-- The kind closest to a JSON value, as a mismatch reports it. -/
def closestKind : Json → Kind
  | .null => .unit
  | .bool _ => .bool
  | .number _ => .int32
  | .string _ => .string
  | .array _ | .object _ => .unknownStruct

/-- The mismatch of a JSON value with the kind asked for. -/
def mismatch (kind : Kind) (json : Json) : Error := .typeMismatch kind json.closestKind

end Json

namespace Value

/-- Whether an integer fits in 32 bits. -/
def fitsInt32 (n : Int) : Bool := Int32.minValue.toInt ≤ n && n ≤ Int32.maxValue.toInt

/-- Collects the fields of a struct in declaration order, or the first fault among them. -/
def collectFields (owner : String) (read : Accessor → Option (Except Error Value)) :
    List Accessor → Except Error (List (String × Value))
  | [] => .ok []
  | a :: rest =>
    match read a with
    | none => .error (.missingField owner a.field)
    | some (.error e) => .error e
    | some (.ok value) => do return (a.field, value) :: (← collectFields owner read rest)

mutual

/-- The value of a kind that a JSON value stands for. -/
def ofJson (kind : Kind) : Json → Except Error Value
  | .null => if kind = .unit then .ok .unit else .error (Json.null.mismatch kind)
  | .bool b => if kind = .bool then .ok (.bool b) else .error ((Json.bool b).mismatch kind)
  | .string s => if kind = .string then .ok (.string s) else .error ((Json.string s).mismatch kind)
  | .number (.int n) =>
    if kind = .int32 ∧ fitsInt32 n then .ok (.int32 (.ofInt n))
    else .error ((Json.int n).mismatch kind)
  | .number (.float x) => .error ((Json.number (.float x)).mismatch kind)
  | .array items => .error ((Json.array items).mismatch kind)
  | .object entries =>
    match kind with
    | .struct name =>
      match StructType.ofName? name with
      | none => .error (.typeMismatch kind .unknownStruct)
      | some type =>
        match collectFields name (fun a => entryOfJson? a.kind a.field entries) type.fields with
        | .ok fields => .ok (.struct name fields)
        | .error e => .error e
    | kind => .error ((Json.object entries).mismatch kind)

/-- The value of a kind that the entry under a key stands for, if there is such an entry. -/
def entryOfJson? (kind : Kind) (key : String) :
    List (String × Json) → Option (Except Error Value)
  | [] => none
  | (k, json) :: rest => if key = k then some (ofJson kind json) else entryOfJson? kind key rest

end

mutual

/-- The plain JSON of a value; of fields with equal names the last one stays. -/
def toJson : Value → Json
  | .unit => .null
  | .int32 n => .int n.toInt
  | .bool b => .bool b
  | .string s => .string s
  | .struct _ fields => .ofEntries (fieldsToJson fields)

/-- The plain JSON of each field. -/
def fieldsToJson : List (String × Value) → List (String × Json)
  | [] => []
  | (name, value) :: rest => (name, toJson value) :: fieldsToJson rest

end

end Value

end BoundaryContract
