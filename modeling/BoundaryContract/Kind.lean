/-!
# Kinds of values

The categories of value that cross the boundary.
-/

namespace BoundaryContract

/-- The kind of a value that crosses the boundary; a struct is known by the name of its type. -/
inductive Kind
  | unit
  | int32
  | bool
  | string
  | struct (name : String)
deriving DecidableEq

namespace Kind

/-- Whether values of this kind are passed as plain machine values. -/
def isPrimitive : Kind → Bool
  | .int32 | .bool => true
  | _ => false

/-- The name of the type as the surface writes it. -/
def typeName : Kind → String
  | .unit => "none"
  | .int32 => "Int32"
  | .bool => "Bool"
  | .string => "String"
  | .struct name => name

/-- The kind reported for a struct that is not part of the surface. -/
def unknownStruct : Kind := .struct "?"

end Kind

end BoundaryContract
