import BoundaryContract.Json.Basic
import BoundaryContract.Surface

/-!
# The surface as a document

The JSON form of the surface tables: kinds as tags, signatures and struct types as objects of their
parts.
-/

namespace BoundaryContract

/-- A kind as a document: its tag, with the name of the type for a struct. -/
def Kind.toJson : Kind → Json
  | .unit => .string "Unit"
  | .int32 => .string "Int32"
  | .bool => .string "Bool"
  | .string => .string "String"
  | .struct name => .object [("Struct", .string name)]

/-- A parameter as a document. -/
def Param.toJson (p : Param) : Json :=
  .object [("kind", p.kind.toJson), ("name", .string p.name)]

/-- A signature as a document. -/
def Signature.toJson (s : Signature) : Json :=
  .object
    [("name", .string s.name), ("params", .array (s.params.map Param.toJson)),
     ("returns", s.returns.toJson)]

/-- A field and its accessors as a document. -/
def Accessor.toJson (a : Accessor) : Json :=
  .object
    [("field", .string a.field), ("getter", .bool a.getter), ("kind", a.kind.toJson),
     ("setter", .bool a.setter)]

/-- A struct type as a document. -/
def StructType.toJson (s : StructType) : Json :=
  .object
    [("fields", .array (s.fields.map Accessor.toJson)), ("name", .string s.name),
     ("stem", .string s.stem)]

/-- The surface as a document, with its symbols if they are wanted. -/
def surfaceDocument (symbols : Bool) : Json :=
  .object <|
    [("functions", .array (Function.all.map fun f => f.signature.toJson)),
     ("structs", .array (StructType.all.map StructType.toJson))] ++
    if symbols then [("symbols", .array (surfaceSymbols.map Json.string))] else []

end BoundaryContract
