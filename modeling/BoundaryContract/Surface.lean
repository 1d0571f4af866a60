import BoundaryContract.Kind

/-!
# The surface

The free functions and struct types that cross the boundary, as data: their parameters and results,
the accessors of each struct, and the symbols under which everything is exported. The functions are
an enumeration, and `Function.signature` is the table.
-/

namespace BoundaryContract

/-- A parameter of a function. -/
structure Param where
  name : String
  kind : Kind
deriving DecidableEq

/-- The signature of a free function; one that gives nothing back returns the unit kind. -/
structure Signature where
  name : String
  params : List Param
  returns : Kind
deriving DecidableEq

/-- A field of a struct and the accessors it has. -/
structure Accessor where
  field : String
  kind : Kind
  getter : Bool
  setter : Bool
deriving DecidableEq

/-- A struct type of the surface, with the stem of its exported symbols. -/
structure StructType where
  name : String
  stem : String
  fields : List Accessor
deriving DecidableEq

/-- The free functions of the surface. -/
inductive Function
  | simple
  | primitiveArgs
  | stringArg
  | primitiveAndStringArg
  | returnPrimitive
  | returnString
  | combo
deriving DecidableEq

namespace Function

/-- All functions, in the order of the surface. -/
def all : List Function :=
  [simple, primitiveArgs, stringArg, primitiveAndStringArg, returnPrimitive, returnString, combo]

/-- The name, parameters and result of a function. -/
def signature : Function → Signature
  | simple => ⟨"simple_function", [], .unit⟩
  | primitiveArgs => ⟨"function_with_primitive_args", [⟨"i", .int32⟩, ⟨"b", .bool⟩], .unit⟩
  | stringArg => ⟨"function_with_string_arg", [⟨"s", .string⟩], .unit⟩
  | primitiveAndStringArg =>
    ⟨"function_with_primitive_and_string_arg", [⟨"i", .int32⟩, ⟨"b", .bool⟩, ⟨"s", .string⟩], .unit⟩
  | returnPrimitive => ⟨"function_return_primitive", [], .int32⟩
  | returnString => ⟨"function_return_string", [], .string⟩
  | combo =>
    ⟨"combo_function", [⟨"str1", .string⟩, ⟨"str2", .string⟩, ⟨"b", .bool⟩], .string⟩

/-- The function of a name. -/
def ofName? (name : String) : Option Function :=
  all.find? fun f => f.signature.name = name

end Function

namespace StructType

/-- The outer struct, with a primitive, a read-only flag, a text and a nested struct. -/
def outer : StructType :=
  { name := "StructA"
    stem := "struct_a"
    fields :=
      [⟨"i32_field", .int32, true, true⟩,
       ⟨"bool_field", .bool, true, false⟩,
       ⟨"string_field", .string, true, true⟩,
       ⟨"struct_field", .struct "StructB", true, true⟩] }

/-- The nested struct. -/
def inner : StructType :=
  { name := "StructB"
    stem := "struct_b"
    fields := [⟨"i32_field", .int32, true, true⟩] }

/-- All struct types of the surface. -/
def all : List StructType := [outer, inner]

/-- The struct type of a name. -/
def ofName? (name : String) : Option StructType :=
  all.find? fun s => s.name = name

end StructType

/-! ### Exported symbols -/

/-- What every exported symbol begins with. -/
def symbolStem : String := "bridgetest_"

namespace Signature

/-- The number of parameters. -/
def arity (s : Signature) : Nat := s.params.length

/-- The exported symbol. -/
def symbol (s : Signature) : String := symbolStem ++ s.name

/-- The signature as it is shown: parameters with their kinds, and the result unless there is none.
-/
def display (s : Signature) : String :=
  let params := s.params.map fun p => p.name ++ ": " ++ p.kind.typeName
  let result := if s.returns = .unit then "" else " -> " ++ s.returns.typeName
  s.name ++ "(" ++ ", ".intercalate params ++ ")" ++ result

end Signature

namespace StructType

/-- The symbol of one operation on the struct. -/
def operationSymbol (s : StructType) (operation : String) : String :=
  symbolStem ++ s.stem ++ "_" ++ operation

/-- The symbol of the constructor. -/
def defaultSymbol (s : StructType) : String := s.operationSymbol "default"

/-- The symbol of the copying function. -/
def cloneSymbol (s : StructType) : String := s.operationSymbol "clone"

/-- The symbol of the releasing function. -/
def freeSymbol (s : StructType) : String := s.operationSymbol "free"

/-- The symbol of a field's getter, if it has one. -/
def getterSymbol? (s : StructType) (a : Accessor) : Option String :=
  if a.getter then some (s.operationSymbol ("get_" ++ a.field)) else none

/-- The symbol of a field's setter, if it has one. -/
def setterSymbol? (s : StructType) (a : Accessor) : Option String :=
  if a.setter then some (s.operationSymbol ("set_" ++ a.field)) else none

/-- Every symbol of the struct. -/
def symbols (s : StructType) : List String :=
  [s.defaultSymbol, s.cloneSymbol, s.freeSymbol] ++
    s.fields.flatMap fun a => (s.getterSymbol? a).toList ++ (s.setterSymbol? a).toList

end StructType

/-- Every exported symbol of the surface, functions first. -/
def surfaceSymbols : List String :=
  Function.all.map (fun f => f.signature.symbol) ++ StructType.all.flatMap StructType.symbols

/-- The version of the exported library. -/
def version : String := "0.1.0"

end BoundaryContract
