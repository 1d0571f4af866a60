import BoundaryContract.Console
import BoundaryContract.Surface.Listing

/-!
# The surface on the console

The listing of the surface for human readers: functions with their signatures, then each struct with
the access its fields allow.
-/

namespace BoundaryContract

/-- What can be done with a field. -/
def Accessor.access (a : Accessor) : String :=
  match a.getter, a.setter with
  | true, true => "get/set"
  | true, false => "get"
  | false, true => "set"
  | false, false => "-"

/-- The lines of exported symbols, if they are wanted. -/
def symbolLines (symbols : Bool) (names : List String) : String :=
  if symbols then String.join (names.map fun name => Console.line ("      " ++ name)) else ""

/-- The lines of a function. -/
def Signature.listing (symbols : Bool) (s : Signature) : String :=
  Console.line ("  " ++ s.display) ++ symbolLines symbols [s.symbol]

/-- The lines of a struct. -/
def StructType.listing (symbols : Bool) (s : StructType) : String :=
  Console.line "" ++ Console.line (s.name ++ ":") ++
    String.join (s.fields.map fun a =>
      Console.line ("  " ++ a.field ++ ": " ++ a.kind.typeName ++ " [" ++ a.access ++ "]")) ++
    symbolLines symbols s.symbols

/-- The surface for human readers. -/
def surfaceListing (symbols : Bool) : String :=
  Console.line "Functions:" ++
    String.join (Function.all.map fun f => f.signature.listing symbols) ++
    String.join (StructType.all.map (StructType.listing symbols))

/-- The surface in the format of the console. -/
def Console.surface (c : Console) (symbols : Bool) : String :=
  match c.format with
  | .human => c.finish (surfaceListing symbols)
  | _ => c.document (.ofJson (surfaceDocument symbols))

end BoundaryContract
