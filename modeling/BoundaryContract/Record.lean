/-!
# The structs of the surface

Both structs are plain values. Reading a field gives its content and writing one gives a new struct,
so a copy never shares anything with what it was copied from.
-/

namespace BoundaryContract

/-- The nested struct, known on the surface as `StructB`. -/
structure Inner where
  int32 : Int32
deriving DecidableEq

/-- The outer struct, known on the surface as `StructA`. -/
structure Outer where
  int32 : Int32
  bool : Bool
  string : String
  inner : Inner
deriving DecidableEq

/-- A new nested struct holds zero. -/
def Inner.default : Inner := ⟨0⟩

/-- A new outer struct holds zero, false, the empty text and a new nested struct. -/
def Outer.default : Outer := ⟨0, false, "", .default⟩

end BoundaryContract
