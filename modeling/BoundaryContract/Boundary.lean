import BoundaryContract.Action

/-!
# Boundaries

A boundary is anything that serves the surface: the accessors of the two structs and the free
functions. Its structs are references into a state of its own; nothing is asked of the state, so the
same suite and the same dispatch run against every boundary.
-/

namespace BoundaryContract

/-- An implementation of the surface over states `σ`, whose outer structs are known by references
`ω` and whose nested structs by references `ι`. -/
structure Boundary (σ ω ι : Type) where
  /-- The name used in logs and reports. -/
  name : String
  /-- A new outer struct. -/
  newOuter : Action σ ω
  /-- A new nested struct. -/
  newInner : Action σ ι
  /-- The end of an outer struct's life. -/
  dropOuter : ω → Action σ Unit
  /-- The end of a nested struct's life. -/
  dropInner : ι → Action σ Unit
  outerInt32 : ω → Action σ Int32
  setOuterInt32 : ω → Int32 → Action σ Unit
  outerBool : ω → Action σ Bool
  outerString : ω → Action σ String
  setOuterString : ω → String → Action σ Unit
  /-- An independent copy of the nested struct. -/
  outerInner : ω → Action σ ι
  /-- Stores a copy of a nested struct; the caller keeps the argument. -/
  setOuterInner : ω → ι → Action σ Unit
  innerInt32 : ι → Action σ Int32
  setInnerInt32 : ι → Int32 → Action σ Unit
  simple : Action σ Unit
  primitiveArgs : Int32 → Bool → Action σ Unit
  stringArg : String → Action σ Unit
  primitiveAndStringArg : Int32 → Bool → String → Action σ Unit
  returnPrimitive : Action σ Int32
  returnString : Action σ String
  combo : String → String → Bool → Action σ String

/-- A boundary whose structs can also be copied as a whole. -/
structure CloningBoundary (σ ω ι : Type) extends Boundary σ ω ι where
  cloneOuter : ω → Action σ ω
  cloneInner : ι → Action σ ι

end BoundaryContract
