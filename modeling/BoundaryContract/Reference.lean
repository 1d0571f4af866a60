import BoundaryContract.Action

/-!
# The reference functions

What the free functions of the surface do. Those without a result only record what they received;
the others give a fixed result or select one of their arguments.
-/

namespace BoundaryContract.Reference

variable {σ : Type}

/-- The event of a function that was called with the given arguments. -/
def called (function : String) (args : List (String × Detail)) : Event :=
  ⟨.debug, "called", ("function", .text function) :: args⟩

/-- Takes nothing and gives nothing. -/
def simple : Action σ Unit :=
  .emit (called "simple_function" [])

/-- Takes an integer and a truth value. -/
def primitiveArgs (i : Int32) (b : Bool) : Action σ Unit :=
  .emit (called "function_with_primitive_args" [("i", .int i.toInt), ("b", .bool b)])

/-- Takes a text. -/
def stringArg (s : String) : Action σ Unit :=
  .emit (called "function_with_string_arg" [("s", .text s)])

/-- Takes an integer, a truth value and a text. -/
def primitiveAndStringArg (i : Int32) (b : Bool) (s : String) : Action σ Unit :=
  .emit (called "function_with_primitive_and_string_arg"
    [("i", .int i.toInt), ("b", .bool b), ("s", .text s)])

/-- The fixed integer result. -/
def fixedInt32 : Int32 := 42

/-- The fixed text result. -/
def fixedString : String := "String returned from Rust"

/-- Selects the first text if the flag is set and the second one otherwise. -/
def select (str1 str2 : String) (b : Bool) : String :=
  if b then str1 else str2

end BoundaryContract.Reference
