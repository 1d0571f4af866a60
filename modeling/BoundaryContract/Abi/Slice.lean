import BoundaryContract.Abi.Failure

/-!
# Text arguments

A text crosses the boundary as a view of bytes that the caller keeps. The empty view is always
accepted; any other must have bytes, and they must be well-formed UTF-8.
-/

namespace BoundaryContract.Abi

/-- A view of bytes: some bytes, or a null pointer with a length. -/
inductive Slice
  | bytes (content : ByteArray)
  | null (length : Nat)

namespace Slice

/-- The view of a text. -/
def ofString (s : String) : Slice := .bytes s.toUTF8

/-- The length in bytes. -/
def length : Slice → Nat
  | .bytes content => content.size
  | .null length => length

/-- The text of the view that is passed for the named parameter. -/
def toText (param : String) : Slice → Except Failure String
  | .bytes content =>
    if content.size = 0 then .ok ""
    else
      match String.fromUTF8? content with
      | some s => .ok s
      | none => .error (.invalidUtf8 param)
  | .null length => if length = 0 then .ok "" else .error (.null param)

end Slice

end BoundaryContract.Abi
