import BoundaryContract.Abi.Call
import BoundaryContract.Boundary
import BoundaryContract.Text.Utf8

/-!
# The boundary of handles

The surface reached through the exported calls, as a foreign caller reaches it: structs are handles
that the caller owns, and a text that comes back is copied and its handle released.
-/

namespace BoundaryContract

open Abi (Pointer ThreadId Slice)

/-- Copies an owned text and releases its handle; null reads as the empty text. -/
def Abi.takeString (t : ThreadId) (p : Pointer) : Action Abi.State String :=
  match p with
  | none => pure ""
  | some _ => do
    let data ← Abi.stringData t p
    let length ← Abi.stringLength t p
    let text := match data with
      | none => ""
      | some bytes => if length = 0 then "" else Text.decodeLossy (bytes.extract 0 length)
    Abi.stringFree t p
    return text

/-- The surface reached through the exported calls from one thread. -/
def handleBoundary (t : ThreadId) : CloningBoundary Abi.State Pointer Pointer where
  name := "ffi"
  newOuter := Abi.outerDefault t
  newInner := Abi.innerDefault t
  dropOuter := Abi.outerFree t
  dropInner := Abi.innerFree t
  outerInt32 := Abi.outerInt32 t
  setOuterInt32 := Abi.setOuterInt32 t
  outerBool := Abi.outerBool t
  outerString a := do
    let p ← Abi.outerString t a
    Abi.takeString t p
  setOuterString a s := Abi.setOuterString t a (Slice.ofString s)
  outerInner := Abi.outerInner t
  setOuterInner := Abi.setOuterInner t
  innerInt32 := Abi.innerInt32 t
  setInnerInt32 := Abi.setInnerInt32 t
  simple := Abi.simple t
  primitiveArgs := Abi.primitiveArgs t
  stringArg s := Abi.stringArg t (Slice.ofString s)
  primitiveAndStringArg i b s := Abi.primitiveAndStringArg t i b (Slice.ofString s)
  returnPrimitive := Abi.returnPrimitive t
  returnString := do
    let p ← Abi.returnString t
    Abi.takeString t p
  combo str1 str2 b := do
    let p ← Abi.combo t (Slice.ofString str1) (Slice.ofString str2) b
    Abi.takeString t p
  cloneOuter := Abi.outerClone t
  cloneInner := Abi.innerClone t

end BoundaryContract
