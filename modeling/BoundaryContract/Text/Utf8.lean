/-!
# Bytes as text

The text that bytes encode, and the text that is read from bytes that may be damaged.

Only the bytes of texts are ever decoded here: a string that is handed out holds a text. So how
damaged bytes are replaced is nowhere seen, and it is done in the simplest way.
-/

namespace BoundaryContract.Text

/-- The character that stands for damaged bytes. -/
def replacement : Char := '\ufffd'

/-- The characters of the bytes from `i` on, where a byte that begins no well-formed character is
read as the replacement character. Damaged bytes are thus replaced one by one, and not by maximal
parts of characters as Unicode recommends it. -/
def decodeFrom (bytes : ByteArray) : (fuel i : Nat) → List Char
  | 0, _ => []
  | fuel + 1, i =>
    if i < bytes.size then
      match bytes.utf8DecodeChar? i with
      | some c => c :: decodeFrom bytes fuel (i + c.utf8Size)
      | none => replacement :: decodeFrom bytes fuel (i + 1)
    else []

/-- The text of bytes that may be damaged; well-formed bytes give exactly their text. Only
well-formed bytes reach this, and on them it is the same as a decoder that replaces maximal parts of
damaged characters. -/
def decodeLossy (bytes : ByteArray) : String :=
  match String.fromUTF8? bytes with
  | some s => s
  | none => String.ofList (decodeFrom bytes bytes.size 0)

/-- The bytes of a text are well-formed and encode that text. -/
theorem fromUTF8?_toUTF8 (s : String) : String.fromUTF8? s.toUTF8 = some s := by
  have hvalid : s.toUTF8.IsValidUTF8 := s.isValidUTF8
  rw [String.fromUTF8?, dif_pos hvalid]
  rfl

/-- A text is read back from its bytes. -/
theorem decodeLossy_toUTF8 (s : String) : decodeLossy s.toUTF8 = s := by
  rw [decodeLossy, fromUTF8?_toUTF8]

end BoundaryContract.Text
