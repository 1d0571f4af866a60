import BoundaryContract.Json.Tree

/-!
# Reading JSON text

A document is one value with blanks around it. A free value keeps the last of equal keys and nests
at most 127 containers deep.
-/

namespace BoundaryContract.Json

/-- The number of containers that may be open at a time. -/
def maxDepth : Nat := 127

/-- The fault of a container that nests too deep. -/
def tooDeep (start : List Char) : Fault := .next .tooDeep start

namespace Tree

mutual

/-- The free value of a tree that may open `depth` more containers. -/
def toJson (depth : Nat) : Tree → Except Fault Json
  | .null _ _ => .ok .null
  | .bool b _ _ => .ok (.bool b)
  | .number numeral _ stop => do return .number (← numeral.value stop)
  | .string content _ _ => do return .string (← content)
  | .array items closing start =>
    match depth with
    | 0 => .error (tooDeep start)
    | depth + 1 => do
      let items ← itemsToJson depth items
      match closing.readingFault? false with
      | some fault => .error fault
      | none => return .array items
  | .object entries closing start =>
    match depth with
    | 0 => .error (tooDeep start)
    | depth + 1 => do
      let entries ← entriesToJson depth entries
      match closing.readingFault? true with
      | some fault => .error fault
      | none => return ofEntries entries
  | .broken gap _ => .error gap.reading
  | .unreached fault => .error fault

/-- The free values of the items of an array. -/
def itemsToJson (depth : Nat) : List Tree → Except Fault (List Json)
  | [] => .ok []
  | item :: rest => do return (← toJson depth item) :: (← itemsToJson depth rest)

/-- The free values of the entries of an object. -/
def entriesToJson (depth : Nat) : List (Key × Tree) → Except Fault (List (String × Json))
  | [] => .ok []
  | (key, value) :: rest => do
    let name ← key.content
    return (name, ← toJson depth value) :: (← entriesToJson depth rest)

end

end Tree

/-- What a decoder makes of the only value of a text. -/
def decodeText {α : Type} (decode : Tree → Except Fault α) (text : String) : Except ReadError α :=
  let chars := text.toList
  let tree := Tree.parse chars
  match decode tree with
  | .error fault => .error (fault.toError chars)
  | .ok value =>
    match skipBlanks (tree.stop?.getD []) with
    | [] => .ok value
    | rest => .error ((Fault.next .trailingCharacters rest).toError chars)

/-- The free value of a text. -/
def read (text : String) : Except ReadError Json :=
  decodeText (Tree.toJson maxDepth) text

end BoundaryContract.Json
