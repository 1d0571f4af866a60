import BoundaryContract.Error
import BoundaryContract.Json.Decode
import BoundaryContract.Value

/-!
# Tagged JSON of values

The JSON form of a value together with its kind: an object whose only key names the kind, or the
bare name where there is nothing to carry. Unlike the plain form it keeps the order of fields and
equal names, so that reading it back gives the same value.
-/

namespace BoundaryContract.Value

open Json (Tree Fault)

mutual

/-- The tagged JSON of a value. -/
def toTagged : Value → Json
  | .unit => .string "Unit"
  | .int32 n => .object [("Int32", .int n.toInt)]
  | .bool b => .object [("Bool", .bool b)]
  | .string s => .object [("String", .string s)]
  | .struct name fields =>
    .object
      [("Struct", .object
        [("name", .string name), ("fields", .array (fieldsToTagged fields))])]

/-- The tagged JSON of each field, a pair of its name and its value. -/
def fieldsToTagged : List (String × Value) → List Json
  | [] => []
  | (name, value) :: rest => .array [.string name, toTagged value] :: fieldsToTagged rest

end

/-- The tags of the tagged form. -/
def tags : List String := ["Unit", "Int32", "Bool", "String", "Struct"]

/-- What the reader of a struct expects. -/
def structExpected : String := "struct variant Value::Struct"

/-- The fault of a bare tag that should carry something. -/
def bareTag (expected : String) : Fault :=
  ⟨.misfit (.invalidType .unitVariant expected), none⟩

/-- The value of a bare tag. -/
def ofBareTag (tag : String) : Except Fault Value :=
  if tag = "Unit" then .ok .unit
  else .error (bareTag (if tag = "Struct" then "struct variant" else "newtype variant"))

/-- The content of a struct that has been read so far. -/
structure PartialStruct where
  name : Option String
  fields : Option (List (String × Value))

/-- The struct whose content is complete, or the fault of the first part that is missing; `stop` is
the text after the object it was read from. -/
def PartialStruct.complete (p : PartialStruct) (stop : List Char) : Except Fault Value :=
  match p.name, p.fields with
  | none, _ => .error (Tree.missingField "name" stop)
  | _, none => .error (Tree.missingField "fields" stop)
  | some name, some fields => .ok (.struct name fields)

/-- A fault with the given place if it has none of its own. -/
def atPlace (place : Json.Place) (fault : Fault) : Fault :=
  ⟨fault.cause, some (fault.place.getD place)⟩

/-- The fault of an array with too few items, found once the text `reached` is read. -/
def shortArray (length : Nat) (expected : String) (closing : Json.Closing) (reached : List Char) :
    Fault :=
  match closing.readingFault? false with
  | some fault => fault
  | none => ⟨.misfit (.invalidLength length expected), some (Tree.arrayEnd reached)⟩

mutual

/-- The value of a tagged tree that may open `depth` more containers. -/
def ofTree (depth : Nat) : Tree → Except Fault Value
  | .object entries closing start =>
    match depth with
    | 0 => .error (Json.tooDeep start)
    | depth + 1 =>
      match entries with
      | [] => (Tree.object [] closing start).asVariant tags ofBareTag fun _ _ => .ok .unit
      | (key, value) :: rest =>
        let content := contentOfTree depth value
        (Tree.object ((key, value) :: rest) closing start).asVariant tags ofBareTag fun tag _ =>
          content tag
  | tree => tree.asVariant tags ofBareTag fun _ _ => .ok .unit

/-- The value of a tag and the tree it carries. -/
def contentOfTree (depth : Nat) (tree : Tree) (tag : String) : Except Fault Value :=
  match tag with
  | "Unit" => (fun _ => .unit) <$> tree.asUnit
  | "Int32" => .int32 <$> tree.asInt32
  | "Bool" => .bool <$> tree.asBool
  | "String" => .string <$> tree.asString
  | _ =>
    match tree with
    | .object entries closing start =>
      match depth with
      | 0 => .error (Json.tooDeep start)
      | depth + 1 => do
        let content ← structOfEntries depth ⟨none, none⟩ entries
        match closing.readingFault? true with
        | some fault => .error fault
        | none => content.complete (closing.stop?.getD [])
    | .array items closing start =>
      match depth with
      | 0 => .error (Json.tooDeep start)
      | depth + 1 =>
        match items with
        | [] =>
          .error (shortArray 0 (structExpected ++ " with 2 elements") closing
            (Tree.afterOpening start))
        | [name] => do
          let _ ← name.asString
          .error (shortArray 1 (structExpected ++ " with 2 elements") closing
            (name.stop?.getD []))
        | name :: fields :: _ => do
          let name ← name.asString
          let content ← fieldsOfTree depth fields
          match Tree.overlongFault? (fields.stop?.getD []) with
          | some fault => .error fault
          | none => return .struct name content
    | tree => .error (tree.invalidType structExpected)

/-- The content of a struct from the entries of an object. -/
def structOfEntries (depth : Nat) (content : PartialStruct) :
    List (Json.Key × Tree) → Except Fault PartialStruct
  | [] => .ok content
  | (key, value) :: rest => do
    let name ← key.content
    if name = "name" then
      if content.name.isSome then .error (Tree.duplicateField name key)
      else
        let name ← value.asString
        structOfEntries depth ⟨some name, content.fields⟩ rest
    else if name = "fields" then
      if content.fields.isSome then .error (Tree.duplicateField name key)
      else
        let fields ← fieldsOfTree depth value
        structOfEntries depth ⟨content.name, some fields⟩ rest
    else
      match value.passingFault? with
      | some fault => .error fault
      | none => structOfEntries depth content rest

/-- The fields of a struct from an array of pairs. -/
def fieldsOfTree (depth : Nat) : Tree → Except Fault (List (String × Value))
  | .array items closing start =>
    match depth with
    | 0 => .error (Json.tooDeep start)
    | depth + 1 => do
      let fields ← fieldsOfItems depth items
      match closing.readingFault? false with
      | some fault => .error fault
      | none => return fields
  | tree => .error (tree.invalidType "a sequence")

/-- The fields that the items of an array stand for. -/
def fieldsOfItems (depth : Nat) : List Tree → Except Fault (List (String × Value))
  | [] => .ok []
  | item :: rest => do return (← fieldOfTree depth item) :: (← fieldsOfItems depth rest)

/-- A field from a pair of its name and its tagged value. -/
def fieldOfTree (depth : Nat) : Tree → Except Fault (String × Value)
  | .array items closing start =>
    match depth with
    | 0 => .error (Json.tooDeep start)
    | depth + 1 =>
      match items with
      | [] => .error (shortArray 0 "a tuple of size 2" closing (Tree.afterOpening start))
      | [name] => do
        let _ ← name.asString
        .error (shortArray 1 "a tuple of size 2" closing (name.stop?.getD []))
      | name :: value :: _ => do
        let name ← name.asString
        let stop := value.stop?.getD []
        match ofTree depth value with
        | .error fault => .error (atPlace (Tree.arrayEnd stop) fault)
        | .ok value =>
          match Tree.overlongFault? stop with
          | some fault => .error fault
          | none => return (name, value)
  | tree => .error (tree.invalidType "a tuple of size 2")

end

/-- The value of a tagged JSON text. -/
def readTagged (text : String) : Except Error Value :=
  match Json.decodeText (ofTree Json.maxDepth) text with
  | .ok value => .ok value
  | .error e => .error (.json e)

end BoundaryContract.Value
