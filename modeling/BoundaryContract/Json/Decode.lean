import BoundaryContract.Json.Reader

/-!
# Decoding a JSON tree into data of a known shape

Decoders for scalars, enumerations and the ends of containers. A decoder reports the first fault in
the order of the text: a value that does not fit is reported where it is met, before anything wrong
that comes after it.
-/

namespace BoundaryContract.Json.Tree

/-- A truth value. -/
def asBool : Tree → Except Fault Bool
  | .bool b _ _ => .ok b
  | tree => .error (tree.invalidType "a boolean")

/-- A string. -/
def asString : Tree → Except Fault String
  | .string content _ _ => content
  | tree => .error (tree.invalidType "a string")

/-- A string or nothing. -/
def asOptionalString : Tree → Except Fault (Option String)
  | .null _ _ => .ok none
  | tree => some <$> tree.asString

/-- The empty value. -/
def asUnit : Tree → Except Fault Unit
  | .null _ _ => .ok ()
  | tree => .error (tree.invalidType "unit")

/-- An integer of 32 bits. -/
def asInt32 : Tree → Except Fault Int32
  | .number numeral _ stop => do
    match ← numeral.value stop with
    | .int n =>
      if Int32.minValue.toInt ≤ n ∧ n ≤ Int32.maxValue.toInt then return .ofInt n
      else .error (.before (.misfit (.invalidValue (.integer n) "i32")) stop)
    | .float x => .error (.before (.misfit (.invalidType (.float x) "i32")) stop)
  | tree => .error (tree.invalidType "i32")

/-- The text after an opening bracket. -/
def afterOpening (start : List Char) : List Char := start.drop 1

/-- Where a fault of an object is reported that is found once the text `s` is reached: after the
closing brace if that comes next. -/
def objectEnd (s : List Char) : Place :=
  match skipBlanks s with
  | '\x7d' :: stop => .before stop
  | rest => .before rest

/-- Where a fault of an array is reported that is found once the text `s` is reached: after the
closing bracket or the comma if that comes next. -/
def arrayEnd (s : List Char) : Place :=
  match skipBlanks s with
  | ']' :: stop => .before stop
  | ',' :: rest => .before (skipBlanks rest)
  | rest => .before rest

/-- The fault of an array that does not end where its last expected item does. -/
def overlongFault? (s : List Char) : Option Fault :=
  match skipBlanks s with
  | ']' :: _ => none
  | ',' :: rest =>
    match skipBlanks rest with
    | ']' :: stop => some (.next .trailingComma (']' :: stop))
    | rest => some (.next .trailingCharacters rest)
  | [] => some (.before .eofInArray [])
  | rest => some (.next .trailingCharacters rest)

/-- The fault of a duplicate field, whose key has just been read. -/
def duplicateField (field : String) (key : Key) : Fault :=
  ⟨.misfit (.duplicateField field), some (objectEnd key.stop)⟩

/-- The fault of a field that an object lacks. -/
def missingField (field : String) (stop : List Char) : Fault :=
  ⟨.misfit (.missingField field), some (.before stop)⟩

/-- One of the named alternatives of an enumeration: its bare name, or an object whose only key is
the name and whose value is what the alternative carries. -/
def asVariant {α : Type} (names : List String) (bare : String → Except Fault α)
    (carrying : String → Tree → Except Fault α) (tree : Tree) : Except Fault α :=
  match tree with
  | .string content _ stop => do
    let name ← content
    if names.contains name then bare name
    else .error (.before (.misfit (.unknownVariant name names)) stop)
  | .object ((key, value) :: _) _ _ => do
    let name ← key.content
    if names.contains name then
      let result ← carrying name value
      match skipBlanks (value.stop?.getD []) with
      | '\x7d' :: _ => return result
      | [] => .error (.before .eofInObject [])
      | rest => .error (.before .expectedValue rest)
    else .error (.before (.misfit (.unknownVariant name names)) key.stop)
  | .object [] closing _ =>
    match closing with
    | .closed stop => .error (.next .expectedValue ('\x7d' :: stop))
    | .badKey rest => .error ((Tree.parse rest).invalidType "variant identifier")
    | .brokenKey gap => .error gap.reading
    | _ => .error (.before .eofInValue [])
  | .broken gap start =>
    match start with
    | '"' :: _ => .error gap.reading
    | [] => .error (.before .eofInValue [])
    | start => .error (.next .expectedValue start)
  | .unreached fault => .error fault
  | tree => .error (.next .expectedValue tree.start)

/-- The entries of an object from left to right: those with a known name change the state, a name
that occurs again is refused, and the others are passed over. -/
def foldFields {σ : Type} (fields : List String) (step : σ → String → Tree → Except Fault σ)
    (seen : List String) (state : σ) : List (Key × Tree) → Except Fault σ
  | [] => .ok state
  | (key, value) :: rest => do
    let name ← key.content
    if fields.contains name then
      if seen.contains name then .error (duplicateField name key)
      else foldFields fields step (name :: seen) (← step state name value) rest
    else
      match value.passingFault? with
      | some fault => .error fault
      | none => foldFields fields step seen state rest

/-- The items of an array in the order of the fields they stand for. What comes back is the state
and the text after the last item used. -/
def foldItems {σ : Type} (step : σ → String → Tree → Except Fault σ) :
    (fields : List String) → (state : σ) → (reached : List Char) → List Tree →
      Except Fault (σ × List Char)
  | field :: fields, state, _, item :: rest => do
    foldItems step fields (← step state field item) (item.stop?.getD []) rest
  | _, state, reached, _ => .ok (state, reached)

/-- A record all of whose fields have defaults: an object with some of the fields, or an array with
some of the first of them. -/
def asRecord {σ : Type} (expected : String) (fields : List String)
    (step : σ → String → Tree → Except Fault σ) (state : σ) : Tree → Except Fault σ
  | .object entries closing _ => do
    let state ← foldFields fields step [] state entries
    match closing.readingFault? true with
    | some fault => .error fault
    | none => return state
  | .array items closing start => do
    let (state, reached) ← foldItems step fields state (afterOpening start) items
    if items.length < fields.length then
      match closing.readingFault? false with
      | some fault => .error fault
      | none => return state
    else
      match overlongFault? reached with
      | some fault => .error fault
      | none => return state
  | tree => .error (tree.invalidType expected)

end BoundaryContract.Json.Tree
