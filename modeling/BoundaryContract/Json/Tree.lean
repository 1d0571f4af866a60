import BoundaryContract.Json.Scalar

/-!
# The tree of a JSON text

`Tree.parse` turns a text into a tree that keeps every place where an error could be reported. A
text that breaks off still has a tree: the break is a leaf or the end of a container. What a reader
of the tree meets first, in the order of the text, is then what it reports: a break, or a value that
does not fit.
-/

namespace BoundaryContract.Json

/-- How the text of a container ends. -/
inductive Closing
  /-- With its closing bracket; `stop` is the text after it. -/
  | closed (stop : List Char)
  /-- The text ends after the opening bracket or after an item. -/
  | missing
  /-- The text ends after a comma. -/
  | missingAfterComma
  /-- The closing bracket follows a comma. -/
  | trailingComma (rest : List Char)
  /-- Neither a comma nor the closing bracket follows an item. -/
  | junk (rest : List Char)
  /-- Something other than a string stands where a key is due. -/
  | badKey (rest : List Char)
  /-- A key is not a well-formed string. -/
  | brokenKey (gap : Break)

/-- The key of an object's entry and the text after its closing quote. -/
structure Key where
  content : Except Fault String
  stop : List Char

/-- A value in a text. `start` is the text from its first character on, `stop` the text after it. -/
inductive Tree
  | null (start stop : List Char)
  | bool (b : Bool) (start stop : List Char)
  | number (numeral : Numeral) (start stop : List Char)
  | string (content : Except Fault String) (start stop : List Char)
  | array (items : List Tree) (closing : Closing) (start : List Char)
  | object (entries : List (Key × Tree)) (closing : Closing) (start : List Char)
  | broken (gap : Break) (start : List Char)
  /-- The text breaks before the value begins. -/
  | unreached (fault : Fault)

/-- The text after a container that is closed. -/
def Closing.stop? : Closing → Option (List Char)
  | .closed stop => some stop
  | _ => none

namespace Tree

/-- The text from a value's first character on. -/
def start : Tree → List Char
  | .null start _ | .bool _ start _ | .number _ start _ | .string _ start _
  | .array _ _ start | .object _ _ start | .broken _ start => start
  | .unreached _ => []

/-- The text after a value that does not break off. -/
def stop? : Tree → Option (List Char)
  | .null _ stop | .bool _ _ stop | .number _ _ stop | .string _ _ stop => some stop
  | .array _ closing _ | .object _ closing _ => closing.stop?
  | .broken _ _ | .unreached _ => none

/-- A leaf whose text is a word, of which the first letter has been seen. -/
def ofWord (leaf : List Char → Tree) (word start s : List Char) : Tree :=
  match readWord word s with
  | .ok stop => leaf stop
  | .error fault => .broken (.ofFault fault) start

/-- A number, from after its sign. -/
def ofNumber (negative : Bool) (start s : List Char) : Tree :=
  match readNumeral negative s with
  | .ok (numeral, stop) => .number numeral start stop
  | .error gap => .broken gap start

/-- The break of a string that cannot even be passed over; reading it breaks there or earlier. -/
def stringBreak (s : List Char) (passing : Fault) : Break :=
  match readString s with
  | .error reading => ⟨reading, passing⟩
  | .ok _ => .ofFault passing

/-- A string, from after its opening quote. -/
def ofString (start s : List Char) : Tree :=
  match passString s with
  | .ok stop => .string (stringContent s) start stop
  | .error passing => .broken (stringBreak s passing) start

/-- A value that is no container. -/
def ofScalar (start : List Char) : Tree :=
  match start with
  | [] => .broken (.ofFault (.before .eofInValue [])) []
  | c :: s =>
    match c with
    | 'n' => ofWord (.null start) ['u', 'l', 'l'] start s
    | 't' => ofWord (.bool true start) ['r', 'u', 'e'] start s
    | 'f' => ofWord (.bool false start) ['a', 'l', 's', 'e'] start s
    | '-' => ofNumber true start s
    | '"' => ofString start s
    | c =>
      if c.isDigit then ofNumber false start start
      else .broken (.ofFault (.next .expectedValue start)) start

mutual

/-- The value at the start of a text that does not begin with a blank. The fuel bounds the number of
values and brackets still to come. -/
def ofText : (fuel : Nat) → List Char → Tree
  | 0, s => .broken (.ofFault (.before .eofInValue [])) s
  | fuel + 1, s =>
    match s with
    | '[' :: rest =>
      let (items, closing) := itemsOfText fuel true (skipBlanks rest)
      .array items closing s
    | '\x7b' :: rest =>
      let (entries, closing) := entriesOfText fuel true (skipBlanks rest)
      .object entries closing s
    | s => ofScalar s

/-- The items of an array from one of them on, or from the comma before it unless it is the first.
-/
def itemsOfText : (fuel : Nat) → (first : Bool) → List Char → List Tree × Closing
  | 0, _, _ => ([], .missing)
  | fuel + 1, first, s =>
    match s with
    | [] => ([], .missing)
    | ']' :: stop => ([], .closed stop)
    | ',' :: rest =>
      if first then ([ofScalar s], .missing)
      else
        match skipBlanks rest with
        | [] => ([], .missingAfterComma)
        | ']' :: stop => ([], .trailingComma (']' :: stop))
        | s => itemOfText fuel s
    | s => if first then itemOfText fuel s else ([], .junk s)

/-- An item of an array and what comes after it. -/
def itemOfText : (fuel : Nat) → List Char → List Tree × Closing
  | 0, _ => ([], .missing)
  | fuel + 1, s =>
    let item := ofText fuel s
    match item.stop? with
    | none => ([item], .missing)
    | some stop =>
      let (items, closing) := itemsOfText fuel false (skipBlanks stop)
      (item :: items, closing)

/-- The entries of an object from one of them on, or from the comma before it unless it is the
first. -/
def entriesOfText : (fuel : Nat) → (first : Bool) → List Char → List (Key × Tree) × Closing
  | 0, _, _ => ([], .missing)
  | fuel + 1, first, s =>
    match s with
    | [] => ([], .missing)
    | '\x7d' :: stop => ([], .closed stop)
    | ',' :: rest =>
      if first then ([], .badKey s)
      else
        match skipBlanks rest with
        | [] => ([], .missingAfterComma)
        | '\x7d' :: stop => ([], .trailingComma ('\x7d' :: stop))
        | '"' :: rest => entryOfText fuel rest
        | s => ([], .badKey s)
    | '"' :: rest => if first then entryOfText fuel rest else ([], .junk s)
    | s => ([], if first then .badKey s else .junk s)

/-- An entry of an object, from after its key's opening quote, and what comes after it. -/
def entryOfText : (fuel : Nat) → List Char → List (Key × Tree) × Closing
  | 0, _ => ([], .missing)
  | fuel + 1, s =>
    match passString s with
    | .error passing => ([], .brokenKey (stringBreak s passing))
    | .ok afterKey =>
      let key : Key := ⟨stringContent s, afterKey⟩
      match skipBlanks afterKey with
      | ':' :: rest =>
        let value := ofText fuel (skipBlanks rest)
        match value.stop? with
        | none => ([(key, value)], .missing)
        | some stop =>
          let (entries, closing) := entriesOfText fuel false (skipBlanks stop)
          ((key, value) :: entries, closing)
      | [] => ([(key, .unreached (.before .eofInObject []))], .missing)
      | rest => ([(key, .unreached (.next .expectedColon rest))], .missing)

end

/-- The tree of a text: its first value. -/
def parse (s : List Char) : Tree :=
  ofText (3 * s.length + 3) (skipBlanks s)

end Tree

/-! ### Breaks met by a reader -/

namespace Closing

/-- The fault met at the end of a container that is being read. -/
def readingFault? (inObject : Bool) : Closing → Option Fault
  | .closed _ => none
  | .missing => some (.before (if inObject then .eofInObject else .eofInArray) [])
  | .missingAfterComma => some (.before .eofInValue [])
  | .trailingComma rest => some (.next .trailingComma rest)
  | .junk rest =>
    some (.next (if inObject then .expectedCommaOrBrace else .expectedCommaOrBracket) rest)
  | .badKey rest => some (.next .keyNotString rest)
  | .brokenKey gap => some gap.reading

/-- The fault met at the end of a container that is being passed over. -/
def passingFault? (inObject : Bool) : Closing → Option Fault
  | .missingAfterComma => some (.before (if inObject then .eofInObject else .eofInValue) [])
  | .trailingComma rest => some (.next (if inObject then .keyNotString else .expectedValue) rest)
  | .brokenKey gap => some gap.passing
  | closing => closing.readingFault? inObject

end Closing

namespace Tree

mutual

/-- The fault met by a reader that passes over a value. -/
def passingFault? : Tree → Option Fault
  | .null _ _ | .bool _ _ _ | .number _ _ _ | .string _ _ _ => none
  | .array items closing _ => (itemsPassingFault? items).or (closing.passingFault? false)
  | .object entries closing _ => (entriesPassingFault? entries).or (closing.passingFault? true)
  | .broken gap _ => some gap.passing
  | .unreached fault => some fault

/-- The fault met by a reader that passes over the items of an array. -/
def itemsPassingFault? : List Tree → Option Fault
  | [] => none
  | item :: rest => (passingFault? item).or (itemsPassingFault? rest)

/-- The fault met by a reader that passes over the entries of an object. -/
def entriesPassingFault? : List (Key × Tree) → Option Fault
  | [] => none
  | (_, value) :: rest => (passingFault? value).or (entriesPassingFault? rest)

end

/-- What a value is to a reader that expects something else, with the place it reports: after a
scalar, but before a container. -/
def found : Tree → Except Fault (Found × Place)
  | .null _ stop => .ok (.null, .before stop)
  | .bool b _ stop => .ok (.bool b, .before stop)
  | .number numeral _ stop => do
    match ← numeral.value stop with
    | .int n => return (.integer n, .before stop)
    | .float x => return (.float x, .before stop)
  | .string content _ stop => do return (.string (← content), .before stop)
  | .array _ _ start => .ok (.sequence, .before start)
  | .object _ _ start => .ok (.map, .before start)
  | .broken gap _ => .error gap.reading
  | .unreached fault => .error fault

/-- The fault of a value that is not of the expected type. -/
def invalidType (tree : Tree) (expected : String) : Fault :=
  match tree.found with
  | .error fault => fault
  | .ok (found, place) => ⟨.misfit (.invalidType found expected), some place⟩

end Tree

end BoundaryContract.Json
