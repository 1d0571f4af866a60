import BoundaryContract.Number.Binary64

/-!
# JSON values

A JSON value with its object entries in written order. Free values keep their entries sorted by key
with the last of equal keys winning, which is what `Json.ofEntries` builds; a record that is written
field by field keeps its declaration order.
-/

namespace BoundaryContract

/-- A JSON number: an integer of 64 bits, signed or unsigned, or a double. -/
inductive JsonNumber
  | int (n : Int)
  | float (x : Binary64)
deriving DecidableEq

/-- A JSON value. -/
inductive Json
  | null
  | bool (b : Bool)
  | number (n : JsonNumber)
  | string (s : String)
  | array (items : List Json)
  | object (entries : List (String × Json))

instance : Inhabited Json := ⟨.null⟩

namespace Json

/-- An integer as a JSON value. -/
def int (n : Int) : Json := .number (.int n)

/-- Insertion into entries sorted by key, replacing an equal key. -/
def insertEntry (key : String) (value : Json) : List (String × Json) → List (String × Json)
  | [] => [(key, value)]
  | (k, v) :: rest =>
    if key < k then (key, value) :: (k, v) :: rest
    else if key = k then (key, value) :: rest
    else (k, v) :: insertEntry key value rest

/-- Entries sorted by key, the last of equal keys winning. -/
def sortEntries (entries : List (String × Json)) : List (String × Json) :=
  entries.foldl (fun sorted entry => insertEntry entry.1 entry.2 sorted) []

/-- The object with the given entries, sorted by key, the last of equal keys winning. -/
def ofEntries (entries : List (String × Json)) : Json :=
  .object (sortEntries entries)

mutual

/-- A value with the entries of all its objects sorted by key. -/
def sorted : Json → Json
  | .array items => .array (sortedItems items)
  | .object entries => ofEntries (sortedEntries entries)
  | .null => .null
  | .bool b => .bool b
  | .number n => .number n
  | .string s => .string s

/-- The items of an array, each sorted within. -/
def sortedItems : List Json → List Json
  | [] => []
  | item :: rest => sorted item :: sortedItems rest

/-- The entries of an object, each sorted within. -/
def sortedEntries : List (String × Json) → List (String × Json)
  | [] => []
  | (key, value) :: rest => (key, sorted value) :: sortedEntries rest

end

/-- The value under a key of an object. -/
def find? (key : String) : Json → Option Json
  | .object entries => entries.lookup key
  | _ => none

end Json

end BoundaryContract
