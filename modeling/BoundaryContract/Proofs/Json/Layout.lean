import BoundaryContract.Json.Printer
import BoundaryContract.Json.Scalar

/-!
# Layouts of JSON text

The compact and the pretty text of a value differ in nothing but the blanks between the tokens. A
`Layout` says which blanks these are, and `Layout.chars` is the text of a value in a layout. What is
proved of all layouts holds of both printers (`compact_eq`, `pretty_eq`).
-/

namespace BoundaryContract.Json

/-- The blanks that are written between the tokens of a text. -/
structure Layout where
  /-- Before an item and before a closing bracket, inside so many containers. -/
  gap : Nat → List Char
  /-- After the colon of an entry. -/
  colonGap : List Char
  gap_blank (depth : Nat) : ∀ c ∈ gap depth, isBlank c
  colonGap_blank : ∀ c ∈ colonGap, isBlank c

namespace Layout

variable (L : Layout)

mutual

/-- The text of a value inside `depth` containers. -/
def chars (depth : Nat) : Json → List Char
  | .null => ['n', 'u', 'l', 'l']
  | .bool b => boolChars b
  | .number n => numberChars n
  | .string s => quoteChars s
  | .array [] => ['[', ']']
  | .array (item :: rest) =>
    '[' :: L.gap (depth + 1) ++ chars (depth + 1) item ++ items (depth + 1) rest ++
      L.gap depth ++ [']']
  | .object [] => ['\x7b', '\x7d']
  | .object ((key, value) :: rest) =>
    '\x7b' :: L.gap (depth + 1) ++ quoteChars key ++ ':' :: L.colonGap ++
      chars (depth + 1) value ++ entries (depth + 1) rest ++ L.gap depth ++ ['\x7d']

/-- The further items of an array, each after a comma. -/
def items (depth : Nat) : List Json → List Char
  | [] => []
  | item :: rest => ',' :: L.gap depth ++ chars depth item ++ items depth rest

/-- The further entries of an object, each after a comma. -/
def entries (depth : Nat) : List (String × Json) → List Char
  | [] => []
  | (key, value) :: rest =>
    ',' :: L.gap depth ++ quoteChars key ++ ':' :: L.colonGap ++ chars depth value ++
      entries depth rest

end

/-- No blanks at all. -/
def compact : Layout := ⟨fun _ => [], [], fun _ => nofun, nofun⟩

@[simp] theorem compact_gap (depth : Nat) : compact.gap depth = [] := rfl

@[simp] theorem compact_colonGap : compact.colonGap = [] := rfl

/-- Every item and entry on a line of its own. -/
def pretty : Layout where
  gap := newline
  colonGap := [' ']
  gap_blank depth c hc := by
    obtain rfl | hc := List.mem_cons.mp hc
    · rfl
    · rw [List.eq_of_mem_replicate hc]
      rfl
  colonGap_blank c hc := by
    rw [List.mem_singleton.mp hc]
    rfl

end Layout

mutual

/-- The compact printer writes the layout without blanks, whatever the depth is taken to be. -/
theorem compactChars_eq (d : Nat) : ∀ json, compactChars json = Layout.compact.chars d json
  | .null | .bool _ | .number _ | .string _ => by simp only [compactChars, Layout.chars]
  | .array [] => rfl
  | .array (item :: rest) => by
    have hitems := compactItems_eq (d + 1) (item :: rest) (List.cons_ne_nil _ _)
    rw [Layout.items] at hitems
    rw [compactChars, (List.cons.inj hitems).2, Layout.chars]
    simp
  | .object [] => rfl
  | .object ((key, value) :: rest) => by
    have hentries := compactEntries_eq (d + 1) ((key, value) :: rest) (List.cons_ne_nil _ _)
    rw [Layout.entries] at hentries
    rw [compactChars, (List.cons.inj hentries).2, Layout.chars]
    simp

/-- Compact items are printed as the compact layout has them, behind a comma. -/
theorem compactItems_eq (d : Nat) : ∀ items, items ≠ [] →
    ',' :: compactItems items = Layout.compact.items d items
  | [], h => absurd rfl h
  | [item], _ => by
    rw [compactItems, compactChars_eq d, Layout.items, Layout.items, List.append_nil]
    rfl
  | item :: next :: rest, _ => by
    have hrest := compactItems_eq d (next :: rest) (List.cons_ne_nil _ _)
    rw [compactItems, compactChars_eq d, hrest, Layout.items]
    · rfl
    · exact List.cons_ne_nil _ _

/-- So are compact entries. -/
theorem compactEntries_eq (d : Nat) : ∀ entries, entries ≠ [] →
    ',' :: compactEntries entries = Layout.compact.entries d entries
  | [], h => absurd rfl h
  | [(key, value)], _ => by
    rw [compactEntries, compactChars_eq d, Layout.entries, Layout.entries, List.append_nil]
    simp
  | (key, value) :: next :: rest, _ => by
    have hrest := compactEntries_eq d (next :: rest) (List.cons_ne_nil _ _)
    rw [compactEntries, compactChars_eq d, hrest]
    · simp [Layout.entries]
    · exact List.cons_ne_nil _ _

end

mutual

/-- The pretty printer writes the layout of lines. -/
theorem prettyChars_eq : ∀ d json, prettyChars d json = Layout.pretty.chars d json
  | d, .null | d, .bool _ | d, .number _ | d, .string _ => by simp only [prettyChars, Layout.chars]
  | d, .array [] => rfl
  | d, .array (item :: rest) => by
    rw [prettyChars, prettyChars_eq, prettyItems_eq, Layout.chars]
    rfl
  | d, .object [] => rfl
  | d, .object ((key, value) :: rest) => by
    rw [prettyChars, prettyChars_eq, prettyEntries_eq, Layout.chars]
    simp [Layout.pretty]

theorem prettyItems_eq : ∀ d items, prettyItems d items = Layout.pretty.items d items
  | d, [] => rfl
  | d, item :: rest => by
    rw [prettyItems, prettyChars_eq, prettyItems_eq, Layout.items]
    rfl

theorem prettyEntries_eq : ∀ d entries, prettyEntries d entries = Layout.pretty.entries d entries
  | d, [] => rfl
  | d, (key, value) :: rest => by
    rw [prettyEntries, prettyChars_eq, prettyEntries_eq, Layout.entries]
    simp [Layout.pretty]

end

theorem compact_eq (json : Json) : json.compact = String.ofList (Layout.compact.chars 0 json) := by
  rw [compact, compactChars_eq 0]

theorem pretty_eq (json : Json) : json.pretty = String.ofList (Layout.pretty.chars 0 json) := by
  rw [pretty, prettyChars_eq]

end BoundaryContract.Json
