import BoundaryContract.Json.Reader

/-!
# The content of a tree

`Tree.Holds tree json` says that a tree of a JSON text has no breaks and holds the value `json`,
with the entries of objects in the order of the text. Whoever reads a tree that holds a value meets
nothing but the value: the reader of free values gives the value with all its entries sorted, if it
does not nest too deep (`Tree.Holds.toJson`). Entries that are sorted already stay as they are
(`sortEntries_eq_self`).
-/

namespace BoundaryContract.Json

/-! ### Nesting -/

mutual

/-- The number of containers of a value that are open at a time. -/
def depth : Json → Nat
  | .array items => depthItems items + 1
  | .object entries => depthEntries entries + 1
  | .null | .bool _ | .number _ | .string _ => 0

/-- The number of containers that are open at a time in the items of an array. -/
def depthItems : List Json → Nat
  | [] => 0
  | item :: rest => max (depth item) (depthItems rest)

/-- The number of containers that are open at a time in the entries of an object. -/
def depthEntries : List (String × Json) → Nat
  | [] => 0
  | (_, value) :: rest => max (depth value) (depthEntries rest)

end

/-! ### Sorted entries -/

section Sorted

variable {key k : String} {value v : Json} {entries rest : List (String × Json)}

/-- An entry whose key comes before the first one is put in front. -/
theorem insertEntry_of_lt (h : key < k) :
    insertEntry key value ((k, v) :: rest) = (key, value) :: (k, v) :: rest := if_pos h

/-- An entry whose key comes after all others is put at the end. -/
theorem insertEntry_of_forall_lt (h : ∀ k ∈ entries.map Prod.fst, k < key) :
    insertEntry key value entries = entries ++ [(key, value)] := by
  induction entries with
  | nil => rfl
  | cons entry rest ih =>
    rw [List.map_cons] at h
    obtain ⟨hentry, hrest⟩ := List.forall_mem_cons.mp h
    have hne : key ≠ entry.1 := fun heq => String.lt_irrefl key (heq ▸ hentry)
    rw [insertEntry, if_neg (String.lt_asymm hentry), if_neg hne, ih hrest, List.cons_append]

/-- Entries whose keys ascend are left as they are. -/
theorem sortEntries_eq_self (h : (entries.map Prod.fst).Pairwise (· < ·)) :
    sortEntries entries = entries := by
  -- each entry of what is left comes after all that were put in before it
  have hfold : ∀ sorted rest : List (String × Json),
      ((sorted ++ rest).map Prod.fst).Pairwise (· < ·) →
        rest.foldl (fun sorted entry => insertEntry entry.1 entry.2 sorted) sorted =
          sorted ++ rest := by
    intro sorted rest
    induction rest generalizing sorted with
    | nil => simp
    | cons entry rest ih =>
      intro hpair
      have hlast : ∀ k ∈ sorted.map Prod.fst, k < entry.1 := by
        rw [List.map_append] at hpair
        exact fun k hk => (List.pairwise_append.mp hpair).2.2 k hk entry.1 List.mem_cons_self
      rw [List.append_cons] at hpair ⊢
      rw [List.foldl_cons, insertEntry_of_forall_lt hlast, ih _ hpair]
  exact hfold [] entries h

/-- An object is left as it is if its keys ascend and its values are left as they are. -/
theorem sorted_object (hkeys : (entries.map Prod.fst).Pairwise (· < ·))
    (h : sortedEntries entries = entries) : (object entries).sorted = .object entries := by
  rw [sorted, h, ofEntries, sortEntries_eq_self hkeys]

end Sorted

/-! ### Content -/

mutual

/-- The tree has no breaks and holds the value. -/
inductive Tree.Holds : Tree → Json → Prop
  | null {start stop} : Holds (.null start stop) .null
  | bool {b start stop} : Holds (.bool b start stop) (.bool b)
  | number {numeral start stop n} : numeral.value stop = .ok n →
    Holds (.number numeral start stop) (.number n)
  | string {s start stop} : Holds (.string (.ok s) start stop) (.string s)
  | array {trees items start stop} : ItemsHold trees items →
    Holds (.array trees (.closed stop) start) (.array items)
  | object {trees entries start stop} : EntriesHold trees entries →
    Holds (.object trees (.closed stop) start) (.object entries)

/-- The trees have no breaks and hold the items of an array. -/
inductive Tree.ItemsHold : List Tree → List Json → Prop
  | nil : ItemsHold [] []
  | cons {tree trees item rest} : Holds tree item → ItemsHold trees rest →
    ItemsHold (tree :: trees) (item :: rest)

/-- The trees have no breaks and hold the entries of an object. -/
inductive Tree.EntriesHold : List (Key × Tree) → List (String × Json) → Prop
  | nil : EntriesHold [] []
  | cons {key name tree trees value rest} : key.content = .ok name → Holds tree value →
    EntriesHold trees rest → EntriesHold ((key, tree) :: trees) ((name, value) :: rest)

end

namespace Tree

mutual

/-- A tree is read as the value that it holds, with its entries sorted. -/
theorem Holds.toJson {tree : Tree} {json : Json} {d : Nat} (h : tree.Holds json)
    (hd : json.depth ≤ d) : tree.toJson d = .ok json.sorted := by
  cases h with
  | null => rfl
  | bool => rfl
  | number hn => rw [Tree.toJson, hn]; rfl
  | string => rfl
  | array hitems =>
    cases d with
    | zero => exact absurd hd (Nat.not_succ_le_zero _)
    | succ d => rw [Tree.toJson, hitems.toJson (Nat.le_of_succ_le_succ hd)]; rfl
  | object hentries =>
    cases d with
    | zero => exact absurd hd (Nat.not_succ_le_zero _)
    | succ d => rw [Tree.toJson, hentries.toJson (Nat.le_of_succ_le_succ hd)]; rfl

/-- Items are read in order, each with its entries sorted. -/
theorem ItemsHold.toJson {trees : List Tree} {items : List Json} {d : Nat}
    (h : ItemsHold trees items) (hd : depthItems items ≤ d) :
    itemsToJson d trees = .ok (sortedItems items) := by
  cases h with
  | nil => rfl
  | cons hitem hrest =>
    obtain ⟨hd, hd'⟩ := Nat.max_le.mp hd
    rw [itemsToJson, hitem.toJson hd, hrest.toJson hd']
    rfl

/-- Entries are read in order; it is the object around them that sorts. -/
theorem EntriesHold.toJson {trees : List (Key × Tree)} {entries : List (String × Json)} {d : Nat}
    (h : EntriesHold trees entries) (hd : depthEntries entries ≤ d) :
    entriesToJson d trees = .ok (sortedEntries entries) := by
  cases h with
  | nil => rfl
  | cons hkey hvalue hrest =>
    obtain ⟨hd, hd'⟩ := Nat.max_le.mp hd
    rw [entriesToJson, hkey, hvalue.toJson hd, hrest.toJson hd']
    rfl

end

end Tree

end BoundaryContract.Json
