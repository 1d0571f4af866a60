import BoundaryContract.Proofs.Json.RoundTrip
import BoundaryContract.Proofs.Yaml.Node
import BoundaryContract.Proofs.Yaml.ScalarText
import BoundaryContract.Yaml.Shape

/-!
# What documents hold

Settings are given by mappings, texts, truth values and nothing, which can be written in JSON and in
YAML. `Content` is what a document holds as far as these go. `Json.Tree.Has` and `Yaml.Node.Has`
relate the tree of a JSON text and the nodes of a YAML text to their content, whatever way of
writing it was chosen; numbers, lists and everything else that is well formed is only `other`, which
a reader can pass over but not use.
-/

namespace BoundaryContract

/-- What a document holds. -/
inductive Content
  | nothing
  | flag (b : Bool)
  | text (s : String)
  | mapping (entries : List (String × Content))
  /-- Anything, also what is none of the above. -/
  | other

namespace Content

/-- A text or nothing. -/
def ofOption : Option String → Content
  | some s => .text s
  | none => .nothing

/-- What a mapping has under a name. -/
def entry? (name : String) : Content → Option Content
  | .mapping entries => entries.lookup name
  | _ => none

mutual

/-- What a JSON value holds. -/
def ofJson : Json → Content
  | .null => .nothing
  | .bool b => .flag b
  | .string s => .text s
  | .object entries => .mapping (ofEntries entries)
  | .number _ | .array _ => .other

/-- What the entries of an object hold. -/
def ofEntries : List (String × Json) → List (String × Content)
  | [] => []
  | (key, value) :: rest => (key, ofJson value) :: ofEntries rest

end

end Content

/-! ### JSON -/

namespace Json

mutual

/-- A tree has a content. -/
inductive Tree.Has : Tree → Content → Prop
  | nothing {start stop : List Char} : Has (.null start stop) .nothing
  | flag {b : Bool} {start stop : List Char} : Has (.bool b start stop) (.flag b)
  | text {s : String} {start stop : List Char} : Has (.string (.ok s) start stop) (.text s)
  | mapping {trees : List (Key × Tree)} {entries : List (String × Content)} {start stop : List Char}
    (h : Tree.EntriesHave trees entries) :
    Has (.object trees (.closed stop) start) (.mapping entries)
  | other {tree : Tree} (h : tree.passingFault? = none) : Has tree .other

/-- The entries of an object have contents under the names that their keys spell. -/
inductive Tree.EntriesHave : List (Key × Tree) → List (String × Content) → Prop
  | nil : EntriesHave [] []
  | cons {key : Key} {name : String} {tree : Tree} {content : Content} {trees : List (Key × Tree)}
    {entries : List (String × Content)} (hkey : key.content = .ok name) (hvalue : tree.Has content)
    (hrest : EntriesHave trees entries) :
    EntriesHave ((key, tree) :: trees) ((name, content) :: entries)

end

namespace Tree

mutual

/-- What has a content can be passed over. -/
theorem Has.passingFault?_eq_none {tree : Tree} {content : Content} (h : tree.Has content) :
    tree.passingFault? = none := by
  cases h with
  | nothing => rfl
  | flag => rfl
  | text => rfl
  | mapping h =>
    rw [passingFault?, h.passingFault?_eq_none]
    rfl
  | other h => exact h

/-- Entries that have a content can be passed over, key and value. -/
theorem EntriesHave.passingFault?_eq_none {trees : List (Key × Tree)}
    {entries : List (String × Content)} (h : EntriesHave trees entries) :
    entriesPassingFault? trees = none := by
  cases h with
  | nil => rfl
  | cons _ hvalue hrest =>
    rw [entriesPassingFault?, hvalue.passingFault?_eq_none, hrest.passingFault?_eq_none]
    rfl

end

mutual

/-- A tree that holds a value has its content. -/
theorem Holds.has {tree : Tree} {json : Json} (h : tree.Holds json) : tree.Has (.ofJson json) := by
  cases h with
  | null => exact .nothing
  | bool => exact .flag
  | number => exact .other rfl
  | string => exact .text
  | array h =>
    refine .other ?_
    rw [passingFault?, h.passingFault?_eq_none]
    rfl
  | object h => exact .mapping h.entriesHave

/-- Items that hold something can be passed over. -/
theorem ItemsHold.passingFault?_eq_none {trees : List Tree} {items : List Json}
    (h : ItemsHold trees items) : itemsPassingFault? trees = none := by
  cases h with
  | nil => rfl
  | cons hitem hrest =>
    rw [itemsPassingFault?, hitem.has.passingFault?_eq_none, hrest.passingFault?_eq_none]
    rfl

/-- Entries that hold JSON have its content. -/
theorem EntriesHold.entriesHave {trees : List (Key × Tree)} {entries : List (String × Json)}
    (h : EntriesHold trees entries) : EntriesHave trees (Content.ofEntries entries) := by
  cases h with
  | nil => exact .nil
  | cons hkey hvalue hrest => exact .cons hkey hvalue.has hrest.entriesHave

end

end Tree

/-- A text is a document of a content, with nothing but blanks around it. -/
def IsDocument (text : String) (content : Content) : Prop :=
  ∃ stop, (Tree.parse text.toList).Has content ∧ (Tree.parse text.toList).stop? = some stop ∧
    Blanks stop

/-- The printed text of a value is a document of its content, with blanks after it or not. -/
theorem Layout.isDocument_append (L : Layout) {json : Json} (h : json.Integral) {blanks : List Char}
    (hblanks : Blanks blanks) :
    IsDocument (String.ofList (L.chars 0 json ++ blanks)) (.ofJson json) := by
  obtain ⟨hholds, hstop⟩ := L.parse_append h hblanks
  rw [IsDocument, String.toList_ofList]
  exact ⟨blanks, hholds.has, hstop, hblanks⟩

/-- The compact text of a value is a document of its content. -/
theorem isDocument_compact {json : Json} (h : json.Integral) :
    IsDocument json.compact (.ofJson json) := by
  have hdoc := Layout.compact.isDocument_append h (List.forall_mem_nil _)
  rwa [List.append_nil, ← compact_eq] at hdoc

end Json

/-! ### YAML -/

namespace Yaml

/-- The tag of texts, as it is written out. -/
def textTag : TagText := .ofString "tag:yaml.org,2002:str"

/-- A scalar with a tag or without spells a content. Without a tag, everything between quotes and in
blocks is a text, and so is a plain scalar that spells nothing else. Under the tag of truth values a
literal block can spell one, but quotes cannot; the empty value is always plain, and is spelled out
under its tag. -/
inductive Spells : Option TagText → String → Presentation → Content → Prop
  | quoted {s : String} {presentation : Presentation} (h : presentation ≠ .plain) :
    Spells none s presentation (.text s)
  | plain {s : String} (h : Plain.resolve s = .text) : Spells none s .plain (.text s)
  | tagged (s : String) (presentation : Presentation) :
      Spells (some textTag) s presentation (.text s)
  | flag {tag : Option TagText} {s : String} {b : Bool} (htag : tag = none ∨ tag = some boolTag)
    (h : Plain.bool? s = some b) : Spells tag s .plain (.flag b)
  | literalFlag {s : String} {b : Bool} (h : Plain.bool? s = some b) :
    Spells (some boolTag) s .literal (.flag b)
  | nothing {s : String} (h : s ∈ Plain.nullWords) : Spells none s .plain .nothing
  | taggedNothing {s : String} (h : spellsNull s) : Spells (some nullTag) s .plain .nothing

mutual

/-- A node has a content, possibly through an alias. -/
inductive Node.Has (anchors : Anchors) : Node → Content → Prop
  | scalar {node : Node} {props : Properties} {s : String} {presentation : Presentation}
    {content : Content} (h : node.target anchors = .scalar props s presentation)
    (hspells : Spells props.tag s presentation content) : Has anchors node content
  | mapping {node : Node} {props : Properties} {nodes : List (Node × Node)}
    {entries : List (String × Content)} (h : node.target anchors = .mapping props nodes)
    (hentries : Node.EntriesHave anchors nodes entries) : Has anchors node (.mapping entries)
  | other {node : Node} (h : node.fault? = none) : Has anchors node .other

/-- The entries of a mapping have contents under the texts of their keys, which are scalars. -/
inductive Node.EntriesHave (anchors : Anchors) :
    List (Node × Node) → List (String × Content) → Prop
  | nil : EntriesHave anchors [] []
  | cons {key : Node} {props : Properties} {name : String} {presentation : Presentation}
    {node : Node} {content : Content} {nodes : List (Node × Node)}
    {entries : List (String × Content)}
    (hkey : key.target anchors = .scalar props name presentation)
    (hvalue : node.Has anchors content)
    (hrest : EntriesHave anchors nodes entries) :
    EntriesHave anchors ((key, node) :: nodes) ((name, content) :: entries)

end

namespace Node

variable {anchors : Anchors}

/-- An alias can be passed over, whatever it stands for. -/
theorem fault?_of_target {node : Node} (h : (node.target anchors).fault? = none) :
    node.fault? = none := by
  match node, h with
  | .alias _ _, _ => rfl
  | .scalar _ _ _, h | .sequence _ _, h | .mapping _ _, h | .broken _, h => exact h

mutual

/-- What has a content can be passed over. -/
theorem Has.fault?_eq_none {node : Node} {content : Content} (h : node.Has anchors content) :
    node.fault? = none := by
  cases h with
  | scalar h =>
    have htarget : (node.target anchors).fault? = none := by
      rw [h]
      rfl
    exact fault?_of_target htarget
  | mapping h hentries =>
    have htarget : (node.target anchors).fault? = none := by
      rw [h]
      exact hentries.fault?_eq_none
    exact fault?_of_target htarget
  | other h => exact h

/-- Entries that have a content can be passed over, key and value. -/
theorem EntriesHave.fault?_eq_none {nodes : List (Node × Node)} {entries : List (String × Content)}
    (h : EntriesHave anchors nodes entries) : entriesFault? nodes = none := by
  cases h with
  | @cons key _ _ _ _ _ _ _ hkey hvalue hrest =>
    -- a key that is no scalar is an alias of one
    have hkey : key.fault? = none := fault?_of_target (by rw [hkey]; rfl)
    rw [entriesFault?, hkey, hvalue.fault?_eq_none, hrest.fault?_eq_none]
    rfl
  | nil => rfl

end

/-- What has the content of a mapping stands for one. -/
theorem Has.exists_mapping {node : Node} {entries : List (String × Content)}
    (h : node.Has anchors (.mapping entries)) : ∃ props nodes,
      node.target anchors = .mapping props nodes ∧ EntriesHave anchors nodes entries := by
  cases h with
  | @scalar _ props _ _ _ _ hspells =>
    generalize props.tag = tag at hspells
    cases hspells
  | mapping h hentries => exact ⟨_, _, h, hentries⟩

/-- What has another content that can be used stands for a scalar. -/
theorem Has.exists_scalar {node : Node} {content : Content} (h : node.Has anchors content)
    (hmapping : ∀ entries, content ≠ .mapping entries) (hother : content ≠ .other) :
    ∃ tag props s presentation, node.target anchors = .scalar props s presentation ∧
      props.tag = tag ∧ Spells tag s presentation content := by
  cases h with
  | scalar h hspells => exact ⟨_, _, _, _, h, rfl, hspells⟩
  | mapping => exact absurd rfl (hmapping _)
  | other => exact absurd rfl hother

/-- A string in the style that is chosen for it spells itself. -/
theorem spells_choose (s : String) : Spells none s (Style.choose s).presentation (.text s) := by
  cases hstyle : Style.choose s with
  | plain =>
    refine .plain ?_
    have hplain := isMistakable_of_choose hstyle
    rw [Plain.isMistakable] at hplain
    split at hplain
    · assumption
    · cases hplain
  | singleQuoted => exact .quoted (by decide)
  | doubleQuoted => exact .quoted (by decide)
  | literal => exact .quoted (by decide)

mutual

/-- The nodes of a JSON value that is written as YAML have its content. -/
theorem Shows.has {node : Node} : (json : Json) → node.Shows (Yaml.ofJson json) →
    node.Has anchors (.ofJson json)
  | .null, h => by
    cases h with
    | plain mark text => exact .scalar rfl (.nothing (by decide))
  | .bool b, h => by
    rw [Yaml.ofJson] at h
    cases h with
    | plain mark text => cases b <;> exact .scalar rfl (.flag (.inl rfl) rfl)
  | .number n, h => by
    rw [Yaml.ofJson] at h
    cases h with
    | plain mark text => exact .other rfl
  | .string s, h => by
    rw [Yaml.ofJson] at h
    cases h with
    | string mark s => exact .scalar rfl (spells_choose s)
  | .array items, h => by
    rw [Yaml.ofJson] at h
    cases h
  | .object entries, h => by
    rw [Yaml.ofJson] at h
    cases h with
    | mapping mark hentries => exact .mapping rfl (EntriesShow.entriesHave entries hentries)

/-- Entries that show JSON have its content. -/
theorem EntriesShow.entriesHave {nodes : List (Node × Node)} : (entries : List (String × Json)) →
    EntriesShow nodes (Yaml.ofEntries entries) →
    EntriesHave anchors nodes (Content.ofEntries entries)
  | [], h => by
    cases h
    exact .nil
  | (key, value) :: rest, h => by
    rw [Yaml.ofEntries] at h
    cases h with
    | cons hkey hvalue hrest =>
      cases hkey
      exact .cons rfl (hvalue.has value) (hrest.entriesHave rest)

end

end Node

/-- A text is a single document of a content. -/
def IsDocument (text : String) (content : Content) : Prop :=
  ∃ root, Stream.ofText text = ⟨some root, none, false⟩ ∧ root.Has root.anchored.reverse content

/-- The text of an object that is written as an outline is a document of its content, with printable
characters after it that belong to no scalar. -/
theorem isDocument_outline {json : Json} {entries : List (String × Yaml)}
    (hjson : ofJson json = .mapping entries) (houtline : IsOutline (.mapping entries))
    {tail : List Char} (hprintable : AllPrintable tail)
    (htail : Follows (nodeChars none .root (.mapping entries)) tail 0 []) :
    IsDocument (String.ofList (nodeChars none .root (.mapping entries) ++ tail))
      (.ofJson json) := by
  obtain ⟨node, hshows, hstream⟩ :=
    exists_root_outline houtline.1 houtline.2 hprintable htail
  exact ⟨node, hstream, Node.Shows.has json (hjson ▸ hshows)⟩

end Yaml

end BoundaryContract
