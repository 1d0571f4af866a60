import BoundaryContract.Document.Shape
import BoundaryContract.Yaml.Plain
import BoundaryContract.Yaml.Stream

/-!
# Records with defaults in YAML text

A record is a mapping of sections, a section a mapping of settings, and a scalar without any text
stands for an empty mapping. What the text leaves out stays as it is. A misfit is reported at the
node that does not fit, or, where no single node is to blame, at the mapping around it.
-/

namespace BoundaryContract.Yaml

/-- Why a node does not fit. -/
inductive Fault
  /-- A cause whose place is not yet known. -/
  | unplaced (m : Misfit)
  | error (e : ReadError)

/-- A fault with its place, if that was not yet known. -/
def Fault.place (path : String) (mark : Mark) : Fault → Fault
  | .unplaced m => .error (.misfit m path mark)
  | .error e => .error e

/-- A fault as an error. -/
def Fault.toError : Fault → ReadError
  | .unplaced m => .misfit m "" .origin
  | .error e => e

/-- The places of faults set where they are not yet known. -/
def placed {α : Type} (path : String) (mark : Mark) (r : Except Fault α) : Except Fault α :=
  r.mapError (Fault.place path mark)

/-! ### Aliases -/

mutual

/-- The nodes with anchors and the numbers of these, in the order of the text. -/
def Node.anchored : Node → List (Nat × Node)
  | .scalar props text presentation =>
    (props.anchor.map fun n => (n, .scalar props text presentation)).toList
  | .sequence props items =>
    (props.anchor.map fun n => (n, .sequence props items)).toList ++ anchoredItems items
  | .mapping props entries =>
    (props.anchor.map fun n => (n, .mapping props entries)).toList ++ anchoredEntries entries
  | .alias _ _ | .broken _ => []

/-- The nodes with anchors among items. -/
def Node.anchoredItems : List Node → List (Nat × Node)
  | [] => []
  | item :: rest => item.anchored ++ anchoredItems rest

/-- The nodes with anchors among entries. -/
def Node.anchoredEntries : List (Node × Node) → List (Nat × Node)
  | [] => []
  | (key, value) :: rest => key.anchored ++ value.anchored ++ anchoredEntries rest

end

/-- The anchored nodes of a document, those that count for a number first. -/
abbrev Anchors := List (Nat × Node)

/-- The node that an alias stands for; any other node stands for itself. -/
def Node.target (anchors : Anchors) : Node → Node
  | .alias n mark => (anchors.lookup n).getD (.alias n mark)
  | node => node

/-- Where a node begins. -/
def Node.mark : Node → Mark
  | .scalar props _ _ | .sequence props _ | .mapping props _ => props.mark
  | .alias _ mark => mark
  | .broken _ => .origin

mutual

/-- The break in a node that is passed over, if there is one. -/
def Node.fault? : Node → Option ReadError
  | .scalar _ _ _ | .alias _ _ => none
  | .sequence _ items => itemsFault? items
  | .mapping _ entries => entriesFault? entries
  | .broken e => some e

/-- The first break among items. -/
def Node.itemsFault? : List Node → Option ReadError
  | [] => none
  | item :: rest => item.fault?.or (itemsFault? rest)

/-- The first break among entries. -/
def Node.entriesFault? : List (Node × Node) → Option ReadError
  | [] => none
  | (key, value) :: rest => key.fault?.or (value.fault?.or (entriesFault? rest))

end

/-! ### What nodes hold -/

/-- The wording of an integer beyond 64 bits. -/
def wideInteger (n : Int) : Found :=
  .other (s!"integer `{n}` as " ++ if n < 0 then "i128" else "u128")

/-- What a plain scalar holds, by its text alone. -/
def foundPlain (text : String) : Found :=
  match Plain.resolve text with
  | .null => .null
  | .bool b => .bool b
  | .int n => if Int64.minValue.toInt ≤ n ∧ n < UInt64.size then .integer n else wideInteger n
  | .float x => .float x
  | .special word => .other s!"floating point `{word}.0`"
  | .text => .string text

/-- The tag of truth values, as it is written out. -/
def boolTag : TagText := .ofString "tag:yaml.org,2002:bool"

/-- The tag of integers. -/
def intTag : TagText := .ofString "tag:yaml.org,2002:int"

/-- The tag of doubles. -/
def floatTag : TagText := .ofString "tag:yaml.org,2002:float"

/-- The tag of the empty value. -/
def nullTag : TagText := .ofString "tag:yaml.org,2002:null"

/-- Whether a text spells the empty value out. -/
def spellsNull (text : String) : Bool := !text.isEmpty && Plain.nullWords.contains text

/-- A scalar that does not fit: what it holds, or that it is not what its own tag says. -/
def scalarMisfit (tag : Option TagText) (text : String) (presentation : Presentation)
    (expected : String) : Misfit :=
  let wrong (expected : String) : Misfit := .invalidValue (.string text) expected
  let holds (found : Found) : Misfit := .invalidType found expected
  match tag with
  | none => holds (if presentation = .plain then foundPlain text else .string text)
  | some tag =>
    if tag = boolTag then
      match Plain.bool? text with
      | some b => holds (.bool b)
      | none => wrong "a boolean"
    else if tag = intTag then
      match Plain.int? text.toList with
      | some n => holds (foundPlain (toString n))
      | none => wrong "an integer"
    else if tag = floatTag then
      match Plain.special? text, Plain.float? text.toList with
      | some word, _ => holds (.other s!"floating point `{word}.0`")
      | none, some x => holds (.float x)
      | none, none => wrong "a float"
    else if tag = nullTag then
      if spellsNull text then holds .null else wrong "null"
    else if tag.head? = some 0x21 ∧ presentation = .plain then holds (foundPlain text)
    else holds (.string text)

/-- A node that is not what was expected. -/
def Node.misfit (expected : String) : Node → Fault
  | .scalar props text presentation =>
    .unplaced (scalarMisfit props.tag text presentation expected)
  | .sequence _ _ => .unplaced (.invalidType .sequence expected)
  | .mapping _ _ => .unplaced (.invalidType .map expected)
  | .alias _ mark => .error (.unknownAnchor mark)
  | .broken e => .error e

/-! ### Settings -/

/-- The name that a tag gives to one of some alternatives, if it is a tag of that sort. -/
def variantTag? (tag : Option TagText) : Option String :=
  match tag with
  | some (0x21 :: name) =>
    String.fromUTF8? ⟨(if name.isEmpty then [0x21] else name).toArray⟩
  | _ => none

/-- The text of a scalar. -/
def Node.asString (anchors : Anchors) (path : String) (expected : String) (node : Node) :
    Except Fault String :=
  match node.target anchors with
  | .scalar _ text _ => .ok text
  | other => .error ((other.misfit expected).place path other.mark)

/-- A truth value. -/
def Node.asBool (anchors : Anchors) (path : String) (node : Node) : Except Fault Bool :=
  let target := node.target anchors
  let misfit := (target.misfit "a boolean").place path target.mark
  match target with
  | .scalar props text presentation =>
    if presentation = .plain ∨ (presentation = .literal ∧ props.tag = some boolTag) then
      match Plain.bool? text with
      | some b => .ok b
      | none => .error misfit
    else .error misfit
  | _ => .error misfit

/-- A text or nothing: a plain scalar can spell the empty value. -/
def Node.asOptionalString (anchors : Anchors) (path : String) (node : Node) :
    Except Fault (Option String) :=
  let target := node.target anchors
  match target with
  | .scalar props text .plain =>
    match props.tag with
    | none =>
      if text.isEmpty || spellsNull text then .ok none else .ok (some text)
    | some tag =>
      if tag = nullTag then
        if spellsNull text then .ok none
        else .error (.unplaced (.invalidValue (.string text) "null"))
      else .ok (some text)
  | _ => some <$> target.asString anchors path "a string"

/-- Whether a node whose tag is settled is empty. -/
def Node.asUnit (path : String) (node : Node) : Except Fault Unit :=
  match node with
  | .scalar props text presentation =>
    if presentation = .plain ∧ (text.isEmpty || spellsNull text) then .ok ()
    else .error (.error (.misfit (.invalidValue (.string text) "null") path props.mark))
  | other => .error ((other.misfit "unit").place path other.mark)

/-- One of some alternatives, named by a scalar or by the tag of an empty node. -/
def Node.asVariantAt (path : String) (names : List String) (node : Node) : Except Fault String :=
  let byTag (name : String) : Except Fault String :=
    if names.contains name then (fun _ => name) <$> node.asUnit path
    else .error (.unplaced (.unknownVariant name names))
  let untagged (expected : String) : Except Fault String :=
    .error ((node.misfit expected).place path node.mark)
  match node with
  | .scalar props text _ =>
    match variantTag? props.tag with
    | some name => byTag name
    | none =>
      if names.contains text then .ok text
      else .error (.error (.misfit (.unknownVariant text names) path props.mark))
  | .sequence props _ | .mapping props _ =>
    match variantTag? props.tag with
    | some name => byTag name
    | none => untagged "a YAML tag starting with '!'"
  | _ => untagged "a YAML tag starting with '!'"

/-- One of some alternatives; what an alias stands for is reported at the alias if it has no place
of its own. -/
def Node.asVariant (anchors : Anchors) (path : String) (names : List String) (node : Node) :
    Except Fault String :=
  match node with
  | .alias _ mark => placed path mark ((node.target anchors).asVariantAt path names)
  | node => node.asVariantAt path names

/-- The change that a node asks for as the content of a setting. -/
def Node.asSetting {α : Type} (anchors : Anchors) (path : String) (node : Node) :
    Setting α → Except Fault (α → α)
  | .choice options =>
    chosen options <$> node.asVariant anchors path (options.map Prod.fst)
  | .flag set => set <$> node.asBool anchors path
  | .text set => set <$> node.asOptionalString anchors path

/-! ### Records -/

/-- The path to the value under a key: keys that are aliases are not told. -/
def childPath (path : String) (key : Node) : String :=
  let parent := if path.isEmpty then "" else path ++ "."
  match key with
  | .scalar _ text _ => parent ++ text
  | _ => parent ++ "?"

/-- The entries of a mapping from first to last: those with a known name change the record, a name
that occurs again is refused, and the others are passed over. -/
def foldEntries {α : Type} (anchors : Anchors) (path : String) (names : List String)
    (step : (path name : String) → Node → α → Except Fault α) :
    (seen : List String) → (record : α) → List (Node × Node) → Except Fault α
  | _, record, [] => .ok record
  | seen, record, (key, value) :: rest => do
    let name ← key.asString anchors path "field identifier"
    if names.contains name then
      if seen.contains name then .error (.unplaced (.duplicateField name))
      else
        let record ← step (childPath path key) name value record
        foldEntries anchors path names step (name :: seen) record rest
    else
      match value.fault? with
      | some e => .error (.error e)
      | none => foldEntries anchors path names step seen record rest

/-- A record all of whose fields have defaults. -/
def Node.asRecord {α : Type} (anchors : Anchors) (path expected : String) (names : List String)
    (step : (path name : String) → Node → α → Except Fault α) (record : α) (node : Node) :
    Except Fault α :=
  let target := node.target anchors
  placed path target.mark <|
    match target with
    | .mapping _ entries => foldEntries anchors path names step [] record entries
    | .scalar _ "" .plain => .ok record
    | other => .error (other.misfit expected)

/-- The record with a section changed as a node asks for. -/
def Node.asSection {α : Type} (anchors : Anchors) (path : String) (sec : Section α) (node : Node)
    (record : α) : Except Fault α :=
  node.asRecord anchors path sec.expected (sec.settings.map Prod.fst)
    (fun path name value record =>
      match sec.settings.lookup name with
      | some setting => (fun change => change record) <$> value.asSetting anchors path setting
      | none => .ok record)
    record

/-- The record changed as a node asks for. -/
def Node.asShape {α : Type} (anchors : Anchors) (shape : Shape α) (record : α) (node : Node) :
    Except Fault α :=
  node.asRecord anchors "" shape.expected (shape.sections.map Prod.fst)
    (fun path name value record =>
      match shape.sections.lookup name with
      | some sec => value.asSection anchors path sec record
      | none => .ok record)
    record

/-- The record changed as a text asks for. -/
def readShape {α : Type} (shape : Shape α) (record : α) (text : String) : Except ReadError α :=
  let stream := Stream.ofText text
  match stream.root with
  | none => .ok record
  | some root =>
    match root.asShape root.anchored.reverse shape record with
    | .error fault => .error fault.toError
    | .ok record =>
      match stream.fault with
      | some e => .error e
      | none => if stream.more then .error .severalDocuments else .ok record

end BoundaryContract.Yaml
