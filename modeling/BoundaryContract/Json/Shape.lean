import BoundaryContract.Document.Shape
import BoundaryContract.Json.Decode

/-!
# Records with defaults in JSON text

A record is an object of sections, a section an object of settings; either can also be an array of
some of its first parts. What the text leaves out stays as it is.
-/

namespace BoundaryContract.Json

/-- The change that a tree asks for as the content of a setting. -/
def Tree.asSetting {α : Type} (tree : Tree) : Setting α → Except Fault (α → α)
  | .choice options =>
    tree.asVariant (options.map Prod.fst) (fun name => .ok (chosen options name))
      fun name content => (fun _ => chosen options name) <$> content.asUnit
  | .flag set => set <$> tree.asBool
  | .text set => set <$> tree.asOptionalString

/-- The record with a section changed as a tree asks for. -/
def Tree.asSection {α : Type} (tree : Tree) (sec : Section α) (record : α) : Except Fault α :=
  tree.asRecord sec.expected (sec.settings.map Prod.fst)
    (fun record name tree =>
      match sec.settings.lookup name with
      | some setting => (fun change => change record) <$> tree.asSetting setting
      | none => .ok record)
    record

/-- The record changed as a tree asks for. -/
def Tree.asShape {α : Type} (tree : Tree) (shape : Shape α) (record : α) : Except Fault α :=
  tree.asRecord shape.expected (shape.sections.map Prod.fst)
    (fun record name tree =>
      match shape.sections.lookup name with
      | some sec => tree.asSection sec record
      | none => .ok record)
    record

/-- The record changed as a text asks for. -/
def readShape {α : Type} (shape : Shape α) (record : α) (text : String) : Except ReadError α :=
  decodeText (fun tree => tree.asShape shape record) text

end BoundaryContract.Json
