/-!
# Records with defaults

A record of settings in sections can be given by a document in which everything is optional. A
`Shape` says which names a document can use and what each setting changes in the record; readers of
the document formats share it.
-/

namespace BoundaryContract

/-- How a document gives a setting of a record `α`. -/
inductive Setting (α : Type)
  /-- By one of some names. -/
  | choice (options : List (String × (α → α)))
  /-- By a truth value. -/
  | flag (set : Bool → α → α)
  /-- By a text, or by nothing. -/
  | text (set : Option String → α → α)

/-- A section of a record: how readers call what they expect, and its settings by name. -/
structure Section (α : Type) where
  expected : String
  settings : List (String × Setting α)

/-- A record: how readers call what they expect, and its sections by name. -/
structure Shape (α : Type) where
  expected : String
  sections : List (String × Section α)

/-- The change that a name makes. -/
def chosen {α : Type} (options : List (String × (α → α))) (name : String) : α → α :=
  (options.lookup name).getD id

end BoundaryContract
