import BoundaryContract.Text.Alphanumeric
import BoundaryContract.Text.Space
import BoundaryContract.Text.Split

/-!
# Log filters

The level of a log is a filter: directives divided by commas. A directive is a level, a target, or a
target with a span and its fields, perhaps followed by an equals sign and a level.
-/

namespace BoundaryContract

/-- Why a filter is not understood. -/
inductive FilterFault
  | directive
  | level
deriving DecidableEq

/-- The wording of a fault. -/
def FilterFault.message : FilterFault → String
  | .directive => "invalid filter directive"
  | .level =>
    "error parsing level filter: expected one of \"off\", \"error\", \"warn\", \"info\", " ++
      "\"debug\", \"trace\", or a number 0-5"

namespace Filter

/-- The parts of a directive before its level. -/
inductive Part
  | start
  | target
  | span
  /-- A field; `empty` until there is anything in it. -/
  | field (empty : Bool)
  | fields
  | spanEnd

/-- The part that a character leads to, unless it cannot stand there. -/
def Part.next? : Part → Char → Option Part
  | .start, c =>
    if c = '[' then some .span
    else if c = '-' || c = ':' || c = '_' || Text.isAlphanumeric c then some .target
    else none
  | .target, c => some (if c = '[' then .span else .target)
  | .span, c =>
    some (if c = ']' then .spanEnd else if c = '\x7b' then .field true else .span)
  | .field empty, c =>
    if c = '\x7d' then (if empty then none else some .fields) else some (.field false)
  | .fields, c => if c = ']' then some .spanEnd else none
  | .spanEnd, _ => none

/-- Whether the level may follow a part, or nothing at all. -/
def Part.isLast : Part → Bool
  | .target | .spanEnd => true
  | _ => false

/-- The text of the level of a directive that is read up to some part, if it has one. -/
def levelFrom (part : Part) : List Char → Except FilterFault (Option (List Char))
  | [] => if part.isLast then .ok none else .error .directive
  | c :: cs =>
    if part.isLast && c = '=' then .ok (some cs)
    else
      match part.next? c with
      | some part => levelFrom part cs
      | none => .error .directive

/-- The names of levels. -/
def levelNames : List String := ["off", "error", "warn", "info", "debug", "trace"]

/-- The greatest level that is given as a number. -/
def maxLevel : Nat := 5

/-- Whether digits are the number of a level. -/
def isLevelNumber (digits : List Char) : Bool :=
  !digits.isEmpty && digits.all Char.isDigit &&
    digits.foldl (fun n c => 10 * n + (c.toNat - '0'.toNat)) 0 ≤ maxLevel

/-- Whether a text is a level: a name in any mixture of upper and lower case, or a number, perhaps
with a plus sign. -/
def isLevel (text : List Char) : Bool :=
  levelNames.contains (String.ofList (text.map Char.toLower)) ||
    match text with
    | '+' :: digits => isLevelNumber digits
    | digits => isLevelNumber digits

/-- Why a directive is not understood. White space around it is passed over, but not if it has a
level of its own; that level may be left empty. -/
def directiveFault? (directive : List Char) : Option FilterFault :=
  match levelFrom .start (Text.trim directive) with
  | .error fault => some fault
  | .ok none => none
  | .ok (some level) =>
    if Text.trim directive = directive && (level.isEmpty || isLevel level) then none
    else some .level

/-- Why a filter is not understood: the fault of its first directive that has one. Directives
without any text are passed over. -/
def fault? (filter : String) : Option FilterFault :=
  ((Text.split ',' filter.toList).filter fun directive => !directive.isEmpty).findSome?
    directiveFault?

end Filter

end BoundaryContract
