import BoundaryContract.Text.Position
import BoundaryContract.Yaml.Character
import BoundaryContract.Yaml.Plain

/-!
# Styles of scalars

A string is written plainly if nothing in it could be misread, in a literal block if it has line
breaks, and otherwise between single or double quotes. `Style.choose` takes the plainest style that
the content and the place allow.
-/

namespace BoundaryContract.Yaml

/-- How a scalar is written. -/
inductive Style
  | plain
  | singleQuoted
  | doubleQuoted
  | literal
deriving DecidableEq

/-- What the content of a scalar allows. -/
structure Allowance where
  plain : Bool
  singleQuoted : Bool
  literal : Bool
deriving DecidableEq

namespace Allowance

/-- Characters that cannot begin a plain scalar. -/
def startsIndicator (c : Char) : Bool :=
  "#,[]\x7b\x7d&*!|>'\"%@`".toList.contains c

/-- Whether the first character makes the content an indicator. -/
def badStart : List Char → Bool
  | [] => false
  | c :: cs =>
    startsIndicator c || ((c == '?' || c == ':' || c == '-') && endsWord cs)

/-- Whether some later character makes the content an indicator: a colon at the end of a word, or a
number sign at the start of one. The flag tells whether a word ends before. -/
def badInside : (ended : Bool) → List Char → Bool
  | _, [] => false
  | ended, c :: cs =>
    (c == ':' && endsWord cs) || (c == '#' && ended) ||
      badInside (isBlank c || isBreak c || c == '\x00') cs

/-- Whether the content begins like a document marker. -/
def marksDocument : List Char → Bool
  | '-' :: '-' :: '-' :: _ => true
  | '.' :: '.' :: '.' :: _ => true
  | _ => false

/-- Whether a character of the first kind is directly followed by one of the second kind. -/
def hasPair (first second : Char → Bool) : List Char → Bool
  | a :: b :: cs => (first a && second b) || hasPair first second (b :: cs)
  | _ => false

/-- A blank in the narrow sense of the layout of lines. -/
def isSpace (c : Char) : Bool := c == ' '

/-- What a content allows. -/
def ofContent (s : List Char) : Allowance :=
  match s with
  | [] => ⟨true, true, false⟩
  | c :: cs =>
    let indicator := marksDocument s || badStart s ||
      badInside (isBlank c || isBreak c || c == '\x00') cs
    let special := s.any fun c => !isPrintable c
    let breaks := s.any isBreak
    let last := s.getLast?.getD c
    let edgeSpace := isSpace c || isSpace last
    let edgeBreak := isBreak c || isBreak last
    let breakSpace := hasPair isBreak isSpace s
    let spaceBreak := hasPair isSpace isBreak s
    { plain :=
        !(indicator || edgeSpace || edgeBreak || breakSpace || spaceBreak || special || breaks)
      singleQuoted := !(breakSpace || spaceBreak || special)
      literal := !(isSpace last || spaceBreak || special) }

end Allowance

namespace Style

/-- The style of a string. -/
def choose (s : String) : Style :=
  let content := s.toList
  let allowed := Allowance.ofContent content
  let quoted : Style := if allowed.singleQuoted then .singleQuoted else .doubleQuoted
  if content.contains '\n' then
    if allowed.literal then .literal else .doubleQuoted
  else if Plain.isMistakable s || !allowed.plain then quoted
  else .plain

end Style

end BoundaryContract.Yaml
