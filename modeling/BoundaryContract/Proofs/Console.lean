import BoundaryContract.Console.Script
import Mathlib.Data.List.Forall2

/-!
# What the settings of the console change

In the formats for programs the output is settled by the format alone: the texts that are passed on
as they are, and one document a step, each with a single line break at its end (`published`). In the
format for human readers a step is made of pieces, each with its part in the output; quiet leaves
out the pieces that can be done without and color changes the messages and summaries only
(`pieces`). How much detail is asked for changes no text at all. `Confined` collects this for one
sequence of steps, and `settings_confined` shows it of all of them.
-/

namespace BoundaryContract.Console

/-! ### Formats for programs -/

/-- The document that a step writes, if it writes one. -/
def Step.document? : Step → Option Document
  | .data doc => some doc
  | .report r _ => some (.ofJson r.toJson)
  | .surface symbols => some (.ofJson (surfaceDocument symbols))
  | _ => none

/-- The text that a step passes on as it is. -/
def Step.raw : Step → String
  | .write text => text
  | .writeLine text => text ++ "\n"
  | _ => ""

/-- What a step adds to the output of a format for programs: its document on lines of its own, or
the text that it passes on. -/
def Step.published (format : Format) (step : Step) : String :=
  match step.document? with
  | some doc => oneBreak (format.render doc)
  | none => step.raw

/-- The text ends in a line break, and in no more than one. -/
def EndsInOneBreak (text : String) : Prop :=
  ∃ body, text = body ++ "\n" ∧ body.toList.getLast? ≠ some '\n'

/-- A text that is finished with one line break ends in one. -/
theorem endsInOneBreak_oneBreak (text : String) : EndsInOneBreak (oneBreak text) := by
  refine ⟨_, rfl, ?_⟩
  rw [String.toList_ofList, List.getLast?_reverse]
  intro h
  have hhead := List.head?_dropWhile_not (fun c => decide (c = '\n')) text.toList.reverse
  rw [h] at hhead
  simp at hhead

theorem message_of_ne_human {c : Console} (h : c.format ≠ .human) (colored plain : String) :
    c.message colored plain = "" := if_neg h

theorem quietable_of_ne_human {c : Console} (h : c.format ≠ .human) (colored plain : String) :
    c.quietable colored plain = "" := by
  rw [quietable, message_of_ne_human h, ite_self]

theorem document_of_ne_human {c : Console} (h : c.format ≠ .human) (doc : Document) :
    c.document doc = oneBreak (c.format.render doc) := by
  rw [document, finish, if_neg fun hhuman => h hhuman.1]

/-- A text that does not end in a line break is finished by one. -/
theorem finish_of_getLast? (c : Console) {text : String} {ch : Char}
    (h : text.toList.getLast? = some ch) (hne : ch ≠ '\n') : c.finish text = text ++ "\n" := by
  obtain ⟨cs, hcs⟩ := List.getLast?_eq_some_iff.mp h
  have hkept : (text.toList.reverse.dropWhile fun ch => decide (ch = '\n')).reverse =
      text.toList := by
    rw [hcs, List.reverse_append, List.reverse_singleton, List.singleton_append,
      List.dropWhile_cons_of_neg (by simpa using hne), List.reverse_cons, List.reverse_reverse]
  rw [finish, if_neg, oneBreak, hkept, String.ofList_toList, line]
  rintro ⟨-, hbreak⟩
  rw [h] at hbreak
  exact hne (Option.some.inj hbreak)

/-- In a format for programs a report is one document. -/
theorem report_of_ne_human {c : Console} (h : c.format ≠ .human) (r : Report)
    (failuresOnly : Bool) : c.report r failuresOnly = c.document (.ofJson r.toJson) := by
  rw [report.eq_def]
  split
  · next hhuman => exact absurd hhuman h
  · rfl

/-- In a format for programs a step adds what it publishes. -/
theorem say_of_ne_human {c : Console} (h : c.format ≠ .human) (step : Step) :
    c.say step = step.published c.format := by
  cases step with
  | write text => rfl
  | writeLine text => rfl
  | info text => exact quietable_of_ne_human h _ _
  | success text => exact quietable_of_ne_human h _ _
  | warning text => exact message_of_ne_human h _ _
  | error text => exact message_of_ne_human h _ _
  | heading title =>
    show c.heading title = ""
    rw [heading, quietable_of_ne_human h]
    rfl
  | data doc => exact document_of_ne_human h doc
  | report r failuresOnly =>
    exact (report_of_ne_human h r failuresOnly).trans (document_of_ne_human h _)
  | surface symbols =>
    have hsurface : c.surface symbols = c.document (.ofJson (surfaceDocument symbols)) := by
      rw [surface.eq_def]
      split
      · next hhuman => exact absurd hhuman h
      · rfl
    exact hsurface.trans (document_of_ne_human h _)

/-! ### The format for human readers -/

/-- The part that a piece of text plays in the output. -/
inductive Role
  /-- A text that is passed on as it is. -/
  | raw
  /-- A message, with the empty line before it if it is a heading. -/
  | message
  /-- A document, a listing or the body of a report. -/
  | body
  /-- The summary of a report. -/
  | summary
deriving DecidableEq

/-- A piece of the output. -/
structure Piece where
  role : Role
  /-- Whether quiet leaves the piece out. -/
  dispensable : Bool
  text : String

/-- The console that is not quiet. -/
def loud (c : Console) : Console := { c with quiet := false }

/-- The pieces that a step is made of where the console is not quiet. Remarks, good news and
headings are dispensable, and so is the summary of a report without failed checks. -/
def pieces (c : Console) : Step → List Piece
  | .write text => [⟨.raw, false, text⟩]
  | .writeLine text => [⟨.raw, false, line text⟩]
  | .info text => [⟨.message, true, c.loud.info text⟩]
  | .success text => [⟨.message, true, c.loud.success text⟩]
  | .warning text => [⟨.message, false, c.loud.warning text⟩]
  | .error text => [⟨.message, false, c.loud.error text⟩]
  | .heading title => [⟨.message, true, c.loud.heading title⟩]
  | .data doc => [⟨.body, false, c.loud.document doc⟩]
  | .report r failuresOnly =>
    [⟨.body, false, c.loud.finish (r.listing failuresOnly)⟩,
     ⟨.summary, r.failed = 0, c.loud.verdict r⟩]
  | .surface symbols => [⟨.body, false, c.loud.surface symbols⟩]

/-- The text of pieces, one after another. -/
def textOf (ps : List Piece) : String := String.join (ps.map Piece.text)

/-- The console that is quiet. -/
def hushed (c : Console) : Console := { c with quiet := true }

theorem textOf_append (ps qs : List Piece) : textOf (ps ++ qs) = textOf ps ++ textOf qs := by
  rw [textOf, List.map_append, String.join_append]
  rfl

theorem textOf_singleton (p : Piece) : textOf [p] = p.text := by
  simp [textOf, String.join]

theorem eq_textOf_singleton {s : String} {p : Piece} (h : s = p.text) : s = textOf [p] := by
  rw [h, textOf_singleton]

variable {c : Console}

/-- For human readers a step is made of its pieces. -/
theorem say_loud (h : c.format = .human) (step : Step) :
    c.loud.say step = textOf (c.pieces step) := by
  cases step with
  | report r failuresOnly =>
    have hreport : c.loud.report r failuresOnly =
        c.loud.finish (r.listing failuresOnly) ++ c.loud.verdict r := by
      rw [report.eq_def, show c.loud.format = .human from h]
    show c.loud.report r failuresOnly = textOf ([_] ++ [_])
    rw [hreport, textOf_append, textOf_singleton, textOf_singleton]
  | _ => exact eq_textOf_singleton rfl

/-- A message that quiet suppresses says nothing on a quiet console. -/
theorem quietable_hushed (colored plain : String) : c.hushed.quietable colored plain = "" :=
  if_pos rfl

/-- Quiet leaves out the good news about a report and keeps any other summary. -/
theorem verdict_hushed (c : Console) (r : Report) :
    c.hushed.verdict r = if r.failed = 0 then "" else c.loud.verdict r := by
  rw [verdict]
  split
  · exact quietable_hushed _ _
  · next hfailed =>
    rw [verdict, if_neg hfailed]
    rfl

/-- On a quiet console the dispensable pieces of a step are left out. -/
theorem say_hushed (h : c.format = .human) (step : Step) :
    c.hushed.say step = textOf ((c.pieces step).filter fun p => !p.dispensable) := by
  cases step with
  | write text => exact eq_textOf_singleton rfl
  | writeLine text => exact eq_textOf_singleton rfl
  | info text =>
    show c.hushed.info text = textOf []
    rw [info, quietable_hushed]
    rfl
  | success text =>
    show c.hushed.success text = textOf []
    rw [success, quietable_hushed]
    rfl
  | warning text => exact eq_textOf_singleton rfl
  | error text => exact eq_textOf_singleton rfl
  | heading title =>
    show c.hushed.heading title = textOf []
    rw [heading, quietable_hushed]
    rfl
  | data doc => exact eq_textOf_singleton rfl
  | surface symbols => exact eq_textOf_singleton rfl
  | report r failuresOnly =>
    have hreport : c.hushed.report r failuresOnly =
        c.loud.finish (r.listing failuresOnly) ++ c.hushed.verdict r := by
      rw [report.eq_def, show c.hushed.format = .human from h]
      rfl
    show c.hushed.report r failuresOnly = _
    rw [hreport, verdict_hushed, pieces]
    by_cases hfailed : r.failed = 0
    · simp [hfailed, textOf_singleton]
    · -- the listing and a summary with failures are both kept
      have hkeep : ∀ p q : Piece, textOf [p, q] = p.text ++ q.text := fun p q => by
        rw [← textOf_singleton p, ← textOf_singleton q, ← textOf_append]
        rfl
      simp [hfailed, hkeep]

/-- A sequence of steps says what its steps say, when what these say depends on pieces. -/
theorem transcript_eq_textOf {c : Console} {ps : Step → List Piece}
    (h : ∀ step, c.say step = textOf (ps step)) (steps : List Step) :
    c.transcript steps = textOf (steps.flatMap ps) := by
  induction steps with
  | nil => rfl
  | cons step rest ih =>
    have hcons : c.transcript (step :: rest) = c.say step ++ c.transcript rest := by
      rw [transcript, List.map_cons, String.join_cons]
      rfl
    rw [hcons, h, ih, List.flatMap_cons, textOf_append]

/-! ### Color -/

/-- Two pieces that differ at most in the wording of a message or a summary. -/
structure SameButColor (p q : Piece) : Prop where
  role : p.role = q.role
  dispensable : p.dispensable = q.dispensable
  text : p.role = .raw ∨ p.role = .body → p.text = q.text

/-- Consoles that differ in their color only. -/
theorem sameButColor_pieces (color : Bool) (step : Step) :
    List.Forall₂ SameButColor (c.pieces step) ({ c with color }.pieces step) := by
  have hmessage : ∀ (role : Role) (dispensable : Bool) (s t : String),
      role = .message ∨ role = .summary →
        SameButColor ⟨role, dispensable, s⟩ ⟨role, dispensable, t⟩ := by
    rintro role dispensable s t hrole
    refine ⟨rfl, rfl, fun hkept => ?_⟩
    obtain rfl | rfl := hrole <;> obtain hkept | hkept := hkept <;> cases hkept
  have hkept : ∀ (role : Role) (dispensable : Bool) (s : String),
      SameButColor ⟨role, dispensable, s⟩ ⟨role, dispensable, s⟩ :=
    fun _ _ _ => ⟨rfl, rfl, fun _ => rfl⟩
  cases step with
  | write text => exact .cons (hkept _ _ _) .nil
  | writeLine text => exact .cons (hkept _ _ _) .nil
  | info text => exact .cons (hmessage _ _ _ _ (.inl rfl)) .nil
  | success text => exact .cons (hmessage _ _ _ _ (.inl rfl)) .nil
  | warning text => exact .cons (hmessage _ _ _ _ (.inl rfl)) .nil
  | error text => exact .cons (hmessage _ _ _ _ (.inl rfl)) .nil
  | heading title => exact .cons (hmessage _ _ _ _ (.inl rfl)) .nil
  | data doc => exact .cons (hkept _ _ _) .nil
  | surface symbols => exact .cons (hkept _ _ _) .nil
  | report r failuresOnly => exact .cons (hkept _ _ _) (.cons (hmessage _ _ _ _ (.inr rfl)) .nil)

/-! ### All settings -/

/-- The settings of the console change of a sequence of steps only what they are meant to. -/
structure Confined (steps : List Step) : Prop where
  /-- In a format for programs the output is what the steps publish. -/
  published (c : Console) : c.format ≠ .human →
    c.transcript steps = String.join (steps.map (Step.published c.format))
  /-- What is published of a document ends in a single line break. -/
  oneDocument (format : Format) (doc : Document) : EndsInOneBreak (oneBreak (format.render doc))
  /-- Neither color nor quiet nor the detail changes anything in a format for programs. -/
  machine (c c' : Console) : c.format ≠ .human → c.format = c'.format →
    c.transcript steps = c'.transcript steps
  /-- For human readers quiet leaves out the dispensable pieces and nothing else. -/
  quiet (c : Console) : c.format = .human →
    { c with quiet := false }.transcript steps = textOf (steps.flatMap c.pieces) ∧
      { c with quiet := true }.transcript steps =
        textOf ((steps.flatMap c.pieces).filter fun p => !p.dispensable)
  /-- Color changes the texts of messages and summaries only. -/
  color (c : Console) (color : Bool) :
    List.Forall₂ SameButColor (steps.flatMap c.pieces) (steps.flatMap { c with color }.pieces)
  /-- More detail changes no text. -/
  verbosity (c : Console) (verbosity : Nat) :
    { c with verbosity }.transcript steps = c.transcript steps

/-- The settings of the console change only what they are meant to, whatever is said. -/
theorem settings_confined (steps : List Step) : Confined steps where
  published c h := congrArg String.join (List.map_congr_left fun step _ => say_of_ne_human h step)
  oneDocument format doc := endsInOneBreak_oneBreak _
  machine c c' h hformat := by
    have h' : c'.format ≠ .human := hformat ▸ h
    have hsay : ∀ step, c.say step = c'.say step := fun step => by
      rw [say_of_ne_human h, say_of_ne_human h', hformat]
    exact congrArg String.join (List.map_congr_left fun step _ => hsay step)
  quiet c h := by
    refine ⟨transcript_eq_textOf (say_loud h) steps, ?_⟩
    rw [List.filter_flatMap]
    exact transcript_eq_textOf (say_hushed h) steps
  color c color := by
    induction steps with
    | nil => exact .nil
    | cons step rest ih => exact List.rel_append (sameButColor_pieces color step) ih
  verbosity c verbosity := by
    have hsay : ∀ step, { c with verbosity }.say step = c.say step := fun step => by
      cases step <;> rfl
    exact congrArg String.join (List.map_congr_left fun step _ => hsay step)

end BoundaryContract.Console
