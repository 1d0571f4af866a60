import BoundaryContract.Proofs.Call.Output
import BoundaryContract.Proofs.Json.Accepted

/-!
# Which literals are accepted

The literals of a call are read from left to right, each by the kind of its parameter. `Converts`
says what a single literal stands for and `Refuses` what is wrong with it if it stands for nothing;
`ConvertEach` and `Misread` say the same about all the literals of a call. What `Call.parseArgs`
gives is settled by these on both sides (`parseArgs_exact`), and what it accepts is a call that both
backends make.

For a string the rules overlap: a text that is no JSON stands for itself, so there a fault of the
reader is no error, while JSON of another kind is one.
-/

namespace BoundaryContract.Command.Call

open Json (Lexeme)

variable {p : Param} {literal : String} {v : Value} {e : Command.Error}

/-! ### What a literal stands for -/

/-- The literal stands for the value as an argument of the kind. -/
inductive Converts : Kind → String → Value → Prop
  /-- An integer of 32 bits stands there in decimal, with neither a fraction nor an exponent. -/
  | int32 {literal : String} {n : Int32} (h : Lexeme.Within (.number (.int n.toInt)) literal) :
    Converts .int32 literal (.int32 n)
  | bool {literal : String} {b : Bool} (h : Lexeme.Within (.bool b) literal) :
    Converts .bool literal (.bool b)
  /-- A JSON string stands for the text that it spells. -/
  | string {literal text : String} (h : Lexeme.Within (.string text) literal) :
    Converts .string literal (.string text)
  /-- A text that is no JSON stands for itself. -/
  | verbatim {literal : String} {e : Json.ReadError} (h : Json.read literal = .error e) :
    Converts .string literal (.string literal)

/-- What is wrong with a literal for a parameter. -/
inductive Refuses (p : Param) (literal : String) : Command.Error → Prop
  | noJson {e : Json.ReadError} (hkind : p.kind ≠ .string) (h : Json.read literal = .error e) :
    Refuses p literal
      (.invalidArgs ("argument '" ++ p.name ++ "' is not a JSON literal: " ++ e.message))
  | wrongKind {json : Json} (h : Json.read literal = .ok json)
    (hnone : ∀ v, ¬ Converts p.kind literal v) :
    Refuses p literal (.core (.typeMismatch p.kind json.closestKind))

/-- A kind of which there are literals. -/
def HasLiterals (kind : Kind) : Prop := kind = .int32 ∨ kind = .bool ∨ kind = .string

theorem hasLiterals_of_mem {f : Function} (hp : p ∈ f.signature.params) : HasLiterals p.kind := by
  unfold HasLiterals
  revert p
  cases f <;> decide

/-- A value of such a kind is a scalar. -/
theorem isScalar_of_kind (h : HasLiterals v.kind) : v.IsScalar := by
  obtain h | h | h := h
  · obtain ⟨n, rfl⟩ := Value.eq_int32_of_kind h
    trivial
  · obtain ⟨b, rfl⟩ := Value.eq_bool_of_kind h
    trivial
  · obtain ⟨s, rfl⟩ := Value.eq_string_of_kind h
    trivial

/-- JSON that is read by such a kind is the plain JSON of the value. -/
theorem eq_toJson_of_ofJson {kind : Kind} (hkind : HasLiterals kind) {json : Json}
    (h : Value.ofJson kind json = .ok v) : json = v.toJson := by
  have hne : kind ≠ .unit := by
    rintro rfl
    obtain hkind | hkind | hkind := hkind <;> cases hkind
  cases json with
  | null =>
    rw [Value.ofJson, if_neg hne] at h
    cases h
  | bool b | string s =>
    rw [Value.ofJson] at h
    split at h
    · cases h
      rfl
    · cases h
  | number n =>
    cases n with
    | int z =>
      rw [Value.ofJson] at h
      split at h
      · next hfits =>
        cases h
        rw [Value.toJson, Value.toInt_ofInt_of_fits hfits.2]
        rfl
      · cases h
    | float x => cases h
  | array items => cases h
  | object entries =>
    obtain rfl | rfl | rfl := hkind <;> cases h

/-- A literal that is JSON stands for the value of which it is the plain JSON. -/
theorem converts_iff_within {kind : Kind} (hkind : HasLiterals kind) {json : Json}
    (hread : Json.read literal = .ok json) :
    Converts kind literal v ↔ v.kind = kind ∧ json = v.toJson := by
  constructor
  · intro h
    cases h with
    | int32 h =>
      rw [h.read, Except.ok.injEq] at hread
      exact ⟨rfl, hread.symm⟩
    | bool h =>
      rw [h.read, Except.ok.injEq] at hread
      exact ⟨rfl, hread.symm⟩
    | string h =>
      rw [h.read, Except.ok.injEq] at hread
      exact ⟨rfl, hread.symm⟩
    | verbatim h =>
      rw [h] at hread
      cases hread
  · rintro ⟨hv, rfl⟩
    obtain rfl | rfl | rfl := hkind
    · obtain ⟨n, rfl⟩ := Value.eq_int32_of_kind hv
      exact .int32 ((Json.read_eq_plain (by trivial)).mp hread)
    · obtain ⟨b, rfl⟩ := Value.eq_bool_of_kind hv
      exact .bool ((Json.read_eq_plain (by trivial)).mp hread)
    · obtain ⟨s, rfl⟩ := Value.eq_string_of_kind hv
      exact .string ((Json.read_eq_plain (by trivial)).mp hread)

/-- JSON of another kind is reported with the kind that is closest to it. -/
theorem ofJson_eq_error {kind : Kind} (hkind : HasLiterals kind) {json : Json}
    (hnone : ∀ v, Value.ofJson kind json ≠ .ok v) :
    Value.ofJson kind json = .error (.typeMismatch kind json.closestKind) := by
  cases json with
  | null | bool b | string s =>
    rw [Value.ofJson] at hnone ⊢
    split
    · next h => exact absurd (if_pos h) (hnone _)
    · rfl
  | number n =>
    cases n with
    | int z =>
      rw [Value.ofJson] at hnone ⊢
      split
      · next h => exact absurd (if_pos h) (hnone _)
      · rfl
    | float x => rfl
  | array items => rfl
  | object entries => obtain rfl | rfl | rfl := hkind <;> rfl

/-- A literal that is JSON is read as plain JSON of the kind. -/
theorem parseArg_of_read {json : Json} (h : Json.read literal = .ok json) :
    parseArg p literal = (Value.ofJson p.kind json).mapError .core := by
  rw [parseArg, readLiteral, h]
  rfl

/-- A literal that is no JSON is a text, or is refused by the name of its parameter. -/
theorem parseArg_of_error {e : Json.ReadError} (h : Json.read literal = .error e) :
    parseArg p literal =
      if p.kind = .string then .ok (.string literal)
      else
        .error (.invalidArgs ("argument '" ++ p.name ++ "' is not a JSON literal: " ++
          e.message)) := by
  rw [parseArg, readLiteral, h]
  by_cases hkind : p.kind = .string
  · simp only [if_pos hkind]
    rw [hkind]
    rfl
  · simp only [if_neg hkind]
    rfl

/-- What JSON of a literal is read as is what the literal converts to. -/
theorem ofJson_eq_ok_iff {kind : Kind} (hkind : HasLiterals kind) {json : Json}
    (hread : Json.read literal = .ok json) :
    Value.ofJson kind json = .ok v ↔ Converts kind literal v := by
  rw [converts_iff_within hkind hread]
  constructor
  · intro h
    exact ⟨Value.kind_of_ofJson h, eq_toJson_of_ofJson hkind h⟩
  · rintro ⟨rfl, rfl⟩
    exact (isScalar_of_kind hkind).ofJson_toJson

/-- A literal is accepted as the value that it stands for. -/
theorem parseArg_eq_ok (hkind : HasLiterals p.kind) :
    parseArg p literal = .ok v ↔ Converts p.kind literal v := by
  cases hread : Json.read literal with
  | ok json =>
    rw [parseArg_of_read hread, ← ofJson_eq_ok_iff hkind hread]
    cases Value.ofJson p.kind json with
    | ok w =>
      show Except.ok w = Except.ok v ↔ _
      rw [Except.ok.injEq, Except.ok.injEq]
    | error e => exact ⟨nofun, nofun⟩
  -- what is no JSON is accepted as a text and for nothing else
  | error e =>
    rw [parseArg_of_error hread]
    constructor
    · intro h
      split at h
      · next hstring =>
        cases h
        rw [hstring]
        exact .verbatim hread
      · cases h
    · intro h
      generalize hk : p.kind = kind at h
      cases h with
      | verbatim => exact if_pos rfl
      | int32 h | bool h | string h =>
        rw [h.read] at hread
        cases hread

/-- A literal that stands for nothing is refused for what is wrong with it. -/
theorem parseArg_eq_error (hkind : HasLiterals p.kind) :
    parseArg p literal = .error e ↔ Refuses p literal e := by
  cases hread : Json.read literal with
  | ok json =>
    rw [parseArg_of_read hread]
    constructor
    · intro h
      have hnone : ∀ v, Value.ofJson p.kind json ≠ .ok v := by
        intro v hv
        rw [hv] at h
        cases h
      rw [ofJson_eq_error hkind hnone] at h
      cases h
      exact .wrongKind hread fun v hv => hnone v ((ofJson_eq_ok_iff hkind hread).mpr hv)
    · intro h
      cases h with
      | noJson hstring h =>
        rw [h] at hread
        cases hread
      | wrongKind h hnone =>
        rw [hread, Except.ok.injEq] at h
        subst h
        rw [ofJson_eq_error hkind fun v hv => hnone v ((ofJson_eq_ok_iff hkind hread).mp hv)]
        rfl
  | error fault =>
    rw [parseArg_of_error hread]
    constructor
    · intro h
      split at h
      · cases h
      · next hstring =>
        cases h
        exact .noJson hstring hread
    · intro h
      cases h with
      | noJson hstring h =>
        rw [hread, Except.error.injEq] at h
        subst h
        exact if_neg hstring
      | wrongKind h hnone =>
        rw [h] at hread
        cases hread

/-! ### All the literals of a call -/

/-- Each literal stands for the value in its place. -/
inductive ConvertEach : List Param → List String → List Value → Prop
  | nil : ConvertEach [] [] []
  | cons {p : Param} {ps : List Param} {l : String} {ls : List String} {v : Value}
    {vs : List Value} (h : Converts p.kind l v) (hrest : ConvertEach ps ls vs) :
    ConvertEach (p :: ps) (l :: ls) (v :: vs)

/-- What is wrong with the literals of a call: their number, or else the first of them that stands
for nothing. -/
inductive Misread (s : Signature) (literals : List String) : Command.Error → Prop
  | number (h : literals.length ≠ s.arity) :
    Misread s literals (.core (.arityMismatch s.name s.arity literals.length))
  | literal {ps qs : List Param} {p : Param} {ls ms : List String} {l : String} {vs : List Value}
    {e : Command.Error} (hlength : literals.length = s.arity) (hparams : s.params = ps ++ p :: qs)
    (hliterals : literals = ls ++ l :: ms) (hbefore : ConvertEach ps ls vs) (h : Refuses p l e) :
    Misread s literals e

variable {params : List Param} {literals : List String} {vs : List Value}

/-- Literals convert one by one. -/
theorem ConvertEach.length_eq (h : ConvertEach params literals vs) :
    literals.length = params.length := by
  induction h with
  | nil => rfl
  | cons _ _ ih => rw [List.length_cons, List.length_cons, ih]

/-- The reader of the arguments gives what the literals convert to. -/
theorem parseEach_eq_ok (hparams : ∀ p ∈ params, HasLiterals p.kind)
    (hlength : literals.length = params.length) :
    parseEach params literals = .ok vs ↔ ConvertEach params literals vs := by
  induction params generalizing literals vs with
  | nil =>
    obtain rfl := List.length_eq_zero_iff.mp hlength
    constructor
    · intro h
      cases h
      exact .nil
    · intro h
      cases h
      rfl
  | cons p params ih =>
    obtain ⟨hp, hparams⟩ := List.forall_mem_cons.mp hparams
    obtain ⟨literal, literals, rfl⟩ := List.exists_cons_of_length_eq_add_one hlength
    have hrest := @ih literals
    rw [parseEach]
    constructor
    · intro h
      cases hfirst : parseArg p literal with
      | error e => rw [hfirst] at h; cases h
      | ok v =>
        cases hothers : parseEach params literals with
        | error e => rw [hfirst, hothers] at h; cases h
        | ok ws =>
          rw [hfirst, hothers] at h
          cases h
          exact .cons ((parseArg_eq_ok hp).mp hfirst)
            ((hrest hparams (Nat.succ.inj hlength)).mp hothers)
    · intro h
      cases h with
      | cons hfirst hothers =>
        rw [(parseArg_eq_ok hp).mpr hfirst, (hrest hparams (Nat.succ.inj hlength)).mpr hothers]
        rfl

/-- The literals before the first that is refused are all accepted. -/
theorem parseEach_eq_error (hparams : ∀ p ∈ params, HasLiterals p.kind)
    (hlength : literals.length = params.length) :
    parseEach params literals = .error e ↔
      ∃ ps p qs ls l ms vs, params = ps ++ p :: qs ∧ literals = ls ++ l :: ms ∧
        ConvertEach ps ls vs ∧ Refuses p l e := by
  induction params generalizing literals with
  | nil =>
    constructor
    · intro h
      cases h
    · rintro ⟨ps, p, qs, ls, l, ms, vs, hparams, -⟩
      cases ps <;> cases hparams
  | cons p params ih =>
    obtain ⟨hp, hparams⟩ := List.forall_mem_cons.mp hparams
    obtain ⟨literal, literals, rfl⟩ := List.exists_cons_of_length_eq_add_one hlength
    have hrest := @ih literals hparams (Nat.succ.inj hlength)
    rw [parseEach]
    constructor
    · intro h
      -- the first literal decides, unless it is accepted
      cases hfirst : parseArg p literal with
      | error e' =>
        rw [hfirst] at h
        cases h
        exact ⟨[], p, params, [], literal, literals, [], rfl, rfl, .nil,
          (parseArg_eq_error hp).mp hfirst⟩
      | ok v =>
        cases hothers : parseEach params literals with
        | ok ws => rw [hfirst, hothers] at h; cases h
        | error e' =>
          rw [hfirst, hothers] at h
          cases h
          obtain ⟨ps, q, qs, ls, l, ms, vs, rfl, rfl, hbefore, hrefused⟩ := hrest.mp hothers
          exact ⟨p :: ps, q, qs, literal :: ls, l, ms, v :: vs, rfl, rfl,
            .cons ((parseArg_eq_ok hp).mp hfirst) hbefore, hrefused⟩
    · rintro ⟨ps, q, qs, ls, l, ms, vs, hsplit, hliterals, hbefore, hrefused⟩
      cases hbefore with
      | nil =>
        cases hsplit
        cases hliterals
        rw [(parseArg_eq_error hp).mpr hrefused]
        rfl
      | cons hfirst hbefore =>
        cases hsplit
        cases hliterals
        have hothers := hrest.mpr ⟨_, q, qs, _, l, ms, _, rfl, rfl, hbefore, hrefused⟩
        rw [(parseArg_eq_ok hp).mpr hfirst, hothers]
        rfl

/-- The arguments of a call are exactly what its literals stand for, and the function takes them on
both backends. If they stand for nothing, then their number is reported or the first literal that is
at fault. -/
theorem parseArgs_exact (f : Function) (literals : List String) :
    (∀ vs, parseArgs f.signature literals = .ok vs ↔
      ConvertEach f.signature.params literals vs) ∧
    (∀ e, parseArgs f.signature literals = .error e ↔ Misread f.signature literals e) ∧
    ∀ vs, parseArgs f.signature literals = .ok vs →
      f.signature.checkArgs vs = .ok () ∧
        ∃ v, ∀ b : Backend, b.invoke f.signature.name vs = .ok v := by
  have hparams : ∀ p ∈ f.signature.params, HasLiterals p.kind := fun p hp => hasLiterals_of_mem hp
  -- the number of literals is judged first, before any of them is read
  refine ⟨?accepts, ?refuses, ?calls⟩
  case accepts =>
    intro vs
    rw [parseArgs]
    split
    · next hlength => exact parseEach_eq_ok hparams hlength
    · next hlength =>
      constructor
      · intro h
        cases h
      · intro h
        exact absurd h.length_eq hlength
  case refuses =>
    intro e
    rw [parseArgs]
    split
    · next hlength =>
      rw [parseEach_eq_error hparams hlength]
      constructor
      · rintro ⟨ps, p, qs, ls, l, ms, vs, hsplit, hliterals, hbefore, hrefused⟩
        exact .literal hlength hsplit hliterals hbefore hrefused
      · intro h
        cases h with
        | number hne => exact absurd hlength hne
        | literal _ hsplit hliterals hbefore hrefused =>
          exact ⟨_, _, _, _, _, _, _, hsplit, hliterals, hbefore, hrefused⟩
    · next hlength =>
      constructor
      · intro h
        cases h
        exact .number hlength
      · intro h
        cases h with
        | number => rfl
        | literal heq => exact absurd heq hlength
  case calls =>
    intro vs h
    have hchecked := checkArgs_of_parseArgs h
    obtain ⟨⟨v, es⟩, hresult⟩ := Option.isSome_iff_exists.mp (Function.result?_isSome hchecked)
    exact ⟨hchecked, v, fun b => Backend.invoke_eq hchecked hresult b⟩

/-- Half of a surrogate pair is no JSON, but a text. -/
example : parseArgs Function.stringArg.signature ["\"\\ud800\""] = .ok [.string "\"\\ud800\""] := by
  decide +kernel

/-- A zero with a sign is JSON, and no integer. -/
example : parseArgs Function.stringArg.signature ["-0"] =
    .error (.core (.typeMismatch .string .int32)) := by
  decide +kernel

end BoundaryContract.Command.Call
