import BoundaryContract.Command.Call
import BoundaryContract.Proofs.Dispatch
import BoundaryContract.Proofs.Marshal

/-!
# Arguments as literals

The functions of the surface take and give scalars only, and the plain JSON of a scalar, printed, is
a literal that is read back as the scalar. So whatever arguments a function accepts, their printed
forms are literals for them (`parseArgs_rendered`), and whatever literals are accepted stand for
arguments that the function accepts (`checkArgs_of_parseArgs`).
-/

namespace BoundaryContract

/-! ### Scalars -/

/-- The value is no struct. -/
def Value.IsScalar : Value → Prop
  | .struct _ _ => False
  | .unit | .int32 _ | .bool _ | .string _ => True

namespace Value.IsScalar

variable {v : Value}

/-- A scalar is printed and read back. -/
theorem printable (h : v.IsScalar) : v.toJson.Printable := by
  cases v with
  | unit => exact LawfulMarshal.printable ()
  | int32 n => exact LawfulMarshal.printable n
  | bool b => exact LawfulMarshal.printable b
  | string s => exact LawfulMarshal.printable s
  | struct name fields => exact h.elim

theorem depth_eq_zero (h : v.IsScalar) : v.toJson.depth = 0 := by
  cases v with
  | struct name fields => exact h.elim
  | _ => rfl

/-- A scalar is read back from its plain JSON by its kind. -/
theorem ofJson_toJson (h : v.IsScalar) : ofJson v.kind v.toJson = .ok v := by
  cases v with
  | unit => exact LawfulMarshal.ofJson_toJson ()
  | int32 n => exact LawfulMarshal.ofJson_toJson n
  | bool b => exact LawfulMarshal.ofJson_toJson b
  | string s => exact LawfulMarshal.ofJson_toJson s
  | struct name fields => exact h.elim

end Value.IsScalar

/-- Free functions take scalars only. -/
theorem FreeCall.isScalar_args (c : FreeCall) : ∀ v ∈ c.args, v.IsScalar := by
  intro v hv
  cases c <;> simp only [args, List.mem_cons, List.not_mem_nil, or_false] at hv
  case primitiveArgs => obtain rfl | rfl := hv <;> trivial
  case stringArg => obtain rfl := hv; trivial
  case primitiveAndStringArg => obtain rfl | rfl | rfl := hv <;> trivial
  case combo => obtain rfl | rfl | rfl := hv <;> trivial

/-- A function of the surface takes scalars. -/
theorem Signature.isScalar_of_checkArgs {f : Function} {args : List Value}
    (h : f.signature.checkArgs args = .ok ()) : ∀ v ∈ args, v.IsScalar := by
  obtain ⟨c, rfl, rfl⟩ := FreeCall.exists_of_checkArgs h
  exact c.isScalar_args

namespace Command.Call

/-! ### Literals that were printed -/

/-- The literal is the plain JSON of the value, printed compactly or over several lines. -/
def Renders (v : Value) (literal : String) : Prop :=
  literal = v.toJson.compact ∨ literal = v.toJson.pretty

variable {p : Param} {v : Value} {literal : String}

/-- An argument is read back from its printed form. -/
theorem parseArg_of_renders (hv : v.IsScalar) (hkind : v.kind = p.kind)
    (h : Renders v literal) : parseArg p literal = .ok v := by
  have hread : Json.read literal = .ok v.toJson := by
    obtain rfl | rfl := h
    · exact hv.printable.read_compact
    · exact hv.printable.read_pretty
  have hliteral : readLiteral p literal = .ok v.toJson := by rw [readLiteral, hread]
  have hvalue : Value.ofJson p.kind v.toJson = .ok v := hkind ▸ hv.ofJson_toJson
  rw [parseArg, hliteral]
  show (Value.ofJson p.kind v.toJson).mapError Command.Error.core = .ok v
  rw [hvalue]
  rfl

/-- Arguments are read back one by one, each as the kind of its parameter. -/
theorem parseEach_of_renders {params : List Param} {args : List Value} {literals : List String}
    (hscalar : ∀ v ∈ args, v.IsScalar) (hkinds : args.map Value.kind = params.map Param.kind)
    (h : List.Forall₂ Renders args literals) : parseEach params literals = .ok args := by
  induction h generalizing params with
  | nil =>
    obtain rfl := List.map_eq_nil_iff.mp hkinds.symm
    rfl
  | cons hrenders hrest ih =>
    obtain ⟨p, params, rfl, hkind, hkinds⟩ := List.map_eq_cons_iff.mp hkinds.symm
    obtain ⟨hv, hscalar⟩ := List.forall_mem_cons.mp hscalar
    rw [parseEach, parseArg_of_renders hv hkind.symm hrenders, ih hscalar hkinds.symm]
    rfl

/-- Arguments that a function accepts are read back from their printed forms. -/
theorem parseArgs_rendered {f : Function} {args : List Value} {literals : List String}
    (hargs : f.signature.checkArgs args = .ok ()) (h : List.Forall₂ Renders args literals) :
    parseArgs f.signature literals = .ok args := by
  have hkinds := Signature.checkArgs_eq_ok.mp hargs
  have hlength : literals.length = f.signature.arity := by
    have hparams := congrArg List.length hkinds
    rw [List.length_map, List.length_map] at hparams
    rw [← h.length_eq, hparams, Signature.arity]
  rw [parseArgs, if_pos hlength]
  exact parseEach_of_renders (Signature.isScalar_of_checkArgs hargs) hkinds h

/-! ### Literals that are accepted -/

/-- The argument that a literal stands for is of the kind of its parameter. -/
theorem kind_of_parseArg (h : parseArg p literal = .ok v) : v.kind = p.kind := by
  rw [parseArg] at h
  cases hliteral : readLiteral p literal with
  | error e => rw [hliteral] at h; cases h
  | ok json =>
    rw [hliteral] at h
    replace h : (Value.ofJson p.kind json).mapError Command.Error.core = .ok v := h
    cases hvalue : Value.ofJson p.kind json with
    | error e => rw [hvalue] at h; cases h
    | ok w =>
      rw [hvalue] at h
      cases h
      exact Value.kind_of_ofJson hvalue

/-- Arguments that were accepted are of the kinds of the parameters. -/
theorem kinds_of_parseEach {params : List Param} {literals : List String} {args : List Value}
    (hlength : literals.length = params.length) (h : parseEach params literals = .ok args) :
    args.map Value.kind = params.map Param.kind := by
  induction params generalizing literals args with
  | nil =>
    obtain rfl := List.length_eq_zero_iff.mp hlength
    cases h
    rfl
  | cons p params ih =>
    obtain ⟨literal, literals, rfl⟩ := List.exists_cons_of_length_eq_add_one hlength
    rw [parseEach] at h
    cases hfirst : parseArg p literal with
    | error e => rw [hfirst] at h; cases h
    | ok v =>
      cases hrest : parseEach params literals with
      | error e => rw [hfirst, hrest] at h; cases h
      | ok vs =>
        rw [hfirst, hrest] at h
        cases h
        rw [List.map_cons, List.map_cons, kind_of_parseArg hfirst,
          ih (Nat.succ.inj hlength) hrest]

/-- Literals that are accepted stand for arguments that the function accepts. -/
theorem checkArgs_of_parseArgs {s : Signature} {literals : List String} {args : List Value}
    (h : parseArgs s literals = .ok args) : s.checkArgs args = .ok () := by
  rw [parseArgs] at h
  split at h
  · next hlength => exact Signature.checkArgs_eq_ok.mpr (kinds_of_parseEach hlength h)
  · cases h

end Command.Call

end BoundaryContract
