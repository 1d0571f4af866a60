import BoundaryContract.Abi.Program

/-!
# Parameters of exported calls

What the arguments of an exported call have to be, as data: `Call.parameters` lists the parameters
that are checked, in the order of their declaration, each with its argument. Two things are read off
this list. `Call.Admissible` is what callers promise, that every handle they pass is null or a live
handle of the right kind, and `Call.failure?` is what a call reports about arguments that keep this
promise and are bad all the same: it is the defect of the first bad one.
-/

namespace BoundaryContract.Abi

/-- The kind of an object. -/
def Object.kind : Object → PointerKind
  | .outer _ => .outer
  | .inner _ => .inner
  | .string _ => .string

/-- What a call does with the object of a handle argument. -/
inductive Access
  | reads
  | writes
  | frees
deriving DecidableEq

/-- An argument that is checked: a handle of some kind or a view of bytes. -/
inductive Argument
  | handle (kind : PointerKind) (access : Access) (p : Pointer)
  | slice (view : Slice)

/-- A parameter with its argument. -/
structure Parameter where
  name : String
  argument : Argument

/-- What is wrong with a view: it is not empty, and it has no bytes or they are not UTF-8. -/
def Slice.defect? (name : String) (view : Slice) : Option Failure :=
  if view.length = 0 then none
  else
    match view with
    | .null _ => some (.null name)
    | .bytes content => if content.IsValidUTF8 then none else some (.invalidUtf8 name)

/-- What is wrong with an argument: a handle is null, or a view is bad. -/
def Parameter.defect? (p : Parameter) : Option Failure :=
  match p.argument with
  | .handle _ _ none => some (.null p.name)
  | .handle _ _ (some _) => none
  | .slice view => view.defect? p.name

/-- The handle of an argument is null or a live handle of its kind. -/
def Argument.LiveIn (objects : Table Object) : Argument → Prop
  | .handle kind _ (some h) => (objects.get? h).map Object.kind = some kind
  | .handle _ _ none => True
  | .slice _ => True

instance (objects : Table Object) : DecidablePred (Argument.LiveIn objects)
  | .handle _ _ (some _) => inferInstanceAs (Decidable (_ = _))
  | .handle _ _ none => .isTrue trivial
  | .slice _ => .isTrue trivial

namespace Call

variable {ρ : Type}

/-- The parameters of a call that are checked, in the order of their declaration. -/
def parameters : Call Pointer → List Parameter
  | outerClone this | outerInt32 this | outerBool this | outerString this | outerInner this =>
    [⟨"this", .handle .outer .reads this⟩]
  | outerFree this => [⟨"this", .handle .outer .frees this⟩]
  | setOuterInt32 this _ => [⟨"this", .handle .outer .writes this⟩]
  | setOuterString this value => [⟨"this", .handle .outer .writes this⟩, ⟨"value", .slice value⟩]
  | setOuterInner this value =>
    [⟨"this", .handle .outer .writes this⟩, ⟨"value", .handle .inner .reads value⟩]
  | innerClone this | innerInt32 this => [⟨"this", .handle .inner .reads this⟩]
  | innerFree this => [⟨"this", .handle .inner .frees this⟩]
  | setInnerInt32 this _ => [⟨"this", .handle .inner .writes this⟩]
  | stringData string | stringLength string => [⟨"string", .handle .string .reads string⟩]
  | stringFree string => [⟨"string", .handle .string .frees string⟩]
  | stringArg s | primitiveAndStringArg _ _ s => [⟨"s", .slice s⟩]
  | combo str1 str2 _ => [⟨"str1", .slice str1⟩, ⟨"str2", .slice str2⟩]
  | outerDefault | innerDefault | simple | primitiveArgs _ _ | returnPrimitive | returnString
  | clearError | lastErrorCode | lastErrorMessage | liveHandles | version => []

/-- Whether a call belongs to the surface. The others only inspect the library or clear a slot. -/
def isSurface : Call ρ → Bool
  | clearError | lastErrorCode | lastErrorMessage | liveHandles | version => false
  | _ => true

/-- Whether a call inspects the last error of its thread. -/
def inspectsError : Call ρ → Bool
  | lastErrorCode | lastErrorMessage => true
  | _ => false

/-- Whether a call frees a handle. -/
def isFree : Call ρ → Bool
  | outerFree _ | innerFree _ | stringFree _ => true
  | _ => false

/-- The caller keeps its promise: every handle argument is null or a live handle of the right
kind. -/
def Admissible (objects : Table Object) (c : Call Pointer) : Prop :=
  ∀ p ∈ c.parameters, p.argument.LiveIn objects

instance (objects : Table Object) : DecidablePred (Admissible objects) :=
  fun c => inferInstanceAs (Decidable (∀ p ∈ c.parameters, p.argument.LiveIn objects))

/-- Why a call with admissible arguments fails: it is not one that frees, and this is wrong with its
first bad argument. -/
def failure? (c : Call Pointer) : Option Failure :=
  if c.isFree then none else c.parameters.findSome? Parameter.defect?

end Call

/-! ### Failures -/

/-- A bad argument is a null pointer or is not UTF-8; nothing else is wrong with it. -/
theorem Parameter.code_of_defect? {p : Parameter} {f : Failure} (hf : p.defect? = some f) :
    f.code = .nullPointer ∨ f.code = .utf8Error := by
  obtain ⟨name, ⟨kind, access, _ | h⟩ | view⟩ := p
  · cases hf
    exact .inl rfl
  · cases hf
  · change view.defect? name = some f at hf
    rw [Slice.defect?.eq_def] at hf
    repeat' split at hf
    all_goals cases hf
    · exact .inl rfl
    · exact .inr rfl

/-- No call fails with an internal error on its arguments alone. -/
theorem Call.failure?_code {c : Call Pointer} {f : Failure}
    (hf : c.failure? = some f) : f.code ≠ .internalError := by
  rw [failure?] at hf
  split at hf
  · cases hf
  · obtain ⟨p, -, hp⟩ := List.exists_of_findSome?_eq_some hf
    obtain hcode | hcode := Parameter.code_of_defect? hp <;> simp [hcode]

/-- A call fails if and only if it frees nothing and one of its arguments is bad. -/
theorem Call.failure?_isSome (c : Call Pointer) :
    c.failure?.isSome ↔ c.isFree = false ∧ ∃ p ∈ c.parameters, p.defect? ≠ none := by
  rw [failure?]
  cases c.isFree <;> simp [List.findSome?_isSome_iff, Option.ne_none_iff_isSome]

/-! ### Views -/

/-- The text of a view; a bad view has the empty one. -/
def Slice.text (view : Slice) : String :=
  match view with
  | .bytes content => (String.fromUTF8? content).getD ""
  | .null _ => ""

/-- The text of a view can be taken exactly when nothing is wrong with the view. -/
theorem Slice.toText_eq (name : String) (view : Slice) :
    view.toText name =
      match view.defect? name with
      | some f => .error f
      | none => .ok view.text := by
  cases view with
  | bytes content =>
    by_cases hsize : content.size = 0
    · have hempty : content = "".toUTF8 := ByteArray.size_eq_zero_iff.mp hsize
      have htext : String.fromUTF8? content = some "" := hempty ▸ Text.fromUTF8?_toUTF8 ""
      simp [toText, defect?, length, text, hsize, htext]
    · by_cases hvalid : content.IsValidUTF8
      · simp [toText, defect?, length, text, hsize, hvalid, String.fromUTF8?]
      · simp [toText, defect?, length, hsize, hvalid, String.fromUTF8?]
  | null length =>
    by_cases hlength : length = 0 <;> simp [toText, defect?, Slice.length, text, hlength]

end BoundaryContract.Abi
