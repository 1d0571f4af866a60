import BoundaryContract.Proofs.Invoke

/-!
# Dispatch of calls by name

Two descriptions of the surface have to agree for a call by name: the table of functions, against
whose signatures the arguments are checked, and the methods of a boundary, one of which is called.
`Refused` reads off the table alone what is wrong with a call. `FreeCall` is a call that nothing is
wrong with, of one function with arguments of its own types.

A call by name ends in one of these two ways (`Boundary.invoke_follows_table`). That a single method
is called, and none at all if the call is refused, is seen on `Boundary.recorded`, which serves like
the boundary it is made from and writes down every method that is called on it.
-/

namespace BoundaryContract

/-! ### What is wrong with a call -/

/-- What is wrong with a call by name, read off the table of functions. -/
inductive Refused (name : String) (args : List Value) : Error → Prop
  /-- No function of the table has this name. -/
  | unknown (h : ∀ f ∈ Function.all, f.signature.name ≠ name) :
    Refused name args (.unknownFunction name)
  /-- The function of this name takes another number of arguments. -/
  | arity (f : Function) (hname : f.signature.name = name)
    (h : args.length ≠ f.signature.arity) :
    Refused name args (.arityMismatch name f.signature.arity args.length)
  /-- As many arguments are given as there are parameters, and `a` is the leftmost one that is not
  of the kind of its parameter `p`. -/
  | kind (f : Function) (hname : f.signature.name = name)
    (hlength : args.length = f.signature.arity) {ps qs : List Param} {p : Param}
    {as bs : List Value} {a : Value} (hparams : f.signature.params = ps ++ p :: qs)
    (hargs : args = as ++ a :: bs) (hbefore : as.map Value.kind = ps.map Param.kind)
    (h : a.kind ≠ p.kind) :
    Refused name args (.typeMismatch p.kind a.kind)

namespace Function

theorem ofName?_name (f : Function) : ofName? f.signature.name = some f := by
  cases f <;> decide

theorem ofName?_eq_none {name : String} :
    ofName? name = none ↔ ∀ f ∈ all, f.signature.name ≠ name := by
  simp [ofName?, List.find?_eq_none]

theorem name_of_ofName? {name : String} {f : Function} (h : ofName? name = some f) :
    f.signature.name = name := by
  simpa using List.find?_some h

end Function

namespace Signature

/-- The check of kinds reports the leftmost argument that is not of the kind of its parameter. -/
theorem checkKinds_of_mismatch {ps qs : List Param} {p : Param} {as bs : List Value} {a : Value}
    (hbefore : as.map Value.kind = ps.map Param.kind) (h : a.kind ≠ p.kind) :
    checkKinds (ps ++ p :: qs) (as ++ a :: bs) = .error (.typeMismatch p.kind a.kind) := by
  induction ps generalizing as with
  | nil =>
    obtain rfl := List.map_eq_nil_iff.mp hbefore
    rw [List.nil_append, List.nil_append, checkKinds, if_neg h]
    rfl
  | cons q ps ih =>
    obtain ⟨b, as, rfl, hkind, hbefore⟩ := List.map_eq_cons_iff.mp hbefore
    rw [List.cons_append, List.cons_append, checkKinds, if_pos hkind]
    exact ih hbefore

/-- Among as many arguments as parameters, either all kinds are the declared ones or there is a
leftmost argument of another kind. -/
theorem exists_mismatch {params : List Param} {args : List Value}
    (hlength : args.length = params.length)
    (hkinds : args.map Value.kind ≠ params.map Param.kind) :
    ∃ ps p qs as a bs, params = ps ++ p :: qs ∧ args = as ++ a :: bs ∧
      as.map Value.kind = ps.map Param.kind ∧ a.kind ≠ p.kind := by
  induction params generalizing args with
  | nil =>
    obtain rfl := List.length_eq_zero_iff.mp hlength
    exact absurd rfl hkinds
  | cons p params ih =>
    obtain ⟨a, args, rfl⟩ := List.exists_cons_of_length_eq_add_one hlength
    by_cases hkind : a.kind = p.kind
    · -- the first argument is not to blame, so a later one is
      have hrest : args.map Value.kind ≠ params.map Param.kind := by
        intro hrest
        rw [List.map_cons, List.map_cons, hkind, hrest] at hkinds
        exact hkinds rfl
      obtain ⟨ps, q, qs, as, b, bs, rfl, rfl, hbefore, h⟩ := ih (Nat.succ.inj hlength) hrest
      refine ⟨p :: ps, q, qs, a :: as, b, bs, rfl, rfl, ?_, h⟩
      rw [List.map_cons, List.map_cons, hkind, hbefore]
    · exact ⟨[], p, params, [], a, args, rfl, rfl, rfl, hkind⟩

end Signature

/-! ### Calls that nothing is wrong with -/

/-- A call of a free function with arguments of its own types. -/
inductive FreeCall
  | simple
  | primitiveArgs (i : Int32) (b : Bool)
  | stringArg (s : String)
  | primitiveAndStringArg (i : Int32) (b : Bool) (s : String)
  | returnPrimitive
  | returnString
  | combo (str1 str2 : String) (b : Bool)

namespace FreeCall

/-- The function that is called. -/
def function : FreeCall → Function
  | simple => .simple
  | primitiveArgs _ _ => .primitiveArgs
  | stringArg _ => .stringArg
  | primitiveAndStringArg _ _ _ => .primitiveAndStringArg
  | returnPrimitive => .returnPrimitive
  | returnString => .returnString
  | combo _ _ _ => .combo

/-- The arguments as values, in order. -/
def args : FreeCall → List Value
  | simple | returnPrimitive | returnString => []
  | primitiveArgs i b => [.int32 i, .bool b]
  | stringArg s => [.string s]
  | primitiveAndStringArg i b s => [.int32 i, .bool b, .string s]
  | combo str1 str2 b => [.string str1, .string str2, .bool b]

/-- The call is the one that a name and a list of values stand for. -/
structure Named (c : FreeCall) (name : String) (args : List Value) : Prop where
  name : c.function.signature.name = name
  args : c.args = args

variable {σ ω ι : Type}

/-- Makes the call on a boundary; a function without result gives the unit value. -/
def perform (B : Boundary σ ω ι) : FreeCall → Action σ Value
  | simple => (fun _ => .unit) <$> B.simple
  | primitiveArgs i b => (fun _ => .unit) <$> B.primitiveArgs i b
  | stringArg s => (fun _ => .unit) <$> B.stringArg s
  | primitiveAndStringArg i b s => (fun _ => .unit) <$> B.primitiveAndStringArg i b s
  | returnPrimitive => .int32 <$> B.returnPrimitive
  | returnString => .string <$> B.returnString
  | combo str1 str2 b => .string <$> B.combo str1 str2 b

/-- A call gives a value of the kind that its function returns. -/
theorem kind_perform (c : FreeCall) (B : Boundary σ ω ι) (s : σ) :
    ((c.perform B).run s).value.kind = c.function.signature.returns := by
  cases c <;> rfl

theorem checkArgs_args (c : FreeCall) : c.function.signature.checkArgs c.args = .ok () := by
  cases c <;> rfl

theorem dispatch?_args (c : FreeCall) (B : Boundary σ ω ι) :
    B.dispatch? c.function c.args = some (c.perform B) := by
  cases c <;> rfl

/-- Arguments that pass the check are those of a call. -/
theorem exists_of_checkArgs {f : Function} {args : List Value}
    (h : f.signature.checkArgs args = .ok ()) :
    ∃ c : FreeCall, c.function = f ∧ c.args = args := by
  -- the calls are the cases in which there is a result of the reference functions
  have hresult := Function.result?_isSome h
  revert hresult
  fun_cases Function.result? f args
  case case1 => exact fun _ => ⟨.simple, rfl, rfl⟩
  case case3 i b => exact fun _ => ⟨.primitiveArgs i b, rfl, rfl⟩
  case case5 s => exact fun _ => ⟨.stringArg s, rfl, rfl⟩
  case case7 i b s => exact fun _ => ⟨.primitiveAndStringArg i b s, rfl, rfl⟩
  case case9 => exact fun _ => ⟨.returnPrimitive, rfl, rfl⟩
  case case11 => exact fun _ => ⟨.returnString, rfl, rfl⟩
  case case13 str1 str2 b => exact fun _ => ⟨.combo str1 str2 b, rfl, rfl⟩
  all_goals intro hresult; cases hresult

end FreeCall

/-- Either something is wrong with a call by name, or it stands for a call of a free function. -/
theorem refused_or_named (name : String) (args : List Value) :
    (∃ e, Refused name args e) ∨ ∃ c : FreeCall, c.Named name args := by
  cases hf : Function.ofName? name with
  | none => exact .inl ⟨_, .unknown (Function.ofName?_eq_none.mp hf)⟩
  | some f =>
    have hname := Function.name_of_ofName? hf
    by_cases hlength : args.length = f.signature.arity
    · by_cases hkinds : args.map Value.kind = f.signature.params.map Param.kind
      · obtain ⟨c, rfl, rfl⟩ :=
          FreeCall.exists_of_checkArgs (Signature.checkArgs_eq_ok.mpr hkinds)
        exact .inr ⟨c, hname, rfl⟩
      · obtain ⟨ps, p, qs, as, a, bs, hparams, hargs, hbefore, h⟩ :=
          Signature.exists_mismatch hlength hkinds
        exact .inl ⟨_, .kind f hname hlength hparams hargs hbefore h⟩
    · exact .inl ⟨_, .arity f hname hlength⟩

/-! ### Calls on a boundary -/

section

variable {σ ω ι : Type} {name : String} {args : List Value}

/-- A call that is refused does nothing but report why. -/
theorem Refused.invoke {e : Error} (h : Refused name args e) (B : Boundary σ ω ι) :
    B.invoke name args = pure (.error e) := by
  rw [Boundary.invoke]
  cases h with
  | unknown h => rw [Function.ofName?_eq_none.mpr h]
  | arity f hname h =>
    rw [← hname, Function.ofName?_name]
    simp only [Signature.checkArgs, if_neg h]
  | kind f hname hlength hparams hargs hbefore h =>
    subst hargs
    rw [← hname, Function.ofName?_name]
    simp only [Signature.checkArgs, if_pos hlength, hparams,
      Signature.checkKinds_of_mismatch hbefore h]

/-- A call that stands for one of a free function is announced and made. -/
theorem FreeCall.Named.invoke {c : FreeCall} (h : c.Named name args) (B : Boundary σ ω ι) :
    B.invoke name args = (do
      Action.emit (B.invoking name)
      .ok <$> c.perform B) := by
  obtain ⟨rfl, rfl⟩ := h
  simp only [Boundary.invoke, Function.ofName?_name, c.checkArgs_args, c.dispatch?_args]

end

/-! ### A record of the methods called -/

/-- A call of one of the methods of a boundary. -/
inductive MethodCall (ω ι : Type)
  | newOuter
  | newInner
  | dropOuter (a : ω)
  | dropInner (b : ι)
  | outerInt32 (a : ω)
  | setOuterInt32 (a : ω) (n : Int32)
  | outerBool (a : ω)
  | outerString (a : ω)
  | setOuterString (a : ω) (s : String)
  | outerInner (a : ω)
  | setOuterInner (a : ω) (b : ι)
  | innerInt32 (b : ι)
  | setInnerInt32 (b : ι) (n : Int32)
  | free (c : FreeCall)

/-- The action, with a record of it added to those of earlier ones. -/
def Action.recorded {σ α μ : Type} (m : μ) (a : Action σ α) : Action (σ × List μ) α := fun s =>
  let o := a.run s.1
  ⟨o.value, (o.state, s.2 ++ [m]), o.events⟩

variable {σ ω ι : Type}

/-- The boundary with a record of the methods called on it. -/
def Boundary.recorded (B : Boundary σ ω ι) : Boundary (σ × List (MethodCall ω ι)) ω ι where
  name := B.name
  newOuter := B.newOuter.recorded .newOuter
  newInner := B.newInner.recorded .newInner
  dropOuter a := (B.dropOuter a).recorded (.dropOuter a)
  dropInner b := (B.dropInner b).recorded (.dropInner b)
  outerInt32 a := (B.outerInt32 a).recorded (.outerInt32 a)
  setOuterInt32 a n := (B.setOuterInt32 a n).recorded (.setOuterInt32 a n)
  outerBool a := (B.outerBool a).recorded (.outerBool a)
  outerString a := (B.outerString a).recorded (.outerString a)
  setOuterString a s := (B.setOuterString a s).recorded (.setOuterString a s)
  outerInner a := (B.outerInner a).recorded (.outerInner a)
  setOuterInner a b := (B.setOuterInner a b).recorded (.setOuterInner a b)
  innerInt32 b := (B.innerInt32 b).recorded (.innerInt32 b)
  setInnerInt32 b n := (B.setInnerInt32 b n).recorded (.setInnerInt32 b n)
  simple := B.simple.recorded (.free .simple)
  primitiveArgs i b := (B.primitiveArgs i b).recorded (.free (.primitiveArgs i b))
  stringArg s := (B.stringArg s).recorded (.free (.stringArg s))
  primitiveAndStringArg i b s :=
    (B.primitiveAndStringArg i b s).recorded (.free (.primitiveAndStringArg i b s))
  returnPrimitive := B.returnPrimitive.recorded (.free .returnPrimitive)
  returnString := B.returnString.recorded (.free .returnString)
  combo str1 str2 b := (B.combo str1 str2 b).recorded (.free (.combo str1 str2 b))

/-- Changing the value of an action keeps what is recorded. -/
theorem Action.recorded_map {α β μ : Type} (m : μ) (f : α → β) (a : Action σ α) :
    (f <$> a).recorded m = f <$> a.recorded m := by
  funext s
  show (f <$> a).recorded m s = (f <$> a.recorded m).run s
  rw [run_map, recorded, run_map]
  rfl

/-- A call of a free function calls one method, the one of its function, with its arguments. -/
theorem FreeCall.perform_recorded (c : FreeCall) (B : Boundary σ ω ι) :
    c.perform B.recorded = (c.perform B).recorded (.free c) := by
  cases c <;> exact (Action.recorded_map _ _ _).symm

/-! ### The table and the methods agree -/

/-- Dispatch by name follows the table. A call is refused with exactly the error that the table
gives reason for, and then it does nothing: no method is called and no event is left. Every other
call stands for a call of one free function with the given arguments; this is announced, its method
is called once and no other, and what the method gives, of the kind that the function returns, is
the result. Arguments that pass the check always have a call. -/
theorem Boundary.invoke_follows_table (B : Boundary σ ω ι) (name : String) (args : List Value) :
    (∀ s e, ((B.invoke name args).run s).value = .error e ↔ Refused name args e) ∧
      (∀ e, Refused name args e →
        B.invoke name args = pure (.error e) ∧ B.recorded.invoke name args = pure (.error e)) ∧
      (∀ s v, ((B.invoke name args).run s).value = .ok v ↔
        ∃ c : FreeCall, c.Named name args ∧ ((c.perform B).run s).value = v) ∧
      (∀ c : FreeCall, c.Named name args →
        B.invoke name args = (do
          Action.emit (B.invoking name)
          .ok <$> c.perform B) ∧
        B.recorded.invoke name args = (do
          Action.emit (B.invoking name)
          .ok <$> (c.perform B).recorded (.free c)) ∧
        ∀ s, ((c.perform B).run s).value.kind = c.function.signature.returns) ∧
      ∀ f : Function, f.signature.checkArgs args = .ok () → (B.dispatch? f args).isSome := by
  have hrefused (s : σ) (e : Error) (h : Refused name args e) :
      ((B.invoke name args).run s).value = .error e := by rw [h.invoke, Action.run_pure]
  have hnamed (s : σ) (c : FreeCall) (h : c.Named name args) :
      ((B.invoke name args).run s).value = .ok ((c.perform B).run s).value := by
    rw [h.invoke, Action.run_bind, Action.run_emit, Action.run_map]
  refine ⟨fun s e => ⟨fun he => ?_, hrefused s e⟩, fun e h => ⟨h.invoke B, h.invoke B.recorded⟩,
    fun s v => ⟨fun hv => ?_, ?_⟩, fun c h => ⟨h.invoke B, ?_, c.kind_perform B⟩, fun f h => ?_⟩
  · -- a call is either refused or named, never both
    rcases refused_or_named name args with ⟨e', h⟩ | ⟨c, h⟩
    · rw [hrefused s e' h, Except.error.injEq] at he
      exact he ▸ h
    · rw [hnamed s c h] at he
      cases he
  · rcases refused_or_named name args with ⟨e, h⟩ | ⟨c, h⟩
    · rw [hrefused s e h] at hv
      cases hv
    · rw [hnamed s c h, Except.ok.injEq] at hv
      exact ⟨c, h, hv⟩
  · rintro ⟨c, h, rfl⟩
    exact hnamed s c h
  · rw [← c.perform_recorded]
    exact h.invoke B.recorded
  · obtain ⟨c, rfl, rfl⟩ := FreeCall.exists_of_checkArgs h
    rw [c.dispatch?_args]
    rfl

end BoundaryContract
