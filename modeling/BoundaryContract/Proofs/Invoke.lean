import BoundaryContract.Invoke
import BoundaryContract.Proofs.Boundary.Serves

/-!
# What a call by name gives

The check of arguments accepts exactly the arguments of the declared kinds
(`Signature.checkArgs_eq_ok`), so an accepted call always has a result (`Function.result?_isSome`).
`invoked` puts the two together: the outcome of a call by name in terms of its name and arguments
alone. A boundary that serves plain values gives this outcome (`Serves.invoke`), and a call that is
not accepted never reaches it.
-/

namespace BoundaryContract

/-! ### The check of arguments -/

namespace Signature

/-- As many arguments as parameters pass the check of kinds exactly when their kinds are the
declared ones. -/
theorem checkKinds_eq_ok {params : List Param} {args : List Value}
    (hlen : args.length = params.length) :
    checkKinds params args = .ok () ↔ args.map Value.kind = params.map Param.kind := by
  induction params generalizing args with
  | nil => simp_all [checkKinds]
  | cons param params ih =>
    obtain ⟨arg, args, rfl⟩ := List.exists_cons_of_length_eq_add_one hlen
    rw [List.map_cons, List.map_cons, List.cons.injEq, ← ih (Nat.succ.inj hlen), checkKinds]
    by_cases hkind : arg.kind = param.kind <;> simp [hkind]

/-- Arguments pass the check exactly when their kinds are the declared ones. -/
theorem checkArgs_eq_ok {s : Signature} {args : List Value} :
    s.checkArgs args = .ok () ↔ args.map Value.kind = s.params.map Param.kind := by
  rw [checkArgs]
  split
  · next hlen => exact checkKinds_eq_ok hlen
  · next hlen =>
    refine ⟨nofun, fun h => absurd ?_ hlen⟩
    simpa [arity] using congrArg List.length h

end Signature

namespace Value

variable {v : Value}

/-- A struct value is of a struct kind or of the unknown one. -/
private theorem kind_struct (name : String) (fields : List (String × Value)) :
    kind (.struct name fields) = .struct name ∨ kind (.struct name fields) = .unknownStruct := by
  rw [kind]
  split
  · exact .inl rfl
  · exact .inr rfl

theorem eq_unit_of_kind (h : v.kind = .unit) : v = .unit := by
  cases v with
  | unit => rfl
  | struct name fields => rcases kind_struct name fields with hk | hk <;> rw [hk] at h <;> cases h
  | _ => cases h

theorem eq_int32_of_kind (h : v.kind = .int32) : ∃ n, v = .int32 n := by
  cases v with
  | int32 n => exact ⟨n, rfl⟩
  | struct name fields => rcases kind_struct name fields with hk | hk <;> rw [hk] at h <;> cases h
  | _ => cases h

theorem eq_bool_of_kind (h : v.kind = .bool) : ∃ b, v = .bool b := by
  cases v with
  | bool b => exact ⟨b, rfl⟩
  | struct name fields => rcases kind_struct name fields with hk | hk <;> rw [hk] at h <;> cases h
  | _ => cases h

theorem eq_string_of_kind (h : v.kind = .string) : ∃ s, v = .string s := by
  cases v with
  | string s => exact ⟨s, rfl⟩
  | struct name fields => rcases kind_struct name fields with hk | hk <;> rw [hk] at h <;> cases h
  | _ => cases h

end Value

/-! ### The results of free functions -/

/-- What a free function gives for arguments of the declared kinds, and the events it leaves; other
arguments have no result. -/
def Function.result? (f : Function) (args : List Value) : Option (Value × List Event) :=
  match f with
  | .simple =>
    match args with
    | [] => some (.unit, Reference.events Reference.simple)
    | _ => none
  | .primitiveArgs =>
    match args with
    | [.int32 i, .bool b] => some (.unit, Reference.events (Reference.primitiveArgs i b))
    | _ => none
  | .stringArg =>
    match args with
    | [.string s] => some (.unit, Reference.events (Reference.stringArg s))
    | _ => none
  | .primitiveAndStringArg =>
    match args with
    | [.int32 i, .bool b, .string s] =>
      some (.unit, Reference.events (Reference.primitiveAndStringArg i b s))
    | _ => none
  | .returnPrimitive =>
    match args with
    | [] => some (.int32 Reference.fixedInt32, [])
    | _ => none
  | .returnString =>
    match args with
    | [] => some (.string Reference.fixedString, [])
    | _ => none
  | .combo =>
    match args with
    | [.string str1, .string str2, .bool b] => some (.string (Reference.select str1 str2 b), [])
    | _ => none

/-- Arguments that pass the check against the signature of a function have a result. -/
theorem Function.result?_isSome {f : Function} {args : List Value}
    (h : f.signature.checkArgs args = .ok ()) : (f.result? args).isSome := by
  have hkinds := Signature.checkArgs_eq_ok.mp h
  -- the kinds of the arguments fix their number and what each of them holds
  cases f <;> simp only [signature, List.map_cons, List.map_nil, List.map_eq_cons_iff,
    List.map_eq_nil_iff] at hkinds
  case simple => rw [hkinds]; rfl
  case primitiveArgs =>
    obtain ⟨_, _, rfl, hi, _, _, rfl, hb, rfl⟩ := hkinds
    obtain ⟨i, rfl⟩ := Value.eq_int32_of_kind hi
    obtain ⟨b, rfl⟩ := Value.eq_bool_of_kind hb
    rfl
  case stringArg =>
    obtain ⟨_, _, rfl, hs, rfl⟩ := hkinds
    obtain ⟨s, rfl⟩ := Value.eq_string_of_kind hs
    rfl
  case primitiveAndStringArg =>
    obtain ⟨_, _, rfl, hi, _, _, rfl, hb, _, _, rfl, hs, rfl⟩ := hkinds
    obtain ⟨i, rfl⟩ := Value.eq_int32_of_kind hi
    obtain ⟨b, rfl⟩ := Value.eq_bool_of_kind hb
    obtain ⟨s, rfl⟩ := Value.eq_string_of_kind hs
    rfl
  case returnPrimitive => rw [hkinds]; rfl
  case returnString => rw [hkinds]; rfl
  case combo =>
    obtain ⟨_, _, rfl, h1, _, _, rfl, h2, _, _, rfl, hb, rfl⟩ := hkinds
    obtain ⟨str1, rfl⟩ := Value.eq_string_of_kind h1
    obtain ⟨str2, rfl⟩ := Value.eq_string_of_kind h2
    obtain ⟨b, rfl⟩ := Value.eq_bool_of_kind hb
    rfl

/-- The outcome of a call by name: the error that keeps it from the boundary, or what its function
gives and the events that the function leaves. -/
def invoked (name : String) (args : List Value) : Except Error (Value × List Event) :=
  match Function.ofName? name with
  | none => .error (.unknownFunction name)
  | some f =>
    match f.signature.checkArgs args with
    | .error e => .error e
    | .ok () =>
      match f.result? args with
      | some r => .ok r
      | none => .error (.unknownFunction name)

/-! ### Calls on a boundary that serves plain values -/

variable {σ ω ι : Type} {B : CloningBoundary σ ω ι} {Holds Settled : Holding σ ω ι} {s : σ}
  {os : Multiset (ω × Outer)} {is : Multiset (ι × Inner)}

namespace Serves

/-- Arguments with a result have a call, and the call gives the result. -/
theorem dispatch (S : Serves B Holds Settled) (h : Holds s os is) {f : Function}
    {args : List Value} {v : Value} {es : List Event} (hr : f.result? args = some (v, es)) :
    ∃ call, B.toBoundary.dispatch? f args = some call ∧
      call.Gives s es fun w s' => w = v ∧ Settled s' os is := by
  revert hr
  fun_cases Function.result? f args
  case case1 =>
    rintro ⟨⟩
    exact ⟨_, rfl, (S.simple h).map fun _ _ hs => ⟨rfl, hs⟩⟩
  case case3 i b =>
    rintro ⟨⟩
    exact ⟨_, rfl, (S.primitiveArgs i b h).map fun _ _ hs => ⟨rfl, hs⟩⟩
  case case5 text =>
    rintro ⟨⟩
    exact ⟨_, rfl, (S.stringArg text h).map fun _ _ hs => ⟨rfl, hs⟩⟩
  case case7 i b text =>
    rintro ⟨⟩
    exact ⟨_, rfl, (S.primitiveAndStringArg i b text h).map fun _ _ hs => ⟨rfl, hs⟩⟩
  case case9 =>
    rintro ⟨⟩
    exact ⟨_, rfl, (S.returnPrimitive h).map fun _ _ hs => ⟨congrArg Value.int32 hs.1, hs.2⟩⟩
  case case11 =>
    rintro ⟨⟩
    exact ⟨_, rfl, (S.returnString h).map fun _ _ hs => ⟨congrArg Value.string hs.1, hs.2⟩⟩
  case case13 str1 str2 b =>
    rintro ⟨⟩
    exact ⟨_, rfl, (S.combo str1 str2 b h).map fun _ _ hs => ⟨congrArg Value.string hs.1, hs.2⟩⟩
  all_goals nofun

/-- A call by name that is accepted first leaves the event of the call and then does what its
function does. -/
theorem invoke_ok (S : Serves B Holds Settled) (h : Holds s os is) {name : String}
    {args : List Value} {v : Value} {es : List Event} (hr : invoked name args = .ok (v, es)) :
    (B.toBoundary.invoke name args).Gives s (B.toBoundary.invoking name :: es) fun w s' =>
      w = .ok v ∧ Settled s' os is := by
  rw [invoked] at hr
  rw [Boundary.invoke]
  cases hf : Function.ofName? name with
  | none => simp [hf] at hr
  | some f =>
    simp only [hf] at hr ⊢
    cases hargs : f.signature.checkArgs args with
    | error e => simp [hargs] at hr
    | ok _ =>
      simp only [hargs] at hr ⊢
      cases hres : f.result? args with
      | none => simp [hres] at hr
      | some r =>
        simp only [hres, Except.ok.injEq] at hr
        obtain ⟨call, hcall, hgives⟩ := S.dispatch h (hr ▸ hres)
        rw [hcall]
        exact .bind_emit (hgives.map fun _ _ hs => ⟨congrArg Except.ok hs.1, hs.2⟩)

end Serves

/-- A call by name that is not accepted does nothing. -/
theorem Boundary.invoke_error (B : Boundary σ ω ι) {name : String} {args : List Value}
    {e : Error} (hr : invoked name args = .error e) : B.invoke name args = pure (.error e) := by
  rw [invoked] at hr
  rw [Boundary.invoke]
  cases hf : Function.ofName? name with
  | none => simp_all
  | some f =>
    simp only [hf] at hr ⊢
    cases hargs : f.signature.checkArgs args with
    | error e => simp_all
    | ok _ =>
      -- arguments that pass the check have a result, so the call was accepted after all
      obtain ⟨r, hres⟩ := Option.isSome_iff_exists.mp (Function.result?_isSome hargs)
      simp [hargs, hres] at hr

end BoundaryContract
