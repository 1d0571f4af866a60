import BoundaryContract.Abi.Call
import BoundaryContract.Text.Utf8

/-!
# Execution of exported calls

What an exported call does from a state in which its handles are live, one equation for each call.
Every such equation has the same shape: the thread's error slot is cleared, and then the call gives
its answer and makes at most one change to the live objects.

`Body.exec` runs the inside of a call, with one equation for each of its building blocks, and
`run_guarded` says what the guard around it adds: the inside starts from a cleared slot, and a
failure of it ends up in the slot, in the log, and as the neutral value.
-/

namespace BoundaryContract.Abi

variable {α β : Type} {s : State} {t : ThreadId} {h : Handle}

/-! ### The error slot and the objects -/

namespace State

section

variable (s : State) (t : ThreadId) (f g : Option Failure)

@[simp] theorem objects_setLastError : (s.setLastError t f).objects = s.objects := rfl

@[simp] theorem next_setLastError : (s.setLastError t f).next = s.next := rfl

@[simp] theorem live_setLastError : (s.setLastError t f).live = s.live := rfl

@[simp] theorem lastError_setLastError_self : (s.setLastError t f).lastError t = f := if_pos rfl

/-- Only the last failure that is recorded for a thread stays in its slot. -/
@[simp] theorem setLastError_setLastError :
    (s.setLastError t f).setLastError t g = s.setLastError t g := by
  simp only [setLastError, mk.injEq, true_and]
  funext u
  split <;> rfl

end

section

variable (s : State) (h : Handle) (x : Object) (f : Object → Object)

@[simp] theorem objects_insert : (s.insert x).objects = (s.next, x) :: s.objects := rfl

@[simp] theorem next_insert : (s.insert x).next = s.next + 1 := rfl

@[simp] theorem live_insert : (s.insert x).live = s.live + 1 := rfl

@[simp] theorem lastError_insert : (s.insert x).lastError = s.lastError := rfl

@[simp] theorem objects_update : (s.update h f).objects = s.objects.update h f := rfl

@[simp] theorem next_update : (s.update h f).next = s.next := rfl

@[simp] theorem live_update : (s.update h f).live = s.live := rfl

@[simp] theorem lastError_update : (s.update h f).lastError = s.lastError := rfl

@[simp] theorem objects_release : (s.release h).objects = s.objects.erase h := rfl

@[simp] theorem next_release : (s.release h).next = s.next := rfl

@[simp] theorem live_release : (s.release h).live = s.live - 1 := rfl

@[simp] theorem lastError_release : (s.release h).lastError = s.lastError := rfl

end

/-- The code of the slot is the one of success exactly when the slot is empty or holds that code. -/
theorem code_eq (s : State) (t : ThreadId) :
    s.code t = ((s.lastError t).map Failure.code).getD .success := by
  unfold code
  cases s.lastError t <;> rfl

end State

/-! ### The inside of a call -/

namespace Body

/-- What the inside of a call gives from a state. -/
def exec (b : Body α) (s : State) : Outcome State (Except Failure α) := Action.run (ExceptT.run b) s

@[simp] theorem exec_pure (a : α) (s : State) : exec (pure a) s = ⟨.ok a, s, []⟩ := rfl

@[simp] theorem exec_throw (f : Failure) (s : State) :
    exec (throw f : Body α) s = ⟨.error f, s, []⟩ := rfl

/-- What follows runs from where the first part ends, and not at all if that fails. -/
@[simp] theorem exec_bind (b : Body α) (k : α → Body β) (s : State) :
    exec (b >>= k) s =
      match exec b s with
      | ⟨.ok a, s', es⟩ =>
        ⟨(exec (k a) s').value, (exec (k a) s').state, es ++ (exec (k a) s').events⟩
      | ⟨.error f, s', es⟩ => ⟨.error f, s', es⟩ := by
  simp only [exec, ExceptT.run_bind, Action.run_bind]
  rcases Action.run (ExceptT.run b) s with ⟨_ | a, s', es⟩ <;> simp

/-- Changing the result of an inside keeps its failures. -/
@[simp] theorem exec_map (f : α → β) (b : Body α) (s : State) :
    exec (f <$> b) s =
      match exec b s with
      | ⟨.ok a, s', es⟩ => ⟨.ok (f a), s', es⟩
      | ⟨.error e, s', es⟩ => ⟨.error e, s', es⟩ := by
  rw [map_eq_pure_bind, exec_bind]
  rcases exec b s with ⟨_ | a, s', es⟩ <;> simp

@[simp] theorem exec_lift (a : Action State α) (s : State) :
    exec (lift a) s = ⟨.ok (a.run s).value, (a.run s).state, (a.run s).events⟩ := by
  simp [exec, lift, ExceptT.lift]

@[simp] theorem exec_object_none (param : String) (s : State) :
    exec (object param none) s = ⟨.error (.null param), s, []⟩ := rfl

theorem exec_object_some {x : Object} (param : String) (hx : s.objects.get? h = some x) :
    exec (object param (some h)) s = ⟨.ok (h, x), s, []⟩ := by
  simp [object, hx]

@[simp] theorem exec_outer_none (param : String) (s : State) :
    exec (outer param none) s = ⟨.error (.null param), s, []⟩ := by
  simp [outer]

theorem exec_outer_some {x : Outer} (param : String)
    (hx : s.objects.get? h = some (.outer x)) :
    exec (outer param (some h)) s = ⟨.ok (h, x), s, []⟩ := by
  simp [outer, exec_object_some param hx]

@[simp] theorem exec_inner_none (param : String) (s : State) :
    exec (inner param none) s = ⟨.error (.null param), s, []⟩ := by
  simp [inner]

theorem exec_inner_some {x : Inner} (param : String)
    (hx : s.objects.get? h = some (.inner x)) :
    exec (inner param (some h)) s = ⟨.ok (h, x), s, []⟩ := by
  simp [inner, exec_object_some param hx]

@[simp] theorem exec_string_none (param : String) (s : State) :
    exec (string param none) s = ⟨.error (.null param), s, []⟩ := by
  simp [string]

theorem exec_string_some {x : String} (param : String)
    (hx : s.objects.get? h = some (.string x)) :
    exec (string param (some h)) s = ⟨.ok x, s, []⟩ := by
  simp [string, exec_object_some param hx]

@[simp] theorem exec_text (param : String) (slice : Slice) (s : State) :
    exec (text param slice) s = ⟨slice.toText param, s, []⟩ := rfl

@[simp] theorem exec_handOut (x : Object) (s : State) :
    exec (handOut x) s = ⟨.ok (some s.next), s.insert x, []⟩ := by
  simp [handOut]

@[simp] theorem exec_replace (h : Handle) (x : Object) (s : State) :
    exec (replace h x) s = ⟨.ok (), s.update h fun _ => x, []⟩ := by
  simp [replace]

@[simp] theorem exec_release_none (s : State) : exec (release none) s = ⟨.ok (), s, []⟩ := rfl

theorem exec_release_some {x : Object} (hx : s.objects.get? h = some x) :
    exec (release (some h)) s = ⟨.ok (), s.release h, []⟩ := by
  simp [release, hx]

end Body

/-- The guard around a call: the inside starts from a cleared slot, and a failure of it is recorded
in the slot and in the log and gives the neutral value. -/
theorem run_guarded (t : ThreadId) (neutral : α) (body : Body α) (s : State) :
    (guarded t neutral body).run s =
      match body.exec (s.setLastError t none) with
      | ⟨.ok a, s', es⟩ => ⟨a, s', es⟩
      | ⟨.error f, s', es⟩ => ⟨neutral, s'.setLastError t (some f), es ++ [f.event]⟩ := by
  simp only [guarded, Action.run_bind, Action.run_modify, Body.exec]
  rcases Action.run (ExceptT.run body) (s.setLastError t none) with ⟨_ | a, s', es⟩ <;>
    simp [Action.run_bind]

/-- The view of a text holds that text, whatever parameter it is passed for. -/
@[simp] theorem Slice.toText_ofString (param x : String) :
    (Slice.ofString x).toText param = .ok x := by
  simp only [Slice.ofString, Slice.toText, Text.fromUTF8?_toUTF8]
  split
  · next hsize => rw [String.utf8ByteSize_eq_zero_iff.mp hsize]
  · rfl

/-! ### The outer struct -/

section

variable {x : Outer} (t : ThreadId) (s : State)

theorem run_outerDefault :
    (outerDefault t).run s =
      ⟨some s.next, (s.setLastError t none).insert (.outer .default), []⟩ := by
  simp [outerDefault, run_guarded]

variable {s}

theorem run_outerClone (hx : s.objects.get? h = some (.outer x)) :
    (outerClone t (some h)).run s =
      ⟨some s.next, (s.setLastError t none).insert (.outer x), []⟩ := by
  simp [outerClone, run_guarded, Body.exec_outer_some, hx]

/-- Freeing an outer struct releases its handle; the object need not even be a struct. -/
theorem run_outerFree {o : Object} (hx : s.objects.get? h = some o) :
    (outerFree t (some h)).run s = ⟨(), (s.setLastError t none).release h, []⟩ := by
  simp [outerFree, run_guarded, Body.exec_release_some, hx]

theorem run_outerInt32 (hx : s.objects.get? h = some (.outer x)) :
    (outerInt32 t (some h)).run s = ⟨x.int32, s.setLastError t none, []⟩ := by
  simp [outerInt32, run_guarded, Body.exec_outer_some, hx]

/-- The setter of the integer keeps the other fields. -/
theorem run_setOuterInt32 (hx : s.objects.get? h = some (.outer x)) (n : Int32) :
    (setOuterInt32 t (some h) n).run s =
      ⟨(), (s.setLastError t none).update h fun _ => .outer { x with int32 := n }, []⟩ := by
  simp [setOuterInt32, run_guarded, Body.exec_outer_some, hx]

theorem run_outerBool (hx : s.objects.get? h = some (.outer x)) :
    (outerBool t (some h)).run s = ⟨x.bool, s.setLastError t none, []⟩ := by
  simp [outerBool, run_guarded, Body.exec_outer_some, hx]

theorem run_outerString (hx : s.objects.get? h = some (.outer x)) :
    (outerString t (some h)).run s =
      ⟨some s.next, (s.setLastError t none).insert (.string x.string), []⟩ := by
  simp [outerString, run_guarded, Body.exec_outer_some, hx]

/-- The setter of the text keeps the other fields. -/
theorem run_setOuterString (hx : s.objects.get? h = some (.outer x)) {value : Slice}
    {text : String} (htext : value.toText "value" = .ok text) :
    (setOuterString t (some h) value).run s =
      ⟨(), (s.setLastError t none).update h fun _ => .outer { x with string := text }, []⟩ := by
  simp [setOuterString, run_guarded, Body.exec_outer_some, hx, htext]

theorem run_outerInner (hx : s.objects.get? h = some (.outer x)) :
    (outerInner t (some h)).run s =
      ⟨some s.next, (s.setLastError t none).insert (.inner x.inner), []⟩ := by
  simp [outerInner, run_guarded, Body.exec_outer_some, hx]

/-- The setter of the nested struct copies it; what is behind the handle of the argument stays. -/
theorem run_setOuterInner {g : Handle} {y : Inner} (hx : s.objects.get? h = some (.outer x))
    (hy : s.objects.get? g = some (.inner y)) :
    (setOuterInner t (some h) (some g)).run s =
      ⟨(), (s.setLastError t none).update h fun _ => .outer { x with inner := y }, []⟩ := by
  simp [setOuterInner, run_guarded, Body.exec_outer_some, Body.exec_inner_some, hx, hy]

end

/-! ### The nested struct -/

section

variable {y : Inner} (t : ThreadId) (s : State)

theorem run_innerDefault :
    (innerDefault t).run s =
      ⟨some s.next, (s.setLastError t none).insert (.inner .default), []⟩ := by
  simp [innerDefault, run_guarded]

variable {s}

theorem run_innerClone (hy : s.objects.get? h = some (.inner y)) :
    (innerClone t (some h)).run s =
      ⟨some s.next, (s.setLastError t none).insert (.inner y), []⟩ := by
  simp [innerClone, run_guarded, Body.exec_inner_some, hy]

theorem run_innerFree {o : Object} (hy : s.objects.get? h = some o) :
    (innerFree t (some h)).run s = ⟨(), (s.setLastError t none).release h, []⟩ := by
  simp [innerFree, run_guarded, Body.exec_release_some, hy]

theorem run_innerInt32 (hy : s.objects.get? h = some (.inner y)) :
    (innerInt32 t (some h)).run s = ⟨y.int32, s.setLastError t none, []⟩ := by
  simp [innerInt32, run_guarded, Body.exec_inner_some, hy]

theorem run_setInnerInt32 (hy : s.objects.get? h = some (.inner y)) (n : Int32) :
    (setInnerInt32 t (some h) n).run s =
      ⟨(), (s.setLastError t none).update h fun _ => .inner ⟨n⟩, []⟩ := by
  simp [setInnerInt32, run_guarded, Body.exec_inner_some, hy]

end

/-! ### Owned texts -/

section

variable {x : String} (t : ThreadId)

theorem run_stringData (hx : s.objects.get? h = some (.string x)) :
    (stringData t (some h)).run s = ⟨some x.toUTF8, s.setLastError t none, []⟩ := by
  simp [stringData, run_guarded, Body.exec_string_some, hx]

theorem run_stringLength (hx : s.objects.get? h = some (.string x)) :
    (stringLength t (some h)).run s = ⟨x.toUTF8.size, s.setLastError t none, []⟩ := by
  simp [stringLength, run_guarded, Body.exec_string_some, hx]

theorem run_stringFree {o : Object} (hx : s.objects.get? h = some o) :
    (stringFree t (some h)).run s = ⟨(), (s.setLastError t none).release h, []⟩ := by
  simp [stringFree, run_guarded, Body.exec_release_some, hx]

end

/-! ### Free functions -/

section

variable (t : ThreadId) (s : State)

/-- The function without arguments logs that it was called. -/
theorem run_simple :
    (simple t).run s =
      ⟨(), s.setLastError t none, [Reference.called "simple_function" []]⟩ := by
  simp [simple, run_guarded, Reference.simple]

/-- The function of primitive arguments logs both of them. -/
theorem run_primitiveArgs (i : Int32) (b : Bool) :
    (primitiveArgs t i b).run s =
      ⟨(), s.setLastError t none,
        [Reference.called "function_with_primitive_args"
          [("i", .int i.toInt), ("b", .bool b)]]⟩ := by
  simp [primitiveArgs, run_guarded, Reference.primitiveArgs]

/-- The function of a text logs the text of its view. -/
theorem run_stringArg {view : Slice} {text : String} (htext : view.toText "s" = .ok text) :
    (stringArg t view).run s =
      ⟨(), s.setLastError t none,
        [Reference.called "function_with_string_arg" [("s", .text text)]]⟩ := by
  simp [stringArg, run_guarded, Reference.stringArg, htext]

/-- The function of all three kinds of arguments logs each of them. -/
theorem run_primitiveAndStringArg (i : Int32) (b : Bool) {view : Slice} {text : String}
    (htext : view.toText "s" = .ok text) :
    (primitiveAndStringArg t i b view).run s =
      ⟨(), s.setLastError t none,
        [Reference.called "function_with_primitive_and_string_arg"
          [("i", .int i.toInt), ("b", .bool b), ("s", .text text)]]⟩ := by
  simp [primitiveAndStringArg, run_guarded, Reference.primitiveAndStringArg, htext]

theorem run_returnPrimitive :
    (returnPrimitive t).run s = ⟨Reference.fixedInt32, s.setLastError t none, []⟩ := by
  simp [returnPrimitive, run_guarded]

theorem run_returnString :
    (returnString t).run s =
      ⟨some s.next, (s.setLastError t none).insert (.string Reference.fixedString), []⟩ := by
  simp [returnString, run_guarded]

/-- The selected text comes back as a new object, when both views are texts. -/
theorem run_combo {view1 view2 : Slice} {text1 text2 : String}
    (htext1 : view1.toText "str1" = .ok text1) (htext2 : view2.toText "str2" = .ok text2)
    (b : Bool) :
    (combo t view1 view2 b).run s =
      ⟨some s.next,
        (s.setLastError t none).insert (.string (Reference.select text1 text2 b)), []⟩ := by
  simp [combo, run_guarded, htext1, htext2]

end

end BoundaryContract.Abi
