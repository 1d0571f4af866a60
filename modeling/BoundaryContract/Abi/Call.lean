import BoundaryContract.Abi.Heap
import BoundaryContract.Reference
import BoundaryContract.Surface

/-!
# Exported calls

Every exported function as a constructor of `Call`, over the pointers it is given, and what it does
as `Call.perform`. A call checks all its arguments, in the order of its parameters, before it
changes anything. The calls that inspect the last error, the count of live handles or the version
touch no slot.
-/

namespace BoundaryContract.Abi

/-- An exported call whose pointer arguments are of type `ρ`. -/
inductive Call (ρ : Type)
  | outerDefault
  | outerClone (this : ρ)
  | outerFree (this : ρ)
  | outerInt32 (this : ρ)
  | setOuterInt32 (this : ρ) (n : Int32)
  | outerBool (this : ρ)
  | outerString (this : ρ)
  | setOuterString (this : ρ) (value : Slice)
  | outerInner (this : ρ)
  | setOuterInner (this value : ρ)
  | innerDefault
  | innerClone (this : ρ)
  | innerFree (this : ρ)
  | innerInt32 (this : ρ)
  | setInnerInt32 (this : ρ) (n : Int32)
  | stringData (string : ρ)
  | stringLength (string : ρ)
  | stringFree (string : ρ)
  | simple
  | primitiveArgs (i : Int32) (b : Bool)
  | stringArg (s : Slice)
  | primitiveAndStringArg (i : Int32) (b : Bool) (s : Slice)
  | returnPrimitive
  | returnString
  | combo (str1 str2 : Slice) (b : Bool)
  | clearError
  | lastErrorCode
  | lastErrorMessage
  | liveHandles
  | version

/-- What an exported call returns. -/
inductive Answer
  | none
  | int32 (n : Int32)
  | bool (b : Bool)
  | pointer (p : Pointer)
  /-- A pointer to bytes; null is no bytes. -/
  | data (bytes : Option ByteArray)
  | size (n : Nat)
  | code (c : Code)
  | message (text : Option String)

variable (t : ThreadId)

/-! ### The outer struct -/

/-- A new outer struct. -/
def outerDefault : Action State Pointer :=
  guarded t none (Body.handOut (.outer .default))

/-- An independent copy of an outer struct. -/
def outerClone (this : Pointer) : Action State Pointer :=
  guarded t none do
    let (_, x) ← Body.outer "this" this
    Body.handOut (.outer x)

/-- Releases an outer struct. -/
def outerFree (this : Pointer) : Action State Unit :=
  guarded t () (Body.release this)

/-- The integer of an outer struct. -/
def outerInt32 (this : Pointer) : Action State Int32 :=
  guarded t 0 do
    let (_, x) ← Body.outer "this" this
    return x.int32

/-- Sets the integer of an outer struct. -/
def setOuterInt32 (this : Pointer) (n : Int32) : Action State Unit :=
  guarded t () do
    let (h, x) ← Body.outer "this" this
    Body.replace h (.outer { x with int32 := n })

/-- The truth value of an outer struct. -/
def outerBool (this : Pointer) : Action State Bool :=
  guarded t false do
    let (_, x) ← Body.outer "this" this
    return x.bool

/-- An owned copy of the text of an outer struct. -/
def outerString (this : Pointer) : Action State Pointer :=
  guarded t none do
    let (_, x) ← Body.outer "this" this
    Body.handOut (.string x.string)

/-- Copies a text into an outer struct. -/
def setOuterString (this : Pointer) (value : Slice) : Action State Unit :=
  guarded t () do
    let (h, x) ← Body.outer "this" this
    let s ← Body.text "value" value
    Body.replace h (.outer { x with string := s })

/-- An independent copy of the nested struct of an outer struct. -/
def outerInner (this : Pointer) : Action State Pointer :=
  guarded t none do
    let (_, x) ← Body.outer "this" this
    Body.handOut (.inner x.inner)

/-- Copies a nested struct into an outer struct. -/
def setOuterInner (this value : Pointer) : Action State Unit :=
  guarded t () do
    let (h, x) ← Body.outer "this" this
    let (_, y) ← Body.inner "value" value
    Body.replace h (.outer { x with inner := y })

/-! ### The nested struct -/

/-- A new nested struct. -/
def innerDefault : Action State Pointer :=
  guarded t none (Body.handOut (.inner .default))

/-- An independent copy of a nested struct. -/
def innerClone (this : Pointer) : Action State Pointer :=
  guarded t none do
    let (_, x) ← Body.inner "this" this
    Body.handOut (.inner x)

/-- Releases a nested struct. -/
def innerFree (this : Pointer) : Action State Unit :=
  guarded t () (Body.release this)

/-- The integer of a nested struct. -/
def innerInt32 (this : Pointer) : Action State Int32 :=
  guarded t 0 do
    let (_, x) ← Body.inner "this" this
    return x.int32

/-- Sets the integer of a nested struct. -/
def setInnerInt32 (this : Pointer) (n : Int32) : Action State Unit :=
  guarded t () do
    let (h, x) ← Body.inner "this" this
    Body.replace h (.inner { x with int32 := n })

/-! ### Owned texts -/

/-- The bytes of an owned text. -/
def stringData (string : Pointer) : Action State (Option ByteArray) :=
  guarded t none do
    let s ← Body.string "string" string
    return some s.toUTF8

/-- The length in bytes of an owned text. -/
def stringLength (string : Pointer) : Action State Nat :=
  guarded t 0 do
    let s ← Body.string "string" string
    return s.toUTF8.size

/-- Releases an owned text. -/
def stringFree (string : Pointer) : Action State Unit :=
  guarded t () (Body.release string)

/-! ### Free functions -/

/-- Calls the function without arguments. -/
def simple : Action State Unit :=
  guarded t () (Body.lift Reference.simple)

/-- Calls the function of an integer and a truth value. -/
def primitiveArgs (i : Int32) (b : Bool) : Action State Unit :=
  guarded t () (Body.lift (Reference.primitiveArgs i b))

/-- Calls the function of a text. -/
def stringArg (s : Slice) : Action State Unit :=
  guarded t () do
    let s ← Body.text "s" s
    Body.lift (Reference.stringArg s)

/-- Calls the function of an integer, a truth value and a text. -/
def primitiveAndStringArg (i : Int32) (b : Bool) (s : Slice) : Action State Unit :=
  guarded t () do
    let s ← Body.text "s" s
    Body.lift (Reference.primitiveAndStringArg i b s)

/-- Calls the function of the fixed integer. -/
def returnPrimitive : Action State Int32 :=
  guarded t 0 (return Reference.fixedInt32)

/-- Calls the function of the fixed text. -/
def returnString : Action State Pointer :=
  guarded t none (Body.handOut (.string Reference.fixedString))

/-- Calls the selecting function; both texts are checked, whichever is selected. -/
def combo (str1 str2 : Slice) (b : Bool) : Action State Pointer :=
  guarded t none do
    let s1 ← Body.text "str1" str1
    let s2 ← Body.text "str2" str2
    Body.handOut (.string (Reference.select s1 s2 b))

/-! ### Calls as data -/

namespace Call

/-- Performs a call on behalf of a thread. -/
def perform : Call Pointer → Action State Answer
  | outerDefault => .pointer <$> Abi.outerDefault t
  | outerClone this => .pointer <$> Abi.outerClone t this
  | outerFree this => (fun _ => .none) <$> Abi.outerFree t this
  | outerInt32 this => .int32 <$> Abi.outerInt32 t this
  | setOuterInt32 this n => (fun _ => .none) <$> Abi.setOuterInt32 t this n
  | outerBool this => .bool <$> Abi.outerBool t this
  | outerString this => .pointer <$> Abi.outerString t this
  | setOuterString this value => (fun _ => .none) <$> Abi.setOuterString t this value
  | outerInner this => .pointer <$> Abi.outerInner t this
  | setOuterInner this value => (fun _ => .none) <$> Abi.setOuterInner t this value
  | innerDefault => .pointer <$> Abi.innerDefault t
  | innerClone this => .pointer <$> Abi.innerClone t this
  | innerFree this => (fun _ => .none) <$> Abi.innerFree t this
  | innerInt32 this => .int32 <$> Abi.innerInt32 t this
  | setInnerInt32 this n => (fun _ => .none) <$> Abi.setInnerInt32 t this n
  | stringData string => .data <$> Abi.stringData t string
  | stringLength string => .size <$> Abi.stringLength t string
  | stringFree string => (fun _ => .none) <$> Abi.stringFree t string
  | simple => (fun _ => .none) <$> Abi.simple t
  | primitiveArgs i b => (fun _ => .none) <$> Abi.primitiveArgs t i b
  | stringArg s => (fun _ => .none) <$> Abi.stringArg t s
  | primitiveAndStringArg i b s => (fun _ => .none) <$> Abi.primitiveAndStringArg t i b s
  | returnPrimitive => .int32 <$> Abi.returnPrimitive t
  | returnString => .pointer <$> Abi.returnString t
  | combo str1 str2 b => .pointer <$> Abi.combo t str1 str2 b
  | clearError => (fun _ => .none) <$> Action.modify (State.setLastError t none)
  | lastErrorCode => .gets fun s => .code (s.code t)
  | lastErrorMessage => .gets fun s => .message ((s.lastError t).map Failure.message)
  | liveHandles => .gets fun s => .size s.live
  | version => pure (.message (some BoundaryContract.version))

/-- The same call with its pointer arguments replaced. -/
def map {ρ ρ' : Type} (f : ρ → ρ') : Call ρ → Call ρ'
  | outerDefault => outerDefault
  | outerClone this => outerClone (f this)
  | outerFree this => outerFree (f this)
  | outerInt32 this => outerInt32 (f this)
  | setOuterInt32 this n => setOuterInt32 (f this) n
  | outerBool this => outerBool (f this)
  | outerString this => outerString (f this)
  | setOuterString this value => setOuterString (f this) value
  | outerInner this => outerInner (f this)
  | setOuterInner this value => setOuterInner (f this) (f value)
  | innerDefault => innerDefault
  | innerClone this => innerClone (f this)
  | innerFree this => innerFree (f this)
  | innerInt32 this => innerInt32 (f this)
  | setInnerInt32 this n => setInnerInt32 (f this) n
  | stringData string => stringData (f string)
  | stringLength string => stringLength (f string)
  | stringFree string => stringFree (f string)
  | simple => simple
  | primitiveArgs i b => primitiveArgs i b
  | stringArg s => stringArg s
  | primitiveAndStringArg i b s => primitiveAndStringArg i b s
  | returnPrimitive => returnPrimitive
  | returnString => returnString
  | combo str1 str2 b => combo str1 str2 b
  | clearError => clearError
  | lastErrorCode => lastErrorCode
  | lastErrorMessage => lastErrorMessage
  | liveHandles => liveHandles
  | version => version

end Call

end BoundaryContract.Abi
