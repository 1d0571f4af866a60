import BoundaryContract.Boundary
import BoundaryContract.Reference
import BoundaryContract.Suite.Report

/-!
# The conformance suite

The suite drives a boundary through the properties of the contract: default values, round trips,
independence of copies, fixed results and selection. Each observation is a probe, which names itself
and what it expects before it touches the boundary, so the names and expectations of a run are the
same for every boundary.
-/

namespace BoundaryContract.Suite

variable {σ ω ι : Type}

/-- An observation to be made: its name, the call it makes, the value expected, and how the actual
value is obtained. -/
structure Probe (σ : Type) where
  name : String
  call : String
  expected : Value
  measure : Action σ Value

/-- Makes an observation and records it. -/
def Probe.run (tier : Tier) (p : Probe σ) : Action σ Check := do
  let actual ← p.measure
  let check := Check.ofValues p.name p.call p.expected actual
  Action.emit (check.event tier)
  return check

/-- Makes observations in order. -/
def runProbes (tier : Tier) : List (Probe σ) → Action σ (List Check)
  | [] => pure []
  | p :: rest => do
    let check ← p.run tier
    let checks ← runProbes tier rest
    return check :: checks

/-! ### Samples -/

/-- Integers of the round trips. -/
def int32Samples : List Int32 := [42, 0, -1, Int32.minValue, Int32.maxValue]

/-- Texts of the round trips, in the order they are set. -/
def stringSamples : List String :=
  ["Hello, World!", "Hello, Rust!", "", "Grüße, 世界 🌍"]

/-- The text that the caller has in a variable of its own when it is set. -/
def ownedSample : String := "Hello, C++!"

/-- Pairs of texts for the selecting function. -/
def comboSamples : List (String × String) :=
  [("Combo function!", "Don't print me"), ("", ""), ("same", "same"), ("", "non-empty"),
   ("ünïcode", "ascii")]

/-! ### Groups of probes -/

section

variable (B : Boundary σ ω ι) (tier : Tier)

/-- The integer of an outer struct as a value. -/
def outerInt32 (a : ω) : Action σ Value := .int32 <$> B.outerInt32 a

/-- The text of an outer struct as a value. -/
def outerString (a : ω) : Action σ Value := .string <$> B.outerString a

/-- The integer of a nested struct as a value. -/
def innerInt32 (b : ι) : Action σ Value := .int32 <$> B.innerInt32 b

/-- The integer of the nested struct of an outer struct, read through a copy. The copy is given back
before the check is recorded. An implementation may keep it until just after that; the check, its
event and the live handles between two checks are the same. -/
def nestedInt32 (a : ω) : Action σ Value := do
  let b ← B.outerInner a
  let n ← B.innerInt32 b
  B.dropInner b
  return .int32 n

/-- The integer of a new nested struct, which is given back before the check is recorded, like the
copy in `nestedInt32`. -/
def freshInnerInt32 : Action σ Value := do
  let b ← B.newInner
  let n ← B.innerInt32 b
  B.dropInner b
  return .int32 n

/-- New structs hold the default values. -/
def defaults : Action σ (List Check) := do
  let a ← B.newOuter
  let checks ← runProbes tier
    [⟨"defaults.i32_field", "StructA.get_i32_field()", .int32 0, outerInt32 B a⟩,
     ⟨"defaults.bool_field", "StructA.get_bool_field()", .bool false, .bool <$> B.outerBool a⟩,
     ⟨"defaults.string_field", "StructA.get_string_field()", .string "", outerString B a⟩,
     ⟨"defaults.struct_field", "StructA.get_struct_field().get_i32_field()", .int32 0,
       nestedInt32 B a⟩,
     ⟨"defaults.struct_b", "StructB.get_i32_field()", .int32 0, freshInnerInt32 B⟩]
  B.dropOuter a
  return checks

/-- The probes of one integer: set once and read twice. -/
def int32Probes (a : ω) (n : Int32) : List (Probe σ) :=
  let text := Value.int32Text n
  let call := "StructA.set_i32_field(" ++ text ++ "); StructA.get_i32_field()"
  [⟨"i32_round_trip." ++ text, call, .int32 n, do
      B.setOuterInt32 a n
      outerInt32 B a⟩,
   ⟨"i32_round_trip." ++ text ++ ".repeat", call, .int32 n, outerInt32 B a⟩]

/-- An integer that is set is the integer read back. -/
def int32RoundTrip : Action σ (List Check) := do
  let a ← B.newOuter
  let checks ← runProbes tier (int32Samples.flatMap (int32Probes B a))
  let b ← B.newInner
  B.setInnerInt32 b (-42)
  let innerChecks ← runProbes tier
    [⟨"i32_round_trip.struct_b", "StructB.set_i32_field(-42); StructB.get_i32_field()",
      .int32 (-42), innerInt32 B b⟩]
  B.dropInner b
  B.dropOuter a
  return checks ++ innerChecks

/-- The probe of one text. -/
def stringProbe (a : ω) (entry : String × Nat) : Probe σ :=
  ⟨"string_round_trip." ++ toString entry.2,
    "StructA.set_string_field(" ++ Text.quote entry.1 ++ "); StructA.get_string_field()",
    .string entry.1, do
      B.setOuterString a entry.1
      outerString B a⟩

/-- The probes of all texts, the last of which the caller has in a variable. -/
def stringProbes (a : ω) : List (Probe σ) :=
  stringSamples.zipIdx.map (stringProbe B a) ++
  [⟨"string_round_trip.from_variable",
     "StructA.set_string_field(&owned); StructA.get_string_field()", .string ownedSample, do
      B.setOuterString a ownedSample
      outerString B a⟩]

/-- The probe of the caller's variable after it was passed. -/
def ownedProbe : Probe σ :=
  ⟨"string_round_trip.caller_keeps_variable", "owned after StructA.set_string_field(&owned)",
    .string ownedSample, pure (.string ownedSample)⟩

/-- A text that is set is the text read back, and the caller keeps its own. -/
def stringRoundTrip : Action σ (List Check) := do
  let a ← B.newOuter
  let checks ← runProbes tier (stringProbes B a ++ [ownedProbe])
  B.dropOuter a
  return checks

/-- The probes of a copy of the nested struct that was taken from an outer one. -/
def copyProbes (a : ω) (copy : ι) : List (Probe σ) :=
  [⟨"copy_out.copy_mutated", "copy.set_i32_field(43); copy.get_i32_field()", .int32 43, do
      B.setInnerInt32 copy 43
      innerInt32 B copy⟩,
   ⟨"copy_out.original_unchanged", "StructA.get_struct_field().get_i32_field()", .int32 0,
     nestedInt32 B a⟩]

/-- The probes of an outer struct into which a nested one is copied. -/
def storedProbes (a : ω) (other : ι) : List (Probe σ) :=
  [⟨"copy_out.after_set",
     "StructA.set_struct_field(b44); StructA.get_struct_field().get_i32_field()", .int32 44, do
      B.setOuterInner a other
      nestedInt32 B a⟩,
   ⟨"copy_out.setter_copied",
     "b44.set_i32_field(45); StructA.get_struct_field().get_i32_field()", .int32 44, do
      B.setInnerInt32 other 45
      nestedInt32 B a⟩,
   ⟨"copy_out.caller_keeps_argument", "b44.get_i32_field()", .int32 45, innerInt32 B other⟩,
   ⟨"copy_out.siblings_untouched", "StructA.get_i32_field()", .int32 42, outerInt32 B a⟩]

/-- Copies of the nested struct share nothing with the struct they come from or go to. -/
def copyOut : Action σ (List Check) := do
  let a ← B.newOuter
  B.setOuterInt32 a 42
  let copy ← B.outerInner a
  let copied ← runProbes tier (copyProbes B a copy)
  let other ← B.newInner
  B.setInnerInt32 other 44
  let stored ← runProbes tier (storedProbes B a other)
  B.dropInner other
  B.dropInner copy
  B.dropOuter a
  return copied ++ stored

/-- A call without result gives the unit value. -/
def unitResult (call : Action σ Unit) : Action σ Value := (fun _ => .unit) <$> call

/-- The functions without result can be called. -/
def voidFunctions : Action σ (List Check) :=
  runProbes tier
    [⟨"void.simple_function", "simple_function()", .unit, unitResult B.simple⟩,
     ⟨"void.function_with_primitive_args", "function_with_primitive_args(3, true)", .unit,
       unitResult (B.primitiveArgs 3 true)⟩,
     ⟨"void.function_with_string_arg", "function_with_string_arg(\"Hello, World!\")", .unit,
       unitResult (B.stringArg "Hello, World!")⟩,
     ⟨"void.function_with_primitive_and_string_arg",
       "function_with_primitive_and_string_arg(42, false, \"Complex function!\")", .unit,
       unitResult (B.primitiveAndStringArg 42 false "Complex function!")⟩]

/-- The fixed results are what they should be. -/
def fixedReturns : Action σ (List Check) :=
  runProbes tier
    [⟨"returns.primitive", "function_return_primitive()", .int32 Reference.fixedInt32,
       .int32 <$> B.returnPrimitive⟩,
     ⟨"returns.string", "function_return_string()", .string Reference.fixedString,
       .string <$> B.returnString⟩]

/-- The probes of one pair of texts, with the flag set and not set. -/
def comboProbes (entry : (String × String) × Nat) : List (Probe σ) :=
  let (str1, str2) := entry.1
  [true, false].map fun b =>
    ⟨"combo." ++ toString entry.2 ++ "." ++ toString b,
      "combo_function(" ++ Text.quote str1 ++ ", " ++ Text.quote str2 ++ ", " ++ toString b ++ ")",
      .string (if b then str1 else str2), .string <$> B.combo str1 str2 b⟩

/-- The flag selects one of two texts, unchanged. -/
def comboSelection : Action σ (List Check) :=
  runProbes tier (comboSamples.zipIdx.flatMap (comboProbes B))

end

/-! ### The run -/

/-- The event at the start of a run. -/
def started (backend : String) (tier : Tier) : Event :=
  ⟨.info, "Running conformance suite", [("backend", .text backend), ("tier", .text tier.name)]⟩

/-- The event at the end of a run. -/
def finished (r : Report) : Event :=
  ⟨.info, "Conformance suite finished",
    [("backend", .text r.backend), ("total", .int r.total), ("failed", .int r.failed)]⟩

/-- The groups of the suite, in order. -/
def groups {σ ω ι : Type} (B : Boundary σ ω ι) (tier : Tier) : List (Action σ (List Check)) :=
  [defaults B tier, int32RoundTrip B tier, stringRoundTrip B tier, copyOut B tier,
   voidFunctions B tier, fixedReturns B tier, comboSelection B tier]

/-- Runs groups in order and joins their checks. -/
def runGroups {σ : Type} : List (Action σ (List Check)) → Action σ (List Check)
  | [] => pure []
  | group :: rest => do
    let checks ← group
    let others ← runGroups rest
    return checks ++ others

/-- Runs the whole suite against a boundary. -/
def run {σ ω ι : Type} (B : Boundary σ ω ι) (tier : Tier) : Action σ Report := do
  Action.emit (started B.name tier)
  let checks ← runGroups (groups B tier)
  let report : Report := ⟨B.name, tier, checks⟩
  Action.emit (finished report)
  return report

end BoundaryContract.Suite
