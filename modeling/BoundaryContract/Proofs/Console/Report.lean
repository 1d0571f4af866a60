import BoundaryContract.Proofs.Console.Lossless

/-!
# What a report says

A report counts its checks in several places: for the verdict of a run, in the document for
programs and in the summary for human readers. All of them count the same. Nothing is asked of the
checks, so this holds of a report whose marks have nothing to do with the values beside them too.

`Report.Documents` is what the document of a report tells, of the counts and of every check in
order, and `Report.Narrates` what a text for human readers does. `Report.accounted` puts these
together with the counts and the verdict.
-/

namespace BoundaryContract

namespace Report

variable {r r' : Report} {e : Error}

/-! ### Counts and verdicts -/

theorem passed_add_failed (r : Report) : r.passed + r.failed = r.total := by
  have hle : r.passed ≤ r.total := List.countP_le_length
  exact Nat.add_sub_of_le hle

theorem mem_failures_iff {c : Check} : c ∈ r.failures ↔ c ∈ r.checks ∧ c.passed = false := by
  rw [failures, List.mem_filter, Bool.not_eq_true']

/-- There are as many failures as are counted. -/
theorem length_failures (r : Report) : r.failures.length = r.failed := by
  have hsplit : r.total = r.passed + r.checks.countP fun c => decide ¬c.passed = true :=
    List.length_eq_countP_add_countP Check.passed
  have hfailures : r.failures.length = r.checks.countP fun c => decide ¬c.passed = true := by
    rw [failures, ← List.countP_eq_length_filter]
    refine List.countP_congr fun c _ => ?_
    simp
  have hcounts := r.passed_add_failed
  omega

/-- A smoke run is always a success, and an asserted one if nothing failed. -/
theorem isSuccess_iff : r.isSuccess = true ↔ r.tier = .smoke ∨ r.failed = 0 := by
  rw [isSuccess, Bool.or_eq_true, decide_eq_true_iff, decide_eq_true_iff]

/-- A run that is accepted hands over its report as it is. -/
theorem toResult_eq_ok_iff :
    r.toResult = .ok r' ↔ (r.tier = .smoke ∨ r.failed = 0) ∧ r' = r := by
  rw [toResult, ← isSuccess_iff]
  cases r.isSuccess with
  | true => simp [eq_comm]
  | false => simp

/-- Only an asserted run is refused, and then the error has both counts. -/
theorem toResult_eq_error_iff : r.toResult = .error e ↔
    r.tier = .asserted ∧ 0 < r.failed ∧ e = .conformance r.failed r.total := by
  have hsuccess : r.isSuccess = false ↔ r.tier = .asserted ∧ 0 < r.failed := by
    rw [← Bool.not_eq_true, isSuccess_iff]
    cases r.tier <;> simp [Nat.pos_iff_ne_zero]
  rw [toResult, ← and_assoc, ← hsuccess]
  cases r.isSuccess with
  | true => simp
  | false => simp [eq_comm]

end Report

/-! ### Documents -/

/-- The document is a tagged form of the value and of no other, and its text is read as the value
unless it nests too deep. -/
structure Value.WrittenAs (v : Value) (json : Json) : Prop where
  tagged : IsTagged json v
  alone (w : Value) : IsTagged json w → w = v
  reads (L : Json.Layout) : ReadsUnlessDeep (String.ofList (L.chars 0 json)) v

/-- The tagged form of a value, sorted by key, is a document of it alone. -/
theorem Value.writtenAs_sorted (v : Value) : v.WrittenAs v.toTagged.sorted where
  tagged := isTagged_sorted v
  alone _ hw := hw.unique (isTagged_sorted v)
  reads L := (isTagged_sorted v).readsUnlessDeep L

/-- The document tells all of a check. -/
structure Check.Documents (c : Check) (json : Json) : Prop where
  name : json.find? "name" = some (.string c.name)
  call : json.find? "call" = some (.string c.call)
  passed : json.find? "passed" = some (.bool c.passed)
  expected : ∃ x, json.find? "expected" = some x ∧ c.expected.WrittenAs x
  actual : ∃ x, json.find? "actual" = some x ∧ c.actual.WrittenAs x

/-- What is written for a check tells all of it. -/
theorem Check.documents_toJson (c : Check) : c.Documents c.toJson where
  name := rfl
  call := rfl
  passed := rfl
  expected := ⟨_, rfl, c.expected.writtenAs_sorted⟩
  actual := ⟨_, rfl, c.actual.writtenAs_sorted⟩

namespace Report

variable {r : Report}

/-- The document tells the counts and the verdict of a report, and every check in order. -/
structure Documents (r : Report) (json : Json) : Prop where
  backend : json.find? "backend" = some (.string r.backend)
  tier : json.find? "tier" = some (.string r.tier.name)
  total : json.find? "total" = some (.int r.total)
  passed : json.find? "passed" = some (.int r.passed)
  failed : json.find? "failed" = some (.int r.failed)
  success : json.find? "success" = some (.bool (decide (r.tier = .smoke ∨ r.failed = 0)))
  checks : ∃ items, json.find? "checks" = some (.array items) ∧
    List.Forall₂ Check.Documents r.checks items

/-- What is written for a report tells all of it. -/
theorem documents_toJson (r : Report) : r.Documents r.toJson where
  backend := rfl
  tier := rfl
  total := rfl
  passed := rfl
  failed := rfl
  success := by
    have hsuccess : r.isSuccess = decide (r.tier = .smoke ∨ r.failed = 0) := by
      rw [Bool.eq_iff_iff, isSuccess_iff, decide_eq_true_iff]
    rw [← hsuccess]
    rfl
  checks := by
    refine ⟨_, rfl, ?_⟩
    rw [List.forall₂_map_right_iff, List.forall₂_same]
    exact fun c _ => c.documents_toJson

/-! ### Texts for programs -/

theorem fits64_natCast {n : Nat} (h : n < UInt64.size) : Json.Fits64 n := by
  have hmin : Int64.minValue.toInt = -(2 ^ 63 : Int) := by decide
  constructor <;> omega

/-- The documents of checks hold no doubles, since tagged forms hold none. -/
theorem integralItems_checks (checks : List Check) :
    Json.IntegralItems (checks.map Check.toJson) := by
  induction checks with
  | nil => exact trivial
  | cons c rest ih =>
    have hexpected := (Value.isTagged_sorted c.expected).integral
    have hactual := (Value.isTagged_sorted c.actual).integral
    exact ⟨⟨hactual, trivial, hexpected, trivial, trivial, trivial⟩, ih⟩

/-- The counts of a report are numbers that can be printed and read. -/
theorem integral_toJson (h : r.total < UInt64.size) : r.toJson.Integral := by
  have hcounts := r.passed_add_failed
  have hpassed : Json.Fits64 r.passed := fits64_natCast (by omega)
  have hfailed : Json.Fits64 r.failed := fits64_natCast (by omega)
  exact ⟨trivial, integralItems_checks r.checks, hfailed, hpassed, trivial, trivial,
    fits64_natCast h, trivial⟩

theorem sorted_check (c : Check) : c.toJson.sorted = c.toJson := by
  have hkeys : ["actual", "call", "expected", "name", "passed"].Pairwise (· < ·) := by decide
  refine Json.sorted_object hkeys ?_
  simp only [Json.sortedEntries, Json.sorted, Value.sorted_sorted_toTagged]

theorem sortedItems_checks (checks : List Check) :
    Json.sortedItems (checks.map Check.toJson) = checks.map Check.toJson := by
  induction checks with
  | nil => rfl
  | cons c rest ih => rw [List.map_cons, Json.sortedItems, sorted_check, ih]

/-- The document of a report has its entries in order already. -/
theorem sorted_toJson (r : Report) : r.toJson.sorted = r.toJson := by
  have hkeys :
      ["backend", "checks", "failed", "passed", "success", "tier", "total"].Pairwise (· < ·) := by
    decide
  refine Json.sorted_object hkeys ?_
  simp only [Json.sortedEntries, Json.sorted, Json.int, sortedItems_checks]

/-- The text of an object ends in a brace. -/
theorem getLast?_chars_object (L : Json.Layout) (d : Nat) (entries : List (String × Json)) :
    (L.chars d (.object entries)).getLast? = some '\x7d' := by
  cases entries with
  | nil => rfl
  | cons entry rest =>
    rw [Json.Layout.chars]
    exact List.getLast?_concat

/-- In a format that writes JSON text, a report is the text of its document and a line break. -/
theorem report_of_layout (L : Json.Layout) {c : Console} (hc : c.format ≠ .human)
    (hrender : ∀ doc, c.format.render doc = String.ofList (L.chars 0 doc.json))
    (failuresOnly : Bool) :
    c.report r failuresOnly = String.ofList (L.chars 0 r.toJson ++ ['\n']) := by
  have hlast : (String.ofList (L.chars 0 r.toJson)).toList.getLast? = some '\x7d' := by
    rw [String.toList_ofList]
    exact getLast?_chars_object L 0 _
  rw [Console.report_of_ne_human hc, Console.document, hrender, String.ofList_append]
  exact c.finish_of_getLast? hlast (by decide)

theorem blanks_feed : Json.Blanks ['\n'] := by
  intro ch hch
  rw [List.mem_singleton.mp hch]
  rfl

/-- The text is read back as the document, if its brackets nest no deeper than a reader follows. -/
theorem read_of_layout (L : Json.Layout) (hsize : r.total < UInt64.size) {text : String}
    (htext : text = String.ofList (L.chars 0 r.toJson ++ ['\n']))
    (hdeep : Json.nesting text ≤ Json.maxDepth) : Json.read text = .ok r.toJson := by
  have hintegral := integral_toJson hsize
  have hnesting : Json.nesting text = r.toJson.depth := by
    have hfeed : Json.nestingFrom 0 false ['\n'] = 0 := by decide
    rw [htext, Json.nesting, String.toList_ofList, Json.nestingFrom_chars L _ 0 0 _ hintegral,
      hfeed]
    omega
  rw [hnesting] at hdeep
  rw [htext, Json.read,
    L.decodeText_append hintegral blanks_feed fun tree htree => htree.toJson hdeep, sorted_toJson]

/-- What a report says in JSON is read as its document. -/
theorem read_report {c : Console} (hformat : c.format = .json ∨ c.format = .jsonPretty)
    (hsize : r.total < UInt64.size) {failuresOnly : Bool}
    (hdeep : Json.nesting (c.report r failuresOnly) ≤ Json.maxDepth) :
    Json.read (c.report r failuresOnly) = .ok r.toJson := by
  obtain ⟨L, hc, hrender⟩ : ∃ L : Json.Layout, c.format ≠ .human ∧
      ∀ doc, c.format.render doc = String.ofList (L.chars 0 doc.json) := by
    obtain hformat | hformat := hformat
    · rw [hformat]
      exact ⟨.compact, Format.noConfusion, fun doc => Json.compact_eq doc.json⟩
    · rw [hformat]
      exact ⟨.pretty, Format.noConfusion, fun doc => Json.pretty_eq doc.json⟩
  exact read_of_layout L hsize (report_of_layout L hc hrender failuresOnly) hdeep

/-- A document that ends in a number is like no other up to its last string. -/
theorem eq_of_alikeToEnd {entries : List (String × Json)} {key : String} {n : JsonNumber}
    {json : Json} (h : Json.AlikeToEnd json (.object (entries ++ [(key, .number n)]))) :
    json = .object (entries ++ [(key, .number n)]) := by
  generalize hobject : Json.object (entries ++ [(key, .number n)]) = object at h
  cases h with
  | refl => rfl
  | string h => cases hobject
  | item items h => cases hobject
  | entry before key' h =>
    obtain ⟨-, hlast⟩ := List.append_inj' (Json.object.inj hobject) rfl
    cases hlast
    cases h
    rfl

/-- No other document is written as the text of a report. -/
theorem eq_toJson_of_document {c : Console} (hc : c.format ≠ .human)
    (hsize : r.total < UInt64.size) {failuresOnly : Bool} {json : Json} (h : json.Integral)
    (hsame : c.document (.ofJson json) = c.report r failuresOnly) : json = r.toJson := by
  have hintegral := integral_toJson hsize
  have hsay : c.say (.data (.ofJson json)) = c.say (.data (.ofJson r.toJson)) :=
    hsame.trans (Console.report_of_ne_human hc r failuresOnly)
  cases hformat : c.format with
  | human => exact absurd hformat hc
  | json =>
    refine ((Console.tellsApart_of_layout .compact Format.noConfusion fun doc => ?_).json hformat h
      hintegral).mp hsay
    rw [Format.render, Json.compact_eq, String.toList_ofList]
  | jsonPretty =>
    refine ((Console.tellsApart_of_layout .pretty Format.noConfusion fun doc => ?_).json hformat h
      hintegral).mp hsay
    rw [Format.render, Json.pretty_eq, String.toList_ofList]
  | yaml =>
    -- what may differ is the end of a last string, and the last entry here is a number
    have halike := (Console.tellsApart_yaml.json hformat h hintegral).mp hsay
    obtain ⟨entries, hlast⟩ :
        ∃ entries, r.toJson = .object (entries ++ [("total", .int r.total)]) :=
      ⟨[_, _, _, _, _, _], rfl⟩
    rw [hlast] at halike ⊢
    exact eq_of_alikeToEnd halike

end Report

/-! ### Texts for human readers -/

/-- So many blanks. -/
def blanks (k : Nat) : String := String.ofList (List.replicate k ' ')

/-- The entry of a check: a mark, the name filled up with blanks, the call and what it gave, and
where the check did not pass what was expected of it. -/
structure Check.EnteredAs (c : Check) (entry : String) : Prop where
  passed : c.passed = true → ∃ k, entry =
    "  ✓ " ++ (c.name ++ blanks k) ++ "  " ++ c.call ++ " = " ++ c.actual.display ++ "\n"
  failed : c.passed = false → ∃ k, entry =
    "  ✗ " ++ (c.name ++ blanks k) ++ "  " ++ c.call ++ " expected " ++ c.expected.display ++
      ", got " ++ c.actual.display ++ "\n"

/-- The line of a check is an entry of it, in any width. -/
theorem Check.enteredAs_checkLine (width : Nat) (c : Check) :
    c.EnteredAs (Report.checkLine width c) where
  passed h := by
    rw [Report.checkLine, if_pos h]
    exact ⟨_, rfl⟩
  failed h := by
    rw [Report.checkLine, if_neg (by rw [h]; exact Bool.false_ne_true)]
    exact ⟨_, rfl⟩

/-- How the summary of a report is marked. -/
inductive Mark
  | success
  | warning
  | error
deriving DecidableEq

/-- The line of a summary under a mark, in the color of the mark or with a word for it. -/
def Mark.line (color : Bool) (summary : String) : Mark → String
  | .success => (if color then Text.paint .green ("✓ " ++ summary) else "✓ " ++ summary) ++ "\n"
  | .warning =>
    (if color then Text.paint .yellow ("⚠ " ++ summary) else "WARNING: ⚠ " ++ summary) ++ "\n"
  | .error =>
    (if color then Text.paint .red ("✗ " ++ summary) else "ERROR: ✗ " ++ summary) ++ "\n"

namespace Report

variable {r : Report} {c : Console}

/-- The mark that a report deserves. -/
def mark (r : Report) : Mark :=
  if r.failed = 0 then .success
  else
    match r.tier with
    | .smoke => .warning
    | .asserted => .error

theorem mark_of_smoke (h : r.failed ≠ 0) (htier : r.tier = .smoke) : r.mark = .warning := by
  rw [mark, if_neg h, htier]

theorem mark_of_asserted (h : r.failed ≠ 0) (htier : r.tier = .asserted) : r.mark = .error := by
  rw [mark, if_neg h, htier]

/-- Only the good news about a report is left out, and that only on a quiet console. -/
theorem verdict_eq (hc : c.format = .human) (r : Report) :
    c.verdict r = if r.failed = 0 ∧ c.quiet = true then "" else r.mark.line c.color r.summary := by
  have hmessage : ∀ colored plain : String,
      c.message colored plain = (if c.color then colored else plain) ++ "\n" :=
    fun _ _ => if_pos hc
  by_cases h : r.failed = 0
  · have hmark : r.mark = .success := if_pos h
    rw [Console.verdict, if_pos h, Console.success, Console.quietable, hmessage, hmark]
    by_cases hquiet : c.quiet = true
    · rw [if_pos hquiet, if_pos ⟨h, hquiet⟩]
    · have hloud : ¬(r.failed = 0 ∧ c.quiet = true) := fun hboth => hquiet hboth.2
      rw [if_neg hquiet, if_neg hloud]
      rfl
  · have hloud : ¬(r.failed = 0 ∧ c.quiet = true) := fun hboth => h hboth.1
    rw [Console.verdict, if_neg h, if_neg hloud]
    cases htier : r.tier with
    | smoke =>
      rw [if_pos (isSuccess_iff.mpr (.inl htier)), mark_of_smoke h htier, Console.warning, hmessage]
      rfl
    | asserted =>
      have hfailed : ¬r.isSuccess = true := by
        rw [isSuccess_iff, htier]
        rintro (hsmoke | hnone)
        · cases hsmoke
        · exact h hnone
      rw [if_neg hfailed, mark_of_asserted h htier, Console.error, hmessage]
      rfl

/-- For human readers a report is a header, a line for each check and the verdict. -/
theorem report_human (hc : c.format = .human) (failuresOnly : Bool) :
    c.report r failuresOnly =
      "═══ Conformance: " ++ r.backend ++ " (" ++ r.tier.name ++ ") ═══" ++ "\n" ++ "\n" ++
        String.join ((if failuresOnly then r.failures else r.checks).map (checkLine r.nameWidth)) ++
        "\n" ++ c.verdict r := by
  have hbreak : (r.listing failuresOnly).toList.getLast? = some '\n' := by
    rw [listing, Console.line, String.toList_append, String.toList_append, List.getLast?_append]
    rfl
  have hfinish : c.finish (r.listing failuresOnly) = r.listing failuresOnly := if_pos ⟨hc, hbreak⟩
  rw [Console.report.eq_def, hc]
  dsimp only
  rw [hfinish]
  rfl

theorem summary_eq (r : Report) : r.summary =
    toString r.passed ++ "/" ++ toString r.total ++ " checks passed (" ++ r.backend ++
      " backend, " ++ r.tier.name ++ " tier)" := by
  rw [summary]
  rfl

/-- The text has an entry for every check that is printed, in order, and ends in the summary, which
is left out only if nothing failed and the console is quiet. -/
def Narrates (r : Report) (c : Console) (failuresOnly : Bool) (text : String) : Prop :=
  ∃ entries, List.Forall₂ Check.EnteredAs (if failuresOnly then r.failures else r.checks) entries ∧
    text = "═══ Conformance: " ++ r.backend ++ " (" ++ r.tier.name ++ ") ═══" ++ "\n" ++ "\n" ++
      String.join entries ++ "\n" ++
        if r.failed = 0 ∧ c.quiet = true then "" else r.mark.line c.color r.summary

/-- What a report says to human readers is its listing. -/
theorem narrates_report (r : Report) (hc : c.format = .human) (failuresOnly : Bool) :
    r.Narrates c failuresOnly (c.report r failuresOnly) := by
  refine ⟨_, ?_, (report_human hc failuresOnly).trans (by rw [verdict_eq hc])⟩
  rw [List.forall₂_map_right_iff, List.forall₂_same]
  exact fun check _ => check.enteredAs_checkLine r.nameWidth

/-! ### All of a report -/

/-- Whatever a report says, it says of the same checks. -/
structure Accounted (r : Report) : Prop where
  total : r.total = r.checks.length
  counts : r.passed + r.failed = r.total
  /-- The failures are the checks that did not pass, in order, and as many as are counted. -/
  failures : r.failures.Sublist r.checks ∧
    (∀ c, c ∈ r.failures ↔ c ∈ r.checks ∧ c.passed = false) ∧ r.failures.length = r.failed
  /-- A run is accepted with its report, except an asserted one with failures. -/
  accepted (r' : Report) : r.toResult = .ok r' ↔ (r.tier = .smoke ∨ r.failed = 0) ∧ r' = r
  refused (e : Error) : r.toResult = .error e ↔
    r.tier = .asserted ∧ 0 < r.failed ∧ e = .conformance r.failed r.total
  document : r.Documents r.toJson
  /-- In a format for programs the text is that of the document. -/
  published (c : Console) (failuresOnly : Bool) : c.format ≠ .human →
    c.report r failuresOnly = c.document (.ofJson r.toJson)
  /-- It is the text of no other document, as long as the checks can be counted in 64 bits. -/
  alone (c : Console) (failuresOnly : Bool) (json : Json) : c.format ≠ .human →
    r.total < UInt64.size → json.Integral →
    c.document (.ofJson json) = c.report r failuresOnly → json = r.toJson
  /-- In the JSON formats it is read back, if it nests no deeper than a reader follows. -/
  read (c : Console) (failuresOnly : Bool) : c.format = .json ∨ c.format = .jsonPretty →
    r.total < UInt64.size → Json.nesting (c.report r failuresOnly) ≤ Json.maxDepth →
    Json.read (c.report r failuresOnly) = .ok r.toJson
  /-- In the format for human readers the text lists the checks and ends in the summary. -/
  human (c : Console) (failuresOnly : Bool) : c.format = .human →
    r.Narrates c failuresOnly (c.report r failuresOnly)
  summary : r.summary = toString r.passed ++ "/" ++ toString r.total ++ " checks passed (" ++
    r.backend ++ " backend, " ++ r.tier.name ++ " tier)"
  /-- The summary is marked as the run is judged. -/
  mark : (r.failed = 0 → r.mark = .success) ∧
    (r.failed ≠ 0 → r.tier = .smoke → r.mark = .warning) ∧
    (r.failed ≠ 0 → r.tier = .asserted → r.mark = .error)

/-- A report counts the same checks in its verdict, in its document and in its summary. -/
theorem accounted (r : Report) : r.Accounted where
  total := rfl
  counts := r.passed_add_failed
  failures := ⟨List.filter_sublist, fun _ => mem_failures_iff, r.length_failures⟩
  accepted _ := toResult_eq_ok_iff
  refused _ := toResult_eq_error_iff
  document := r.documents_toJson
  published _ failuresOnly hc := Console.report_of_ne_human hc r failuresOnly
  alone _ _ _ hc hsize h hsame := eq_toJson_of_document hc hsize h hsame
  read _ _ hformat hsize hdeep := read_report hformat hsize hdeep
  human _ failuresOnly hc := r.narrates_report hc failuresOnly
  summary := r.summary_eq
  mark := ⟨fun h => if_pos h, mark_of_smoke, mark_of_asserted⟩

end Report

end BoundaryContract
