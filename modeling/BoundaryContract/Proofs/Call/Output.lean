import BoundaryContract.Proofs.Boundary.Handles
import BoundaryContract.Proofs.Boundary.Native
import BoundaryContract.Proofs.Call.Literals
import BoundaryContract.Proofs.Console
import BoundaryContract.Proofs.Yaml.Printer
import Mathlib.Data.List.TakeWhile

/-!
# What is written of a call

A call whose literals are accepted succeeds on both backends with the same value, and what is
written of it is the same but for the backend's name (`Alike`). In the JSON formats it is one
document, which tells the function, the arguments, the backend, the kind and the value of the
result, and whose arguments are literals for the same call again (`Documents`). `calls_faithful`
puts this together with the way back from arguments to literals.
-/

namespace BoundaryContract

/-! ### The result on either backend -/

/-- Both backends give the result of the function. -/
theorem Backend.invoke_eq {f : Function} {args : List Value} {v : Value} {es : List Event}
    (hargs : f.signature.checkArgs args = .ok ()) (h : f.result? args = some (v, es))
    (b : Backend) : b.invoke f.signature.name args = .ok v := by
  have hinvoked : invoked f.signature.name args = .ok (v, es) := by
    simp only [invoked, Function.ofName?_name, hargs, h]
  cases b with
  | native => exact (nativeBoundary_serves.invoke_ok (Store.Bears.zero _) hinvoked).2.1
  | ffi =>
    have hempty : Abi.State.Bears 0 Abi.State.empty 0 0 := Abi.State.Owned.zero Abi.State.empty
    exact ((handleBoundary_serves 0 0).invoke_ok hempty hinvoked).2.1

/-- A function of the surface gives a scalar. -/
theorem Function.isScalar_of_result? {f : Function} {args : List Value} {v : Value}
    {es : List Event} (h : f.result? args = some (v, es)) : v.IsScalar := by
  revert h
  fun_cases Function.result? f args
  all_goals
    intro h
    cases h <;> trivial

/-- The result of a function is of the kind that its signature tells. -/
theorem Function.kind_of_result? {f : Function} {args : List Value} {v : Value}
    {es : List Event} (h : f.result? args = some (v, es)) : v.kind = f.signature.returns := by
  revert h
  fun_cases Function.result? f args
  all_goals
    intro h
    cases h <;> rfl

/-- The function that selects gives the selected one of its arguments. -/
theorem Function.selected_of_result? {args : List Value} {v : Value} {es : List Event}
    (h : Function.combo.result? args = some (v, es)) : ∃ str1 str2 flag,
      args = [.string str1, .string str2, .bool flag] ∧
        v = .string (if flag then str1 else str2) := by
  generalize hf : Function.combo = f at h
  revert h
  fun_cases Function.result? f args
  case case13 str1 str2 flag =>
    intro h
    cases h
    exact ⟨str1, str2, flag, rfl, rfl⟩
  all_goals cases hf <;> (intro h; cases h)

/-! ### Texts around a name -/

namespace Console

variable (c : Console)

/-- Finishing a text changes the end only, as long as there is more there than line breaks. -/
theorem oneBreak_append {t : List Char} (h : ∃ ch ∈ t, ch ≠ '\n') :
    ∃ t' : List Char, ∀ s : List Char,
      oneBreak (String.ofList (s ++ t)) = String.ofList (s ++ t') := by
  have hsome : (t.reverse.dropWhile fun ch => decide (ch = '\n')).isEmpty = false := by
    rw [List.isEmpty_eq_false_iff, Ne, List.dropWhile_eq_nil_iff]
    intro hall
    obtain ⟨ch, hch, hne⟩ := h
    exact hne (of_decide_eq_true (hall ch (List.mem_reverse.mpr hch)))
  refine ⟨(t.reverse.dropWhile fun ch => decide (ch = '\n')).reverse ++ ['\n'], fun s => ?_⟩
  rw [oneBreak, String.toList_ofList, List.reverse_append, List.dropWhile_append, hsome, line]
  simp [String.ofList_append, String.append_assoc]

/-- The text of a document for each backend is the same but for the backend's name: what stands
around the name does not depend on the backend. -/
theorem exists_document_around {doc : Backend → Document} {s t : List Char}
    (h : ∀ b, c.format.render (doc b) = String.ofList (s ++ b.name.toList ++ t))
    (ht : ∃ ch ∈ t, ch ≠ '\n') (hlast : c.format = .human → t.getLast? ≠ some '\n') :
    ∃ t' : List Char, ∀ b, c.document (doc b) = String.ofList (s ++ b.name.toList ++ t') := by
  obtain ⟨t', ht'⟩ := oneBreak_append ht
  refine ⟨t', fun b => ?_⟩
  have hne : t ≠ [] := by
    rintro rfl
    obtain ⟨ch, hch, -⟩ := ht
    exact absurd hch List.not_mem_nil
  rw [document, h, finish, if_neg, ht']
  rintro ⟨hhuman, hbreak⟩
  rw [String.toList_ofList, List.getLast?_append_of_ne_nil _ hne] at hbreak
  exact hlast hhuman hbreak

end Console

/-- The name of a backend is written into a JSON string as it is. -/
theorem Backend.escaped_name (b : Backend) :
    b.name.toList.flatMap Json.escapeChar = b.name.toList := by
  cases b <;> decide

namespace Command.Call

variable (s : Signature) (args : List Value) (v : Value)

/-- In a JSON layout the document of a call is a text around the name of the backend, which ends
in a brace. -/
theorem exists_chars_around (L : Json.Layout) : ∃ before after : List Char,
    (∀ b, L.chars 0 (document s args b v) = before ++ b.name.toList ++ after) ∧
      after.getLast? = some '\x7d' := by
  refine ⟨'\x7b' :: L.gap 1 ++ Json.quoteChars "args" ++ ':' :: L.colonGap ++
      L.chars 1 (.array (args.map Value.toJson)) ++ ',' :: L.gap 1 ++ Json.quoteChars "backend" ++
      ':' :: L.colonGap ++ ['"'],
    '"' :: L.entries 1 [("function", .string s.name), ("result", v.toJson),
      ("returns", s.returns.toJson)] ++ L.gap 0 ++ ['\x7d'], fun b => ?_, ?_⟩
  · have hname : Json.quoteChars b.name = '"' :: b.name.toList ++ ['"'] := by
      rw [Json.quoteChars, b.escaped_name]
    simp [document, Json.Layout.chars, Json.Layout.entries, hname]
  · exact List.getLast?_concat

end Command.Call

/-- The entry of a backend in a mapping ends in the name of the backend. -/
theorem Yaml.entryChars_backend (b : Backend) :
    entryChars 0 "backend" (.string b.name) = "backend: ".toList ++ b.name.toList := by
  have hname : Style.choose b.name = .plain := by cases b <;> decide
  rw [entryChars_of_plain (by decide) (by decide), nodeChars_string, stringChars_of_plain hname]
  cases b <;> decide

namespace Command.Call

variable (s : Signature) (args : List Value) (v : Value)

/-- In YAML the document of a call is a text around the name of the backend, which says more after
it. -/
theorem exists_yaml_around : ∃ before after : List Char,
    (∀ b, (Yaml.ofJson (document s args b v)).render =
      String.ofList (before ++ b.name.toList ++ after)) ∧ ∃ ch ∈ after, ch ≠ '\n' := by
  let first := Yaml.entryChars 0 "args" (.sequence (Yaml.ofItems (args.map Value.toJson)))
  let next := Yaml.entryChars 0 "function" (.string s.name)
  let others := next ++ Yaml.entriesChars 0 next
    [("result", Yaml.ofJson v.toJson), ("returns", Yaml.ofJson s.returns.toJson)]
  have hcolon : ':' ∈ next := Yaml.colon_mem_entryChars _ _ _
  have hothers : others ≠ [] := by
    intro hnil
    rw [List.append_eq_nil_iff.mp hnil |>.1] at hcolon
    exact absurd hcolon List.not_mem_nil
  refine ⟨first ++ Yaml.lineStart first 0 ++ "backend: ".toList,
    '\n' :: others ++ Yaml.lineStart others 0, fun b => ?_, ':', ?_, by decide⟩
  · -- the line after the backend begins with a break, since no name of a backend ends in one
    have hline : Yaml.lineStart ("backend: ".toList ++ b.name.toList) 0 = ['\n'] := by
      cases b <;> decide
    have hnode : Yaml.nodeChars none .root (Yaml.ofJson (document s args b v)) =
        first ++ Yaml.lineStart first 0 ++ "backend: ".toList ++ b.name.toList ++
          '\n' :: others := by
      simp only [document, Yaml.ofJson, Yaml.ofEntries, Yaml.nodeChars_root,
        Yaml.entriesChars_cons, Yaml.entryChars_backend, hline]
      simp [first, next, others, Yaml.entriesChars_cons]
    rw [Yaml.render, hnode, List.append_cons, Yaml.lineStart_append hothers]
    simp
  · simp [others, hcolon]

/-! ### The remark and the document together -/

/-- Whether the remark is told. -/
def tellsRemark (c : Console) : Bool := c.format = .human && !c.quiet

/-- What is written of a call that gives `v` on a backend. -/
def told (c : Console) (b : Backend) : String :=
  c.info (remark s args b) ++ c.document (.ofJson (document s args b v))

/-- The outputs for the backends are the same text, in which the name of the backend stands in the
document and, if the remark is told, its title in the remark. -/
def Alike (c : Console) (output : Backend → String) : Prop :=
  ∃ head middle tail : String, ∀ b,
    output b = head ++ (if tellsRemark c then b.title else "") ++ middle ++ b.name ++ tail

/-- What is said besides a result has the name of the backend in one place at most. -/
theorem exists_remark_around (c : Console) : ∃ before after : String, ∀ b,
    c.info (remark s args b) = before ++ (if tellsRemark c then b.title else "") ++ after := by
  by_cases htold : tellsRemark c
  · obtain ⟨hhuman, hloud⟩ : c.format = .human ∧ c.quiet = false := by
      simpa [tellsRemark] using htold
    refine ⟨(if c.color then Text.paint .blue "ℹ" ++ " " else "INFO: ") ++
      (s.name ++ "(" ++ ", ".intercalate (args.map Value.display) ++ ") via "), "\n", fun b => ?_⟩
    rw [if_pos htold, Console.info, Console.quietable, hloud, if_neg Bool.false_ne_true,
      Console.message, if_pos hhuman, Console.line, remark]
    split <;> simp [String.append_assoc]
  · refine ⟨"", "", fun b => ?_⟩
    rw [if_neg htold, Console.info, Console.quietable, Console.message]
    split
    · rfl
    · next hloud =>
      rw [if_neg]
      · rfl
      · intro hhuman
        exact htold (by simp [tellsRemark, hhuman, hloud])

/-- In every format the document of a call is a text around the name of the backend. -/
theorem exists_document_around (c : Console) : ∃ before after : List Char, ∀ b,
    c.document (.ofJson (document s args b v)) =
      String.ofList (before ++ b.name.toList ++ after) := by
  have hjson : ∀ L : Json.Layout,
      (∀ b, c.format.render (.ofJson (document s args b v)) =
        String.ofList (L.chars 0 (document s args b v))) →
      ∃ before after : List Char, ∀ b, c.document (.ofJson (document s args b v)) =
        String.ofList (before ++ b.name.toList ++ after) := by
    intro L hrender
    obtain ⟨before, after, hchars, hlast⟩ := exists_chars_around s args v L
    have hbrace : '\x7d' ∈ after := List.mem_of_getLast? hlast
    obtain ⟨after', hafter⟩ :=
      c.exists_document_around (fun b => (hrender b).trans (by rw [hchars]))
        ⟨_, hbrace, by decide⟩ fun _ hbreak => by
          rw [hlast] at hbreak
          cases hbreak
    exact ⟨before, after', hafter⟩
  cases hformat : c.format with
  | human => exact hjson .pretty fun b => by rw [hformat]; exact Json.pretty_eq _
  | jsonPretty => exact hjson .pretty fun b => by rw [hformat]; exact Json.pretty_eq _
  | json => exact hjson .compact fun b => by rw [hformat]; exact Json.compact_eq _
  | yaml =>
    obtain ⟨before, after, hyaml, hafter⟩ := exists_yaml_around s args v
    have hrender : ∀ b, c.format.render (.ofJson (document s args b v)) =
        String.ofList (before ++ b.name.toList ++ after) := fun b => by
      rw [hformat]
      exact hyaml b
    obtain ⟨after', hdocument⟩ := c.exists_document_around hrender hafter fun hhuman => by
      rw [hformat] at hhuman
      cases hhuman
    exact ⟨before, after', hdocument⟩

/-- Between the backends, what is told differs in the name only. -/
theorem alike_told (c : Console) : Alike c (told s args v c) := by
  obtain ⟨head, middle, hremark⟩ := exists_remark_around s args c
  obtain ⟨before, after, hdocument⟩ := exists_document_around s args v c
  refine ⟨head, middle ++ String.ofList before, String.ofList after, fun b => ?_⟩
  rw [told, hremark, hdocument]
  simp [String.ofList_append, String.append_assoc]

/-! ### The document -/

variable {s args v}

/-- The arguments of a call are written without doubles. -/
theorem integral_items (h : ∀ a ∈ args, a.IsScalar) :
    Json.IntegralItems (args.map Value.toJson) := by
  induction args with
  | nil => trivial
  | cons a args ih =>
    obtain ⟨ha, hargs⟩ := List.forall_mem_cons.mp h
    exact ⟨ha.printable.integral, ih hargs⟩

/-- The arguments of a call have no entries to sort. -/
theorem sorted_items (h : ∀ a ∈ args, a.IsScalar) :
    Json.sortedItems (args.map Value.toJson) = args.map Value.toJson := by
  induction args with
  | nil => rfl
  | cons a args ih =>
    obtain ⟨ha, hargs⟩ := List.forall_mem_cons.mp h
    rw [List.map_cons, Json.sortedItems, ha.printable.sorted, ih hargs]

/-- The arguments of a call have no containers in them. -/
theorem depth_items (h : ∀ a ∈ args, a.IsScalar) :
    Json.depthItems (args.map Value.toJson) = 0 := by
  induction args with
  | nil => rfl
  | cons a args ih =>
    obtain ⟨ha, hargs⟩ := List.forall_mem_cons.mp h
    rw [List.map_cons, Json.depthItems, ha.depth_eq_zero, ih hargs]
    rfl

/-- The document of a call on scalars is read back from its text. -/
theorem printable_document {kind : String} (hargs : ∀ a ∈ args, a.IsScalar) (hv : v.IsScalar)
    (hkind : s.returns.toJson = .string kind) (b : Backend) :
    (document s args b v).Printable := by
  have hkeys :
    ["args", "backend", "function", "result", "returns"].Pairwise (· < ·) := by decide
  rw [document, hkind]
  refine ⟨⟨integral_items hargs, trivial, trivial, hv.printable.integral, trivial, trivial⟩, ?_, ?_⟩
  · rw [Json.sorted, Json.ofEntries, Json.sortEntries_eq_self]
    · simp only [Json.sortedEntries, Json.sorted, sorted_items hargs, hv.printable.sorted]
    · exact hkeys
  · have hdepth : Json.depthEntries [("args", .array (args.map Value.toJson)),
        ("backend", .string b.name), ("function", .string s.name), ("result", v.toJson),
        ("returns", .string kind)] = 1 := by
      simp [Json.depthEntries, Json.depth, depth_items hargs, hv.depth_eq_zero]
    rw [Json.depth, hdepth]
    decide

/-- What a document of a call has to say: the function, the arguments, the backend, the kind of the
result, and a result that is read by this kind as the value. -/
structure Tells (doc : Json) (s : Signature) (args : List Value) (b : Backend) (v : Value) :
    Prop where
  function : doc.find? "function" = some (.string s.name)
  args : doc.find? "args" = some (.array (args.map Value.toJson))
  backend : doc.find? "backend" = some (.string b.name)
  returns : doc.find? "returns" = some s.returns.toJson
  result : ∃ json, doc.find? "result" = some json ∧ Value.ofJson s.returns json = .ok v

/-- The document of a call tells its result and its arguments. -/
theorem tells_document (hv : v.IsScalar) (hkind : v.kind = s.returns) (b : Backend) :
    Tells (document s args b v) s args b v where
  function := rfl
  args := rfl
  backend := rfl
  returns := rfl
  result := ⟨v.toJson, rfl, hkind ▸ hv.ofJson_toJson⟩

/-! ### The whole call -/

/-- The text is a document as it is printed and a line break; the document is read back from it and
tells about the call. -/
def Documents (print : Json → String) (output : String) (s : Signature) (args : List Value)
    (b : Backend) (v : Value) : Prop :=
  ∃ doc, output = print doc ++ "\n" ∧ Json.read (print doc) = .ok doc ∧ Tells doc s args b v

/-- In a JSON format only the document is written of a call. -/
theorem told_of_layout {c : Console} (L : Json.Layout) (hhuman : c.format ≠ .human)
    (hrender : ∀ doc : Document, c.format.render doc = String.ofList (L.chars 0 doc.json))
    (b : Backend) :
    told s args v c b = String.ofList (L.chars 0 (document s args b v)) ++ "\n" := by
  have hinfo : c.info (remark s args b) = "" := by
    rw [Console.info, Console.quietable, Console.message, if_neg hhuman, ite_self]
  obtain ⟨before, after, hchars, hlast⟩ := exists_chars_around s args v L
  have hne : after ≠ [] := by
    rintro rfl
    cases hlast
  have hbrace : (String.ofList (L.chars 0 (document s args b v))).toList.getLast? =
      some '\x7d' := by
    rw [String.toList_ofList, hchars, List.getLast?_append_of_ne_nil _ hne, hlast]
  rw [told, hinfo, String.empty_append, Console.document, hrender]
  exact c.finish_of_getLast? hbrace (by decide)

section

variable {c : Console} (hargs : ∀ a ∈ args, a.IsScalar) (hv : v.IsScalar)
  (hkind : v.kind = s.returns)

include hargs hv hkind

/-- Compact text of a call is that of its document. -/
theorem documents_compact {kind : String} (hreturns : s.returns.toJson = .string kind)
    (hformat : c.format = .json) (b : Backend) :
    Documents Json.compact (told s args v c b) s args b v := by
  refine ⟨document s args b v, ?_, (printable_document hargs hv hreturns b).read_compact,
    tells_document hv hkind b⟩
  rw [told_of_layout .compact (by simp [hformat]) fun doc => ?_, Json.compact_eq]
  rw [hformat]
  exact Json.compact_eq _

/-- Indented text of a call is that of its document. -/
theorem documents_pretty {kind : String} (hreturns : s.returns.toJson = .string kind)
    (hformat : c.format = .jsonPretty) (b : Backend) :
    Documents Json.pretty (told s args v c b) s args b v := by
  refine ⟨document s args b v, ?_, (printable_document hargs hv hreturns b).read_pretty,
    tells_document hv hkind b⟩
  rw [told_of_layout .pretty (by simp [hformat]) fun doc => ?_, Json.pretty_eq]
  rw [hformat]
  exact Json.pretty_eq _

end

/-- The kind of a result is told by its name. -/
theorem exists_returns_toJson (f : Function) :
    ∃ kind, f.signature.returns.toJson = .string kind := by
  cases f <;> exact ⟨_, rfl⟩

/-- A call whose literals stand for arguments with a result tells of this result. -/
theorem run_eq {f : Function} {args : List Value} {literals : List String} {v : Value}
    {es : List Event} (hparse : parseArgs f.signature literals = .ok args)
    (h : f.result? args = some (v, es)) (chosen : Option Backend) (config : Config)
    (console : Console) :
    run ⟨f.signature.name, literals, chosen⟩ config console =
      .done (told f.signature args v console (chosen.getD config.suite.backend)) := by
  have hinvoke : (chosen.getD config.suite.backend).invoke f.signature.name args = .ok v :=
    Backend.invoke_eq (checkArgs_of_parseArgs hparse) h _
  simp only [run, Function.ofName?_name, hparse, Bind.bind, Except.bind, hinvoke]
  rfl

/-- What a call of `f` has to do whose literals stand for `args`: both backends give the value, and
`output` is what is written for a backend, whichever way it is chosen. -/
structure Reports (f : Function) (literals : List String) (args : List Value) (config : Config)
    (console : Console) (v : Value) (output : Backend → String) : Prop where
  invoked (b : Backend) : b.invoke f.signature.name args = .ok v
  done (chosen : Option Backend) : run ⟨f.signature.name, literals, chosen⟩ config console =
    .done (output (chosen.getD config.suite.backend))
  alike : Alike console output
  json (h : console.format = .json) (b : Backend) :
    Documents Json.compact (output b) f.signature args b v
  jsonPretty (h : console.format = .jsonPretty) (b : Backend) :
    Documents Json.pretty (output b) f.signature args b v
  /-- The result of the selecting function is the selected argument. -/
  selected (h : f = .combo) : ∃ str1 str2 flag,
    args = [.string str1, .string str2, .bool flag] ∧ v = .string (if flag then str1 else str2)
  /-- The printed arguments are literals for the same call. -/
  again {printed : List String} (h : List.Forall₂ Renders args printed)
    (chosen : Option Backend) : run ⟨f.signature.name, printed, chosen⟩ config console =
      .done (output (chosen.getD config.suite.backend))

/-- Arguments that were accepted lead to a report of the call. -/
theorem reports_of_parseArgs {f : Function} {args : List Value} {literals : List String}
    (hparse : parseArgs f.signature literals = .ok args) (config : Config) (console : Console) :
    ∃ v output, Reports f literals args config console v output := by
  have hchecked := checkArgs_of_parseArgs hparse
  obtain ⟨⟨v, es⟩, hresult⟩ := Option.isSome_iff_exists.mp (Function.result?_isSome hchecked)
  have hscalars := Signature.isScalar_of_checkArgs hchecked
  have hscalar := Function.isScalar_of_result? hresult
  have hkind := Function.kind_of_result? hresult
  obtain ⟨kind, hreturns⟩ := exists_returns_toJson f
  exact ⟨v, told f.signature args v console,
    { invoked := Backend.invoke_eq hchecked hresult
      done := fun chosen => run_eq hparse hresult chosen config console
      alike := alike_told f.signature args v console
      json := documents_compact hscalars hscalar hkind hreturns
      jsonPretty := documents_pretty hscalars hscalar hkind hreturns
      selected := fun hcombo => Function.selected_of_result? (hcombo ▸ hresult)
      again := fun hprinted chosen =>
        run_eq (parseArgs_rendered hchecked hprinted) hresult chosen config console }⟩

/-- Literals that are accepted are called and reported, and every list of arguments that is accepted
is what its printed forms stand for. -/
structure Faithful (f : Function) (config : Config) (console : Console) : Prop where
  reports {literals : List String} {args : List Value}
    (h : parseArgs f.signature literals = .ok args) :
    ∃ v output, Reports f literals args config console v output
  undone {args : List Value} {literals : List String}
    (hargs : f.signature.checkArgs args = .ok ()) (h : List.Forall₂ Renders args literals) :
    parseArgs f.signature literals = .ok args

/-- Every function of the surface is called and reported faithfully, whatever is configured and
however output is written. -/
theorem calls_faithful (f : Function) (config : Config) (console : Console) :
    Faithful f config console where
  reports := fun h => reports_of_parseArgs h config console
  undone := parseArgs_rendered

end Command.Call

end BoundaryContract
