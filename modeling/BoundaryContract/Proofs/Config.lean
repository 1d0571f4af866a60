import BoundaryContract.Proofs.Config.Overlay
import BoundaryContract.Command.Config

/-!
# Configuration texts

Written as JSON or YAML, a configuration is a document that asks for exactly this configuration
(`gives_toJson`), so both readers give it back (`ofText_toText`), whatever its strings are and
whether the text still has its last line break or not.
-/

namespace BoundaryContract.Config

/-! ### The document of a configuration -/

/-- The section on the suite gives back its settings. -/
theorem gives_suite (s : SuiteSettings) (c : Config) :
    suiteSection.Gives
      (.mapping [("backend", .text s.backend.name), ("tier", .text s.tier.name)]) c
      { c with suite := s } := by
  have hbackend := gives_named backendName_injective (fun b c => { c with suite.backend := b })
    (show s.backend ∈ Backend.all by cases s.backend <;> decide)
  have htier := gives_named tierName_injective (fun t c => { c with suite.tier := t })
    (show s.tier ∈ Tier.all by cases s.tier <;> decide)
  refine .mapping (.known (by decide) (by decide) (Section.sets_of_gives rfl hbackend c) ?_)
  exact .known (by decide) (by decide) (Section.sets_of_gives rfl htier _) .nil

/-- The section on the output gives back its settings. -/
theorem gives_output (s : OutputSettings) (c : Config) :
    outputSection.Gives (.mapping [("format", .text s.format.name), ("color", .flag s.color)]) c
      { c with output := s } := by
  have hformat := gives_named formatName_injective (fun f c => { c with output.format := f })
    (show s.format ∈ Format.all by cases s.format <;> decide)
  refine .mapping (.known (by decide) (by decide) (Section.sets_of_gives rfl hformat c) ?_)
  exact .known (by decide) (by decide) (Section.sets_of_gives rfl (.flag _ s.color) _) .nil

/-- The section on the log gives back its settings, those left open too. -/
theorem gives_logging (s : LoggingSettings) (c : Config) :
    loggingSection.Gives (.mapping [("level", .ofOption s.level), ("format", .ofOption s.format),
      ("thread_ids", .flag s.threadIds)]) c { c with logging := s } := by
  have hlevel := gives_ofOption (fun s c => { c with logging.level := s }) s.level
  have hformat := gives_ofOption (fun s c => { c with logging.format := s }) s.format
  refine .mapping (.known (by decide) (by decide) (Section.sets_of_gives rfl hlevel c) ?_)
  refine .known (by decide) (by decide) (Section.sets_of_gives rfl hformat _) ?_
  exact .known (by decide) (by decide) (Section.sets_of_gives rfl (.flag _ s.threadIds) _) .nil

theorem ofJson_textOrNull (s : Option String) : Content.ofJson (textOrNull s) = .ofOption s := by
  cases s <;> rfl

/-- The document of a configuration asks for it: every name in it is known, and every setting is
given once. -/
theorem gives_toJson (c : Config) : shape.Gives (.ofJson c.toJson) {} c := by
  simp only [toJson, Content.ofJson, Content.ofEntries, ofJson_textOrNull]
  refine .mapping (.known (by decide) (by decide) ⟨suiteSection, rfl, gives_suite c.suite _⟩ ?_)
  refine .known (by decide) (by decide) ⟨outputSection, rfl, gives_output c.output _⟩ ?_
  exact .known (by decide) (by decide) ⟨loggingSection, rfl, gives_logging c.logging _⟩ .nil

/-! ### JSON text -/

/-- A configuration is written without doubles. -/
theorem integral_toJson (c : Config) : c.toJson.Integral := by
  have htext (s : Option String) : (textOrNull s).Integral := by
    cases s <;> rw [textOrNull, Json.Integral] <;> trivial
  simp only [toJson, Json.Integral, Json.IntegralEntries, htext, and_self]

/-- The JSON text of a configuration is read back, with blanks after it or not. -/
theorem ofJsonText_append (c : Config) {blanks : List Char} (h : Json.Blanks blanks) :
    ofJsonText (String.ofList (c.toJsonText.toList ++ blanks)) = .ok c := by
  rw [ofJsonText, toJsonText, Json.pretty_eq, String.toList_ofList]
  exact Json.readShape_of_gives c.gives_toJson
    (Json.Layout.pretty.isDocument_append c.integral_toJson h)

/-! ### YAML text -/

/-- The names that a configuration is written with. -/
def names : List String :=
  ["suite", "backend", "tier", "output", "format", "color", "logging", "level", "thread_ids"]

/-- All names can stand plainly. -/
theorem plain_names : ∀ name ∈ names, Yaml.isSimpleKey name ∧ Yaml.Style.choose name = .plain := by
  decide

/-- The document of a configuration is an outline. -/
theorem isOutline_toJson (c : Config) : Yaml.IsOutline (Yaml.ofJson c.toJson) := by
  have htext (s : Option String) : Yaml.IsOutline (Yaml.ofJson (textOrNull s)) := by
    cases s with
    | none => exact ⟨by decide, by decide⟩
    | some s => trivial
  have hflag (b : Bool) : Yaml.IsOutline (.plain (if b then "true" else "false")) := by
    cases b <;> exact ⟨by decide, by decide⟩
  have hentry (name : String) (hname : name ∈ names) {value : Yaml} {rest : List (String × Yaml)}
      (hvalue : Yaml.IsOutline value) (hrest : Yaml.AreOutlines rest) :
      Yaml.AreOutlines ((name, value) :: rest) :=
    Yaml.areOutlines_cons (plain_names name hname).1 (plain_names name hname).2 hvalue hrest
  have hstring (s : String) : Yaml.IsOutline (.string s) := trivial
  have hsuite := Yaml.isOutline_mapping (List.cons_ne_nil _ _)
    (hentry "backend" (by decide) (hstring c.suite.backend.name)
      (hentry "tier" (by decide) (hstring c.suite.tier.name) Yaml.areOutlines_nil))
  have houtput := Yaml.isOutline_mapping (List.cons_ne_nil _ _)
    (hentry "format" (by decide) (hstring c.output.format.name)
      (hentry "color" (by decide) (hflag c.output.color) Yaml.areOutlines_nil))
  have hlogging := Yaml.isOutline_mapping (List.cons_ne_nil _ _)
    (hentry "level" (by decide) (htext c.logging.level)
      (hentry "format" (by decide) (htext c.logging.format)
        (hentry "thread_ids" (by decide) (hflag c.logging.threadIds) Yaml.areOutlines_nil)))
  exact Yaml.isOutline_mapping (List.cons_ne_nil _ _)
    (hentry "suite" (by decide) hsuite (hentry "output" (by decide) houtput
      (hentry "logging" (by decide) hlogging Yaml.areOutlines_nil)))

/-- The YAML text of a configuration, up to the break at the end of its last line. -/
def yamlLines (c : Config) : List Char := Yaml.nodeChars none .root (Yaml.ofJson c.toJson)

/-- The last setting of the last section is a truth value. -/
theorem exists_ofJson_toJson (c : Config) : ∃ suite output level format word logging,
    Yaml.ofJson c.toJson = .mapping [("suite", suite), ("output", output), ("logging", logging)] ∧
    logging = .mapping [("level", level), ("format", format), ("thread_ids", .plain word)] ∧
    (word = "true" ∨ word = "false") := by
  have hsections : ∃ suite output level format, c.toJson =
      .object [("suite", suite), ("output", output), ("logging", .object [("level", level),
        ("format", format), ("thread_ids", .bool c.logging.threadIds)])] := ⟨_, _, _, _, rfl⟩
  obtain ⟨suite, output, level, format, hjson⟩ := hsections
  refine ⟨Yaml.ofJson suite, Yaml.ofJson output, Yaml.ofJson level, Yaml.ofJson format,
    if c.logging.threadIds then "true" else "false", _, ?_, rfl, by simp⟩
  rw [hjson]
  simp only [Yaml.ofJson, Yaml.ofEntries]

/-- The last setting in the file is a flag, and both flags end in the same letter. -/
theorem getLast?_yamlLines (c : Config) : c.yamlLines.getLast? = some 'e' := by
  obtain ⟨suite, output, level, format, word, logging, hjson, hlogging, hword⟩ :=
    c.exists_ofJson_toJson
  have hsimple (names : List String) (h : ∀ key ∈ names, key ∈ Config.names) :
      ∀ key ∈ names, Yaml.isSimpleKey key := fun key hkey => (plain_names key (h key hkey)).1
  have hsetting : Yaml.nodeChars (some 2) .value (.plain word) <:+
      Yaml.nodeChars (some 0) .value logging := by
    rw [hlogging]
    refine Yaml.suffix_nodeChars_mapping ?_ ?_ 0
    · rfl
    · exact hsimple ["level", "format", "thread_ids"] (by decide)
  have hsection : Yaml.nodeChars (some 0) .value logging <:+ c.yamlLines := by
    rw [yamlLines, hjson]
    refine Yaml.suffix_nodeChars_root ?_ ?_
    · rfl
    · exact hsimple ["suite", "output", "logging"] (by decide)
  obtain ⟨init, hinit⟩ := hsetting.trans hsection
  rw [Yaml.nodeChars_plain] at hinit
  rw [← hinit, List.getLast?_append_of_ne_nil _ (List.cons_ne_nil _ _)]
  obtain rfl | rfl := hword <;> decide

/-- The YAML text of a configuration is read back, whether its last line ends with a break or with
the text. -/
theorem ofYamlText_append (c : Config) {tail : List Char} (htail : tail = [] ∨ tail = ['\n']) :
    ofYamlText (String.ofList (c.yamlLines ++ tail)) = .ok c := by
  have hlast := c.getLast?_yamlLines
  have hfollows : Yaml.Follows c.yamlLines tail 0 [] := by
    obtain rfl | rfl := htail
    · refine .inr ⟨rfl, rfl, fun ch hch => ?_⟩
      obtain rfl := Option.some.inj (hlast.symm.trans hch)
      decide
    · refine .inl ?_
      rw [Yaml.lineStart, hlast]
      decide
  have hprintable : Yaml.AllPrintable tail := by
    obtain rfl | rfl := htail
    · exact .nil
    · exact .cons (by decide) .nil
  obtain ⟨entries, hentries⟩ : ∃ entries, Yaml.ofJson c.toJson = .mapping entries := by
    obtain ⟨suite, output, level, format, word, logging, hjson, -⟩ := c.exists_ofJson_toJson
    exact ⟨_, hjson⟩
  have hdoc := Yaml.isDocument_outline hentries (hentries ▸ c.isOutline_toJson) hprintable
    (hentries ▸ hfollows)
  rw [yamlLines, hentries, ofYamlText]
  exact Yaml.readShape_of_gives c.gives_toJson hdoc

/-! ### Both formats -/

/-- A configuration is an object, so its JSON text ends in a closing brace. -/
theorem getLast?_toJsonText (c : Config) : c.toJsonText.toList.getLast? = some '\x7d' := by
  rw [toJsonText, Json.pretty, String.toList_ofList, toJson, Json.prettyChars]
  exact List.getLast?_concat

/-- The YAML text of a configuration ends in a line break. -/
theorem toList_toYamlText (c : Config) : c.toYamlText.toList = c.yamlLines ++ ['\n'] := by
  have hlast := c.getLast?_yamlLines
  show (String.ofList (c.yamlLines ++ Yaml.lineStart c.yamlLines 0)).toList = _
  rw [String.toList_ofList, Yaml.lineStart, hlast]
  rfl

/-- The text of a configuration is read back. -/
theorem ofText_toText (c : Config) (format : ConfigFormat) :
    ofText format (c.toText format) = .ok c := by
  cases format with
  | json =>
    have hread : ofJsonText (String.ofList (c.toJsonText.toList ++ [])) = .ok c :=
      c.ofJsonText_append (List.forall_mem_nil _)
    rw [List.append_nil, String.ofList_toList] at hread
    rw [ofText, toText, hread]
    rfl
  | yaml =>
    have hread := c.ofYamlText_append (.inr rfl)
    rw [← toList_toYamlText, String.ofList_toList] at hread
    rw [ofText, toText, hread]
    rfl

/-- So is the text without the white space at its end, on a line of its own or not. -/
theorem ofText_trimEnd (c : Config) (format : ConfigFormat) {tail : List Char}
    (htail : tail = [] ∨ tail = ['\n']) :
    ofText format (String.ofList (Text.trimEnd (c.toText format).toList ++ tail)) = .ok c := by
  cases format with
  | json =>
    have htrim : Text.trimEnd c.toJsonText.toList = c.toJsonText.toList := by
      have hlast : ∀ ch ∈ c.toJsonText.toList.getLast?, Text.isSpace ch = false := by
        intro ch hch
        obtain rfl := Option.some.inj (c.getLast?_toJsonText.symm.trans hch)
        decide
      have happend : Text.trimEnd (c.toJsonText.toList ++ []) = c.toJsonText.toList :=
        Text.trimEnd_append (List.forall_mem_nil _) hlast
      rwa [List.append_nil] at happend
    have hblanks : Json.Blanks tail := by
      obtain rfl | rfl := htail <;> simp [Json.Blanks, Json.isBlank]
    rw [toText, htrim, ofText, c.ofJsonText_append hblanks]
    rfl
  | yaml =>
    have hlast : ∀ ch ∈ c.yamlLines.getLast?, Text.isSpace ch = false := by
      intro ch hch
      obtain rfl := Option.some.inj (c.getLast?_yamlLines.symm.trans hch)
      decide
    have hbreak : ∀ ch ∈ ['\n'], Text.isSpace ch := by
      intro ch hch
      obtain rfl := List.mem_singleton.mp hch
      decide
    rw [toText, toList_toYamlText, Text.trimEnd_append hbreak hlast, ofText,
      c.ofYamlText_append htail]
    rfl

end BoundaryContract.Config
