import BoundaryContract.Proofs.Config.File

/-!
# Partial configuration files

A file whose document gives only some of the settings is read as the configuration that has these
and the default settings otherwise. It does not matter in which order they are given, what other
names there are, and whether it is JSON or YAML (`ofFile_overlays`); a section or a setting that is
given twice is an error. Documents are well formed for more than is read from them: in YAML a name
can be a list, and in JSON half of a surrogate pair, and a file with such a name is refused although
the name is none of the known ones (`unusual_contents_refused`).
-/

namespace BoundaryContract.Config

variable {doc : Content} {files : FileSystem} {path text : String} {format : ConfigFormat}

/-- A text is a document of a content. -/
def IsDocument (text : String) (doc : Content) : ConfigFormat → Prop
  | .json => Json.IsDocument text doc
  | .yaml => Yaml.IsDocument text doc

/-- A path of a document format has a file with a document of a content. -/
def HasDocument (files : FileSystem) (path : String) (doc : Content) : Prop :=
  ∃ format text, formatOf path = .ok format ∧ files.find? path = some (.file text.toUTF8) ∧
    IsDocument text doc format

/-- A document gives a section twice, or gives a setting twice in a section. -/
def RepeatsKey (doc : Content) : Prop :=
  ∃ entries, doc = .mapping entries ∧ ∃ key : Key,
    2 ≤ (entries.map Prod.fst).count key.sectionName ∨
    ∃ settings, (key.sectionName, .mapping settings) ∈ entries ∧
      2 ≤ (settings.map Prod.fst).count key.name

/-- A repeated key is a repeated name of the shape. -/
theorem RepeatsKey.repeats (h : RepeatsKey doc) : shape.Repeats doc := by
  obtain ⟨entries, rfl, key, hcount | ⟨settings, hmem, hcount⟩⟩ := h
  · have hname := mem_map_of_lookup key.lookup_sectionName
    exact ⟨entries, rfl, .inl ⟨_, hname, hcount⟩⟩
  · obtain ⟨setting, change, hsetting, -⟩ := exists_change key {}
    have hname := mem_map_of_lookup hsetting
    exact ⟨entries, rfl, .inr ⟨_, _, settings, key.lookup_sectionName, hmem, _, hname, hcount⟩⟩

/-- A document that gives settings is read as them, in either format. -/
theorem ofText_of_gives {c : Config} (h : shape.Gives doc {} c)
    (hdoc : IsDocument text doc format) : ofText format text = .ok c := by
  cases format with
  | json =>
    rw [ofText, ofJsonText, Json.readShape_of_gives h hdoc]
    rfl
  | yaml =>
    rw [ofText, ofYamlText, Yaml.readShape_of_gives h hdoc]
    rfl

/-- A document that is read repeats no name. -/
theorem not_repeats_of_ofText {c : Config} (hdoc : IsDocument text doc format)
    (h : ofText format text = .ok c) : ¬ shape.Repeats doc := by
  cases format with
  | json =>
    cases hread : ofJsonText text with
    | error e => simp [ofText, hread, Except.mapError] at h
    | ok c => exact Json.not_repeats_of_readShape hdoc hread
  | yaml =>
    cases hread : ofYamlText text with
    | error e => simp [ofText, hread, Except.mapError] at h
    | ok c => exact Yaml.not_repeats_of_readShape hdoc hread

/-- The document of a file decides what is read. If it is partial, there is exactly one
configuration that it lays over the default settings, and this is read. If a known name is repeated,
nothing is. -/
theorem ofFile_overlays (doc : Content) :
    (IsPartial doc → ∃ c, (∀ c', Overlays doc c' ↔ c' = c) ∧
      ∀ files path, HasDocument files path doc → ofFile files path = .ok c) ∧
    (RepeatsKey doc → ∀ files path, HasDocument files path doc →
      ∃ e, ofFile files path = .error e) := by
  refine ⟨fun hpartial => ?_, fun hrepeats files path ⟨format, text, hformat, hfile, hdoc⟩ => ?_⟩
  · obtain ⟨c, hgives, hoverlays⟩ := exists_gives hpartial
    refine ⟨c, fun c' => ⟨fun h => h.unique hoverlays, fun h => h ▸ hoverlays⟩, ?_⟩
    rintro files path ⟨format, text, hformat, hfile, hdoc⟩
    rw [ofFile_of_find? hformat hfile]
    exact ofText_of_gives hgives hdoc
  · rw [ofFile_of_find? hformat hfile]
    cases hread : ofText format text with
    | error e => exact ⟨e, rfl⟩
    | ok c => exact absurd hrepeats.repeats (not_repeats_of_ofText hdoc hread)

/-- The same document in two formats, with names that are not known, and one that repeats a name. -/
theorem ofFile_unordered :
    let json : Json :=
      .object [("x", .null), ("logging", .object [("y", .bool true), ("level", .string "null")])]
    let twice : Json := .object [("suite", .object []), ("suite", .object [])]
    let files : FileSystem := ⟨[("c.json", .file json.compact.toUTF8),
      ("c.yml", .file "x: null\nlogging:\n  y: true\n  level: 'null'\n".toUTF8),
      ("twice.json", .file twice.compact.toUTF8)], []⟩
    ofFile files "c.json" = .ok { logging := { level := some "null" } } ∧
      ofFile files "c.yml" = .ok { logging := { level := some "null" } } ∧
      ∃ e, ofFile files "twice.json" = .error e := by
  intro json twice files
  have hpartial : IsPartial (.ofJson json) := by
    refine ⟨_, rfl, fun key => ⟨by cases key <;> decide, fun value hmem => ?_⟩⟩
    have hvalue : value = .mapping [("y", .flag true), ("level", .text "null")] := by
      cases key <;> simp [Key.sectionName, Content.ofEntries, Content.ofJson] at hmem
      all_goals exact hmem
    refine ⟨_, hvalue, fun key _ => ⟨by cases key <;> decide, fun value hmem => ?_⟩⟩
    have hlevel : value = .text "null" ∧ key = .level := by
      cases key <;> simp [Key.name] at hmem
      exact ⟨hmem, rfl⟩
    exact ⟨{ logging := { level := some "null" } }, by rw [hlevel.1, hlevel.2]; rfl⟩
  have hrepeats : RepeatsKey (.ofJson twice) := ⟨_, rfl, .backend, .inl (by decide)⟩
  have hjson : HasDocument files "c.json" (.ofJson json) :=
    ⟨.json, json.compact, rfl, rfl, Json.isDocument_compact
      (by simp [json, Json.Integral, Json.IntegralEntries])⟩
  have htwice : HasDocument files "twice.json" (.ofJson twice) :=
    ⟨.json, twice.compact, rfl, rfl, Json.isDocument_compact
      (by simp [twice, Json.Integral, Json.IntegralEntries])⟩
  have hyaml : HasDocument files "c.yml" (.ofJson json) := by
    have htext : Yaml.nodeChars none .root (Yaml.ofJson json) =
        "x: null\nlogging:\n  y: true\n  level: 'null'".toList := by
      simp only [json, Yaml.ofJson, Yaml.ofEntries, Yaml.nodeChars, Yaml.entryChars,
        Yaml.entriesChars]
      decide +kernel
    have houtline : Yaml.IsOutline (Yaml.ofJson json) := by
      have hlogging : Yaml.AreOutlines [("y", .plain "true"), ("level", .string "null")] :=
        Yaml.areOutlines_cons (by decide) (by decide) ⟨by decide, by decide⟩
          (Yaml.areOutlines_cons (by decide) (by decide) trivial Yaml.areOutlines_nil)
      refine Yaml.isOutline_mapping (List.cons_ne_nil _ _) ?_
      refine Yaml.areOutlines_cons (by decide) (by decide) ⟨by decide, by decide⟩ ?_
      exact Yaml.areOutlines_cons (by decide) (by decide)
        (Yaml.isOutline_mapping (List.cons_ne_nil _ _) hlogging) Yaml.areOutlines_nil
    have hfollows : Yaml.Follows (Yaml.nodeChars none .root (Yaml.ofJson json)) ['\n'] 0 [] := by
      rw [htext]
      exact .inl (by decide)
    have hdoc : Yaml.IsDocument (String.ofList
        (Yaml.nodeChars none .root (Yaml.ofJson json) ++ ['\n'])) (.ofJson json) :=
      Yaml.isDocument_outline rfl houtline (.cons (by decide) .nil) hfollows
    rw [htext] at hdoc
    exact ⟨.yaml, _, rfl, rfl, hdoc⟩
  obtain ⟨c, hoverlays, hread⟩ := (ofFile_overlays (.ofJson json)).1 hpartial
  -- the configuration is found by what it is laid over the default settings with
  have hc : { logging := { level := some "null" } } = c := by
    refine (hoverlays _).mp fun key => ?_
    cases key <;> rfl
  rw [hc]
  exact ⟨hread files "c.json" hjson, hread files "c.yml" hyaml,
    (ofFile_overlays (.ofJson twice)).2 hrepeats files "twice.json" htwice⟩

/-- Well-formed documents that are refused: a list as the name of an entry, a truth value between
quotes, the empty value under its tag that is not spelled out, and a name with half of a surrogate
pair. -/
theorem unusual_contents_refused :
    (((Yaml.Stream.ofText "[a]: 1\n").root matches
        some (.mapping _ [(.sequence _ [.scalar _ "a" .plain], .scalar _ "1" .plain)])) ∧
      ofFile ⟨[("c.yaml", .file "[a]: 1\n".toUTF8)], []⟩ "c.yaml" ≠ .ok {}) ∧
    ofFile ⟨[("c.yaml", .file "output:\n  color: !!bool \"false\"\n".toUTF8)], []⟩ "c.yaml" ≠
      .ok { output := { color := false } } ∧
    ofFile ⟨[("c.yaml", .file "logging:\n  level: !!null\n".toUTF8)], []⟩ "c.yaml" ≠ .ok {} ∧
    ofFile ⟨[("c.json", .file "\x7b\"\\ud800\": 1\x7d".toUTF8)], []⟩ "c.json" ≠ .ok {} := by
  refine ⟨⟨?_, ?_⟩, ?_, ?_, ?_⟩
  · decide +kernel
  · decide +kernel
  · decide +kernel
  · decide +kernel
  · decide +kernel

end BoundaryContract.Config
