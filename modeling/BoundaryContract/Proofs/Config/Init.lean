import BoundaryContract.Proofs.Config.File
import BoundaryContract.Proofs.FileSystem.Plain

/-!
# Writing configuration files

At a plain path a configuration is written completely or not at all: the write fails if the path has
no extension of a configuration file or a file cannot be written there, and then nothing has
changed; otherwise the file is there, holds the configuration, and nothing but the directories above
it has changed with it (`store_of_not_hasFormat`, `store_of_refuses`, `exists_store`). A file with
the default settings is written in the same way, except that without force nothing is written where
there is anything (`initConfig_all_or_nothing`).
-/

namespace BoundaryContract.Config

variable {files : FileSystem} {path : String} {args : Command.ConfigInit}

/-- The path has the extension of a configuration file. -/
def HasFormat (path : String) : Prop :=
  ∃ name ∈ extensions, Path.extension? path = some name

/-- A path without a known extension has no format. -/
theorem formatOf_of_not_hasFormat (h : ¬ HasFormat path) :
    formatOf path = .error (.invalidFormat path "YAML or JSON") := by
  have hother : ∀ name ∈ extensions, Path.extension? path ≠ some name :=
    fun name hname hpath => h ⟨name, hname, hpath⟩
  rw [formatOf]
  split
  · next hpath => exact absurd hpath (hother "yaml" (by decide))
  · next hpath => exact absurd hpath (hother "yml" (by decide))
  · next hpath => exact absurd hpath (hother "json" (by decide))
  · rfl

/-! ### Storing a configuration -/

theorem store_of_not_hasFormat (c : Config) (files : FileSystem) (h : ¬ HasFormat path) :
    c.store files path = (.error (.invalidFormat path "YAML or JSON"), files) := by
  rw [store, formatOf_of_not_hasFormat h]

/-- Where the files refuse the path, nothing is stored. -/
theorem store_of_refuses (c : Config) (hplain : Path.IsPlain path) (hformat : HasFormat path)
    (h : files.Refuses path) : ∃ fault, c.store files path = (.error (.io fault), files) := by
  obtain ⟨format, hformat⟩ := exists_formatOf hformat
  obtain ⟨fault, hwrite⟩ := FileSystem.writeText_of_refuses hplain h (c.toText format)
  refine ⟨fault, ?_⟩
  rw [store, hformat]
  simp only [hwrite]

/-- What is stored is read back, and nothing changes but the place of the path and what is above it.
-/
theorem exists_store (c : Config) (hplain : Path.IsPlain path) (hformat : HasFormat path)
    (h : ¬ files.Refuses path) :
    ∃ files' content, c.store files path = (.ok (), files') ∧ files'.directory = files.directory ∧
      (∀ names, files'.at? names = if names = files.place path then some (.file content)
        else if names <+: files.place path then some .directory else files.at? names) ∧
      ofFile files' path = .ok c := by
  obtain ⟨format, hformat⟩ := exists_formatOf hformat
  obtain ⟨files', hwrite, hdirectory, hat⟩ :=
    FileSystem.exists_writeText_of_not_refuses hplain h (c.toText format)
  have hstore : c.store files path = (.ok (), files') := by
    rw [store, hformat]
    simp only [hwrite]
  have hplace : files'.at? (files'.place path) = some (.file (c.toText format).toUTF8) := by
    rw [FileSystem.place_congr hdirectory, hat, if_pos rfl]
  have hfile : files'.find? path = some (.file (c.toText format).toUTF8) := by
    rw [FileSystem.find?_plain hplain]
    exact Entry.find?_of_at?_file hplace
  refine ⟨files', (c.toText format).toUTF8, hstore, hdirectory, hat, ?_⟩
  rw [ofFile_of_find? hformat hfile]
  exact c.ofText_toText format

/-! ### The file with the default settings -/

/-- Without force nothing is written where there is anything. -/
theorem initConfig_of_contains (console : Console) (hpath : args.path.getD projectYaml = path)
    (hforce : args.force = false) (h : files.contains path = true) :
    Command.initConfig args files console =
      (.fail (.config (path ++ " already exists; use --force to overwrite")), files) := by
  rw [Command.initConfig, hpath, h, hforce]
  rfl

/-- Unless a file is in the way, the command does what storing the defaults does. -/
theorem initConfig_of_store (console : Console) (hpath : args.path.getD projectYaml = path)
    (h : args.force = true ∨ files.contains path = false) :
    Command.initConfig args files console =
      match store {} files path with
      | (.error e, files) => (.fail e, files)
      | (.ok (), files) =>
        (.done (console.success ("✓ Created config at " ++ path) ++
          console.info "Edit it to change the default backend, tier or output format."),
          files) := by
  have hgoes : (files.contains path && !args.force) = false := by
    obtain hforce | hfree := h
    · rw [hforce, Bool.not_true, Bool.and_false]
    · rw [hfree, Bool.false_and]
  rw [Command.initConfig, hpath, hgoes]
  rfl

/-- The places that differ after a file is written at a path: its own, and those above it that were
missing. -/
def WrittenAt (files files' : FileSystem) (path : String) : Prop :=
  files'.directory = files.directory ∧ ∃ content, ∀ names, files'.at? names =
    if names = files.place path then some (.file content)
    else if names <+: files.place path then some .directory else files.at? names

/-- Default settings are refused without force where there is something, for the lack of an
extension, or because no file can be written, and nothing has changed then; or they are written. -/
theorem initConfig_cases (hplain : Path.IsPlain path) (hpath : args.path.getD projectYaml = path)
    (console : Console) {reply : Command.Reply} {files' : FileSystem}
    (h : Command.initConfig args files console = (reply, files')) :
    ((args.force = false ∧ files.at? (files.place path) ≠ none) ∧
        (∃ reason, reply = .fail (.config reason)) ∧ files' = files) ∨
      (args.force = true ∨ files.at? (files.place path) = none) ∧
        (¬ HasFormat path ∧ (∃ shown expected, reply = .fail (.invalidFormat shown expected)) ∧
            files' = files ∨
          HasFormat path ∧ files.Refuses path ∧ (∃ fault, reply = .fail (.io fault)) ∧
            files' = files ∨
          HasFormat path ∧ ¬ files.Refuses path ∧ (∃ text, reply = .done text) ∧
            WrittenAt files files' path ∧ ofFile files' path = .ok {}) := by
  have hcontains : files.contains path = true ↔ files.at? (files.place path) ≠ none :=
    FileSystem.contains_plain hplain
  by_cases hstops : args.force = false ∧ files.at? (files.place path) ≠ none
  · rw [initConfig_of_contains console hpath hstops.1 (hcontains.mpr hstops.2)] at h
    obtain ⟨rfl, rfl⟩ := Prod.mk.inj h
    exact .inl ⟨hstops, ⟨_, rfl⟩, rfl⟩
  have hgoes : args.force = true ∨ files.at? (files.place path) = none := by
    cases hforce : args.force with
    | true => exact .inl rfl
    | false => exact .inr (by_contra fun hthere => hstops ⟨hforce, hthere⟩)
  have hfree : args.force = true ∨ files.contains path = false :=
    hgoes.imp_right fun hnone => Bool.eq_false_iff.mpr fun hthere => hcontains.mp hthere hnone
  refine .inr ⟨hgoes, ?_⟩
  rw [initConfig_of_store console hpath hfree] at h
  by_cases hformat : HasFormat path
  · by_cases hrefuses : files.Refuses path
    · obtain ⟨fault, hstore⟩ := store_of_refuses {} hplain hformat hrefuses
      rw [hstore] at h
      obtain ⟨rfl, rfl⟩ := Prod.mk.inj h
      exact .inr (.inl ⟨hformat, hrefuses, ⟨fault, rfl⟩, rfl⟩)
    · obtain ⟨stored, content, hstore, hdirectory, hat, hread⟩ :=
        exists_store {} hplain hformat hrefuses
      rw [hstore] at h
      obtain ⟨rfl, rfl⟩ := Prod.mk.inj h
      exact .inr (.inr ⟨hformat, hrefuses, ⟨_, rfl⟩, ⟨hdirectory, content, hat⟩, hread⟩)
  · rw [store_of_not_hasFormat {} files hformat] at h
    obtain ⟨rfl, rfl⟩ := Prod.mk.inj h
    exact .inl ⟨hformat, ⟨_, _, rfl⟩, rfl⟩

/-- At a plain path a configuration that is not stored has changed nothing. Neither have default
settings that are not written, and no text is written either. They are refused as existing if there
is a file or a directory and no force, and otherwise fail exactly for the lack of an extension, a
directory in their place or a file above it. If they are written, nothing else has changed, and they
are read back. -/
theorem initConfig_all_or_nothing (files : FileSystem) (hplain : Path.IsPlain path) :
    (∀ (c : Config) (e : Command.Error), (c.store files path).1 = .error e →
      (c.store files path).2 = files) ∧
    ∀ (args : Command.ConfigInit) (console : Console), args.path.getD projectYaml = path →
      ∀ reply files', Command.initConfig args files console = (reply, files') →
        (reply.error ≠ none → files' = files ∧ reply.output = "") ∧
        ((∃ reason, reply.error = some (.config reason)) ↔
          args.force = false ∧ files.at? (files.place path) ≠ none) ∧
        (args.force = true ∨ files.at? (files.place path) = none →
          (reply.error ≠ none ↔ ¬ HasFormat path ∨ files.Refuses path) ∧
          ((∃ shown expected, reply.error = some (.invalidFormat shown expected)) ↔
            ¬ HasFormat path)) ∧
        (reply.error = none → WrittenAt files files' path ∧ ofFile files' path = .ok {}) := by
  refine ⟨fun c e he => ?_, fun args console hpath reply files' hreply => ?_⟩
  · by_cases hformat : HasFormat path
    · by_cases hrefuses : files.Refuses path
      · obtain ⟨fault, hstore⟩ := store_of_refuses c hplain hformat hrefuses
        rw [hstore]
      · obtain ⟨files', content, hstore, -⟩ := exists_store c hplain hformat hrefuses
        rw [hstore] at he
        cases he
    · rw [store_of_not_hasFormat c files hformat]
  obtain ⟨⟨hforce, hthere⟩, ⟨reason, rfl⟩, rfl⟩ | ⟨hgoes, hrest⟩ :=
    initConfig_cases hplain hpath console hreply
  · simp [Command.Reply.fail, hforce, hthere]
  -- from here on nothing that exists is in the way
  have hstops : ¬ (args.force = false ∧ files.at? (files.place path) ≠ none) := by
    rintro ⟨hforce, hthere⟩
    exact hgoes.elim (fun htrue => by cases htrue.symm.trans hforce) hthere
  obtain ⟨hformat, ⟨shown, expected, rfl⟩, rfl⟩ | ⟨hformat, hrefuses, ⟨fault, rfl⟩, rfl⟩ |
    ⟨hformat, hrefuses, ⟨text, rfl⟩, hwritten⟩ := hrest
  · simp [Command.Reply.fail, hstops, hformat]
  · simp [Command.Reply.fail, hstops, hformat, hrefuses]
  · simp [Command.Reply.done, hstops, hformat, hrefuses, hwritten]

/-- Below a file nothing is written, even by force; beside it a directory is made for the settings.
-/
theorem initConfig_beside_file :
    let files : FileSystem := ⟨[("w", .directory [("f", .file "x".toUTF8)])], ["w"]⟩
    let below := Command.initConfig ⟨some "f/c.yaml", true⟩ files {}
    let beside := Command.initConfig ⟨some "d/c.json", false⟩ files {}
    (Path.IsPlain "f/c.yaml" ∧ below.1.error ≠ none ∧ below.2 = files) ∧
      Path.IsPlain "d/c.json" ∧ beside.1.error = none ∧
        beside.2.at? ["w", "f"] = some (.file "x".toUTF8) ∧
          ofFile beside.2 "d/c.json" = .ok {} := by
  intro files below beside
  have hbelow : Path.IsPlain "f/c.yaml" := ⟨by decide, by decide⟩
  have hbeside : Path.IsPlain "d/c.json" := ⟨by decide, by decide⟩
  have hrefuses : files.Refuses "f/c.yaml" := .inr ⟨["w", "f"], _, by decide, by decide, rfl⟩
  obtain ⟨hfailed, -, hexact, -⟩ := (initConfig_all_or_nothing files hbelow).2
    ⟨some "f/c.yaml", true⟩ {} rfl below.1 below.2 rfl
  have hfails : below.1.error ≠ none := (hexact (.inl rfl)).1.mpr (.inr hrefuses)
  have hdone : beside.1.error = none := rfl
  obtain ⟨⟨-, content, hat⟩, hread⟩ := ((initConfig_all_or_nothing files hbeside).2
    ⟨some "d/c.json", false⟩ {} rfl beside.1 beside.2 rfl).2.2.2 hdone
  refine ⟨⟨hbelow, hfails, (hfailed hfails).1⟩, hbeside, hdone, ?_, hread⟩
  rw [hat, if_neg (by decide), if_neg (by decide)]
  rfl

end BoundaryContract.Config
