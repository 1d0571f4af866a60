import BoundaryContract.Proofs.Config.Init
import BoundaryContract.Proofs.Console
import BoundaryContract.Proofs.Text.WellFormed

/-!
# The configuration in force

Reading the configuration and telling where it is read from are two searches over the same places.
They agree: what is read is the file at the path that is told, and where none is told, the default
settings (`load_eq`). The path that is told without a given one is the first default path at which
there is anything, good or bad (`sourcePath_none_iff`), so a bad file there is an error and not
passed over (`exists_ofFile_error_iff`). A file with the default settings that is written without a
given path comes before all others (`load_of_initConfig`).
-/

namespace BoundaryContract.Config

variable {files : FileSystem} {path : String}

/-! ### Bad files -/

/-- What is at a path is no configuration: the path has no extension of a configuration file, or it
is at a directory, the bytes of the file are not a text, or the text is not a document of settings
in the format of the extension. -/
inductive Bad (files : FileSystem) (path : String) : Prop
  | noFormat (h : ¬ HasFormat path)
  | directory {entries : List (String × Entry)} (h : files.find? path = some (.directory entries))
  | notText {content : ByteArray} (h : files.find? path = some (.file content))
    (hcontent : ¬ Text.WellFormed content.data.toList)
  | malformed {text : String} {format : ConfigFormat}
    (h : files.find? path = some (.file text.toUTF8)) (hformat : formatOf path = .ok format)
    (htext : ∀ c, ofText format text ≠ .ok c)

theorem contains_of_find? {e : Entry} (h : files.find? path = some e) :
    files.contains path = true := by
  rw [FileSystem.contains, h]
  rfl

theorem contains_of_ofFile {c : Config} (h : ofFile files path = .ok c) :
    files.contains path = true := by
  by_contra hmissing
  rw [ofFile, if_neg hmissing] at h
  cases h

/-- The format is settled before anything is read, and then it does not matter why the file cannot
be read. -/
theorem exists_error_of_readText {e : Entry} (h : files.find? path = some e) {fault : FileFault}
    (hread : files.readText path = .error fault) : ∃ e, ofFile files path = .error e := by
  rw [ofFile, if_pos (contains_of_find? h), hread]
  cases formatOf path with
  | error e => exact ⟨e, rfl⟩
  | ok format => exact ⟨.io fault, rfl⟩

/-- A bad file that is there is not loaded. -/
theorem Bad.exists_error (hthere : files.contains path = true) (h : Bad files path) :
    ∃ e, ofFile files path = .error e := by
  cases h with
  | noFormat h =>
    rw [ofFile, if_pos hthere, formatOf_of_not_hasFormat h]
    exact ⟨_, rfl⟩
  | directory h =>
    have hread : files.readText path = .error .isDirectory := by
      rw [FileSystem.readText, h]
    exact exists_error_of_readText h hread
  | notText h hcontent =>
    have hread : files.readText path = .error .notText := by
      rw [FileSystem.readText, h]
      simp only [Text.fromUTF8?_eq_none hcontent]
    exact exists_error_of_readText h hread
  | malformed h hformat htext =>
    rw [ofFile_of_find? hformat h]
    cases hread : ofText _ _ with
    | error e => exact ⟨e, rfl⟩
    | ok c => exact absurd hread (htext c)

/-- Where there is anything, it is read as a configuration unless it is bad. -/
theorem exists_ofFile_error_iff (hthere : files.contains path = true) :
    (∃ e, ofFile files path = .error e) ↔ Bad files path := by
  refine ⟨fun ⟨e, he⟩ => ?_, Bad.exists_error hthere⟩
  by_cases hformat : HasFormat path
  · obtain ⟨format, hformat⟩ := exists_formatOf hformat
    obtain ⟨entry, hentry⟩ := Option.isSome_iff_exists.mp hthere
    cases entry with
    | directory entries => exact .directory hentry
    | file content =>
      by_cases hcontent : Text.WellFormed content.data.toList
      · obtain ⟨text, rfl⟩ := Text.exists_text hcontent
        refine .malformed hentry hformat fun c hc => ?_
        rw [ofFile_of_find? hformat hentry, hc] at he
        cases he
      · exact .notText hentry hcontent
  · exact .noFormat hformat

/-! ### The path that is told -/

/-- The first path of a list at which there is anything. -/
def IsFirst (files : FileSystem) (paths : List String) (path : String) : Prop :=
  files.contains path = true ∧ ∃ before after, paths = before ++ path :: after ∧
    ∀ other ∈ before, files.contains other = false

/-- Unless a path is given, the first of the default paths that is there is the source. -/
theorem sourcePath_none_iff {w : Workspace} :
    sourcePath w none = some path ↔ IsFirst w.files (defaultPaths w) path := by
  rw [sourcePath, IsFirst, List.find?_eq_some_iff_append]
  simp only [Bool.not_eq_true']

/-- What is read is what is at the path that is told. -/
theorem load_eq (w : Workspace) (file : Option String) :
    load w file = (sourcePath w file).elim (.ok {}) (ofFile w.files) := by
  cases file with
  | some path => rfl
  | none =>
    rw [load, loadDefault, sourcePath]
    cases (defaultPaths w).find? w.files.contains <;> rfl

/-! ### What is told -/

/-- What is told about paths that are there or not: a line for each, which only human readers see,
and only if they do not ask for quiet. -/
def listing (console : Console) (marks : List (String × Bool)) : String :=
  if console.format = .human ∧ console.quiet = false then
    console.heading "Search Order" ++ String.join (marks.map fun mark =>
      console.info ((if mark.2 then "✓ " else "✗ ") ++ mark.1))
  else ""

/-- What may be left out is not seen in formats for programs or on a quiet console. -/
theorem quietable_of_unseen {console : Console}
    (h : ¬ (console.format = .human ∧ console.quiet = false)) (colored plain : String) :
    console.quietable colored plain = "" := by
  by_cases hhuman : console.format = .human
  · have hquiet : console.quiet = true := by simpa [hhuman] using h
    rw [Console.quietable, if_pos hquiet]
  · exact Console.quietable_of_ne_human hhuman colored plain

/-- Nothing put together is nothing. -/
theorem join_eq_empty {texts : List String} (h : ∀ text ∈ texts, text = "") :
    String.join texts = "" := by
  induction texts with
  | nil => rfl
  | cons text texts ih =>
    obtain ⟨rfl, hrest⟩ := List.forall_mem_cons.mp h
    rw [String.join_cons, ih hrest]
    rfl

/-- The listing of the paths tells of each whether it is there. -/
theorem listing_eq (console : Console) (marks : List (String × Bool)) :
    console.heading "Search Order" ++ String.join (marks.map fun mark =>
      console.info ((if mark.2 then "✓ " else "✗ ") ++ mark.1)) = listing console marks := by
  by_cases hseen : console.format = .human ∧ console.quiet = false
  · rw [listing, if_pos hseen]
  have hheading : console.heading "Search Order" = "" := by
    rw [Console.heading, quietable_of_unseen hseen]
    rfl
  have hlines : String.join (marks.map fun mark =>
      console.info ((if mark.2 then "✓ " else "✗ ") ++ mark.1)) = "" := by
    refine join_eq_empty fun text htext => ?_
    obtain ⟨mark, -, rfl⟩ := List.mem_map.mp htext
    exact quietable_of_unseen hseen _ _
  rw [listing, if_neg hseen, hheading, hlines]
  rfl

/-- The command names the source that is in use, or warns that there is none, and lists the paths.
-/
theorem configPath_eq (w : Workspace) (file : Option String) (console : Console) :
    Command.configPath file w console = .done ((sourcePath w file).elim
      (console.warning "No configuration file found; using defaults") Console.line ++
      listing console ((defaultPaths w).map fun path => (path, w.files.contains path))) := by
  rw [Command.configPath, ← listing_eq, List.map_map, ← String.append_assoc]
  cases sourcePath w file <;> rfl

/-! ### Writing the default settings -/

/-- The default path of a project is plain. -/
theorem isPlain_projectYaml : Path.IsPlain projectYaml := ⟨by decide, by decide⟩

/-- Default settings that are written without a given path are in force from then on, whatever else
there is. -/
theorem load_of_initConfig {force : Bool} {console : Console} {reply : Command.Reply}
    {files' : FileSystem} (h : Command.initConfig ⟨none, force⟩ files console = (reply, files'))
    (hdone : reply.error = none) (userConfig : Option String) :
    sourcePath ⟨files', userConfig⟩ none = some projectYaml ∧
      load ⟨files', userConfig⟩ none = .ok {} := by
  have hread : ofFile files' projectYaml = .ok {} := by
    obtain ⟨-, ⟨reason, rfl⟩, -⟩ | ⟨-, ⟨-, ⟨shown, expected, rfl⟩, -⟩ | ⟨-, -, ⟨fault, rfl⟩, -⟩ |
      ⟨-, -, -, -, hread⟩⟩ := initConfig_cases isPlain_projectYaml rfl console h
    -- every outcome but the last one is an error
    · cases hdone
    · cases hdone
    · cases hdone
    · exact hread
  -- it is the first of the default paths, and there is something now
  have hsource : sourcePath ⟨files', userConfig⟩ none = some projectYaml :=
    sourcePath_none_iff.mpr ⟨contains_of_ofFile hread, [], _, rfl, List.forall_mem_nil _⟩
  rw [load_eq, hsource]
  exact ⟨rfl, hread⟩

/-! ### Reading and telling -/

/-- What is told about the configuration of a workspace is what is read. -/
structure LoadsAsTold (w : Workspace) : Prop where
  loads : ∀ file, load w file = (sourcePath w file).elim (.ok {}) (ofFile w.files)
  given : ∀ path, sourcePath w (some path) = some path
  /-- Without a given path the first default path at which there is anything is read, -/
  first : ∀ path, sourcePath w none = some path ↔
    IsFirst w.files ([".bridgetest.yaml", ".bridgetest.json"] ++ w.userConfig.toList) path
  /-- also if it is bad. -/
  bad : ∀ path, sourcePath w none = some path → ((∃ e, load w none = .error e) ↔ Bad w.files path)
  told : ∀ (file : Option String) (console : Console), ∃ marks : List (String × Bool),
    marks.map Prod.fst = defaultPaths w ∧ (∀ mark ∈ marks, mark.2 = w.files.contains mark.1) ∧
    Command.configPath file w console = .done ((sourcePath w file).elim
      (console.warning "No configuration file found; using defaults") (fun path => path ++ "\n") ++
      listing console marks)
  /-- Default settings that were just written come before everything else. -/
  initialised : ∀ force console reply files',
    Command.initConfig ⟨none, force⟩ w.files console = (reply, files') → reply.error = none →
    sourcePath { w with files := files' } none = some ".bridgetest.yaml" ∧
      load { w with files := files' } none = .ok {}

/-- The configuration that is read is the one that is told. -/
theorem loadsAsTold (w : Workspace) : LoadsAsTold w where
  loads := load_eq w
  given _ := rfl
  first _ := sourcePath_none_iff
  bad path hsource := by
    have hfirst := sourcePath_none_iff.mp hsource
    rw [load_eq, hsource]
    exact exists_ofFile_error_iff hfirst.1
  told file console := by
    refine ⟨(defaultPaths w).map fun path => (path, w.files.contains path), ?_, ?_,
      configPath_eq w file console⟩
    · rw [List.map_map]
      exact List.map_id _
    · intro mark hmark
      obtain ⟨path, -, rfl⟩ := List.mem_map.mp hmark
      rfl
  initialised force console reply files' h hdone := load_of_initConfig h hdone w.userConfig

/-- A directory that comes first is not passed over for a good file. -/
example : load ⟨⟨[(".bridgetest.json", .directory []), ("u.yaml", .file "".toUTF8)], []⟩,
    some "u.yaml"⟩ none = .error (.io .isDirectory) := rfl

end BoundaryContract.Config
