import BoundaryContract.Proofs.Config
import BoundaryContract.Proofs.FileSystem

/-!
# Configuration files

A configuration that is saved is read back from its file, and so is one whose text is shown and put
in a file (`ofFile_save`). Saving makes the directories that the path leads through and leaves all
other files as they are. A path that cannot name a file, or that leads through its own place, is not
saved to (`save_isDirectory`).
-/

namespace BoundaryContract.Config

variable {files : FileSystem} {path : String} {format : ConfigFormat}

/-- The extensions of configuration files. -/
def extensions : List String := ["yaml", "yml", "json"]

/-- A path with a known extension has a format. -/
theorem exists_formatOf (h : ∃ name ∈ extensions, Path.extension? path = some name) :
    ∃ format, formatOf path = .ok format := by
  obtain ⟨name, hname, hpath⟩ := h
  rw [formatOf, hpath]
  simp only [extensions, List.mem_cons, List.not_mem_nil, or_false] at hname
  obtain rfl | rfl | rfl := hname
  · exact ⟨.yaml, rfl⟩
  · exact ⟨.yaml, rfl⟩
  · exact ⟨.json, rfl⟩

/-- A file holds the configuration of its text. -/
theorem ofFile_of_find? (hformat : formatOf path = .ok format) {text : String}
    (hfile : files.find? path = some (.file text.toUTF8)) :
    ofFile files path = ofText format text := by
  have hcontains : files.contains path = true := by
    rw [FileSystem.contains, hfile]
    rfl
  have hread : files.readText path = .ok text := by
    rw [FileSystem.readText, hfile]
    simp only [Text.fromUTF8?_toUTF8]
  rw [ofFile, if_pos hcontains, hformat, hread]
  rfl

/-- What is shown, on its line or without it, is read back from a file. -/
theorem ofFile_showConfig (c : Config) (hformat : formatOf path = .ok format) {text : String}
    (htext : text = (Command.showConfig format c).output ∨
      text = String.ofList (Text.trimEnd (c.toText format).toList))
    (hfile : files.find? path = some (.file text.toUTF8)) : ofFile files path = .ok c := by
  rw [ofFile_of_find? hformat hfile]
  obtain rfl | rfl := htext
  · have hread := c.ofText_trimEnd format (.inr rfl)
    rw [String.ofList_append] at hread
    exact hread
  · have hread := c.ofText_trimEnd format (.inl rfl)
    rwa [List.append_nil] at hread

/-- A configuration that is saved where nothing is in the way is read back, whatever its texts are.
The directories that the path leads through are made, and all other files stay what they are. The
text that is shown holds the configuration, too. -/
theorem ofFile_save (c : Config) (files : FileSystem) (path : String)
    (hextension : ∃ name ∈ extensions, Path.extension? path = some name)
    (h : files.Admits path) :
    (∃ files', save c files path = .ok files' ∧ files'.directory = files.directory ∧
      (∀ names, files'.at? names = some .directory ↔
        files.at? names = some .directory ∨ names ∈ files.ancestors path) ∧
      (∀ names content, names ≠ files.place path →
        (files'.at? names = some (.file content) ↔ files.at? names = some (.file content))) ∧
      ofFile files' path = .ok c) ∧
    ∀ format text, text = (Command.showConfig format c).output ∨
        text = String.ofList (Text.trimEnd (c.toText format).toList) →
      ∀ files' path', formatOf path' = .ok format →
        files'.find? path' = some (.file text.toUTF8) → ofFile files' path' = .ok c := by
  refine ⟨?_, fun format text htext files' path' hformat hfile =>
    ofFile_showConfig c hformat htext hfile⟩
  obtain ⟨format, hformat⟩ := exists_formatOf hextension
  obtain ⟨files', hwrite, hdirectory, hat⟩ := FileSystem.exists_writeText h (c.toText format)
  have hsave : save c files path = .ok files' := by
    rw [save, store, hformat]
    simp only [hwrite]
  have hplace : files'.at? (files'.place path) = some (.file (c.toText format).toUTF8) := by
    rw [FileSystem.place_congr hdirectory, hat, if_pos rfl]
  -- the way to the file can be followed again after it has been written
  have hancestors : ∀ v ∈ files'.ancestors path, files'.at? v = some .directory := by
    intro v hv
    rw [FileSystem.ancestors_congr hdirectory] at hv
    have hne : v ≠ files.place path := fun heq => h.apart (heq ▸ hv)
    rw [hat, if_neg hne, if_pos hv]
  refine ⟨files', hsave, hdirectory, fun names => ?_, fun names content hne => ?_, ?_⟩
  · rw [hat]
    by_cases heq : names = files.place path
    · rw [if_pos heq, heq]
      simp [h.place, h.apart]
    · by_cases hmem : names ∈ files.ancestors path <;> simp [heq, hmem]
  · rw [hat, if_neg hne]
    by_cases hmem : names ∈ files.ancestors path
    · simp [hmem, h.noFile (.inr hmem) content]
    · rw [if_neg hmem]
  · rw [ofFile_of_find? hformat (FileSystem.find?_of_at? h.named hancestors hplace)]
    exact c.ofText_toText format

/-- Texts that could be taken for nothing or for several lines, saved at a path that goes up and
down again, and shown. -/
theorem ofFile_save_below :
    let c : Config := { logging := { level := some "null", format := some " a: 'b'\n\n" } }
    let files : FileSystem := ⟨[("w", .directory [])], ["w"]⟩
    let shown := (Command.showConfig .yaml c).output
    ((∃ name ∈ extensions, Path.extension? "a/../b/c.yml" = some name) ∧
      files.Admits "a/../b/c.yml" ∧
      ∃ files', save c files "a/../b/c.yml" = .ok files' ∧
        files'.at? ["w", "b"] = some .directory ∧ ofFile files' "a/../b/c.yml" = .ok c) ∧
    formatOf "s.yaml" = .ok .yaml ∧
      ofFile ⟨[("s.yaml", .file shown.toUTF8)], []⟩ "s.yaml" = .ok c := by
  intro c files shown
  have hextension : ∃ name ∈ extensions, Path.extension? "a/../b/c.yml" = some name := by decide
  have hadmits : files.Admits "a/../b/c.yml" :=
    ⟨by decide, by decide, by decide, by decide, by decide⟩
  obtain ⟨⟨files', hsave, -, hdirectories, -, hread⟩, hshow⟩ :=
    ofFile_save c files "a/../b/c.yml" hextension hadmits
  refine ⟨⟨hextension, hadmits, files', hsave, ?_, hread⟩, rfl, ?_⟩
  · exact (hdirectories ["w", "b"]).mpr (.inr (by decide))
  · exact hshow .yaml shown (.inl rfl) _ _ rfl rfl

/-- The path names a configuration file, no directory is at it, and no file is on the way to it. -/
def Unobstructed (files : FileSystem) (path : String) : Prop :=
  (∃ name ∈ extensions, Path.extension? path = some name) ∧
  (files.find? path).any Entry.isDirectory = false ∧
  ∀ names ∈ files.ancestors path, files.at? names = none ∨ files.at? names = some .directory

instance (files : FileSystem) (path : String) : Decidable (Unobstructed files path) :=
  inferInstanceAs (Decidable (_ ∧ _ ∧ _))

/-- Nothing can be saved where only a directory can be: at a path that ends in a slash, that leads
through its own place, or that leads to a directory once those before it are made. -/
theorem save_isDirectory :
    (Unobstructed ⟨[], []⟩ "c.yaml/" ∧
      save {} ⟨[], []⟩ "c.yaml/" = .error (.io .isDirectory)) ∧
    (Unobstructed ⟨[], []⟩ "c.yaml/../c.yaml" ∧
      save {} ⟨[], []⟩ "c.yaml/../c.yaml" = .error (.io .isDirectory)) ∧
    Unobstructed ⟨[("d.yaml", .directory [])], []⟩ "a/../d.yaml" ∧
      save {} ⟨[("d.yaml", .directory [])], []⟩ "a/../d.yaml" = .error (.io .isDirectory) :=
  ⟨⟨by decide, rfl⟩, ⟨by decide, rfl⟩, by decide, rfl⟩

end BoundaryContract.Config
