import BoundaryContract.Proofs.FileSystem

/-!
# Plain paths

A plain path goes down from where it starts, step by step, and ends in a name. Its place is then the
list of its steps behind those of the start, and what can keep a file from being written there is a
directory at the place or a file above it (`FileSystem.Refuses`). Main statements: where it is
refused, a write leaves the file system exactly as it was (`FileSystem.writeText_of_refuses`), and
everywhere else it succeeds (`FileSystem.exists_writeText_of_not_refuses`).

The directories are made before the file is written, so this needs an argument: a directory is only
made where nothing was, and below that place nothing can be in the way.
-/

namespace BoundaryContract

/-- The path leads downwards only and ends in a name. -/
structure Path.IsPlain (path : String) : Prop where
  down : ".." ∉ Path.steps path
  named : Path.namesDirectory path = false

/-- A path that ends in a name has that name as its last step. -/
theorem Path.exists_steps (h : Path.namesDirectory path = false) :
    ∃ steps last, Path.steps path = steps ++ [last] := by
  rw [Path.namesDirectory] at h
  split at h
  · next name hname =>
    obtain ⟨before, hbefore⟩ := List.getLast?_eq_some_iff.mp hname
    have hkept : (decide (name ≠ "") && decide (name ≠ ".")) = true := by simpa using h
    refine ⟨before.filter fun name => name ≠ "" && name ≠ ".", name, ?_⟩
    have hlast : [name].filter (fun name => name ≠ "" && name ≠ ".") = [name] :=
      List.filter_cons_of_pos hkept
    rw [Path.steps, hbefore, List.filter_append, hlast]
  · cases h

namespace Entry

variable {name : String} {names u : List String} {entries : List (String × Entry)}
  {content text : ByteArray}

/-- A file that names go through has a first name, at which there is the file or a directory with
it. -/
theorem exists_of_at?_file (h : at? u entries = some (.file content)) (hu : u <+: names) :
    ∃ name rest u', names = name :: rest ∧ u = name :: u' ∧ u' <+: rest ∧
      (entries.lookup name = some (.file content) ∧ u' = [] ∨
        ∃ inner, entries.lookup name = some (.directory inner) ∧
          at? u' inner = some (.file content)) := by
  cases u with
  | nil =>
    rw [at?_nil] at h
    cases h
  | cons name u =>
    obtain ⟨rest, rfl⟩ := hu
    refine ⟨name, u ++ rest, u, rfl, rfl, List.prefix_append u rest, ?_⟩
    cases hlookup : entries.lookup name with
    | none =>
      rw [at?_cons_none hlookup] at h
      cases h
    | some e =>
      cases e with
      | directory inner => exact .inr ⟨inner, rfl, (at?_cons_directory hlookup).symm.trans h⟩
      | file content' =>
        by_cases hnil : u = []
        · subst hnil
          obtain rfl :=
            Occupant.file.inj (Option.some.inj ((at?_singleton_file hlookup).symm.trans h))
          exact .inl ⟨rfl, rfl⟩
        · rw [at?_cons_file hlookup hnil] at h
          cases h

/-- No directories are made through a file. -/
theorem makeDirectories_of_file (h : at? u entries = some (.file content)) (hu : u <+: names) :
    ∃ fault, makeDirectories names entries = .error fault := by
  induction names generalizing u entries with
  | nil =>
    obtain ⟨name, rest, u', hnames, -⟩ := exists_of_at?_file h hu
    cases hnames
  | cons name rest ih =>
    obtain ⟨_, _, u', ⟨rfl, rfl⟩, rfl, hu', ⟨hlookup, -⟩ | ⟨inner, hlookup, hinner⟩⟩ :=
      exists_of_at?_file h hu
    · exact ⟨.notDirectory, by rw [makeDirectories, hlookup]⟩
    · obtain ⟨fault, hfault⟩ := ih hinner hu'
      refine ⟨fault, ?_⟩
      rw [makeDirectories, hlookup]
      simp only [hfault]
      rfl

/-- No file is written below a file. -/
theorem write_of_file (h : at? u entries = some (.file content)) (hu : u <+: names)
    (hne : u ≠ names) : ∃ fault, write text names entries = .error fault := by
  induction names generalizing u entries with
  | nil =>
    obtain ⟨name, rest, u', hnames, -⟩ := exists_of_at?_file h hu
    cases hnames
  | cons name rest ih =>
    obtain ⟨_, _, u', ⟨rfl, rfl⟩, rfl, hu', hthere⟩ := exists_of_at?_file h hu
    cases rest with
    | nil => exact absurd (congrArg (name :: ·) (List.prefix_nil.mp hu')) hne
    | cons next rest =>
      obtain ⟨hlookup, -⟩ | ⟨inner, hlookup, hinner⟩ := hthere
      · rw [write, hlookup]
        exact ⟨_, rfl⟩
      · obtain ⟨fault, hfault⟩ := ih hinner hu' fun heq => hne (congrArg (name :: ·) heq)
        refine ⟨fault, ?_⟩
        rw [write, hlookup]
        simp only [hfault]
        rfl

/-- No file is written in the place of a directory. -/
theorem write_of_directory (h : at? names entries = some .directory) :
    write text names entries = .error .isDirectory := by
  induction names generalizing entries with
  | nil => rfl
  | cons name rest ih =>
    have hlookup : ∃ inner, entries.lookup name = some (.directory inner) := by
      cases hlookup : entries.lookup name with
      | none =>
        rw [at?_cons_none hlookup] at h
        cases h
      | some e =>
        cases e with
        | directory inner => exact ⟨inner, rfl⟩
        | file content =>
          rw [at?_cons, hlookup, Option.bind_some] at h
          cases rest <;> cases h
    obtain ⟨inner, hlookup⟩ := hlookup
    rw [at?_cons_directory hlookup] at h
    cases rest with
    | nil => rw [write, hlookup]
    | cons next rest =>
      rw [write, hlookup]
      simp only [ih h]
      rfl

end Entry

namespace FileSystem

variable {fs : FileSystem} {path text : String} {names u v steps : List String}
    {content : ByteArray}

/-! ### Where plain paths lead -/

/-- Without steps upwards a path leads straight to its place. -/
theorem plan_plain (h : ".." ∉ steps) : plan names steps = ([], names ++ steps) := by
  induction steps generalizing names with
  | nil => rw [plan, List.append_nil]
  | cons step steps ih =>
    obtain ⟨hstep, hsteps⟩ := not_or.mp (mt List.mem_cons.mpr h)
    rw [plan_down _ (Ne.symm hstep), ih hsteps, List.append_assoc, List.singleton_append]

theorem place_plain (h : Path.IsPlain path) : fs.place path = fs.start path ++ Path.steps path := by
  rw [place, plan_plain h.down]

/-- A plain path is a way down to the directory of its place, and a last step. -/
theorem exists_steps_plain (fs : FileSystem) (h : Path.IsPlain path) :
    ∃ steps last, Path.steps path = steps ++ [last] ∧ ".." ∉ steps ∧
      fs.place path = (fs.start path ++ steps) ++ [last] := by
  obtain ⟨steps, last, hsteps⟩ := Path.exists_steps h.named
  refine ⟨steps, last, hsteps, fun hup => h.down (hsteps ▸ List.mem_append_left _ hup), ?_⟩
  rw [place_plain h, hsteps, List.append_assoc]

/-- What a plain way goes through leads to its end. -/
theorem prefix_of_passed_plain (h : ".." ∉ steps) (last : String)
    (hv : v ∈ passed names (steps ++ [last])) : v <+: names ++ steps := by
  induction steps generalizing names with
  | nil =>
    obtain rfl := List.mem_singleton.mp hv
    exact List.prefix_append v []
  | cons step steps ih =>
    obtain ⟨hstep, hsteps⟩ := not_or.mp (mt List.mem_cons.mpr h)
    rw [List.cons_append, passed_down _ (Ne.symm hstep)] at hv
    obtain rfl | hv := List.mem_cons.mp hv
    · exact List.prefix_append v _
    · simpa using ih hsteps hv

/-- At a plain path there is what is at its place. -/
theorem find?_plain (h : Path.IsPlain path) : fs.find? path = fs.root.find? (fs.place path) := by
  have hnames : fs.names? path = some (fs.place path) := by
    rw [names?, isEmpty_eq_false h.named]
    refine follow_eq fun v hv => ?_
    rw [plan_plain h.down] at hv
    cases hv
  rw [find?, hnames, h.named]
  cases hfind : fs.root.find? (fs.place path) with
  | none => simp [hfind]
  | some e => simp [hfind]

/-- A plain path is there when something is at its place. -/
theorem contains_plain (h : Path.IsPlain path) :
    fs.contains path = true ↔ fs.at? (fs.place path) ≠ none := by
  rw [contains, find?_plain h, Option.isSome_iff_ne_none, at?, Entry.at?, root, ne_eq, ne_eq,
    Option.map_eq_none_iff]

/-! ### What is in the way -/

/-- A file cannot be written at the path: there is a directory at its place, or a file above it. -/
def Refuses (fs : FileSystem) (path : String) : Prop :=
  fs.at? (fs.place path) = some .directory ∨
    ∃ names content, names <+: fs.place path ∧ names ≠ fs.place path ∧
      fs.at? names = some (.file content)

/-- Below a file on the way nothing is made. -/
theorem exists_makeAll_of_file (made : Bool) (hdown : ".." ∉ steps)
    (h : fs.at? u = some (.file content)) (hu : u <+: names ++ steps) :
    ∃ ending, makeAll made names steps fs = (ending, fs) := by
  induction steps generalizing made names with
  | nil => exact ⟨.ok (), rfl⟩
  | cons step steps ih =>
    obtain ⟨hstep, hsteps⟩ := not_or.mp (mt List.mem_cons.mpr hdown)
    have hu' : u <+: (names ++ [step]) ++ steps := by simpa using hu
    cases hoccupant : fs.at? (names ++ [step]) with
    | some o =>
      cases o with
      | directory =>
        rw [makeAll_directory made (Ne.symm hstep) steps hoccupant]
        exact ih made hsteps hu'
      | file content' =>
        have hfind : fs.root.find? (names ++ [step]) = some (.file content') :=
          Entry.find?_of_at?_file hoccupant
        refine ⟨.error (if made || steps.isEmpty then .alreadyExists else .notDirectory), ?_⟩
        rw [makeAll, if_neg (Ne.symm hstep), hfind]
    | none =>
      -- the file is above this place, since nothing is below a place at which nothing is
      have habove : u <+: names ++ [step] := by
        refine (List.prefix_or_prefix_of_prefix hu' (List.prefix_append _ steps)).resolve_right ?_
        intro hbelow
        have hne : names ++ [step] ≠ u := by
          rintro rfl
          cases hoccupant.symm.trans h
        cases hoccupant.symm.trans (Entry.at?_of_prefix_ne h hbelow hne)
      obtain ⟨fault, hfault⟩ := Entry.makeDirectories_of_file h habove
      have hfind : fs.root.find? (names ++ [step]) = none := Option.map_eq_none_iff.mp hoccupant
      refine ⟨.error fault, ?_⟩
      rw [makeAll, if_neg (Ne.symm hstep), hfind]
      simp only [hfault]

/-- Nothing is made on the way to a directory that is there. -/
theorem makeAll_of_directory (made : Bool) (hdown : ".." ∉ steps)
    (h : fs.at? v = some .directory) (hv : names ++ steps <+: v) :
    makeAll made names steps fs = (.ok (), fs) := by
  induction steps generalizing made names with
  | nil => rfl
  | cons step steps ih =>
    obtain ⟨hstep, hsteps⟩ := not_or.mp (mt List.mem_cons.mpr hdown)
    have hv' : (names ++ [step]) ++ steps <+: v := by simpa using hv
    have hnext := at?_of_prefix_directory h ((List.prefix_append _ steps).trans hv')
    rw [makeAll_directory made (Ne.symm hstep) steps hnext]
    exact ih made hsteps hv'

/-- Where it is refused, a write changes nothing at all. -/
theorem writeText_of_refuses (hplain : Path.IsPlain path) (h : fs.Refuses path) (text : String) :
    ∃ fault, fs.writeText path text = (.error fault, fs) := by
  obtain ⟨steps, last, hsteps, hdown, hplace⟩ := exists_steps_plain fs hplain
  obtain ⟨ending, hmake⟩ : ∃ ending,
      makeAll false (fs.start path) (Path.steps path).dropLast fs = (ending, fs) := by
    rw [hsteps, List.dropLast_concat]
    obtain hdirectory | ⟨u, content, hu, hne, hfile⟩ := h
    · exact ⟨_, makeAll_of_directory false hdown hdirectory (hplace ▸ List.prefix_append _ _)⟩
    · rw [hplace] at hu hne
      exact exists_makeAll_of_file false hdown hfile
        ((List.prefix_concat_iff.mp hu).resolve_left hne)
  cases ending with
  | error fault =>
    refine ⟨fault, ?_⟩
    rw [writeText, isEmpty_eq_false hplain.named, hmake]
    rfl
  | ok _ =>
    obtain ⟨fault, hfault⟩ : ∃ fault,
        Entry.write text.toUTF8 (fs.place path) fs.entries = .error fault := by
      obtain hdirectory | ⟨u, content, hu, hne, hfile⟩ := h
      · exact ⟨_, Entry.write_of_directory hdirectory⟩
      · exact Entry.write_of_file hfile hu hne
    exact ⟨fault, by rw [writeText_of_makeAll hplain.named hmake, hfault]⟩

/-- Where it is not refused, a write makes the directories above the place of the path and the file
there, and changes nothing else. -/
theorem exists_writeText_of_not_refuses (hplain : Path.IsPlain path) (h : ¬ fs.Refuses path)
    (text : String) :
    ∃ fs', fs.writeText path text = (.ok (), fs') ∧ fs'.directory = fs.directory ∧
      ∀ u, fs'.at? u = if u = fs.place path then some (.file text.toUTF8)
        else if u <+: fs.place path then some .directory else fs.at? u := by
  obtain ⟨steps, last, hsteps, hdown, hplace⟩ := exists_steps_plain fs hplain
  have hfree : ∀ u, u <+: fs.place path → u ≠ fs.place path →
      ∀ content, fs.at? u ≠ some (.file content) :=
    fun u hu hne content hfile => h (.inr ⟨u, content, hu, hne, hfile⟩)
  have habove : ∀ v ∈ passed (fs.start path) (steps ++ [last]), ∀ u, u <+: v →
      u <+: fs.place path ∧ u ≠ fs.place path := by
    intro v hv u hu
    have hleads := hu.trans (prefix_of_passed_plain hdown last hv)
    rw [hplace]
    refine ⟨hleads.trans (List.prefix_append _ _), ?_⟩
    rintro rfl
    have hlength := hleads.length_le
    rw [List.length_append, List.length_singleton] at hlength
    omega
  obtain ⟨between, hmake, hdirectory, hat, -⟩ := exists_makeAll false last fun v hv u hu =>
    hfree u (habove v hv u hu).1 (habove v hv u hu).2
  have hmake' : makeAll false (fs.start path) (Path.steps path).dropLast fs =
      (.ok (), between) := by
    rw [hsteps, List.dropLast_concat, hmake]
  -- what was made is above the place, so the place and what keeps a file from it are as they were
  have hbetween : ∀ u, between.at? u = fs.at? u ∨
      between.at? u = some .directory ∧ u <+: fs.place path ∧ u ≠ fs.place path :=
    fun u => (hat u).imp_right fun ⟨hu, v, hv, huv⟩ => ⟨hu, habove v hv u huv⟩
  have hne : fs.place path ≠ [] := by
    rw [hplace]
    exact List.append_ne_nil_of_right_ne_nil _ (List.cons_ne_nil _ _)
  have hnone : Entry.at? (fs.place path) between.entries ≠ some .directory := by
    intro hdir
    obtain heq | ⟨-, -, hne⟩ := hbetween (fs.place path)
    · exact h (.inl (heq.symm.trans hdir))
    · exact hne rfl
  have hclear : ∀ u, u <+: fs.place path → u ≠ fs.place path →
      ∀ content, Entry.at? u between.entries ≠ some (.file content) := by
    intro u hu hune content hfile
    obtain heq | ⟨hdir, -⟩ := hbetween u
    · exact hfree u hu hune content (heq.symm.trans hfile)
    · cases hdir.symm.trans hfile
  obtain ⟨entries, hwrite, hentries⟩ := Entry.exists_write text.toUTF8 hne hclear hnone
  refine ⟨{ between with entries }, ?_, hdirectory, fun u => ?_⟩
  · rw [writeText_of_makeAll hplain.named hmake', hwrite]
  · show Entry.at? u entries = _
    rw [hentries]
    by_cases hu : u = fs.place path
    · rw [if_pos hu, if_pos hu]
    rw [if_neg hu, if_neg hu]
    split
    · rfl
    · next hnot => exact (hbetween u).resolve_right fun hmade => hnot hmade.2.1

end FileSystem

end BoundaryContract
