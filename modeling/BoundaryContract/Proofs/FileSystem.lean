import BoundaryContract.FileSystem

/-!
# What is where in a file system

A file system is looked at through `FileSystem.at?`: what is at each place, which is the list of
names that lead there from the root. Making directories and writing a file are told by what they
change in this view, and what a path is read as follows from the view alone. Main statements: a file
can be written wherever nothing is in the way (`FileSystem.exists_writeText`), and what is written
is found at the path again (`FileSystem.find?_of_at?`).
-/

namespace BoundaryContract

/-- What is at a place, without what a directory holds. -/
inductive Occupant
  | file (content : ByteArray)
  | directory

/-- Files are compared by what they hold. -/
instance : DecidableEq Occupant
  | .file a, .file b =>
    decidable_of_iff (a.data = b.data) (by rw [Occupant.file.injEq, ByteArray.ext_iff])
  | .directory, .directory => isTrue rfl
  | .file _, .directory | .directory, .file _ => isFalse Occupant.noConfusion

namespace Entry

variable {name n : String} {names u v rest : List String} {entries inner : List (String × Entry)}
  {content : ByteArray}

/-- An entry without what a directory holds. -/
def occupant : Entry → Occupant
  | .file content => .file content
  | .directory _ => .directory

/-- What is at a list of names inside a directory. -/
def at? (names : List String) (entries : List (String × Entry)) : Option Occupant :=
  ((Entry.directory entries).find? names).map occupant

@[simp]
theorem at?_nil (entries : List (String × Entry)) : at? [] entries = some .directory := by
  rw [at?, find?]
  rfl

theorem at?_cons (name : String) (rest : List String) (entries : List (String × Entry)) :
    at? (name :: rest) entries = ((entries.lookup name).bind (find? rest)).map occupant := by
  rw [at?, find?]

theorem at?_cons_none (h : entries.lookup name = none) : at? (name :: rest) entries = none := by
  rw [at?_cons, h]
  rfl

theorem at?_cons_directory (h : entries.lookup name = some (.directory inner)) :
    at? (name :: rest) entries = at? rest inner := by
  rw [at?_cons, h]
  rfl

theorem at?_singleton_file (h : entries.lookup name = some (.file content)) :
    at? [name] entries = some (.file content) := by
  rw [at?_cons, h, Option.bind_some, find?]
  rfl

/-- There is nothing inside a file. -/
theorem at?_cons_file (h : entries.lookup name = some (.file content)) (hrest : rest ≠ []) :
    at? (name :: rest) entries = none := by
  obtain ⟨next, rest, rfl⟩ := List.exists_cons_of_ne_nil hrest
  rw [at?_cons, h, Option.bind_some, find?]
  rfl

/-- Where a directory is seen, one is found. -/
theorem exists_find?_directory (h : at? names entries = some .directory) :
    ∃ inner, (Entry.directory entries).find? names = some (.directory inner) := by
  obtain ⟨e, hfind, hoccupant⟩ := Option.map_eq_some_iff.mp h
  cases e with
  | file content => cases hoccupant
  | directory inner => exact ⟨inner, hfind⟩

/-- Where a file is seen, it is found with what it holds. -/
theorem find?_of_at?_file (h : at? names entries = some (.file content)) :
    (Entry.directory entries).find? names = some (.file content) := by
  obtain ⟨e, hfind, hoccupant⟩ := Option.map_eq_some_iff.mp h
  cases e with
  | file content => rw [hfind, ← Occupant.file.inj hoccupant]
  | directory inner => cases hoccupant

/-- What leads somewhere leads through directories. -/
theorem at?_of_prefix_ne {o : Occupant} (h : at? v entries = some o) (huv : u <+: v) (hne : u ≠ v) :
    at? u entries = some .directory := by
  induction u generalizing v entries with
  | nil => exact at?_nil entries
  | cons name u ih =>
    obtain ⟨rest, rfl⟩ := huv
    have hrest : u ++ rest ≠ [] := by
      rintro hnil
      obtain ⟨rfl, rfl⟩ := List.append_eq_nil_iff.mp hnil
      exact hne rfl
    cases hlookup : entries.lookup name with
    | none => rw [List.cons_append, at?_cons_none hlookup] at h; cases h
    | some e =>
      cases e with
      | file content => rw [List.cons_append, at?_cons_file hlookup hrest] at h; cases h
      | directory inner =>
        rw [List.cons_append, at?_cons_directory hlookup] at h
        rw [at?_cons_directory hlookup]
        exact ih h (List.prefix_append u rest) fun heq => hne (by rw [List.cons_append, ← heq])

/-! ### Replaced entries -/

/-- A replaced entry is found under its name, and everything else as before. -/
theorem lookup_replace (name : String) (e : Entry) (entries : List (String × Entry)) (n : String) :
    (replace name e entries).lookup n = if n = name then some e else entries.lookup n := by
  induction entries with
  | nil => by_cases hn : n = name <;> simp [replace, hn]
  | cons entry rest ih =>
    obtain ⟨m, old⟩ := entry
    by_cases hm : n = m
    · subst hm
      by_cases hn : n = name <;> simp [replace, hn]
    · have hbeq : (n == m) = false := by simpa using hm
      by_cases hn : m = name
      · subst hn
        simp [replace, List.lookup_cons, hbeq, hm]
      · rw [replace, if_neg hn, List.lookup_cons, hbeq, List.lookup_cons, hbeq]
        exact ih

/-- Elsewhere nothing changes. -/
theorem at?_replace_of_ne (e : Entry) (h : n ≠ name) :
    at? (n :: rest) (replace name e entries) = at? (n :: rest) entries := by
  rw [at?_cons, lookup_replace, if_neg h, at?_cons]

theorem lookup_replace_self (name : String) (e : Entry) (entries : List (String × Entry)) :
    (replace name e entries).lookup name = some e := by
  rw [lookup_replace, if_pos rfl]

/-- Where there is no file, there is a directory or a place for one. -/
theorem exists_inner (h : ∀ content, at? [name] entries ≠ some (.file content)) :
    ∃ inner, (entries.lookup name = some (.directory inner) ∨
        entries.lookup name = none ∧ inner = []) ∧
      ∀ u, u ≠ [] → at? (name :: u) entries = at? u inner := by
  cases hlookup : entries.lookup name with
  | none =>
    refine ⟨[], .inr ⟨rfl, rfl⟩, fun u hu => ?_⟩
    obtain ⟨next, u, rfl⟩ := List.exists_cons_of_ne_nil hu
    rw [at?_cons_none hlookup, at?_cons_none rfl]
  | some e =>
    cases e with
    | file content => exact absurd (at?_singleton_file hlookup) (h content)
    | directory inner => exact ⟨inner, .inl rfl, fun u _ => at?_cons_directory hlookup⟩

/-- A file inside an entry is a file inside the directory that holds the entry. -/
theorem at?_cons_of_inner (hinner : ∀ u, u ≠ [] → at? (name :: u) entries = at? u inner)
    (h : at? u inner = some (.file content)) : at? (name :: u) entries = some (.file content) := by
  have hne : u ≠ [] := by
    rintro rfl
    rw [at?_nil] at h
    cases h
  rw [hinner u hne, h]

/-- Replacing a directory changes what is behind its name and nothing else. -/
theorem at?_replace_directory (name : String) (inner entries : List (String × Entry)) (n : String)
    (u : List String) : at? (n :: u) (replace name (.directory inner) entries) =
      if n = name then at? u inner else at? (n :: u) entries := by
  split
  · next hn => rw [hn, at?_cons_directory (lookup_replace_self _ _ _)]
  · next hn => exact at?_replace_of_ne _ hn

/-! ### Directories -/

/-- Directories can be made wherever no file is in the way, and nothing else changes. -/
theorem exists_makeDirectories
    (h : ∀ u, u <+: names → ∀ content, at? u entries ≠ some (.file content)) :
    ∃ entries', makeDirectories names entries = .ok entries' ∧
      ∀ u, at? u entries' = if u <+: names then some .directory else at? u entries := by
  induction names generalizing entries with
  | nil =>
    refine ⟨entries, rfl, fun u => ?_⟩
    split
    · next hu => rw [List.prefix_nil.mp hu, at?_nil]
    · rfl
  | cons name rest ih =>
    -- the first name is that of a directory, or nothing is there and an empty one is made
    obtain ⟨inner, hlookup, hinner⟩ := exists_inner (h [name] (List.prefix_cons_inj name |>.mpr
      (List.nil_prefix)))
    have hfree : ∀ u, u <+: rest → ∀ content, at? u inner ≠ some (.file content) :=
      fun u hu content hfile =>
        h (name :: u) ((List.prefix_cons_inj name).mpr hu) content (at?_cons_of_inner hinner hfile)
    obtain ⟨inner', hmake, hat⟩ := ih hfree
    refine ⟨replace name (.directory inner') entries, ?_, fun u => ?_⟩
    · obtain hlookup | ⟨hlookup, rfl⟩ := hlookup <;> rw [makeDirectories, hlookup] <;>
        simp only [hmake] <;> rfl
    · cases u with
      | nil => simp
      | cons n u =>
        rw [at?_replace_directory, hat]
        by_cases hn : n = name
        · by_cases hnil : u = []
          · simp [hn, hnil]
          · simp [hn, hinner u hnil]
        · simp [hn]

/-! ### Files -/

/-- A file can be written in a directory under a name that is not that of a directory. -/
theorem exists_write_last (content : ByteArray) (hplace : at? [name] entries ≠ some .directory) :
    ∃ entries', write content [name] entries = .ok entries' ∧
      ∀ u, at? u entries' = if u = [name] then some (.file content)
        else if u <+: [name] then some .directory else at? u entries := by
  have hlookup : ∀ inner, entries.lookup name ≠ some (.directory inner) := by
    intro inner hlookup
    exact hplace (by rw [at?_cons_directory hlookup, at?_nil])
  have hnothing : ∀ u, u ≠ [] → at? (name :: u) entries = none := by
    intro u hu
    cases he : entries.lookup name with
    | none => exact at?_cons_none he
    | some e =>
      cases e with
      | file content => exact at?_cons_file he hu
      | directory inner => exact absurd he (hlookup inner)
  refine ⟨replace name (.file content) entries, ?_, fun u => ?_⟩
  · rw [write]
    split
    · next inner hinner => exact absurd hinner (hlookup inner)
    · rfl
  · cases u with
    | nil => simp
    | cons n u =>
      by_cases hn : n = name
      · subst hn
        by_cases hnil : u = []
        · rw [hnil, at?_singleton_file (lookup_replace_self _ _ _), if_pos rfl]
        · rw [at?_cons_file (lookup_replace_self _ _ _) hnil]
          simp [hnil, hnothing u hnil]
      · rw [at?_replace_of_ne _ hn]
        simp [hn]

/-- A file can be written where no directory is and no file is in the way. Directories are made on
the way to it, and nothing else changes. -/
theorem exists_write (content : ByteArray) (hne : names ≠ [])
    (hfree : ∀ u, u <+: names → u ≠ names → ∀ content, at? u entries ≠ some (.file content))
    (hplace : at? names entries ≠ some .directory) :
    ∃ entries', write content names entries = .ok entries' ∧
      ∀ u, at? u entries' = if u = names then some (.file content)
        else if u <+: names then some .directory else at? u entries := by
  induction names generalizing entries with
  | nil => exact absurd rfl hne
  | cons name rest ih =>
    cases rest with
    | nil => exact exists_write_last content hplace
    | cons next rest =>
      -- what stands in the way below the first directory stands in the way of the whole path
      obtain ⟨inner, hlookup, hinner⟩ := exists_inner
        (hfree [name] ((List.prefix_cons_inj name).mpr List.nil_prefix) (by simp))
      have hfree' : ∀ u, u <+: next :: rest → u ≠ next :: rest →
          ∀ content, at? u inner ≠ some (.file content) := by
        intro u hu hune content hfile
        exact hfree (name :: u) ((List.prefix_cons_inj name).mpr hu) (by simpa using hune) content
          (at?_cons_of_inner hinner hfile)
      have hplace' : at? (next :: rest) inner ≠ some .directory := by
        rw [← hinner _ (List.cons_ne_nil _ _)]
        exact hplace
      obtain ⟨inner', hwrite, hat⟩ := ih (List.cons_ne_nil _ _) hfree' hplace'
      refine ⟨replace name (.directory inner') entries, ?_, fun u => ?_⟩
      · obtain hlookup | ⟨hlookup, rfl⟩ := hlookup <;> rw [write, hlookup] <;>
          simp only [hwrite] <;> rfl
      · cases u with
        | nil => simp
        | cons n u =>
          rw [at?_replace_directory, hat]
          by_cases hn : n = name
          · by_cases hnil : u = []
            · simp [hn, hnil]
            · simp [hn, hinner u hnil]
          · simp [hn]

end Entry

namespace FileSystem

variable {fs : FileSystem} {step path text : String} {names u v steps : List String}

/-- What is at a place. -/
def at? (fs : FileSystem) (names : List String) : Option Occupant := Entry.at? names fs.entries

/-- Whatever leads to a directory is one. -/
theorem at?_of_prefix_directory (h : fs.at? v = some .directory) (hu : u <+: v) :
    fs.at? u = some .directory := by
  by_cases heq : u = v
  · rw [heq, h]
  · exact Entry.at?_of_prefix_ne h hu heq

/-! ### Places on the way -/

/-- The places that steps lead through from a place, up to the one before the last step. -/
def passed : (names steps : List String) → List (List String)
  | _, [] => []
  | names, step :: rest =>
    names :: passed (if step = ".." then names.dropLast else names ++ [step]) rest

/-- Where a path leads, by its steps alone. -/
def place (fs : FileSystem) (path : String) : List String :=
  (plan (fs.start path) (Path.steps path)).2

/-- The places that a path leads through before it is at its own: where it starts, and where each
step but the last leads. -/
def ancestors (fs : FileSystem) (path : String) : List (List String) :=
  passed (fs.start path) (Path.steps path)

theorem start_congr {fs' : FileSystem} (h : fs'.directory = fs.directory) (path : String) :
    fs'.start path = fs.start path := by
  rw [start, start, h]

/-- Where a path leads depends on nothing but the working directory. -/
theorem place_congr {fs' : FileSystem} (h : fs'.directory = fs.directory) :
    fs'.place path = fs.place path := by
  rw [place, start_congr h, place]

theorem ancestors_congr {fs' : FileSystem} (h : fs'.directory = fs.directory) :
    fs'.ancestors path = fs.ancestors path := by
  rw [ancestors, start_congr h, ancestors]

theorem plan_up (names steps : List String) : plan names (".." :: steps) =
    (names :: (plan names.dropLast steps).1, (plan names.dropLast steps).2) := by
  rw [plan, if_pos rfl]

theorem plan_down (names : List String) (h : step ≠ "..") (steps : List String) :
    plan names (step :: steps) = plan (names ++ [step]) steps := by
  rw [plan, if_neg h]

theorem passed_up (names steps : List String) :
    passed names (".." :: steps) = names :: passed names.dropLast steps := by
  rw [passed, if_pos rfl]

theorem passed_down (names : List String) (h : step ≠ "..") (steps : List String) :
    passed names (step :: steps) = names :: passed (names ++ [step]) steps := by
  rw [passed, if_neg h]

/-- With one more step, the end is passed too. -/
theorem passed_concat (names steps : List String) (step : String) :
    passed names (steps ++ [step]) = passed names steps ++ [(plan names steps).2] := by
  induction steps generalizing names with
  | nil => rfl
  | cons first steps ih =>
    rw [List.cons_append]
    by_cases hup : first = ".."
    · subst hup
      rw [passed_up, passed_up, plan_up, ih, List.cons_append]
    · rw [passed_down _ hup, passed_down _ hup, plan_down _ hup, ih, List.cons_append]

/-- Steps upwards leave places that are passed. -/
theorem mem_passed_of_left (h : v ∈ (plan names steps).1) : v ∈ passed names steps := by
  induction steps generalizing names with
  | nil => cases h
  | cons step steps ih =>
    by_cases hup : step = ".."
    · subst hup
      rw [plan_up] at h
      rw [passed_up]
      exact (List.mem_cons.mp h).elim (fun heq => heq ▸ .head _) fun hmem => .tail _ (ih hmem)
    · rw [plan_down _ hup] at h
      rw [passed_down _ hup]
      exact .tail _ (ih h)

/-- Whatever leads to a place on the way leads to the start already, or is on the way itself. -/
theorem prefix_passed (hv : v ∈ passed names steps) (hu : u <+: v) :
    u <+: names ∨ u ∈ passed names steps := by
  induction steps generalizing names with
  | nil => cases hv
  | cons step steps ih =>
    by_cases hup : step = ".."
    · subst hup
      rw [passed_up] at hv
      rw [passed_up]
      obtain rfl | hv := List.mem_cons.mp hv
      · exact .inl hu
      · exact (ih hv).imp (fun h => h.trans (List.dropLast_prefix names)) (.tail _)
    · rw [passed_down _ hup] at hv
      rw [passed_down _ hup]
      obtain rfl | hv := List.mem_cons.mp hv
      · exact .inl hu
      · obtain hstart | hlater := ih hv
        · obtain rfl | hstart := List.prefix_concat_iff.mp hstart
          · obtain ⟨next, steps, rfl⟩ : ∃ next rest, steps = next :: rest :=
              List.exists_cons_of_ne_nil (by rintro rfl; cases hv)
            exact .inr (.tail _ (.head _))
          · exact .inl hstart
        · exact .inr (.tail _ hlater)

/-- The same for what leads to the end, up to the end itself. -/
theorem prefix_place (hu : u <+: (plan names steps).2) (hne : u ≠ (plan names steps).2) :
    u <+: names ∨ u ∈ passed names steps := by
  have hpassed : (plan names steps).2 ∈ passed names (steps ++ [""]) := by
    rw [passed_concat]
    exact List.mem_append_right _ (.head _)
  refine (prefix_passed hpassed hu).imp_right fun h => ?_
  rw [passed_concat, List.mem_append, List.mem_singleton] at h
  exact h.resolve_right hne

/-! ### Making directories -/

theorem makeAll_up (made : Bool) (names steps : List String) (fs : FileSystem) :
    makeAll made names (".." :: steps) fs = makeAll made names.dropLast steps fs := by
  rw [makeAll, if_pos rfl]

/-- A directory that is there is gone through. -/
theorem makeAll_directory (made : Bool) (hstep : step ≠ "..") (steps : List String)
    (h : fs.at? (names ++ [step]) = some .directory) :
    makeAll made names (step :: steps) fs = makeAll made (names ++ [step]) steps fs := by
  obtain ⟨inner, hinner⟩ := Entry.exists_find?_directory h
  rw [makeAll, if_neg hstep, root, hinner]

/-- Where nothing is and no file is in the way, a directory is made. -/
theorem exists_makeAll_none (made : Bool) (hstep : step ≠ "..") (steps : List String)
    (hnone : fs.at? (names ++ [step]) = none)
    (hfree : ∀ u, u <+: names ++ [step] → ∀ content, fs.at? u ≠ some (.file content)) :
    ∃ fs', makeAll made names (step :: steps) fs = makeAll true (names ++ [step]) steps fs' ∧
      fs'.directory = fs.directory ∧
      ∀ u, fs'.at? u = if u <+: names ++ [step] then some .directory else fs.at? u := by
  obtain ⟨entries, hmake, hat⟩ := Entry.exists_makeDirectories hfree
  have hfind : fs.root.find? (names ++ [step]) = none := Option.map_eq_none_iff.mp hnone
  refine ⟨{ fs with entries }, ?_, rfl, hat⟩
  rw [makeAll, if_neg hstep, hfind]
  simp only [hmake]

/-- A step down passes a place where there is no file: there is a directory, or one is made, and
then there is no further change than directories above. -/
theorem exists_makeAll_down (made : Bool) (hstep : step ≠ "..") (steps : List String)
    (hfree : ∀ u, u <+: names ++ [step] → ∀ content, fs.at? u ≠ some (.file content)) :
    ∃ made' fs', makeAll made names (step :: steps) fs = makeAll made' (names ++ [step]) steps fs' ∧
      fs'.directory = fs.directory ∧ fs'.at? (names ++ [step]) = some .directory ∧
      ∀ u, fs'.at? u = fs.at? u ∨ fs'.at? u = some .directory ∧ u <+: names ++ [step] := by
  cases hoccupant : fs.at? (names ++ [step]) with
  | none =>
    obtain ⟨fs', hmake, hdirectory, hat⟩ := exists_makeAll_none made hstep steps hoccupant hfree
    refine ⟨true, fs', hmake, hdirectory, ?_, fun u => ?_⟩
    · rw [hat, if_pos (List.prefix_refl _)]
    · rw [hat]
      split
      · next hu => exact .inr ⟨rfl, hu⟩
      · exact .inl rfl
  | some o =>
    cases o with
    | file content => exact absurd hoccupant (hfree _ (List.prefix_refl _) content)
    | directory =>
      exact ⟨made, fs, makeAll_directory made hstep steps hoccupant, rfl, hoccupant,
        fun u => .inl rfl⟩

/-- Directories can be made on a way that no file is in. They are made on the way only, and all
places on the way are directories then, if the way begins at one. -/
theorem exists_makeAll (made : Bool) (last : String)
    (hfree : ∀ v ∈ passed names (steps ++ [last]), ∀ u, u <+: v →
      ∀ content, fs.at? u ≠ some (.file content)) :
    ∃ fs', makeAll made names steps fs = (.ok (), fs') ∧ fs'.directory = fs.directory ∧
      (∀ u, fs'.at? u = fs.at? u ∨
        fs'.at? u = some .directory ∧ ∃ v ∈ passed names (steps ++ [last]), u <+: v) ∧
      (fs.at? names = some .directory →
        ∀ v ∈ passed names (steps ++ [last]), fs'.at? v = some .directory) := by
  induction steps generalizing made names fs with
  | nil =>
    refine ⟨fs, rfl, rfl, fun u => .inl rfl, fun hnames v hv => ?_⟩
    obtain rfl := List.mem_singleton.mp hv
    exact hnames
  | cons step steps ih =>
    rw [List.cons_append] at hfree ⊢
    by_cases hup : step = ".."
    · subst hup
      rw [passed_up] at hfree ⊢
      obtain ⟨fs', hmake, hdirectory, hat, hway⟩ := ih made fun v hv => hfree v (.tail _ hv)
      rw [makeAll_up]
      refine ⟨fs', hmake, hdirectory, fun u => ?_, fun hnames v hv => ?_⟩
      · exact (hat u).imp_right fun ⟨hu, v, hv, huv⟩ => ⟨hu, v, .tail _ hv, huv⟩
      · have hparent := at?_of_prefix_directory hnames (List.dropLast_prefix names)
        obtain rfl | hv := List.mem_cons.mp hv
        · -- the start of the way was a directory before, and no directory is taken away
          exact (hat v).elim (fun heq => heq.trans hnames) And.left
        · exact hway hparent v hv
    · rw [passed_down _ hup] at hfree ⊢
      have hnext : names ++ [step] ∈ passed (names ++ [step]) (steps ++ [last]) := by
        cases steps <;> exact .head _
      obtain ⟨made', between, hmake, hdirectory, hstep, hbetween⟩ :=
        exists_makeAll_down made hup steps (hfree _ (.tail _ hnext))
      -- the first step makes directories only, so there are still no files on the rest of the way
      have hstill : ∀ v ∈ passed (names ++ [step]) (steps ++ [last]), ∀ u, u <+: v →
          ∀ content, between.at? u ≠ some (.file content) := by
        intro v hv u hu content
        obtain heq | ⟨heq, -⟩ := hbetween u
        · rw [heq]
          exact hfree v (.tail _ hv) u hu content
        · rw [heq]
          exact fun heq => by cases heq
      obtain ⟨fs', hrest, hdirectory', hat, hway⟩ := ih made' hstill
      refine ⟨fs', hmake.trans hrest, hdirectory'.trans hdirectory, fun u => ?_,
        fun hnames v hv => ?_⟩
      · obtain heq | ⟨hu, v, hv, huv⟩ := hat u
        · rw [heq]
          exact (hbetween u).imp_right fun ⟨hu, huv⟩ => ⟨hu, _, .tail _ hnext, huv⟩
        · exact .inr ⟨hu, v, .tail _ hv, huv⟩
      · obtain rfl | hv := List.mem_cons.mp hv
        · have hkept : between.at? v = some .directory :=
            (hbetween v).elim (fun heq => heq.trans hnames) And.left
          exact (hat v).elim (fun heq => heq.trans hkept) And.left
        · exact hway hstep v hv

/-! ### Writing a file -/

/-- Nothing is in the way of a file at a path: the path ends in a name, its place is neither a
directory nor one that the path leads through, and no file is on the way. -/
structure Admits (fs : FileSystem) (path : String) : Prop where
  /-- The working directory is there. -/
  working : fs.at? fs.directory = some .directory
  /-- The path does not end in a slash or a period of its own. -/
  named : Path.namesDirectory path = false
  place : fs.at? (fs.place path) ≠ some .directory
  apart : fs.place path ∉ fs.ancestors path
  ancestors : ∀ names ∈ fs.ancestors path, fs.at? names = none ∨ fs.at? names = some .directory

/-- A path that ends in a name is not empty. -/
theorem isEmpty_eq_false (h : Path.namesDirectory path = false) : path.isEmpty = false := by
  rw [Bool.eq_false_iff]
  intro hempty
  obtain rfl : path = "" := String.isEmpty_iff.mp hempty
  exact absurd h (by decide)

namespace Admits

/-- Whatever leads to the start of a path is a directory. -/
theorem at?_start (h : fs.Admits path) (hu : u <+: fs.start path) : fs.at? u = some .directory := by
  have hstart : fs.at? (fs.start path) = some .directory := by
    rw [start]
    split
    · exact Entry.at?_nil fs.entries
    · exact h.working
  exact at?_of_prefix_directory hstart hu

/-- On the way to where a path is admitted, no file is in the way. -/
theorem noFile (h : fs.Admits path) (hu : u <+: fs.start path ∨ u ∈ fs.ancestors path)
    (content : ByteArray) : fs.at? u ≠ some (.file content) := by
  obtain hu | hu := hu
  · rw [h.at?_start hu]
    exact fun heq => by cases heq
  · obtain hnone | hdirectory := h.ancestors u hu
    · rw [hnone]
      exact fun heq => by cases heq
    · rw [hdirectory]
      exact fun heq => by cases heq

end Admits

/-- If directories can be made on the way to a path, what is written is the file there. -/
theorem writeText_of_makeAll {between : FileSystem} (hnamed : Path.namesDirectory path = false)
    (hmake : makeAll false (fs.start path) (Path.steps path).dropLast fs = (.ok (), between))
    (text : String) : fs.writeText path text =
      match Entry.write text.toUTF8 (fs.place path) between.entries with
      | .ok entries => (.ok (), { between with entries })
      | .error fault => (.error fault, between) := by
  rw [writeText, isEmpty_eq_false hnamed, hmake]
  simp only [hnamed, Bool.false_eq_true, if_false]
  rfl

/-- A file can be written where nothing is in the way. All places that its path leads through are
directories then, and nothing else changes. -/
theorem exists_writeText (h : fs.Admits path) (text : String) :
    ∃ fs', fs.writeText path text = (.ok (), fs') ∧ fs'.directory = fs.directory ∧
      ∀ u, fs'.at? u = if u = fs.place path then some (.file text.toUTF8)
        else if u ∈ fs.ancestors path then some .directory else fs.at? u := by
  have hstart : fs.at? (fs.start path) = some .directory := h.at?_start (List.prefix_refl _)
  have hsteps : Path.steps path ≠ [] := by
    intro hnil
    refine h.place ?_
    rw [place, hnil]
    exact hstart
  have hne : fs.place path ≠ [] := by
    intro hnil
    exact h.place (hnil ▸ Entry.at?_nil fs.entries)
  obtain ⟨steps, last, heq⟩ : ∃ steps last, Path.steps path = steps ++ [last] :=
    ⟨_, _, (List.dropLast_concat_getLast hsteps).symm⟩
  have hancestors : fs.ancestors path = passed (fs.start path) (steps ++ [last]) := by
    rw [ancestors, heq]
  have hclear : ∀ v ∈ passed (fs.start path) (steps ++ [last]), ∀ u, u <+: v →
      ∀ content, fs.at? u ≠ some (.file content) :=
    fun v hv u hu => h.noFile (hancestors ▸ prefix_passed hv hu)
  obtain ⟨between, hmake, hdirectory, hat, hway⟩ := exists_makeAll false last hclear
  rw [← hancestors] at hat hway
  -- making the directories leaves the place itself free
  have hplace : Entry.at? (fs.place path) between.entries ≠ some .directory := by
    intro hdir
    obtain hsame | ⟨-, v, hv, hleads⟩ := hat (fs.place path)
    · exact h.place (hsame.symm.trans hdir)
    · obtain hstart | hpassed := prefix_passed hv hleads
      · exact h.place (h.at?_start hstart)
      · exact h.apart hpassed
  have hfree : ∀ u, u <+: fs.place path → u ≠ fs.place path →
      ∀ content, Entry.at? u between.entries ≠ some (.file content) := by
    intro u hu hune content hfile
    obtain hsame | ⟨hdir, -⟩ := hat u
    · exact h.noFile (prefix_place hu hune) content (hsame.symm.trans hfile)
    · cases hdir.symm.trans hfile
  obtain ⟨entries, hwrite, hentries⟩ := Entry.exists_write text.toUTF8 hne hfree hplace
  refine ⟨{ between with entries }, ?_, hdirectory, fun u => ?_⟩
  · have hmake' : makeAll false (fs.start path) (Path.steps path).dropLast fs =
        (.ok (), between) := by
      rw [heq, List.dropLast_concat, hmake]
    rw [writeText_of_makeAll h.named hmake' text, hwrite]
  · show Entry.at? u entries = _
    rw [hentries]
    by_cases hu : u = fs.place path
    · rw [if_pos hu, if_pos hu]
    rw [if_neg hu, if_neg hu]
    by_cases hmem : u ∈ fs.ancestors path
    · rw [if_pos hmem]
      split
      · rfl
      · exact hway hstart u hmem
    -- elsewhere only places that lead to the start are made, and they are directories already
    · have hstill (hleads : u <+: fs.start path ∨ u ∈ fs.ancestors path) :
          some .directory = fs.at? u := (h.at?_start (hleads.resolve_right hmem)).symm
      rw [if_neg hmem]
      split
      · next hleads => exact hstill (prefix_place hleads hu)
      · obtain hsame | ⟨hdir, v, hv, hleads⟩ := hat u
        · exact hsame
        · exact hdir.trans (hstill (prefix_passed hv hleads))

/-! ### Finding a file -/

/-- Steps can be followed if every place that they leave upwards is a directory. -/
theorem follow_eq (h : ∀ v ∈ (plan names steps).1, fs.at? v = some .directory) :
    follow fs.root names steps = some (plan names steps).2 := by
  induction steps generalizing names with
  | nil => rfl
  | cons step steps ih =>
    by_cases hup : step = ".."
    · subst hup
      rw [plan_up] at h
      obtain ⟨inner, hinner⟩ := Entry.exists_find?_directory (h names (.head _))
      rw [plan_up, follow, if_pos rfl, root, hinner]
      exact ih fun v hv => h v (.tail _ hv)
    · rw [plan_down _ hup] at h
      rw [plan_down _ hup, follow, if_neg hup]
      exact ih h

/-- A file is found at a path that leads to its place through directories. -/
theorem find?_of_at? {content : ByteArray} (hnamed : Path.namesDirectory path = false)
    (hancestors : ∀ v ∈ fs.ancestors path, fs.at? v = some .directory)
    (hplace : fs.at? (fs.place path) = some (.file content)) :
    fs.find? path = some (.file content) := by
  have hnames : fs.names? path = some (fs.place path) := by
    rw [names?, isEmpty_eq_false hnamed]
    exact follow_eq fun v hv => hancestors v (mem_passed_of_left hv)
  have hfile : fs.root.find? (fs.place path) = some (.file content) :=
    Entry.find?_of_at?_file hplace
  rw [find?, hnames]
  show (do
    let e ← fs.root.find? (fs.place path)
    if Path.namesDirectory path && !e.isDirectory then none else some e) = _
  rw [hfile, hnamed]
  rfl

end FileSystem

end BoundaryContract
