import BoundaryContract.Proofs.Document

/-!
# Configurations from partial documents

A configuration has a content for each of its settings (`Config.content`), and is determined by
these (`content_injective`). A document that gives some settings in some order, each at most once,
with unknown names among them, asks for the configuration that has the content of the document where
there is one and the content of the default settings elsewhere (`exists_gives`).

Sections and settings are walked through in the same way, entry by entry, so the induction is done
once (`exists_entriesGive`) for any part of the settings that an entry can change.
-/

namespace BoundaryContract.Config

/-- The settings of a configuration. -/
inductive Key
  | backend
  | tier
  | format
  | color
  | level
  | logFormat
  | threadIds
deriving DecidableEq

namespace Key

/-- The name of the section that a setting belongs to. -/
def sectionName : Key → String
  | .backend | .tier => "suite"
  | .format | .color => "output"
  | .level | .logFormat | .threadIds => "logging"

/-- The name of a setting in its section. -/
def name : Key → String
  | .backend => "backend"
  | .tier => "tier"
  | .format | .logFormat => "format"
  | .color => "color"
  | .level => "level"
  | .threadIds => "thread_ids"

/-- The section that a setting belongs to. -/
def ofSection : Key → Section Config
  | .backend | .tier => suiteSection
  | .format | .color => outputSection
  | .level | .logFormat | .threadIds => loggingSection

theorem eq_of_names {key key' : Key} (hsection : key.sectionName = key'.sectionName)
    (hname : key.name = key'.name) : key = key' := by
  cases key <;> cases key' <;>
    first | rfl | exact absurd hsection (by decide) | exact absurd hname (by decide)

theorem lookup_sectionName (key : Key) :
    shape.sections.lookup key.sectionName = some key.ofSection := by
  cases key <;> rfl

/-- All settings. -/
def all : List Key := [backend, tier, format, color, level, logFormat, threadIds]

theorem exists_sectionName {s : String} (h : s ∈ shape.sections.map Prod.fst) :
    ∃ key : Key, key.sectionName = s := by
  have hall : ∀ s ∈ shape.sections.map Prod.fst, ∃ key ∈ all, key.sectionName = s := by decide
  obtain ⟨key, -, hkey⟩ := hall s h
  exact ⟨key, hkey⟩

/-- Every known name belongs to a setting. -/
theorem exists_of_lookup {s : String} {sec : Section Config} {name : String}
    (hlookup : shape.sections.lookup s = some sec) (hname : name ∈ sec.settings.map Prod.fst) :
    ∃ key : Key, key.sectionName = s ∧ key.name = name := by
  have hall : ∀ entry ∈ shape.sections, ∀ name ∈ entry.2.settings.map Prod.fst,
      ∃ key ∈ all, key.sectionName = entry.1 ∧ key.name = name := by decide
  obtain ⟨before, after, heq, -⟩ := List.lookup_eq_some_iff.mp hlookup
  have hsection : (s, sec) ∈ shape.sections := by
    rw [heq]
    simp
  obtain ⟨key, -, hkey⟩ := hall (s, sec) hsection name hname
  exact ⟨key, hkey⟩

end Key

/-- The content of a setting. -/
def content (c : Config) : Key → Content
  | .backend => .text c.suite.backend.name
  | .tier => .text c.suite.tier.name
  | .format => .text c.output.format.name
  | .color => .flag c.output.color
  | .level => .ofOption c.logging.level
  | .logFormat => .ofOption c.logging.format
  | .threadIds => .flag c.logging.threadIds

/-! ### Single settings -/

/-- Where all have names of their own, each is found under its name. -/
theorem lookup_named {α β : Type} {name : α → String} (hname : name.Injective) (set : α → β)
    {all : List α} {a : α} (ha : a ∈ all) :
    (all.map fun a => (name a, set a)).lookup (name a) = some (set a) := by
  induction all with
  | nil => cases ha
  | cons b all ih =>
    rw [List.map_cons]
    by_cases hab : a = b
    · rw [hab, List.lookup_cons_self]
    · have hne : (name a == name b) = false := by simpa using fun h => hab (hname h)
      rw [List.lookup_cons, hne]
      exact ih ((List.mem_cons.mp ha).resolve_left hab)

/-- A name that belongs to one of some alternatives sets that one. -/
theorem gives_named {α : Type} {all : List α} {name : α → String} (hname : name.Injective)
    (set : α → Config → Config) {a : α} (ha : a ∈ all) :
    (named all name set).Gives (.text (name a)) (set a) := by
  have hmem : name a ∈ (all.map fun a => (name a, set a)).map Prod.fst := by
    rw [List.map_map]
    exact List.mem_map_of_mem ha
  have hchosen : chosen (all.map fun a => (name a, set a)) (name a) = set a := by
    rw [chosen, lookup_named hname set ha]
    rfl
  exact hchosen ▸ Setting.Gives.choice hmem

theorem gives_ofOption (set : Option String → Config → Config) (s : Option String) :
    (Setting.text set).Gives (.ofOption s) (set s) := by
  cases s with
  | none => exact .nothing set
  | some s => exact .text set s

theorem backendName_injective : Function.Injective Backend.name := by
  intro a b h
  cases a <;> cases b <;> first | rfl | exact absurd h (by decide)

theorem tierName_injective : Function.Injective Tier.name := by
  intro a b h
  cases a <;> cases b <;> first | rfl | exact absurd h (by decide)

theorem formatName_injective : Function.Injective Format.name := by
  intro a b h
  cases a <;> cases b <;> first | rfl | exact absurd h (by decide)

/-- A content of a setting gives the setting, and nothing else. -/
theorem exists_change (key : Key) (c₀ : Config) : ∃ setting change,
    key.ofSection.settings.lookup key.name = some setting ∧
    setting.Gives (c₀.content key) change ∧
    ∀ c key', (change c).content key' =
      if key' = key then c₀.content key else c.content key' := by
  -- every setting is written by one entry, which changes this setting only
  cases key with
  | backend =>
    have hgives := gives_named backendName_injective (fun b c => { c with suite.backend := b })
      (show c₀.suite.backend ∈ Backend.all by cases c₀.suite.backend <;> decide)
    exact ⟨_, _, rfl, hgives, fun c key => by cases key <;> rfl⟩
  | tier =>
    have hgives := gives_named tierName_injective (fun t c => { c with suite.tier := t })
      (show c₀.suite.tier ∈ Tier.all by cases c₀.suite.tier <;> decide)
    exact ⟨_, _, rfl, hgives, fun c key => by cases key <;> rfl⟩
  | format =>
    have hgives := gives_named formatName_injective (fun f c => { c with output.format := f })
      (show c₀.output.format ∈ Format.all by cases c₀.output.format <;> decide)
    exact ⟨_, _, rfl, hgives, fun c key => by cases key <;> rfl⟩
  | color =>
    have hgives := Setting.Gives.flag (fun b (c : Config) => { c with output.color := b })
      c₀.output.color
    exact ⟨_, _, rfl, hgives, fun c key => by cases key <;> rfl⟩
  | level =>
    have hgives := gives_ofOption (fun s c => { c with logging.level := s }) c₀.logging.level
    exact ⟨_, _, rfl, hgives, fun c key => by cases key <;> rfl⟩
  | logFormat =>
    have hgives := gives_ofOption (fun s c => { c with logging.format := s }) c₀.logging.format
    exact ⟨_, _, rfl, hgives, fun c key => by cases key <;> rfl⟩
  | threadIds =>
    have hgives := Setting.Gives.flag (fun b (c : Config) => { c with logging.threadIds := b })
      c₀.logging.threadIds
    exact ⟨_, _, rfl, hgives, fun c key => by cases key <;> rfl⟩

theorem ofOption_injective : Function.Injective Content.ofOption := by
  intro a b h
  cases a <;> cases b <;> simp_all [Content.ofOption]

/-- A configuration is determined by its contents. -/
theorem content_injective : Function.Injective content := by
  intro c c' h
  have hbackend : c.suite.backend = c'.suite.backend :=
    backendName_injective (Content.text.inj (congrFun h .backend))
  have htier : c.suite.tier = c'.suite.tier :=
    tierName_injective (Content.text.inj (congrFun h .tier))
  have hformat : c.output.format = c'.output.format :=
    formatName_injective (Content.text.inj (congrFun h .format))
  have hcolor : c.output.color = c'.output.color := Content.flag.inj (congrFun h .color)
  have hlevel : c.logging.level = c'.logging.level := ofOption_injective (congrFun h .level)
  have hlogFormat : c.logging.format = c'.logging.format :=
    ofOption_injective (congrFun h .logFormat)
  have hthreadIds : c.logging.threadIds = c'.logging.threadIds :=
    Content.flag.inj (congrFun h .threadIds)
  obtain ⟨⟨_, _⟩, ⟨_, _⟩, ⟨_, _, _⟩⟩ := c
  obtain ⟨⟨_, _⟩, ⟨_, _⟩, ⟨_, _, _⟩⟩ := c'
  simp_all

/-! ### Entries -/

section Entries

variable {names seen : List String} {step : String → Content → Config → Config → Prop}
  {entries : List (String × Content)}

/-- Entries are gone through if every step can be made for a known name. If each step changes the
settings of its owner in a way of its own, the outcome has these changes and no others. -/
theorem exists_entriesGive (owner : Key → Option String) (value : Key → Content → Option Content)
    (howner : ∀ key name, owner key = some name → name ∈ names)
    (hcount : ∀ name ∈ names, (entries.map Prod.fst).count name ≤ 1)
    (hseen : ∀ name ∈ seen, name ∉ entries.map Prod.fst)
    (hstep : ∀ name content, (name, content) ∈ entries → name ∈ names → ∀ c,
      ∃ c', step name content c c' ∧ ∀ key, c'.content key =
        if owner key = some name then (value key content).getD (c.content key) else c.content key)
    (c : Config) : ∃ c', EntriesGive names step seen entries c c' ∧ ∀ key, c'.content key =
      ((owner key).bind fun name => (entries.lookup name).bind (value key)).getD
        (c.content key) := by
  -- what an entry changes stays as it is, since no later entry has its name
  induction entries generalizing seen c with
  | nil =>
    refine ⟨c, .nil, fun key => ?_⟩
    cases owner key <;> rfl
  | cons entry entries ih =>
    obtain ⟨name, content⟩ := entry
    have hcount' : ∀ name ∈ names, (entries.map Prod.fst).count name ≤ 1 := fun other hother =>
      (List.count_le_count_cons ..).trans (hcount other hother)
    have hstep' := fun other content hmem => hstep other content (List.mem_cons_of_mem _ hmem)
    by_cases hname : name ∈ names
    · have hrest : name ∉ entries.map Prod.fst := by
        have hle := hcount name hname
        rw [List.map_cons, List.count_cons_self] at hle
        exact List.count_eq_zero.mp (by omega)
      have hseen' : ∀ other ∈ name :: seen, other ∉ entries.map Prod.fst := by
        intro other hother
        obtain rfl | hother := List.mem_cons.mp hother
        · exact hrest
        · exact fun hmem => hseen other hother (List.mem_cons_of_mem _ hmem)
      obtain ⟨between, hbetween, hchange⟩ := hstep name content (List.mem_cons_self ..) hname c
      obtain ⟨c', hgives, hcontent⟩ := ih hcount' hseen' hstep' between
      have hnew : name ∉ seen := fun hmem => hseen name hmem (List.mem_cons_self ..)
      refine ⟨c', .known hname hnew hbetween hgives, fun key => ?_⟩
      rw [hcontent, hchange]
      cases hkey : owner key with
      | none => simp
      | some other =>
        by_cases heq : other = name
        · -- the setting is owned by this entry
          subst heq
          have hnone : entries.lookup other = none := by
            refine List.lookup_eq_none_iff.mpr fun entry hentry => ?_
            have hne : other ≠ entry.1 := fun heq => hrest (heq ▸ List.mem_map_of_mem hentry)
            simpa using hne
          simp [hnone]
        · have hne : (other == name) = false := by simpa using heq
          simp [List.lookup_cons, hne, heq]
    · have hseen' : ∀ other ∈ seen, other ∉ entries.map Prod.fst :=
        fun other hother hmem => hseen other hother (List.mem_cons_of_mem _ hmem)
      obtain ⟨c', hgives, hcontent⟩ := ih hcount' hseen' hstep' c
      refine ⟨c', .unknown hname hgives, fun key => ?_⟩
      rw [hcontent]
      cases hkey : owner key with
      | none => simp
      | some other =>
        have hne : (other == name) = false := by
          have hother : other ≠ name := fun heq => hname (heq ▸ howner key other hkey)
          simpa using hother
        simp [List.lookup_cons, hne]

end Entries

/-! ### Sections -/

/-- A section gives each of its settings at most once, with a content that the setting has in some
configuration. -/
def IsPartialSection (s : String) (settings : List (String × Content)) : Prop :=
  ∀ key : Key, key.sectionName = s → (settings.map Prod.fst).count key.name ≤ 1 ∧
    ∀ value, (key.name, value) ∈ settings → ∃ c : Config, c.content key = value

/-- A section that is given in part sets what it gives and keeps the rest. -/
theorem exists_section_gives {s : String} {sec : Section Config}
    {settings : List (String × Content)} (hlookup : shape.sections.lookup s = some sec)
    (h : IsPartialSection s settings) (c : Config) :
    ∃ c', sec.Gives (.mapping settings) c c' ∧ ∀ key : Key, c'.content key =
      if key.sectionName = s then (settings.lookup key.name).getD (c.content key)
      else c.content key := by
  have hknown : ∀ key : Key, key.sectionName = s → key.ofSection = sec := fun key hkey =>
    Option.some.inj (key.lookup_sectionName.symm.trans (hkey ▸ hlookup))
  let owner (key : Key) : Option String := if key.sectionName = s then some key.name else none
  have howner : ∀ key name, owner key = some name → name ∈ sec.settings.map Prod.fst := by
    intro key name hname
    obtain ⟨hkey, hname⟩ := Option.ite_none_right_eq_some.mp hname
    obtain rfl := Option.some.inj hname
    obtain ⟨setting, change, hsetting, -⟩ := exists_change key {}
    rw [← hknown key hkey]
    exact mem_map_of_lookup hsetting
  have hcount : ∀ name ∈ sec.settings.map Prod.fst, (settings.map Prod.fst).count name ≤ 1 := by
    intro name hname
    obtain ⟨key, hkey, rfl⟩ := Key.exists_of_lookup hlookup hname
    exact (h key hkey).1
  have hstep : ∀ name value, (name, value) ∈ settings → name ∈ sec.settings.map Prod.fst → ∀ c,
      ∃ c', sec.Sets name value c c' ∧ ∀ key : Key, c'.content key =
        if owner key = some name then (some value).getD (c.content key) else c.content key := by
    intro name value hmem hname c
    obtain ⟨key, hkey, rfl⟩ := Key.exists_of_lookup hlookup hname
    obtain ⟨c₀, rfl⟩ := (h key hkey).2 value hmem
    obtain ⟨setting, change, hsetting, hgives, hchange⟩ := exists_change key c₀
    rw [hknown key hkey] at hsetting
    refine ⟨change c, Section.sets_of_gives hsetting hgives c, fun key' => ?_⟩
    rw [hchange, Option.getD_some]
    -- within a section a name belongs to one setting
    by_cases heq : key' = key
    · have howner : owner key' = some key.name := by
        rw [heq]
        exact if_pos hkey
      rw [if_pos heq, if_pos howner]
    · rw [if_neg heq, if_neg]
      intro howner
      obtain ⟨hkey', hname⟩ := Option.ite_none_right_eq_some.mp howner
      exact heq (Key.eq_of_names (hkey'.trans hkey.symm) (Option.some.inj hname))
  obtain ⟨c', hgives, hcontent⟩ :=
    exists_entriesGive owner (fun _ value => some value) howner hcount (List.forall_mem_nil _)
      hstep c
  refine ⟨c', .mapping hgives, fun key => ?_⟩
  rw [hcontent]
  by_cases hkey : key.sectionName = s
  · simp [owner, hkey]
  · simp [owner, hkey]

/-! ### Documents -/

/-- A document gives each section at most once, as a mapping that gives each setting at most once,
with a content that the setting has in some configuration. Its other names can be any. -/
def IsPartial (doc : Content) : Prop :=
  ∃ entries, doc = .mapping entries ∧ ∀ key : Key,
    (entries.map Prod.fst).count key.sectionName ≤ 1 ∧
    ∀ value, (key.sectionName, value) ∈ entries → ∃ settings, value = .mapping settings ∧
      IsPartialSection key.sectionName settings

/-- What a document gives for a setting, if anything. -/
def given? (doc : Content) (key : Key) : Option Content :=
  (doc.entry? key.sectionName).bind (Content.entry? key.name)

/-- A configuration has what a document gives, and the default settings where it gives nothing. -/
def Overlays (doc : Content) (c : Config) : Prop :=
  ∀ key, c.content key = (given? doc key).getD (({} : Config).content key)

/-- A document lies over a configuration in one way only. -/
theorem Overlays.unique {doc : Content} {c c' : Config} (h : Overlays doc c)
    (h' : Overlays doc c') : c = c' :=
  content_injective (funext fun key => (h key).trans (h' key).symm)

/-- A partial document asks for the configuration that it lays over the default settings. -/
theorem exists_gives {doc : Content} (h : IsPartial doc) :
    ∃ c, shape.Gives doc {} c ∧ Overlays doc c := by
  obtain ⟨entries, rfl, h⟩ := h
  have howner : ∀ key name, some (Key.sectionName key) = some name →
      name ∈ shape.sections.map Prod.fst := by
    intro key name hname
    obtain rfl := Option.some.inj hname
    exact mem_map_of_lookup key.lookup_sectionName
  have hcount : ∀ name ∈ shape.sections.map Prod.fst, (entries.map Prod.fst).count name ≤ 1 := by
    intro name hname
    obtain ⟨key, rfl⟩ := Key.exists_sectionName hname
    exact (h key).1
  have hstep : ∀ name value, (name, value) ∈ entries → name ∈ shape.sections.map Prod.fst → ∀ c,
      ∃ c', shape.Sets name value c c' ∧ ∀ key : Key, c'.content key =
        if some key.sectionName = some name then (value.entry? key.name).getD (c.content key)
        else c.content key := by
    intro name value hmem hname c
    obtain ⟨key, rfl⟩ := Key.exists_sectionName hname
    obtain ⟨settings, rfl, hsettings⟩ := (h key).2 value hmem
    obtain ⟨c', hgives, hcontent⟩ := exists_section_gives key.lookup_sectionName hsettings c
    refine ⟨c', ⟨key.ofSection, key.lookup_sectionName, hgives⟩, fun key' => ?_⟩
    rw [hcontent, Content.entry?]
    simp only [Option.some.injEq]
  obtain ⟨c, hgives, hcontent⟩ := exists_entriesGive (fun key => some key.sectionName)
    (fun key value => value.entry? key.name) howner hcount (List.forall_mem_nil _) hstep {}
  exact ⟨c, .mapping hgives, hcontent⟩

end BoundaryContract.Config
