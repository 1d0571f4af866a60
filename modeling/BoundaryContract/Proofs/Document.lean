import BoundaryContract.Proofs.Document.Content
import BoundaryContract.Config

/-!
# What a document says about a record

`Shape.Gives` relates a record and the content of a document to the record that the document asks
for, whatever format it is written in: no known section and no known setting is named twice, all
that are named have a content of the right kind, and unknown names change nothing. Both readers give
that record (`Json.asShape_of_gives`, `Yaml.asShape_of_gives`), and both refuse a document that
names a section or a setting twice (`Json.not_repeats_of_asShape`, `Yaml.not_repeats_of_asShape`).
-/

namespace BoundaryContract

variable {α : Type}

/-- A content gives a setting, and makes a change. -/
inductive Setting.Gives : Setting α → Content → (α → α) → Prop
  | choice {options : List (String × (α → α))} {name : String} (h : name ∈ options.map Prod.fst) :
    Gives (.choice options) (.text name) (chosen options name)
  | flag (set : Bool → α → α) (b : Bool) : Gives (.flag set) (.flag b) (set b)
  | text (set : Option String → α → α) (s : String) : Gives (.text set) (.text s) (set (some s))
  | nothing (set : Option String → α → α) : Gives (.text set) .nothing (set none)

/-- Entries change a record one after another if their names are known, where no known name is used
again and the names `seen` have been used before. -/
inductive EntriesGive (names : List String) (step : String → Content → α → α → Prop) :
    (seen : List String) → List (String × Content) → α → α → Prop
  | nil {seen : List String} {record : α} : EntriesGive names step seen [] record record
  | known {seen : List String} {name : String} {content : Content}
    {entries : List (String × Content)} {record record' record'' : α} (hname : name ∈ names)
    (hnew : name ∉ seen) (hstep : step name content record record')
    (hrest : EntriesGive names step (name :: seen) entries record' record'') :
    EntriesGive names step seen ((name, content) :: entries) record record''
  | unknown {seen : List String} {name : String} {content : Content}
    {entries : List (String × Content)} {record record' : α} (hname : name ∉ names)
    (hrest : EntriesGive names step seen entries record record') :
    EntriesGive names step seen ((name, content) :: entries) record record'

/-- An entry gives a setting of a section. -/
def Section.Sets (sec : Section α) (name : String) (content : Content) (record record' : α) :
    Prop :=
  ∃ setting change, sec.settings.lookup name = some setting ∧ setting.Gives content change ∧
    record' = change record

/-- An entry sets what its setting is given. -/
theorem Section.sets_of_gives {sec : Section α} {setting : Setting α} {name : String}
    {content : Content} {change : α → α} (hlookup : sec.settings.lookup name = some setting)
    (h : setting.Gives content change) (record : α) :
    sec.Sets name content record (change record) :=
  ⟨setting, change, hlookup, h, rfl⟩

/-- A mapping gives settings of a section. -/
inductive Section.Gives (sec : Section α) : Content → α → α → Prop
  | mapping {entries : List (String × Content)} {record record' : α}
    (h : EntriesGive (sec.settings.map Prod.fst) sec.Sets [] entries record record') :
    Gives sec (.mapping entries) record record'

/-- An entry gives a section of a shape. -/
def Shape.Sets (shape : Shape α) (name : String) (content : Content) (record record' : α) : Prop :=
  ∃ sec, shape.sections.lookup name = some sec ∧ sec.Gives content record record'

/-- A mapping gives sections of a shape. -/
inductive Shape.Gives (shape : Shape α) : Content → α → α → Prop
  | mapping {entries : List (String × Content)} {record record' : α}
    (h : EntriesGive (shape.sections.map Prod.fst) shape.Sets [] entries record record') :
    Gives shape (.mapping entries) record record'

/-! ### Names that are used twice -/

/-- One of some names is used more than once. -/
def RepeatsName (names : List String) (entries : List (String × Content)) : Prop :=
  ∃ name ∈ names, 2 ≤ (entries.map Prod.fst).count name

/-- A document names a section twice, or a setting of a section. -/
def Shape.Repeats (shape : Shape α) (doc : Content) : Prop :=
  ∃ entries, doc = .mapping entries ∧ (RepeatsName (shape.sections.map Prod.fst) entries ∨
    ∃ name sec settings, shape.sections.lookup name = some sec ∧
      (name, .mapping settings) ∈ entries ∧ RepeatsName (sec.settings.map Prod.fst) settings)

theorem mem_map_of_lookup {β : Type} {name : String} {b : β} {entries : List (String × β)}
    (h : entries.lookup name = some b) : name ∈ entries.map Prod.fst := by
  obtain ⟨before, after, rfl, -⟩ := List.lookup_eq_some_iff.mp h
  simp

namespace EntriesGive

variable {names seen : List String} {step : String → Content → α → α → Prop}
  {entries : List (String × Content)} {record record' : α}

/-- A known name is used once at most, and not at all if it was seen before. -/
theorem count_le (h : EntriesGive names step seen entries record record') {name : String}
    (hname : name ∈ names) : (entries.map Prod.fst).count name ≤ 1 ∧
      (name ∈ seen → (entries.map Prod.fst).count name = 0) := by
  -- a name that is met is seen from then on, so the second part gives the first one its step
  induction h with
  | nil => simp
  | @known seen key _ _ _ _ _ _ hnew _ _ ih =>
    rw [List.map_cons, List.count_cons]
    by_cases hkey : key = name
    · subst hkey
      simp [hnew, ih.2 (List.mem_cons_self ..)]
    · simpa [hkey] using ⟨ih.1, fun hseen => ih.2 (List.mem_cons_of_mem _ hseen)⟩
  | @unknown _ key _ _ _ _ hkey _ ih =>
    have hne : key ≠ name := fun heq => hkey (heq ▸ hname)
    simpa [List.count_cons, hne] using ih

/-- A mapping that gives settings repeats none of their names. -/
theorem not_repeatsName (h : EntriesGive names step seen entries record record') :
    ¬ RepeatsName names entries := by
  rintro ⟨name, hname, hcount⟩
  have hle := (h.count_le hname).1
  omega

/-- The entry of a known name makes its step at some point. -/
theorem exists_step (h : EntriesGive names step seen entries record record') {name : String}
    {content : Content} (hname : name ∈ names) (hmem : (name, content) ∈ entries) :
    ∃ record record', step name content record record' := by
  induction h with
  | nil => cases hmem
  | known _ _ hstep _ ih =>
    obtain heq | hmem := List.mem_cons.mp hmem
    · cases heq
      exact ⟨_, _, hstep⟩
    · exact ih hmem
  | unknown hkey _ ih =>
    obtain heq | hmem := List.mem_cons.mp hmem
    · cases heq
      exact absurd hname hkey
    · exact ih hmem

end EntriesGive

/-- Where sections are only read from mappings without a repeated setting, a document is only read
if it does not repeat a name. -/
theorem Shape.not_repeats {shape : Shape α} {step : String → Content → α → α → Prop}
    {entries : List (String × Content)} {record record' : α}
    (h : EntriesGive (shape.sections.map Prod.fst) step [] entries record record')
    (hstep : ∀ name sec settings record record', shape.sections.lookup name = some sec →
      step name (.mapping settings) record record' →
      ¬ RepeatsName (sec.settings.map Prod.fst) settings) : ¬ shape.Repeats (.mapping entries) := by
  rintro ⟨_, heq, hrepeats | ⟨name, sec, settings, hlookup, hmem, hrepeats⟩⟩
  · cases heq
    exact h.not_repeatsName hrepeats
  · cases heq
    obtain ⟨before, after, hgives⟩ := h.exists_step (mem_map_of_lookup hlookup) hmem
    exact hstep name sec settings before after hlookup hgives hrepeats

/-! ### JSON -/

namespace Json

open Json.Tree

/-- A setting that is given is read. -/
theorem asSetting_of_gives {setting : Setting α} {content : Content} {change : α → α}
    (h : setting.Gives content change) {tree : Tree} (htree : tree.Has content) :
    tree.asSetting setting = .ok change := by
  cases h with
  | choice hname =>
    cases htree
    exact if_pos (List.contains_iff_mem.mpr hname)
  | flag set b =>
    cases htree
    rfl
  | text set s =>
    cases htree
    rfl
  | nothing set =>
    cases htree
    rfl

section Fold

variable {names seen : List String} {step : String → Content → α → α → Prop}
  {step' : α → String → Tree → Except Fault α} {entries : List (String × Content)}
  {record record' : α} {trees : List (Key × Tree)}

/-- What fields give is read from them. -/
theorem foldFields_of_gives
    (hstep : ∀ name content record record' (tree : Tree), step name content record record' →
      tree.Has content → step' record name tree = .ok record')
    (h : EntriesGive names step seen entries record record') (htrees : EntriesHave trees entries) :
    foldFields names step' seen record trees = .ok record' := by
  induction h generalizing trees with
  | nil =>
    cases htrees
    rfl
  | known hname hnew hstep' _ ih =>
    cases htrees with
    | cons hkey hvalue hrest =>
      simp [foldFields, hkey, hname, hnew, hstep _ _ _ _ _ hstep' hvalue, ih hrest, bind,
        Except.bind]
  | unknown hname _ ih =>
    cases htrees with
    | cons hkey hvalue hrest =>
      simp [foldFields, hkey, hname, hvalue.passingFault?_eq_none, ih hrest, bind, Except.bind]

/-- What is read from fields was given by them. -/
theorem gives_of_foldFields (htrees : EntriesHave trees entries)
    (h : foldFields names step' seen record trees = .ok record') :
    EntriesGive names (fun name content record record' => ∃ tree : Tree, tree.Has content ∧
      step' record name tree = .ok record') seen entries record record' := by
  induction entries generalizing seen record trees with
  | nil =>
    cases htrees
    cases h
    exact .nil
  | cons entry entries ih =>
    cases htrees with
    | @cons key name tree content trees _ hkey hvalue hrest =>
      simp only [foldFields, hkey, bind, Except.bind] at h
      -- the outcome is known to be good, so a repeated name and a failed step are out of the
      -- question
      by_cases hname : name ∈ names
      · by_cases hseen : name ∈ seen
        · simp [hname, hseen] at h
        · cases hstep : step' record name tree with
          | error fault => simp [hname, hseen, hstep] at h
          | ok between =>
            simp [hname, hseen, hstep] at h
            exact .known hname hseen ⟨tree, hvalue, hstep⟩ (ih hrest h)
      · simp [hname, hvalue.passingFault?_eq_none] at h
        exact .unknown hname (ih hrest h)

/-- A mapping is read as a record field by field. -/
theorem asRecord_mapping (expected : String) {start stop : List Char} :
    asRecord expected names step' record (.object trees (.closed stop) start) =
      foldFields names step' [] record trees := by
  rw [asRecord]
  cases foldFields names step' [] record trees <;> rfl

end Fold

/-- A section that is given is read. -/
theorem asSection_of_gives {sec : Section α} {content : Content} {record record' : α}
    (h : sec.Gives content record record') {tree : Tree} (htree : tree.Has content) :
    tree.asSection sec record = .ok record' := by
  cases h with
  | mapping h =>
    cases htree with
    | mapping htrees =>
      rw [asSection, asRecord_mapping]
      refine foldFields_of_gives ?_ h htrees
      rintro name content record _ tree ⟨setting, change, hlookup, hgives, rfl⟩ hvalue
      rw [hlookup]
      simp only [asSetting_of_gives hgives hvalue]
      rfl

/-- The tree of a document is read as the record that the document asks for. -/
theorem asShape_of_gives {shape : Shape α} {doc : Content} {record record' : α}
    (h : shape.Gives doc record record') {tree : Tree} (htree : tree.Has doc) :
    tree.asShape shape record = .ok record' := by
  cases h with
  | mapping h =>
    cases htree with
    | mapping htrees =>
      rw [asShape, asRecord_mapping]
      refine foldFields_of_gives ?_ h htrees
      rintro name content record record' tree ⟨sec, hlookup, hgives⟩ hvalue
      rw [hlookup]
      exact asSection_of_gives hgives hvalue

/-- A document that is read as a record does not name a section or a setting twice. -/
theorem not_repeats_of_asShape {shape : Shape α} {doc : Content} {record record' : α} {tree : Tree}
    (htree : tree.Has doc) (h : tree.asShape shape record = .ok record') : ¬ shape.Repeats doc := by
  intro hrepeats
  obtain ⟨entries, rfl, -⟩ := id hrepeats
  cases htree with
  | mapping htrees =>
    rw [asShape, asRecord_mapping] at h
    refine Shape.not_repeats (gives_of_foldFields htrees h) ?_ hrepeats
    rintro name sec settings record record' hlookup ⟨tree, hvalue, hread⟩
    cases hvalue with
    | mapping htrees =>
      rw [hlookup] at hread
      simp only [asSection, asRecord_mapping] at hread
      exact (gives_of_foldFields htrees hread).not_repeatsName

/-- A document is read as the record that it asks for. -/
theorem readShape_of_gives {shape : Shape α} {doc : Content} {record record' : α} {text : String}
    (h : shape.Gives doc record record') (hdoc : IsDocument text doc) :
    readShape shape record text = .ok record' := by
  obtain ⟨stop, htree, hstop, hblanks⟩ := hdoc
  simp only [readShape, decodeText, asShape_of_gives h htree, hstop, Option.getD_some,
    skipBlanks_eq_nil_iff.mpr hblanks]

/-- A text that is read repeats no name. -/
theorem not_repeats_of_readShape {shape : Shape α} {doc : Content} {record record' : α}
    {text : String} (hdoc : IsDocument text doc) (h : readShape shape record text = .ok record') :
    ¬ shape.Repeats doc := by
  obtain ⟨stop, htree, -⟩ := hdoc
  rw [readShape, decodeText] at h
  cases hread : (Tree.parse text.toList).asShape shape record with
  | error fault => simp [hread] at h
  | ok record => exact not_repeats_of_asShape htree hread

end Json

/-! ### YAML -/

namespace Yaml

variable {anchors : Anchors} {path : String}

theorem placed_eq_ok_iff {β : Type} {mark : Mark} {r : Except Fault β} {b : β} :
    placed path mark r = .ok b ↔ r = .ok b := by
  cases r <;> simp [placed, Except.mapError]

/-- A scalar names an alternative by its text, also through an alias, unless its tag does. -/
theorem asVariant_of_target {names : List String} {node : Node} {props : Properties} {name : String}
    {presentation : Presentation} (h : node.target anchors = .scalar props name presentation)
    (htag : variantTag? props.tag = none) (hname : name ∈ names) :
    node.asVariant anchors path names = .ok name := by
  have hscalar : (Node.scalar props name presentation).asVariantAt path names = .ok name := by
    simp only [Node.asVariantAt, htag, List.contains_iff_mem.mpr hname, if_true]
  rw [Node.asVariant.eq_def]
  split
  · next mark =>
    rw [h]
    exact placed_eq_ok_iff.mpr hscalar
  · next hnode =>
    have htarget : node.target anchors = node := by
      rw [Node.target.eq_def]
      split
      · exact absurd rfl (hnode _ _)
      · rfl
    rwa [← htarget, h]

/-- A text in quotes is a text, even if it looks like nothing. -/
theorem asOptionalString_of_ne_plain {node : Node} {props : Properties} {s : String}
    {presentation : Presentation} (h : node.target anchors = .scalar props s presentation)
    (hplain : presentation ≠ .plain) : node.asOptionalString anchors path = .ok (some s) := by
  rw [Node.asOptionalString, h]
  cases presentation with
  | plain => exact absurd rfl hplain
  | quoted | literal | folded => rfl

/-- A plain scalar that spells a text does not spell the empty value. -/
theorem spellsNull_eq_false {s : String} (h : Plain.resolve s = .text) :
    (s.isEmpty || spellsNull s) = false := by
  have hwords : Plain.nullWords.contains s = false := by
    by_contra hnull
    rw [Plain.resolve, if_pos (by simpa using hnull)] at h
    cases h
  have hempty : s.isEmpty = false := by
    by_contra hempty
    obtain rfl : s = "" := by simpa using hempty
    exact absurd hwords (by decide)
  rw [hempty, spellsNull, hwords, Bool.and_false, Bool.or_false]

/-- A text is never read as nothing, however it is written. -/
theorem asOptionalString_text {node : Node} {s : String} (h : node.Has anchors (.text s)) :
    node.asOptionalString anchors path = .ok (some s) := by
  obtain ⟨tag, props, s, presentation, htarget, htag, hspells⟩ :=
    h.exists_scalar (by simp) (by simp)
  cases hspells with
  | quoted hquoted => exact asOptionalString_of_ne_plain htarget hquoted
  | plain hplain =>
    rw [Node.asOptionalString, htarget]
    simp only [htag, spellsNull_eq_false hplain, Bool.false_eq_true, if_false]
  | tagged s presentation =>
    by_cases hplain : presentation = .plain
    · have hne : textTag ≠ nullTag := by decide +kernel
      rw [Node.asOptionalString, htarget, hplain]
      simp only [htag, if_neg hne]
    · exact asOptionalString_of_ne_plain htarget hplain

/-- Nothing is read as no text. -/
theorem asOptionalString_nothing {node : Node} (h : node.Has anchors .nothing) :
    node.asOptionalString anchors path = .ok none := by
  obtain ⟨tag, props, s, presentation, htarget, htag, hspells⟩ :=
    h.exists_scalar (by simp) (by simp)
  cases hspells with
  | nothing hword =>
    have hnull : (s.isEmpty || spellsNull s) = true := by
      rw [spellsNull, List.contains_iff_mem.mpr hword, Bool.and_true, Bool.or_not_self]
    rw [Node.asOptionalString, htarget]
    simp only [htag, hnull, if_true]
  | taggedNothing hnull => simp [Node.asOptionalString, htarget, htag, hnull]

/-- A setting that is given is read. -/
theorem asSetting_of_gives {setting : Setting α} {content : Content} {change : α → α}
    (h : setting.Gives content change) {node : Node} (hnode : node.Has anchors content) :
    node.asSetting anchors path setting = .ok change := by
  cases h with
  | @choice options name hname =>
    obtain ⟨tag, props, s, presentation, htarget, htag, hspells⟩ :=
      hnode.exists_scalar (by simp) (by simp)
    -- the tag of texts does not begin with the mark of tags that name an alternative
    have hvariant : variantTag? tag = none ∧ s = name := by
      cases hspells <;> exact ⟨by decide +kernel, rfl⟩
    obtain ⟨hvariant, rfl⟩ := hvariant
    rw [Node.asSetting, asVariant_of_target htarget (htag ▸ hvariant) hname]
    rfl
  | flag set b =>
    obtain ⟨tag, props, s, presentation, htarget, htag, hspells⟩ :=
      hnode.exists_scalar (by simp) (by simp)
    cases hspells with
    | flag _ hbool =>
      rw [Node.asSetting, Node.asBool, htarget]
      simp only [hbool]
      rfl
    | literalFlag hbool =>
      rw [Node.asSetting, Node.asBool, htarget]
      simp only [hbool, htag]
      rfl
  | text set s =>
    rw [Node.asSetting, asOptionalString_text hnode]
    rfl
  | nothing set =>
    rw [Node.asSetting, asOptionalString_nothing hnode]
    rfl

section Fold

variable {names seen : List String} {step : String → Content → α → α → Prop}
  {step' : (path name : String) → Node → α → Except Fault α} {entries : List (String × Content)}
  {record record' : α} {nodes : List (Node × Node)}

theorem asString_of_target {key : Node} {props : Properties} {name expected : String}
    {presentation : Presentation} (h : key.target anchors = .scalar props name presentation) :
    key.asString anchors path expected = .ok name := by
  rw [Node.asString, h]

/-- What entries give is read from them, wherever they stand. -/
theorem foldEntries_of_gives
    (hstep : ∀ path name content record record' (node : Node), step name content record record' →
      node.Has anchors content → step' path name node record = .ok record')
    (h : EntriesGive names step seen entries record record')
    (hnodes : Node.EntriesHave anchors nodes entries) :
    foldEntries anchors path names step' seen record nodes = .ok record' := by
  induction h generalizing nodes with
  | nil =>
    cases hnodes
    rfl
  | known hname hnew hstep' _ ih =>
    cases hnodes with
    | cons hkey hvalue hrest =>
      simp [foldEntries, asString_of_target hkey, hname, hnew, hstep _ _ _ _ _ _ hstep' hvalue,
        ih hrest, bind, Except.bind]
  | unknown hname _ ih =>
    cases hnodes with
    | cons hkey hvalue hrest =>
      simp [foldEntries, asString_of_target hkey, hname, hvalue.fault?_eq_none, ih hrest, bind,
        Except.bind]

/-- What is read from entries was given by them. -/
theorem gives_of_foldEntries (hnodes : Node.EntriesHave anchors nodes entries)
    (h : foldEntries anchors path names step' seen record nodes = .ok record') :
    EntriesGive names (fun name content record record' => ∃ path, ∃ node : Node,
      node.Has anchors content ∧ step' path name node record = .ok record') seen entries record
      record' := by
  induction entries generalizing seen record nodes with
  | nil =>
    cases hnodes
    cases h
    exact .nil
  | cons entry entries ih =>
    cases hnodes with
    | @cons key _ name _ node content nodes _ hkey hvalue hrest =>
      simp only [foldEntries, asString_of_target hkey, bind, Except.bind] at h
      -- as for the fields of an object
      by_cases hname : name ∈ names
      · by_cases hseen : name ∈ seen
        · simp [hname, hseen] at h
        · cases hstep : step' (childPath path key) name node record with
          | error fault => simp [hname, hseen, hstep] at h
          | ok between =>
            simp [hname, hseen, hstep] at h
            exact .known hname hseen ⟨_, node, hvalue, hstep⟩ (ih hrest h)
      · simp [hname, hvalue.fault?_eq_none] at h
        exact .unknown hname (ih hrest h)

/-- A mapping is read as a record entry by entry. -/
theorem asRecord_eq_ok_iff {node : Node} {props : Properties} (expected : String)
    (h : node.target anchors = .mapping props nodes) :
    node.asRecord anchors path expected names step' record = .ok record' ↔
      foldEntries anchors path names step' [] record nodes = .ok record' := by
  simp only [Node.asRecord, h, placed_eq_ok_iff]

end Fold

/-- A section that is given is read. -/
theorem asSection_of_gives {sec : Section α} {content : Content} {record record' : α}
    (h : sec.Gives content record record') {node : Node} (hnode : node.Has anchors content) :
    node.asSection anchors path sec record = .ok record' := by
  cases h with
  | mapping h =>
    obtain ⟨props, nodes, htarget, hnodes⟩ := hnode.exists_mapping
    rw [Node.asSection, asRecord_eq_ok_iff _ htarget]
    refine foldEntries_of_gives ?_ h hnodes
    rintro path name content record _ node ⟨setting, change, hlookup, hgives, rfl⟩ hvalue
    rw [hlookup]
    simp only [asSetting_of_gives hgives hvalue]
    rfl

/-- The nodes of a document are read as the record that the document asks for. -/
theorem asShape_of_gives {shape : Shape α} {doc : Content} {record record' : α}
    (h : shape.Gives doc record record') {node : Node} (hnode : node.Has anchors doc) :
    node.asShape anchors shape record = .ok record' := by
  cases h with
  | mapping h =>
    obtain ⟨props, nodes, htarget, hnodes⟩ := hnode.exists_mapping
    rw [Node.asShape, asRecord_eq_ok_iff _ htarget]
    refine foldEntries_of_gives ?_ h hnodes
    rintro path name content record record' node ⟨sec, hlookup, hgives⟩ hvalue
    rw [hlookup]
    exact asSection_of_gives hgives hvalue

/-- A document that is read as a record does not name a section or a setting twice. -/
theorem not_repeats_of_asShape {shape : Shape α} {doc : Content} {record record' : α} {node : Node}
    (hnode : node.Has anchors doc) (h : node.asShape anchors shape record = .ok record') :
    ¬ shape.Repeats doc := by
  intro hrepeats
  obtain ⟨entries, rfl, -⟩ := id hrepeats
  obtain ⟨props, nodes, htarget, hnodes⟩ := hnode.exists_mapping
  rw [Node.asShape, asRecord_eq_ok_iff _ htarget] at h
  refine Shape.not_repeats (gives_of_foldEntries hnodes h) ?_ hrepeats
  rintro name sec settings record record' hlookup ⟨path, node, hvalue, hread⟩
  obtain ⟨props, nodes, htarget, hnodes⟩ := hvalue.exists_mapping
  simp only [hlookup, Node.asSection] at hread
  rw [asRecord_eq_ok_iff _ htarget] at hread
  exact (gives_of_foldEntries hnodes hread).not_repeatsName

/-- A document is read as the record that it asks for. -/
theorem readShape_of_gives {shape : Shape α} {doc : Content} {record record' : α} {text : String}
    (h : shape.Gives doc record record') (hdoc : IsDocument text doc) :
    readShape shape record text = .ok record' := by
  obtain ⟨root, hstream, hroot⟩ := hdoc
  rw [readShape, hstream]
  simp only [asShape_of_gives h hroot, Bool.false_eq_true, if_false]

/-- A text that is read repeats no name. -/
theorem not_repeats_of_readShape {shape : Shape α} {doc : Content} {record record' : α}
    {text : String} (hdoc : IsDocument text doc) (h : readShape shape record text = .ok record') :
    ¬ shape.Repeats doc := by
  obtain ⟨root, hstream, hroot⟩ := hdoc
  simp only [readShape, hstream] at h
  cases hread : root.asShape root.anchored.reverse shape record with
  | error fault => simp [hread] at h
  | ok record => exact not_repeats_of_asShape hroot hread

end Yaml

end BoundaryContract
