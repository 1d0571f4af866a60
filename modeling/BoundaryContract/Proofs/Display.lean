import BoundaryContract.Proofs.Json.Unambiguous
import BoundaryContract.Proofs.Suite.Shape
import BoundaryContract.Proofs.Text.Delimited

/-!
# What values are shown as

A value is shown as a word, a bracket and what is in it. A word ends at the first character that
stands in no name, an integer and a truth value at the closing bracket, and a string at its closing
quote, whatever it looks like inside. So a shown value can be told from every text that begins with
it (`Value.display_inj`), by induction on the value: nothing is asked of it but that its structs and
their fields have names of letters, digits and underscores (`Value.PlainlyNamed`).

Values that are marshaled are named like that. Two of them that differ are shown as different texts,
and so are the two sides of every failure message (`Value.display_tells_apart`).
-/

namespace BoundaryContract

open Text (Delimited append_cons_inj)

/-- A character of a name. -/
def isNameChar (ch : Char) : Bool := ch.isAlphanum || ch == '_'

/-- The text has letters, digits and underscores only. -/
def IsName (s : String) : Prop := s.toList.all isNameChar = true

instance : DecidablePred IsName := fun s =>
  inferInstanceAs (Decidable (s.toList.all isNameChar = true))

/-- An integer is written in digits, after a sign if it is negative. -/
theorem Json.mem_intChars {z : Int} {ch : Char} (h : ch ∈ intChars z) : ch = '-' ∨ ch.isDigit := by
  have hdigit {n : Nat} (h : ch ∈ Nat.toDigits 10 n) : ch.isDigit :=
    Nat.isDigit_of_mem_toDigits (by decide) (by decide) h
  cases z with
  | ofNat n => exact .inr (hdigit h)
  | negSucc n =>
    obtain rfl | h := List.mem_cons.mp h
    · exact .inl rfl
    · exact .inr (hdigit h)

namespace Value

/-- The structs of a value and their fields have names of letters, digits and underscores. -/
inductive PlainlyNamed : Value → Prop
  | unit : PlainlyNamed .unit
  | int32 (n : Int32) : PlainlyNamed (.int32 n)
  | bool (b : Bool) : PlainlyNamed (.bool b)
  | string (s : String) : PlainlyNamed (.string s)
  | struct {name : String} {fields : List (String × Value)} (hname : IsName name)
    (hfields : ∀ field ∈ fields, IsName field.1) (h : ∀ field ∈ fields, PlainlyNamed field.2) :
    PlainlyNamed (.struct name fields)

/-! ### Scalars -/

/-- An integer ends at the closing bracket, which is no digit. -/
theorem delimited_int32 : Delimited fun n => (int32Text n).toList ++ [')'] := by
  refine .closed (fun m n h => int32Text_inj (String.toList_inj.mp h)) fun n ch hch => ?_
  rw [int32Text_eq, String.toList_ofList] at hch
  rintro rfl
  obtain h | h := Json.mem_intChars hch
  · exact absurd h (by decide)
  · exact absurd h (by decide)

theorem delimited_bool : Delimited fun b : Bool => (toString b).toList ++ [')'] := by
  have hinj : ∀ a b : Bool, toString a = toString b → a = b := by decide
  have hall : ∀ b : Bool, (toString b).toList.all (· != ')') = true := by decide
  refine .closed (fun a b h => hinj a b (String.toList_inj.mp h)) fun b ch hch => ?_
  exact bne_iff_ne.mp (List.all_eq_true.mp (hall b) ch hch)

/-! ### The beginning of a shown value -/

/-- The word that a shown value begins with. -/
def word : Value → String
  | .unit => ""
  | .int32 _ => "Int32"
  | .bool _ => "Bool"
  | .string _ => "String"
  | .struct name _ => name

/-- What comes after the word: a bracket, or the blank before one. -/
def wordEnd : Value → Char
  | .struct _ _ => ' '
  | _ => '('

/-- What comes after that. -/
def content : Value → List Char
  | .unit => [')']
  | .int32 n => (int32Text n).toList ++ [')']
  | .bool b => (toString b).toList ++ [')']
  | .string s => (Text.quote s).toList ++ [')']
  | .struct _ fields => '\x7b' :: ' ' :: ((displayFields fields).toList ++ [' ', '\x7d'])

theorem toList_display (v : Value) :
    v.display.toList = v.word.toList ++ v.wordEnd :: v.content := by
  cases v <;> simp [display, word, wordEnd, content]

variable {v w : Value} {r s : List Char}

/-- The word that a plainly named value begins with is a name. -/
theorem PlainlyNamed.word (h : v.PlainlyNamed) : IsName v.word := by
  cases h with
  | struct hname _ _ => exact hname
  | unit => exact (by decide : IsName "")
  | int32 n => exact (by decide : IsName "Int32")
  | bool b => exact (by decide : IsName "Bool")
  | string s => exact (by decide : IsName "String")

theorem wordEnd_eq_or (v : Value) : v.wordEnd = '(' ∨ v.wordEnd = ' ' := by
  cases v with
  | struct name fields => exact .inr rfl
  | unit | int32 | bool | string => exact .inl rfl

theorem not_isNameChar_wordEnd (v : Value) : ¬ isNameChar v.wordEnd = true := by
  obtain h | h := v.wordEnd_eq_or <;> rw [h] <;> decide

/-- Values that are shown alike begin with the same word, and go on alike. -/
theorem eq_of_display (hv : v.PlainlyNamed) (hw : w.PlainlyNamed)
    (h : v.display.toList ++ r = w.display.toList ++ s) :
    v.word = w.word ∧ v.wordEnd = w.wordEnd ∧ v.content ++ r = w.content ++ s := by
  rw [toList_display, toList_display, List.append_assoc, List.append_assoc] at h
  obtain ⟨hword, hend, hcontent⟩ := append_cons_inj (List.all_eq_true.mp hv.word)
    (List.all_eq_true.mp hw.word) v.not_isNameChar_wordEnd w.not_isNameChar_wordEnd h
  exact ⟨String.toList_inj.mp hword, hend, hcontent⟩

/-! ### Shown values are told apart -/

/-- The value is known from any text that begins with it as it is shown, and so is what comes after,
as long as names are plain. -/
def ToldApart (v : Value) : Prop :=
  ∀ ⦃w : Value⦄ ⦃r s : List Char⦄, w.PlainlyNamed →
    v.display.toList ++ r = w.display.toList ++ s → v = w ∧ r = s

/-- A field as it is shown. -/
def fieldShown (field : String × Value) : List Char :=
  field.1.toList ++ ':' :: ' ' :: field.2.display.toList

/-- Fields after the first one, as they are shown. -/
def moreShown (fields : List (String × Value)) : List Char :=
  fields.flatMap fun field => ',' :: ' ' :: fieldShown field

/-- Fields are shown as the first of them and a separator before each of the others. -/
theorem toList_displayFields (field : String × Value) (rest : List (String × Value)) :
    (displayFields (field :: rest)).toList = fieldShown field ++ moreShown rest := by
  induction rest generalizing field with
  | nil => simp [displayFields, fieldShown, moreShown]
  | cons next rest ih =>
    obtain ⟨name, v⟩ := field
    rw [displayFields, String.toList_append, ih]
    · simp [fieldShown, moreShown]
    · exact List.cons_ne_nil _ _

variable {field field' : String × Value} {fields fields' : List (String × Value)}

theorem not_isNameChar_colon : ¬ isNameChar ':' = true := by decide

/-- A field is known from any text that begins with it. -/
theorem field_inj (hname : IsName field.1) (h : field.2.ToldApart) (hname' : IsName field'.1)
    (h' : field'.2.PlainlyNamed) (heq : fieldShown field ++ r = fieldShown field' ++ s) :
    field = field' ∧ r = s := by
  rw [fieldShown, fieldShown, List.append_assoc, List.append_assoc] at heq
  obtain ⟨hsame, -, hafter⟩ := append_cons_inj (List.all_eq_true.mp hname)
    (List.all_eq_true.mp hname') not_isNameChar_colon not_isNameChar_colon heq
  obtain ⟨hvalue, hrest⟩ := h h' (List.cons.inj hafter).2
  exact ⟨Prod.ext (String.toList_inj.mp hsame) hvalue, hrest⟩

/-- A comma comes before a further field and a blank before the closing brace. -/
theorem moreShown_inj (hnames : ∀ field ∈ fields, IsName field.1)
    (h : ∀ field ∈ fields, field.2.ToldApart) (hnames' : ∀ field ∈ fields', IsName field.1)
    (h' : ∀ field ∈ fields', field.2.PlainlyNamed)
    (heq : moreShown fields ++ ' ' :: r = moreShown fields' ++ ' ' :: s) :
    fields = fields' ∧ r = s := by
  have hcomma (field : String × Value) (rest : List (String × Value)) (t u : List Char) :
      moreShown (field :: rest) ++ t ≠ ' ' :: u := fun heq =>
    absurd (List.cons.inj heq).1 (by decide)
  induction fields generalizing fields' with
  | nil =>
    cases fields' with
    | nil => exact ⟨rfl, (List.cons.inj heq).2⟩
    | cons field' rest' => exact absurd heq.symm (hcomma field' rest' _ _)
  | cons field rest ih =>
    cases fields' with
    | nil => exact absurd heq (hcomma field rest _ _)
    | cons field' rest' =>
      obtain ⟨hname, hothers⟩ := List.forall_mem_cons.mp hnames
      obtain ⟨hfield, hrest⟩ := List.forall_mem_cons.mp h
      obtain ⟨hname', hothers'⟩ := List.forall_mem_cons.mp hnames'
      obtain ⟨hfield', hrest'⟩ := List.forall_mem_cons.mp h'
      rw [moreShown, moreShown, List.flatMap_cons, List.flatMap_cons, List.append_assoc,
        List.append_assoc] at heq
      obtain ⟨rfl, hmore⟩ := field_inj hname hfield hname' hfield'
        (List.cons.inj (List.cons.inj heq).2).2
      obtain ⟨rfl, hafter⟩ := ih hothers hrest hothers' hrest' hmore
      exact ⟨rfl, hafter⟩

/-- The fields of a struct are known from how they are shown up to the closing brace. -/
theorem displayFields_inj (hnames : ∀ field ∈ fields, IsName field.1)
    (h : ∀ field ∈ fields, field.2.ToldApart) (hnames' : ∀ field ∈ fields', IsName field.1)
    (h' : ∀ field ∈ fields', field.2.PlainlyNamed)
    (heq : (displayFields fields).toList ++ ' ' :: r =
      (displayFields fields').toList ++ ' ' :: s) : fields = fields' ∧ r = s := by
  -- a field begins with its name, or with a colon if that is empty, and so never with a blank
  have hfirst {field : String × Value} (hname : IsName field.1) (rest : List (String × Value))
      (t u : List Char) : (displayFields (field :: rest)).toList ++ t ≠ ' ' :: u := by
    intro heq
    rw [toList_displayFields, fieldShown, List.append_assoc, List.append_assoc] at heq
    obtain ⟨-, hchar, -⟩ := append_cons_inj (List.all_eq_true.mp hname)
      (List.forall_mem_nil _) not_isNameChar_colon (by decide) (heq.trans (List.nil_append _).symm)
    exact absurd hchar (by decide)
  cases fields with
  | nil =>
    cases fields' with
    | nil => exact ⟨rfl, (List.cons.inj heq).2⟩
    | cons field' rest' => exact absurd heq.symm (hfirst (hnames' _ (.head _)) rest' _ _)
  | cons field rest =>
    cases fields' with
    | nil => exact absurd heq (hfirst (hnames _ (.head _)) rest _ _)
    | cons field' rest' =>
      obtain ⟨hname, hothers⟩ := List.forall_mem_cons.mp hnames
      obtain ⟨hfield, hrest⟩ := List.forall_mem_cons.mp h
      obtain ⟨hname', hothers'⟩ := List.forall_mem_cons.mp hnames'
      obtain ⟨hfield', hrest'⟩ := List.forall_mem_cons.mp h'
      rw [toList_displayFields, toList_displayFields, List.append_assoc, List.append_assoc] at heq
      obtain ⟨rfl, hmore⟩ := field_inj hname hfield hname' hfield' heq
      obtain ⟨rfl, hafter⟩ := moreShown_inj hothers hrest hothers' hrest' hmore
      exact ⟨rfl, hafter⟩

/-- By induction on its content, every plainly named value is told apart. -/
theorem PlainlyNamed.toldApart (h : v.PlainlyNamed) : v.ToldApart := by
  induction h with
  | unit =>
    intro w r s hw heq
    -- the word tells the kind of every other value, and what ends it tells a struct
    obtain ⟨hword, hend, hcontent⟩ := eq_of_display .unit hw heq
    cases w with
    | unit => exact ⟨rfl, (List.cons.inj hcontent).2⟩
    | int32 | bool | string => exact absurd hword (by simp [Value.word])
    | struct => exact absurd hend (by simp [wordEnd])
  | int32 n =>
    intro w r s hw heq
    obtain ⟨hword, hend, hcontent⟩ := eq_of_display (.int32 n) hw heq
    cases w with
    | int32 m =>
      obtain ⟨rfl, hrest⟩ := delimited_int32 hcontent
      exact ⟨rfl, hrest⟩
    | unit | bool | string => exact absurd hword (by simp [Value.word])
    | struct => exact absurd hend (by simp [wordEnd])
  | bool b =>
    intro w r s hw heq
    obtain ⟨hword, hend, hcontent⟩ := eq_of_display (.bool b) hw heq
    cases w with
    | bool c =>
      obtain ⟨rfl, hrest⟩ := delimited_bool hcontent
      exact ⟨rfl, hrest⟩
    | unit | int32 | string => exact absurd hword (by simp [Value.word])
    | struct => exact absurd hend (by simp [wordEnd])
  | string text =>
    intro w r s hw heq
    obtain ⟨hword, hend, hcontent⟩ := eq_of_display (.string text) hw heq
    cases w with
    | string other =>
      rw [content, content, List.append_assoc, List.append_assoc] at hcontent
      obtain ⟨rfl, hrest⟩ := Text.delimited_quote hcontent
      exact ⟨rfl, List.append_cancel_left hrest⟩
    | unit | int32 | bool => exact absurd hword (by simp [Value.word])
    | struct => exact absurd hend (by simp [wordEnd])
  | @struct name fields hname hfields h ih =>
    intro w r s hw heq
    obtain ⟨hword, hend, hcontent⟩ := eq_of_display (.struct hname hfields h) hw heq
    cases hw with
    | struct hname' hfields' h' =>
      obtain rfl : name = _ := hword
      rw [content, content, List.cons_append, List.cons_append, List.cons_append,
        List.cons_append, List.append_assoc, List.append_assoc] at hcontent
      obtain ⟨rfl, hrest⟩ := displayFields_inj hfields ih hfields' h'
        (List.cons.inj (List.cons.inj hcontent).2).2
      exact ⟨rfl, (List.cons.inj hrest).2⟩
    | unit | int32 | bool | string => exact absurd hend (by simp [wordEnd])

/-! ### Marshaled values -/

/-- The value is that of a datum of one of the types that cross the boundary. -/
inductive Marshaled : Value → Prop
  | unit : Marshaled (Marshal.toValue ())
  | int32 (n : Int32) : Marshaled (Marshal.toValue n)
  | bool (b : Bool) : Marshaled (Marshal.toValue b)
  | string (s : String) : Marshaled (Marshal.toValue s)
  | inner (x : Inner) : Marshaled (Marshal.toValue x)
  | outer (x : Outer) : Marshaled (Marshal.toValue x)

theorem plainlyNamed_inner (x : Inner) : x.toValue.PlainlyNamed := by
  refine .struct (by decide) ?_ ?_
  · exact List.forall_mem_singleton.mpr (by decide : IsName "i32_field")
  · exact List.forall_mem_singleton.mpr (.int32 x.int32)

/-- The fields of the outer type have plain names, those within its struct too. -/
theorem plainlyNamed_outer (x : Outer) : x.toValue.PlainlyNamed := by
  refine .struct (by decide) ?_ ?_
  · simp only [List.forall_mem_cons]
    exact ⟨by decide, by decide, by decide, by decide, List.forall_mem_nil _⟩
  · simp only [List.forall_mem_cons]
    exact ⟨.int32 _, .bool _, .string _, plainlyNamed_inner x.inner, List.forall_mem_nil _⟩

/-- Whatever is marshaled is plainly named. -/
theorem Marshaled.plainlyNamed (h : v.Marshaled) : v.PlainlyNamed := by
  cases h with
  | unit => exact .unit
  | int32 n => exact .int32 n
  | bool b => exact .bool b
  | string s => exact .string s
  | inner x => exact plainlyNamed_inner x
  | outer x => exact plainlyNamed_outer x

/-- Values with plain names that are shown as the same text are the same. -/
theorem display_inj (hv : v.PlainlyNamed) (hw : w.PlainlyNamed) (h : v.display = w.display) :
    v = w :=
  (hv.toldApart hw (congrArg (fun s : String => s.toList ++ []) h)).1

/-- Marshaled values are shown as the same text only if they are the same. So a check that is judged
by two of them has a failure message exactly if the texts that the message shows differ. -/
theorem display_tells_apart (hv : v.Marshaled) (hw : w.Marshaled) :
    (v.display = w.display ↔ v = w) ∧
      ∀ c : Check, c.expected = v → c.actual = w → c.Judged →
        (c.failureMessage?.isSome ↔ v.display ≠ w.display) := by
  have hsame : v.display = w.display ↔ v = w := by
    refine ⟨display_inj hv.plainlyNamed hw.plainlyNamed, ?_⟩
    rintro rfl
    rfl
  refine ⟨hsame, ?_⟩
  rintro c rfl rfl hjudged
  rw [c.failureMessage?_isSome, hjudged, Bool.not_eq_true', decide_eq_false_iff_not, ne_eq, hsame]

/-- A struct. -/
def genuine : Outer := ⟨1, true, "a", ⟨2⟩⟩

/-- The same with a text that goes on like the struct itself when it is shown. -/
def forged : Outer :=
  ⟨1, true, "a\"), struct_field: StructB \x7b i32_field: Int32(2) \x7d \x7d", ⟨2⟩⟩

/-- The two are told apart, and a check by them has a message. -/
theorem display_forged : genuine.toValue.Marshaled ∧ forged.toValue.Marshaled ∧
    genuine.toValue.display ≠ forged.toValue.display ∧
      (Check.ofValues "struct" "echo" genuine.toValue forged.toValue).failureMessage?.isSome := by
  obtain ⟨hsame, hmessage⟩ := display_tells_apart (.outer genuine) (.outer forged)
  have hdisplay : genuine.toValue.display ≠ forged.toValue.display := hsame.not.mpr (by decide)
  exact ⟨.outer _, .outer _, hdisplay, (hmessage (.ofValues ..) rfl rfl rfl).mpr hdisplay⟩

end Value

end BoundaryContract
