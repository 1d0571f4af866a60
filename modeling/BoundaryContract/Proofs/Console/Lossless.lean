import BoundaryContract.Proofs.Console
import BoundaryContract.Proofs.Yaml.Converted

/-!
# What is lost in output for programs

The console strips the line feeds that the text of a document ends in and adds one. No JSON text
ends in any, so nothing is lost in either JSON format: different values are written as different
texts. In YAML text the line feeds may be those of a string: a literal block at the end of the
document that keeps the line breaks it ends in. So values are written as the same YAML text exactly
if they are the same up to the number of these (`data_tellsApart`).
-/

namespace BoundaryContract.Console

open Text

/-- In the format, two JSON values without doubles are written as the same text exactly if the first
relation holds of them, and two values with their kinds exactly if the second one does. -/
structure TellsApart (format : Format) (sameJson : Json → Json → Prop)
    (sameValue : Value → Value → Prop) : Prop where
  json {c : Console} (hc : c.format = format) {json json' : Json} (h : json.Integral)
    (h' : json'.Integral) :
    c.say (.data (.ofJson json)) = c.say (.data (.ofJson json')) ↔ sameJson json json'
  value {c : Console} (hc : c.format = format) (v v' : Value) :
    c.say (.data (.ofValue v)) = c.say (.data (.ofValue v')) ↔ sameValue v v'

/-- Documents are written as the same text if their texts are alike but for line feeds. -/
theorem say_data_eq_iff {c : Console} (hc : c.format ≠ .human) (doc doc' : Document) :
    c.say (.data doc) = c.say (.data doc') ↔
      AlikeButFeeds (c.format.render doc).toList (c.format.render doc').toList := by
  rw [say, say, document_of_ne_human hc, document_of_ne_human hc, oneBreak_eq_oneBreak]

theorem blanks_feeds (k : Nat) : Json.Blanks (feeds k) := by
  intro ch hch
  rw [eq_of_mem_feeds hch]
  rfl

/-- A format that writes JSON text in some layout loses nothing. -/
theorem tellsApart_of_layout (L : Json.Layout) {format : Format} (hformat : format ≠ .human)
    (hrender : ∀ doc, (format.render doc).toList = L.chars 0 doc.json) :
    TellsApart format Eq Eq where
  json {c} hc {json json'} h h' := by
    subst hc
    rw [say_data_eq_iff hformat, hrender, hrender]
    constructor
    · -- to a reader of JSON text, line feeds at the end are blanks
      rintro ⟨m, n, heq⟩
      exact L.eq_of_chars h h' (blanks_feeds m) (blanks_feeds n) heq
    · rintro rfl
      exact .refl _
  value {c} hc v v' := by
    subst hc
    rw [say_data_eq_iff hformat, hrender, hrender]
    constructor
    · rintro ⟨m, n, heq⟩
      exact Value.eq_of_chars L (blanks_feeds m) (blanks_feeds n) heq
    · rintro rfl
      exact .refl _

/-- Documents are written as the same YAML text if they are alike up to their last strings. -/
theorem say_data_eq_iff_alikeToEnd {c : Console} (hc : c.format = .yaml) {doc doc' : Document}
    (h : doc.yaml.Clear) (h' : doc'.yaml.Clear) :
    c.say (.data doc) = c.say (.data doc') ↔ doc.yaml.AlikeToEnd doc'.yaml := by
  have hhuman : c.format ≠ .human := by
    rw [hc]
    exact Format.noConfusion
  rw [say_data_eq_iff hhuman, hc]
  exact Yaml.alikeButFeeds_render h h'

/-- YAML text tells documents apart but for line feeds at the end of the last string. -/
theorem tellsApart_yaml : TellsApart .yaml Json.AlikeToEnd Value.AlikeToEnd where
  json {c} hc {json json'} h h' :=
    calc
      c.say (.data (.ofJson json)) = c.say (.data (.ofJson json'))
      _ ↔ Yaml.AlikeToEnd (.ofJson json) (.ofJson json') :=
        say_data_eq_iff_alikeToEnd hc (Yaml.clear_ofJson json h) (Yaml.clear_ofJson json' h')
      _ ↔ json.AlikeToEnd json' := Yaml.alikeToEnd_ofJson_iff h h'
  value {c} hc v v' :=
    calc
      c.say (.data (.ofValue v)) = c.say (.data (.ofValue v'))
      _ ↔ Yaml.AlikeToEnd (.ofValue v) (.ofValue v') :=
        say_data_eq_iff_alikeToEnd hc (Yaml.clear_ofValue v) (Yaml.clear_ofValue v')
      _ ↔ v.AlikeToEnd v' := Yaml.alikeToEnd_ofValue_iff

/-- Nothing is lost in the JSON formats. In YAML nothing is but the number of line feeds at the end
of the last string, where that string is written as a block that keeps them. -/
theorem data_tellsApart :
    TellsApart .json Eq Eq ∧ TellsApart .jsonPretty Eq Eq ∧
      TellsApart .yaml Json.AlikeToEnd Value.AlikeToEnd := by
  refine ⟨?json, ?jsonPretty, tellsApart_yaml⟩
  case json =>
    refine tellsApart_of_layout .compact Format.noConfusion fun doc => ?_
    rw [Format.render, Json.compact, String.toList_ofList, Json.compactChars_eq 0]
  case jsonPretty =>
    refine tellsApart_of_layout .pretty Format.noConfusion fun doc => ?_
    rw [Format.render, Json.pretty, String.toList_ofList, Json.prettyChars_eq]

/-- Two strings that end in two and in three line feeds are written as the same YAML text. -/
theorem data_yaml_loses_feeds :
    Json.string "a\n\n" ≠ Json.string "a\n\n\n" ∧
      say { format := .yaml } (.data (.ofJson (.string "a\n\n"))) =
        say { format := .yaml } (.data (.ofJson (.string "a\n\n\n"))) := by
  have halike : Yaml.AlikeStrings "a\n\n" "a\n\n\n" :=
    ⟨⟨by decide, by decide⟩, ⟨by decide, by decide⟩, 1, 0, by decide⟩
  constructor
  · intro h
    exact absurd (Json.string.inj h) (by decide)
  · refine (tellsApart_yaml.json rfl ?_ ?_).mpr (.string halike)
    · exact trivial
    · exact trivial

end BoundaryContract.Console
