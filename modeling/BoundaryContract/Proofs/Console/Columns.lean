import BoundaryContract.Proofs.Console.Report
import Mathlib.Data.String.Basic

/-!
# The columns of a report

The entries of a report for human readers stand in columns. The width of the names is taken in bytes
while they are filled up by characters, and no name has more characters than bytes
(`length_le_utf8ByteSize`), so every name has room and the call begins at one position in all
entries (`Check.entersAt_checkLine`). The width is that of all names, printed or not, so an entry is
the same text whether the checks that passed are left out or not. `Report.Thinned` walks along the
checks and says so: leaving them out deletes their entries and changes no other
(`Report.listing_tabulated`).
-/

namespace BoundaryContract

/-! ### Characters and bytes -/

/-- A text has no more characters than bytes. -/
theorem length_le_utf8Len (cs : List Char) : cs.length ≤ String.utf8Len cs := by
  induction cs with
  | nil => exact Nat.zero_le _
  | cons ch cs ih =>
    have hpos := ch.utf8Size_pos
    rw [List.length_cons, String.utf8Len_cons]
    omega

/-- A text has no more characters than bytes. -/
theorem length_le_utf8ByteSize (s : String) : s.length ≤ s.utf8ByteSize := by
  have hlen := length_le_utf8Len s.toList
  rwa [String.length_toList, ← String.utf8ByteSize_ofList, String.ofList_toList] at hlen

/-! ### Entries in columns -/

/-- The entry of a check in a table with room for names of so many characters: its name is filled up
to the whole width, and its call begins after as many characters as in any other entry. -/
structure Check.EntersAt (width : Nat) (c : Check) (entry : String) : Prop where
  passed : c.passed = true → entry = "  ✓ " ++ (c.name ++ blanks (width - c.name.length)) ++ "  " ++
    c.call ++ " = " ++ c.actual.display ++ "\n"
  failed : c.passed = false → entry = "  ✗ " ++ (c.name ++ blanks (width - c.name.length)) ++
    "  " ++ c.call ++ " expected " ++ c.expected.display ++ ", got " ++ c.actual.display ++ "\n"
  filled : (c.name ++ blanks (width - c.name.length)).length = width
  column : ∃ front rest, entry = front ++ c.call ++ rest ∧ front.length = 4 + width + 2

/-- What is left of the entries of a list of checks, one after another, when those of the checks
that passed are deleted and nothing else is changed. -/
inductive Report.Thinned (width : Nat) : List Check → String → String → Prop
  | nil : Thinned width [] "" ""
  | kept {c : Check} {cs : List Check} {entry full thin : String} (hentry : c.EntersAt width entry)
    (hfailed : c.passed = false) (h : Thinned width cs full thin) :
    Thinned width (c :: cs) (entry ++ full) (entry ++ thin)
  | deleted {c : Check} {cs : List Check} {entry full thin : String}
    (hentry : c.EntersAt width entry) (hpassed : c.passed = true)
    (h : Thinned width cs full thin) : Thinned width (c :: cs) (entry ++ full) thin

namespace Check

variable {width : Nat} {c : Check}

theorem length_blanks (k : Nat) : (blanks k).length = k := by
  rw [blanks, String.length_ofList, List.length_replicate]

/-- A name that is not longer than the width is filled up to it. -/
theorem length_filled (h : c.name.length ≤ width) :
    (c.name ++ blanks (width - c.name.length)).length = width := by
  rw [String.length_append, length_blanks]
  omega

/-- After a mark of four characters, the name and a gap, the call has its place. -/
theorem exists_column (h : c.name.length ≤ width) {mark entry : String} (rest : String)
    (hmark : mark.length = 4) (hentry : entry =
      mark ++ (c.name ++ blanks (width - c.name.length)) ++ "  " ++ c.call ++ rest) :
    ∃ front rest, entry = front ++ c.call ++ rest ∧ front.length = 4 + width + 2 := by
  refine ⟨_, rest, hentry, ?_⟩
  have hgap : "  ".length = 2 := rfl
  rw [String.length_append, String.length_append, length_filled h, hmark, hgap]

/-- In a column that is wide enough, a check is entered at its place. -/
theorem entersAt_checkLine (h : c.name.length ≤ width) :
    c.EntersAt width (Report.checkLine width c) := by
  cases hpassed : c.passed with
  | true =>
    have hline : Report.checkLine width c = "  ✓ " ++ (c.name ++ blanks (width - c.name.length)) ++
        "  " ++ c.call ++ " = " ++ c.actual.display ++ "\n" := if_pos hpassed
    refine ⟨fun _ => hline, fun hfailed => ?_, length_filled h, ?_⟩
    · rw [hpassed] at hfailed
      cases hfailed
    · refine exists_column h (" = " ++ (c.actual.display ++ "\n")) (rfl : "  ✓ ".length = 4) ?_
      rw [hline]
      simp only [String.append_assoc]
  | false =>
    have hline : Report.checkLine width c = "  ✗ " ++ (c.name ++ blanks (width - c.name.length)) ++
        "  " ++ c.call ++ " expected " ++ c.expected.display ++ ", got " ++ c.actual.display ++
        "\n" := if_neg (by rw [hpassed]; exact Bool.false_ne_true)
    refine ⟨fun hpassed' => ?_, fun _ => hline, length_filled h, ?_⟩
    · rw [hpassed] at hpassed'
      cases hpassed'
    · refine exists_column h
        (" expected " ++ (c.expected.display ++ (", got " ++ (c.actual.display ++ "\n"))))
        (rfl : "  ✗ ".length = 4) ?_
      rw [hline]
      simp only [String.append_assoc]

end Check

namespace Report

variable {r : Report} {width : Nat}

/-- The column of names has room for every name. -/
theorem length_name_le_nameWidth {c : Check} (hc : c ∈ r.checks) : c.name.length ≤ r.nameWidth := by
  have hmem : c.name.utf8ByteSize ∈ r.checks.map fun c => c.name.utf8ByteSize :=
    List.mem_map_of_mem hc
  obtain ⟨longest, hlongest⟩ := Option.isSome_iff_exists.mp (List.isSome_max?_of_mem hmem)
  have hwidth : r.nameWidth = max 0 longest := by
    rw [nameWidth, List.foldl_max, hlongest, Option.getD_some]
  have hle := (List.max?_eq_some_iff.mp hlongest).2 _ hmem
  have hbytes := length_le_utf8ByteSize c.name
  omega

/-- Along the checks the lines of those that passed are deleted, and the others are the same. -/
theorem thinned_lines {cs : List Check} (h : ∀ c ∈ cs, c.name.length ≤ width) :
    Thinned width cs (String.join (cs.map (checkLine width)))
      (String.join ((cs.filter fun c => !c.passed).map (checkLine width))) := by
  induction cs with
  | nil => exact .nil
  | cons c cs ih =>
    obtain ⟨hc, hcs⟩ := List.forall_mem_cons.mp h
    have hentry := Check.entersAt_checkLine hc
    rw [List.map_cons, String.join_cons]
    cases hpassed : c.passed with
    | true =>
      rw [List.filter_cons_of_neg (by simp [hpassed])]
      exact .deleted hentry hpassed (ih hcs)
    | false =>
      rw [List.filter_cons_of_pos (by simp [hpassed]), List.map_cons, String.join_cons]
      exact .kept hentry hpassed (ih hcs)

/-- What a listing begins with: its header, with an empty line after it. -/
def header (r : Report) : String :=
  "═══ Conformance: " ++ r.backend ++ " (" ++ r.tier.name ++ ") ═══" ++ "\n" ++ "\n"

/-- The listing of a report is a table with room for names of so many characters, from which the
entries of the checks that passed can be deleted. -/
structure Tabulated (r : Report) (width : Nat) : Prop where
  roomy (c : Check) : c ∈ r.checks → c.name.length ≤ width
  /-- There is an entry for every check that is printed, in order, between the header and an empty
  line. -/
  entries (failuresOnly : Bool) : ∃ entries,
    List.Forall₂ (Check.EntersAt width) (if failuresOnly then r.failures else r.checks) entries ∧
      r.listing failuresOnly = r.header ++ String.join entries ++ "\n"
  /-- Failures alone are the full listing without the entries of the checks that passed. -/
  thinned : ∃ full thin, Thinned width r.checks full thin ∧
    r.listing false = r.header ++ full ++ "\n" ∧ r.listing true = r.header ++ thin ++ "\n"
  /-- On the console the listing comes first, and then the summary. -/
  shown (c : Console) (failuresOnly : Bool) : c.format = .human →
    c.report r failuresOnly = r.listing failuresOnly ++ c.verdict r

/-- Every report is listed in columns, and leaving out the checks that passed deletes their entries
and nothing else. -/
theorem listing_tabulated (r : Report) : ∃ width, r.Tabulated width := by
  refine ⟨r.nameWidth, fun _ => length_name_le_nameWidth, fun failuresOnly => ?_, ?_,
    fun c failuresOnly hc => report_human hc failuresOnly⟩
  · refine ⟨_, ?_, rfl⟩
    rw [List.forall₂_map_right_iff, List.forall₂_same]
    intro c hc
    have hmem : c ∈ r.checks := by
      cases failuresOnly with
      | true => exact (mem_failures_iff.mp hc).1
      | false => exact hc
    exact Check.entersAt_checkLine (length_name_le_nameWidth hmem)
  · exact ⟨_, _, thinned_lines fun _ => length_name_le_nameWidth, rfl, rfl⟩

end Report

end BoundaryContract
