import BoundaryContract.Text.Quoted

/-!
# Texts that show where they end

A way of writing is `Delimited` if what was written can be told from every longer text that begins
with it, together with what comes after. Words are delimited by a character that stands in none of
them (`Delimited.closed`), and so is any number of items by a character that begins none of them
(`Delimited.items`). A quoted string is of the second kind: every character stands as itself, or as
a backslash with a letter or with a number in braces (`Escaped`), and nothing of this begins with a
quote (`delimited_quote`). Which characters have a visible form of their own has no part in it.
-/

namespace BoundaryContract.Text

/-- Words of some characters are told apart by a character after them that is none of these. -/
theorem append_cons_inj {p : Char → Prop} {xs ys r s : List Char} {a b : Char}
    (hxs : ∀ ch ∈ xs, p ch) (hys : ∀ ch ∈ ys, p ch) (ha : ¬ p a) (hb : ¬ p b)
    (h : xs ++ a :: r = ys ++ b :: s) : xs = ys ∧ a = b ∧ r = s := by
  induction xs generalizing ys with
  | nil =>
    cases ys with
    | nil =>
      obtain ⟨rfl, rfl⟩ := List.cons.inj h
      exact ⟨rfl, rfl, rfl⟩
    | cons y ys =>
      obtain ⟨rfl, -⟩ := List.cons.inj h
      exact absurd (hys _ (.head _)) ha
  | cons x xs ih =>
    cases ys with
    | nil =>
      obtain ⟨rfl, -⟩ := List.cons.inj h
      exact absurd (hxs _ (.head _)) hb
    | cons y ys =>
      obtain ⟨rfl, hrest⟩ := List.cons.inj h
      obtain ⟨-, hxs⟩ := List.forall_mem_cons.mp hxs
      obtain ⟨-, hys⟩ := List.forall_mem_cons.mp hys
      obtain ⟨rfl, rest⟩ := ih hxs hys hrest
      exact ⟨rfl, rest⟩

/-- What was written is known from any text that begins with it, and so is what comes after. -/
def Delimited {α : Type} (write : α → List Char) : Prop :=
  ∀ ⦃x y : α⦄ ⦃r s : List Char⦄, write x ++ r = write y ++ s → x = y ∧ r = s

namespace Delimited

variable {α : Type} {write : α → List Char} {stop : Char}

/-- A word is delimited by a character after it that stands in no word. -/
theorem closed (hinj : Function.Injective write) (hstop : ∀ x, ∀ ch ∈ write x, ch ≠ stop) :
    Delimited fun x => write x ++ [stop] := by
  intro x y r s h
  rw [List.append_assoc, List.append_assoc] at h
  obtain ⟨hword, -, hrest⟩ := append_cons_inj (hstop x) (hstop y) (not_not_intro rfl)
    (not_not_intro rfl) h
  exact ⟨hinj hword, hrest⟩

/-- Items are delimited by a character after them that begins no item. -/
theorem items (h : Delimited write) (hfirst : ∀ x, ∃ ch cs, write x = ch :: cs ∧ ch ≠ stop) :
    Delimited fun xs : List α => xs.flatMap write ++ [stop] := by
  have hne (x : α) (r s : List Char) : write x ++ r ≠ stop :: s := by
    obtain ⟨ch, cs, hx, hch⟩ := hfirst x
    rw [hx]
    exact fun heq => hch (List.cons.inj heq).1
  have hcons (x : α) (xs : List α) (r : List Char) :
      (x :: xs).flatMap write ++ [stop] ++ r = write x ++ (xs.flatMap write ++ [stop] ++ r) := by
    rw [List.flatMap_cons, List.append_assoc, List.append_assoc, List.append_assoc]
  intro xs ys r s heq
  induction xs generalizing ys with
  | nil =>
    cases ys with
    | nil => exact ⟨rfl, List.append_cancel_left heq⟩
    | cons y ys => exact absurd ((hcons y ys s).symm.trans heq.symm) (hne y _ _)
  | cons x xs ih =>
    cases ys with
    | nil => exact absurd ((hcons x xs r).symm.trans heq) (hne x _ _)
    | cons y ys =>
      obtain ⟨rfl, hrest⟩ := h ((hcons x xs r).symm.trans (heq.trans (hcons y ys s)))
      obtain ⟨rfl, htail⟩ := ih hrest
      exact ⟨rfl, htail⟩

end Delimited

/-! ### Numbers in braces -/

theorem digitChar_injOn : ∀ m < 16, ∀ n < 16, Nat.digitChar m = Nat.digitChar n → m = n := by
  decide

theorem digitChar_ne_close : ∀ n < 16, Nat.digitChar n ≠ '\x7d' := by decide

theorem hexDigits_of_lt {n : Nat} (h : n < 16) : hexDigits n = [Nat.digitChar n] :=
  Nat.toDigits_of_lt_base h

theorem hexDigits_of_le {n : Nat} (h : 16 ≤ n) :
    hexDigits n = hexDigits (n / 16) ++ [Nat.digitChar (n % 16)] :=
  Nat.toDigits_of_base_le (by decide) h

/-- A number is known from its digits. -/
theorem hexDigits_injective : Function.Injective hexDigits := by
  -- two numbers of several digits have the same last digit and the same digits before it
  have hshort {m n : Nat} (hm : m < 16) (hn : 16 ≤ n) : hexDigits m ≠ hexDigits n := by
    rw [hexDigits_of_lt hm, hexDigits_of_le hn]
    intro h
    obtain ⟨hnil, -⟩ := List.append_inj' ((List.nil_append _).trans h) rfl
    exact Nat.toDigits_ne_nil hnil.symm
  intro m
  induction m using Nat.strongRecOn with
  | ind m ih =>
    intro n h
    obtain hm | hm := Nat.lt_or_ge m 16 <;> obtain hn | hn := Nat.lt_or_ge n 16
    · rw [hexDigits_of_lt hm, hexDigits_of_lt hn, List.singleton_inj] at h
      exact digitChar_injOn m hm n hn h
    · exact absurd h (hshort hm hn)
    · exact absurd h.symm (hshort hn hm)
    · rw [hexDigits_of_le hm, hexDigits_of_le hn] at h
      obtain ⟨hbefore, hlast⟩ := List.append_inj' h rfl
      have hdiv := ih (m / 16) (by omega) hbefore
      have hmod := digitChar_injOn _ (Nat.mod_lt m (by decide)) _ (Nat.mod_lt n (by decide))
        (List.singleton_inj.mp hlast)
      omega

/-- The digits of a number never close a brace. -/
theorem ne_close_of_mem_hexDigits (n : Nat) : ∀ ch ∈ hexDigits n, ch ≠ '\x7d' := by
  induction n using Nat.strongRecOn with
  | ind n ih =>
    obtain hn | hn := Nat.lt_or_ge n 16
    · rw [hexDigits_of_lt hn, List.forall_mem_singleton]
      exact digitChar_ne_close n hn
    · rw [hexDigits_of_le hn, List.forall_mem_append, List.forall_mem_singleton]
      exact ⟨ih (n / 16) (by omega), digitChar_ne_close _ (Nat.mod_lt n (by decide))⟩

theorem delimited_hexDigits : Delimited fun n => hexDigits n ++ ['\x7d'] :=
  .closed hexDigits_injective ne_close_of_mem_hexDigits

/-! ### Escapes -/

/-- The character that a letter after a backslash stands for. -/
def meaning? : Char → Option Char
  | '0' => some '\x00'
  | 't' => some '\t'
  | 'r' => some '\r'
  | 'n' => some '\n'
  | '\\' => some '\\'
  | '"' => some '"'
  | _ => none

/-- The letter that announces a number means nothing else. -/
theorem ne_u_of_meaning? {letter c : Char} (h : meaning? letter = some c) : letter ≠ 'u' := by
  rintro rfl
  cases h

/-- How a character is written inside quotes. -/
inductive Escaped (c : Char) : List Char → Prop
  | plain (hslash : c ≠ '\\') (hquote : c ≠ '"') : Escaped c [c]
  | letter {letter : Char} (h : meaning? letter = some c) : Escaped c ['\\', letter]
  | number : Escaped c ('\\' :: 'u' :: '\x7b' :: (hexDigits c.toNat ++ ['\x7d']))

/-- What is written for a character is one of its escapes. -/
theorem escaped_escape (c : Char) : Escaped c (escape c) := by
  unfold escape
  split
  · exact .letter rfl
  · exact .letter rfl
  · exact .letter rfl
  · exact .letter rfl
  · exact .letter rfl
  · exact .letter rfl
  · next hslash hquote =>
    split
    · exact .plain hslash hquote
    · exact .number

/-- No escape is empty or begins with a quote. -/
theorem Escaped.exists_cons {c : Char} {t : List Char} (h : Escaped c t) :
    ∃ ch cs, t = ch :: cs ∧ ch ≠ '"' := by
  cases h with
  | plain _ hquote => exact ⟨c, [], rfl, hquote⟩
  | letter _ | number => exact ⟨'\\', _, rfl, by decide⟩

/-- The character is known from how it is written and what comes after. -/
theorem Escaped.inj {c d : Char} {t u r s : List Char} (h : Escaped c t) (h' : Escaped d u)
    (heq : t ++ r = u ++ s) : c = d ∧ r = s := by
  cases h with
  | plain hslash _ =>
    cases h' with
    | plain _ _ => exact List.cons.inj heq
    | letter _ | number => exact absurd (List.cons.inj heq).1 hslash
  | letter hmeaning =>
    cases h' with
    | plain hslash _ => exact absurd (List.cons.inj heq).1.symm hslash
    | letter hmeaning' =>
      obtain ⟨-, hletters⟩ := List.cons.inj heq
      obtain ⟨rfl, hrest⟩ := List.cons.inj hletters
      rw [hmeaning, Option.some.injEq] at hmeaning'
      exact ⟨hmeaning', hrest⟩
    | number =>
      exact absurd (List.cons.inj (List.cons.inj heq).2).1 (ne_u_of_meaning? hmeaning)
  | number =>
    cases h' with
    | plain hslash _ => exact absurd (List.cons.inj heq).1.symm hslash
    | letter hmeaning =>
      exact absurd (List.cons.inj (List.cons.inj heq).2).1.symm (ne_u_of_meaning? hmeaning)
    | number =>
      have hdigits : hexDigits c.toNat ++ ['\x7d'] ++ r = hexDigits d.toNat ++ ['\x7d'] ++ s :=
        List.append_cancel_left (show ['\\', 'u', '\x7b'] ++ _ = _ ++ _ from heq)
      obtain ⟨hcode, hrest⟩ := delimited_hexDigits hdigits
      exact ⟨Char.toNat_inj.mp hcode, hrest⟩

theorem delimited_escape : Delimited escape := fun c d _ _ h =>
  (escaped_escape c).inj (escaped_escape d) h

/-- A quoted string shows where it ends, whatever comes after it. -/
theorem delimited_quote : Delimited fun s => (quote s).toList := by
  have hitems : Delimited fun cs : List Char => cs.flatMap escape ++ ['"'] :=
    delimited_escape.items fun c => (escaped_escape c).exists_cons
  intro s t r u h
  simp only [quote, String.toList_ofList, List.cons_append, List.cons.injEq] at h
  obtain ⟨htoList, hrest⟩ := hitems h.2
  exact ⟨String.toList_inj.mp htoList, hrest⟩

end BoundaryContract.Text
