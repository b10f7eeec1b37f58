import HostProfile.Proofs.Text.Strip
import HostProfile.Text.Numeral
import Mathlib.Data.List.Basic

/-!
# Texts that start with an integer

A text starts with an integer if it has blanks, a minus sign or none, digits, and after them
anything but a digit (`Starts`). Reading such a text comes to the integer if it is in the signed
64-bit range, and to nothing if it is not (`leadingInt?_of_starts`); every other text comes to
nothing (`leadingInt?_eq_some_iff`). A number that was written in decimal is one case
(`starts_decimal_append`).
-/

set_option autoImplicit false
set_option relaxedAutoImplicit false

namespace HostProfile.Text

/-- The sign of an integer that is negated or not. -/
def sign (negative : Bool) : List Char :=
  if negative then ['-'] else []

/-- The integer of a run of digits, negated or not. -/
def signedInt (negative : Bool) (digits : List Char) : Int :=
  if negative then -(digitsValue digits : Int) else digitsValue digits

/-- A text starts with an integer. -/
inductive Starts : List Char → Int → Prop
  | intro (blanks : List Char) (negative : Bool) (digits rest : List Char)
      (hblanks : isAllBlank blanks = true) (hdigits : digits.all Char.isDigit = true)
      (hne : digits ≠ []) (hrest : ∀ c ∈ rest.head?, c.isDigit = false) :
      Starts (blanks ++ (sign negative ++ digits ++ rest)) (signedInt negative digits)

theorem starts_decimal_append (n : Nat) {rest : List Char}
    (hrest : ∀ c ∈ rest.head?, c.isDigit = false) : Starts (decimal n ++ rest) n := by
  have hdigits : (decimal n).all Char.isDigit = true :=
    List.all_eq_true.mpr fun _ ↦ isDigit_of_mem_decimal
  have hne : decimal n ≠ [] := Nat.toDigits_ne_nil
  have h := Starts.intro [] false (decimal n) rest rfl hdigits hne hrest
  rwa [signedInt, if_neg Bool.false_ne_true, digitsValue_decimal] at h

/-! ### Blanks around an integer -/

theorem isBlank_of_isDigit {c : Char} (h : c.isDigit = true) : isBlank c = false := by
  have hlow : 48 ≤ c.toNat := by
    simpa [Char.le_def, UInt32.le_iff_toNat_le] using (Bool.and_eq_true_iff.mp h).1
  have hhigh : c.toNat ≤ 57 := by
    simpa [Char.le_def, UInt32.le_iff_toNat_le] using (Bool.and_eq_true_iff.mp h).2
  simp only [isBlank, Bool.or_eq_false_iff, Bool.and_eq_false_iff, beq_eq_false_iff_ne,
    decide_eq_false_iff_not]
  omega

/-- Of an integer and what follows it, trimming takes away blanks at the end of what follows. -/
theorem trim_signed_append (negative : Bool) {digits : List Char} (rest : List Char)
    (hdigits : digits.all Char.isDigit = true) (hne : digits ≠ []) :
    trim (sign negative ++ digits ++ rest) =
      sign negative ++ digits ++ stripEnd isBlank rest := by
  obtain ⟨after, hrest, hafter⟩ := exists_stripEnd_append isBlank rest
  have hnotBlank : ∀ c ∈ digits, isBlank c = false := fun c hc ↦
    isBlank_of_isDigit (List.all_eq_true.mp hdigits c hc)
  refine (core_iff.mp ⟨⟨[], after, ?_, rfl, hafter⟩, fun c hc ↦ ?_, fun c hc ↦ ?_⟩).symm
  · rw [List.nil_append, List.append_assoc _ _ after, ← hrest]
  · cases negative with
    | true =>
      cases hc
      rfl
    | false =>
      refine hnotBlank c (List.mem_of_head? ?_)
      rwa [sign, if_neg Bool.false_ne_true, List.nil_append, List.head?_append_of_ne_nil _ hne]
        at hc
  · by_cases hend : stripEnd isBlank rest = []
    · refine hnotBlank c (List.mem_of_getLast? ?_)
      rwa [hend, List.append_nil, List.getLast?_append_of_ne_nil _ hne] at hc
    · refine getLast?_stripEnd isBlank rest c ?_
      rwa [List.getLast?_append_of_ne_nil _ hend] at hc

/-- The digits of a text that starts with them. -/
theorem takeWhile_digits_append {digits rest : List Char}
    (hdigits : digits.all Char.isDigit = true) (hrest : ∀ c ∈ rest.head?, c.isDigit = false) :
    (digits ++ rest).takeWhile Char.isDigit = digits := by
  have htake : rest.takeWhile Char.isDigit = [] := by
    cases rest with
    | nil => rfl
    | cons c more => rw [List.takeWhile_cons, hrest c rfl, if_neg Bool.false_ne_true]
  rw [List.takeWhile_append_of_pos fun c hc ↦ List.all_eq_true.mp hdigits c hc, htake,
    List.append_nil]

/-! ### Reading an integer -/

theorem signedValue?_eq {negative : Bool} {digits : List Char} (hne : digits ≠ []) :
    signedValue? negative digits =
      if inInt64Range (signedInt negative digits) then some (signedInt negative digits)
      else none := by
  have hisEmpty : digits.isEmpty = false := by simpa using hne
  rw [signedValue?, hisEmpty, Bool.not_false, Bool.true_and]
  rfl

/-- A text that starts with an integer reads as the integer, if that is in range. -/
theorem leadingInt?_of_starts {text : List Char} {n : Int} (h : Starts text n) :
    leadingInt? text = if inInt64Range n then some n else none := by
  obtain ⟨blanks, negative, digits, rest, hblanks, hdigits, hne, hrest⟩ := h
  have htrim : trim (blanks ++ (sign negative ++ digits ++ rest)) =
      sign negative ++ digits ++ stripEnd isBlank rest :=
    (strip_append_left hblanks _).trans (trim_signed_append negative rest hdigits hne)
  have hend : ∀ c ∈ (stripEnd isBlank rest).head?, c.isDigit = false := by
    obtain ⟨after, heq, -⟩ := exists_stripEnd_append isBlank rest
    intro c hc
    refine hrest c ?_
    rw [heq, List.head?_append, Option.mem_def.mp hc]
    rfl
  have htake := takeWhile_digits_append hdigits hend
  rw [leadingInt?, htrim, ← signedValue?_eq hne]
  cases negative with
  | true =>
    show signedValue? true ((digits ++ stripEnd isBlank rest).takeWhile Char.isDigit) = _
    rw [htake]
  | false =>
    have hunsigned : sign false ++ digits = digits := rfl
    rw [hunsigned]
    split
    · rename_i more heq
      -- A text that starts with a digit does not start with a minus sign.
      obtain ⟨d, ds, rfl⟩ := List.exists_cons_of_ne_nil hne
      obtain ⟨rfl, -⟩ := List.cons.inj heq
      simp at hdigits
    · rw [htake]

/-- Digits at the start of what is left between blanks make an integer that the text starts
with. -/
theorem starts_of_signedValue? (negative : Bool) {blanks more after : List Char} {n : Int}
    (hblanks : isAllBlank blanks = true) (hafter : isAllBlank after = true)
    (h : signedValue? negative (more.takeWhile Char.isDigit) = some n) :
    Starts (blanks ++ (sign negative ++ more) ++ after) n ∧ inInt64Range n = true := by
  have hne : more.takeWhile Char.isDigit ≠ [] := by
    intro hnil
    rw [hnil] at h
    cases h
  rw [signedValue?_eq hne, Option.ite_none_right_eq_some] at h
  obtain ⟨hrange, hn⟩ := h
  cases hn
  refine ⟨?_, hrange⟩
  have hrest : ∀ c ∈ (more.dropWhile Char.isDigit ++ after).head?, c.isDigit = false := by
    intro c hc
    by_cases hnil : more.dropWhile Char.isDigit = []
    · rw [hnil, List.nil_append] at hc
      have hblank : isBlank c = true := List.all_eq_true.mp hafter c (List.mem_of_head? hc)
      by_contra hdigit
      rw [isBlank_of_isDigit (Bool.not_eq_false _ ▸ hdigit)] at hblank
      cases hblank
    · rw [List.head?_append_of_ne_nil _ hnil] at hc
      exact head?_dropWhile Char.isDigit more c hc
  have hstarts := Starts.intro blanks negative _ _ hblanks List.all_takeWhile hne hrest
  rwa [List.append_assoc (sign negative), ← List.append_assoc (more.takeWhile _),
    List.takeWhile_append_dropWhile, ← List.append_assoc (sign negative),
    ← List.append_assoc blanks] at hstarts

/-- The integers that are read are those in range that a text starts with. -/
theorem leadingInt?_eq_some_iff {text : List Char} {n : Int} :
    leadingInt? text = some n ↔ Starts text n ∧ inInt64Range n = true := by
  constructor
  · intro h
    obtain ⟨blanks, after, htext, hblanks, hafter⟩ := (core_strip isBlank text).padded
    rw [htext]
    rw [leadingInt?, trim] at h
    split at h
    · rename_i more hcore
      rw [hcore]
      exact starts_of_signedValue? true hblanks hafter h
    · exact starts_of_signedValue? false hblanks hafter h
  · rintro ⟨hstarts, hrange⟩
    rw [leadingInt?_of_starts hstarts, if_pos hrange]

end HostProfile.Text
