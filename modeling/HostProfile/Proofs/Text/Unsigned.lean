import HostProfile.Text.Numeral
import Mathlib.Data.List.Basic

/-!
# Texts that are an unsigned number

A text is an unsigned 64-bit number if it is a plus sign or none and then decimal digits, at least
one, whose value is below 2^64 (`Denotes`). These are the texts that can be read
(`readWord64_eq_ok_iff`): the digits are held against the limit one after another, but a value that
is passed once is never come back from.
-/

set_option autoImplicit false
set_option relaxedAutoImplicit false

namespace HostProfile.Text

/-- The sign of an unsigned number that has one or has none. -/
def plusSign (signed : Bool) : List Char :=
  if signed then ['+'] else []

/-- A text is an unsigned number. -/
inductive Denotes : List Char → UInt64 → Prop
  | intro (signed : Bool) {digits : List Char} {n : UInt64} (hne : digits ≠ [])
      (hdigits : digits.all Char.isDigit = true) (hvalue : digitsValue digits = n.toNat) :
      Denotes (plusSign signed ++ digits) n

theorem denotes_decimal (n : UInt64) : Denotes (decimal n.toNat) n :=
  .intro false Nat.toDigits_ne_nil (List.all_eq_true.mpr fun _ ↦ isDigit_of_mem_decimal)
    (digitsValue_decimal n.toNat)

theorem le_ofDigitChars (init : Nat) (cs : List Char) : init ≤ Nat.ofDigitChars 10 cs init := by
  rw [Nat.ofDigitChars_eq_ofDigitChars_zero]
  exact Nat.le_add_right_of_le (Nat.le_mul_of_pos_left init (Nat.pow_pos (by decide)))

/-- The digits that are read on top of a value are those that stay within the limit. -/
theorem readDigits_eq_ok_iff {limit init n : Nat} {cs : List Char} (h : init ≤ limit) :
    readDigits limit init cs = .ok n ↔
      cs.all Char.isDigit = true ∧ Nat.ofDigitChars 10 cs init = n ∧ n ≤ limit := by
  induction cs generalizing init with
  | nil =>
    rw [readDigits, Nat.ofDigitChars_nil, Except.ok.injEq]
    exact ⟨fun heq ↦ ⟨rfl, heq, heq ▸ h⟩, fun hread ↦ hread.2.1⟩
  | cons c rest ih =>
    rw [readDigits, List.all_cons, Nat.ofDigitChars_cons]
    cases hdigit : c.isDigit with
    | false => simp
    | true =>
      rw [if_pos rfl, Bool.true_and]
      dsimp only
      split_ifs with hnext
      · exact ih hnext
      · refine iff_of_false (fun hread ↦ by cases hread) fun ⟨_, heq, hle⟩ ↦ hnext ?_
        exact Nat.le_trans (heq ▸ le_ofDigitChars _ rest) hle

theorem readDigits_map_eq_ok_iff {n : UInt64} {cs : List Char} :
    (readDigits (UInt64.size - 1) 0 cs).map UInt64.ofNat = .ok n ↔
      cs.all Char.isDigit = true ∧ digitsValue cs = n.toNat := by
  constructor
  · intro h
    cases hread : readDigits (UInt64.size - 1) 0 cs with
    | error error => rw [hread] at h; cases h
    | ok value =>
      obtain ⟨hdigits, hvalue, hle⟩ := (readDigits_eq_ok_iff (Nat.zero_le _)).mp hread
      rw [hread] at h
      obtain rfl : UInt64.ofNat value = n := Except.ok.inj h
      refine ⟨hdigits, hvalue.trans ?_⟩
      rw [UInt64.toNat_ofNat_of_lt']
      exact Nat.lt_of_le_sub_one (by decide) hle
  · rintro ⟨hdigits, hvalue⟩
    have hle : n.toNat ≤ UInt64.size - 1 := Nat.le_sub_one_of_lt n.toNat_lt_size
    rw [(readDigits_eq_ok_iff (Nat.zero_le _)).mpr ⟨hdigits, hvalue, hle⟩, Except.map,
      UInt64.ofNat_toNat]

/-- The texts that can be read are the unsigned numbers. -/
theorem readWord64_eq_ok_iff {cs : List Char} {n : UInt64} :
    readWord64 cs = .ok n ↔ Denotes cs n := by
  constructor
  · intro h
    unfold readWord64 at h
    split at h
    · cases h
    · cases h
    · rename_i rest hne
      obtain ⟨hdigits, hvalue⟩ := readDigits_map_eq_ok_iff.mp h
      exact .intro true (fun hnil ↦ hne (by rw [hnil])) hdigits hvalue
    · rename_i hne _ _
      obtain ⟨hdigits, hvalue⟩ := readDigits_map_eq_ok_iff.mp h
      exact .intro false hne hdigits hvalue
  · rintro ⟨signed, hne, hdigits, hvalue⟩
    have hread := readDigits_map_eq_ok_iff.mpr ⟨hdigits, hvalue⟩
    obtain ⟨d, ds, rfl⟩ := List.exists_cons_of_ne_nil hne
    cases signed with
    | true => exact hread
    | false =>
      have hplus : d ≠ '+' := by
        rintro rfl
        simp at hdigits
      show readWord64 (d :: ds) = .ok n
      unfold readWord64
      split
      · contradiction
      · rename_i heq
        exact absurd (List.cons.inj heq).1 hplus
      · rename_i heq
        exact absurd (List.cons.inj heq).1 hplus
      · exact hread

end HostProfile.Text
