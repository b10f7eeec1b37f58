import HostProfile.Bytes
import Mathlib.Algebra.Order.Ring.Nat

/-!
# Bytes as numbers

So many bytes denote a number below a power of 256 (`valueLE_lt`), each number in one way only
(`eq_of_valueLE_eq`), and zeros after them change nothing (`valueLE_append_zeros`).
-/

set_option autoImplicit false
set_option relaxedAutoImplicit false

namespace HostProfile.Bytes

theorem valueLE_lt (bytes : List UInt8) : valueLE bytes < 256 ^ bytes.length := by
  induction bytes with
  | nil => exact Nat.one_pos
  | cons byte rest ih =>
    have hbyte : byte.toNat < 256 := byte.toNat_lt
    rw [valueLE, List.length_cons, Nat.pow_succ']
    omega

theorem valueLE_lt_of_length_le {bytes : List UInt8} {count : Nat} (h : bytes.length ≤ count) :
    valueLE bytes < 256 ^ count :=
  (valueLE_lt bytes).trans_le (Nat.pow_le_pow_right (by decide) h)

theorem valueLE_replicate_zero (count : Nat) : valueLE (List.replicate count 0) = 0 := by
  induction count with
  | zero => rfl
  | succ count ih => rw [List.replicate_succ, valueLE, ih, UInt8.toNat_zero]

theorem valueLE_append_zeros (bytes : List UInt8) (count : Nat) :
    valueLE (bytes ++ List.replicate count 0) = valueLE bytes := by
  induction bytes with
  | nil => exact valueLE_replicate_zero count
  | cons byte rest ih => rw [List.cons_append, valueLE, ih, valueLE]

/-- As many bytes denote a number in one way only. -/
theorem eq_of_valueLE_eq {first second : List UInt8} (hlength : first.length = second.length)
    (h : valueLE first = valueLE second) : first = second := by
  induction first generalizing second with
  | nil => exact (List.length_eq_zero_iff.mp hlength.symm).symm
  | cons byte rest ih =>
    cases second with
    | nil => cases hlength
    | cons other others =>
      have hbyte : byte.toNat < 256 := byte.toNat_lt
      have hother : other.toNat < 256 := other.toNat_lt
      rw [valueLE, valueLE] at h
      have hfirst : byte = other := UInt8.toNat_inj.mp (by omega)
      have hrest : rest = others := ih (Nat.succ.inj hlength) (by omega)
      rw [hfirst, hrest]

/-- A number of four bytes at most fits a word. -/
theorem toNat_ofNat_valueLE {bytes : List UInt8} (h : bytes.length ≤ 4) :
    (UInt32.ofNat (valueLE bytes)).toNat = valueLE bytes :=
  UInt32.toNat_ofNat_of_lt' (valueLE_lt_of_length_le h)

theorem word32LE_valueLE {bytes : List UInt8} (h : bytes.length = 4) :
    word32LE (UInt32.ofNat (valueLE bytes)) = bytes := by
  refine eq_of_valueLE_eq h.symm ?_
  rw [valueLE_word32LE, toNat_ofNat_valueLE h.le]

end HostProfile.Bytes
