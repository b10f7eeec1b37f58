import HostProfile.Host.Direct3D
import Mathlib.Data.List.Basic

/-!
# Texts that end at a NUL

A byte string of a system interface ends at the first NUL, whatever stands after it, or after all of
its bytes if none is a NUL. The text in it is what these bytes decode to, ill-formed runs replaced
(`Terminated`). Every byte string has one such text, which is the one that is read
(`terminated_iff`), and cutting at the NUL first or falling back on the whole comes to the same
(`untilNul_eq`, `fieldText_eq`).

A text without a NUL has no zero byte (`zero_mem_encode_iff`), so it is the text in its own bytes,
with a NUL after them or without (`terminated_encode`, `terminated_encode_nul`).
-/

set_option autoImplicit false
set_option relaxedAutoImplicit false

namespace HostProfile.Text

/-- A byte string has this text up to its end, which is the first NUL if there is one. -/
inductive Terminated : List UInt8 → String → Prop
  | nul {before : List UInt8} (after : List UInt8) (h : 0 ∉ before) :
      Terminated (before ++ 0 :: after) (decodeLossy before)
  | whole {bytes : List UInt8} (h : 0 ∉ bytes) : Terminated bytes (decodeLossy bytes)

variable {bytes before : List UInt8}

/-! ### Cutting at the first NUL -/

theorem idxOf?_zero_append (after : List UInt8) (h : 0 ∉ before) :
    (before ++ 0 :: after).idxOf? 0 = some before.length := by
  induction before with
  | nil => rfl
  | cons byte rest ih =>
    have hbyte : byte ≠ 0 := fun hzero ↦ h (hzero ▸ List.mem_cons_self)
    have hrest : 0 ∉ rest := fun hmem ↦ h (List.mem_cons_of_mem _ hmem)
    rw [List.cons_append, List.idxOf?_cons, if_neg (by simpa using hbyte), ih hrest]
    rfl

theorem beforeNul?_append (after : List UInt8) (h : 0 ∉ before) :
    beforeNul? (before ++ 0 :: after) = some before := by
  rw [beforeNul?, idxOf?_zero_append after h, Option.map_some, List.take_left]

theorem beforeNul?_of_notMem (h : 0 ∉ bytes) : beforeNul? bytes = none := by
  rw [beforeNul?, List.idxOf?_eq_none_iff.mpr h, Option.map_none]

theorem untilNul_eq (bytes : List UInt8) : untilNul bytes = (beforeNul? bytes).getD bytes := by
  rw [untilNul, beforeNul?]
  cases bytes.idxOf? 0 with
  | none => exact List.take_length
  | some n => rfl

theorem fieldText_eq (bytes : List UInt8) : Direct3D.fieldText bytes = terminatedText bytes := by
  rw [Direct3D.fieldText, terminatedText, untilNul_eq]
  cases beforeNul? bytes <;> rfl

theorem Terminated.terminatedText_eq {text : String} (h : Terminated bytes text) :
    terminatedText bytes = text := by
  rw [terminatedText, untilNul_eq]
  cases h with
  | nul after h => rw [beforeNul?_append after h, Option.getD_some]
  | whole h => rw [beforeNul?_of_notMem h, Option.getD_none]

theorem terminated_terminatedText (bytes : List UInt8) :
    Terminated bytes (terminatedText bytes) := by
  have hexists : ∃ text, Terminated bytes text := by
    by_cases h : 0 ∈ bytes
    · obtain ⟨before, after, rfl, hbefore⟩ := List.eq_append_cons_of_mem h
      exact ⟨_, .nul after hbefore⟩
    · exact ⟨_, .whole h⟩
  obtain ⟨text, htext⟩ := hexists
  rwa [htext.terminatedText_eq]

/-- The text that is read is the one up to the end of the byte string, and no other is. -/
theorem terminated_iff {text : String} : Terminated bytes text ↔ terminatedText bytes = text :=
  ⟨Terminated.terminatedText_eq, fun h ↦ h ▸ terminated_terminatedText bytes⟩

/-! ### Texts without a NUL -/

/-- Of all characters only NUL has a zero byte. -/
theorem zero_mem_utf8EncodeChar_iff (c : Char) :
    0 ∈ String.utf8EncodeChar c ↔ c = '\x00' := by
  have hval : c.val.toNat = c.toNat := rfl
  have hchar : c = '\x00' ↔ c.toNat = 0 := by
    rw [← Char.toNat_inj]
    rfl
  have hbyte (n : Nat) : (0 : UInt8) = UInt8.ofNat n ↔ n % 256 = 0 := by
    rw [← UInt8.toNat_inj]
    simp [eq_comm]
  rw [hchar, String.utf8EncodeChar.eq_def, hval]
  dsimp only
  split_ifs
  all_goals
    simp only [List.mem_cons, List.not_mem_nil, or_false, hbyte]
    omega

theorem zero_mem_encode_iff (text : String) : 0 ∈ encode text ↔ '\x00' ∈ text.toList := by
  simp [encode, zero_mem_utf8EncodeChar_iff]

theorem terminated_encode {text : String} (h : '\x00' ∉ text.toList) :
    Terminated (encode text) text := by
  have hwhole := Terminated.whole (mt (zero_mem_encode_iff text).mp h)
  rwa [decodeLossy_encode] at hwhole

theorem terminated_encode_nul {text : String} (h : '\x00' ∉ text.toList) (after : List UInt8) :
    Terminated (encode text ++ 0 :: after) text := by
  have hnul := Terminated.nul after (mt (zero_mem_encode_iff text).mp h)
  rwa [decodeLossy_encode] at hnul

end HostProfile.Text
