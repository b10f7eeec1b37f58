/-!
# Little-endian words

`valueLE` is the number that bytes denote when the first is the least significant, and `word32LE`
lists the four bytes of a word in that order. `valueLE_word32LE` says that the second undoes the
first.
-/

set_option autoImplicit false
set_option relaxedAutoImplicit false

namespace HostProfile.Bytes

/-- The number that bytes denote, the first being the least significant. -/
def valueLE : List UInt8 → Nat
  | [] => 0
  | byte :: rest => byte.toNat + 256 * valueLE rest

/-- The four bytes of a word, the least significant first. -/
def word32LE (word : UInt32) : List UInt8 :=
  [word.toUInt8, (word >>> 8).toUInt8, (word >>> 16).toUInt8, (word >>> 24).toUInt8]

theorem valueLE_word32LE (word : UInt32) : valueLE (word32LE word) = word.toNat := by
  have hbound : word.toNat < 4294967296 := word.toNat_lt
  simp only [word32LE, valueLE, UInt32.toNat_toUInt8, UInt32.toNat_shiftRight,
    Nat.shiftRight_eq_div_pow]
  simp
  omega

end HostProfile.Bytes
