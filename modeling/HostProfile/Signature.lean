import HostProfile.Bytes
import HostProfile.Text.Utf8

/-!
# Processor identification

What the identification instruction leaves in the registers, and the three numbers by which a
processor is known: family, model and stepping.

The vendor name lies in three registers that do not come back in reading order. A version word
packs the three numbers with two extensions, and only some families take the extensions up.
-/

set_option autoImplicit false
set_option relaxedAutoImplicit false

namespace HostProfile

/-- The four registers after the identification instruction. -/
structure Registers where
  eax : UInt32
  ebx : UInt32
  ecx : UInt32
  edx : UInt32
  deriving DecidableEq, Repr

/-! ### Leaves -/

namespace Leaf

/-- The leaf with the highest standard leaf and the vendor name. -/
def vendor : UInt32 := 0

/-- The leaf with the version word. -/
def version : UInt32 := 1

/-- The leaf with the highest extended leaf. -/
def extended : UInt32 := 0x80000000

/-- The extended leaf that describes the second-level cache. -/
def secondLevelCache : UInt32 := 0x80000006

end Leaf

namespace Registers

/-- The twelve bytes of the vendor name in reading order. -/
def vendorBytes (r : Registers) : List UInt8 :=
  Bytes.word32LE r.ebx ++ Bytes.word32LE r.edx ++ Bytes.word32LE r.ecx

/-- The vendor name, which ends at the first NUL. -/
def vendorName (r : Registers) : String :=
  Text.terminatedText r.vendorBytes

end Registers

/-- The size in bytes of the second-level cache, given in kilobytes by the upper half of a
descriptor. -/
def secondLevelCacheBytes (descriptor : UInt32) : UInt64 :=
  (descriptor >>> 16).toUInt64 * 1024

/-! ### Signatures -/

/-- Family, model and stepping of a processor. All zero where the processor is unknown. -/
structure Signature where
  family : UInt32
  model : UInt32
  stepping : UInt32
  deriving DecidableEq, Repr

namespace Signature

/-- The signature of an unknown processor. -/
def unknown : Signature := ⟨0, 0, 0⟩

/-- The signature in a version word. The extended family counts only for base family 15, the
extended model only for base families 6 and 15. -/
def ofVersionWord (word : UInt32) : Signature :=
  let stepping := word &&& 0xF
  let baseModel := (word >>> 4) &&& 0xF
  let baseFamily := (word >>> 8) &&& 0xF
  let extendedModel := (word >>> 16) &&& 0xF
  let extendedFamily := (word >>> 20) &&& 0xFF
  { family := if baseFamily = 0xF then baseFamily + extendedFamily else baseFamily
    model :=
      if baseFamily = 0x6 ∨ baseFamily = 0xF then (extendedModel <<< 4) ||| baseModel
      else baseModel
    stepping := stepping }

/-- The signature in a processor level, which is the family, and a revision with the model in its
upper byte and the stepping in its lower. -/
def ofLevelRevision (level revision : UInt16) : Signature :=
  { family := level.toUInt32
    model := (revision >>> 8).toUInt32
    stepping := (revision &&& 0xFF).toUInt32 }

end Signature

end HostProfile
