import HostProfile.Text.Numeral

/-!
# Graphics adapters

The record by which a graphics adapter is known, and the texts of driver versions. Both version
formats print every bit of the words they are given: the packed pair as four halves, the single
word as fields whose widths depend on the vendor.
-/

set_option autoImplicit false
set_option relaxedAutoImplicit false

namespace HostProfile

/-- Identification of a graphics adapter. -/
@[ext]
structure Adapter where
  deviceName : String
  description : String
  vendorId : UInt32
  deviceId : UInt32
  driver : String
  driverVersion : String
  deriving DecidableEq, Repr

/-- The record of an adapter nobody could identify. -/
def Adapter.unidentified : Adapter := ⟨"", "", 0, 0, "", ""⟩

namespace DriverVersion

/-- Numbers in decimal with a point between any two. -/
def dotted (fields : List Nat) : String :=
  String.ofList (List.intercalate ['.'] (fields.map Text.decimal))

/-- The version in two packed words: the upper and lower half of each. -/
def packed (high low : UInt32) : String :=
  dotted [(high >>> 16).toNat, (high &&& 0xFFFF).toNat, (low >>> 16).toNat, (low &&& 0xFFFF).toNat]

/-- The vendor whose Vulkan drivers pack four fields into the version word. -/
def nvidia : UInt32 := 0x10DE

/-- The version in a Vulkan driver's version word: fields of 10, 8, 8 and 6 bits for one vendor,
of 10, 10 and 12 bits for all others. -/
def vulkan (vendorId version : UInt32) : String :=
  if vendorId = nvidia then
    dotted [((version >>> 22) &&& 0x3FF).toNat, ((version >>> 14) &&& 0xFF).toNat,
      ((version >>> 6) &&& 0xFF).toNat, (version &&& 0x3F).toNat]
  else
    dotted [(version >>> 22).toNat, ((version >>> 12) &&& 0x3FF).toNat, (version &&& 0xFFF).toNat]

end DriverVersion

end HostProfile
