import HostProfile.Adapter
import HostProfile.Text.Utf8

/-!
# The Direct3D library

What the Direct3D library of a host does, and the adapter that it identifies. Any step that fails
leaves no adapter, and another interface is asked instead.
-/

set_option autoImplicit false
set_option relaxedAutoImplicit false

namespace HostProfile.Direct3D

/-- The identifier of an adapter. Texts end at the first NUL or where their field does. -/
structure Identifier where
  driver : List UInt8
  description : List UInt8
  deviceName : List UInt8
  /-- The upper word of the driver version. -/
  versionHigh : UInt32
  /-- The lower word of the driver version. -/
  versionLow : UInt32
  vendorId : UInt32
  deviceId : UInt32
  deriving DecidableEq, Repr

/-- The upper word of a driver version, which the library tells as one signed number. -/
def upperWord (version : Int64) : UInt32 :=
  (version >>> 32).toUInt64.toUInt32

/-- The lower word of a driver version. -/
def lowerWord (version : Int64) : UInt32 :=
  version.toUInt64.toUInt32

/-- An identifier with the driver version that the library tells. -/
def Identifier.withVersion (identifier : Identifier) (version : Int64) : Identifier :=
  { identifier with versionHigh := upperWord version, versionLow := lowerWord version }

/-- What the library does. -/
inductive Library where
  /-- It cannot be loaded. -/
  | absent
  /-- It is loaded but has no entry point. -/
  | noEntry
  /-- It is loaded. -/
  | present (objectIsNull : Bool) (adapterCount : Nat) (result : Int) (identifier : Identifier)
  deriving DecidableEq, Repr

/-- The text in a field, which ends at the first NUL or, without one, where the field does. -/
def fieldText (bytes : List UInt8) : String :=
  match Text.beforeNul? bytes with
  | some before => Text.decodeLossy before
  | none => Text.decodeLossy bytes

/-- The adapter record of an identifier. -/
def Identifier.toAdapter (identifier : Identifier) : Adapter :=
  { deviceName := fieldText (identifier.deviceName.take 32)
    description := fieldText (identifier.description.take 512)
    vendorId := identifier.vendorId
    deviceId := identifier.deviceId
    driver := fieldText (identifier.driver.take 512)
    driverVersion := DriverVersion.packed identifier.versionHigh identifier.versionLow }

/-- The default adapter, if every step succeeds. -/
def Library.adapter? : Library → Option Adapter
  | .absent | .noEntry => none
  | .present objectIsNull adapterCount result identifier =>
    if !objectIsNull && adapterCount != 0 && result == 0 then some identifier.toAdapter else none

end HostProfile.Direct3D
