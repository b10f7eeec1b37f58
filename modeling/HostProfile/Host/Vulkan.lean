import HostProfile.Adapter
import HostProfile.ProbeError
import HostProfile.Text.Utf8

/-!
# The Vulkan loader

What the Vulkan loader of a host does, and the graphics adapter that it is asked for. The adapter is
the first device that is not a processor in disguise, or the first of all if every device is one.
A loader that cannot be opened means that the interface does not exist; any failure after that is a
failed query, described in the words of the library that makes the calls.
-/

set_option autoImplicit false
set_option relaxedAutoImplicit false

namespace HostProfile.Vulkan

/-- A physical device. -/
structure Device where
  /-- The name, which ends at the first NUL or after 255 bytes. -/
  name : List UInt8
  deviceType : UInt32
  apiVersion : UInt32
  driverVersion : UInt32
  vendorId : UInt32
  deviceId : UInt32
  deriving DecidableEq, Repr

/-- What the loader does. -/
inductive Loader where
  /-- It cannot be opened. -/
  | absent
  /-- It is opened but has no entry point. -/
  | noEntry
  /-- It is opened. What creating an instance and listing the devices come to is given as the result
  or as the words in which the library describes the failure. -/
  | present (create : Except String Unit) (enumerate : Except String (List Device))

namespace Device

/-- The device type of a processor that stands in for a graphics adapter. -/
def processorType : UInt32 := 4

/-- Whether a device is a processor that stands in for a graphics adapter. -/
def isProcessor (device : Device) : Bool :=
  device.deviceType == processorType

/-- The version of the interface that a device supports: major, minor and patch. -/
def interfaceVersion (device : Device) : String :=
  DriverVersion.dotted [((device.apiVersion >>> 22) &&& 0x7F).toNat,
    ((device.apiVersion >>> 12) &&& 0x3FF).toNat, (device.apiVersion &&& 0xFFF).toNat]

/-- The adapter record of a device. -/
def toAdapter (device : Device) : Adapter :=
  let name := Text.terminatedText (device.name.take 255)
  { deviceName := name
    description := name
    vendorId := device.vendorId
    deviceId := device.deviceId
    driver := "Vulkan " ++ device.interfaceVersion
    driverVersion := DriverVersion.vulkan device.vendorId device.driverVersion }

end Device

/-- Of a device and a later one, the later only if it ranks before the other. Processors rank
last. -/
def better (kept other : Device) : Device :=
  if other.isProcessor < kept.isProcessor then other else kept

/-- The device to report, for which the list is gone through once. -/
def preferred? : List Device → Option Device
  | [] => none
  | device :: rest => some (rest.foldl better device)

/-- The result of a call, or the fault of what was being done. -/
def during {α : Type} (action : String) (result : Except String α) : Except Fault α :=
  result.mapError fun text => ⟨text, [action]⟩

/-- The adapter that a present loader finds. -/
def findAdapter (create : Except String Unit) (enumerate : Except String (List Device)) :
    Except Fault Adapter := do
  during "vkCreateInstance" create
  let devices ← during "enumerate physical devices" enumerate
  match preferred? devices with
  | some device => return device.toAdapter
  | none => throw ⟨"no vulkan physical devices", []⟩

/-- The default adapter as the loader tells it. -/
def Loader.adapter : Loader → Outcome Adapter
  | .absent | .noEntry => .error .unavailable
  | .present create enumerate => (findAdapter create enumerate).mapError Fault.toProbeError

end HostProfile.Vulkan
