import HostProfile.Json.Value
import HostProfile.Resolved
import HostProfile.Signature
import HostProfile.Summary

/-!
# Records in JSON

How the records of this library are written in JSON and read back. A record is an object with one
field for each of its parts; where it is read, unknown fields are passed over, no known field may
come twice, and an array of the parts in order will do as well. Only a part that may be absent may
be null or missing. An alternative is written as its name, or, if it carries a value, as an object
whose only field is named so.
-/

set_option autoImplicit false
set_option relaxedAutoImplicit false

namespace HostProfile

namespace Json

/-! ### Records and alternatives -/

/-- Pairs fields up with texts for keys; none if a key is no text. -/
def textKeys? : List (Option String × Json) → Option (List (String × Json))
  | [] => some []
  | (some key, value) :: rest => (textKeys? rest).map ((key, value) :: ·)
  | (none, _) :: _ => none

/-- The value of a field that must not come twice. -/
def field? (fields : List (String × Json)) (name : String) : Option (Option Json) :=
  match fields.filter (·.1 == name) with
  | [] => some none
  | [(_, value)] => some (some value)
  | _ => none

/-- The parts of a record in the order of their names, each of which may be missing. -/
def parts? (names : List String) : Json → Option (List (Option Json))
  | .object fields => do names.mapM (field? (← textKeys? fields))
  | .array items =>
    if items.length ≤ names.length then
      some (items.map some ++ List.replicate (names.length - items.length) none)
    else none
  | _ => none

/-- A part that has to be there. -/
def required? {α : Type} (read : Json → Option α) (part : Option Json) : Option α :=
  part.bind read

/-- A part that may be null or missing. -/
def absentable? {α : Type} (read : Json → Option α) : Option Json → Option (Option α)
  | none => some none
  | some json => optional? read json

/-- The name of an alternative and the value that it carries. -/
def alternative? : Json → Option (String × Option Json)
  | .string (some name) => some (name, none)
  | .object [(some name, value)] => some (name, some value)
  | _ => none

/-- Whether an alternative that carries nothing is written with nothing or with null. -/
def carriesNothing : Option Json → Bool
  | none | some .null => true
  | some _ => false

end Json

/-! ### Architectures -/

namespace Architecture

/-- An architecture in JSON. -/
def toJson (architecture : Architecture) : Json :=
  .ofText architecture.name

/-- Reads an architecture. -/
def ofJson? (json : Json) : Option Architecture := do
  let (name, carried) ← json.alternative?
  if Json.carriesNothing carried then
    [Architecture.x86, .x64, .arm].find? fun architecture => architecture.name == name
  else none

end Architecture

/-! ### Signatures -/

namespace Signature

/-- A signature in JSON. -/
def toJson (s : Signature) : Json :=
  .ofFields [
    ("family", .integer s.family.toNat),
    ("model", .integer s.model.toNat),
    ("stepping", .integer s.stepping.toNat)]

/-- Reads a signature. -/
def ofJson? (json : Json) : Option Signature := do
  match ← json.parts? ["family", "model", "stepping"] with
  | [family, model, stepping] =>
    return {
      family := ← Json.required? Json.word32? family
      model := ← Json.required? Json.word32? model
      stepping := ← Json.required? Json.word32? stepping }
  | _ => none

end Signature

/-! ### Adapters -/

namespace Adapter

/-- An adapter record in JSON. -/
def toJson (a : Adapter) : Json :=
  .ofFields [
    ("device_name", .ofText a.deviceName),
    ("description", .ofText a.description),
    ("vendor_id", .integer a.vendorId.toNat),
    ("device_id", .integer a.deviceId.toNat),
    ("driver", .ofText a.driver),
    ("driver_version", .ofText a.driverVersion)]

/-- Reads an adapter record. -/
def ofJson? (json : Json) : Option Adapter := do
  match ← json.parts? ["device_name", "description", "vendor_id", "device_id", "driver",
      "driver_version"] with
  | [deviceName, description, vendorId, deviceId, driver, driverVersion] =>
    return {
      deviceName := ← Json.required? Json.text? deviceName
      description := ← Json.required? Json.text? description
      vendorId := ← Json.required? Json.word32? vendorId
      deviceId := ← Json.required? Json.word32? deviceId
      driver := ← Json.required? Json.text? driver
      driverVersion := ← Json.required? Json.text? driverVersion }
  | _ => none

end Adapter

/-! ### Values that are found out once -/

namespace Resolved

variable {α : Type}

/-- What is known of a metric in JSON, given how its values are written. -/
def toJson (write : α → Json) : Resolved α → Json
  | .unprobed => .ofText "Unprobed"
  | .failed => .ofText "Failed"
  | .valid value => .ofFields [("Valid", write value)]

/-- Reads what is known of a metric, given how its values are read. -/
def ofJson? (read : Json → Option α) (json : Json) : Option (Resolved α) := do
  match ← json.alternative? with
  | ("Unprobed", carried) => if Json.carriesNothing carried then some .unprobed else none
  | ("Failed", carried) => if Json.carriesNothing carried then some .failed else none
  | ("Valid", some carried) => (read carried).map .valid
  | _ => none

end Resolved

/-! ### Summaries -/

namespace Summary

/-- The names of the parts of a summary. -/
def fieldNames : List String :=
  ["architecture", "cpu_vendor", "logical_cpus", "physical_cpus", "current_cpus", "cpu_family",
    "cpu_model", "cpu_stepping", "cache_size_bytes", "max_cpu_speed_mhz", "current_cpu_speed_mhz",
    "memory_bytes", "machine_model", "gpu"]

/-- A summary in JSON. -/
def toJson (s : Summary) : Json :=
  .ofFields (fieldNames.zip [
    s.architecture.toJson,
    .ofText s.vendor,
    .integer s.logicalCpus.toNat,
    .integer s.physicalCpus.toNat,
    .integer s.currentCpus.toNat,
    .integer s.family.toNat,
    .integer s.model.toNat,
    .integer s.stepping.toNat,
    .integer s.cacheSize.toNat,
    .ofOption (fun mhz => .integer mhz.toNat) s.maxSpeed,
    .ofOption (fun mhz => .integer mhz.toNat) s.currentSpeed,
    .ofOption (fun bytes => .integer bytes.toInt) s.memory,
    .ofText s.machineModel,
    .ofOption Adapter.toJson s.adapter])

/-- Reads a summary. The two clocks, the memory and the adapter may be absent. -/
def ofJson? (json : Json) : Option Summary := do
  match ← json.parts? fieldNames with
  | [architecture, vendor, logicalCpus, physicalCpus, currentCpus, family, model, stepping,
      cacheSize, maxSpeed, currentSpeed, memory, machineModel, adapter] =>
    return {
      architecture := ← Json.required? Architecture.ofJson? architecture
      vendor := ← Json.required? Json.text? vendor
      logicalCpus := ← Json.required? Json.word32? logicalCpus
      physicalCpus := ← Json.required? Json.word32? physicalCpus
      currentCpus := ← Json.required? Json.word32? currentCpus
      family := ← Json.required? Json.word32? family
      model := ← Json.required? Json.word32? model
      stepping := ← Json.required? Json.word32? stepping
      cacheSize := ← Json.required? Json.word64? cacheSize
      maxSpeed := ← Json.absentable? Json.word32? maxSpeed
      currentSpeed := ← Json.absentable? Json.word32? currentSpeed
      memory := ← Json.absentable? Json.int64? memory
      machineModel := ← Json.required? Json.text? machineModel
      adapter := ← Json.absentable? Adapter.ofJson? adapter }
  | _ => none

end Summary

end HostProfile
