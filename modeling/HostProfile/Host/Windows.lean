import HostProfile.Config
import HostProfile.Host.Direct3D
import HostProfile.Host.Processor
import HostProfile.Host.SizedQuery
import HostProfile.Host.Vulkan

/-!
# Windows hosts

A Windows host answers from its processor records, its system record, its registry, the affinity of
the process, its memory status, two graphics interfaces of which Direct3D comes first, and its
processor.
-/

set_option autoImplicit false
set_option relaxedAutoImplicit false

namespace HostProfile.Windows

/-! ### Processor records -/

/-- A record on a set of processors and what they share. -/
structure ProcessorRecord where
  /-- What the processors share: zero for a core, two for a cache. -/
  relationship : Int
  /-- The processors, one bit each. -/
  mask : UInt64
  /-- The level of the cache. -/
  level : UInt8
  /-- The bytes of the cache. -/
  size : UInt32
  deriving DecidableEq, Repr

namespace ProcessorRecord

/-- The record in zeroed memory. -/
def zero : ProcessorRecord := ⟨0, 0, 0, 0⟩

/-- The bytes of a record. -/
def byteSize : Nat := 32

/-- Whether the processors share a core. -/
def isCore (record : ProcessorRecord) : Bool :=
  record.relationship == 0

/-- Whether the processors share a cache of a level. -/
def isCache (level : UInt8) (record : ProcessorRecord) : Bool :=
  record.relationship == 2 && record.level == level

/-- The number of processors in a record. -/
def processors (record : ProcessorRecord) : Nat :=
  record.mask.toBitVec.cpop.toNat

end ProcessorRecord

/-- The bytes of the largest cache of a level, zero if there is none. -/
def largestCache (level : UInt8) (records : List ProcessorRecord) : Nat :=
  ((records.filter (·.isCache level)).map (·.size.toNat)).foldl max 0

/-- The layout of the processors that records describe. -/
def tally (records : List ProcessorRecord) : Topology :=
  let cores := records.filter (·.isCore)
  { cores := UInt32.ofNat cores.length
    logical := UInt32.ofNat ((cores.map (·.processors)).foldr (· + ·) 0)
    caches :=
      { l2 := UInt64.ofNat (largestCache 2 records)
        l3 := UInt64.ofNat (largestCache 3 records) } }

/-- The layout of the processors that a query for their records comes to. -/
def topology (query : SizedQuery ProcessorRecord) : Outcome Topology :=
  match query.fetch ProcessorRecord.byteSize ProcessorRecord.zero with
  | .ok records => .ok (tally records)
  | .error code =>
    .error (.queryFailed "topology"
      ("GetLogicalProcessorInformation error " ++ String.ofList (Text.decimal code)))

/-! ### The registry -/

/-- A key that was opened: a call for one of its values, by the name and the buffer of the caller,
leaves a buffer or fails with an error code. -/
abbrev RegistryKey := String → List UInt8 → Except Nat (List UInt8)

/-- The registry: opening a key by its name succeeds or fails with an error code. -/
abbrev Registry := String → Except Nat RegistryKey

namespace Registry

/-- The key of the first processor. -/
def processorKey : String := "HARDWARE\\DESCRIPTION\\System\\CentralProcessor\\0"

/-- The value with the clock of a processor in MHz. -/
def clockValue : String := "~MHz"

/-- The clock of the first processor in MHz, which is read into a word. -/
def processorMhz (registry : Registry) : Outcome UInt32 :=
  match registry processorKey with
  | .error code =>
    .error (.queryFailed "registry"
      ("open HKLM\\" ++ processorKey ++ ": error " ++ String.ofList (Text.decimal code)))
  | .ok key =>
    match key clockValue (List.replicate 4 0) with
    | .ok buffer => .ok (UInt32.ofNat (Bytes.valueLE (buffer.take 4)))
    | .error code =>
      .error (.queryFailed "registry"
        ("query HKLM\\" ++ processorKey ++ "\\" ++ clockValue ++ ": error " ++
          String.ofList (Text.decimal code)))

end Registry

/-! ### The host -/

/-- A Windows host. Calls that can fail are given as their result or their error code. -/
structure Machine where
  processorRecords : SizedQuery ProcessorRecord
  systemInfo : SystemInfo
  registry : Registry
  /-- The processors the process may run on, one bit each. -/
  affinityMask : Except Nat UInt64
  /-- The bytes of physical memory. -/
  memoryBytes : Except Nat UInt64
  direct3d : Direct3D.Library
  vulkan : Vulkan.Loader
  processor : Processor

/-- The number of processors the process may run on. -/
def affinity : Except Nat UInt64 → Outcome UInt32
  | .ok mask => .ok (UInt32.ofNat mask.toBitVec.cpop.toNat)
  | .error code =>
    .error (.queryFailed "affinity"
      ("GetProcessAffinityMask error " ++ String.ofList (Text.decimal code)))

/-- The installed memory in bytes. -/
def memory : Except Nat UInt64 → Outcome Int64
  | .ok bytes =>
    if bytes.toNat ≤ 9223372036854775807 then .ok (Int64.ofNat bytes.toNat)
    else .error (.queryFailed "memory" "ullTotalPhys out of range")
  | .error code =>
    .error (.queryFailed "memory"
      ("GlobalMemoryStatusEx error " ++ String.ofList (Text.decimal code)))

/-- The default adapter: that of Direct3D unless it is switched off or has none, else whatever
Vulkan comes to. -/
def defaultAdapter (config : Config) (direct3d : Direct3D.Library) (vulkan : Vulkan.Loader) :
    Outcome Adapter :=
  let first := if config.isDisabled "d3d9" then none else direct3d.adapter?
  match first with
  | some adapter => .ok adapter
  | none => if config.isDisabled "vulkan" then .error .unavailable else vulkan.adapter

/-- What a Windows host answers. -/
def source (config : Config) (machine : Machine) : Source
  | .topology => topology machine.processorRecords
  | .systemInfo => .ok machine.systemInfo
  | .registryMhz => machine.registry.processorMhz
  | .affinity => affinity machine.affinityMask
  | .memory => memory machine.memoryBytes
  | .adapter => defaultAdapter config machine.direct3d machine.vulkan
  | query => machine.processor.source query

end HostProfile.Windows
