import HostProfile.CpuInfo
import HostProfile.Display
import HostProfile.ProbeError
import HostProfile.Signature
import HostProfile.Topology

/-!
# What a host can be asked

A `Query` is one question to the operating system of a host, and `Query.Answer` the type of what it
is answered with. A `Source` answers every question, most of them with the remark that the facility
does not exist there. It does no fallback of its own: that is for the chains.

Every question belongs to one facility of the operating system, its `owner`. `Source.without` is a
host that lacks a facility.
-/

set_option autoImplicit false
set_option relaxedAutoImplicit false

namespace HostProfile

/-- A question to a host. -/
inductive Query where
  /-- The layout of the processors. -/
  | topology
  /-- The basic processor record. -/
  | systemInfo
  /-- A kernel parameter that is a number. -/
  | parameter (name : String)
  /-- A kernel parameter that is a text. -/
  | textParameter (name : String)
  /-- The clock of the first processor in the hardware registry, in MHz. -/
  | registryMhz
  /-- The processor information file. -/
  | cpuinfo
  /-- A clock frequency of the first processor, in kHz. -/
  | frequencyKhz (which : Frequency)
  /-- The registers after the identification instruction with a leaf. -/
  | cpuid (leaf : UInt32)
  /-- The number of processors that the process may run on. -/
  | affinity
  /-- The number of processors online. -/
  | online
  /-- The number of logical processors as the runtime sees it. -/
  | runtimeLogical
  /-- The number of physical cores as the runtime sees it. -/
  | runtimePhysical
  /-- The installed memory in bytes. -/
  | memory
  /-- The product name in the firmware. -/
  | firmware
  /-- The default graphics adapter as its driver describes it. -/
  | adapter
  /-- A property of the main display. -/
  | displayProperty (property : DisplayProperty)
  /-- The name of the default display device. -/
  | displayName
  deriving DecidableEq, Repr

/-- What a question is answered with. -/
abbrev Query.Answer : Query → Type
  | .topology => Topology
  | .systemInfo => SystemInfo
  | .parameter _ => UInt64
  | .textParameter _ => String
  | .registryMhz => UInt32
  | .cpuinfo => CpuInfo
  | .frequencyKhz _ => UInt64
  | .cpuid _ => Registers
  | .affinity => UInt32
  | .online => UInt32
  | .runtimeLogical => UInt32
  | .runtimePhysical => UInt32
  | .memory => Int64
  | .firmware => String
  | .adapter => Adapter
  | .displayProperty _ => PropertyValue
  | .displayName => String

/-- The facility that a question is put to, by the name under which it can be switched off. -/
def Query.owner : Query → String
  | .topology => "topology"
  | .systemInfo => "system_info"
  | .parameter _ | .textParameter _ => "sysctl"
  | .registryMhz => "registry"
  | .cpuinfo => "cpuinfo"
  | .frequencyKhz _ => "sysfs"
  | .cpuid _ => "cpuid"
  | .affinity => "affinity"
  | .online => "online"
  | .runtimeLogical | .runtimePhysical => "runtime"
  | .memory => "memory"
  | .firmware => "firmware"
  | .adapter => "driver"
  | .displayProperty _ | .displayName => "display"

/-- A host as seen through its answers. -/
abbrev Source := (query : Query) → Outcome query.Answer

namespace Source

/-- The source that knows nothing. -/
def silent : Source := fun _ => .error .unavailable

/-- A source that lacks one facility and is otherwise the same. -/
def without (source : Source) (name : String) : Source := fun query =>
  if query.owner = name then .error .unavailable else source query

theorem without_of_owner (source : Source) {name : String} {query : Query}
    (h : query.owner = name) : source.without name query = .error .unavailable :=
  if_pos h

theorem without_of_ne_owner (source : Source) {name : String} {query : Query}
    (h : query.owner ≠ name) : source.without name query = source query :=
  if_neg h

end Source

end HostProfile
