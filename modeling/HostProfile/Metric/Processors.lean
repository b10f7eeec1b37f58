import HostProfile.Chain

/-!
# Numbers of processors

The chains for the logical processors, the physical cores, and the processors the process may use
right now. A count of zero is nobody's, so the next source decides.
-/

set_option autoImplicit false
set_option relaxedAutoImplicit false

namespace HostProfile.Metric

/-- A number as a 32-bit word, or a failed query of its origin if it does not fit. -/
def narrow (origin : String) (n : Nat) : Outcome UInt32 :=
  if n < UInt32.size then .ok (UInt32.ofNat n)
  else .error (.queryFailed origin (String.ofList (Text.decimal n) ++ " out of range"))

/-- A kernel parameter that fits a 32-bit word. -/
def smallParameter (name : String) : Attempt UInt32 := do
  let n ← Attempt.query (.parameter name)
  Attempt.ofOutcome (narrow "sysctl" n.toNat)

/-- Whether a count or a clock is more than zero. -/
def positive (n : UInt32) : Bool :=
  0 < n

namespace CountProbe

/-- A count in the topology. -/
def topology (count : Topology → UInt32) : Probe UInt32 :=
  .reading "topology" .topology fun _ => count

/-- The number of logical processors in the system information. -/
def systemInfo : Probe UInt32 :=
  .reading "system_info" .systemInfo fun _ info => info.logical

/-- A count in a kernel parameter. -/
def sysctl (name : String) : Probe UInt32 :=
  ⟨"sysctl", fun _ => smallParameter name⟩

/-- A count in the processor information file. -/
def cpuinfo (count : CpuInfo → Architecture → UInt32) : Probe UInt32 :=
  .reading "cpuinfo" .cpuinfo fun architecture file => count file architecture

end CountProbe

/-- The number of logical processors. -/
def logicalCpus : Chain UInt32 where
  metric := "logical_cpus"
  usable := positive
  probes := [
    CountProbe.topology Topology.logical,
    CountProbe.systemInfo,
    CountProbe.sysctl "hw.logicalcpu_max",
    CountProbe.cpuinfo CpuInfo.logicalCpus,
    .asking "runtime" .runtimeLogical]

/-- The number of physical cores. -/
def physicalCpus : Chain UInt32 where
  metric := "physical_cpus"
  usable := positive
  probes := [
    CountProbe.topology Topology.cores,
    CountProbe.sysctl "hw.physicalcpu_max",
    CountProbe.cpuinfo fun file _ => file.physicalCpus,
    .asking "runtime" .runtimePhysical]

/-- The number of processors the process may use right now. -/
def currentCpus : Chain UInt32 where
  metric := "current_cpus"
  usable := positive
  probes := [
    .asking "affinity" .affinity,
    CountProbe.sysctl "hw.ncpu",
    .asking "online" .online]

end HostProfile.Metric
