import HostProfile.Metric.Cache

/-!
# The clock

The chains for the highest clock and for the clock in use, both in MHz. Kernel parameters are in Hz,
the device attributes in kHz; what is left over below a MHz is dropped.
-/

set_option autoImplicit false
set_option relaxedAutoImplicit false

namespace HostProfile.Metric

/-- A clock from a kernel parameter in Hz. -/
def parameterMhz (name : String) : Attempt UInt32 := do
  let hertz ← Attempt.query (.parameter name)
  Attempt.ofOutcome (narrow "sysctl" (hertz.toNat / 1000000))

/-- A clock from a device attribute in kHz. -/
def attributeMhz (which : Frequency) : Attempt UInt32 := do
  let kilohertz ← Attempt.query (.frequencyKhz which)
  Attempt.ofOutcome (narrow "sysfs" (kilohertz.toNat / 1000))

namespace ClockProbe

/-- A clock in a kernel parameter. -/
def sysctl (name : String) : Probe UInt32 :=
  ⟨"sysctl", fun _ => parameterMhz name⟩

/-- The clock in the registry, which has it in MHz. -/
def registry : Probe UInt32 :=
  .asking "registry" .registryMhz

/-- A clock in a device attribute. -/
def sysfs (which : Frequency) : Probe UInt32 :=
  ⟨"sysfs", fun _ => attributeMhz which⟩

/-- The clock in the processor information file. -/
def cpuinfo : Probe UInt32 :=
  ⟨"cpuinfo", fun architecture => do
    let mhz ← fileNumber architecture "cpu MHz" "no `cpu MHz` field"
    Attempt.ofOutcome (narrow "cpuinfo" mhz.toNat)⟩

end ClockProbe

/-- The highest clock in MHz. The processor information file comes last, for the clock in it follows
the load. -/
def maxSpeed : Chain UInt32 where
  metric := "max_cpu_speed"
  usable := positive
  probes := [ClockProbe.sysctl "hw.cpufrequency_max", ClockProbe.registry,
    ClockProbe.sysfs .maximum, ClockProbe.cpuinfo]

/-- The clock in use in MHz. -/
def currentSpeed : Chain UInt32 where
  metric := "current_cpu_speed"
  usable := positive
  probes := [ClockProbe.sysctl "hw.cpufrequency", ClockProbe.sysfs .current]

end HostProfile.Metric
