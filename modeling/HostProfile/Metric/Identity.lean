import HostProfile.Metric.Processors

/-!
# Who made the processor, and which it is

The chains for the vendor name and for the signature. The identification instruction is asked only
on an architecture that has it, and a leaf only after the instruction said that the leaf exists.

The vendor chain ends with the name that stands in for an unknown vendor, so there always is one.
A signature is taken from one source as a whole.
-/

set_option autoImplicit false
set_option relaxedAutoImplicit false

namespace HostProfile.Metric

/-- The registers for a leaf, where the architecture has the identification instruction. -/
def cpuid (architecture : Architecture) (leaf : UInt32) : Attempt Registers :=
  if architecture.hasCpuid then Attempt.query (.cpuid leaf) else throw .unavailable

/-- The registers for a leaf that the highest leaf of its range covers; the first leaf of the range
tells the highest. -/
def coveredLeaf (architecture : Architecture) (first leaf : UInt32) : Attempt Registers := do
  let highest := (← cpuid architecture first).eax
  if highest < leaf then throw .unavailable
  cpuid architecture leaf

/-- The vendor name in the registers of the first leaf. -/
def cpuidVendor : Probe String :=
  ⟨"cpuid", fun architecture => return (← cpuid architecture Leaf.vendor).vendorName⟩

/-- The name that stands in for an unknown vendor. -/
def fallbackVendor : Probe String :=
  ⟨"architecture", fun architecture => return architecture.vendorFallback⟩

/-- The chain for the vendor name. -/
def vendorChain : Chain String where
  metric := "cpu_vendor"
  usable := fun name => !Text.blank name
  probes := [cpuidVendor, fallbackVendor]

/-- The vendor name. -/
def vendor (config : Config) (architecture : Architecture) : Probing String := do
  let outcome ← vendorChain.run config architecture
  return outcome.toOption.getD architecture.vendorFallback

/-- The signature in the kernel parameters. Only the family has to be there; a model or stepping
that cannot be read is zero. -/
def parameterSignature : Attempt Signature := do
  let family ← smallParameter "machdep.cpu.family"
  let model ← Attempt.observe (.parameter "machdep.cpu.model")
  let stepping ← Attempt.observe (.parameter "machdep.cpu.stepping")
  let model ← Attempt.ofOutcome (narrow "sysctl" (model.toOption.getD 0).toNat)
  let stepping ← Attempt.ofOutcome (narrow "sysctl" (stepping.toOption.getD 0).toNat)
  return ⟨family, model, stepping⟩

/-- The signature of the first processor in the processor information file, which has no model and
no stepping on ARM. -/
def fileSignature (file : CpuInfo) (architecture : Architecture) : Signature :=
  let family := file.family architecture
  match architecture with
  | .arm => { Signature.unknown with family := family }
  | .x86 | .x64 =>
    { family := family
      model := CpuInfo.word ((file.int? 0 "model").getD 0)
      stepping := CpuInfo.word ((file.int? 0 "stepping").getD 0) }

namespace SignatureProbe

/-- The signature in the version word of the identification instruction. -/
def cpuid : Probe Signature :=
  ⟨"cpuid", fun architecture =>
    return .ofVersionWord (← coveredLeaf architecture Leaf.vendor Leaf.version).eax⟩

/-- The signature in the level and revision of the system information. -/
def systemInfo : Probe Signature :=
  .reading "system_info" .systemInfo fun _ info => .ofLevelRevision info.level info.revision

/-- The signature in the kernel parameters. -/
def sysctl : Probe Signature :=
  ⟨"sysctl", fun _ => parameterSignature⟩

/-- The signature in the processor information file. -/
def cpuinfo : Probe Signature :=
  .reading "cpuinfo" .cpuinfo fun architecture file => fileSignature file architecture

end SignatureProbe

/-- The signature of the processor. -/
def signature : Chain Signature where
  metric := "cpu_signature"
  usable := fun s => positive s.family
  probes := [SignatureProbe.cpuid, SignatureProbe.systemInfo, SignatureProbe.sysctl,
    SignatureProbe.cpuinfo]

end HostProfile.Metric
