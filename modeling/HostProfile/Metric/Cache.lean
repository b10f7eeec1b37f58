import HostProfile.Metric.Identity

/-!
# The size of the cache

The chain for the largest cache level in bytes: the third where there is one, else the second.
-/

set_option autoImplicit false
set_option relaxedAutoImplicit false

namespace HostProfile.Metric

/-- The cache levels of two queries, of which one may have no answer. -/
def eitherLevel (l3 l2 : Outcome UInt64) : Outcome CacheLevels :=
  match l3, l2 with
  | .error error, .error _ => .error error
  | l3, l2 => .ok ⟨l2.toOption.getD 0, l3.toOption.getD 0⟩

/-- The cache levels in the kernel parameters, of which both are asked for. -/
def parameterLevels : Attempt CacheLevels := do
  let l3 ← Attempt.observe (.parameter "hw.l3cachesize")
  let l2 ← Attempt.observe (.parameter "hw.l2cachesize")
  Attempt.ofOutcome (eitherLevel l3 l2)

/-- The integer at the start of a field of the first processor in the processor information file,
which ARM does not have in this form. -/
def fileNumber (architecture : Architecture) (key complaint : String) : Attempt Int := do
  if architecture = .arm then throw .unavailable
  let file ← Attempt.query .cpuinfo
  match file.int? 0 key with
  | some n => return n
  | none => throw (.queryFailed "cpuinfo" complaint)

namespace CacheProbe

/-- The cache levels in the topology. -/
def topology : Probe CacheLevels :=
  .reading "topology" .topology fun _ => Topology.caches

/-- The cache levels in the kernel parameters. -/
def sysctl : Probe CacheLevels :=
  ⟨"sysctl", fun _ => parameterLevels⟩

/-- The cache in the processor information file, in kilobytes there. -/
def cpuinfo : Probe CacheLevels :=
  ⟨"cpuinfo", fun architecture => do
    let kilobytes ← fileNumber architecture "cache size" "no `cache size` field"
    return ⟨UInt64.ofNat (kilobytes.toNat * 1024), 0⟩⟩

/-- The second level of the cache in the registers of the identification instruction. -/
def cpuid : Probe CacheLevels :=
  ⟨"cpuid", fun architecture => do
    let registers ← coveredLeaf architecture Leaf.extended Leaf.secondLevelCache
    return ⟨secondLevelCacheBytes registers.ecx, 0⟩⟩

end CacheProbe

/-- The chain for the cache levels. -/
def cacheLevels : Chain CacheLevels where
  metric := "cache_size"
  usable := fun levels => 0 < levels.preferred
  probes := [CacheProbe.topology, CacheProbe.sysctl, CacheProbe.cpuinfo, CacheProbe.cpuid]

/-- The size of the largest cache level in bytes. -/
def cacheSize (config : Config) (architecture : Architecture) : Probing (Outcome UInt64) := do
  let outcome ← cacheLevels.run config architecture
  return outcome.map CacheLevels.preferred

end HostProfile.Metric
