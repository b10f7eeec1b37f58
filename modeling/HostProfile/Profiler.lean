import HostProfile.Metric.Clock
import HostProfile.Metric.Graphics
import HostProfile.Metric.Machine
import HostProfile.Resolved
import HostProfile.Summary

/-!
# The profiler

A profiler probes the counts, the signature and the cache size of a host when it is started. Vendor,
highest clock, memory and machine model are probed when they are first asked for and remembered
from then on, also when nobody knows them. The processors in use, the clock in use and the graphics
adapter are probed every time.

The host is not part of the profiler: each accessor is a computation that asks whatever host it is
run on, so the host may change between any two of them.
-/

set_option autoImplicit false
set_option relaxedAutoImplicit false

namespace HostProfile

/-- What a profiler knows about its host. -/
structure Profiler where
  config : Config
  architecture : Architecture
  logicalCpus : UInt32
  physicalCpus : UInt32
  signature : Signature
  /-- The largest cache level in bytes, zero if unknown. -/
  cacheSize : UInt64
  /-- The vendor, once asked for. -/
  vendor : Option String
  /-- The highest clock in MHz, once asked for. -/
  maxSpeed : Resolved UInt32
  /-- The installed memory in bytes, once asked for. -/
  memory : Resolved Int64
  /-- The machine model or what stands for an unknown one, once asked for. -/
  machineModel : Option String

/-- A computation that asks the host of a profiler and may remember the answers. -/
abbrev Profiling (α : Type) := StateT Profiler Probing α

namespace Profiler

/-- What stands for the model of a machine that nobody knows. -/
def unknownModel : String := "Not available"

/-- The greatest speed that is reported as a number. -/
def speedLimit : Nat := 2147483647

/-- Starts a profiler: a host without a count has one processor, and one without a core count has
as many cores as processors. -/
def start (config : Config) (architecture : Architecture) : Probing Profiler := do
  let logical ← Metric.logicalCpus.run config architecture
  let logicalCpus := logical.toOption.getD 1
  let physical ← Metric.physicalCpus.run config architecture
  let physicalCpus := (physical.toOption.filter (0 < ·)).getD logicalCpus
  let found ← Metric.signature.run config architecture
  let signature := found.toOption.getD Signature.unknown
  let cache ← Metric.cacheSize config architecture
  let cacheSize := cache.toOption.getD 0
  Probing.write (.started architecture logicalCpus physicalCpus signature cacheSize)
  return {
    config := config
    architecture := architecture
    logicalCpus := logicalCpus
    physicalCpus := physicalCpus
    signature := signature
    cacheSize := cacheSize
    vendor := none
    maxSpeed := .unprobed
    memory := .unprobed
    machineModel := none }

/-! ### Metrics that are probed every time -/

/-- The processors the process may use right now, never fewer than one. -/
def readCurrentCpus : Profiling UInt32 := do
  let profiler ← get
  let outcome ← Metric.currentCpus.run profiler.config profiler.architecture
  return max 1 (outcome.toOption.getD profiler.logicalCpus)

/-- The graphics adapter, if anything identifies it. -/
def readAdapter? : Profiling (Option Adapter) := do
  let profiler ← get
  match ← Metric.adapter.run profiler.config profiler.architecture with
  | .ok adapter => return some adapter
  | .error error =>
    Probing.write (.adapterUnknown error)
    return none

/-- Whether anything identifies the graphics adapter, and its record. -/
def readAdapter : Profiling (Bool × Adapter) := do
  match ← readAdapter? with
  | some adapter => return (true, adapter)
  | none => return (false, Adapter.unidentified)

/-! ### Metrics that are probed once -/

/-- The vendor. -/
def readVendor : Profiling String := do
  let profiler ← get
  match profiler.vendor with
  | some name => return name
  | none =>
    let name ← Metric.vendor profiler.config profiler.architecture
    set { profiler with vendor := some name }
    return name

/-- The machine model, or what stands for an unknown one. -/
def readMachineModel : Profiling String := do
  let profiler ← get
  match profiler.machineModel with
  | some name => return name
  | none =>
    let outcome ← Metric.model profiler.config profiler.architecture
    let name := outcome.toOption.getD unknownModel
    set { profiler with machineModel := some name }
    return name

/-- Whether the machine model is reported as unknown. -/
def readModelUnknown : Profiling Bool := do
  return (← readMachineModel) == unknownModel

/-- The value of a chain; without one, an event with the error is logged. -/
def probeOrReport {α : Type} (chain : Chain α) (report : ProbeError → Event) :
    Profiling (Option α) := do
  let profiler ← get
  match ← chain.run profiler.config profiler.architecture with
  | .ok value => return some value
  | .error error =>
    Probing.write (report error)
    return none

/-- The highest clock in MHz. -/
def readMaxMhz : Profiling (Option UInt32) := do
  match (← get).maxSpeed with
  | .valid mhz => return some mhz
  | .failed => return none
  | .unprobed =>
    let found ← probeOrReport Metric.maxSpeed .speedUnknown
    modify fun profiler => { profiler with maxSpeed := .ofProbe found }
    return found

/-- The installed memory in bytes. -/
def readMemory? : Profiling (Option Int64) := do
  match (← get).memory with
  | .valid bytes => return some bytes
  | .failed => return none
  | .unprobed =>
    let found ← probeOrReport Metric.memory .memoryUnknown
    modify fun profiler => { profiler with memory := .ofProbe found }
    return found

/-- The installed memory in bytes, or minus one if nobody knows. -/
def readMemory : Profiling Int64 := do
  return (← readMemory?).getD (-1)

/-! ### Speeds -/

/-- A clock as a number that stays within the limit. -/
def speed (mhz : UInt32) : Int :=
  min mhz.toNat speedLimit

/-- The highest clock in MHz within the limit, or minus one if nobody knows. -/
def readMaxSpeed : Profiling Int := do
  return ((← readMaxMhz).map speed).getD (-1)

/-- The clock in use in MHz within the limit; the highest clock where no live source tells. -/
def readCurrentSpeed : Profiling Int := do
  let profiler ← get
  match ← Metric.currentSpeed.run profiler.config profiler.architecture with
  | .ok mhz => return speed mhz
  | .error _ => readMaxSpeed

/-! ### The summary -/

/-- A speed as a clock, if it is one. -/
def mhz? (speed : Int) : Option UInt32 :=
  if 0 ≤ speed then some (UInt32.ofNat speed.toNat) else none

/-- Everything at once. -/
def readSummary : Profiling Summary := do
  let profiler ← get
  let vendor ← readVendor
  let currentCpus ← readCurrentCpus
  let maxSpeed ← readMaxMhz
  let currentSpeed ← readCurrentSpeed
  let memory ← readMemory?
  let machineModel ← readMachineModel
  let adapter ← readAdapter?
  return {
    architecture := profiler.architecture
    vendor := vendor
    logicalCpus := profiler.logicalCpus
    physicalCpus := profiler.physicalCpus
    currentCpus := currentCpus
    family := profiler.signature.family
    model := profiler.signature.model
    stepping := profiler.signature.stepping
    cacheSize := profiler.cacheSize
    maxSpeed := maxSpeed
    currentSpeed := mhz? currentSpeed
    memory := memory
    machineModel := machineModel
    adapter := adapter }

end Profiler

end HostProfile
