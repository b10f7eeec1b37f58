import HostProfile.Profiler

/-!
# The accessors of a profiler

What a profiler can be asked, as data: `Accessor` names a metric or the state of one, and
`Profiler.read` is the computation that answers it.
-/

set_option autoImplicit false
set_option relaxedAutoImplicit false

namespace HostProfile

/-- An accessor of the profiler. -/
inductive Accessor where
  | logicalCpus
  | physicalCpus
  | currentCpus
  | architecture
  | vendor
  | cacheSize
  | family
  | model
  | stepping
  | maxSpeed
  | maxSpeedState
  | currentSpeed
  | memory
  | memoryState
  | machineModel
  | modelUnknown
  | adapter
  | adapter?
  | summary
  deriving DecidableEq, Repr

/-- What an accessor answers with. -/
abbrev Accessor.Answer : Accessor → Type
  | .logicalCpus | .physicalCpus | .currentCpus | .family | .model | .stepping => UInt32
  | .architecture => Architecture
  | .vendor | .machineModel => String
  | .cacheSize => UInt64
  | .maxSpeed | .currentSpeed => Int
  | .maxSpeedState => Resolved UInt32
  | .memory => Int64
  | .memoryState => Resolved Int64
  | .modelUnknown => Bool
  | .adapter => Bool × Adapter
  | .adapter? => Option Adapter
  | .summary => Summary

namespace Profiler

/-- Asks an accessor. -/
def read : (accessor : Accessor) → Profiling accessor.Answer
  | .logicalCpus => return (← get).logicalCpus
  | .physicalCpus => return (← get).physicalCpus
  | .currentCpus => readCurrentCpus
  | .architecture => return (← get).architecture
  | .vendor => readVendor
  | .cacheSize => return (← get).cacheSize
  | .family => return (← get).signature.family
  | .model => return (← get).signature.model
  | .stepping => return (← get).signature.stepping
  | .maxSpeed => readMaxSpeed
  | .maxSpeedState => return (← get).maxSpeed
  | .currentSpeed => readCurrentSpeed
  | .memory => readMemory
  | .memoryState => return (← get).memory
  | .machineModel => readMachineModel
  | .modelUnknown => readModelUnknown
  | .adapter => readAdapter
  | .adapter? => readAdapter?
  | .summary => readSummary

end Profiler

end HostProfile
