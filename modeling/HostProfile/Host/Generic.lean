import HostProfile.Host.Processor

/-!
# Other hosts

A host without facilities of its own answers from its processor and from its total memory. It takes
the logical processors for those online.
-/

set_option autoImplicit false
set_option relaxedAutoImplicit false

namespace HostProfile.Generic

/-- A host without facilities of its own. -/
structure Machine where
  /-- The bytes of memory. -/
  totalMemory : UInt64
  processor : Processor

/-- The installed memory in bytes. -/
def memory (totalMemory : UInt64) : Outcome Int64 :=
  if totalMemory.toNat ≤ 9223372036854775807 then .ok (Int64.ofNat totalMemory.toNat)
  else .error (.queryFailed "memory" "total memory out of range")

/-- What a host without facilities of its own answers. -/
def source (machine : Machine) : Source
  | .online => machine.processor.source .runtimeLogical
  | .memory => memory machine.totalMemory
  | query => machine.processor.source query

end HostProfile.Generic
