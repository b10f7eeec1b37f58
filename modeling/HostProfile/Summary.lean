import HostProfile.Adapter
import HostProfile.Architecture

/-!
# The summary of a host

Everything a profile knows about a host at one moment.
-/

set_option autoImplicit false
set_option relaxedAutoImplicit false

namespace HostProfile

/-- Everything a profile knows about a host at one moment. -/
structure Summary where
  architecture : Architecture
  vendor : String
  logicalCpus : UInt32
  physicalCpus : UInt32
  currentCpus : UInt32
  family : UInt32
  model : UInt32
  stepping : UInt32
  /-- The largest cache level in bytes, zero if unknown. -/
  cacheSize : UInt64
  /-- The highest clock in MHz. -/
  maxSpeed : Option UInt32
  /-- The clock in use in MHz. -/
  currentSpeed : Option UInt32
  /-- The installed memory in bytes. -/
  memory : Option Int64
  machineModel : String
  adapter : Option Adapter
  deriving DecidableEq, Repr

end HostProfile
