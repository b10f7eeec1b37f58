import HostProfile.Host.Parameters
import HostProfile.Host.Processor

/-!
# Darwin hosts

A Darwin host answers from its kernel parameters, of which the installed memory is one, and from its
processor.
-/

set_option autoImplicit false
set_option relaxedAutoImplicit false

namespace HostProfile.Darwin

/-- A Darwin host. -/
structure Machine where
  /-- What calls for kernel parameters do, by the number of calls before them in the same query. -/
  parameters : Nat → ParameterCall
  processor : Processor

/-- The installed memory in bytes. -/
def memory (call : ParameterCall) : Outcome Int64 := do
  let bytes ← call.number "hw.memsize"
  if bytes.toNat ≤ 9223372036854775807 then return Int64.ofNat bytes.toNat
  else throw (ParameterCall.failure "hw.memsize out of range")

/-- What a Darwin host answers. -/
def source (machine : Machine) : Source
  | .parameter name => (machine.parameters 0).number name
  | .textParameter name => (machine.parameters 0).text (machine.parameters 1) name
  | .memory => memory (machine.parameters 0)
  | query => machine.processor.source query

end HostProfile.Darwin
