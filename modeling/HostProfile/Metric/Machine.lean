import HostProfile.Chain

/-!
# The machine

The chains for the installed memory in bytes and for the name of the machine's model, which is
reported without blanks around it.
-/

set_option autoImplicit false
set_option relaxedAutoImplicit false

namespace HostProfile.Metric

/-- The installed memory as the host answers. -/
def memoryProbe : Probe Int64 :=
  .asking "memory" .memory

/-- The installed memory in bytes. -/
def memory : Chain Int64 where
  metric := "memory_size"
  usable := fun bytes => 0 < bytes
  probes := [memoryProbe]

namespace ModelProbe

/-- The model's name in a kernel parameter. -/
def sysctl : Probe String :=
  .asking "sysctl" (.textParameter "hw.model")

/-- The model's name in the firmware. -/
def firmware : Probe String :=
  .asking "firmware" .firmware

end ModelProbe

/-- The chain for the model's name. -/
def modelChain : Chain String where
  metric := "machine_model"
  usable := fun name => !Text.blank name
  probes := [ModelProbe.sysctl, ModelProbe.firmware]

/-- The name of the machine's model. -/
def model (config : Config) (architecture : Architecture) : Probing (Outcome String) := do
  let outcome ← modelChain.run config architecture
  return outcome.map Text.trimmed

end HostProfile.Metric
