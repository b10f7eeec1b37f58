import HostProfile.Chain

/-!
# The graphics adapter

The chain for the adapter: what its driver says, else what can be found out at the main display.

The display is asked for three properties and for its device name. A property that cannot be read is
left out; only where there are no properties at all is the search for them given up, and the device
name is asked for in any case.
-/

set_option autoImplicit false
set_option relaxedAutoImplicit false

namespace HostProfile.Metric

/-- The value of a display property, if it can be read; ends where properties do not exist. -/
def lookup (property : DisplayProperty) : Attempt (Option PropertyValue) := do
  match ← Attempt.observe (.displayProperty property) with
  | .ok value => return some value
  | .error .unavailable => throw .unavailable
  | .error error =>
    Probing.write (.propertyMissing property.key error)
    return none

/-- What the properties of the display tell. -/
def displayProperties : Attempt DisplayFindings := do
  let vendorId := (← lookup .vendorId).bind PropertyValue.identifier?
  let deviceId := (← lookup .deviceId).bind PropertyValue.identifier?
  let model := (← lookup .model).bind PropertyValue.text?
  return { DisplayFindings.nothing with vendorId := vendorId, deviceId := deviceId, model := model }

/-- What properties and device name tell together. -/
def identify (properties : Outcome DisplayFindings) (name : Outcome String) : Outcome Adapter :=
  let findings := properties.toOption.getD DisplayFindings.nothing
  let findings :=
    { findings with deviceName := name.toOption.filter fun text => !Text.blank text }
  if findings.any then .ok findings.toAdapter
  else
    match properties, name with
    | .error _, .error .unavailable => .error .unavailable
    | _, _ =>
      .error (.queryFailed "display"
        "no vendor-id, device-id, model or device name for the main display")

/-- The adapter as far as the main display tells. -/
def displayAdapter : Attempt Adapter := ExceptT.mk do
  let properties ← displayProperties.run
  let name ← Probing.query .displayName
  return identify properties name

namespace AdapterProbe

/-- What the driver says of the adapter. -/
def driver : Probe Adapter :=
  .asking "driver" .adapter

/-- What the main display tells of the adapter. -/
def display : Probe Adapter :=
  ⟨"display", fun _ => displayAdapter⟩

end AdapterProbe

/-- The graphics adapter. -/
def adapter : Chain Adapter where
  metric := "gpu"
  usable := fun _ => true
  probes := [AdapterProbe.driver, AdapterProbe.display]

end HostProfile.Metric
