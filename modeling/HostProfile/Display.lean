import HostProfile.Adapter
import HostProfile.Bytes
import HostProfile.Text.Blank
import HostProfile.Text.Utf8

/-!
# What a display reports about its adapter

A display's properties are numbers, texts or raw bytes, whatever its driver stored.
`DisplayFindings` collects what was found of them, and `toAdapter` makes a record of it, in which
the model and the device name stand in for each other.
-/

set_option autoImplicit false
set_option relaxedAutoImplicit false

namespace HostProfile

/-- The properties of a display that identify its adapter. -/
inductive DisplayProperty where
  | vendorId
  | deviceId
  | model
  deriving DecidableEq, Repr

/-- The name under which a property is stored. -/
def DisplayProperty.key : DisplayProperty → String
  | .vendorId => "vendor-id"
  | .deviceId => "device-id"
  | .model => "model"

/-- The value of a display property. -/
inductive PropertyValue where
  | number (value : Int)
  | text (value : String)
  | data (bytes : List UInt8)
  deriving DecidableEq, Repr

namespace PropertyValue

/-- The identifier in a property: a number in the 32-bit range, or four bytes with the least
significant first. -/
def identifier? : PropertyValue → Option UInt32
  | .number n => if 0 ≤ n ∧ n < UInt32.size then some (UInt32.ofNat n.toNat) else none
  | .data bytes =>
    if bytes.length = 4 then some (UInt32.ofNat (Bytes.valueLE bytes)) else none
  | .text _ => none

/-- The text in a property: a text as it is, or bytes up to the first NUL. -/
def text? : PropertyValue → Option String
  | .text value => some value
  | .data bytes => some (Text.terminatedText bytes)
  | .number _ => none

end PropertyValue

/-- What was found out about the main display's adapter. -/
structure DisplayFindings where
  vendorId : Option UInt32
  deviceId : Option UInt32
  model : Option String
  deviceName : Option String
  deriving DecidableEq, Repr

namespace DisplayFindings

/-- Nothing found. -/
def nothing : DisplayFindings := ⟨none, none, none, none⟩

/-- Whether anything was found. -/
def any (f : DisplayFindings) : Bool :=
  f.vendorId.isSome || f.deviceId.isSome || f.model.isSome || f.deviceName.isSome

/-- The adapter record of the findings: an absent model is described by the device name and an
absent device name is taken from the description; what neither gives is empty or zero. -/
def toAdapter (f : DisplayFindings) : Adapter :=
  let description := (f.model <|> f.deviceName).getD ""
  { Adapter.unidentified with
    deviceName := f.deviceName.getD description
    description := description
    vendorId := f.vendorId.getD 0
    deviceId := f.deviceId.getD 0 }

end DisplayFindings

end HostProfile
