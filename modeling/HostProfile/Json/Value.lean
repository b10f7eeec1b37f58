/-!
# JSON values

The values of JSON as far as the records of this library need them. Fields of an object keep their
order and may repeat a key. A number is either an integer, written with neither fraction nor
exponent, or some other number, of which only the text is kept. Escapes can write a surrogate that
has no partner; such a string is well-formed JSON but no text, and is kept as `none`.
-/

set_option autoImplicit false
set_option relaxedAutoImplicit false

namespace HostProfile

/-- A JSON value. -/
inductive Json where
  | null
  | bool (value : Bool)
  | integer (value : Int)
  | other (number : String)
  | string (text : Option String)
  | array (items : List Json)
  | object (fields : List (Option String × Json))
  deriving Repr

namespace Json

/-- The string with a text. -/
def ofText (text : String) : Json :=
  .string (some text)

/-- The value of an optional field, null where it is absent. -/
def ofOption {α : Type} (write : α → Json) : Option α → Json
  | some value => write value
  | none => .null

/-- The object with fields of the given names. -/
def ofFields (fields : List (String × Json)) : Json :=
  .object (fields.map fun field => (some field.1, field.2))

/-- The text of a string. -/
def text? : Json → Option String
  | .string text => text
  | _ => none

/-- The integer in a range from a least to a greatest. -/
def integer? (least greatest : Int) : Json → Option Int
  | .integer n => if least ≤ n ∧ n ≤ greatest then some n else none
  | _ => none

/-- An unsigned 32-bit integer. -/
def word32? (json : Json) : Option UInt32 :=
  (json.integer? 0 4294967295).map fun n => UInt32.ofNat n.toNat

/-- An unsigned 64-bit integer. -/
def word64? (json : Json) : Option UInt64 :=
  (json.integer? 0 18446744073709551615).map fun n => UInt64.ofNat n.toNat

/-- A signed 64-bit integer. -/
def int64? (json : Json) : Option Int64 :=
  (json.integer? (-9223372036854775808) 9223372036854775807).map Int64.ofInt

/-- A value that may be null. -/
def optional? {α : Type} (read : Json → Option α) : Json → Option (Option α)
  | .null => some none
  | json => (read json).map some

end Json

end HostProfile
