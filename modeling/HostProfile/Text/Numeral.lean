import HostProfile.Text.Blank

/-!
# Decimal numerals

One way to write numbers in decimal and two ways to read them. `decimal` writes a natural number.
`leadingInt?` reads the integer a text starts with and ignores what follows, and has no value
outside the signed 64-bit range. `readWord64` reads a text that is an unsigned 64-bit number as a
whole, and says what is wrong with one that is not: digits are taken from the left, so a number that
is already too large is reported before a bad character further right.

`digitsValue_decimal` is the round trip between a number and its digits.
-/

set_option autoImplicit false
set_option relaxedAutoImplicit false

namespace HostProfile.Text

/-- The decimal digits of a natural number. -/
def decimal (n : Nat) : List Char :=
  Nat.toDigits 10 n

/-- The natural number that a run of decimal digits denotes. -/
def digitsValue (cs : List Char) : Nat :=
  Nat.ofDigitChars 10 cs 0

theorem digitsValue_decimal (n : Nat) : digitsValue (decimal n) = n :=
  Nat.ofDigitChars_toDigits (by decide) (by decide)

theorem isDigit_of_mem_decimal {n : Nat} {c : Char} (h : c ∈ decimal n) : c.isDigit = true :=
  Nat.isDigit_of_mem_toDigits (by decide) (by decide) h

/-! ### The integer at the start of a text -/

/-- Whether an integer lies in the signed 64-bit range. -/
def inInt64Range (n : Int) : Bool :=
  -9223372036854775808 ≤ n && n ≤ 9223372036854775807

/-- The integer of a run of digits, negated or not, if there are digits and it is in range. -/
def signedValue? (negative : Bool) (digits : List Char) : Option Int :=
  let magnitude : Int := digitsValue digits
  let value := if negative then -magnitude else magnitude
  if !digits.isEmpty && inInt64Range value then some value else none

/-- The integer at the start of a text: blanks are skipped, a minus sign may come first, and the
digits end at the first other character. There is none without a digit or outside the signed
64-bit range. -/
def leadingInt? (text : List Char) : Option Int :=
  match trim text with
  | '-' :: rest => signedValue? true (rest.takeWhile Char.isDigit)
  | cs => signedValue? false (cs.takeWhile Char.isDigit)

/-! ### Unsigned 64-bit numbers -/

/-- Why a text is not an unsigned 64-bit number. -/
inductive NumeralError where
  | empty
  | invalidDigit
  | tooLarge
  deriving DecidableEq, Repr

/-- The wording of a numeral error. -/
def NumeralError.message : NumeralError → String
  | .empty => "cannot parse integer from empty string"
  | .invalidDigit => "invalid digit found in string"
  | .tooLarge => "number too large to fit in target type"

/-- Reads digits from the left on top of a value already read. -/
def readDigits (limit : Nat) : Nat → List Char → Except NumeralError Nat
  | value, [] => .ok value
  | value, c :: rest =>
    if c.isDigit then
      let next := 10 * value + (c.toNat - '0'.toNat)
      if next ≤ limit then readDigits limit next rest else .error .tooLarge
    else .error .invalidDigit

/-- Reads a text that is an unsigned 64-bit number: one plus sign may come first, all else are
decimal digits. -/
def readWord64 : List Char → Except NumeralError UInt64
  | [] => .error .empty
  | ['+'] => .error .invalidDigit
  | '+' :: rest => (readDigits (UInt64.size - 1) 0 rest).map UInt64.ofNat
  | cs => (readDigits (UInt64.size - 1) 0 cs).map UInt64.ofNat

end HostProfile.Text
