import HostProfile.Json.Value

/-!
# JSON text

`Json.parse` reads a text as one JSON value with blanks around it. A string is first read as a list
of pieces, characters and escaped UTF-16 units, and only then joined to a text, for two units may
make up one character and one alone may make up none.

The reading functions descend into a value with a budget of steps, which `parse` takes from the
length of the text: at least one character is used up in every two steps.
-/

set_option autoImplicit false
set_option relaxedAutoImplicit false

namespace HostProfile.Json

/-- Whether a character may stand between the parts of a value. -/
def isSpace (c : Char) : Bool :=
  c == ' ' || c == '\t' || c == '\n' || c == '\r'

/-- A text from its first character on that is no space. -/
def skipSpace (cs : List Char) : List Char :=
  cs.dropWhile isSpace

/-! ### Strings -/

/-- A piece of a string: a character or an escaped UTF-16 unit. -/
inductive Piece where
  | char (c : Char)
  | unit (code : Nat)

/-- The value of a hexadecimal digit. -/
def hexDigit? (c : Char) : Option Nat :=
  if c.isDigit then some (c.toNat - '0'.toNat)
  else if 'a' ≤ c ∧ c ≤ 'f' then some (c.toNat - 'a'.toNat + 10)
  else if 'A' ≤ c ∧ c ≤ 'F' then some (c.toNat - 'A'.toNat + 10)
  else none

/-- The number of four hexadecimal digits. -/
def hexUnit? (a b c d : Char) : Option Nat := do
  return (((← hexDigit? a) * 16 + (← hexDigit? b)) * 16 + (← hexDigit? c)) * 16 + (← hexDigit? d)

/-- The character that a backslash and a letter stand for. -/
def escaped? : Char → Option Char
  | '"' => some '"'
  | '\\' => some '\\'
  | '/' => some '/'
  | 'b' => some '\x08'
  | 'f' => some '\x0C'
  | 'n' => some '\n'
  | 'r' => some '\r'
  | 't' => some '\t'
  | _ => none

/-- The pieces of a string whose opening quote has been read, and what follows its closing quote. -/
def pieces? : List Char → Option (List Piece × List Char)
  | [] => none
  | '"' :: rest => some ([], rest)
  | '\\' :: 'u' :: a :: b :: c :: d :: rest => do
    let code ← hexUnit? a b c d
    let (pieces, rest) ← pieces? rest
    return (.unit code :: pieces, rest)
  | '\\' :: letter :: rest => do
    let c ← escaped? letter
    let (pieces, rest) ← pieces? rest
    return (.char c :: pieces, rest)
  | c :: rest =>
    if c.toNat < 0x20 then none
    else do
      let (pieces, rest) ← pieces? rest
      return (.char c :: pieces, rest)

/-- Whether a UTF-16 unit is the first of two. -/
def isLeading (code : Nat) : Bool :=
  0xD800 ≤ code && code ≤ 0xDBFF

/-- Whether a UTF-16 unit is the second of two. -/
def isTrailing (code : Nat) : Bool :=
  0xDC00 ≤ code && code ≤ 0xDFFF

/-- The characters that pieces make up, unless a unit lacks its partner. -/
def join? : List Piece → Option (List Char)
  | [] => some []
  | .char c :: rest => (join? rest).map (c :: ·)
  | .unit first :: .unit second :: rest =>
    if isLeading first then
      if isTrailing second then
        let code := 0x10000 + (first - 0xD800) * 0x400 + (second - 0xDC00)
        (join? rest).map (Char.ofNat code :: ·)
      else none
    else if isTrailing first then none
    else (join? (.unit second :: rest)).map (Char.ofNat first :: ·)
  | .unit code :: rest =>
    if isLeading code || isTrailing code then none
    else (join? rest).map (Char.ofNat code :: ·)

/-- Reads a string whose opening quote has been read. -/
def readString (cs : List Char) : Option (Option String × List Char) := do
  let (pieces, rest) ← pieces? cs
  return ((join? pieces).map String.ofList, rest)

/-! ### Numbers -/

/-- Digits at the start of a text, at least one. -/
def readDigits (cs : List Char) : Option (List Char × List Char) :=
  match cs.takeWhile Char.isDigit with
  | [] => none
  | digits => some (digits, cs.dropWhile Char.isDigit)

/-- The fraction at the start of a text, empty if there is none. -/
def readFraction : List Char → Option (List Char × List Char)
  | '.' :: rest => do
    let (digits, rest) ← readDigits rest
    return ('.' :: digits, rest)
  | cs => some ([], cs)

/-- The exponent at the start of a text, empty if there is none. -/
def readExponent : List Char → Option (List Char × List Char)
  | [] => some ([], [])
  | mark :: rest =>
    if mark == 'e' || mark == 'E' then
      let sign := rest.take 1 |>.filter fun c => c == '+' || c == '-'
      do
        let (digits, rest) ← readDigits (rest.drop sign.length)
        return (mark :: sign ++ digits, rest)
    else some ([], mark :: rest)

/-- Reads the number that follows an optional minus sign. No zero stands before other digits. Minus
zero is no integer. -/
def readNumber (negative : Bool) (cs : List Char) : Option (Json × List Char) := do
  let (digits, rest) ← readDigits cs
  if digits.head? = some '0' ∧ digits.length ≠ 1 then none
  let (fraction, rest) ← readFraction rest
  let (exponent, rest) ← readExponent rest
  let magnitude := Nat.ofDigitChars 10 digits 0
  let sign := if negative then ['-'] else []
  if fraction.isEmpty ∧ exponent.isEmpty ∧ ¬(negative ∧ magnitude = 0) then
    return (.integer (if negative then -(magnitude : Int) else magnitude), rest)
  else
    return (.other (String.ofList (sign ++ digits ++ fraction ++ exponent)), rest)

/-! ### Values -/

mutual

/-- Reads a value. -/
def readValue : Nat → List Char → Option (Json × List Char)
  | 0, _ => none
  | budget + 1, cs =>
    match skipSpace cs with
    | 'n' :: 'u' :: 'l' :: 'l' :: rest => some (.null, rest)
    | 't' :: 'r' :: 'u' :: 'e' :: rest => some (.bool true, rest)
    | 'f' :: 'a' :: 'l' :: 's' :: 'e' :: rest => some (.bool false, rest)
    | '"' :: rest => (readString rest).map fun (text, rest) => (.string text, rest)
    | '-' :: rest => readNumber true rest
    | '[' :: rest =>
      match skipSpace rest with
      | ']' :: rest => some (.array [], rest)
      | _ => (readItems budget rest).map fun (items, rest) => (.array items, rest)
    | '\x7b' :: rest =>
      match skipSpace rest with
      | '\x7d' :: rest => some (.object [], rest)
      | _ => (readFields budget rest).map fun (fields, rest) => (.object fields, rest)
    | cs => readNumber false cs

/-- Reads the items of an array up to its closing bracket. -/
def readItems : Nat → List Char → Option (List Json × List Char)
  | 0, _ => none
  | budget + 1, cs => do
    let (item, rest) ← readValue budget cs
    match skipSpace rest with
    | ',' :: rest =>
      let (items, rest) ← readItems budget rest
      return (item :: items, rest)
    | ']' :: rest => return ([item], rest)
    | _ => none

/-- Reads the fields of an object up to its closing brace. -/
def readFields : Nat → List Char → Option (List (Option String × Json) × List Char)
  | 0, _ => none
  | budget + 1, cs =>
    match skipSpace cs with
    | '"' :: rest => do
      let (key, rest) ← readString rest
      match skipSpace rest with
      | ':' :: rest =>
        let (value, rest) ← readValue budget rest
        match skipSpace rest with
        | ',' :: rest =>
          let (fields, rest) ← readFields budget rest
          return ((key, value) :: fields, rest)
        | '\x7d' :: rest => return ([(key, value)], rest)
        | _ => none
      | _ => none
    | _ => none

end

/-- Reads a text that is one JSON value with spaces around it. -/
def parse (text : String) : Option Json :=
  let cs := text.toList
  match readValue (2 * cs.length + 2) cs with
  | some (json, rest) => if (skipSpace rest).isEmpty then some json else none
  | none => none

end HostProfile.Json
