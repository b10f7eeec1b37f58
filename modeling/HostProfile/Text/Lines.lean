/-!
# Lines

A line ends at a line feed; one carriage return just before the line feed belongs to the line end.
Text after the last line feed is a line of its own, and a carriage return at the very end of the
text stays in that line.
-/

set_option autoImplicit false
set_option relaxedAutoImplicit false

namespace HostProfile.Text

/-- Puts a character at the front of the first line, opening one if there is none. -/
def prependToFirst (c : Char) : List (List Char) → List (List Char)
  | [] => [[c]]
  | line :: rest => (c :: line) :: rest

/-- The lines of a text, without their line ends. -/
def lines : List Char → List (List Char)
  | [] => []
  | '\n' :: rest => [] :: lines rest
  | '\r' :: '\n' :: rest => [] :: lines rest
  | c :: rest => prependToFirst c (lines rest)

end HostProfile.Text
