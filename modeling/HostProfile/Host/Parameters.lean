import HostProfile.Bytes
import HostProfile.Host.ErrorNumber
import HostProfile.ProbeError
import HostProfile.Text.Utf8

/-!
# Kernel parameters

Reading named kernel parameters through a call that fills a buffer of the caller. With an empty
buffer the call only tells how long the value is. A number is read into eight bytes; a text takes
two calls, one for its length and one for its bytes, and the value may have changed in between, so
that the second call need not do what the first would have done.
-/

set_option autoImplicit false
set_option relaxedAutoImplicit false

namespace HostProfile

/-- A call for a kernel parameter: by its name and the buffer of the caller, the error number that
the call fails with, or the length that it tells and the buffer that it leaves. -/
abbrev ParameterCall := String → List UInt8 → Except Nat (Nat × List UInt8)

namespace ParameterCall

/-- A failed query of the parameters. -/
def failure (reason : String) : ProbeError :=
  .queryFailed "sysctl" reason

/-- Makes a call. A name with a NUL cannot be passed on, and a name that nothing has does not exist
as a source. -/
def ask (call : ParameterCall) (name : String) (buffer : List UInt8) :
    Outcome (Nat × List UInt8) :=
  match (Text.encode name).idxOf? 0 with
  | some position =>
    .error (failure ("nul byte found in provided data at position: " ++
      String.ofList (Text.decimal position)))
  | none =>
    match call name buffer with
    | .ok reply => .ok reply
    | .error errno =>
      if errno = ErrorNumber.noSuchEntry then .error .unavailable
      else .error (failure (name ++ ": " ++ ErrorNumber.describe errno))

/-- Reads a parameter that is a number of four or eight bytes. -/
def number (call : ParameterCall) (name : String) : Outcome UInt64 := do
  let (length, buffer) ← call.ask name (List.replicate 8 0)
  if length = 4 ∨ length = 8 then
    return UInt64.ofNat (Bytes.valueLE (buffer.take length))
  else
    throw (failure (name ++ ": unexpected " ++ String.ofList (Text.decimal length) ++
      "-byte value"))

/-- Bytes without the NULs at their end. -/
def withoutPadding (bytes : List UInt8) : List UInt8 :=
  (bytes.reverse.dropWhile (· == 0)).reverse

/-- Reads a parameter that is a text: its length by the first call, its bytes by the second. -/
def text (first second : ParameterCall) (name : String) : Outcome String := do
  let (size, _) ← first.ask name []
  let (length, buffer) ← second.ask name (List.replicate size 0)
  return Text.decodeLossy (withoutPadding (buffer.take length))

end ParameterCall

end HostProfile
