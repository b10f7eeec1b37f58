/-!
# Queries into a buffer of unknown size

A query that fills a buffer of the caller and tells how long the buffer has to be when it is too
short. The right size may change from call to call, so the caller asks again, each time with a
buffer of the size it was told, until the answer fits or the query fails for another reason.

A caller that is told a size no greater than the one it offered might ask for ever. The number of
attempts is therefore limited; under the contract that a short buffer makes the query ask for more,
lengths of 32 bits leave room for no more than `attemptLimit` calls.
-/

set_option autoImplicit false
set_option relaxedAutoImplicit false

namespace HostProfile

/-- What one call of a sized query does. -/
inductive SizedReply (α : Type) where
  /-- It fails with an error code. -/
  | failed (code : Nat)
  /-- The buffer is too short; it should have this many bytes. -/
  | tooShort (length : Nat)
  /-- It writes records to the start of the buffer and tells how many bytes they take. -/
  | filled (length : Nat) (records : List α)

/-- A sized query: what a call does, by the number of calls before it and the bytes offered. -/
abbrev SizedQuery (α : Type) := Nat → Nat → SizedReply α

namespace SizedQuery

variable {α : Type}

/-- More calls than can be told to ask again with lengths of 32 bits that grow each time. -/
def attemptLimit : Nat := 4294967297

/-- The error code of a buffer that is too short. -/
def tooShortCode : Nat := 122

/-- The number of records for which a buffer of some bytes has room, begun ones included. -/
def room (recordBytes length : Nat) : Nat :=
  (length + recordBytes - 1) / recordBytes

/-- The records a caller keeps of a buffer that was empty before records were written to its start:
as many as the bytes told can hold and the buffer has room for. -/
def kept (recordBytes : Nat) (empty : α) (offered told : Nat) (records : List α) : List α :=
  (List.range (min (told / recordBytes) (room recordBytes offered))).map fun index =>
    records.getD index empty

/-- Calls a query until the buffer is long enough. Ends with the records or an error code. -/
def fetchFrom (query : SizedQuery α) (recordBytes : Nat) (empty : α) :
    (attempts calls offered : Nat) → Except Nat (List α)
  | 0, _, _ => .error tooShortCode
  | attempts + 1, calls, offered =>
    match query calls offered with
    | .failed code => .error code
    | .tooShort length => fetchFrom query recordBytes empty attempts (calls + 1) length
    | .filled told records => .ok (kept recordBytes empty offered told records)

/-- Calls a query, first with no buffer at all, until the buffer is long enough. -/
def fetch (query : SizedQuery α) (recordBytes : Nat) (empty : α) : Except Nat (List α) :=
  fetchFrom query recordBytes empty attemptLimit 0 0

end SizedQuery

end HostProfile
