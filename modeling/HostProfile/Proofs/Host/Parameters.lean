import HostProfile.Host.Darwin
import HostProfile.Proofs.Bytes
import Mathlib.Data.List.DropRight

/-!
# Kernel parameters that change

What the calls for parameters do is given by the parameters there are at the moment: a call fails
with the number for a missing name where nothing has the name and nowhere else, tells an empty buffer
how long the value is, fails with another number if the buffer is too short, and otherwise writes the
value and nothing over it (`ParameterCall.Contract`).

A number is read by one call, and it is there if its value has four or eight bytes (`NumberRead`).
A text is read by two calls, between which the value may become another one (`TextRead`). It is a
value that the parameter had at one of the calls, whole and without the NULs at its end: as long as
the value does not grow, the one that was there last, and if there was nothing to make room for, the
empty one that was there first. A value that outgrows its room is a failed query, and a name that is
gone at either call does not exist as a source.
-/

set_option autoImplicit false
set_option relaxedAutoImplicit false

namespace HostProfile

/-- A kernel parameter: it has a value, or every call for it is refused. -/
inductive Parameter where
  | value (bytes : List UInt8)
  | refused

/-- The parameters of a kernel at one moment. -/
abbrev ParameterTable := String → Option Parameter

/-- A call for parameters does what it should with the parameters of a table. -/
structure ParameterCall.Contract (call : ParameterCall) (table : ParameterTable) : Prop where
  /-- It fails with the number for a missing name where nothing has the name, and nowhere else. -/
  missing : ∀ name buffer,
    call name buffer = .error ErrorNumber.noSuchEntry ↔ table name = none
  /-- Given no buffer, it only tells the length of the value. -/
  length : ∀ name bytes, table name = some (.value bytes) → call name [] = .ok (bytes.length, [])
  /-- It fails if the buffer is shorter than the value. -/
  short : ∀ name bytes buffer, table name = some (.value bytes) → buffer ≠ [] →
    buffer.length < bytes.length → ∃ errno, call name buffer = .error errno
  /-- It writes the value to the start of a buffer that has room for it, and tells its length. -/
  room : ∀ name bytes buffer, table name = some (.value bytes) → buffer ≠ [] →
    bytes.length ≤ buffer.length →
      call name buffer = .ok (bytes.length, bytes ++ buffer.drop bytes.length)
  /-- It fails if it is refused. -/
  refused : ∀ name buffer, table name = some .refused → ∃ errno, call name buffer = .error errno

namespace ParameterTable

/-- A parameter has a value. A name with a NUL in it cannot be asked for. -/
def Holds (table : ParameterTable) (name : String) (bytes : List UInt8) : Prop :=
  0 ∉ Text.encode name ∧ table name = some (.value bytes)

/-- Nothing has the name, though it can be asked for. -/
def Lacks (table : ParameterTable) (name : String) : Prop :=
  0 ∉ Text.encode name ∧ table name = none

/-- Calls for a name are refused, or it cannot be asked for. -/
def Refuses (table : ParameterTable) (name : String) : Prop :=
  0 ∈ Text.encode name ∨ table name = some .refused

/-- A name has a value, or nothing has it, or it cannot be asked for with success. -/
theorem holds_or_lacks_or_refuses (table : ParameterTable) (name : String) :
    (∃ bytes, table.Holds name bytes) ∨ table.Lacks name ∨ table.Refuses name := by
  by_cases hname : 0 ∈ Text.encode name
  · exact .inr (.inr (.inl hname))
  · cases htable : table name with
    | none => exact .inr (.inl ⟨hname, htable⟩)
    | some parameter =>
      cases parameter with
      | value bytes => exact .inl ⟨bytes, hname, htable⟩
      | refused => exact .inr (.inr (.inr htable))

end ParameterTable

namespace ParameterCall

/-- An error is a failed query of the parameters. Its reason starts with the name, if the name can
be asked for at all. -/
def Failed (name : String) (error : ProbeError) : Prop :=
  ∃ reason, error = failure reason ∧
    (0 ∉ Text.encode name → ∃ detail, reason = name ++ ": " ++ detail)

theorem Failed.ne_unavailable {name : String} {error : ProbeError} (h : Failed name error) :
    error ≠ .unavailable := by
  obtain ⟨reason, rfl, -⟩ := h
  exact ProbeError.noConfusion

/-- What a reading comes to: a right value, no source because the parameter is missing, or a failed
query. -/
inductive Reading {α : Type} (name : String) (right : α → Prop) (missing : Prop) :
    Outcome α → Prop
  | value (value : α) (h : right value) : Reading name right missing (.ok value)
  | unavailable (h : missing) : Reading name right missing (.error .unavailable)
  | failed (error : ProbeError) (h : Failed name error) : Reading name right missing (.error error)

namespace Reading

variable {α : Type} {name : String} {right : α → Prop} {missing : Prop} {outcome : Outcome α}

theorem right_of_ok (h : Reading name right missing outcome) {value : α}
    (hvalue : outcome = .ok value) : right value := by
  cases h with
  | value other h =>
    cases hvalue
    exact h
  | unavailable => cases hvalue
  | failed => cases hvalue

theorem missing_of_unavailable (h : Reading name right missing outcome)
    (hnone : outcome = .error .unavailable) : missing := by
  cases h with
  | value => cases hnone
  | unavailable h => exact h
  | failed error h => exact absurd (Except.error.inj hnone) h.ne_unavailable

theorem failed_of_error (h : Reading name right missing outcome) {error : ProbeError}
    (herror : outcome = .error error) (hother : error ≠ .unavailable) : Failed name error := by
  cases h with
  | value => cases herror
  | unavailable => exact absurd (Except.error.inj herror).symm hother
  | failed other h =>
    cases herror
    exact h

end Reading

/-- The bytes that are left of a value when the NULs at its end are taken away, all of them. -/
structure Unpadded (bytes kept : List UInt8) : Prop where
  padded : ∃ count, bytes = kept ++ List.replicate count 0
  last : kept.getLast? ≠ some 0

theorem unpadded_withoutPadding (bytes : List UInt8) : Unpadded bytes (withoutPadding bytes) where
  padded := by
    have hsplit : withoutPadding bytes ++ bytes.rtakeWhile (· == 0) = bytes :=
      List.rdropWhile_append_rtakeWhile
    have hnuls : ∀ byte ∈ bytes.rtakeWhile (· == 0), byte = 0 := fun byte hbyte ↦
      beq_iff_eq.mp (List.mem_rtakeWhile_imp (p := (· == 0)) hbyte)
    refine ⟨(bytes.rtakeWhile (· == 0)).length, ?_⟩
    rw [← List.eq_replicate_of_mem hnuls]
    exact hsplit.symm
  last := by
    intro hlast
    obtain ⟨hne, hzero⟩ := List.mem_getLast?_eq_getLast hlast
    exact List.rdropWhile_last_not (· == 0) bytes hne (beq_iff_eq.mpr hzero.symm)

theorem unpadded_iff {bytes kept : List UInt8} :
    Unpadded bytes kept ↔ withoutPadding bytes = kept := by
  constructor
  · rintro ⟨⟨count, rfl⟩, hlast⟩
    show (kept ++ List.replicate count 0).rdropWhile (· == 0) = kept
    induction count with
    | zero =>
      rw [List.replicate_zero, List.append_nil, List.rdropWhile_eq_self_iff]
      intro hne hzero
      exact hlast ((List.getLast?_eq_some_getLast hne).trans (congrArg some (beq_iff_eq.mp hzero)))
    | succ count ih =>
      rw [List.replicate_succ', ← List.append_assoc, List.rdropWhile_concat_pos _ _ _ rfl, ih]
  · rintro rfl
    exact unpadded_withoutPadding bytes

variable {call : ParameterCall} {table : ParameterTable} {name : String}
  {bytes buffer : List UInt8}

/-! ### One call -/

theorem idxOf?_encode (h : 0 ∉ Text.encode name) : (Text.encode name).idxOf? 0 = none :=
  List.idxOf?_eq_none_iff.mpr h

theorem ask_of_ok (hname : 0 ∉ Text.encode name) {reply : Nat × List UInt8}
    (h : call name buffer = .ok reply) : call.ask name buffer = .ok reply := by
  rw [ask, idxOf?_encode hname, h]

/-- A call that fails, though not because nothing has the name, is a failed query. -/
theorem ask_of_error (hname : 0 ∉ Text.encode name) {errno : Nat}
    (h : call name buffer = .error errno) (hother : errno ≠ ErrorNumber.noSuchEntry) :
    ∃ error, call.ask name buffer = .error error ∧ Failed name error := by
  refine ⟨_, ?_, _, rfl, fun _ ↦ ⟨ErrorNumber.describe errno, rfl⟩⟩
  rw [ask, idxOf?_encode hname, h]
  exact if_neg hother

namespace Contract

theorem ask_of_lacks (h : call.Contract table) (hlacks : table.Lacks name)
    (buffer : List UInt8) : call.ask name buffer = .error .unavailable := by
  obtain ⟨hname, htable⟩ := hlacks
  rw [ask, idxOf?_encode hname, (h.missing name buffer).mpr htable]
  rfl

theorem ask_nil (h : call.Contract table) (hholds : table.Holds name bytes) :
    call.ask name [] = .ok (bytes.length, []) :=
  ask_of_ok hholds.1 (h.length name bytes hholds.2)

/-- The number for a missing name is given for no name that something has. -/
theorem ne_noSuchEntry (h : call.Contract table) {parameter : Parameter} {errno : Nat}
    (htable : table name = some parameter) (hcall : call name buffer = .error errno) :
    errno ≠ ErrorNumber.noSuchEntry := by
  rintro rfl
  cases htable.symm.trans ((h.missing name buffer).mp hcall)

/-- A buffer that is too short. -/
theorem ask_of_short (h : call.Contract table) (hholds : table.Holds name bytes)
    (hne : buffer ≠ []) (hshort : buffer.length < bytes.length) :
    ∃ error, call.ask name buffer = .error error ∧ Failed name error := by
  obtain ⟨errno, hcall⟩ := h.short name bytes buffer hholds.2 hne hshort
  exact ask_of_error hholds.1 hcall (h.ne_noSuchEntry hholds.2 hcall)

/-- A buffer that has room for the value. -/
theorem ask_of_room (h : call.Contract table) (hholds : table.Holds name bytes)
    (hne : buffer ≠ []) (hroom : bytes.length ≤ buffer.length) :
    call.ask name buffer = .ok (bytes.length, bytes ++ buffer.drop bytes.length) :=
  ask_of_ok hholds.1 (h.room name bytes buffer hholds.2 hne hroom)

theorem ask_of_refuses (h : call.Contract table) (hrefuses : table.Refuses name)
    (buffer : List UInt8) : ∃ error, call.ask name buffer = .error error ∧ Failed name error := by
  by_cases hname : 0 ∈ Text.encode name
  · obtain ⟨position, hposition⟩ := Option.ne_none_iff_exists'.mp
      fun hnone ↦ List.idxOf?_eq_none_iff.mp hnone hname
    rw [ask, hposition]
    exact ⟨_, rfl, _, rfl, fun hpassed ↦ absurd hname hpassed⟩
  · have htable := hrefuses.resolve_left hname
    obtain ⟨errno, hcall⟩ := h.refused name buffer htable
    exact ask_of_error hname hcall (h.ne_noSuchEntry htable hcall)

end Contract

/-! ### Numbers -/

/-- What the number of a parameter is, and what it is where there is none. -/
structure NumberRead (table : ParameterTable) (name : String) (outcome : Outcome UInt64) :
    Prop where
  /-- The number is the value of four or of eight bytes, the first the least significant. -/
  ok_iff : ∀ n, outcome = .ok n ↔ ∃ bytes, table.Holds name bytes ∧
    (bytes.length = 4 ∨ bytes.length = 8) ∧ n.toNat = Bytes.valueLE bytes
  /-- The source does not exist where nothing has the name, and only there. -/
  unavailable_iff : outcome = .error .unavailable ↔ table.Lacks name
  /-- In all other cases the query failed. -/
  failed : ∀ error, outcome = .error error → error ≠ .unavailable → Failed name error

theorem number_of_error {error : ProbeError}
    (h : call.ask name (List.replicate 8 0) = .error error) :
    call.number name = .error error := by
  rw [number, h]
  rfl

theorem toNat_ofNat_valueLE (h : bytes.length = 4 ∨ bytes.length = 8) :
    (UInt64.ofNat (Bytes.valueLE bytes)).toNat = Bytes.valueLE bytes := by
  have hlength : bytes.length ≤ 8 := by omega
  exact UInt64.toNat_ofNat_of_lt' (Bytes.valueLE_lt_of_length_le hlength)

namespace Contract

/-- A value of four or eight bytes is read as a number. -/
theorem exists_number (h : call.Contract table) (hholds : table.Holds name bytes)
    (hlength : bytes.length = 4 ∨ bytes.length = 8) :
    ∃ n : UInt64, call.number name = .ok n ∧ n.toNat = Bytes.valueLE bytes := by
  have hroom : bytes.length ≤ (List.replicate 8 (0 : UInt8)).length := by
    rw [List.length_replicate]
    omega
  refine ⟨_, ?_, toNat_ofNat_valueLE hlength⟩
  rw [number, h.ask_of_room hholds (by decide) hroom]
  show (if bytes.length = 4 ∨ bytes.length = 8 then _ else _ : Outcome UInt64) = _
  rw [if_pos hlength, List.take_left]
  rfl

/-- A value of any other length fails, if not for its length then for want of room. -/
theorem number_failed (h : call.Contract table) (hholds : table.Holds name bytes)
    (hlength : ¬ (bytes.length = 4 ∨ bytes.length = 8)) :
    ∃ error, call.number name = .error error ∧ Failed name error := by
  by_cases hroom : bytes.length ≤ (List.replicate 8 (0 : UInt8)).length
  · refine ⟨failure (name ++ ": unexpected " ++ String.ofList (Text.decimal bytes.length) ++
      "-byte value"), ?_, _, rfl, fun _ ↦ ?_⟩
    · rw [number, h.ask_of_room hholds (by decide) hroom]
      exact if_neg hlength
    · have hunexpected : ": unexpected " = ": " ++ "unexpected " := rfl
      refine ⟨"unexpected " ++ String.ofList (Text.decimal bytes.length) ++ "-byte value", ?_⟩
      rw [hunexpected]
      simp only [String.append_assoc]
  · obtain ⟨error, hask, hfailed⟩ := h.ask_of_short hholds (by decide) (Nat.lt_of_not_le hroom)
    exact ⟨error, number_of_error hask, hfailed⟩

theorem reading_number (h : call.Contract table) (name : String) :
    Reading name
      (fun n : UInt64 ↦ ∃ bytes, table.Holds name bytes ∧
        (bytes.length = 4 ∨ bytes.length = 8) ∧ n.toNat = Bytes.valueLE bytes)
      (table.Lacks name) (call.number name) := by
  obtain ⟨bytes, hholds⟩ | hlacks | hrefuses := table.holds_or_lacks_or_refuses name
  · by_cases hlength : bytes.length = 4 ∨ bytes.length = 8
    · obtain ⟨n, hread, hvalue⟩ := h.exists_number hholds hlength
      rw [hread]
      exact .value n ⟨bytes, hholds, hlength, hvalue⟩
    · obtain ⟨error, hread, hfailed⟩ := h.number_failed hholds hlength
      rw [hread]
      exact .failed error hfailed
  · rw [number_of_error (h.ask_of_lacks hlacks _)]
    exact .unavailable hlacks
  · obtain ⟨error, hask, hfailed⟩ := h.ask_of_refuses hrefuses (List.replicate 8 0)
    rw [number_of_error hask]
    exact .failed error hfailed

theorem numberRead (h : call.Contract table) (name : String) :
    NumberRead table name (call.number name) where
  ok_iff := by
    intro n
    constructor
    · exact (h.reading_number name).right_of_ok
    · rintro ⟨bytes, hholds, hlength, hn⟩
      obtain ⟨m, hm, hvalue⟩ := h.exists_number hholds hlength
      rw [hm, UInt64.toNat_inj.mp (hvalue.trans hn.symm)]
  unavailable_iff :=
    ⟨(h.reading_number name).missing_of_unavailable,
      fun hlacks ↦ number_of_error (h.ask_of_lacks hlacks _)⟩
  failed := fun _ ↦ (h.reading_number name).failed_of_error

end Contract

/-! ### Texts -/

/-- What the text of a parameter is whose length is told when the parameters are those of one table
and whose bytes are read when they are those of another, and what it is where there is none. -/
structure TextRead (first second : ParameterTable) (name : String) (outcome : Outcome String) :
    Prop where
  /-- A text is a value at one of the calls, without the NULs at its end. -/
  real : ∀ text, outcome = .ok text → ∃ bytes kept,
    (first.Holds name bytes ∨ second.Holds name bytes) ∧ Unpadded bytes kept ∧
      text = Text.decodeLossy kept
  /-- A value that does not grow between the calls is read as it is at the second. -/
  fits : ∀ old new, first.Holds name old → second.Holds name new → new.length ≤ old.length →
    ∃ kept, Unpadded new kept ∧ outcome = .ok (Text.decodeLossy kept)
  /-- An empty value is read as it was at the first call. -/
  empty : ∀ new, first.Holds name [] → second.Holds name new → outcome = .ok ""
  /-- Any other value that grows between the calls is a failed query. -/
  grown : ∀ old new, first.Holds name old → old ≠ [] → second.Holds name new →
    old.length < new.length → ∃ error, outcome = .error error ∧ Failed name error
  /-- The source does not exist where nothing has the name at the first call, or nothing has it any
  more at the second, and only there. -/
  unavailable_iff : outcome = .error .unavailable ↔
    first.Lacks name ∨ (∃ old, first.Holds name old) ∧ second.Lacks name
  /-- In all other cases in which there is no text the query failed. -/
  failed : ∀ error, outcome = .error error → error ≠ .unavailable → Failed name error

section Texts

variable {first second : ParameterCall} {before after : ParameterTable} {old new : List UInt8}

theorem text_of_error {error : ProbeError} (h : first.ask name [] = .error error) :
    text first second name = .error error := by
  rw [text, h]
  rfl

namespace Contract

/-- Once a value has told its length, the second call is made with as much room. -/
theorem text_eq (h : first.Contract before) (hold : before.Holds name old) :
    text first second name = (second.ask name (List.replicate old.length 0)).map fun reply ↦
      Text.decodeLossy (withoutPadding (reply.2.take reply.1)) := by
  rw [text, h.ask_nil hold]
  simp only [bind, Except.bind]
  cases second.ask name (List.replicate old.length 0) <;> rfl

theorem text_of_ask_error (h : first.Contract before) (hold : before.Holds name old)
    {error : ProbeError} (hask : second.ask name (List.replicate old.length 0) = .error error) :
    text first second name = .error error := by
  rw [h.text_eq hold, hask]
  rfl

/-- With no room for anything, the second call tells a length once more and reads nothing. -/
theorem text_of_empty (h : first.Contract before) (hsecond : second.Contract after)
    (hold : before.Holds name []) (hnew : after.Holds name new) :
    text first second name = .ok "" := by
  rw [h.text_eq hold, List.length_nil, List.replicate_zero, hsecond.ask_nil hnew]
  show Except.ok (Text.decodeLossy (withoutPadding (([] : List UInt8).take new.length))) = _
  rw [List.take_nil]
  rfl

theorem text_of_room (h : first.Contract before) (hsecond : second.Contract after)
    (hold : before.Holds name old) (hnew : after.Holds name new)
    (hroom : new.length ≤ old.length) :
    text first second name = .ok (Text.decodeLossy (withoutPadding new)) := by
  by_cases hempty : old = []
  · subst hempty
    obtain rfl := List.eq_nil_of_length_eq_zero (Nat.le_zero.mp hroom)
    exact h.text_of_empty hsecond hold hnew
  · have hne : List.replicate old.length (0 : UInt8) ≠ [] := by simpa using hempty
    rw [h.text_eq hold, hsecond.ask_of_room hnew hne (by rwa [List.length_replicate])]
    show Except.ok (Text.decodeLossy (withoutPadding ((new ++ _).take new.length))) = _
    rw [List.take_left]

theorem text_of_short (h : first.Contract before) (hsecond : second.Contract after)
    (hold : before.Holds name old) (hne : old ≠ []) (hnew : after.Holds name new)
    (hshort : old.length < new.length) :
    ∃ error, text first second name = .error error ∧ Failed name error := by
  have hbuffer : List.replicate old.length (0 : UInt8) ≠ [] := by simpa using hne
  obtain ⟨error, hask, hfailed⟩ :=
    hsecond.ask_of_short hnew hbuffer (by rwa [List.length_replicate])
  exact ⟨error, h.text_of_ask_error hold hask, hfailed⟩

theorem reading_text (h : first.Contract before) (hsecond : second.Contract after)
    (name : String) :
    Reading name
      (fun text ↦ ∃ bytes kept, (before.Holds name bytes ∨ after.Holds name bytes) ∧
        Unpadded bytes kept ∧ text = Text.decodeLossy kept)
      (before.Lacks name ∨ (∃ old, before.Holds name old) ∧ after.Lacks name)
      (text first second name) := by
  obtain ⟨old, hold⟩ | hlacks | hrefuses := before.holds_or_lacks_or_refuses name
  · obtain ⟨new, hnew⟩ | hlacks | hrefuses := after.holds_or_lacks_or_refuses name
    · by_cases hroom : new.length ≤ old.length
      · rw [h.text_of_room hsecond hold hnew hroom]
        exact .value _ ⟨new, _, .inr hnew, unpadded_withoutPadding new, rfl⟩
      · by_cases hempty : old = []
        · subst hempty
          rw [h.text_of_empty hsecond hold hnew]
          exact .value _ ⟨[], _, .inl hold, unpadded_withoutPadding [], rfl⟩
        · obtain ⟨error, hread, hfailed⟩ :=
            h.text_of_short hsecond hold hempty hnew (Nat.lt_of_not_le hroom)
          rw [hread]
          exact .failed error hfailed
    · rw [h.text_of_ask_error hold (hsecond.ask_of_lacks hlacks _)]
      exact .unavailable (.inr ⟨⟨old, hold⟩, hlacks⟩)
    · obtain ⟨error, hask, hfailed⟩ :=
        hsecond.ask_of_refuses hrefuses (List.replicate old.length 0)
      rw [h.text_of_ask_error hold hask]
      exact .failed error hfailed
  · rw [text_of_error (h.ask_of_lacks hlacks _)]
    exact .unavailable (.inl hlacks)
  · obtain ⟨error, hask, hfailed⟩ := h.ask_of_refuses hrefuses []
    rw [text_of_error hask]
    exact .failed error hfailed

theorem textRead (h : first.Contract before) (hsecond : second.Contract after) (name : String) :
    TextRead before after name (text first second name) where
  real := fun _ ↦ (h.reading_text hsecond name).right_of_ok
  fits := fun _ new hold hnew hroom ↦
    ⟨withoutPadding new, unpadded_withoutPadding new, h.text_of_room hsecond hold hnew hroom⟩
  empty := fun _ hold hnew ↦ h.text_of_empty hsecond hold hnew
  grown := fun _ _ hold hne hnew hshort ↦ h.text_of_short hsecond hold hne hnew hshort
  unavailable_iff := by
    constructor
    · exact (h.reading_text hsecond name).missing_of_unavailable
    · rintro (hlacks | ⟨⟨old, hold⟩, hlacks⟩)
      · exact text_of_error (h.ask_of_lacks hlacks _)
      · exact h.text_of_ask_error hold (hsecond.ask_of_lacks hlacks _)
  failed := fun _ ↦ (h.reading_text hsecond name).failed_of_error

end Contract

end Texts

end ParameterCall

/-! ### A kernel with certain values -/

namespace ParameterTable

/-- The parameters that have certain values. -/
def ofValues (values : List (String × List UInt8)) : ParameterTable := fun name ↦
  (values.lookup name).map .value

/-- What calls do with the parameters of a table. What is refused is not permitted. -/
def call (table : ParameterTable) : ParameterCall := fun name buffer ↦
  match table name with
  | none => .error ErrorNumber.noSuchEntry
  | some .refused => .error 1
  | some (.value bytes) =>
    if buffer.isEmpty then .ok (bytes.length, [])
    else if buffer.length < bytes.length then .error ErrorNumber.outOfMemory
    else .ok (bytes.length, bytes ++ buffer.drop bytes.length)

theorem contract_call (table : ParameterTable) : table.call.Contract table where
  missing := by
    intro name buffer
    unfold call
    cases table name with
    | none => simp
    | some parameter =>
      cases parameter with
      | refused => simp [ErrorNumber.noSuchEntry]
      | value bytes =>
        refine iff_of_false (fun hcall ↦ ?_) (by simp)
        simp only at hcall
        split_ifs at hcall
        cases hcall
  length := fun name bytes h ↦ by simp [call, h]
  short := fun name bytes buffer h hne hshort ↦ by
    refine ⟨ErrorNumber.outOfMemory, ?_⟩
    simp [call, h, hne, hshort]
  room := fun name bytes buffer h hne hroom ↦ by
    simp [call, h, hne, Nat.not_lt.mpr hroom]
  refused := fun name buffer h ↦ ⟨1, by simp [call, h]⟩

theorem holds_ofValues {values : List (String × List UInt8)} {name : String}
    {bytes : List UInt8} (hname : 0 ∉ Text.encode name)
    (hlookup : values.lookup name = some bytes) : (ofValues values).Holds name bytes :=
  ⟨hname, by rw [ofValues, hlookup]; rfl⟩

end ParameterTable

namespace Darwin

open ParameterCall in
/-- The parameters of a machine whose calls do what they should are read in this way, the texts also
where the parameters became other ones between the two calls. -/
theorem parameters_read {machine : Machine} {before after : ParameterTable}
    (hfirst : (machine.parameters 0).Contract before)
    (hsecond : (machine.parameters 1).Contract after) (name : String) :
    NumberRead before name (source machine (.parameter name)) ∧
      TextRead before after name (source machine (.textParameter name)) :=
  ⟨hfirst.numberRead name, hfirst.textRead hsecond name⟩

/-- A model that becomes shorter is read as the shorter one, while a number of four bytes is read
and a name that nothing has is not. -/
theorem parameters_read_shrunk :
    let before := ParameterTable.ofValues
      [("hw.model", [0x4D, 0x61, 0x63, 0x50, 0x72, 0x6F, 0]), ("hw.ncpu", [8, 0, 0, 0])]
    let after := ParameterTable.ofValues [("hw.model", [0x4D, 0x34, 0, 0])]
    let machine : Machine :=
      ⟨fun calls ↦ if calls = 0 then before.call else after.call, ⟨none, 8, none⟩⟩
    (machine.parameters 0).Contract before ∧ (machine.parameters 1).Contract after ∧
      source machine (.textParameter "hw.model") = .ok "M4" ∧
      source machine (.parameter "hw.ncpu") = .ok 8 ∧
      source machine (.textParameter "hw.machine") = .error .unavailable := by
  intro before after machine
  have hfirst : (machine.parameters 0).Contract before := before.contract_call
  have hsecond : (machine.parameters 1).Contract after := after.contract_call
  have hname : 0 ∉ Text.encode "hw.model" := by decide
  have hold : before.Holds "hw.model" [0x4D, 0x61, 0x63, 0x50, 0x72, 0x6F, 0] :=
    ParameterTable.holds_ofValues hname rfl
  have hnew : after.Holds "hw.model" [0x4D, 0x34, 0, 0] :=
    ParameterTable.holds_ofValues hname rfl
  have hcount : before.Holds "hw.ncpu" [8, 0, 0, 0] :=
    ParameterTable.holds_ofValues (by decide) rfl
  obtain ⟨-, htext⟩ := parameters_read hfirst hsecond "hw.model"
  obtain ⟨hnumber, -⟩ := parameters_read hfirst hsecond "hw.ncpu"
  obtain ⟨-, hmissing⟩ := parameters_read hfirst hsecond "hw.machine"
  obtain ⟨kept, hkept, heq⟩ := htext.fits _ _ hold hnew (by decide)
  obtain rfl := ParameterCall.unpadded_iff.mp hkept
  exact ⟨hfirst, hsecond, heq, (hnumber.ok_iff _).mpr ⟨_, hcount, .inl rfl, rfl⟩,
    hmissing.unavailable_iff.mpr (.inl ⟨by decide, rfl⟩)⟩

end Darwin

end HostProfile
