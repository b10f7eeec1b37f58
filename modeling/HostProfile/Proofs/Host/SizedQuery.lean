import HostProfile.Host.SizedQuery

/-!
# The contract of a sized query

Of a sized query it is asked only that a buffer which is too short makes it tell a greater length,
one of 32 bits, that a buffer which is long enough is filled with whole records, and that it tells
how many bytes these take (`Honest`). The size it needs may be another one at every call.

Asking such a query until the buffer is long enough comes to an end, however long one is ready to
go on: the lengths grow, so there are no more calls than lengths (`exists_course`). The end is an
error code other than that of a short buffer, or the records of the first call that does not fail,
each of them and no other, even where the buffer had room for more.
-/

set_option autoImplicit false
set_option relaxedAutoImplicit false

namespace HostProfile.SizedQuery

variable {α : Type} {query : SizedQuery α} {recordBytes calls offered : Nat}

/-! ### The contract -/

/-- What a call may do that is offered a buffer of some bytes. -/
inductive Honest (recordBytes offered : Nat) : SizedReply α → Prop
  /-- It fails for another reason than a short buffer. -/
  | failed {code : Nat} (hcode : code ≠ tooShortCode) : Honest recordBytes offered (.failed code)
  /-- It needs more bytes than it was offered. -/
  | tooShort {length : Nat} (hgrows : offered < length) (hword : length < 4294967296) :
      Honest recordBytes offered (.tooShort length)
  /-- It writes whole records, for which there is room. -/
  | filled {told : Nat} {records : List α} (htold : told = recordBytes * records.length)
      (hroom : told ≤ offered) : Honest recordBytes offered (.filled told records)

/-- A query keeps to the contract at every call with a buffer of 32-bit length. -/
def Contract (query : SizedQuery α) (recordBytes : Nat) : Prop :=
  ∀ calls offered, offered < 4294967296 → Honest recordBytes offered (query calls offered)

namespace Contract

variable (h : query.Contract recordBytes) (hword : offered < 4294967296)
include h hword

theorem of_failed {code : Nat} (hreply : query calls offered = .failed code) :
    code ≠ tooShortCode := by
  have hhonest := h calls offered hword
  rw [hreply] at hhonest
  cases hhonest with
  | failed hcode => exact hcode

theorem of_tooShort {length : Nat} (hreply : query calls offered = .tooShort length) :
    offered < length ∧ length < 4294967296 := by
  have hhonest := h calls offered hword
  rw [hreply] at hhonest
  cases hhonest with
  | tooShort hgrows hlength => exact ⟨hgrows, hlength⟩

theorem of_filled {told : Nat} {records : List α}
    (hreply : query calls offered = .filled told records) :
    told = recordBytes * records.length ∧ told ≤ offered := by
  have hhonest := h calls offered hword
  rw [hreply] at hhonest
  cases hhonest with
  | filled htold hroom => exact ⟨htold, hroom⟩

end Contract

/-- A query that at each call fails, or has some records to tell and needs room for them. -/
def ofReplies (recordBytes : Nat) (replies : Nat → Except Nat (List α)) : SizedQuery α :=
  fun calls offered ↦
    match replies calls with
    | .error code => .failed code
    | .ok records =>
      let needed := recordBytes * records.length
      if offered < needed then .tooShort needed else .filled needed records

theorem contract_ofReplies {replies : Nat → Except Nat (List α)}
    (hcode : ∀ calls code, replies calls = .error code → code ≠ tooShortCode)
    (hword : ∀ calls records, replies calls = .ok records →
      recordBytes * records.length < 4294967296) :
    (ofReplies recordBytes replies).Contract recordBytes := by
  intro calls offered _
  unfold ofReplies
  cases hreply : replies calls with
  | error code => exact .failed (hcode calls code hreply)
  | ok records =>
    dsimp only
    split
    · exact .tooShort ‹_› (hword calls records hreply)
    · exact .filled rfl (Nat.le_of_not_lt ‹_›)

/-! ### The loop without a limit -/

/-- A query is called until the buffer is long enough, for however long: the lengths of the buffers
from some call on, and what comes of it in the end. -/
inductive Ends (query : SizedQuery α) : Nat → Nat → List Nat → Except Nat (List α) → Prop
  | failed {calls offered code : Nat} (hreply : query calls offered = .failed code) :
      Ends query calls offered [offered] (.error code)
  | filled {calls offered told : Nat} {records : List α}
      (hreply : query calls offered = .filled told records) :
      Ends query calls offered [offered] (.ok records)
  | again {calls offered length : Nat} {lengths : List Nat} {result : Except Nat (List α)}
      (hreply : query calls offered = .tooShort length)
      (hrest : Ends query (calls + 1) length lengths result) :
      Ends query calls offered (offered :: lengths) result

/-- There is an end, since the length told at a call leaves less room for the next one to grow. -/
theorem Contract.exists_ends (h : query.Contract recordBytes) (hword : offered < 4294967296) :
    ∃ lengths result, Ends query calls offered lengths result := by
  induction hroom : 4294967296 - offered using Nat.strongRecOn generalizing calls offered with
  | ind room ih =>
    cases hreply : query calls offered with
    | failed code => exact ⟨_, _, .failed hreply⟩
    | filled told records => exact ⟨_, _, .filled hreply⟩
    | tooShort length =>
      obtain ⟨hgrows, hlength⟩ := h.of_tooShort hword hreply
      obtain ⟨lengths, result, hrest⟩ := ih (4294967296 - length) (by omega) hlength rfl
      exact ⟨_, _, .again hreply hrest⟩

namespace Ends

variable {lengths : List Nat} {result : Except Nat (List α)}

/-- There is one end at most. -/
theorem unique (h : Ends query calls offered lengths result) {others : List Nat}
    {other : Except Nat (List α)} (hother : Ends query calls offered others other) :
    others = lengths ∧ other = result := by
  induction h generalizing others with
  | failed hreply =>
    cases hother with
    | failed hagain => cases hreply.symm.trans hagain; exact ⟨rfl, rfl⟩
    | filled hagain | again hagain => cases hreply.symm.trans hagain
  | filled hreply =>
    cases hother with
    | filled hagain => cases hreply.symm.trans hagain; exact ⟨rfl, rfl⟩
    | failed hagain | again hagain => cases hreply.symm.trans hagain
  | again hreply _ ih =>
    cases hother with
    | failed hagain | filled hagain => cases hreply.symm.trans hagain
    | again hagain hrest =>
      cases hreply.symm.trans hagain
      obtain ⟨rfl, rfl⟩ := ih hrest
      exact ⟨rfl, rfl⟩

/-- The lengths of the buffers grow from call to call. -/
theorem lengths_grow (h : Ends query calls offered lengths result)
    (hquery : query.Contract recordBytes) (hword : offered < 4294967296) :
    lengths.Pairwise (· < ·) ∧ ∀ length ∈ lengths, offered ≤ length := by
  induction h with
  | failed _ | filled _ => exact ⟨List.pairwise_singleton _ _, by simp⟩
  | again hreply _ ih =>
    obtain ⟨hgrows, hlength⟩ := hquery.of_tooShort hword hreply
    obtain ⟨hpairwise, hle⟩ := ih hlength
    have hlt := fun later hlater ↦ Nat.lt_of_lt_of_le hgrows (hle later hlater)
    exact ⟨List.pairwise_cons.mpr ⟨hlt, hpairwise⟩,
      List.forall_mem_cons.mpr ⟨Nat.le_refl _, fun later hlater ↦ Nat.le_of_lt (hlt later hlater)⟩⟩

/-- There are no more calls than lengths of 32 bits that are left. -/
theorem length_le (h : Ends query calls offered lengths result)
    (hquery : query.Contract recordBytes) (hword : offered < 4294967296) :
    offered + lengths.length ≤ 4294967296 := by
  induction h with
  | failed _ | filled _ => exact hword
  | again hreply _ ih =>
    obtain ⟨hgrows, hlength⟩ := hquery.of_tooShort hword hreply
    have hle := ih hlength
    rw [List.length_cons]
    omega

/-- What a failure and what records are like in the end. -/
theorem result_spec (h : Ends query calls offered lengths result)
    (hquery : query.Contract recordBytes) (hword : offered < 4294967296) :
    (∀ code, result = .error code → code ≠ tooShortCode) ∧
      ∀ records, result = .ok records → recordBytes * records.length < 4294967296 := by
  induction h with
  | failed hreply =>
    refine ⟨fun code hresult ↦ ?_, fun records hresult ↦ by cases hresult⟩
    cases hresult
    exact hquery.of_failed hword hreply
  | filled hreply =>
    refine ⟨fun code hresult ↦ (by cases hresult), fun records hresult ↦ ?_⟩
    cases hresult
    obtain ⟨rfl, hroom⟩ := hquery.of_filled hword hreply
    exact Nat.lt_of_le_of_lt hroom hword
  | again hreply _ ih => exact ih (hquery.of_tooShort hword hreply).2

end Ends

/-! ### The records that are kept -/

/-- Of a buffer with whole records and nothing told beyond them, these are kept and no more. -/
theorem kept_eq (hbytes : 0 < recordBytes) (empty : α) {records : List α}
    (hroom : recordBytes * records.length ≤ offered) :
    kept recordBytes empty offered (recordBytes * records.length) records = records := by
  have hcount : min (recordBytes * records.length / recordBytes) (room recordBytes offered) =
      records.length := by
    rw [Nat.mul_div_cancel_left _ hbytes, Nat.min_eq_left]
    refine (Nat.le_div_iff_mul_le hbytes).mpr ?_
    rw [Nat.mul_comm]
    omega
  rw [kept, hcount]
  refine List.ext_getElem (by simp) fun index hindex hrecords ↦ ?_
  rw [List.getElem_map, List.getElem_range, List.getD_eq_getElem?_getD,
    List.getElem?_eq_getElem hrecords, Option.getD_some]

/-- With as many attempts as there are calls, the loop comes to the end that it has. -/
theorem Ends.fetchFrom_eq {lengths : List Nat} {result : Except Nat (List α)}
    (h : Ends query calls offered lengths result) (hquery : query.Contract recordBytes)
    (hbytes : 0 < recordBytes) (hword : offered < 4294967296) (empty : α) {attempts : Nat}
    (hattempts : lengths.length ≤ attempts) :
    fetchFrom query recordBytes empty attempts calls offered = result := by
  induction h generalizing attempts with
  | failed hreply =>
    obtain ⟨more, rfl⟩ := Nat.exists_eq_add_of_lt hattempts
    rw [fetchFrom, hreply]
  | filled hreply =>
    obtain ⟨more, rfl⟩ := Nat.exists_eq_add_of_lt hattempts
    obtain ⟨rfl, hroom⟩ := hquery.of_filled hword hreply
    rw [fetchFrom, hreply]
    exact congrArg Except.ok (kept_eq hbytes empty hroom)
  | again hreply _ ih =>
    obtain ⟨more, rfl⟩ := Nat.exists_eq_add_of_lt hattempts
    rw [fetchFrom, hreply]
    exact ih (hquery.of_tooShort hword hreply).2 (by rw [List.length_cons] at hattempts; omega)

/-! ### The whole course -/

/-- The course of a query that is called until the buffer is long enough, first with no buffer. -/
structure Course (query : SizedQuery α) (recordBytes : Nat) (empty : α) (lengths : List Nat)
    (result : Except Nat (List α)) : Prop where
  /-- Without a limit on the calls it comes to this end, and to no other. -/
  ends : ∀ others other, Ends query 0 0 others other ↔ others = lengths ∧ other = result
  /-- The lengths grow from call to call. -/
  grows : lengths.Pairwise (· < ·)
  /-- There are no more calls than lengths of 32 bits. -/
  few : lengths.length ≤ 4294967296
  /-- Any limit that leaves room for the calls comes to the same. -/
  limited : ∀ attempts, lengths.length ≤ attempts →
    query.fetchFrom recordBytes empty attempts 0 0 = result
  /-- The limit there is leaves room for them. -/
  fetched : query.fetch recordBytes empty = result

theorem Contract.exists_course (h : query.Contract recordBytes) (hbytes : 0 < recordBytes)
    (empty : α) : ∃ lengths result, Course query recordBytes empty lengths result := by
  have hword : 0 < 4294967296 := by decide
  obtain ⟨lengths, result, hends⟩ : ∃ lengths result, Ends query 0 0 lengths result :=
    h.exists_ends hword
  have hfew : lengths.length ≤ 4294967296 := by simpa using hends.length_le h hword
  have hlimited (attempts : Nat) (hattempts : lengths.length ≤ attempts) :=
    hends.fetchFrom_eq h hbytes hword empty hattempts
  exact ⟨lengths, result, {
    ends := fun others other ↦ ⟨hends.unique, by rintro ⟨rfl, rfl⟩; exact hends⟩
    grows := (hends.lengths_grow h hword).1
    few := hfew
    limited := hlimited
    fetched := hlimited attemptLimit (Nat.le_succ_of_le hfew) }⟩

end HostProfile.SizedQuery
