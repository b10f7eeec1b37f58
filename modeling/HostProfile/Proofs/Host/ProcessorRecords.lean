import HostProfile.Host.Windows
import HostProfile.Proofs.Host.SizedQuery
import Mathlib.Algebra.Order.Ring.Nat

/-!
# The layout in processor records

From processor records the layout of a host is told in four numbers: its cores, the processors in
their masks, and the sizes of the largest caches of two levels (`Counted`). The order of the records
does not enter.

A Windows host whose query keeps to its contract always comes to a layout or to a failed query: the
loop that asks for the records ends, with all of them and none of the zeroed entries that a buffer
may have beyond them, each of which would count as a core (`processor_records_counted`).
-/

set_option autoImplicit false
set_option relaxedAutoImplicit false

namespace HostProfile.Windows

open SizedQuery

variable {records : List ProcessorRecord}

/-! ### What is counted -/

/-- The number of bits that are set in a mask. -/
def setBits (mask : UInt64) : Nat :=
  (List.range 64).countP fun bit ↦ mask.toNat.testBit bit

/-- The processors of all cores in records. -/
def totalBits (records : List ProcessorRecord) : Nat :=
  ((records.filter fun record ↦ record.relationship = 0).map fun record ↦ setBits record.mask).sum

/-- A size is that of the largest cache of a level in records, or zero if there is none. -/
structure LargestCache (level : UInt8) (records : List ProcessorRecord) (size : Nat) : Prop where
  bound : ∀ record ∈ records, record.relationship = 2 → record.level = level →
    record.size.toNat ≤ size
  reached : size = 0 ∨ ∃ record ∈ records, record.relationship = 2 ∧ record.level = level ∧
    record.size.toNat = size

/-- The number of cores in records. -/
def coreCount (records : List ProcessorRecord) : Nat :=
  records.countP fun record ↦ record.relationship = 0

/-- A layout is what is counted in records, as far as the numbers fit a word. -/
structure Counted (records : List ProcessorRecord) (layout : Topology) : Prop where
  cores : coreCount records < 4294967296 → layout.cores.toNat = coreCount records
  logical : totalBits records < 4294967296 → layout.logical.toNat = totalBits records
  secondLevel : LargestCache 2 records layout.caches.l2.toNat
  thirdLevel : LargestCache 3 records layout.caches.l3.toNat

/-! ### The parts of a tally -/

theorem cpopNatRec_eq_countP {width : Nat} (word : BitVec width) (count : Nat) :
    word.cpopNatRec count 0 = (List.range count).countP fun bit ↦ word.getLsbD bit := by
  induction count with
  | zero => rfl
  | succ count ih =>
    rw [BitVec.cpopNatRec_succ, BitVec.cpopNatRec_add, ih, List.range_succ, List.countP_append,
      List.countP_singleton]
    cases word.getLsbD count <;> rfl

theorem ProcessorRecord.processors_eq (record : ProcessorRecord) :
    record.processors = setBits record.mask := by
  rw [processors, BitVec.toNat_cpop, cpopNatRec_eq_countP]
  rfl

theorem isCache_iff {level : UInt8} {record : ProcessorRecord} :
    record.isCache level = true ↔ record.relationship = 2 ∧ record.level = level := by
  simp [ProcessorRecord.isCache]

theorem largestCache_spec (level : UInt8) (records : List ProcessorRecord) :
    LargestCache level records (largestCache level records) := by
  have hsizes : ∀ size, size ∈ (records.filter (·.isCache level)).map (·.size.toNat) ↔
      ∃ record ∈ records, record.relationship = 2 ∧ record.level = level ∧
        record.size.toNat = size := by
    simp [isCache_iff, and_assoc]
  obtain ⟨hreached, hbound⟩ := List.max?_eq_some_iff.mp
    (show (0 :: (records.filter (·.isCache level)).map (·.size.toNat)).max? =
      some (largestCache level records) from rfl)
  refine ⟨fun record hrecord hcache hlevel ↦ hbound _ (List.mem_cons_of_mem _ ?_), ?_⟩
  · exact (hsizes _).mpr ⟨record, hrecord, hcache, hlevel, rfl⟩
  · exact (List.mem_cons.mp hreached).imp_right (hsizes _).mp

theorem LargestCache.lt {level : UInt8} {size : Nat} (h : LargestCache level records size) :
    size < 4294967296 := by
  obtain rfl | ⟨record, -, -, -, rfl⟩ := h.reached
  · decide
  · exact record.size.toNat_lt

theorem LargestCache.unique {level : UInt8} {size other : Nat}
    (h : LargestCache level records size) (hother : LargestCache level records other) :
    size = other := by
  have hle {first second : Nat} (hfirst : LargestCache level records first)
      (hsecond : LargestCache level records second) : first ≤ second := by
    obtain rfl | ⟨record, hrecord, hcache, hlevel, rfl⟩ := hfirst.reached
    · exact Nat.zero_le second
    · exact hsecond.bound record hrecord hcache hlevel
  exact Nat.le_antisymm (hle h hother) (hle hother h)

theorem LargestCache.perm {level : UInt8} {size : Nat} (h : LargestCache level records size)
    {others : List ProcessorRecord} (hperm : others.Perm records) :
    LargestCache level others size :=
  ⟨fun record hrecord ↦ h.bound record (hperm.mem_iff.mp hrecord),
    h.reached.imp_right fun ⟨record, hrecord, htold⟩ ↦ ⟨record, hperm.mem_iff.mpr hrecord, htold⟩⟩

theorem largestCache_perm (level : UInt8) {others : List ProcessorRecord}
    (hperm : others.Perm records) : largestCache level others = largestCache level records :=
  (largestCache_spec level others).unique ((largestCache_spec level records).perm hperm)

theorem toNat_largestCache (level : UInt8) (records : List ProcessorRecord) :
    (UInt64.ofNat (largestCache level records)).toNat = largestCache level records :=
  UInt64.toNat_ofNat_of_lt' (Nat.lt_trans (largestCache_spec level records).lt (by decide))

theorem length_cores (records : List ProcessorRecord) :
    (records.filter (·.isCore)).length = coreCount records :=
  List.countP_eq_length_filter.symm

theorem sum_processors (records : List ProcessorRecord) :
    ((records.filter (·.isCore)).map (·.processors)).foldr (· + ·) 0 = totalBits records := by
  simp only [ProcessorRecord.processors_eq]
  rfl

/-! ### The tally -/

theorem counted_tally (records : List ProcessorRecord) : Counted records (tally records) where
  cores := fun hlt ↦ by rw [tally, length_cores, UInt32.toNat_ofNat_of_lt' hlt]
  logical := fun hlt ↦ by rw [tally, sum_processors, UInt32.toNat_ofNat_of_lt' hlt]
  secondLevel := (toNat_largestCache 2 records).symm ▸ largestCache_spec 2 records
  thirdLevel := (toNat_largestCache 3 records).symm ▸ largestCache_spec 3 records

/-- The order of the records does not enter. -/
theorem tally_perm {others : List ProcessorRecord} (hperm : others.Perm records) :
    tally others = tally records := by
  have hcores : coreCount others = coreCount records := hperm.countP_eq _
  have hbits : totalBits others = totalBits records := ((hperm.filter _).map _).sum_nat
  rw [tally, tally, length_cores, length_cores, sum_processors, sum_processors, hcores, hbits,
    largestCache_perm 2 hperm, largestCache_perm 3 hperm]

/-! ### The query for the records -/

/-- A layout follows from what the query for the records comes to. -/
structure Laid (result : Except Nat (List ProcessorRecord)) (outcome : Outcome Topology) : Prop where
  /-- A failed query is told with its code, which is not that of a short buffer. -/
  failed : ∀ code, result = .error code → code ≠ tooShortCode ∧
    outcome = .error (.queryFailed "topology"
      ("GetLogicalProcessorInformation error " ++ String.ofList (Text.decimal code)))
  /-- Records are counted; there are not so many that the number of cores would not fit. -/
  counted : ∀ records, result = .ok records → coreCount records < 4294967296 ∧
    ∃ layout, outcome = .ok layout ∧ Counted records layout
  /-- The same records in another order come to the same layout. -/
  unordered : ∀ records, result = .ok records → ∀ (other : SizedQuery ProcessorRecord) lengths
    others, other.Course ProcessorRecord.byteSize .zero lengths (.ok others) →
      others.Perm records → topology other = outcome

section Course

variable {query : SizedQuery ProcessorRecord} {lengths : List Nat}

theorem topology_of_records
    (h : query.Course ProcessorRecord.byteSize .zero lengths (.ok records)) :
    topology query = .ok (tally records) := by
  rw [topology, h.fetched]

theorem topology_of_code {code : Nat}
    (h : query.Course ProcessorRecord.byteSize .zero lengths (.error code)) :
    topology query = .error (.queryFailed "topology"
      ("GetLogicalProcessorInformation error " ++ String.ofList (Text.decimal code))) := by
  rw [topology, h.fetched]

end Course

/-- A query that keeps to its contract is called until it comes to an end, with all records of the
call that succeeds and nothing else, and the layout is what is counted in these. -/
theorem processor_records_counted (query : SizedQuery ProcessorRecord)
    (h : query.Contract ProcessorRecord.byteSize) :
    ∃ lengths result, query.Course ProcessorRecord.byteSize .zero lengths result ∧
      Laid result (topology query) := by
  obtain ⟨lengths, result, hcourse⟩ := h.exists_course (by decide) ProcessorRecord.zero
  have hends : query.Ends 0 0 lengths result := (hcourse.ends lengths result).mpr ⟨rfl, rfl⟩
  obtain ⟨hcode, hroom⟩ := hends.result_spec h (by decide)
  refine ⟨lengths, result, hcourse, ?_, ?_, ?_⟩
  · rintro code rfl
    exact ⟨hcode code rfl, topology_of_code hcourse⟩
  · rintro records rfl
    have hle : coreCount records ≤ records.length := List.countP_le_length
    have hlt : 32 * records.length < 4294967296 := hroom records rfl
    exact ⟨by omega, tally records, topology_of_records hcourse, counted_tally records⟩
  · rintro records rfl other othersLengths others hother hperm
    rw [topology_of_records hcourse, topology_of_records hother, tally_perm hperm]

/-- Between two calls a cache goes away, so that the buffer has room for a record more than there
are. -/
theorem processor_records_counted_shrunk :
    let core : ProcessorRecord := ⟨0, 3, 0, 0⟩
    let cache : ProcessorRecord := ⟨2, 3, 2, 262144⟩
    let query := ofReplies ProcessorRecord.byteSize fun calls ↦
      .ok (if calls = 0 then [core, cache, cache] else [cache, core])
    query.Contract ProcessorRecord.byteSize ∧
      query.Course ProcessorRecord.byteSize .zero [0, 96] (.ok [cache, core]) ∧
      topology query = .ok ⟨1, 2, ⟨262144, 0⟩⟩ := by
  intro core cache query
  have hcontract : query.Contract ProcessorRecord.byteSize := by
    refine contract_ofReplies (fun calls code hreply ↦ by cases hreply) ?_
    rintro calls records ⟨⟩
    split <;> decide
  have hends : query.Ends 0 0 [0, 96] (.ok [cache, core]) := .again rfl (.filled rfl)
  obtain ⟨lengths, result, hcourse, -⟩ := processor_records_counted query hcontract
  obtain ⟨rfl, rfl⟩ := (hcourse.ends _ _).mp hends
  have htally : tally [cache, core] = ⟨1, 2, ⟨262144, 0⟩⟩ := by decide +kernel
  exact ⟨hcontract, hcourse, htally ▸ topology_of_records hcourse⟩

end HostProfile.Windows
