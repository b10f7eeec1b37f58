import HostProfile.CpuInfo
import Mathlib.Algebra.BigOperators.Ring.Finset
import Mathlib.Algebra.Order.BigOperators.Group.Finset
import Mathlib.Algebra.Order.Ring.Nat

/-!
# Cores and sockets

The number of physical cores is a sum over sockets, each of which tells its cores where it is first
mentioned. So it is a sum over the set of the sockets' numbers, of what is found when a number is
looked up (`sum_firstOccurrences`), and the order of the sockets does not enter into it.

The sum is taken in a 64-bit register, which holds it exactly if it is in range
(`physicalCpus_eq_word`) and wraps around otherwise, and as a count it is kept in a 32-bit word. Of
an integer in a word, what is below zero is lost, and so are the multiples of the word size
(`InWord`).
-/

set_option autoImplicit false
set_option relaxedAutoImplicit false

namespace HostProfile.CpuInfo

/-! ### Integers in words -/

/-- A word holds an integer as far as it can: the integer itself, or zero for a negative one, if it
is below the word size, and the remainder otherwise. -/
structure InWord (n : Int) (word : UInt32) : Prop where
  remainder : word.toNat = n.toNat % 4294967296
  fits : n ≤ 4294967295 → (word.toNat : Int) = max 0 n

theorem inWord_word (n : Int) : InWord n (word n) := by
  have hremainder : (word n).toNat = n.toNat % 4294967296 := UInt32.toNat_ofNat'
  refine ⟨hremainder, fun hle ↦ ?_⟩
  rw [hremainder]
  omega

/-! ### First occurrences -/

variable {pairs : List (Int × Int)}

/-- What occurs first is what is found under its first component. -/
theorem mem_firstOccurrences_iff {pair : Int × Int} :
    pair ∈ firstOccurrences pairs ↔ pairs.lookup pair.1 = some pair.2 := by
  induction pairs with
  | nil => simp [firstOccurrences]
  | cons head rest ih =>
    rw [firstOccurrences, List.mem_cons, List.mem_filter, ih, List.lookup_cons]
    by_cases hid : pair.1 = head.1
    · simp [hid, Prod.ext_iff, @eq_comm _ pair.2]
    · have hne : pair ≠ head := fun heq ↦ hid (congrArg Prod.fst heq)
      have hbeq : (pair.1 == head.1) = false := by simpa using hid
      simp [hne, hid, hbeq]

/-- Each first component occurs first once. -/
theorem nodup_firstOccurrences (pairs : List (Int × Int)) :
    ((firstOccurrences pairs).map Prod.fst).Nodup := by
  induction pairs with
  | nil => exact List.nodup_nil
  | cons head rest ih =>
    rw [firstOccurrences, List.map_cons, List.nodup_cons]
    constructor
    · simp
    · exact ih.sublist (List.filter_sublist.map Prod.fst)

theorem toFinset_firstOccurrences (pairs : List (Int × Int)) :
    ((firstOccurrences pairs).map Prod.fst).toFinset = (pairs.map Prod.fst).toFinset := by
  ext id
  simp only [List.mem_toFinset, List.mem_map, mem_firstOccurrences_iff]
  constructor
  · rintro ⟨pair, hpair, rfl⟩
    obtain ⟨found, hfound, heq⟩ := List.lookup_isSome_iff.mp (Option.isSome_of_eq_some hpair)
    exact ⟨found, hfound, (eq_of_beq heq).symm⟩
  · rintro ⟨pair, hpair, rfl⟩
    obtain ⟨second, hsecond⟩ := Option.isSome_iff_exists.mp
      (List.lookup_isSome_iff.mpr ⟨pair, hpair, beq_self_eq_true pair.1⟩)
    exact ⟨(pair.1, second), hsecond, rfl⟩

/-- The second components of the first occurrences add up to a sum over all that occurs as a first
component. -/
theorem sum_firstOccurrences (pairs : List (Int × Int)) :
    ((firstOccurrences pairs).map Prod.snd).sum =
      ∑ id ∈ (pairs.map Prod.fst).toFinset, (pairs.lookup id).getD 0 := by
  have hsecond : (firstOccurrences pairs).map Prod.snd =
      ((firstOccurrences pairs).map Prod.fst).map fun id ↦ (pairs.lookup id).getD 0 := by
    rw [List.map_map]
    apply List.map_congr_left
    intro pair hpair
    show pair.2 = (pairs.lookup pair.1).getD 0
    rw [mem_firstOccurrences_iff.mp hpair, Option.getD_some]
  rw [hsecond, ← List.sum_toFinset _ (nodup_firstOccurrences pairs),
    toFinset_firstOccurrences]

/-! ### Cores -/

/-- The sockets that sections tell, each with its number of cores. -/
def sockets (file : CpuInfo) : List (Int × Int) :=
  file.sections.filterMap Section.socket?

/-- The cores of all sockets, of each as the first section with its number tells them. -/
def coreSum (file : CpuInfo) : Int :=
  ∑ id ∈ (file.sockets.map Prod.fst).toFinset, (file.sockets.lookup id).getD 0

/-- A register that wraps around at every step holds what the integer sum leaves of it. -/
theorem wrappingSum_eq (ns : List Int) : wrappingSum ns = Int64.ofInt ns.sum := by
  have hfold (total : Int64) :
      ns.foldl (fun total n ↦ total + Int64.ofInt n) total = total + Int64.ofInt ns.sum := by
    induction ns generalizing total with
    | nil => simp
    | cons n rest ih => rw [List.foldl_cons, ih, List.sum_cons, Int64.ofInt_add, Int64.add_assoc]
  rw [wrappingSum, hfold, Int64.zero_add]

theorem physicalCpus_eq (file : CpuInfo) :
    file.physicalCpus = word (Int64.ofInt file.coreSum).toInt := by
  rw [physicalCpus, wrappingSum_eq]
  exact congrArg (fun n : Int ↦ word (Int64.ofInt n).toInt) (sum_firstOccurrences file.sockets)

/-- Cores that add up to a 64-bit integer are added up exactly. -/
theorem physicalCpus_eq_word {file : CpuInfo} (h : Text.inInt64Range file.coreSum = true) :
    file.physicalCpus = word file.coreSum := by
  rw [Text.inInt64Range, Bool.and_eq_true, decide_eq_true_eq, decide_eq_true_eq] at h
  have hexact : (Int64.ofInt file.coreSum).toInt = file.coreSum :=
    Int64.toInt_ofInt_of_le h.1 (Int.lt_add_one_of_le h.2)
  rw [physicalCpus_eq, hexact]

end HostProfile.CpuInfo
