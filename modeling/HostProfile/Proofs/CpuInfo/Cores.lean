import HostProfile.Proofs.CpuInfo.Sockets
import Mathlib.Data.List.Perm.Subperm

/-!
# Counting cores and processors

The cores of a file are a sum over the set of its sockets. So where the sections of a socket agree
on its cores, neither the order nor the number of the sections matters
(`physicalCpus_eq_of_mem_iff`), and where no socket has more cores than sections, there are no more
cores than processors (`Ample.physicalCpus_le`). A file that lists packages, with one section for
each thread, has their cores and their threads (`Lists.physicalCpus`, `Lists.logicalCpus`).

Sections are added up one after the other, and a sum of some sockets is never larger than the sum of
the cores of all sections (`natAbs_coreSum_le`).
-/

set_option autoImplicit false
set_option relaxedAutoImplicit false

namespace HostProfile.CpuInfo

variable {file other : CpuInfo} {architecture : Architecture}

/-- The cores that all sections tell, added up as positive numbers. -/
def toldCores (file : CpuInfo) : Nat :=
  ((file.sections.filterMap (·.int? "cpu cores")).map Int.natAbs).sum

/-- The number of sections that tell a socket. -/
def population (file : CpuInfo) (id : Int) : Nat :=
  (file.sockets.map Prod.fst).count id

/-- Sections that tell the same socket tell the same number of cores. -/
def Agreeing (file : CpuInfo) : Prop :=
  ∀ first ∈ file.sockets, ∀ second ∈ file.sockets, first.1 = second.1 → first.2 = second.2

/-- A file with enough processors for its cores. -/
structure Ample (file : CpuInfo) (architecture : Architecture) : Prop where
  /-- No socket has more cores than sections. -/
  covered : ∀ socket ∈ file.sockets, socket.2 ≤ file.population socket.1
  /-- On ARM the sections that tell a socket have a processor number. -/
  numbered : architecture = .arm → ∀ s ∈ file.sections, s.socket?.isSome = true →
    s.contains "processor" = true
  /-- The sections can be counted in a word. -/
  few : file.sections.length < 4294967296

/-- A processor package: the number of its socket, its cores, and the threads of each core. -/
structure Package where
  id : Int
  cores : Nat
  threads : Nat

/-- What the sections of a package tell, one for each thread. -/
def Package.entries (package : Package) : List (Option (Int × Int)) :=
  List.replicate (package.cores * package.threads) (some (package.id, (package.cores : Int)))

/-- A file that lists packages: it has one section for each thread, in any order. -/
structure Lists (file : CpuInfo) (packages : List Package) : Prop where
  /-- Every section has a processor number. -/
  numbered : ∀ s ∈ file.sections, s.contains "processor" = true
  sections : (file.sections.map Section.socket?).Perm (packages.flatMap Package.entries)
  distinct : (packages.map Package.id).Nodup
  /-- Packages have a core, and cores have a thread. -/
  inhabited : ∀ package ∈ packages, 1 ≤ package.cores ∧ 1 ≤ package.threads

/-! ### Sockets -/

theorem mem_sockets_iff {socket : Int × Int} :
    socket ∈ file.sockets ↔ ∃ s ∈ file.sections,
      s.int? "physical id" = some socket.1 ∧ s.int? "cpu cores" = some socket.2 := by
  simp only [sockets, Section.socket?, List.mem_filterMap, Option.bind_eq_some_iff,
    Option.map_eq_some_iff]
  constructor
  · rintro ⟨s, hs, id, hid, cores, hcores, rfl⟩
    exact ⟨s, hs, hid, hcores⟩
  · rintro ⟨s, hs, hid, hcores⟩
    exact ⟨s, hs, _, hid, _, hcores, rfl⟩

theorem mem_sockets_of_lookup {id cores : Int} (h : file.sockets.lookup id = some cores) :
    (id, cores) ∈ file.sockets := by
  obtain ⟨before, after, heq, -⟩ := List.lookup_eq_some_iff.mp h
  simp [heq]

/-- Where the sections agree, any of them tells the cores of its socket. -/
theorem lookup_eq_some_iff (h : file.Agreeing) {id cores : Int} :
    file.sockets.lookup id = some cores ↔ (id, cores) ∈ file.sockets := by
  refine ⟨mem_sockets_of_lookup, fun hmem ↦ ?_⟩
  obtain ⟨found, hfound⟩ := Option.isSome_iff_exists.mp
    (List.lookup_isSome_iff.mpr ⟨_, hmem, beq_self_eq_true id⟩)
  have hagree : found = cores := h _ (mem_sockets_of_lookup hfound) _ hmem rfl
  rw [hfound, hagree]

/-- The cores do not depend on the order in which the sections stand or on how often they do. -/
theorem coreSum_eq_of_mem_iff (h : file.Agreeing)
    (hmem : ∀ s, s ∈ other.sections ↔ s ∈ file.sections) : other.coreSum = file.coreSum := by
  have hsockets (socket : Int × Int) : socket ∈ other.sockets ↔ socket ∈ file.sockets := by
    simp only [mem_sockets_iff, hmem]
  have hother : other.Agreeing := fun first hfirst second hsecond ↦
    h first ((hsockets first).mp hfirst) second ((hsockets second).mp hsecond)
  have hids : (other.sockets.map Prod.fst).toFinset = (file.sockets.map Prod.fst).toFinset := by
    ext id
    simp only [List.mem_toFinset, List.mem_map, hsockets]
  have hlookup (id : Int) : other.sockets.lookup id = file.sockets.lookup id := by
    ext cores
    rw [lookup_eq_some_iff hother, lookup_eq_some_iff h, hsockets]
  rw [coreSum, coreSum, hids]
  exact Finset.sum_congr rfl fun id _ ↦ by rw [hlookup]

theorem physicalCpus_eq_of_mem_iff (h : file.Agreeing)
    (hmem : ∀ s, s ∈ other.sections ↔ s ∈ file.sections) :
    other.physicalCpus = file.physicalCpus := by
  rw [physicalCpus_eq, physicalCpus_eq, coreSum_eq_of_mem_iff h hmem]

/-! ### Bounds -/

theorem sum_sockets_le_toldCores (file : CpuInfo) :
    (file.sockets.map (·.2.natAbs)).sum ≤ file.toldCores := by
  unfold sockets toldCores
  induction file.sections with
  | nil => exact le_rfl
  | cons s rest ih =>
    cases hid : s.int? "physical id" <;> cases hcores : s.int? "cpu cores" <;>
      simp [Section.socket?, hid, hcores] <;> omega

/-- The cores of some of the sections add up to no more than all sections tell. -/
theorem natAbs_coreSum_le (h : other.sections ⊆ file.sections) :
    other.coreSum.natAbs ≤ file.toldCores := by
  have hsub : (firstOccurrences other.sockets).Subperm file.sockets := by
    refine List.subperm_of_subset (nodup_firstOccurrences _).of_map fun socket hsocket ↦ ?_
    obtain ⟨s, hs, htold⟩ :=
      mem_sockets_iff.mp (mem_sockets_of_lookup (mem_firstOccurrences_iff.mp hsocket))
    exact mem_sockets_iff.mpr ⟨s, h hs, htold⟩
  -- Each socket counts once, so the sections that count are some of those of the file.
  obtain ⟨kept, hperm, hsublist⟩ := hsub
  calc other.coreSum.natAbs
      = ((firstOccurrences other.sockets).map Prod.snd).sum.natAbs := by
        rw [sum_firstOccurrences, coreSum]
    _ ≤ (((firstOccurrences other.sockets).map Prod.snd).map Int.natAbs).sum :=
        List.le_sum_of_subadditive Int.natAbs le_rfl Int.natAbs_add_le _
    _ = (kept.map (·.2.natAbs)).sum := by
        rw [List.map_map]
        exact (hperm.map _).sum_eq.symm
    _ ≤ (file.sockets.map (·.2.natAbs)).sum := (hsublist.map _).sum_le_sum fun _ _ ↦ Nat.zero_le _
    _ ≤ file.toldCores := file.sum_sockets_le_toldCores

theorem coreSum_le_length (h : ∀ socket ∈ file.sockets, socket.2 ≤ file.population socket.1) :
    file.coreSum ≤ file.sockets.length := by
  have hle : ∀ id ∈ (file.sockets.map Prod.fst).toFinset,
      (file.sockets.lookup id).getD 0 ≤ (file.population id : Int) := by
    intro id _
    cases hlookup : file.sockets.lookup id with
    | none => exact Int.natCast_nonneg _
    | some cores => exact h _ (mem_sockets_of_lookup hlookup)
  calc file.coreSum
      ≤ ∑ id ∈ (file.sockets.map Prod.fst).toFinset, (file.population id : Int) :=
        Finset.sum_le_sum hle
    _ = ((∑ id ∈ (file.sockets.map Prod.fst).toFinset, file.population id : Nat) : Int) :=
        (Nat.cast_sum _ _).symm
    _ = file.sockets.length := by
        unfold population
        rw [List.sum_toFinset_count_eq_length, List.length_map]

/-! ### Processors -/

/-- The sections that count as processors. -/
def processors (file : CpuInfo) : Architecture → List Section
  | .arm => file.sections.filter (·.contains "processor")
  | .x86 | .x64 => file.sections

theorem processors_sublist (file : CpuInfo) (architecture : Architecture) :
    (file.processors architecture).Sublist file.sections := by
  cases architecture with
  | arm => exact List.filter_sublist
  | x86 | x64 => exact List.Sublist.refl _

theorem logicalCpus_eq (file : CpuInfo) (architecture : Architecture) :
    file.logicalCpus architecture = UInt32.ofNat (file.processors architecture).length := by
  cases architecture <;> rfl

theorem toNat_logicalCpus (h : file.sections.length < 4294967296) (architecture : Architecture) :
    (file.logicalCpus architecture).toNat = (file.processors architecture).length := by
  rw [logicalCpus_eq]
  exact UInt32.toNat_ofNat_of_lt' ((file.processors_sublist architecture).length_le.trans_lt h)

/-- A processor tells every socket. -/
theorem Ample.length_sockets_le (h : file.Ample architecture) :
    file.sockets.length ≤ (file.processors architecture).length := by
  have hsockets : file.sockets = (file.processors architecture).filterMap Section.socket? := by
    cases architecture with
    | x86 | x64 => rfl
    | arm =>
      rw [sockets, processors, List.filterMap_filter]
      refine List.filterMap_congr fun s hs ↦ ?_
      split
      · rfl
      · rename_i hnumber
        rw [← Option.not_isSome_iff_eq_none]
        exact fun htold ↦ hnumber (h.numbered rfl s hs htold)
  rw [hsockets]
  exact List.length_filterMap_le _ _

/-- The sections bound the sum from above, so it is exact unless negative numbers of cores take it
below the 64-bit integers. -/
theorem Ample.toNat_physicalCpus (h : file.Ample architecture)
    (hlow : -9223372036854775808 ≤ file.coreSum) :
    (file.physicalCpus.toNat : Int) = max 0 file.coreSum := by
  have hle := coreSum_le_length h.covered
  have hsockets := h.length_sockets_le
  have hsections := (file.processors_sublist architecture).length_le
  have hfew := h.few
  have hrange : Text.inInt64Range file.coreSum = true := by
    rw [Text.inInt64Range, Bool.and_eq_true, decide_eq_true_eq, decide_eq_true_eq]
    omega
  rw [physicalCpus_eq_word hrange]
  exact (inWord_word _).fits (by omega)

/-- With enough processors for its cores, a file has no more cores than processors. -/
theorem Ample.physicalCpus_le (h : file.Ample architecture)
    (hlow : -9223372036854775808 ≤ file.coreSum) :
    file.physicalCpus ≤ file.logicalCpus architecture := by
  have hle := coreSum_le_length h.covered
  have hsockets := h.length_sockets_le
  have hphysical := h.toNat_physicalCpus hlow
  rw [UInt32.le_iff_toNat_le, toNat_logicalCpus h.few]
  omega

/-! ### Packages -/

namespace Lists

variable {packages : List Package}

theorem sockets_perm (h : file.Lists packages) :
    file.sockets.Perm (packages.flatMap fun package ↦
      List.replicate (package.cores * package.threads) (package.id, (package.cores : Int))) := by
  have hperm := h.sections.filterMap id
  rw [List.filterMap_map, List.filterMap_flatMap] at hperm
  simpa [Package.entries, sockets] using hperm

theorem mem_sockets (h : file.Lists packages) {package : Package} (hmem : package ∈ packages) :
    (package.id, (package.cores : Int)) ∈ file.sockets := by
  obtain ⟨hcores, hthreads⟩ := h.inhabited package hmem
  have hthread : package.cores * package.threads ≠ 0 := Nat.mul_ne_zero (by omega) (by omega)
  rw [h.sockets_perm.mem_iff, List.mem_flatMap]
  exact ⟨package, hmem, List.mem_replicate.mpr ⟨hthread, rfl⟩⟩

theorem exists_package (h : file.Lists packages) {socket : Int × Int}
    (hmem : socket ∈ file.sockets) :
    ∃ package ∈ packages, socket = (package.id, (package.cores : Int)) := by
  rw [h.sockets_perm.mem_iff, List.mem_flatMap] at hmem
  obtain ⟨package, hpackage, hsocket⟩ := hmem
  exact ⟨package, hpackage, (List.mem_replicate.mp hsocket).2⟩

theorem agreeing (h : file.Lists packages) : file.Agreeing := by
  intro first hfirst second hsecond hid
  obtain ⟨package, hpackage, rfl⟩ := h.exists_package hfirst
  obtain ⟨other, hother, rfl⟩ := h.exists_package hsecond
  rw [List.inj_on_of_nodup_map h.distinct hpackage hother hid]

/-- A package has a section for each of its threads. -/
theorem threads_le_population (h : file.Lists packages) {package : Package}
    (hmem : package ∈ packages) :
    package.cores * package.threads ≤ file.population package.id := by
  have hsublist : (List.replicate (package.cores * package.threads)
      (package.id, (package.cores : Int))).Sublist (packages.flatMap fun package ↦
        List.replicate (package.cores * package.threads) (package.id, (package.cores : Int))) :=
    List.sublist_flatten_of_mem (List.mem_map_of_mem hmem)
  calc package.cores * package.threads
      = (List.replicate (package.cores * package.threads) package.id).count package.id :=
        List.count_replicate_self.symm
    _ ≤ _ := by
        have hcount := (hsublist.map Prod.fst).count_le package.id
        rwa [List.map_replicate] at hcount
    _ = file.population package.id := ((h.sockets_perm.map Prod.fst).count_eq package.id).symm

theorem ample (h : file.Lists packages) (hfew : file.sections.length < 4294967296)
    (architecture : Architecture) : file.Ample architecture where
  covered := by
    intro socket hsocket
    obtain ⟨package, hpackage, rfl⟩ := h.exists_package hsocket
    have hthread := Nat.le_mul_of_pos_right package.cores (h.inhabited package hpackage).2
    exact Int.ofNat_le.mpr (hthread.trans (h.threads_le_population hpackage))
  numbered := fun _ s hs _ ↦ h.numbered s hs
  few := hfew

/-- The sections are the threads of the packages. -/
theorem length_sections (h : file.Lists packages) :
    file.sections.length = (packages.map fun package ↦ package.cores * package.threads).sum := by
  have hlength := h.sections.length_eq
  rw [List.length_map, List.length_flatMap] at hlength
  simpa [Package.entries] using hlength

theorem processors_eq (h : file.Lists packages) (architecture : Architecture) :
    file.processors architecture = file.sections := by
  cases architecture with
  | x86 | x64 => rfl
  | arm => exact List.filter_eq_self.mpr h.numbered

theorem logicalCpus (h : file.Lists packages) (hfew : file.sections.length < 4294967296)
    (architecture : Architecture) : (file.logicalCpus architecture).toNat =
      (packages.map fun package ↦ package.cores * package.threads).sum := by
  rw [toNat_logicalCpus hfew, h.processors_eq, h.length_sections]

theorem coreSum_eq (h : file.Lists packages) :
    file.coreSum = ((packages.map Package.cores).sum : Nat) := by
  have hids : (file.sockets.map Prod.fst).toFinset = (packages.map Package.id).toFinset := by
    ext id
    simp only [List.mem_toFinset, List.mem_map]
    constructor
    · rintro ⟨socket, hsocket, rfl⟩
      obtain ⟨package, hpackage, rfl⟩ := h.exists_package hsocket
      exact ⟨package, hpackage, rfl⟩
    · rintro ⟨package, hpackage, rfl⟩
      exact ⟨_, h.mem_sockets hpackage, rfl⟩
  have hcores : packages.map (fun package ↦ (file.sockets.lookup package.id).getD 0) =
      packages.map fun package ↦ (package.cores : Int) := by
    apply List.map_congr_left
    intro package hpackage
    rw [(lookup_eq_some_iff h.agreeing).mpr (h.mem_sockets hpackage), Option.getD_some]
  rw [coreSum, hids, List.sum_toFinset _ h.distinct, List.map_map]
  change (packages.map fun package ↦ (file.sockets.lookup package.id).getD 0).sum = _
  rw [hcores, Nat.cast_list_sum, List.map_map]
  rfl

theorem physicalCpus (h : file.Lists packages) (hfew : file.sections.length < 4294967296) :
    file.physicalCpus.toNat = (packages.map Package.cores).sum := by
  have hsum := h.coreSum_eq
  have hphysical := (h.ample hfew .x64).toNat_physicalCpus (by omega)
  omega

end Lists

/-! ### The counts of a file -/

/-- What there is to know of the counts of a file. -/
structure Counted (file : CpuInfo) : Prop where
  /-- Sums of cores stay within the range of 64-bit integers, also of a part of the sections. -/
  exact : ∀ other : CpuInfo, other.sections ⊆ file.sections →
    other.coreSum.natAbs ≤ 9223372036854775807
  /-- The order of the sections does not matter where they agree. -/
  permuted : file.Agreeing → ∀ other : CpuInfo, other.sections.Perm file.sections →
    other.physicalCpus = file.physicalCpus
  /-- Nor does it matter if a section is repeated anywhere. -/
  repeated : file.Agreeing → ∀ before after s, file.sections = before ++ after →
    s ∈ file.sections → physicalCpus ⟨before ++ s :: after⟩ = file.physicalCpus
  /-- There are no more cores than processors where there are enough sections for them. -/
  covered : ∀ architecture, file.Ample architecture →
    file.physicalCpus ≤ file.logicalCpus architecture
  /-- A file that lists packages has their cores and their threads, and enough of these. -/
  listed : ∀ packages, file.Lists packages → file.sections.length < 4294967296 →
    file.Agreeing ∧ ∀ architecture, file.Ample architecture ∧
      file.physicalCpus.toNat = (packages.map Package.cores).sum ∧
      (file.logicalCpus architecture).toNat =
        (packages.map fun package ↦ package.cores * package.threads).sum

theorem coreSum_ge_of_toldCores_le (h : file.toldCores ≤ 9223372036854775807) :
    -9223372036854775808 ≤ file.coreSum := by
  have habs := (natAbs_coreSum_le (List.Subset.refl file.sections)).trans h
  omega

theorem counted_of_toldCores_le (h : file.toldCores ≤ 9223372036854775807) : file.Counted where
  exact := fun _ hother ↦ (natAbs_coreSum_le hother).trans h
  permuted := fun hagree _ hperm ↦ physicalCpus_eq_of_mem_iff hagree fun _ ↦ hperm.mem_iff
  repeated := by
    intro hagree before after s hsections hs
    refine physicalCpus_eq_of_mem_iff hagree fun other ↦ ?_
    rw [hsections] at hs ⊢
    simp only [List.mem_append, List.mem_cons] at hs ⊢
    constructor
    · rintro (hother | rfl | hother)
      · exact .inl hother
      · exact hs
      · exact .inr hother
    · rintro (hother | hother)
      · exact .inl hother
      · exact .inr (.inr hother)
  covered := fun _ hample ↦ hample.physicalCpus_le (coreSum_ge_of_toldCores_le h)
  listed := by
    intro packages hlists hfew
    refine ⟨hlists.agreeing, fun architecture ↦ ⟨hlists.ample hfew architecture, ?_, ?_⟩⟩
    · exact hlists.physicalCpus hfew
    · exact hlists.logicalCpus hfew architecture

end HostProfile.CpuInfo
