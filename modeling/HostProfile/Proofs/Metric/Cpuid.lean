import HostProfile.Proofs.Metric.Mirror
import HostProfile.Proofs.Probing.Exchange

/-!
# The identification instruction

The leaves of the identification instruction come in two ranges, and the first leaf of a range tells
how far it goes. Exchanges are `Guarded` if no other leaf is asked for than the four that are
needed, and the second leaf of a range only right after the first one told that it exists. Three
probes ask the instruction, and each of them is guarded (`guarded_questions`); on an architecture
without it they do not ask (`not_isCpuid_of_hasCpuid`), so hosts that differ in what it answers are
the same to every chain there (`find_congr_of_hasCpuid`).

Probes tell the two architectures with the instruction apart in nothing, so every metric is found by
the same computation on both (`find_x86_eq_x64`).
-/

set_option autoImplicit false
set_option relaxedAutoImplicit false

namespace HostProfile

variable {α : Type}

/-- A question to the identification instruction. -/
def Query.IsCpuid (query : Query) : Prop :=
  ∃ leaf, query = .cpuid leaf

theorem Query.IsCpuid.owner_eq {query : Query} (h : query.IsCpuid) : query.owner = "cpuid" := by
  obtain ⟨leaf, rfl⟩ := h
  rfl

/-! ### Exchanges in order -/

namespace Exchange

/-- A leaf is asked for only right after the first leaf of its range, which told that the range
goes so far. -/
def AskedAfter (first leaf : UInt32) (exchanges : List Exchange) : Prop :=
  ∀ before outcome after, exchanges = before ++ ⟨.cpuid leaf, outcome⟩ :: after →
    ∃ registers, before.getLast? = some ⟨.cpuid first, .ok registers⟩ ∧ leaf ≤ registers.eax

/-- The identification instruction is asked for four leaves only, and for two of these only where
they are known to exist. -/
structure Guarded (exchanges : List Exchange) : Prop where
  leaf : ∀ leaf outcome, ⟨.cpuid leaf, outcome⟩ ∈ exchanges →
    leaf = 0 ∨ leaf = 1 ∨ leaf = 0x80000000 ∨ leaf = 0x80000006
  version : AskedAfter 0 1 exchanges
  secondLevelCache : AskedAfter 0x80000000 0x80000006 exchanges

variable {first leaf : UInt32} {exchanges : List Exchange}

theorem askedAfter_of_notMem (h : ∀ outcome, ⟨.cpuid leaf, outcome⟩ ∉ exchanges) :
    AskedAfter first leaf exchanges := by
  rintro before outcome after rfl
  exact absurd (by simp) (h outcome)

theorem askedAfter_pair {registers : Registers} (hne : first ≠ leaf)
    (hle : leaf ≤ registers.eax) (outcome : Outcome Registers) :
    AskedAfter first leaf [⟨.cpuid first, .ok registers⟩, ⟨.cpuid leaf, outcome⟩] := by
  intro before other after h
  rcases before with _ | ⟨one, _ | ⟨two, rest⟩⟩
  · simp [hne] at h
  · simp only [List.cons_append, List.nil_append, List.cons.injEq] at h
    exact ⟨registers, by rw [← h.1]; rfl, hle⟩
  · simp at h

/-- Exchanges without the identification instruction are in order. -/
theorem guarded_of_no_cpuid (h : ∀ exchange ∈ exchanges, ¬ exchange.1.IsCpuid) :
    Guarded exchanges := by
  have hnone (leaf : UInt32) (outcome : Outcome Registers) :
      (⟨.cpuid leaf, outcome⟩ : Exchange) ∉ exchanges :=
    fun hmem ↦ h _ hmem ⟨leaf, rfl⟩
  exact {
    leaf := fun leaf outcome hmem ↦ absurd hmem (hnone leaf outcome)
    version := askedAfter_of_notMem (hnone 1)
    secondLevelCache := askedAfter_of_notMem (hnone 0x80000006) }

/-- The first leaf of a range may be asked for at any time. -/
theorem guarded_singleton (h : leaf = 0 ∨ leaf = 0x80000000) (outcome : Outcome Registers) :
    Guarded [⟨.cpuid leaf, outcome⟩] := by
  rcases h with rfl | rfl <;>
    exact ⟨by simp, askedAfter_of_notMem (by simp), askedAfter_of_notMem (by simp)⟩

theorem leaf_of_mem_pair {asked : UInt32} {answer firstAnswer leafAnswer : Outcome Registers}
    (h : (⟨.cpuid asked, answer⟩ : Exchange) ∈
      [⟨.cpuid first, firstAnswer⟩, ⟨.cpuid leaf, leafAnswer⟩]) :
    asked = first ∨ asked = leaf := by
  simp only [List.mem_cons, List.not_mem_nil, or_false, Sigma.mk.injEq, Query.cpuid.injEq] at h
  exact h.imp And.left And.left

/-- The second of two leaves may be asked for where the first tells that it exists. -/
theorem guarded_pair {registers : Registers}
    (h : first = 0 ∧ leaf = 1 ∨ first = 0x80000000 ∧ leaf = 0x80000006)
    (hle : leaf ≤ registers.eax) (outcome : Outcome Registers) :
    Guarded [⟨.cpuid first, .ok registers⟩, ⟨.cpuid leaf, outcome⟩] := by
  obtain ⟨rfl, rfl⟩ | ⟨rfl, rfl⟩ := h
  · exact {
      leaf := fun asked answer hmem ↦ by
        obtain rfl | rfl := leaf_of_mem_pair hmem <;> simp
      version := askedAfter_pair (by decide) hle outcome
      secondLevelCache := askedAfter_of_notMem (by simp) }
  · exact {
      leaf := fun asked answer hmem ↦ by
        obtain rfl | rfl := leaf_of_mem_pair hmem <;> simp
      version := askedAfter_of_notMem (by simp)
      secondLevelCache := askedAfter_pair (by decide) hle outcome }

end Exchange

/-- Architectures that are the same to the probes of a list are the same to the list. -/
theorem Chain.firstUsable_congr (metric : String) (usable : α → Bool) (config : Config)
    {first second : Architecture} {probes : List (Probe α)}
    (h : ∀ probe ∈ probes, probe.attempt first = probe.attempt second) :
    firstUsable metric usable config first probes =
      firstUsable metric usable config second probes := by
  induction probes with
  | nil => rfl
  | cons probe rest ih =>
    rw [List.forall_mem_cons] at h
    rw [firstUsable, firstUsable, h.1, ih h.2]

/-! ### What the probes ask -/

namespace Metric

open Exchange

variable (architecture : Architecture) (source : Source)

theorem calls_bind_pure {α β : Type} (attempt : Attempt α) (f : α → β) :
    (attempt >>= fun a ↦ pure (f a)).run.calls source = attempt.run.calls source := by
  rw [ExceptT.run_bind, Probing.calls_bind]
  cases attempt.run.value source with
  | ok a => exact List.append_nil _
  | error error => exact List.append_nil _

theorem calls_cpuid (leaf : UInt32) :
    (cpuid architecture leaf).run.calls source =
      if architecture.hasCpuid then [.cpuid leaf] else [] := by
  unfold cpuid
  split <;> rfl

theorem value_cpuid (leaf : UInt32) :
    (cpuid architecture leaf).run.value source =
      if architecture.hasCpuid then source (.cpuid leaf) else .error .unavailable := by
  unfold cpuid
  split <;> rfl

/-- A leaf is asked for after the first leaf of its range, and only if the range goes so far. -/
theorem calls_coveredLeaf (first leaf : UInt32) :
    (coveredLeaf architecture first leaf).run.calls source =
      if architecture.hasCpuid then
        match source (.cpuid first) with
        | .ok registers =>
          if registers.eax < leaf then [.cpuid first] else [.cpuid first, .cpuid leaf]
        | .error _ => [.cpuid first]
      else [] := by
  rw [coveredLeaf, ExceptT.run_bind, Probing.calls_bind, calls_cpuid, value_cpuid]
  cases hcpuid : architecture.hasCpuid with
  | false => rfl
  | true =>
    simp only [if_true]
    cases source (.cpuid first) with
    | error error => rfl
    | ok registers =>
      dsimp only
      split
      · rfl
      · simp [calls_cpuid, hcpuid]

/-- A leaf and the first leaf of its range are asked for in order. -/
theorem guarded_coveredLeaf {first leaf : UInt32}
    (h : first = 0 ∧ leaf = 1 ∨ first = 0x80000000 ∧ leaf = 0x80000006) :
    Guarded (((coveredLeaf architecture first leaf).run.calls source).map source.exchange) := by
  have hfirst : first = 0 ∨ first = 0x80000000 := h.imp And.left And.left
  have hsingle := guarded_singleton hfirst (source (.cpuid first))
  rw [calls_coveredLeaf]
  cases architecture.hasCpuid with
  | false => exact guarded_of_no_cpuid (by simp)
  | true =>
    simp only [if_true]
    cases hanswer : source (.cpuid first) with
    | error error => exact hsingle
    | ok registers =>
      dsimp only
      by_cases hshort : registers.eax < leaf
      · rw [if_pos hshort]
        exact hsingle
      · rw [if_neg hshort]
        have hpair := guarded_pair h (UInt32.not_lt.mp hshort) (source (.cpuid leaf))
        rw [← hanswer] at hpair
        exact hpair

namespace Kind

variable {kind : Kind} {probe : Probe kind.Found}

/-- Every probe of a chain keeps to an entry of the agenda. -/
theorem exists_entry (h : probe ∈ kind.chain.probes) :
    ∃ entry ∈ kind.agenda, probe.Keeps entry := by
  have hkeeps := keeps_agenda kind
  generalize kind.chain.probes = probes at h hkeeps
  generalize kind.agenda = entries at hkeeps
  induction hkeeps with
  | nil => contradiction
  | cons hhead _ ih =>
    rw [List.mem_cons] at h
    rcases h with rfl | h
    · exact ⟨_, List.mem_cons_self, hhead⟩
    · obtain ⟨entry, hentry, hkeep⟩ := ih h
      exact ⟨entry, List.mem_cons_of_mem _ hentry, hkeep⟩

/-- A probe asks nothing twice. -/
theorem nodup_questions_probe (h : probe ∈ kind.chain.probes) :
    (probe.questions architecture source).Nodup := by
  obtain ⟨entry, hentry, hkeeps⟩ := exists_entry h
  have hnodup := (List.nodup_flatMap.mp kind.nodup_questions).1 entry hentry
  exact hnodup.sublist ((hkeeps.follows architecture).calls source)

/-- Only the probes named after the identification instruction ask it. -/
theorem not_isCpuid_of_name (h : probe ∈ kind.chain.probes) (hname : probe.name ≠ "cpuid")
    {query : Query} (hquery : query ∈ probe.questions architecture source) :
    ¬ query.IsCpuid := by
  obtain ⟨entry, hentry, hkeeps⟩ := exists_entry h
  intro hcpuid
  have howner := hkeeps.owner_of_mem_questions (fun q hq ↦ owner_of_mem_agenda hentry hq) hquery
  exact hname (howner.symm.trans hcpuid.owner_eq)

/-- A probe that is named after the identification instruction asks for the first leaf of a range,
or for this and a leaf that it covers. -/
theorem questions_of_name (h : probe ∈ kind.chain.probes) (hname : probe.name = "cpuid") :
    probe.questions architecture source = (cpuid architecture 0).run.calls source ∨
      ∃ first leaf, (first = 0 ∧ leaf = 1 ∨ first = 0x80000000 ∧ leaf = 0x80000006) ∧
        probe.questions architecture source =
          (coveredLeaf architecture first leaf).run.calls source := by
  cases kind with
  | vendor =>
    simp only [chain, vendorChain, List.mem_cons, List.not_mem_nil, or_false] at h
    obtain rfl | rfl := h
    · left
      exact calls_bind_pure _ _ _
    · exact absurd hname (by decide)
  | signature =>
    simp only [chain, Metric.signature, List.mem_cons, List.not_mem_nil, or_false] at h
    obtain rfl | rfl | rfl | rfl := h
    · right
      exact ⟨0, 1, .inl ⟨rfl, rfl⟩, calls_bind_pure _ _ _⟩
    all_goals exact absurd hname (by decide)
  | cacheSize =>
    simp only [chain, cacheLevels, List.mem_cons, List.not_mem_nil, or_false] at h
    obtain rfl | rfl | rfl | rfl := h
    · exact absurd hname (by decide)
    · exact absurd hname (by decide)
    · exact absurd hname (by decide)
    · right
      exact ⟨0x80000000, 0x80000006, .inr ⟨rfl, rfl⟩, calls_bind_pure _ _ _⟩
  | logicalCpus | physicalCpus | currentCpus | maxSpeed | currentSpeed | memory | model
  | adapter =>
    exact absurd (List.mem_map.mpr ⟨probe, h, hname⟩) (by decide)

/-- What a probe exchanges about the identification instruction is in order. -/
theorem guarded_questions (h : probe ∈ kind.chain.probes) :
    Guarded ((probe.questions architecture source).map source.exchange) := by
  by_cases hname : probe.name = "cpuid"
  · obtain hquestions | ⟨first, leaf, hleaves, hquestions⟩ :=
      questions_of_name architecture source h hname
    · rw [hquestions, calls_cpuid]
      cases architecture.hasCpuid with
      | false => exact guarded_of_no_cpuid (by simp)
      | true => exact guarded_singleton (.inl rfl) _
    · rw [hquestions]
      exact guarded_coveredLeaf architecture source hleaves
  · refine guarded_of_no_cpuid fun exchange hmem ↦ ?_
    obtain ⟨query, hquery, rfl⟩ := List.mem_map.mp hmem
    exact not_isCpuid_of_name architecture source h hname hquery

/-- On an architecture without the identification instruction no probe asks it. -/
theorem not_isCpuid_of_hasCpuid (h : probe ∈ kind.chain.probes)
    (harchitecture : architecture.hasCpuid = false) {query : Query}
    (hquery : query ∈ probe.questions architecture source) : ¬ query.IsCpuid := by
  by_cases hname : probe.name = "cpuid"
  · obtain hquestions | ⟨first, leaf, -, hquestions⟩ :=
      questions_of_name architecture source h hname
    · simp [hquestions, calls_cpuid, harchitecture] at hquery
    · simp [hquestions, calls_coveredLeaf, harchitecture] at hquery
  · exact not_isCpuid_of_name architecture source h hname hquery

/-- The two architectures with the identification instruction are the same to every probe. -/
theorem attempt_x86_eq_x64 (kind : Kind) :
    ∀ probe ∈ kind.chain.probes, probe.attempt .x86 = probe.attempt .x64 := by
  rw [← List.map_inj_left]
  cases kind <;> rfl

/-- So they are to every metric: it is found by the same computation. -/
theorem find_x86_eq_x64 (config : Config) (kind : Kind) :
    kind.find config .x86 = kind.find config .x64 := by
  have hfinish : kind.finish .x86 = kind.finish .x64 := by
    cases kind <;> rfl
  rw [find_eq, find_eq, hfinish, Chain.run, Chain.run,
    Chain.firstUsable_congr _ _ config kind.attempt_x86_eq_x64]

/-- On an architecture without the identification instruction, hosts that differ in what it answers
only are the same to every metric. -/
theorem find_congr_of_hasCpuid (config : Config) (kind : Kind)
    (harchitecture : architecture.hasCpuid = false) {first second : Source}
    (h : ∀ query : Query, ¬ query.IsCpuid → second query = first query) :
    (kind.find config architecture).value second = (kind.find config architecture).value first ∧
      (kind.find config architecture).calls second = (kind.find config architecture).calls first ∧
      (kind.find config architecture).log second = (kind.find config architecture).log first := by
  refine Probing.run_congr _ fun query hquery ↦ h query ?_
  rw [find_eq, Probing.calls_map, Chain.run, Chain.calls_firstUsable] at hquery
  obtain ⟨probe, hprobe, hreached⟩ := List.mem_flatMap.mp hquery
  have hmem : probe ∈ kind.chain.probes := List.mem_of_mem_take hprobe
  unfold Probe.reachedQuestions at hreached
  split at hreached
  · contradiction
  · exact not_isCpuid_of_hasCpuid architecture first hmem harchitecture hreached

end Kind

end Metric

end HostProfile
