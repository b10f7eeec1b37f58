import HostProfile.Proofs.Metric.Warning

/-!
# Failed queries for the cache levels

The kernel parameters for the two cache levels are one probe, but either query may fail on its own.
A level that is told is never held up by the other one, which then counts as zero. If neither is
told, the probe comes to the error of the third level and drops that of the second
(`LevelsReported`). So a failed query for the third level is warned of, whatever became of the
second (`level_failures_reported`), but a failed query for the second level goes unnoticed where
there is no parameter for the third (`level_failure_masked`).
-/

set_option autoImplicit false
set_option relaxedAutoImplicit false

namespace HostProfile

open Happening Probing

variable {config : Config} {architecture : Architecture} {transcript : List Happening}

/-- An attempt that goes on whatever comes of a question. -/
theorem Attempt.unfolds_observe_bind_iff {α : Type} {query : Query}
    {next : Outcome query.Answer → Attempt α} {result : Outcome α} :
    (Attempt.observe query >>= next).run.Unfolds transcript result ↔ ∃ outcome after,
      transcript = .asked ⟨query, outcome⟩ :: after ∧ (next outcome).run.Unfolds after result := by
  constructor
  · intro h
    cases h with
    | ask _ outcome hnext => exact ⟨outcome, _, rfl, hnext⟩
  · rintro ⟨outcome, after, rfl, hafter⟩
    exact .ask query outcome hafter

namespace Metric

/-! ### The turn of the kernel parameters -/

/-- The questions for the two levels and their answers. -/
def levelQuestions (third second : Outcome UInt64) : List Happening :=
  [.asked ⟨.parameter "hw.l3cachesize", third⟩, .asked ⟨.parameter "hw.l2cachesize", second⟩]

/-- While the cache size is searched for, it is the turn of the kernel parameters. -/
structure LevelsAsked (architecture : Architecture) (transcript : List Happening)
    (third second : Outcome UInt64) (verdict : Verdict) : Prop where
  /-- Both levels are asked for, and then comes the verdict. -/
  asked : levelQuestions third second ++ [.logged (.probed "cache_size" "sysctl" verdict)] <:+:
    transcript
  /-- No other verdict on the parameters is logged. -/
  only : ∀ metric other, .logged (.probed metric "sysctl" other) ∈ transcript →
    metric = "cache_size" ∧ other = verdict
  /-- What the probe comes to with these answers. -/
  yields : ∀ probe ∈ cacheLevels.probes, probe.name = "sysctl" →
    (probe.attempt architecture).run.Unfolds (levelQuestions third second)
      (eitherLevel third second)

/-- What is made of the answers to the questions for the two levels. -/
structure LevelsReported (third second : Outcome UInt64) (verdict : Verdict)
    (outcome : Outcome UInt64) : Prop where
  /-- Where the second level is not told, a failed query for the third is warned of. -/
  failed : ∀ origin reason error, third = .error (.queryFailed origin reason) →
    second = .error error → (verdict.level, verdict.message, verdict.error?) =
      (.warn, "probe failed, trying next source", some (.queryFailed origin reason))
  /-- Where no query for the third level failed, as where neither parameter exists, there is no
  warning. -/
  quiet : (∀ origin reason, third ≠ .error (.queryFailed origin reason)) → verdict.level ≠ .warn
  /-- Where one of the levels is told, the other is zero unless it is told as well. -/
  told : (∃ size, third = .ok size) ∨ (∃ size, second = .ok size) →
    let levels : CacheLevels := ⟨second.toOption.getD 0, third.toOption.getD 0⟩
    eitherLevel third second = .ok levels ∧
      verdict = (if 0 < levels.preferred then .resolved else .unusable) ∧
      (0 < levels.preferred → outcome = .ok levels.preferred)

/-- The probe asks for both levels, whatever comes of the third. -/
theorem unfolds_parameterLevels_iff {found : Outcome CacheLevels} :
    parameterLevels.run.Unfolds transcript found ↔ ∃ third second,
      transcript = levelQuestions third second ∧ found = eitherLevel third second := by
  unfold parameterLevels
  constructor
  · intro h
    obtain ⟨third, _, rfl, hthird⟩ := Attempt.unfolds_observe_bind_iff.mp h
    obtain ⟨second, _, rfl, hsecond⟩ := Attempt.unfolds_observe_bind_iff.mp hthird
    obtain ⟨rfl, rfl⟩ := unfolds_pure_iff.mp hsecond
    exact ⟨third, second, rfl, rfl⟩
  · rintro ⟨third, second, rfl, rfl⟩
    exact Attempt.unfolds_observe_bind_iff.mpr ⟨third, _, rfl,
      Attempt.unfolds_observe_bind_iff.mpr ⟨second, _, rfl, unfolds_pure_iff.mpr ⟨rfl, rfl⟩⟩⟩

theorem eitherLevel_of_ok {third second : Outcome UInt64}
    (h : (∃ size, third = .ok size) ∨ (∃ size, second = .ok size)) :
    eitherLevel third second = .ok ⟨second.toOption.getD 0, third.toOption.getD 0⟩ := by
  obtain ⟨size, rfl⟩ | ⟨size, rfl⟩ := h
  · rfl
  · cases third <;> rfl

/-- The verdict on the answers, and the size where it is resolved, say what was made of them. -/
theorem levelsReported_of_verdict {third second : Outcome UInt64} {outcome : Outcome UInt64}
    (hresolved : Verdict.of cacheLevels.usable (eitherLevel third second) = .resolved →
      outcome = (eitherLevel third second).map CacheLevels.preferred) :
    LevelsReported third second (.of cacheLevels.usable (eitherLevel third second)) outcome where
  failed := by
    rintro origin reason error rfl rfl
    rfl
  quiet := by
    intro hthird hwarn
    obtain ⟨origin, reason, hfailed, -⟩ := Chain.eq_failed_of_warn hwarn
    rcases third with error | size
    · rcases second with other | size
      · cases hfailed
        exact hthird origin reason rfl
      · cases hfailed
    · cases hfailed
  told := by
    intro htold levels
    have hlevels : eitherLevel third second = .ok levels := eitherLevel_of_ok htold
    have hverdict : Verdict.of cacheLevels.usable (eitherLevel third second) =
        if 0 < levels.preferred then .resolved else .unusable := by
      rw [hlevels, Verdict.of]
      simp only [cacheLevels, decide_eq_true_eq]
    refine ⟨hlevels, hverdict, fun hpositive ↦ ?_⟩
    rw [hresolved (by rw [hverdict, if_pos hpositive]), hlevels]
    rfl

/-! ### The chain -/

/-- Cache levels of the topology are those of a topology that was told. -/
theorem exists_topology_of_unfolds {levels : CacheLevels}
    (h : (CacheProbe.topology.attempt architecture).run.Unfolds transcript (.ok levels)) :
    ∃ topology, .asked ⟨.topology, .ok topology⟩ ∈ transcript ∧ levels = topology.caches := by
  obtain ⟨error, hfailed, -⟩ | ⟨before, topology, after, rfl, hasked, hlevels⟩ :=
    Attempt.unfolds_bind h
  · cases hfailed
  · obtain ⟨rfl, heq⟩ := unfolds_pure_iff.mp hlevels
    cases heq
    cases hasked with
    | ask _ _ hdone =>
      cases hdone
      exact ⟨topology, by simp, rfl⟩

/-- Where the parameters are switched on and the topology tells of no cache, it is the turn of the
parameters while the cache size is searched for. -/
theorem exists_levelsAsked {found : Outcome CacheLevels}
    (h : (cacheLevels.run config architecture).Unfolds transcript found)
    (hon : config.isDisabled "sysctl" = false)
    (htopology : ∀ topology, .asked ⟨.topology, .ok topology⟩ ∈ transcript →
      topology.caches.preferred = 0) :
    ∃ third second,
      LevelsAsked architecture transcript third second
          (.of cacheLevels.usable (eitherLevel third second)) ∧
        (Verdict.of cacheLevels.usable (eitherLevel third second) = .resolved →
          found = eitherLevel third second) := by
  have hremarks : ∀ probe ∈ Kind.cacheSize.chain.probes, ∀ run found,
      (probe.attempt architecture).run.Unfolds run found →
        ∀ event, .logged event ∈ run → event.IsRemark :=
    fun _ hprobe _ _ ↦ Kind.isRemark_of_mem_probe hprobe
  have hnames : ∀ other ∈ cacheLevels.probes.take 1 ++ cacheLevels.probes.drop 2,
      other.name ≠ "sysctl" := by
    decide
  have htold : ∀ other ∈ cacheLevels.probes.take 1, ∀ run levels, run <:+: transcript →
      (other.attempt architecture).run.Unfolds run (.ok levels) →
        cacheLevels.usable levels = false := by
    intro other hother run levels hrun hlevels
    obtain rfl := List.mem_singleton.mp hother
    obtain ⟨topology, hasked, rfl⟩ := exists_topology_of_unfolds hlevels
    have hzero := htopology topology (hrun.subset hasked)
    show decide (0 < topology.caches.preferred) = false
    rw [hzero]
    rfl
  obtain ⟨run, answered, hrun, hasked, honly, hresolved⟩ :=
    Chain.exists_turn (cacheLevels.probes.take 1) CacheProbe.sysctl
      (cacheLevels.probes.drop 2) h hremarks hon hnames htold
  obtain ⟨third, second, rfl, rfl⟩ := unfolds_parameterLevels_iff.mp hrun
  refine ⟨third, second, ⟨hasked, honly, fun probe hprobe hname ↦ ?_⟩, hresolved⟩
  simp only [cacheLevels, List.mem_cons, List.not_mem_nil, or_false] at hprobe
  obtain rfl | rfl | rfl | rfl := hprobe
  · exact absurd hname (by decide)
  · exact hrun
  · exact absurd hname (by decide)
  · exact absurd hname (by decide)

/-- Where the parameters are switched on and the topology tells of no cache, both levels are asked
for, whatever the host answers, and a failed query for the third level is warned of unless the
second is told. -/
theorem level_failures_reported {outcome : Outcome UInt64}
    (hon : config.isDisabled "sysctl" = false)
    (h : (cacheSize config architecture).Unfolds transcript outcome)
    (htopology : ∀ topology, .asked ⟨.topology, .ok topology⟩ ∈ transcript →
      topology.caches.preferred = 0) :
    ∃ third second verdict, LevelsAsked architecture transcript third second verdict ∧
      LevelsReported third second verdict outcome := by
  change (Kind.cacheSize.find config architecture).Unfolds transcript outcome at h
  rw [Kind.find_eq, unfolds_map_iff] at h
  obtain ⟨found, hrun, rfl⟩ := h
  obtain ⟨third, second, hasked, hresolved⟩ := exists_levelsAsked hrun hon htopology
  refine ⟨third, second, _, hasked, levelsReported_of_verdict fun hverdict ↦ ?_⟩
  rw [hresolved hverdict]
  rfl

end Metric

/-- A host that has kernel parameters for the two cache levels and nothing else. -/
def Source.ofLevels (third second : Outcome UInt64) : Source
  | .parameter "hw.l3cachesize" => third
  | .parameter "hw.l2cachesize" => second
  | _ => .error .unavailable

namespace Metric

/-- A third level that must not be read, where there is no second. -/
theorem level_failures_reported_denied :
    let denied := ProbeError.queryFailed "sysctl" "hw.l3cachesize: Operation not permitted"
    let source := Source.ofLevels (.error denied) (.error .unavailable)
    let run := cacheSize .standard .x64
    let transcript := run.transcript source
    Config.standard.isDisabled "sysctl" = false ∧ run.Unfolds transcript (run.value source) ∧
      (∀ topology, .asked ⟨.topology, .ok topology⟩ ∈ transcript →
        topology.caches.preferred = 0) ∧
      (∃ third second verdict, LevelsAsked .x64 transcript third second verdict ∧
        LevelsReported third second verdict (run.value source)) ∧
      .probed "cache_size" "sysctl" (.failed "sysctl" "hw.l3cachesize: Operation not permitted") ∈
        run.log source := by
  intro denied source run transcript
  have hon : Config.standard.isDisabled "sysctl" = false := rfl
  have htopology : ∀ topology, .asked ⟨.topology, .ok topology⟩ ∈ transcript →
      topology.caches.preferred = 0 := by
    intro topology hasked
    obtain ⟨query, -, hexchange⟩ := asked_mem_transcript_iff.mp hasked
    cases hexchange
  have hrun := unfolds_transcript run source
  exact ⟨hon, hrun, htopology, level_failures_reported hon hrun htopology, by decide +kernel⟩

/-- A failed query for the second level is passed over as if there were no parameters, if there is
none for the third. -/
theorem level_failure_masked :
    let denied := ProbeError.queryFailed "sysctl" "hw.l2cachesize: Operation not permitted"
    let source := Source.ofLevels (.error .unavailable) (.error denied)
    let run := cacheSize .standard .x64
    Config.standard.isDisabled "sysctl" = false ∧ source .topology = .error .unavailable ∧
      source (.parameter "hw.l3cachesize") = .error .unavailable ∧
      source (.parameter "hw.l2cachesize") = .error denied ∧
      .probed "cache_size" "sysctl" .unavailable ∈ run.log source ∧
      ∀ event ∈ run.log source, event.level ≠ .warn := by
  intro denied source run
  exact ⟨rfl, rfl, rfl, rfl, by decide +kernel, by decide +kernel⟩

end Metric

end HostProfile
