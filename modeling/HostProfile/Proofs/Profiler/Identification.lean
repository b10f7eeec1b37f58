import HostProfile.Proofs.Metric.Cpuid
import HostProfile.Proofs.Profiler.Reading

/-!
# The identification instruction over whole runs

A run of a profiler starts it and asks it accessors, as many as one likes, of a host that may change
its answers at any time (`Profiler.Run`); every history is one (`Run.afterAll`). Whatever a profiler
exchanges with its host is exchanged by probes, one after the other, and always on the architecture
that it was started with: this is so for a chain (`conducts_run`), for every accessor
(`steady_read`) and hence for every run (`Run.probeRuns`). So what holds of the exchanges of single
probes holds throughout: the identification instruction is asked in order, and not at all where it
does not exist.
-/

set_option autoImplicit false
set_option relaxedAutoImplicit false

namespace HostProfile

variable {α β : Type}

/-! ### Exchanges of probes -/

namespace Metric

variable {architecture : Architecture} {exchanges before after : List Exchange}

/-- What one probe of a chain exchanges with a host when it is run. -/
def ProbeRun (architecture : Architecture) (exchanges : List Exchange) : Prop :=
  ∃ (kind : Kind) (probe : Probe kind.Found) (outcome : Outcome kind.Found),
    probe ∈ kind.chain.probes ∧ (probe.attempt architecture).run.Talks exchanges outcome

/-- A probe asks nothing twice, so its run is one on some source. -/
theorem ProbeRun.exists_source (h : ProbeRun architecture exchanges) :
    ∃ (kind : Kind) (probe : Probe kind.Found) (source : Source), probe ∈ kind.chain.probes ∧
      exchanges = (probe.questions architecture source).map source.exchange := by
  obtain ⟨kind, probe, outcome, hprobe, htalks⟩ := h
  obtain ⟨source, hexchanges, -⟩ := Probing.exists_source_of_talks htalks fun source ↦
    Kind.nodup_questions_probe architecture source hprobe
  exact ⟨kind, probe, source, hprobe, hexchanges⟩

theorem ProbeRun.guarded (h : ProbeRun architecture exchanges) : Exchange.Guarded exchanges := by
  obtain ⟨kind, probe, source, hprobe, rfl⟩ := h.exists_source
  exact Kind.guarded_questions architecture source hprobe

theorem ProbeRun.not_isCpuid (h : ProbeRun architecture exchanges)
    (harchitecture : architecture.hasCpuid = false) :
    ∀ exchange ∈ exchanges, ¬ exchange.1.IsCpuid := by
  obtain ⟨kind, probe, source, hprobe, rfl⟩ := h.exists_source
  intro exchange hmem
  obtain ⟨query, hquery, rfl⟩ := List.mem_map.mp hmem
  exact Kind.not_isCpuid_of_hasCpuid architecture source hprobe harchitecture hquery

/-- Exchanges of probes, one after the other. -/
def ProbeRuns (architecture : Architecture) (exchanges : List Exchange) : Prop :=
  ∃ segments : List (List Exchange), exchanges = segments.flatten ∧
    ∀ segment ∈ segments, ProbeRun architecture segment

theorem probeRuns_nil : ProbeRuns architecture [] :=
  ⟨[], rfl, by simp⟩

theorem ProbeRun.probeRuns (h : ProbeRun architecture exchanges) :
    ProbeRuns architecture exchanges :=
  ⟨[exchanges], by simp, by simpa using h⟩

theorem ProbeRuns.append (hbefore : ProbeRuns architecture before)
    (hafter : ProbeRuns architecture after) : ProbeRuns architecture (before ++ after) := by
  obtain ⟨first, rfl, hfirst⟩ := hbefore
  obtain ⟨second, rfl, hsecond⟩ := hafter
  refine ⟨first ++ second, List.flatten_append.symm, fun segment hmem ↦ ?_⟩
  rcases List.mem_append.mp hmem with hmem | hmem
  · exact hfirst segment hmem
  · exact hsecond segment hmem

/-- Exchanges of probes, one after the other, each of which asks the identification instruction in
order. -/
def Orderly (architecture : Architecture) (exchanges : List Exchange) : Prop :=
  ∃ segments : List (List Exchange), exchanges = segments.flatten ∧
    ∀ segment ∈ segments, ProbeRun architecture segment ∧ Exchange.Guarded segment

theorem ProbeRuns.orderly (h : ProbeRuns architecture exchanges) :
    Orderly architecture exchanges := by
  obtain ⟨segments, heq, hsegments⟩ := h
  exact ⟨segments, heq, fun segment hmem ↦
    ⟨hsegments segment hmem, (hsegments segment hmem).guarded⟩⟩

theorem ProbeRuns.not_isCpuid (h : ProbeRuns architecture exchanges)
    (harchitecture : architecture.hasCpuid = false) :
    ∀ exchange ∈ exchanges, ¬ exchange.1.IsCpuid := by
  obtain ⟨segments, rfl, hsegments⟩ := h
  intro exchange hmem
  obtain ⟨segment, hsegment, hexchange⟩ := List.mem_flatten.mp hmem
  exact (hsegments segment hsegment).not_isCpuid harchitecture exchange hexchange

end Metric

open HostProfile.Metric

/-! ### Computations that probe -/

namespace Probing

variable {architecture : Architecture} {P : α → Prop} {Q : β → Prop}

/-- A computation exchanges with a host only what probes exchange, and comes to a result of some
kind. -/
def Conducts (architecture : Architecture) (P : α → Prop) (p : Probing α) : Prop :=
  ∀ exchanges result, p.Talks exchanges result → ProbeRuns architecture exchanges ∧ P result

theorem conducts_pure {a : α} (h : P a) : Conducts architecture P (pure a) := by
  intro exchanges result htalks
  obtain ⟨rfl, rfl⟩ := talks_pure_iff.mp htalks
  exact ⟨probeRuns_nil, h⟩

theorem Conducts.bind {p : Probing α} {next : α → Probing β} (h : Conducts architecture P p)
    (hnext : ∀ a, P a → Conducts architecture Q (next a)) :
    Conducts architecture Q (p >>= next) := by
  intro exchanges result htalks
  obtain ⟨before, a, after, rfl, hbefore, hafter⟩ := talks_bind_iff.mp htalks
  obtain ⟨hfirst, ha⟩ := h before a hbefore
  obtain ⟨hsecond, hresult⟩ := hnext a ha after result hafter
  exact ⟨hfirst.append hsecond, hresult⟩

theorem Conducts.map {p : Probing α} {f : α → β} (h : Conducts architecture P p)
    (hf : ∀ a, P a → Q (f a)) : Conducts architecture Q (f <$> p) := by
  rw [map_eq_pure_bind]
  exact h.bind fun a ha ↦ conducts_pure (hf a ha)

theorem conducts_write (event : Event) :
    Conducts architecture (fun _ ↦ True) (write event) := by
  intro exchanges result htalks
  rw [talks_write_iff.mp htalks]
  exact ⟨probeRuns_nil, trivial⟩

/-- A list of probes of a chain exchanges what these exchange. -/
theorem conducts_firstUsable (kind : Kind) (metric : String) (usable : kind.Found → Bool)
    (config : Config) {probes : List (Probe kind.Found)}
    (h : ∀ probe ∈ probes, probe ∈ kind.chain.probes) :
    Conducts architecture (fun _ ↦ True)
      (Chain.firstUsable metric usable config architecture probes) := by
  induction probes with
  | nil => exact conducts_pure trivial
  | cons probe rest ih =>
    rw [List.forall_mem_cons] at h
    have hprobe : Conducts architecture (fun _ ↦ True) (probe.attempt architecture).run :=
      fun exchanges outcome htalks ↦
        ⟨ProbeRun.probeRuns ⟨kind, probe, outcome, h.1, htalks⟩, trivial⟩
    unfold Chain.firstUsable
    split
    · exact (conducts_write _).bind fun _ _ ↦ ih h.2
    · refine hprobe.bind fun outcome _ ↦ (conducts_write _).bind fun _ _ ↦ ?_
      split
      · exact conducts_pure trivial
      · exact ih h.2

theorem conducts_run (kind : Kind) (config : Config) :
    Conducts architecture (fun _ ↦ True) (kind.chain.run config architecture) :=
  conducts_firstUsable kind kind.chain.metric kind.chain.usable config fun _ h ↦ h

theorem conducts_find (kind : Kind) (config : Config) :
    Conducts architecture (fun _ ↦ True) (kind.find config architecture) := by
  rw [Kind.find_eq]
  exact (conducts_run kind config).map fun _ _ ↦ trivial

theorem Conducts.orReport {report : ProbeError → Event} {search : Probing (Outcome α)}
    (h : Conducts architecture (fun _ ↦ True) search) :
    Conducts architecture (fun _ ↦ True) (search.orReport report) := by
  refine h.bind fun outcome _ ↦ ?_
  rcases outcome with error | value
  · exact (conducts_write _).bind fun _ _ ↦ conducts_pure trivial
  · exact conducts_pure trivial

theorem conducts_memo (memo : Memo) (config : Config) :
    Conducts architecture (fun _ ↦ True) (memo.find config architecture) := by
  cases memo with
  | vendor => exact (conducts_run .vendor config).bind fun _ _ ↦ conducts_pure trivial
  | maxSpeed => exact (conducts_run .maxSpeed config).orReport
  | memory => exact (conducts_run .memory config).orReport
  | machineModel => exact (conducts_find .model config).map fun _ _ ↦ trivial

end Probing

open Probing

/-! ### Accessors -/

namespace Profiling

variable {architecture : Architecture}

/-- An accessor lets probes do the talking and leaves the architecture as it is. -/
def Steady (architecture : Architecture) (reading : Profiling α) : Prop :=
  ∀ profiler : Profiler, profiler.architecture = architecture →
    Conducts architecture (fun answer ↦ answer.2.architecture = architecture)
      (reading.run profiler)

theorem steady_pure (a : α) : Steady architecture (pure a) :=
  fun _ h ↦ conducts_pure h

theorem Steady.bind {reading : Profiling α} {next : α → Profiling β}
    (h : Steady architecture reading) (hnext : ∀ a, Steady architecture (next a)) :
    Steady architecture (reading >>= next) := by
  intro profiler hprofiler
  rw [StateT.run_bind]
  exact (h profiler hprofiler).bind fun answer hanswer ↦ hnext answer.1 answer.2 hanswer

theorem steady_get_bind {next : Profiler → Profiling α}
    (h : ∀ profiler : Profiler, profiler.architecture = architecture →
      Steady architecture (next profiler)) :
    Steady architecture (get >>= next) := by
  intro profiler hprofiler
  rw [StateT.run_bind, StateT.run_get, pure_bind]
  exact h profiler hprofiler profiler hprofiler

theorem steady_lift {p : Probing α} (h : Conducts architecture (fun _ ↦ True) p) :
    Steady architecture (liftM p) := by
  intro profiler hprofiler
  rw [StateT.run_monadLift, monadLift_self]
  exact h.bind fun _ _ ↦ conducts_pure hprofiler

theorem steady_find (kind : Kind) {profiler : Profiler}
    (h : profiler.architecture = architecture) :
    Steady architecture (liftM (kind.find profiler.config profiler.architecture)) := by
  rw [h]
  exact steady_lift (conducts_find kind profiler.config)

theorem steady_memo (memo : Memo) : Steady architecture memo.read := by
  intro profiler hprofiler
  rw [Memo.run_read]
  split
  · exact conducts_pure hprofiler
  · rw [hprofiler]
    refine (conducts_memo memo profiler.config).map fun value _ ↦ ?_
    rw [← hprofiler]
    cases memo <;> rfl

theorem steady_readCurrentCpus : Steady architecture Profiler.readCurrentCpus :=
  steady_get_bind fun _ h ↦ (steady_find .currentCpus h).bind fun _ ↦ steady_pure _

theorem steady_readAdapter? : Steady architecture Profiler.readAdapter? := by
  refine steady_get_bind fun profiler h ↦ (steady_find .adapter h).bind fun outcome ↦ ?_
  rcases outcome with error | adapter
  · exact (steady_lift (conducts_write _)).bind fun _ ↦ steady_pure _
  · exact steady_pure _

theorem steady_readMaxSpeed : Steady architecture Profiler.readMaxSpeed :=
  (steady_memo .maxSpeed).bind fun _ ↦ steady_pure _

theorem steady_readCurrentSpeed : Steady architecture Profiler.readCurrentSpeed := by
  refine steady_get_bind fun profiler h ↦ (steady_find .currentSpeed h).bind fun outcome ↦ ?_
  rcases outcome with error | mhz
  · exact steady_readMaxSpeed
  · exact steady_pure _

theorem steady_readSummary : Steady architecture Profiler.readSummary :=
  steady_get_bind fun _ _ ↦ (steady_memo .vendor).bind fun _ ↦
    steady_readCurrentCpus.bind fun _ ↦ (steady_memo .maxSpeed).bind fun _ ↦
      steady_readCurrentSpeed.bind fun _ ↦ (steady_memo .memory).bind fun _ ↦
        (steady_memo .machineModel).bind fun _ ↦ steady_readAdapter?.bind fun _ ↦
          steady_pure _

/-- Every accessor lets probes do the talking. -/
theorem steady_read (accessor : Accessor) : Steady architecture (Profiler.read accessor) := by
  cases accessor with
  | currentCpus => exact steady_readCurrentCpus
  | vendor => exact steady_memo .vendor
  | maxSpeed => exact steady_readMaxSpeed
  | currentSpeed => exact steady_readCurrentSpeed
  | memory => exact (steady_memo .memory).bind fun _ ↦ steady_pure _
  | machineModel => exact steady_memo .machineModel
  | modelUnknown => exact (steady_memo .machineModel).bind fun _ ↦ steady_pure _
  | adapter =>
    refine steady_readAdapter?.bind fun found ↦ ?_
    rcases found with _ | adapter <;> exact steady_pure _
  | adapter? => exact steady_readAdapter?
  | summary => exact steady_readSummary
  | logicalCpus | physicalCpus | architecture | cacheSize | family | model | stepping
  | maxSpeedState | memoryState => exact steady_get_bind fun _ _ ↦ steady_pure _

end Profiling

/-! ### Runs -/

namespace Profiler

variable {config : Config} {architecture : Architecture} {profiler : Profiler}

/-- What a profiler may exchange with a host that changes its answers at any time, from the start
over any number of accessors, and what it knows in the end. -/
inductive Run (config : Config) (architecture : Architecture) :
    List Exchange → Profiler → Prop
  | start {exchanges : List Exchange} {profiler : Profiler}
      (hstart : (start config architecture).Talks exchanges profiler) :
      Run config architecture exchanges profiler
  | step {exchanges more : List Exchange} {profiler later : Profiler}
      (hrun : Run config architecture exchanges profiler) (accessor : Accessor)
      (answer : accessor.Answer)
      (hread : ((read accessor).run profiler).Talks more (answer, later)) :
      Run config architecture (exchanges ++ more) later

theorem conducts_start :
    Conducts architecture (fun profiler ↦ profiler.architecture = architecture)
      (start config architecture) :=
  (conducts_find .logicalCpus config).bind fun _ _ ↦
    (conducts_find .physicalCpus config).bind fun _ _ ↦
      (conducts_find .signature config).bind fun _ _ ↦
        (conducts_find .cacheSize config).bind fun _ _ ↦
          (conducts_write _).bind fun _ _ ↦ conducts_pure rfl

/-- In a run probes do all the talking. -/
theorem Run.probeRuns {sofar : List Exchange} (h : Run config architecture sofar profiler) :
    ProbeRuns architecture sofar ∧ profiler.architecture = architecture := by
  induction h with
  | start hstart => exact conducts_start _ _ hstart
  | step hrun accessor answer hread ih =>
    obtain ⟨hbefore, harchitecture⟩ := ih
    obtain ⟨hafter, hlater⟩ := Profiling.steady_read accessor _ harchitecture _ _ hread
    exact ⟨hbefore.append hafter, hlater⟩

/-- What a history exchanges, on the source of each step. -/
def exchanges : Profiler → List Step → List Exchange
  | _, [] => []
  | profiler, step :: rest =>
    (profiler.visit step).calls.map step.source.exchange ++ (profiler.after step).exchanges rest

/-- A run may go on with any history. -/
theorem Run.afterAll {sofar : List Exchange} (h : Run config architecture sofar profiler)
    (history : List Step) :
    Run config architecture (sofar ++ profiler.exchanges history) (profiler.afterAll history) := by
  induction history generalizing profiler sofar with
  | nil =>
    rw [exchanges, List.append_nil]
    exact h
  | cons step rest ih =>
    have hread := talks_run ((read step.accessor).run profiler) step.source
    rw [exchanges, ← List.append_assoc]
    exact ih (h.step step.accessor _ hread)

/-- In every run of a profiler, and of any chain, the host may change its answers at any time, and
yet: four leaves of the identification instruction are asked for, the second leaf of a range only by
a probe that was told right before that the range goes so far; nothing is asked of the instruction
on an architecture that does not have it, so hosts that differ in what it answers are the same to
every chain there; and the two architectures that have it are the same to every chain. -/
theorem cpuid_discipline (config : Config) :
    (∀ architecture exchanges profiler, Run config architecture exchanges profiler →
      Orderly architecture exchanges) ∧
    (∀ (kind : Kind) architecture exchanges outcome,
      (kind.find config architecture).Talks exchanges outcome → Orderly architecture exchanges) ∧
    (∀ exchanges profiler, Run config .arm exchanges profiler →
      ∀ exchange ∈ exchanges, ¬ exchange.1.IsCpuid) ∧
    (∀ (kind : Kind) exchanges outcome, (kind.find config .arm).Talks exchanges outcome →
      ∀ exchange ∈ exchanges, ¬ exchange.1.IsCpuid) ∧
    (∀ (kind : Kind) (first second : Source),
      (∀ query : Query, ¬ query.IsCpuid → second query = first query) →
        (kind.find config .arm).value second = (kind.find config .arm).value first ∧
        (kind.find config .arm).calls second = (kind.find config .arm).calls first ∧
        (kind.find config .arm).log second = (kind.find config .arm).log first) ∧
    ∀ kind : Kind, kind.find config .x86 = kind.find config .x64 := by
  refine ⟨?_, ?_, ?_, ?_, ?_, ?_⟩
  · intro architecture exchanges profiler hrun
    exact hrun.probeRuns.1.orderly
  · intro kind architecture exchanges outcome htalks
    exact (conducts_find kind config exchanges outcome htalks).1.orderly
  · intro exchanges profiler hrun
    exact hrun.probeRuns.1.not_isCpuid rfl
  · intro kind exchanges outcome htalks
    exact (conducts_find kind config exchanges outcome htalks).1.not_isCpuid rfl
  · intro kind first second h
    exact Kind.find_congr_of_hasCpuid .arm config kind rfl h
  · intro kind
    exact kind.find_x86_eq_x64 config

end Profiler

end HostProfile
