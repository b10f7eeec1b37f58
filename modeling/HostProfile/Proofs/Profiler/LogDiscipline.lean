import HostProfile.Proofs.Profiler.Course

/-!
# What a profiler logs over its life

A profiler is started and then asked, one call after another, and the host may answer every question
as it likes, also the same question differently within one call (`Life`). The histories on sources
are among these lives (`life_history`), with the answers, questions and events of their visits
(`map_visit_episodes`).

Over a whole life the log is kept in order (`Discipline`). The start is logged once, with the values
that the accessors go on to report. That the highest clock or the memory is unknown is a warning
that comes with the change of its state, so it has been given once if the state is a failure and
never else (`Announces`). A missed adapter is noted at every call that misses it, and all other
warnings are verdicts on probes whose query failed. So a host that keeps saying that it has no
display and no driver can be asked for the adapter any number of times without a warning.
-/

set_option autoImplicit false
set_option relaxedAutoImplicit false

namespace HostProfile

variable {α β : Type}

open Happening Probing

/-! ### Lives -/

namespace Profiler

/-- One call of an accessor: the profiler before and after it, the answer, and what happened. -/
structure Episode where
  before : Profiler
  accessor : Accessor
  answer : accessor.Answer
  transcript : List Happening
  after : Profiler

/-- What a call comes to. -/
def Episode.visit (episode : Episode) : Visit where
  accessor := episode.accessor
  answer := episode.answer
  calls := (Happening.exchanges episode.transcript).map Sigma.fst
  log := Happening.events episode.transcript

/-- A profiler is started, which is the opening, and then called, whatever the host answers. -/
inductive Life (config : Config) (architecture : Architecture) (opening : List Happening) :
    List Episode → Profiler → Prop
  | start {profiler : Profiler} (hstart : (start config architecture).Unfolds opening profiler) :
      Life config architecture opening [] profiler
  | call {episodes : List Episode} {profiler : Profiler}
      (hlife : Life config architecture opening episodes profiler) (accessor : Accessor)
      {answer : accessor.Answer} {transcript : List Happening} {later : Profiler}
      (hcall : ((read accessor).run profiler).Unfolds transcript (answer, later)) :
      Life config architecture opening
        (episodes ++ [⟨profiler, accessor, answer, transcript, later⟩]) later

/-- The calls of a history. -/
def episodes : Profiler → List Step → List Episode
  | _, [] => []
  | profiler, step :: rest =>
    ⟨profiler, step.accessor, (profiler.visit step).answer,
      ((read step.accessor).run profiler).transcript step.source, profiler.after step⟩ ::
      (profiler.after step).episodes rest

/-- The calls of a history come to its visits. -/
theorem map_visit_episodes (profiler : Profiler) (history : List Step) :
    (profiler.episodes history).map Episode.visit = profiler.visits history := by
  induction history generalizing profiler with
  | nil => rfl
  | cons step rest ih =>
    have hcalls (calls : List Query) :
        (calls.map step.source.exchange).map Sigma.fst = calls := by
      rw [List.map_map]
      exact List.map_id calls
    rw [episodes, visits, List.map_cons, ih, Episode.visit, exchanges_transcript, events_transcript,
      hcalls]
    rfl

variable {config : Config} {architecture : Architecture} {opening : List Happening}
  {episodes : List Episode} {profiler : Profiler}

/-- A life goes on with any history. -/
theorem Life.history (h : Life config architecture opening episodes profiler)
    (history : List Step) :
    Life config architecture opening (episodes ++ profiler.episodes history)
      (profiler.afterAll history) := by
  induction history generalizing episodes profiler with
  | nil => rwa [Profiler.episodes, List.append_nil]
  | cons step rest ih =>
    have hcall := unfolds_transcript ((read step.accessor).run profiler) step.source
    have hrest := ih (h.call step.accessor hcall)
    rwa [List.append_assoc] at hrest

/-- A start and a history on sources, whichever these are, are a life. -/
theorem life_history (config : Config) (architecture : Architecture) (first : Source)
    (history : List Step) :
    Life config architecture ((start config architecture).transcript first)
      (((start config architecture).value first).episodes history)
      (((start config architecture).value first).afterAll history) :=
  (Life.start (unfolds_transcript _ first)).history history

end Profiler

/-! ### Answers that repeat the start -/

/-- An answer repeats what the profiler found out when it was started, as far as it tells of it. -/
def Accessor.Repeats (profiler : Profiler) : (accessor : Accessor) → accessor.Answer → Prop
  | .logicalCpus => (· = profiler.logicalCpus)
  | .physicalCpus => (· = profiler.physicalCpus)
  | .architecture => (· = profiler.architecture)
  | .cacheSize => (· = profiler.cacheSize)
  | .family => (· = profiler.signature.family)
  | .model => (· = profiler.signature.model)
  | .stepping => (· = profiler.signature.stepping)
  | .summary => fun summary ↦
    summary.architecture = profiler.architecture ∧
      summary.logicalCpus = profiler.logicalCpus ∧ summary.physicalCpus = profiler.physicalCpus ∧
      summary.family = profiler.signature.family ∧ summary.model = profiler.signature.model ∧
      summary.stepping = profiler.signature.stepping ∧ summary.cacheSize = profiler.cacheSize
  | .currentCpus | .vendor | .maxSpeed | .maxSpeedState | .currentSpeed | .memory | .memoryState
  | .machineModel | .modelUnknown | .adapter | .adapter? => fun _ ↦ True

theorem Accessor.repeats_congr {first second : Profiler} (h : first.forget = second.forget)
    (accessor : Accessor) (answer : accessor.Answer) :
    accessor.Repeats first answer ↔ accessor.Repeats second answer := by
  have hforget (profiler : Profiler) :
      accessor.Repeats profiler.forget answer ↔ accessor.Repeats profiler answer := by
    cases accessor <;> exact Iff.rfl
  rw [← hforget first, h, hforget]

theorem Resolved.eq_failed_iff {state : Resolved α} :
    state = .failed ↔ (if state.isFailed then 1 else 0) = 1 := by
  cases state <;> simp [isFailed]

/-- Whatever the host answers, a reading has an answer of some kind. -/
def Profiling.Always (P : α → Prop) (reading : Profiling α) : Prop :=
  ∀ profiler transcript answer later, (reading.run profiler).Unfolds transcript (answer, later) →
    P answer

theorem Profiling.always_pure {P : α → Prop} {a : α} (h : P a) : Always P (pure a) := by
  intro profiler transcript answer later hrun
  cases (unfolds_pure_iff.mp hrun).2
  exact h

theorem Profiling.always_bind {P : β → Prop} {reading : Profiling α} {next : α → Profiling β}
    (h : ∀ a, Always P (next a)) : Always P (reading >>= next) := by
  intro profiler transcript answer last hrun
  obtain ⟨before, a, later, after, rfl, -, hafter⟩ := unfolds_bind hrun
  exact h a _ _ _ _ hafter

namespace Profiler

open Profiling

variable {config : Config} {architecture : Architecture} {opening : List Happening}
  {episodes : List Episode} {profiler : Profiler}

/-- What an accessor answers repeats the start, whatever the host answers. -/
theorem repeats_of_unfolds {accessor : Accessor} {transcript : List Happening}
    {answer : accessor.Answer} {later : Profiler}
    (h : ((read accessor).run profiler).Unfolds transcript (answer, later)) :
    accessor.Repeats profiler answer := by
  cases accessor with
  | logicalCpus | physicalCpus | architecture | cacheSize | family | model | stepping =>
    cases (unfolds_pure_iff.mp h).2
    rfl
  | summary =>
    rw [read, readSummary, run_get_bind] at h
    refine (?_ : Always (Accessor.summary.Repeats profiler) _) profiler transcript answer later h
    refine always_bind fun vendor ↦ always_bind fun currentCpus ↦ always_bind fun maxSpeed ↦
      always_bind fun currentSpeed ↦ always_bind fun memory ↦ always_bind fun machineModel ↦
      always_bind fun adapter ↦ always_pure ?_
    exact ⟨rfl, rfl, rfl, rfl, rfl, rfl, rfl⟩
  | currentCpus | vendor | maxSpeed | maxSpeedState | currentSpeed | memory | memoryState
  | machineModel | modelUnknown | adapter | adapter? => trivial

/-! ### Calls and totals -/

/-- Every call of a life was made on a profiler that was started as the last one was. -/
theorem Life.of_mem (h : Life config architecture opening episodes profiler) {episode : Episode}
    (hmem : episode ∈ episodes) :
    ((read episode.accessor).run episode.before).Unfolds episode.transcript
        (episode.answer, episode.after) ∧ episode.before.forget = profiler.forget := by
  induction h with
  | start => cases hmem
  | call hlife accessor hcall ih =>
    have hforget := (takes_read accessor _ _ _ _ hcall).tally.forget
    rcases List.mem_append.mp hmem with hmem | hmem
    · exact ⟨(ih hmem).1, (ih hmem).2.trans hforget.symm⟩
    · obtain rfl := List.mem_singleton.mp hmem
      exact ⟨hcall, hforget.symm⟩

/-- What a call of a life is answered with repeats the start. -/
theorem Life.repeats_of_mem (h : Life config architecture opening episodes profiler)
    {episode : Episode} (hmem : episode ∈ episodes) :
    episode.accessor.Repeats profiler episode.answer := by
  obtain ⟨hcall, hforget⟩ := h.of_mem hmem
  exact (Accessor.repeats_congr hforget _ _).mp (repeats_of_unfolds hcall)

/-- A call takes a course. -/
theorem Life.course_of_mem (h : Life config architecture opening episodes profiler)
    {episode : Episode} (hmem : episode ∈ episodes) :
    Course episode.before episode.transcript episode.after
      (episode.accessor.missesAdapter episode.answer).toNat :=
  takes_read episode.accessor _ _ _ _ (h.of_mem hmem).1

/-- A life opens with the start of a profiler that is the last one but for what it remembers. -/
theorem Life.unfolds_opening (h : Life config architecture opening episodes profiler) :
    (Profiler.start config architecture).Unfolds opening profiler.forget := by
  induction h with
  | start hstart => rwa [(exists_course_of_start hstart).2.2.1]
  | call hlife accessor hcall ih => rwa [(takes_read accessor _ _ _ _ hcall).tally.forget]

/-- What is said over a life adds up to a potential of the last profiler, if the start begins with
it and every course keeps the balance. -/
theorem Life.said_eq {level : Level} {message : String} (potential : Profiler → Nat)
    (hstart : ∀ started, (Profiler.start config architecture).Unfolds opening started →
      said level message opening = potential started)
    (hcourse : ∀ {before after : Profiler} {transcript : List Happening} {missed : Nat},
      Course before transcript after missed →
        said level message transcript + potential before = potential after)
    (h : Life config architecture opening episodes profiler) :
    said level message (opening ++ episodes.flatMap Episode.transcript) = potential profiler := by
  induction h with
  | start hunfolds => rw [List.flatMap_nil, List.append_nil, hstart _ hunfolds]
  | call hlife accessor hcall ih =>
    have hbalance := hcourse (takes_read accessor _ _ _ _ hcall)
    rw [List.flatMap_append, ← List.append_assoc, said_append, ih, List.flatMap_singleton,
      Nat.add_comm]
    exact hbalance

/-! ### Notes about unknown values -/

/-- A warning goes with the failure of a state: it is not given at the start, at a call just when
the call turns the state into a failure, and so over the whole life once if the state is a failure
and never else. -/
structure Announces (message : String) (failed : Profiler → Bool) (opening : List Happening)
    (episodes : List Episode) (profiler : Profiler) : Prop where
  start : said .warn message opening = 0
  episode : ∀ episode ∈ episodes, said .warn message episode.transcript =
    if failed episode.before = false ∧ failed episode.after = true then 1 else 0
  total : said .warn message (opening ++ episodes.flatMap Episode.transcript) =
    if failed profiler then 1 else 0

/-- A warning is announced if every course keeps it in balance with the failure of a state. -/
theorem Life.announces {message : String} {failed : Profiler → Bool}
    (hstart : ∀ started, (Profiler.start config architecture).Unfolds opening started →
      said .warn message opening = 0 ∧ failed started = false)
    (hcourse : ∀ {before after : Profiler} {transcript : List Happening} {missed : Nat},
      Course before transcript after missed →
        said .warn message transcript + (failed before).toNat = (failed after).toNat)
    (h : Life config architecture opening episodes profiler) :
    Announces message failed opening episodes profiler where
  start := (hstart _ h.unfolds_opening).1
  episode := by
    intro episode hmem
    have hbalance := hcourse (h.course_of_mem hmem)
    cases hbefore : failed episode.before <;> cases hafter : failed episode.after <;>
      simp_all
  total := by
    rw [h.said_eq (fun profiler ↦ (failed profiler).toNat) (fun started hunfolds ↦ ?_) hcourse]
    · cases failed profiler <;> rfl
    · obtain ⟨hsaid, hfailed⟩ := hstart started hunfolds
      rw [hsaid, hfailed]
      rfl

/-! ### The discipline -/

/-- What the log of a life keeps to. -/
structure Discipline (config : Config) (architecture : Architecture) (opening : List Happening)
    (episodes : List Episode) (profiler : Profiler) : Prop where
  /-- The start is logged at the end of the opening, with the values of the profiler. -/
  opening_eq : ∃ searches, opening = searches ++ [.logged (.started profiler.architecture
    profiler.logicalCpus profiler.physicalCpus profiler.signature profiler.cacheSize)]
  /-- The start is logged once over the whole life. -/
  started : said .debug "hardware profiler initialized"
    (opening ++ episodes.flatMap Episode.transcript) = 1
  /-- The accessors report the values with which the start was logged. -/
  repeats : ∀ episode ∈ episodes, episode.accessor.Repeats profiler episode.answer
  maxSpeed : Announces "max cpu speed unavailable" (·.maxSpeed.isFailed) opening episodes profiler
  memory : Announces "memory size unavailable" (·.memory.isFailed) opening episodes profiler
  /-- The state of the highest clock is reported to be a failure iff the warning has been given. -/
  maxSpeedState : ∀ {transcript answer later},
    ((read .maxSpeedState).run profiler).Unfolds transcript (answer, later) →
      (answer = .failed ↔ said .warn "max cpu speed unavailable"
        (opening ++ episodes.flatMap Episode.transcript) = 1)
  /-- The state of the memory is reported to be a failure iff the warning has been given. -/
  memoryState : ∀ {transcript answer later},
    ((read .memoryState).run profiler).Unfolds transcript (answer, later) →
      (answer = .failed ↔ said .warn "memory size unavailable"
        (opening ++ episodes.flatMap Episode.transcript) = 1)
  /-- The start looks for no adapter. -/
  adapter_start : said .debug "no GPU identified" opening = 0
  /-- A call that finds no adapter says so once, and any other call never. -/
  adapter : ∀ episode ∈ episodes, said .debug "no GPU identified" episode.transcript =
    if episode.accessor.missesAdapter episode.answer then 1 else 0
  /-- Every other warning is the verdict on a probe of a running chain whose query failed. -/
  warnings : ∀ transcript ∈ opening :: episodes.map Episode.transcript,
    Accounted config architecture transcript
  /-- A host that denies to have a driver or a display is asked for the adapter quietly. -/
  quiet : ∀ episode ∈ episodes, episode.accessor = .adapter ∨ episode.accessor = .adapter? →
    (∀ exchange, .asked exchange ∈ episode.transcript → exchange.1.IsGraphics →
      exchange.2 = .error .unavailable) →
    ∀ event, .logged event ∈ episode.transcript → event.level ≠ .warn

/-- At a start nothing of note is said but that it has come, and neither state is a failure. -/
structure Opens (opening : List Happening) (profiler : Profiler) : Prop where
  started : said .debug "hardware profiler initialized" opening = 1
  maxSpeed : said .warn "max cpu speed unavailable" opening = 0 ∧
    profiler.maxSpeed.isFailed = false
  memory : said .warn "memory size unavailable" opening = 0 ∧ profiler.memory.isFailed = false
  adapter : said .debug "no GPU identified" opening = 0

theorem opens_of_start {started : Profiler}
    (h : (Profiler.start config architecture).Unfolds opening started) :
    Opens opening started := by
  obtain ⟨-, -, hforget, searches, hcourse, rfl⟩ := exists_course_of_start h
  have htally := hcourse.tally
  have hspeed := Nat.add_eq_right.mp htally.maxSpeed
  have hmemory := Nat.add_eq_right.mp htally.memory
  refine ⟨?_, ⟨?_, ?_⟩, ⟨?_, ?_⟩, ?_⟩
  · rw [said_append, htally.started]
    rfl
  · rw [said_append, hspeed]
    rfl
  · rw [← hforget]
    rfl
  · rw [said_append, hmemory]
    rfl
  · rw [← hforget]
    rfl
  · rw [said_append, htally.adapter]
    rfl

/-- A start gives no warning but verdicts on probes whose query failed. -/
theorem accounted_start {started : Profiler}
    (h : (Profiler.start config architecture).Unfolds opening started) :
    Accounted config architecture opening := by
  obtain ⟨rfl, rfl, -, searches, hcourse, rfl⟩ := exists_course_of_start h
  exact hcourse.accounted.append (accounted_singleton (by rintro ⟨⟩))

/-- A life keeps the settings with which the profiler was started. -/
theorem Life.config_eq (h : Life config architecture opening episodes profiler) :
    profiler.config = config ∧ profiler.architecture = architecture := by
  obtain ⟨hconfig, harchitecture, -⟩ := exists_course_of_start h.unfolds_opening
  exact ⟨hconfig, harchitecture⟩

theorem Life.accounted_of_mem (h : Life config architecture opening episodes profiler)
    {episode : Episode} (hmem : episode ∈ episodes) :
    Accounted config architecture episode.transcript := by
  have haccounted := (h.course_of_mem hmem).accounted
  obtain ⟨hconfig, harchitecture⟩ := config_eq_of_forget (h.of_mem hmem).2
  rwa [hconfig.trans h.config_eq.1, harchitecture.trans h.config_eq.2] at haccounted

/-- Where every source of the adapter says that it does not exist, the adapter is asked for without
a warning. -/
theorem quiet_readAdapter? {transcript : List Happening} {answer : Option Adapter}
    {later : Profiler} (h : (readAdapter?.run profiler).Unfolds transcript (answer, later))
    (habsent : ∀ exchange, .asked exchange ∈ transcript → exchange.1.IsGraphics →
      exchange.2 = .error .unavailable) :
    ∀ event, .logged event ∈ transcript → event.level ≠ .warn := by
  rw [run_readAdapter?] at h
  obtain ⟨found, hreport, -⟩ := unfolds_map_iff.mp h
  obtain ⟨adapter, -, hfind⟩ | ⟨error, before, -, rfl, hfind⟩ := unfolds_orReport hreport
  · exact Metric.quiet_adapter hfind habsent
  · have hquiet := Metric.quiet_adapter hfind fun exchange hasked ↦
      habsent exchange (List.mem_append_left _ hasked)
    intro event hmem
    rcases List.mem_append.mp hmem with hmem | hmem
    · exact hquiet event hmem
    · cases List.mem_singleton.mp hmem
      simp [Event.level]

theorem Life.quiet_of_mem (h : Life config architecture opening episodes profiler)
    {episode : Episode} (hmem : episode ∈ episodes)
    (haccessor : episode.accessor = .adapter ∨ episode.accessor = .adapter?)
    (habsent : ∀ exchange, .asked exchange ∈ episode.transcript → exchange.1.IsGraphics →
      exchange.2 = .error .unavailable) :
    ∀ event, .logged event ∈ episode.transcript → event.level ≠ .warn := by
  have hcall := (h.of_mem hmem).1
  obtain ⟨before, accessor, answer, transcript, after⟩ := episode
  rcases haccessor with rfl | rfl
  · rw [read, run_readAdapter] at hcall
    obtain ⟨⟨found, later⟩, hfound, -⟩ := unfolds_map_iff.mp hcall
    exact quiet_readAdapter? hfound habsent
  · exact quiet_readAdapter? hcall habsent

theorem Life.maxSpeed_announces (h : Life config architecture opening episodes profiler) :
    Announces "max cpu speed unavailable" (·.maxSpeed.isFailed) opening episodes profiler :=
  h.announces (fun _ hstart ↦ (opens_of_start hstart).maxSpeed)
    fun hcourse ↦ hcourse.tally.maxSpeed

theorem Life.memory_announces (h : Life config architecture opening episodes profiler) :
    Announces "memory size unavailable" (·.memory.isFailed) opening episodes profiler :=
  h.announces (fun _ hstart ↦ (opens_of_start hstart).memory)
    fun hcourse ↦ hcourse.tally.memory

/-- Over a whole life, whatever the host answers at any time: the start is logged once, when the
profiler is there and with the values that the accessors report; the warning that the highest clock
or the memory is unknown is given just at the call that makes its state a failure, so once if the
state is reported to be a failure and never else; a missed adapter is noted once at every call that
misses it; any other warning is the verdict on a probe of a running chain whose query failed; and so
the adapter is asked for quietly where its sources do not exist. -/
theorem log_discipline (h : Life config architecture opening episodes profiler) :
    Discipline config architecture opening episodes profiler where
  opening_eq := by
    obtain ⟨-, -, -, searches, -, hopening⟩ := exists_course_of_start h.unfolds_opening
    exact ⟨searches, hopening⟩
  started := h.said_eq (fun _ ↦ 1) (fun _ hstart ↦ (opens_of_start hstart).started)
    fun hcourse ↦ by rw [hcourse.tally.started]
  repeats := fun episode hmem ↦ h.repeats_of_mem hmem
  maxSpeed := h.maxSpeed_announces
  memory := h.memory_announces
  maxSpeedState := by
    intro transcript answer later hcall
    cases (unfolds_pure_iff.mp hcall).2
    rw [h.maxSpeed_announces.total]
    exact Resolved.eq_failed_iff
  memoryState := by
    intro transcript answer later hcall
    cases (unfolds_pure_iff.mp hcall).2
    rw [h.memory_announces.total]
    exact Resolved.eq_failed_iff
  adapter_start := (opens_of_start h.unfolds_opening).adapter
  adapter := by
    intro episode hmem
    rw [(h.course_of_mem hmem).tally.adapter]
    cases episode.accessor.missesAdapter episode.answer <;> rfl
  warnings := by
    refine List.forall_mem_cons.mpr ⟨accounted_start h.unfolds_opening, ?_⟩
    exact List.forall_mem_map.mpr fun episode hmem ↦ h.accounted_of_mem hmem
  quiet := fun episode hmem ↦ h.quiet_of_mem hmem

/-- On a host that answers nothing, the clock in use, the adapter and a summary warn of the unknown
clock once and of the unknown memory once, and note twice that there is no adapter. -/
theorem log_discipline_silent :
    let started := (start .standard .x64).value .silent
    let opening := (start .standard .x64).transcript .silent
    let history := [⟨.silent, .currentSpeed⟩, ⟨.silent, .adapter⟩, ⟨.silent, .summary⟩]
    let transcript := opening ++ (started.episodes history).flatMap Episode.transcript
    Life .standard .x64 opening (started.episodes history) (started.afterAll history) ∧
      Discipline .standard .x64 opening (started.episodes history) (started.afterAll history) ∧
      said .warn "max cpu speed unavailable" transcript = 1 ∧
      said .warn "memory size unavailable" transcript = 1 ∧
      said .debug "no GPU identified" transcript = 2 := by
  refine ⟨life_history .standard .x64 .silent _,
    log_discipline (life_history .standard .x64 .silent _), ?_, ?_, ?_⟩
  · decide +kernel
  · decide +kernel
  · decide +kernel

end Profiler

end HostProfile
