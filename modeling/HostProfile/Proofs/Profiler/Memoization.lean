import HostProfile.Proofs.Profiler.Reading
import Mathlib.Data.List.Nodup

/-!
# Memoization over whole histories

The host may be another one at every step of a history. What a cell holds after the history is
nevertheless decided by one step, the first that reads the memo: the cell is unset before it and
holds from then on what the chain of the memo came to on the host of that step
(`cell_afterAll`). What was found out when the profiler was started never changes at all
(`forget_afterAll`).

The questions that only a memo asks are counted with an allowance: one as long as the cell is unset,
none afterwards. Every reading pays for such a question with the allowance (`thrifty_read`), so a
history asks it once at most.
-/

set_option autoImplicit false
set_option relaxedAutoImplicit false

namespace HostProfile

namespace Profiler

/-! ### Steps and histories -/

/-- The memos that a step reads. -/
def Step.memos (config : Config) (architecture : Architecture) (step : Step) : List Memo :=
  step.accessor.memos
    ((Metric.currentSpeed.run config architecture).value step.source).toOption

variable (profiler : Profiler)

theorem answer_visit (step : Step) :
    (profiler.visit step).answer = profiler.answer step.source step.accessor :=
  congrArg Prod.fst (value_run_read profiler step.source step.accessor)

theorem after_eq (step : Step) :
    profiler.after step =
      profiler.rememberAll step.source (step.memos profiler.config profiler.architecture) :=
  congrArg Prod.snd (value_run_read profiler step.source step.accessor)

@[simp] theorem forget_after (step : Step) : (profiler.after step).forget = profiler.forget := by
  rw [after_eq, forget_rememberAll]

@[simp] theorem config_after (step : Step) : (profiler.after step).config = profiler.config :=
  (congrArg config (profiler.forget_after step) :)

@[simp] theorem architecture_after (step : Step) :
    (profiler.after step).architecture = profiler.architecture :=
  (congrArg architecture (profiler.forget_after step) :)

/-- A step sets the cells of the memos it reads, unless they are set already. -/
theorem cell_after (step : Step) (memo : Memo) :
    memo.cell (profiler.after step) =
      if memo ∈ step.memos profiler.config profiler.architecture then
        some (memo.now profiler step.source)
      else memo.cell profiler := by
  rw [after_eq, cell_rememberAll]

theorem cell_after_of_cell {memo : Memo} {value : memo.Value}
    (h : memo.cell profiler = some value) (step : Step) :
    memo.cell (profiler.after step) = some value := by
  rw [cell_after, Memo.now_of_cell profiler h, h, ite_self]

/-- Nothing that was found out at the start changes over a history. -/
@[simp] theorem forget_afterAll (history : List Step) :
    (profiler.afterAll history).forget = profiler.forget := by
  induction history generalizing profiler with
  | nil => rfl
  | cons step rest ih => exact (ih _).trans (profiler.forget_after step)

@[simp] theorem config_afterAll (history : List Step) :
    (profiler.afterAll history).config = profiler.config :=
  (congrArg config (profiler.forget_afterAll history) :)

@[simp] theorem architecture_afterAll (history : List Step) :
    (profiler.afterAll history).architecture = profiler.architecture :=
  (congrArg architecture (profiler.forget_afterAll history) :)

/-- A cell that is set keeps its value. -/
theorem cell_afterAll_of_cell {memo : Memo} {value : memo.Value}
    (h : memo.cell profiler = some value) (history : List Step) :
    memo.cell (profiler.afterAll history) = some value := by
  induction history generalizing profiler with
  | nil => exact h
  | cons step rest ih => exact ih _ (profiler.cell_after_of_cell h step)

/-- A cell that is unset gets its value from the first step that reads the memo. -/
theorem cell_afterAll {memo : Memo} (h : memo.cell profiler = none) (history : List Step) :
    memo.cell (profiler.afterAll history) =
      (history.find? fun step ↦ memo ∈ step.memos profiler.config profiler.architecture).map
        fun step ↦ memo.found profiler.config profiler.architecture step.source := by
  induction history generalizing profiler with
  | nil => exact h
  | cons step rest ih =>
    have hcell := profiler.cell_after step memo
    by_cases hmem : memo ∈ step.memos profiler.config profiler.architecture
    · rw [if_pos hmem, Memo.now, h, Option.getD_none] at hcell
      rw [List.find?_cons_of_pos (by simpa using hmem), Option.map_some]
      exact (profiler.after step).cell_afterAll_of_cell hcell rest
    · rw [if_neg hmem, h] at hcell
      rw [List.find?_cons_of_neg (by simpa using hmem)]
      have hrest := ih (profiler.after step) hcell
      rw [config_after, architecture_after] at hrest
      exact hrest

/-! ### The start -/

theorem forget_start (config : Config) (architecture : Architecture) (source : Source) :
    ((start config architecture).value source).forget =
      (start config architecture).value source := by
  simp [start, forget]

theorem config_start (config : Config) (architecture : Architecture) (source : Source) :
    ((start config architecture).value source).config = config := by
  simp [start]

theorem architecture_start (config : Config) (architecture : Architecture) (source : Source) :
    ((start config architecture).value source).architecture = architecture := by
  simp [start]

theorem cell_start (config : Config) (architecture : Architecture) (source : Source)
    (memo : Memo) : memo.cell ((start config architecture).value source) = none := by
  cases memo <;> simp [start, Memo.cell, Resolved.cell]

end Profiler

/-! ### Questions that only a memo asks -/

namespace Memo

/-- The metric behind a memo. -/
def kind : Memo → Metric.Kind
  | .vendor => .vendor
  | .maxSpeed => .maxSpeed
  | .memory => .memory
  | .machineModel => .model

/-- The metrics behind the memos. -/
def kinds : List Metric.Kind := [.vendor, .maxSpeed, .memory, .model]

theorem kind_mem_kinds (memo : Memo) : memo.kind ∈ kinds := by
  cases memo <;> simp [kind, kinds]

/-- The questions that are put for the sake of one memo only. -/
def questions : Memo → List Query
  | .vendor => []
  | .maxSpeed => [.parameter "hw.cpufrequency_max", .registryMhz, .frequencyKhz .maximum]
  | .memory => [.memory]
  | .machineModel => [.textParameter "hw.model", .firmware]

theorem calls_find (config : Config) (architecture : Architecture) (source : Source)
    (memo : Memo) :
    (memo.find config architecture).calls source =
      (memo.kind.find config architecture).calls source := by
  cases memo <;> simp [find, kind, Metric.Kind.find]

theorem kind_eq_of_mem_questions {memo : Memo} {q : Query} (h : q ∈ memo.questions)
    {kind : Metric.Kind} (hkind : q ∈ kind.questions) : kind = memo.kind := by
  have hall : ∀ q ∈ memo.questions, q ∈ kind.questions → kind = memo.kind := by
    cases memo <;> cases kind <;>
      simp [questions, Memo.kind, Metric.Kind.questions, Metric.Kind.agenda]
  exact hall q h hkind

theorem not_mem_calls_find {memo : Memo} {q : Query} (h : q ∈ memo.questions)
    {kind : Metric.Kind} (hkind : kind ≠ memo.kind) (config : Config)
    (architecture : Architecture) (source : Source) :
    q ∉ (kind.find config architecture).calls source := fun hq ↦
  hkind (kind_eq_of_mem_questions h ((kind.calls_find_sublist config architecture source).mem hq))

/-- Finding a metric that no memo keeps puts no question of a memo. -/
theorem not_mem_calls_find_of_notMem_kinds {memo : Memo} {q : Query} (h : q ∈ memo.questions)
    {kind : Metric.Kind} (hkind : kind ∉ kinds) (config : Config) (architecture : Architecture)
    (source : Source) : q ∉ (kind.find config architecture).calls source := by
  refine not_mem_calls_find h ?_ config architecture source
  rintro rfl
  exact hkind memo.kind_mem_kinds

theorem count_calls_find_le_one (q : Query) (config : Config) (architecture : Architecture)
    (source : Source) (memo : Memo) :
    ((memo.find config architecture).calls source).count q ≤ 1 := by
  rw [calls_find]
  exact Nat.le_trans ((memo.kind.calls_find_sublist config architecture source).count_le q)
    (List.nodup_iff_count_le_one.mp memo.kind.nodup_questions q)

/-- One question may still be put for a memo as long as its cell is unset. -/
def allowance (memo : Memo) (profiler : Profiler) : Nat :=
  if (memo.cell profiler).isSome then 0 else 1

end Memo

namespace Profiling

variable {α β : Type} {memo : Memo} {q : Query}

/-- A reading puts a question no more often than it uses up the allowance of a memo. -/
def Thrifty (memo : Memo) (q : Query) (reading : Profiling α) : Prop :=
  ∀ profiler source, ((reading.run profiler).calls source).count q +
    memo.allowance ((reading.run profiler).value source).2 ≤ memo.allowance profiler

theorem thrifty_of_unchanged {reading : Profiling α}
    (hcalls : ∀ profiler source, q ∉ (reading.run profiler).calls source)
    (hvalue : ∀ profiler source, ((reading.run profiler).value source).2 = profiler) :
    Thrifty memo q reading := by
  intro profiler source
  have hcount := List.count_eq_zero.mpr (hcalls profiler source)
  rw [hvalue]
  omega

theorem thrifty_pure (a : α) : Thrifty memo q (pure a) :=
  thrifty_of_unchanged (fun _ _ ↦ List.not_mem_nil) fun _ _ ↦ rfl

theorem thrifty_get : Thrifty memo q get :=
  thrifty_of_unchanged (fun _ _ ↦ List.not_mem_nil) fun _ _ ↦ rfl

theorem Thrifty.bind {reading : Profiling α} {next : α → Profiling β}
    (h : Thrifty memo q reading) (hnext : ∀ a, Thrifty memo q (next a)) :
    Thrifty memo q (reading >>= next) := by
  intro profiler source
  have hfirst := h profiler source
  have hsecond := hnext ((reading.run profiler).value source).1
    ((reading.run profiler).value source).2 source
  rw [StateT.run_bind, Probing.calls_bind, Probing.value_bind, List.count_append]
  omega

/-- Reading any memo is thrifty with the questions of each. -/
theorem thrifty_read (h : q ∈ memo.questions) (other : Memo) : Thrifty memo q other.read := by
  intro profiler source
  rw [Memo.value_read]
  cases hcell : other.cell profiler with
  | some value =>
    rw [Memo.calls_read_of_cell profiler source other hcell,
      Profiler.remember_of_cell profiler source hcell, List.count_nil]
    exact Nat.le_of_eq (Nat.zero_add _)
  | none =>
    rw [Memo.calls_read_of_unset profiler source other hcell]
    by_cases hmemo : memo = other
    · subst hmemo
      have hcount :=
        Memo.count_calls_find_le_one q profiler.config profiler.architecture source memo
      simpa [Memo.allowance, hcell] using hcount
    · have hkind : other.kind ≠ memo.kind := by
        revert hmemo
        cases memo <;> cases other <;> simp [Memo.kind]
      have hcount := List.count_eq_zero.mpr
        (Memo.not_mem_calls_find h hkind profiler.config profiler.architecture source)
      rw [Memo.calls_find, hcount, Memo.allowance, Memo.allowance,
        Profiler.cell_remember_of_ne profiler source hmemo]
      exact Nat.le_of_eq (Nat.zero_add _)

theorem thrifty_lift {p : Probing α} (h : ∀ source, q ∉ p.calls source) :
    Thrifty memo q (liftM p) := by
  refine thrifty_of_unchanged (fun profiler source ↦ ?_) fun profiler source ↦ ?_
  · rw [StateT.run_monadLift, monadLift_self, bind_pure_comp, Probing.calls_map]
    exact h source
  · rw [StateT.run_monadLift, monadLift_self, bind_pure_comp, Probing.value_map]

/-- Finding a metric that no memo keeps is thrifty. -/
theorem thrifty_find (h : q ∈ memo.questions) (kind : Metric.Kind) (hkind : kind ∉ Memo.kinds)
    (profiler : Profiler) :
    Thrifty memo q (liftM (kind.find profiler.config profiler.architecture)) :=
  thrifty_lift fun source ↦
    Memo.not_mem_calls_find_of_notMem_kinds h hkind profiler.config profiler.architecture source

theorem thrifty_readCurrentCpus (h : q ∈ memo.questions) :
    Thrifty memo q Profiler.readCurrentCpus :=
  thrifty_get.bind fun profiler ↦
    (thrifty_find h .currentCpus (by decide) profiler).bind fun _ ↦ thrifty_pure _

theorem thrifty_readAdapter? (h : q ∈ memo.questions) : Thrifty memo q Profiler.readAdapter? := by
  refine thrifty_get.bind fun profiler ↦
    (thrifty_find h .adapter (by decide) profiler).bind fun outcome ↦ ?_
  rcases outcome with error | adapter
  · exact (thrifty_lift fun _ ↦ List.not_mem_nil).bind fun _ ↦ thrifty_pure _
  · exact thrifty_pure _

theorem thrifty_readMaxSpeed (h : q ∈ memo.questions) : Thrifty memo q Profiler.readMaxSpeed :=
  (thrifty_read h .maxSpeed).bind fun _ ↦ thrifty_pure _

theorem thrifty_readCurrentSpeed (h : q ∈ memo.questions) :
    Thrifty memo q Profiler.readCurrentSpeed := by
  refine thrifty_get.bind fun profiler ↦
    (thrifty_find h .currentSpeed (by decide) profiler).bind fun outcome ↦ ?_
  rcases outcome with error | mhz
  · exact thrifty_readMaxSpeed h
  · exact thrifty_pure _

theorem thrifty_readSummary (h : q ∈ memo.questions) : Thrifty memo q Profiler.readSummary :=
  thrifty_get.bind fun _ ↦ (thrifty_read h .vendor).bind fun _ ↦
    (thrifty_readCurrentCpus h).bind fun _ ↦ (thrifty_read h .maxSpeed).bind fun _ ↦
      (thrifty_readCurrentSpeed h).bind fun _ ↦ (thrifty_read h .memory).bind fun _ ↦
        (thrifty_read h .machineModel).bind fun _ ↦ (thrifty_readAdapter? h).bind fun _ ↦
          thrifty_pure _

/-- Every accessor is thrifty with the questions of every memo. -/
theorem thrifty_accessor (h : q ∈ memo.questions) (accessor : Accessor) :
    Thrifty memo q (Profiler.read accessor) := by
  cases accessor with
  | currentCpus => exact thrifty_readCurrentCpus h
  | vendor => exact thrifty_read h .vendor
  | maxSpeed => exact thrifty_readMaxSpeed h
  | currentSpeed => exact thrifty_readCurrentSpeed h
  | memory => exact (thrifty_read h .memory).bind fun _ ↦ thrifty_pure _
  | machineModel => exact thrifty_read h .machineModel
  | modelUnknown => exact (thrifty_read h .machineModel).bind fun _ ↦ thrifty_pure _
  | adapter =>
    refine (thrifty_readAdapter? h).bind fun found ↦ ?_
    rcases found with _ | adapter <;> exact thrifty_pure _
  | adapter? => exact thrifty_readAdapter? h
  | summary => exact thrifty_readSummary h
  | logicalCpus | physicalCpus | architecture | cacheSize | family | model | stepping
  | maxSpeedState | memoryState => exact thrifty_get.bind fun _ ↦ thrifty_pure _

end Profiling

namespace Profiler

variable (profiler : Profiler) {memo : Memo} {q : Query}

theorem count_calls_visit_add_le (h : q ∈ memo.questions) (step : Step) :
    (profiler.visit step).calls.count q + memo.allowance (profiler.after step) ≤
      memo.allowance profiler :=
  Profiling.thrifty_accessor h step.accessor profiler step.source

/-- The questions of a memo are put by a step only if it sets the cell. -/
theorem unset_of_mem_calls_visit (h : q ∈ memo.questions) (step : Step)
    (hq : q ∈ (profiler.visit step).calls) :
    memo.cell profiler = none ∧ memo ∈ step.memos profiler.config profiler.architecture := by
  have hle := profiler.count_calls_visit_add_le h step
  have hpos := List.count_pos_iff.mpr hq
  have hcell := profiler.cell_after step memo
  cases hbefore : memo.cell profiler with
  | some value =>
    simp only [Memo.allowance, hbefore, Option.isSome_some, if_true] at hle
    omega
  | none =>
    refine ⟨rfl, ?_⟩
    by_cases hmem : memo ∈ step.memos profiler.config profiler.architecture
    · exact hmem
    · rw [if_neg hmem, hbefore] at hcell
      simp only [Memo.allowance, hbefore, hcell, Option.isSome_none, Bool.false_eq_true,
        if_false] at hle
      omega

/-- Over a history a question of a memo is put at most as often as the allowance tells. -/
theorem count_calls_visits_le (h : q ∈ memo.questions) (history : List Step) :
    ((profiler.visits history).flatMap Visit.calls).count q ≤ memo.allowance profiler := by
  induction history generalizing profiler with
  | nil => exact Nat.zero_le _
  | cons step rest ih =>
    have hstep := profiler.count_calls_visit_add_le h step
    have hrest := ih (profiler.after step)
    rw [visits, List.flatMap_cons, List.count_append]
    omega

/-- The start puts no question of a memo. -/
theorem not_mem_calls_start (h : q ∈ memo.questions) (config : Config)
    (architecture : Architecture) (source : Source) :
    q ∉ (start config architecture).calls source := by
  have hnot (kind : Metric.Kind) (hkind : kind ∉ Memo.kinds) :=
    Memo.not_mem_calls_find_of_notMem_kinds h hkind config architecture source
  have hlogical := hnot .logicalCpus (by decide)
  have hphysical := hnot .physicalCpus (by decide)
  have hsignature := hnot .signature (by decide)
  have hcache := hnot .cacheSize (by decide)
  simp only [Metric.Kind.find] at hlogical hphysical hsignature hcache
  simp [start, hlogical, hphysical, hsignature, hcache]

end Profiler

/-! ### What is reported of a memo -/

/-- What an answer has to say where a memo holds a value. Accessors that show nothing of the memo
are free. -/
def Memo.Reports : (memo : Memo) → memo.Value → (accessor : Accessor) → accessor.Answer → Prop
  | .vendor, value, .vendor, answer => answer = value
  | .vendor, value, .summary, answer => answer.vendor = value
  | .maxSpeed, value, .maxSpeed, answer => answer = (value.map Profiler.speed).getD (-1)
  | .maxSpeed, value, .maxSpeedState, answer => answer = .ofProbe value
  | .maxSpeed, value, .summary, answer => answer.maxSpeed = value
  | .memory, value, .memory, answer => answer = value.getD (-1)
  | .memory, value, .memoryState, answer => answer = .ofProbe value
  | .memory, value, .summary, answer => answer.memory = value
  | .machineModel, value, .machineModel, answer => answer = value
  | .machineModel, value, .modelUnknown, answer => answer = (value == Profiler.unknownModel)
  | .machineModel, value, .summary, answer => answer.machineModel = value
  | _, _, _, _ => True

namespace Profiler

variable (profiler : Profiler)

/-- An accessor other than the two states reports the value that a memo has or gets. -/
theorem reports_now (memo : Memo) (source : Source) {accessor : Accessor}
    (hspeed : accessor ≠ .maxSpeedState) (hmemory : accessor ≠ .memoryState) :
    memo.Reports (memo.now profiler source) accessor (profiler.answer source accessor) := by
  cases memo <;> cases accessor <;> first | rfl | trivial

theorem reports_of_cell {memo : Memo} {value : memo.Value} (h : memo.cell profiler = some value)
    (step : Step) : memo.Reports value step.accessor (profiler.visit step).answer := by
  obtain ⟨source, accessor⟩ := step
  rw [answer_visit]
  by_cases hspeed : accessor = .maxSpeedState
  · subst hspeed
    cases memo with
    | maxSpeed => exact Resolved.eq_ofProbe_of_cell h
    | vendor | memory | machineModel => trivial
  · by_cases hmemory : accessor = .memoryState
    · subst hmemory
      cases memo with
      | memory => exact Resolved.eq_ofProbe_of_cell h
      | vendor | maxSpeed | machineModel => trivial
    · have hnow := profiler.reports_now memo source hspeed hmemory
      rwa [Memo.now_of_cell profiler h] at hnow

theorem reports_of_mem_memos {memo : Memo} (h : memo.cell profiler = none) {step : Step}
    (hmem : memo ∈ step.memos profiler.config profiler.architecture) :
    memo.Reports (memo.found profiler.config profiler.architecture step.source) step.accessor
      (profiler.visit step).answer := by
  obtain ⟨source, accessor⟩ := step
  rw [answer_visit]
  have hspeed : accessor ≠ .maxSpeedState := by
    rintro rfl
    simp [Step.memos, Accessor.memos] at hmem
  have hmemory : accessor ≠ .memoryState := by
    rintro rfl
    simp [Step.memos, Accessor.memos] at hmem
  have hnow := profiler.reports_now memo source hspeed hmemory
  rwa [Memo.now, h, Option.getD_none] at hnow

/-- Over every history of a host that may change between the steps, what was found out at the start
stays as it is; each memo is found out by the first step that reads it, on the host as it is then,
and is reported so by that step and by every later one; and the questions that only a memo asks
are put at most once, never at the start, and only by the step that finds the memo out. -/
theorem memoization (config : Config) (architecture : Architecture) (first : Source)
    (history : List Step) :
    let started := (start config architecture).value first
    let profiler := started.afterAll history
    profiler.forget = started ∧
    (∀ memo : Memo, memo.cell started = none ∧ memo.cell profiler =
      (history.find? fun step ↦ memo ∈ step.memos config architecture).map
        fun step ↦ memo.found config architecture step.source) ∧
    (∀ (memo : Memo) (step : Step), memo.cell profiler = none →
      memo ∈ step.memos config architecture →
        memo.cell (profiler.after step) = some (memo.found config architecture step.source) ∧
        memo.Reports (memo.found config architecture step.source) step.accessor
          (profiler.visit step).answer) ∧
    (∀ (memo : Memo) (value : memo.Value), memo.cell profiler = some value →
      ∀ later : List Step, memo.cell (profiler.afterAll later) = some value ∧
        ∀ step : Step, memo.Reports value step.accessor
          ((profiler.afterAll later).visit step).answer) ∧
    ∀ memo : Memo, ∀ q ∈ memo.questions,
      q ∉ (start config architecture).calls first ∧
      ((start config architecture).calls first ++
        (started.visits history).flatMap Visit.calls).count q ≤ 1 ∧
      ∀ step : Step, q ∈ (profiler.visit step).calls →
        memo.cell profiler = none ∧ memo ∈ step.memos config architecture := by
  intro started profiler
  have hconfig : profiler.config = config :=
    (started.config_afterAll history).trans (config_start config architecture first)
  have harchitecture : profiler.architecture = architecture :=
    (started.architecture_afterAll history).trans (architecture_start config architecture first)
  refine ⟨?_, fun memo ↦ ?_, fun memo step hcell hmem ↦ ?_, fun memo value hcell later ↦ ?_,
    fun memo q hq ↦ ?_⟩
  · exact (started.forget_afterAll history).trans (forget_start config architecture first)
  · have hunset := cell_start config architecture first memo
    have hcell := started.cell_afterAll hunset history
    rw [config_start, architecture_start] at hcell
    exact ⟨hunset, hcell⟩
  · rw [← hconfig, ← harchitecture] at hmem ⊢
    refine ⟨?_, profiler.reports_of_mem_memos hcell hmem⟩
    rw [cell_after, if_pos hmem, Memo.now, hcell, Option.getD_none]
  · have hlater := profiler.cell_afterAll_of_cell hcell later
    exact ⟨hlater, (profiler.afterAll later).reports_of_cell hlater⟩
  · have hstart := not_mem_calls_start hq config architecture first
    have hcount := started.count_calls_visits_le hq history
    rw [Memo.allowance, cell_start] at hcount
    refine ⟨hstart, ?_, fun step hstep ↦ ?_⟩
    · rw [List.count_append, List.count_eq_zero.mpr hstart, Nat.zero_add]
      exact hcount
    · rw [← hconfig, ← harchitecture]
      exact profiler.unset_of_mem_calls_visit hq step hstep

end Profiler

end HostProfile
