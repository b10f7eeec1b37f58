import HostProfile.Proofs.Profiler.Memoization

/-!
# Plausible answers

Whatever a host answers, and however it changes, a profiler reports values that can be right or the
marker of an unknown one. A chain lets through only what it takes to be usable, so what a metric is
found to be is plausible (`plausible_find`), and so is what stands in for it where it is not found
(`plausible_found`). A profiler is plausible if all that it has found out so far is; this holds from
the start and is preserved by every step (`plausible_start`, `plausible_after`), and each accessor
of a plausible profiler has a plausible answer (`Plausible.answer`).

Answers of different accessors also have to fit together: a number and the state behind it, the
clock in use and the highest clock, the family and the model of a processor (`Coherent`).
-/

set_option autoImplicit false
set_option relaxedAutoImplicit false

namespace HostProfile

variable (config : Config) (architecture : Architecture) (source : Source)

/-! ### Plausible values -/

/-- A text with a character that is not blank. -/
def Text.Visible (text : String) : Prop :=
  ∃ c ∈ text.toList, isBlank c = false

/-- A text that is not empty and has no blank characters at either end. -/
def Text.Tidy (text : String) : Prop :=
  text ≠ "" ∧ trimmed text = text

/-- A signature without a family tells nothing else. -/
def Signature.Whole (s : Signature) : Prop :=
  s.family = 0 → s.model = 0 ∧ s.stepping = 0

/-- A speed as a number: unknown, or positive and within the limit. -/
def Profiler.PlausibleSpeed (speed : Int) : Prop :=
  speed = -1 ∨ 1 ≤ speed ∧ speed ≤ speedLimit

theorem Text.visible_iff {text : String} : Visible text ↔ blank text = false := by
  simp [Visible, blank, isAllBlank]

/-- Trimming a text that is not blank leaves a tidy one. -/
theorem Text.tidy_trimmed {text : String} (h : blank text = false) : Tidy (trimmed text) := by
  constructor
  · intro hempty
    have hnil : trim text.toList = [] := by
      simpa [trimmed] using congrArg String.toList hempty
    rw [trim_eq_nil_iff, ← blank, h] at hnil
    contradiction
  · simp [trimmed, trim_trim]

theorem Architecture.visible_vendorFallback : Text.Visible architecture.vendorFallback := by
  rw [Text.visible_iff]
  cases architecture <;> decide

theorem Text.tidy_unknownModel : Tidy Profiler.unknownModel := by
  constructor <;> decide

/-! ### What chains let through -/

/-- A chain ends with a usable value or with none. -/
theorem Chain.usable_of_value_run {α : Type} {chain : Chain α} {value : α}
    (h : (chain.run config architecture).value source = .ok value) : chain.usable value = true := by
  rw [run, value_firstUsable] at h
  cases hwinner : winner? chain.usable config architecture source chain.probes with
  | none => simp [hwinner] at h
  | some probe =>
    obtain ⟨found, -, houtcome, husable⟩ := Probe.settles_iff.mp (List.find?_some hwinner)
    have heq : found = value := by
      simpa [hwinner, houtcome] using h
    exact heq ▸ husable

namespace Metric.Kind

/-- The values that a metric can be found to be. -/
def Plausible : (kind : Kind) → kind.Value → Prop
  | .logicalCpus | .physicalCpus | .currentCpus | .maxSpeed | .currentSpeed => fun n ↦ 0 < n
  | .vendor => Text.Visible
  | .signature => fun s ↦ 0 < s.family
  | .cacheSize => fun bytes ↦ 0 < bytes
  | .memory => fun bytes ↦ 0 < bytes
  | .model => Text.Tidy
  | .adapter => fun _ ↦ True

/-- A usable value of a chain makes a plausible metric. -/
theorem plausible_finish_ok {kind : Kind} {found : kind.Found} {value : kind.Value}
    (husable : kind.chain.usable found = true)
    (h : kind.finish architecture (.ok found) = .ok value) : kind.Plausible value := by
  cases kind with
  | vendor =>
    cases h
    have hname : Text.blank found = false := by
      simpa [chain, vendorChain] using husable
    exact Text.visible_iff.mpr hname
  | model =>
    cases h
    exact Text.tidy_trimmed (by simpa [chain, modelChain] using husable)
  | adapter => trivial
  | logicalCpus | physicalCpus | currentCpus | signature | cacheSize | maxSpeed | currentSpeed
  | memory =>
    cases h
    simpa [chain, Metric.logicalCpus, Metric.physicalCpus, Metric.currentCpus, Metric.signature,
      cacheLevels, Metric.maxSpeed, Metric.currentSpeed, Metric.memory, positive, Plausible]
      using husable

/-- Where a chain ends without a value, only the vendor is found, as the name that stands in. -/
theorem plausible_finish_error {kind : Kind} {error : ProbeError} {value : kind.Value}
    (h : kind.finish architecture (.error error) = .ok value) : kind.Plausible value := by
  cases kind with
  | vendor =>
    cases h
    exact architecture.visible_vendorFallback
  | logicalCpus | physicalCpus | currentCpus | signature | cacheSize | maxSpeed | currentSpeed
  | memory | model | adapter => cases h

/-- What a metric is found to be is plausible. -/
theorem plausible_find {kind : Kind} {value : kind.Value}
    (h : (kind.find config architecture).value source = .ok value) : kind.Plausible value := by
  rw [find_eq, Probing.value_map] at h
  cases hrun : (kind.chain.run config architecture).value source with
  | ok found =>
    rw [hrun] at h
    exact plausible_finish_ok architecture
      (Chain.usable_of_value_run config architecture source hrun) h
  | error error =>
    rw [hrun] at h
    exact plausible_finish_error architecture h

/-- Where a metric is found at all, it is plausible. -/
theorem plausible_of_mem_toOption (kind : Kind) {value : kind.Value}
    (h : value ∈ ((kind.find config architecture).value source).toOption) :
    kind.Plausible value := by
  cases hfind : (kind.find config architecture).value source with
  | ok found =>
    rw [hfind] at h
    cases h
    exact plausible_find config architecture source hfind
  | error error =>
    rw [hfind] at h
    cases h

end Metric.Kind

/-! ### What is remembered -/

namespace Memo

/-- The values that a memo can have. -/
def Plausible : (memo : Memo) → memo.Value → Prop
  | .vendor => Text.Visible
  | .maxSpeed => fun found ↦ ∀ mhz ∈ found, 0 < mhz
  | .memory => fun found ↦ ∀ bytes ∈ found, 0 < bytes
  | .machineModel => Text.Tidy

/-- What a memo is found to be is plausible on every host. -/
theorem plausible_found (memo : Memo) :
    memo.Plausible (memo.found config architecture source) := by
  have hfind (kind : Metric.Kind) (value : kind.Value) :=
    @Metric.Kind.plausible_of_mem_toOption config architecture source kind value
  cases memo with
  | vendor =>
    refine hfind .vendor _ ?_
    rw [Metric.Kind.find, Probing.value_map]
    rfl
  | maxSpeed => exact hfind .maxSpeed
  | memory => exact hfind .memory
  | machineModel =>
    have hmodel := hfind .model
    rw [Metric.Kind.find] at hmodel
    unfold found
    cases h : ((Metric.model config architecture).value source).toOption with
    | none => exact Text.tidy_unknownModel
    | some name => exact hmodel name h

end Memo

/-! ### Plausible profilers -/

namespace Profiler

/-- Everything that a profiler has found out so far is plausible. -/
structure Plausible (profiler : Profiler) : Prop where
  logicalCpus : 0 < profiler.logicalCpus
  physicalCpus : 0 < profiler.physicalCpus
  signature : profiler.signature.Whole
  cell : ∀ (memo : Memo) (value : memo.Value),
    memo.cell profiler = some value → memo.Plausible value

/-- A profiler is plausible when it is started. -/
theorem plausible_start : ((start config architecture).value source).Plausible := by
  have hfind (kind : Metric.Kind) (value : kind.Value) :=
    @Metric.Kind.plausible_of_mem_toOption config architecture source kind value
  have hlogical : 0 < ((start config architecture).value source).logicalCpus := by
    have hplausible := hfind .logicalCpus
    simp only [Metric.Kind.find, Metric.Kind.Plausible] at hplausible
    simp only [start, Probing.value_bind, Probing.value_pure]
    cases h : ((Metric.logicalCpus.run config architecture).value source).toOption with
    | none => decide
    | some n => exact hplausible n h
  constructor
  case logicalCpus => exact hlogical
  case physicalCpus =>
    simp only [start, Probing.value_bind, Probing.value_pure] at hlogical ⊢
    cases h : (((Metric.physicalCpus.run config architecture).value source).toOption.filter
      (0 < ·)) with
    | none => exact hlogical
    | some n => simpa using (Option.filter_eq_some_iff.mp h).2
  case signature =>
    have hplausible := hfind .signature
    simp only [Metric.Kind.find, Metric.Kind.Plausible] at hplausible
    simp only [start, Probing.value_bind, Probing.value_pure]
    cases h : ((Metric.signature.run config architecture).value source).toOption with
    | none => exact fun _ ↦ ⟨rfl, rfl⟩
    | some s =>
      intro hfamily
      have hpos := hplausible s h
      rw [Option.getD_some] at hfamily
      rw [hfamily] at hpos
      contradiction
  case cell =>
    intro memo value h
    rw [cell_start] at h
    contradiction

variable {profiler : Profiler}

/-- What a memo has or would get on a host is plausible. -/
theorem Plausible.now (h : profiler.Plausible) (memo : Memo) :
    memo.Plausible (memo.now profiler source) := by
  rw [Memo.now]
  cases hcell : memo.cell profiler with
  | none => exact memo.plausible_found _ _ source
  | some value => exact h.cell memo value hcell

/-- Every step leaves a plausible profiler. -/
theorem plausible_after (h : profiler.Plausible) (step : Step) :
    (profiler.after step).Plausible := by
  have hforget := profiler.forget_after step
  have hlogical : (profiler.after step).logicalCpus = profiler.logicalCpus :=
    (congrArg Profiler.logicalCpus hforget :)
  have hphysical : (profiler.after step).physicalCpus = profiler.physicalCpus :=
    (congrArg Profiler.physicalCpus hforget :)
  have hsignature : (profiler.after step).signature = profiler.signature :=
    (congrArg Profiler.signature hforget :)
  constructor
  case logicalCpus => exact hlogical ▸ h.logicalCpus
  case physicalCpus => exact hphysical ▸ h.physicalCpus
  case signature => exact hsignature ▸ h.signature
  case cell =>
    intro memo value hcell
    rw [cell_after] at hcell
    split at hcell
    · cases hcell
      exact h.now step.source memo
    · exact h.cell memo value hcell

/-- Every history leaves a plausible profiler. -/
theorem plausible_afterAll (h : profiler.Plausible) (history : List Step) :
    (profiler.afterAll history).Plausible := by
  induction history generalizing profiler with
  | nil => exact h
  | cons step rest ih => exact ih (plausible_after h step)

/-! ### Numbers for speeds -/

theorem speed_bounds {mhz : UInt32} (h : 0 < mhz) : 1 ≤ speed mhz ∧ speed mhz ≤ speedLimit := by
  have hpos : 0 < mhz.toNat := h
  simp only [speed, speedLimit]
  omega

theorem plausibleSpeed_speedNumber {found : Option UInt32} (h : ∀ mhz ∈ found, 0 < mhz) :
    PlausibleSpeed (speedNumber found) := by
  cases found with
  | none => exact .inl rfl
  | some mhz => exact .inr (speed_bounds (h mhz rfl))

/-- The number for a highest clock tells whether the clock is known. -/
theorem speedNumber_eq_neg_one_iff {found : Option UInt32} :
    speedNumber found = -1 ↔ found = none := by
  cases found with
  | none => simp [speedNumber]
  | some mhz =>
    simp only [speedNumber, speed, Option.map_some, Option.getD_some, reduceCtorEq, iff_false]
    omega

/-- A plausible number is read back as a positive clock. -/
theorem pos_of_mem_mhz? {number : Int} (h : PlausibleSpeed number) :
    ∀ mhz ∈ mhz? number, 0 < mhz := by
  intro mhz hmem
  unfold mhz? at hmem
  split at hmem
  · obtain rfl : UInt32.ofNat number.toNat = mhz := by simpa using hmem
    obtain hnumber | ⟨hlow, hhigh⟩ := h
    · omega
    · have hsize : number.toNat < UInt32.size := by
        simp only [speedLimit] at hhigh
        simp only [UInt32.size]
        omega
      rw [UInt32.lt_iff_toNat_lt, UInt32.toNat_ofNat_of_lt' hsize]
      simp only [UInt32.toNat_zero]
      omega
  · simp at hmem

theorem mhz?_eq_none_iff {number : Int} : mhz? number = none ↔ number < 0 := by
  unfold mhz?
  split <;> simp <;> omega

end Profiler

/-! ### Plausible answers -/

/-- A summary of plausible values only. -/
structure Summary.Plausible (summary : Summary) : Prop where
  vendor : Text.Visible summary.vendor
  logicalCpus : 0 < summary.logicalCpus
  physicalCpus : 0 < summary.physicalCpus
  currentCpus : 0 < summary.currentCpus
  signature : summary.family = 0 → summary.model = 0 ∧ summary.stepping = 0
  maxSpeed : ∀ mhz ∈ summary.maxSpeed, 0 < mhz
  currentSpeed : ∀ mhz ∈ summary.currentSpeed, 0 < mhz
  /-- The clock in use is unknown only where the highest clock is. -/
  maxSpeed_eq_none : summary.currentSpeed = none → summary.maxSpeed = none
  memory : ∀ bytes ∈ summary.memory, 0 < bytes
  machineModel : Text.Tidy summary.machineModel

/-- The answers that an accessor can give. -/
def Accessor.Plausible : (accessor : Accessor) → accessor.Answer → Prop
  | .logicalCpus | .physicalCpus | .currentCpus => fun n ↦ 0 < n
  | .vendor => Text.Visible
  | .maxSpeed | .currentSpeed => Profiler.PlausibleSpeed
  | .maxSpeedState => fun state ↦ ∀ mhz ∈ state.valid?, 0 < mhz
  | .memory => fun bytes ↦ bytes = -1 ∨ 0 < bytes
  | .memoryState => fun state ↦ ∀ bytes ∈ state.valid?, 0 < bytes
  | .machineModel => Text.Tidy
  | .adapter => fun answer ↦ answer.1 = false → answer.2 = .unidentified
  | .summary => Summary.Plausible
  | .architecture | .cacheSize | .family | .model | .stepping | .modelUnknown | .adapter? =>
    fun _ ↦ True

namespace Profiler

variable {profiler : Profiler}

/-- What a live source tells of the clock in use is positive. -/
theorem pos_of_mem_liveClock {mhz : UInt32} (h : mhz ∈ profiler.liveClock source) : 0 < mhz :=
  Metric.Kind.plausible_of_mem_toOption _ _ source .currentSpeed h

theorem currentCount_pos : 0 < profiler.currentCount source := by
  have hmax : ∀ n : UInt32, 0 < max 1 n := by
    intro n
    change 0 < if 1 ≤ n then n else 1
    split
    · assumption
    · decide
  exact hmax _

theorem Plausible.clockNumber (h : profiler.Plausible) :
    PlausibleSpeed (profiler.clockNumber source) := by
  cases hlive : profiler.liveClock source with
  | some mhz =>
    rw [clockNumber_of_live profiler source hlive]
    exact .inr (speed_bounds (pos_of_mem_liveClock source hlive))
  | none =>
    rw [clockNumber_of_silent profiler source hlive]
    exact plausibleSpeed_speedNumber (h.now source .maxSpeed)

theorem Plausible.summary (h : profiler.Plausible) : (profiler.summary source).Plausible where
  vendor := h.now source .vendor
  logicalCpus := h.logicalCpus
  physicalCpus := h.physicalCpus
  currentCpus := currentCount_pos source
  signature := h.signature
  maxSpeed := h.now source .maxSpeed
  currentSpeed := pos_of_mem_mhz? (h.clockNumber source)
  maxSpeed_eq_none := by
    intro hnone
    have hnumber : profiler.clockNumber source < 0 := mhz?_eq_none_iff.mp hnone
    have hplausible := h.clockNumber source
    cases hlive : profiler.liveClock source with
    | some mhz =>
      have hspeed := speed_bounds (pos_of_mem_liveClock source hlive)
      rw [clockNumber_of_live profiler source hlive] at hnumber
      omega
    | none =>
      have hunknown := hplausible.resolve_right (by omega)
      rw [clockNumber_of_silent profiler source hlive] at hunknown
      exact speedNumber_eq_neg_one_iff.mp hunknown
  memory := h.now source .memory
  machineModel := h.now source .machineModel

/-- Every accessor of a plausible profiler has a plausible answer on every host. -/
theorem Plausible.answer (h : profiler.Plausible) (accessor : Accessor) :
    accessor.Plausible (profiler.answer source accessor) := by
  cases accessor with
  | logicalCpus => exact h.logicalCpus
  | physicalCpus => exact h.physicalCpus
  | currentCpus => exact currentCount_pos source
  | vendor => exact h.now source .vendor
  | maxSpeed => exact plausibleSpeed_speedNumber (h.now source .maxSpeed)
  | maxSpeedState =>
    exact fun mhz hmhz ↦ h.cell .maxSpeed _ (Resolved.cell_of_mem_valid? hmhz) mhz rfl
  | currentSpeed => exact h.clockNumber source
  | memory =>
    have hmemory := h.now source .memory
    cases hnow : Memo.memory.now profiler source with
    | none => exact .inl (by simp [Profiler.answer, hnow])
    | some bytes => exact .inr (by simpa [Profiler.answer, hnow] using hmemory bytes hnow)
  | memoryState =>
    exact fun bytes hbytes ↦ h.cell .memory _ (Resolved.cell_of_mem_valid? hbytes) bytes rfl
  | machineModel => exact h.now source .machineModel
  | adapter =>
    cases hadapter : profiler.foundAdapter source with
    | none => exact fun _ ↦ by simp [Profiler.answer, hadapter, adapterRecord]
    | some adapter =>
      intro hunknown
      simp [Profiler.answer, hadapter, adapterRecord] at hunknown
  | summary => exact h.summary source
  | architecture | cacheSize | family | model | stepping | modelUnknown | adapter? => trivial

/-! ### Answers that fit together -/

/-- What an accessor answers on a host. -/
def reply (profiler : Profiler) (source : Source) (accessor : Accessor) : accessor.Answer :=
  (profiler.visit ⟨source, accessor⟩).answer

/-- The answers of different accessors fit together, on any hosts and with anything asked in
between. -/
structure Coherent (profiler : Profiler) : Prop where
  /-- Without a family there is no model and no stepping. -/
  signature : ∀ now between later, profiler.reply now .family = 0 →
    (profiler.afterAll between).reply later .model = 0 ∧
      (profiler.afterAll between).reply later .stepping = 0
  /-- The highest clock is minus one exactly where its state is a failure from then on. -/
  maxSpeed : ∀ now between later, profiler.reply now .maxSpeed = -1 ↔
    (profiler.afterAll (⟨now, .maxSpeed⟩ :: between)).reply later .maxSpeedState = .failed
  /-- The clock in use is positive or what the highest clock is reported to be from then on. -/
  currentSpeed : ∀ now between later, 0 < profiler.reply now .currentSpeed ∨
    profiler.reply now .currentSpeed =
      (profiler.afterAll (⟨now, .currentSpeed⟩ :: between)).reply later .maxSpeed
  /-- The memory is minus one exactly where its state is a failure from then on. -/
  memory : ∀ now between later, profiler.reply now .memory = -1 ↔
    (profiler.afterAll (⟨now, .memory⟩ :: between)).reply later .memoryState = .failed
  /-- A summary leaves the two values out exactly where their states are failures from then on. -/
  summary : ∀ now between later,
    let left := profiler.afterAll (⟨now, .summary⟩ :: between)
    ((profiler.reply now .summary).maxSpeed = none ↔ left.reply later .maxSpeedState = .failed) ∧
      ((profiler.reply now .summary).memory = none ↔ left.reply later .memoryState = .failed)

theorem reply_eq (accessor : Accessor) :
    profiler.reply source accessor = profiler.answer source accessor :=
  profiler.answer_visit ⟨source, accessor⟩

/-- After a step that reads a memo, and whatever follows, its cell holds what it was then. -/
theorem cell_afterAll_cons {memo : Memo} {step : Step}
    (h : memo ∈ step.memos profiler.config profiler.architecture) (between : List Step) :
    memo.cell (profiler.afterAll (step :: between)) = some (memo.now profiler step.source) := by
  refine (profiler.after step).cell_afterAll_of_cell ?_ between
  rw [cell_after, if_pos h]

/-- The state of the highest clock tells from then on whether a step has found it. -/
theorem maxSpeedState_eq_failed_iff {step : Step}
    (h : .maxSpeed ∈ step.memos profiler.config profiler.architecture) (between : List Step)
    (later : Source) :
    (profiler.afterAll (step :: between)).reply later .maxSpeedState = .failed ↔
      Memo.maxSpeed.now profiler step.source = none := by
  rw [reply_eq]
  exact Resolved.eq_failed_iff_of_cell (cell_afterAll_cons h between)

/-- The state of the memory tells from then on whether a step has found it. -/
theorem memoryState_eq_failed_iff {step : Step}
    (h : .memory ∈ step.memos profiler.config profiler.architecture) (between : List Step)
    (later : Source) :
    (profiler.afterAll (step :: between)).reply later .memoryState = .failed ↔
      Memo.memory.now profiler step.source = none := by
  rw [reply_eq]
  exact Resolved.eq_failed_iff_of_cell (cell_afterAll_cons h between)

/-- The answers of a plausible profiler fit together. -/
theorem Plausible.coherent (h : profiler.Plausible) : profiler.Coherent where
  signature := by
    intro now between later hfamily
    have hsignature : (profiler.afterAll between).signature = profiler.signature :=
      (congrArg Profiler.signature (profiler.forget_afterAll between) :)
    simp only [reply_eq, Profiler.answer, hsignature] at hfamily ⊢
    exact h.signature hfamily
  maxSpeed := by
    intro now between later
    rw [maxSpeedState_eq_failed_iff (by simp [Step.memos, Accessor.memos]), reply_eq]
    exact speedNumber_eq_neg_one_iff
  currentSpeed := by
    intro now between later
    simp only [reply_eq, Profiler.answer]
    cases hlive : profiler.liveClock now with
    | some mhz =>
      have hspeed := speed_bounds (pos_of_mem_liveClock now hlive)
      rw [clockNumber_of_live profiler now hlive]
      exact .inl hspeed.1
    | none =>
      have hmem : .maxSpeed ∈
          Step.memos profiler.config profiler.architecture ⟨now, .currentSpeed⟩ := by
        unfold liveClock at hlive
        simp [Step.memos, Accessor.memos, hlive]
      rw [clockNumber_of_silent profiler now hlive,
        Memo.now_of_cell _ (cell_afterAll_cons hmem between)]
      exact .inr rfl
  memory := by
    intro now between later
    rw [memoryState_eq_failed_iff (by simp [Step.memos, Accessor.memos]), reply_eq]
    have hmemory := h.now now .memory
    simp only [Profiler.answer]
    cases hnow : Memo.memory.now profiler now with
    | none => simp
    | some bytes =>
      have hpos := hmemory bytes hnow
      simp only [Option.getD_some, reduceCtorEq, iff_false]
      rintro rfl
      contradiction
  summary := by
    intro now between later left
    rw [maxSpeedState_eq_failed_iff (by simp [Step.memos, Accessor.memos]),
      memoryState_eq_failed_iff (by simp [Step.memos, Accessor.memos]), reply_eq]
    exact ⟨Iff.rfl, Iff.rfl⟩

/-- A profiler whose host tells no core count has as many cores as processors. -/
theorem physicalCpus_start
    (h : ((Metric.physicalCpus.run config architecture).value source).toOption = none) :
    ((start config architecture).value source).physicalCpus =
      ((start config architecture).value source).logicalCpus := by
  simp [start, h]

/-- Over every history of a host that may change between the steps, each answer is plausible or the
marker of an unknown value, the answers of different accessors fit together, and the cores are as
many as the processors if the host told no core count at the start. -/
theorem plausibility (config : Config) (architecture : Architecture) (first : Source)
    (history : List Step) :
    let profiler := ((start config architecture).value first).afterAll history
    (∀ (source : Source) (accessor : Accessor),
      accessor.Plausible (profiler.reply source accessor)) ∧
    profiler.Coherent ∧
    (((Metric.physicalCpus.run config architecture).value first).toOption = none →
      ∀ now between later, profiler.reply now .physicalCpus =
        (profiler.afterAll between).reply later .logicalCpus) := by
  intro profiler
  have hplausible : profiler.Plausible :=
    plausible_afterAll (plausible_start config architecture first) history
  refine ⟨fun source accessor ↦ ?_, hplausible.coherent, fun hnone now between later ↦ ?_⟩
  · rw [reply_eq]
    exact hplausible.answer source accessor
  · have hforget := forget_afterAll ((start config architecture).value first) history
    have hbetween := (congrArg logicalCpus (profiler.forget_afterAll between) :)
    have hlogical := (congrArg logicalCpus hforget :)
    have hphysical := (congrArg physicalCpus hforget :)
    rw [reply_eq, reply_eq]
    calc profiler.physicalCpus
        = ((start config architecture).value first).physicalCpus := hphysical
      _ = ((start config architecture).value first).logicalCpus :=
          physicalCpus_start config architecture first hnone
      _ = profiler.logicalCpus := hlogical.symm
      _ = (profiler.afterAll between).logicalCpus := hbetween.symm

end Profiler

end HostProfile
