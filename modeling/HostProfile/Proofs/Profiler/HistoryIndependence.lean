import HostProfile.Proofs.Profiler.Plausibility

/-!
# A host that does not change

On a host that gives the same answers throughout, nobody can tell what a profiler was asked before.
`Accessor.settled` reads off the chains of the metrics what each accessor has to say there. A
profiler `Knows` a host if all that it remembers is what it would find there anyway; it does so from
the start and after every step (`knows_start`, `knows_after`), and then it answers what is settled
(`Knows.answer`), two accessors apart: a state is that of a metric nobody has asked for yet or the
settled one (`Knows.maxSpeedState`, `Knows.memoryState`).

Which cells are set depends on the accessors that were asked, but not on their order
(`after_comm`, `afterAll_of_perm`). A summary says what the accessors say, each field in its own way
(`Summary.Tells`).
-/

set_option autoImplicit false
set_option relaxedAutoImplicit false

namespace HostProfile

/-! ### What the chains come to -/

/-- What a metric is found to be on a host, if it is found. -/
def Metric.Kind.found? (config : Config) (architecture : Architecture) (source : Source)
    (kind : Kind) : Option kind.Value :=
  ((kind.find config architecture).value source).toOption

section Settled

variable (config : Config) (architecture : Architecture) (source : Source)

open Metric.Kind

/-- The logical processors of a host, one if no source counts them. -/
def Source.processors : UInt32 :=
  (found? config architecture source .logicalCpus).getD 1

/-- The physical cores of a host, as many as the processors if no source counts any. -/
def Source.cores : UInt32 :=
  ((found? config architecture source .physicalCpus).filter (0 < ·)).getD
    (source.processors config architecture)

/-- The processors of a host that are in use, all if no source counts them. -/
def Source.processorsInUse : UInt32 :=
  max 1 ((found? config architecture source .currentCpus).getD
    (source.processors config architecture))

/-- The signature of a host. -/
def Source.signature : Signature :=
  (found? config architecture source .signature).getD .unknown

/-- The clock in use of a host; the highest clock where no live source tells. -/
def Source.clock : Option UInt32 :=
  found? config architecture source .currentSpeed <|> found? config architecture source .maxSpeed

/-- The model of a host or what stands for an unknown one. -/
def Source.model : String :=
  (found? config architecture source .model).getD Profiler.unknownModel

/-- The vendor of a host, or the name that stands in for an unknown one. -/
def Source.vendor : String :=
  ((Metric.vendorChain.run config architecture).value source).toOption.getD
    architecture.vendorFallback

/-- A clock as a number within the limit, minus one if it is unknown. -/
def clockReport (mhz : Option UInt32) : Int :=
  (mhz.map fun mhz ↦ min (mhz.toNat : Int) 2147483647).getD (-1)

/-- What an accessor answers on a host that does not change. For the two states it is what they
answer once the metric has been probed. -/
def Accessor.settled : (accessor : Accessor) → accessor.Answer
  | .logicalCpus => source.processors config architecture
  | .physicalCpus => source.cores config architecture
  | .currentCpus => source.processorsInUse config architecture
  | .architecture => architecture
  | .vendor => source.vendor config architecture
  | .cacheSize => (found? config architecture source .cacheSize).getD 0
  | .family => (source.signature config architecture).family
  | .model => (source.signature config architecture).model
  | .stepping => (source.signature config architecture).stepping
  | .maxSpeed => clockReport (found? config architecture source .maxSpeed)
  | .maxSpeedState => .ofProbe (found? config architecture source .maxSpeed)
  | .currentSpeed => clockReport (source.clock config architecture)
  | .memory => (found? config architecture source .memory).getD (-1)
  | .memoryState => .ofProbe (found? config architecture source .memory)
  | .machineModel => source.model config architecture
  | .modelUnknown => source.model config architecture == Profiler.unknownModel
  | .adapter =>
    match found? config architecture source .adapter with
    | some record => (true, record)
    | none => (false, .unidentified)
  | .adapter? => found? config architecture source .adapter
  | .summary => {
      architecture := architecture
      vendor := source.vendor config architecture
      logicalCpus := source.processors config architecture
      physicalCpus := source.cores config architecture
      currentCpus := source.processorsInUse config architecture
      family := (source.signature config architecture).family
      model := (source.signature config architecture).model
      stepping := (source.signature config architecture).stepping
      cacheSize := (found? config architecture source .cacheSize).getD 0
      maxSpeed := found? config architecture source .maxSpeed
      currentSpeed := (source.clock config architecture).map (min · 2147483647)
      memory := found? config architecture source .memory
      machineModel := source.model config architecture
      adapter := found? config architecture source .adapter }

end Settled

/-- The accessors that tell whether a metric has been probed. -/
def Accessor.IsState (accessor : Accessor) : Prop :=
  accessor = .maxSpeedState ∨ accessor = .memoryState

instance : DecidablePred Accessor.IsState := fun accessor ↦
  inferInstanceAs (Decidable (accessor = .maxSpeedState ∨ accessor = .memoryState))

theorem Resolved.eq_unprobed_or_ofProbe {α : Type} {state : Resolved α} {probed : Option α}
    (h : ∀ value, state.cell = some value → value = probed) :
    state = .unprobed ∨ state = .ofProbe probed := by
  cases hcell : state.cell with
  | none =>
    left
    rw [← Resolved.ofCell_cell state, hcell]
    rfl
  | some value =>
    right
    rw [← h value hcell]
    exact Resolved.eq_ofProbe_of_cell hcell

/-- A summary says what the accessors say. -/
structure Summary.Tells (summary : Summary) (answer : (accessor : Accessor) → accessor.Answer) :
    Prop where
  architecture : answer .architecture = summary.architecture
  vendor : answer .vendor = summary.vendor
  logicalCpus : answer .logicalCpus = summary.logicalCpus
  physicalCpus : answer .physicalCpus = summary.physicalCpus
  currentCpus : answer .currentCpus = summary.currentCpus
  family : answer .family = summary.family
  model : answer .model = summary.model
  stepping : answer .stepping = summary.stepping
  cacheSize : answer .cacheSize = summary.cacheSize
  /-- The highest clock is reported within the limit, minus one if it is left out. -/
  maxSpeed : answer .maxSpeed =
    (summary.maxSpeed.map fun mhz ↦ min (mhz.toNat : Int) 2147483647).getD (-1)
  /-- The clock in use is within the limit already. -/
  currentSpeed : answer .currentSpeed =
    (summary.currentSpeed.map fun mhz ↦ (mhz.toNat : Int)).getD (-1)
  memory : answer .memory = summary.memory.getD (-1)
  machineModel : answer .machineModel = summary.machineModel
  adapter : ∀ record, answer .adapter = (true, record) ↔ summary.adapter = some record
  adapter? : answer .adapter? = summary.adapter

namespace Profiler

/-! ### Clocks -/

theorem speed_eq (mhz : UInt32) : speed mhz = min (mhz.toNat : Int) 2147483647 := by
  simp only [speed, speedLimit]
  omega

theorem speedNumber_eq (mhz : Option UInt32) : speedNumber mhz = clockReport mhz := by
  cases mhz with
  | none => rfl
  | some mhz => simp [speedNumber, clockReport, speed_eq]

/-- The clock within the limit, as a number. -/
theorem toNat_min_limit (mhz : UInt32) :
    ((min mhz 2147483647).toNat : Int) = min (mhz.toNat : Int) 2147483647 := by
  have hmin : min mhz 2147483647 = if mhz ≤ 2147483647 then mhz else 2147483647 := rfl
  have hlimit : (2147483647 : UInt32).toNat = 2147483647 := rfl
  rw [hmin]
  split
  · rename_i hle
    have hnat : mhz.toNat ≤ 2147483647 := hle
    omega
  · rename_i hlt
    have hnat : ¬ mhz.toNat ≤ 2147483647 := hlt
    omega

theorem clockReport_eq (mhz : Option UInt32) :
    clockReport mhz =
      ((mhz.map (min · 2147483647)).map fun mhz ↦ (mhz.toNat : Int)).getD (-1) := by
  cases mhz with
  | none => rfl
  | some mhz => exact (toNat_min_limit mhz).symm

/-- A number for a clock is read back as the clock within the limit. -/
theorem mhz?_clockReport (mhz : Option UInt32) :
    mhz? (clockReport mhz) = mhz.map (min · 2147483647) := by
  cases mhz with
  | none => rfl
  | some mhz =>
    have hnumber : clockReport (some mhz) = ((min mhz 2147483647).toNat : Int) :=
      (toNat_min_limit mhz).symm
    rw [hnumber, mhz?, if_pos (Int.natCast_nonneg _), Int.toNat_natCast, UInt32.ofNat_toNat,
      Option.map_some]

/-! ### What a profiler knows of a host -/

variable (config : Config) (architecture : Architecture) (source : Source)

/-- Whatever a profiler knows is what it would find on the host. -/
structure Knows (profiler : Profiler) (source : Source) : Prop where
  logicalCpus : profiler.logicalCpus = source.processors profiler.config profiler.architecture
  physicalCpus : profiler.physicalCpus = source.cores profiler.config profiler.architecture
  signature : profiler.signature = source.signature profiler.config profiler.architecture
  cacheSize : profiler.cacheSize =
    (Metric.Kind.found? profiler.config profiler.architecture source .cacheSize).getD 0
  cell : ∀ (memo : Memo) (value : memo.Value), memo.cell profiler = some value →
    value = memo.found profiler.config profiler.architecture source

/-- A profiler that is started on a host knows it. -/
theorem knows_start : ((start config architecture).value source).Knows source where
  logicalCpus := by simp [start, Source.processors, Metric.Kind.found?, Metric.Kind.find]
  physicalCpus := by
    simp [start, Source.cores, Source.processors, Metric.Kind.found?, Metric.Kind.find]
  signature := by simp [start, Source.signature, Metric.Kind.found?, Metric.Kind.find]
  cacheSize := by simp [start, Metric.Kind.found?, Metric.Kind.find]
  cell := by
    intro memo value h
    rw [cell_start] at h
    contradiction

variable {profiler : Profiler} {source}

theorem Knows.now (h : profiler.Knows source) (memo : Memo) :
    memo.now profiler source = memo.found profiler.config profiler.architecture source := by
  rw [Memo.now]
  cases hcell : memo.cell profiler with
  | none => rfl
  | some value => exact h.cell memo value hcell

/-- A step on the host leaves a profiler that knows it. -/
theorem knows_after (h : profiler.Knows source) (accessor : Accessor) :
    (profiler.after ⟨source, accessor⟩).Knows source := by
  have hforget := profiler.forget_after ⟨source, accessor⟩
  have hlogical := (congrArg logicalCpus hforget :)
  have hphysical := (congrArg physicalCpus hforget :)
  have hsignature := (congrArg signature hforget :)
  have hcache := (congrArg cacheSize hforget :)
  constructor
  case logicalCpus =>
    rw [config_after, architecture_after]
    exact hlogical.trans h.logicalCpus
  case physicalCpus =>
    rw [config_after, architecture_after]
    exact hphysical.trans h.physicalCpus
  case signature =>
    rw [config_after, architecture_after]
    exact hsignature.trans h.signature
  case cacheSize =>
    rw [config_after, architecture_after]
    exact hcache.trans h.cacheSize
  case cell =>
    intro memo value hcell
    rw [config_after, architecture_after]
    rw [cell_after] at hcell
    split at hcell
    · rw [← h.now memo]
      exact (Option.some.inj hcell).symm
    · exact h.cell memo value hcell

/-- The steps that ask accessors of a host that does not change. -/
def steady (source : Source) (accessors : List Accessor) : List Step :=
  accessors.map (Step.mk source)

/-- Any sequence of accessors leaves a profiler that knows the host. -/
theorem knows_afterAll (h : profiler.Knows source) (accessors : List Accessor) :
    (profiler.afterAll (steady source accessors)).Knows source := by
  induction accessors generalizing profiler with
  | nil => exact h
  | cons accessor rest ih => exact ih (knows_after h accessor)

/-! ### Answers -/

theorem Knows.vendorNow (h : profiler.Knows source) :
    Memo.vendor.now profiler source =
      source.vendor profiler.config profiler.architecture := by
  rw [h.now, ← Memo.value_find]
  simp [Memo.find, Metric.vendor, Source.vendor]

theorem Knows.clockNumber (h : profiler.Knows source) :
    profiler.clockNumber source =
      clockReport (source.clock profiler.config profiler.architecture) := by
  have hlive : profiler.liveClock source =
      Metric.Kind.found? profiler.config profiler.architecture source .currentSpeed := rfl
  unfold Source.clock
  rw [← hlive]
  cases hclock : profiler.liveClock source with
  | some mhz => rw [clockNumber_of_live profiler source hclock, speed_eq]; rfl
  | none => rw [clockNumber_of_silent profiler source hclock, speedNumber_eq, h.now]; rfl

theorem Knows.summary (h : profiler.Knows source) :
    profiler.summary source =
      Accessor.settled profiler.config profiler.architecture source .summary := by
  have hcount : profiler.currentCount source =
      source.processorsInUse profiler.config profiler.architecture := by
    rw [currentCount, h.logicalCpus]
    rfl
  unfold Profiler.summary
  rw [h.vendorNow, h.now, h.now, h.now, hcount, h.clockNumber, mhz?_clockReport, h.logicalCpus,
    h.physicalCpus, h.signature, h.cacheSize]
  rfl

/-- A profiler that knows a host answers what the chains come to there, the states apart. -/
theorem Knows.answer (h : profiler.Knows source) {accessor : Accessor}
    (hstate : ¬ accessor.IsState) :
    profiler.answer source accessor =
      accessor.settled profiler.config profiler.architecture source := by
  cases accessor with
  | logicalCpus => exact h.logicalCpus
  | physicalCpus => exact h.physicalCpus
  | currentCpus =>
    change profiler.currentCount source = _
    rw [currentCount, h.logicalCpus]
    rfl
  | architecture => rfl
  | vendor => exact h.vendorNow
  | cacheSize => exact h.cacheSize
  | family => exact congrArg Signature.family h.signature
  | model => exact congrArg Signature.model h.signature
  | stepping => exact congrArg Signature.stepping h.signature
  | maxSpeed =>
    change speedNumber (Memo.maxSpeed.now profiler source) = _
    rw [speedNumber_eq, h.now]
    rfl
  | currentSpeed => exact h.clockNumber
  | memory => exact congrArg (·.getD (-1)) (h.now .memory)
  | machineModel => exact h.now .machineModel
  | modelUnknown => exact congrArg (· == unknownModel) (h.now .machineModel)
  | adapter =>
    change adapterRecord (profiler.foundAdapter source) = _
    unfold Accessor.settled
    have hfound : profiler.foundAdapter source =
      Metric.Kind.found? profiler.config profiler.architecture source .adapter := rfl
    rw [← hfound]
    cases profiler.foundAdapter source <;> rfl
  | adapter? => rfl
  | summary => exact h.summary
  | maxSpeedState => exact absurd (.inl rfl) hstate
  | memoryState => exact absurd (.inr rfl) hstate

/-- A state is that of a metric nobody asked for, or the one that the chain has settled. -/
theorem Knows.maxSpeedState (h : profiler.Knows source) :
    profiler.maxSpeed = .unprobed ∨ profiler.maxSpeed =
      Accessor.maxSpeedState.settled profiler.config profiler.architecture source :=
  Resolved.eq_unprobed_or_ofProbe fun value hcell ↦ h.cell .maxSpeed value hcell

theorem Knows.memoryState (h : profiler.Knows source) :
    profiler.memory = .unprobed ∨ profiler.memory =
      Accessor.memoryState.settled profiler.config profiler.architecture source :=
  Resolved.eq_unprobed_or_ofProbe fun value hcell ↦ h.cell .memory value hcell

/-! ### The order of the accessors -/

/-- Two profilers are the same if they were started the same way and remember the same. -/
theorem eq_of_forget_of_cell {first second : Profiler} (hforget : first.forget = second.forget)
    (hcell : ∀ memo : Memo, memo.cell first = memo.cell second) : first = second := by
  have hvendor := hcell .vendor
  have hspeed := congrArg Resolved.ofCell (hcell .maxSpeed)
  have hmemory := congrArg Resolved.ofCell (hcell .memory)
  have hmodel := hcell .machineModel
  simp only [Memo.cell, Resolved.ofCell_cell] at hvendor hspeed hmemory hmodel
  cases first
  cases second
  simp_all [forget]

theorem now_after (profiler : Profiler) (source : Source) (accessor : Accessor) (memo : Memo) :
    memo.now (profiler.after ⟨source, accessor⟩) source = memo.now profiler source := by
  rw [Memo.now, cell_after, config_after, architecture_after]
  split
  · rfl
  · rfl

/-- Asking two accessors of one host leaves the same profiler in either order. -/
theorem after_comm (profiler : Profiler) (source : Source) (first second : Accessor) :
    (profiler.after ⟨source, first⟩).after ⟨source, second⟩ =
      (profiler.after ⟨source, second⟩).after ⟨source, first⟩ := by
  apply eq_of_forget_of_cell
  · simp only [forget_after]
  · intro memo
    simp only [cell_after, now_after, config_after, architecture_after]
    split <;> split <;> rfl

/-- Which accessors were asked of a host counts, but not in which order. -/
theorem afterAll_of_perm (profiler : Profiler) (source : Source) {first second : List Accessor}
    (h : first.Perm second) :
    profiler.afterAll (steady source first) = profiler.afterAll (steady source second) := by
  refine (h.map (Step.mk source)).foldl_eq' (fun one hone other hother profiler ↦ ?_) profiler
  obtain ⟨a, -, rfl⟩ := List.mem_map.mp hone
  obtain ⟨b, -, rfl⟩ := List.mem_map.mp hother
  exact profiler.after_comm source a b

end Profiler

/-! ### The summary and the accessors -/

variable {config : Config} {architecture : Architecture} {source : Source}

/-- Where every accessor answers what is settled, the settled summary says the same. -/
theorem Summary.tells_of_settled {answer : (accessor : Accessor) → accessor.Answer}
    (h : ∀ accessor : Accessor, ¬ accessor.IsState →
      answer accessor = accessor.settled config architecture source) :
    (Accessor.summary.settled config architecture source).Tells answer where
  architecture := h .architecture (by decide)
  vendor := h .vendor (by decide)
  logicalCpus := h .logicalCpus (by decide)
  physicalCpus := h .physicalCpus (by decide)
  currentCpus := h .currentCpus (by decide)
  family := h .family (by decide)
  model := h .model (by decide)
  stepping := h .stepping (by decide)
  cacheSize := h .cacheSize (by decide)
  maxSpeed := h .maxSpeed (by decide)
  currentSpeed := by
    rw [h .currentSpeed (by decide)]
    exact Profiler.clockReport_eq _
  memory := h .memory (by decide)
  machineModel := h .machineModel (by decide)
  adapter := by
    intro record
    rw [h .adapter (by decide)]
    unfold Accessor.settled
    dsimp only
    split <;> simp [*]
  adapter? := h .adapter? (by decide)

namespace Profiler

/-- On a host that gives the same answers throughout, whatever accessors a profiler was asked: every
accessor but the two states answers what the chains come to there, so no two sequences of accessors
can be told apart by it; a state is that of a metric nobody asked for or the settled one; sequences
that differ in their order only leave the same profiler; a second summary is the first one again;
and a summary says what the accessors say at any other moment. -/
theorem history_independence (config : Config) (architecture : Architecture) (source : Source)
    (first second : List Accessor) :
    let started := (start config architecture).value source
    let one := started.afterAll (steady source first)
    let other := started.afterAll (steady source second)
    (∀ accessor : Accessor, ¬ accessor.IsState →
      one.reply source accessor = accessor.settled config architecture source ∧
      other.reply source accessor = one.reply source accessor) ∧
    (one.reply source .maxSpeedState = .unprobed ∨ one.reply source .maxSpeedState =
      Accessor.maxSpeedState.settled config architecture source) ∧
    (one.reply source .memoryState = .unprobed ∨ one.reply source .memoryState =
      Accessor.memoryState.settled config architecture source) ∧
    (first.Perm second → one = other) ∧
    (one.after ⟨source, .summary⟩).reply source .summary = one.reply source .summary ∧
    (one.reply source .summary).Tells (other.reply source) := by
  intro started one other
  have hknows (accessors : List Accessor) :=
    knows_afterAll (knows_start config architecture source) accessors
  have hconfig (accessors : List Accessor) :
      (started.afterAll (steady source accessors)).config = config :=
    (started.config_afterAll _).trans (config_start config architecture source)
  have harchitecture (accessors : List Accessor) :
      (started.afterAll (steady source accessors)).architecture = architecture :=
    (started.architecture_afterAll _).trans (architecture_start config architecture source)
  have hsettled (accessors : List Accessor) (accessor : Accessor) (hstate : ¬ accessor.IsState) :
      (started.afterAll (steady source accessors)).reply source accessor =
        accessor.settled config architecture source := by
    rw [reply_eq, (hknows accessors).answer hstate, hconfig, harchitecture]
  refine ⟨fun accessor hstate ↦ ⟨hsettled first accessor hstate, ?_⟩, ?_, ?_, fun hperm ↦ ?_,
    ?_, ?_⟩
  · rw [hsettled first accessor hstate, hsettled second accessor hstate]
  · have hspeed := (hknows first).maxSpeedState
    rw [hconfig, harchitecture] at hspeed
    rw [reply_eq]
    exact hspeed
  · have hmemory := (hknows first).memoryState
    rw [hconfig, harchitecture] at hmemory
    rw [reply_eq]
    exact hmemory
  · exact started.afterAll_of_perm source hperm
  · have hagain := hsettled (first ++ [.summary]) .summary (by decide)
    rw [steady, List.map_append, afterAll_append] at hagain
    rw [hsettled first .summary (by decide)]
    exact hagain
  · rw [hsettled first .summary (by decide)]
    exact Summary.tells_of_settled (hsettled second)

end Profiler

end HostProfile
