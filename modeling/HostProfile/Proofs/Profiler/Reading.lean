import HostProfile.Proofs.Profiler.Memo

/-!
# What the accessors answer

`Profiler.answer` is what each accessor answers on a host, written out as a table over the memos and
the metrics that are probed every time, and `Accessor.memos` names the memos that an accessor reads:
the clock in use reads the highest clock only where no live source tells, and the summary reads all
four. `value_run_read` says that every accessor comes to its entry in the table and leaves the
profiler that has read these memos, and nothing else.
-/

set_option autoImplicit false
set_option relaxedAutoImplicit false

namespace HostProfile

namespace Profiler

/-! ### The metrics that are probed every time -/

theorem run_readCurrentCpus (profiler : Profiler) :
    readCurrentCpus.run profiler =
      (fun outcome ↦ (max 1 (outcome.toOption.getD profiler.logicalCpus), profiler)) <$>
        Metric.currentCpus.run profiler.config profiler.architecture := by
  simp [readCurrentCpus]

theorem run_readAdapter? (profiler : Profiler) :
    readAdapter?.run profiler =
      (fun found ↦ (found, profiler)) <$>
        (Metric.adapter.run profiler.config profiler.architecture).orReport .adapterUnknown := by
  simp only [readAdapter?, Probing.orReport, StateT.run_bind, StateT.run_get, pure_bind,
    StateT.run_monadLift, map_bind, bind_assoc, monadLift_self]
  refine bind_congr fun outcome ↦ ?_
  rcases outcome with error | adapter <;> simp

/-- The record of an adapter with the remark whether there is one. -/
def adapterRecord : Option Adapter → Bool × Adapter
  | some adapter => (true, adapter)
  | none => (false, Adapter.unidentified)

theorem run_readAdapter (profiler : Profiler) :
    readAdapter.run profiler =
      (fun answer ↦ (adapterRecord answer.1, answer.2)) <$> readAdapter?.run profiler := by
  simp only [readAdapter, StateT.run_bind, map_eq_pure_bind]
  refine bind_congr fun answer ↦ ?_
  rcases answer.1 with _ | adapter <;> rfl

/-! ### Speeds -/

/-- The highest clock as a number, minus one if it is unknown. -/
def speedNumber (mhz : Option UInt32) : Int :=
  (mhz.map speed).getD (-1)

theorem run_readMaxSpeed (profiler : Profiler) :
    readMaxSpeed.run profiler =
      (fun answer ↦ (speedNumber answer.1, answer.2)) <$> Memo.maxSpeed.read.run profiler := by
  simp [readMaxSpeed, speedNumber, Memo.read]

theorem run_readCurrentSpeed (profiler : Profiler) :
    readCurrentSpeed.run profiler =
      Metric.currentSpeed.run profiler.config profiler.architecture >>= fun outcome ↦
        match outcome with
        | .ok mhz => pure (speed mhz, profiler)
        | .error _ => readMaxSpeed.run profiler := by
  simp only [readCurrentSpeed, StateT.run_bind, StateT.run_get, pure_bind, StateT.run_monadLift,
    monadLift_self, bind_assoc]
  refine bind_congr fun outcome ↦ ?_
  rcases outcome with error | mhz <;> rfl

/-! ### The table of answers -/

variable (profiler : Profiler) (source : Source)

/-- The clock in use as a live source of a host tells it. -/
def liveClock : Option UInt32 :=
  ((Metric.currentSpeed.run profiler.config profiler.architecture).value source).toOption

/-- The processors in use on a host. -/
def currentCount : UInt32 :=
  max 1 (((Metric.currentCpus.run profiler.config profiler.architecture).value
    source).toOption.getD profiler.logicalCpus)

/-- The clock in use as a number: what a live source tells, else the highest clock. -/
def clockNumber : Int :=
  match profiler.liveClock source with
  | some mhz => speed mhz
  | none => speedNumber (Memo.maxSpeed.now profiler source)

theorem clockNumber_of_live {mhz : UInt32} (h : profiler.liveClock source = some mhz) :
    profiler.clockNumber source = speed mhz := by
  rw [clockNumber, h]

theorem clockNumber_of_silent (h : profiler.liveClock source = none) :
    profiler.clockNumber source = speedNumber (Memo.maxSpeed.now profiler source) := by
  rw [clockNumber, h]

/-- The adapter on a host. -/
def foundAdapter : Option Adapter :=
  ((Metric.adapter.run profiler.config profiler.architecture).value source).toOption

/-- The summary on a host. -/
def summary : Summary where
  architecture := profiler.architecture
  vendor := Memo.vendor.now profiler source
  logicalCpus := profiler.logicalCpus
  physicalCpus := profiler.physicalCpus
  currentCpus := profiler.currentCount source
  family := profiler.signature.family
  model := profiler.signature.model
  stepping := profiler.signature.stepping
  cacheSize := profiler.cacheSize
  maxSpeed := Memo.maxSpeed.now profiler source
  currentSpeed := mhz? (profiler.clockNumber source)
  memory := Memo.memory.now profiler source
  machineModel := Memo.machineModel.now profiler source
  adapter := profiler.foundAdapter source

/-- What an accessor answers on a host. -/
def answer : (accessor : Accessor) → accessor.Answer
  | .logicalCpus => profiler.logicalCpus
  | .physicalCpus => profiler.physicalCpus
  | .currentCpus => profiler.currentCount source
  | .architecture => profiler.architecture
  | .vendor => Memo.vendor.now profiler source
  | .cacheSize => profiler.cacheSize
  | .family => profiler.signature.family
  | .model => profiler.signature.model
  | .stepping => profiler.signature.stepping
  | .maxSpeed => speedNumber (Memo.maxSpeed.now profiler source)
  | .maxSpeedState => profiler.maxSpeed
  | .currentSpeed => profiler.clockNumber source
  | .memory => (Memo.memory.now profiler source).getD (-1)
  | .memoryState => profiler.memory
  | .machineModel => Memo.machineModel.now profiler source
  | .modelUnknown => Memo.machineModel.now profiler source == unknownModel
  | .adapter => adapterRecord (profiler.foundAdapter source)
  | .adapter? => profiler.foundAdapter source
  | .summary => profiler.summary source

end Profiler

/-- The memos that an accessor reads, given the clock in use as a live source tells it. -/
def Accessor.memos (clock : Option UInt32) : Accessor → List Memo
  | .vendor => [.vendor]
  | .maxSpeed => [.maxSpeed]
  | .currentSpeed => if clock.isSome then [] else [.maxSpeed]
  | .memory => [.memory]
  | .machineModel | .modelUnknown => [.machineModel]
  | .summary => [.vendor, .maxSpeed, .memory, .machineModel]
  | .logicalCpus | .physicalCpus | .currentCpus | .architecture | .cacheSize | .family | .model
  | .stepping | .maxSpeedState | .memoryState | .adapter | .adapter? => []

namespace Profiler

variable (profiler : Profiler) (source : Source)

theorem value_readMaxSpeed :
    (readMaxSpeed.run profiler).value source =
      (speedNumber (Memo.maxSpeed.now profiler source), profiler.remember source .maxSpeed) := by
  rw [run_readMaxSpeed, Probing.value_map, Memo.value_read]

theorem value_readCurrentSpeed :
    (readCurrentSpeed.run profiler).value source =
      (profiler.clockNumber source,
        profiler.rememberAll source (Accessor.currentSpeed.memos (profiler.liveClock source))) := by
  rw [run_readCurrentSpeed, Probing.value_bind, clockNumber, liveClock]
  rcases (Metric.currentSpeed.run profiler.config profiler.architecture).value source
    with error | mhz
  · exact value_readMaxSpeed profiler source
  · rfl

theorem value_readAdapter? :
    (readAdapter?.run profiler).value source = (profiler.foundAdapter source, profiler) := by
  rw [run_readAdapter?, Probing.value_map, Probing.value_orReport, foundAdapter]

theorem value_readCurrentCpus :
    (readCurrentCpus.run profiler).value source = (profiler.currentCount source, profiler) := by
  rw [run_readCurrentCpus, Probing.value_map, currentCount]

/-! ### Reading a memo leaves the other answers -/

@[simp] theorem currentCount_remember (memo : Memo) :
    (profiler.remember source memo).currentCount source = profiler.currentCount source := by
  cases memo <;> rfl

@[simp] theorem liveClock_remember (memo : Memo) :
    (profiler.remember source memo).liveClock source = profiler.liveClock source := by
  cases memo <;> rfl

@[simp] theorem foundAdapter_remember (memo : Memo) :
    (profiler.remember source memo).foundAdapter source = profiler.foundAdapter source := by
  cases memo <;> rfl

@[simp] theorem clockNumber_remember (memo : Memo) :
    (profiler.remember source memo).clockNumber source = profiler.clockNumber source := by
  rw [clockNumber, liveClock_remember, now_remember, clockNumber]

/-- The clock in use sets no cell once the highest clock was read. -/
theorem value_readCurrentSpeed_remember :
    (readCurrentSpeed.run (profiler.remember source .maxSpeed)).value source =
      (profiler.clockNumber source, profiler.remember source .maxSpeed) := by
  rw [value_readCurrentSpeed, clockNumber_remember, liveClock_remember, Accessor.memos]
  split
  · rfl
  · simp [rememberAll]

/-- The summary reads all memos. -/
theorem value_readSummary :
    (readSummary.run profiler).value source =
      (profiler.summary source,
        profiler.rememberAll source [.vendor, .maxSpeed, .memory, .machineModel]) := by
  have hvendor := fun profiler ↦ Memo.value_read profiler source .vendor
  have hspeed := fun profiler ↦ Memo.value_read profiler source .maxSpeed
  have hmemory := fun profiler ↦ Memo.value_read profiler source .memory
  have hmodel := fun profiler ↦ Memo.value_read profiler source .machineModel
  simp only [Memo.read] at hvendor hspeed hmemory hmodel
  simp only [readSummary, StateT.run_bind, StateT.run_get, pure_bind, Probing.value_bind, hvendor,
    value_readCurrentCpus, hspeed, value_readCurrentSpeed_remember, hmemory, hmodel,
    value_readAdapter?, StateT.run_pure, Probing.value_pure, currentCount_remember,
    clockNumber_remember, now_remember, foundAdapter_remember]
  rfl

/-- Every accessor comes to its entry in the table and leaves the profiler that has read the memos
of the accessor. -/
theorem value_run_read (accessor : Accessor) :
    ((read accessor).run profiler).value source =
      (profiler.answer source accessor,
        profiler.rememberAll source (accessor.memos (profiler.liveClock source))) := by
  cases accessor with
  | currentCpus => exact value_readCurrentCpus profiler source
  | vendor => exact Memo.value_read profiler source .vendor
  | maxSpeed => exact value_readMaxSpeed profiler source
  | currentSpeed => exact value_readCurrentSpeed profiler source
  | memory =>
    have h := Memo.value_read profiler source .memory
    simp only [Memo.read] at h
    simp [read, readMemory, h, answer, Accessor.memos, rememberAll]
  | machineModel => exact Memo.value_read profiler source .machineModel
  | modelUnknown =>
    have h := Memo.value_read profiler source .machineModel
    simp only [Memo.read] at h
    simp [read, readModelUnknown, h, answer, Accessor.memos, rememberAll]
  | adapter =>
    simp only [read]
    rw [run_readAdapter, Probing.value_map, value_readAdapter?]
    rfl
  | adapter? => exact value_readAdapter? profiler source
  | summary => exact value_readSummary profiler source
  | logicalCpus | physicalCpus | architecture | cacheSize | family | model | stepping
  | maxSpeedState | memoryState => rfl

end Profiler

end HostProfile
