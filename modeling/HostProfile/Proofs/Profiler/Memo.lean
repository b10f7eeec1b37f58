import HostProfile.Profiler.History
import HostProfile.Proofs.Metric.Kind

/-!
# What a profiler remembers

Four metrics are found out once. A `Memo` names one of them, and `Memo.cell` is what the profiler
has remembered of it. Reading a memo answers with the cell where it is set, and else finds the
metric and sets the cell (`run_read`); nothing else writes to a cell.

`Memo.now` is the value that a memo has or would get on a host, and `Profiler.remember` the profiler
after reading it there. Reading several memos one after the other is described by how `remember`
moves the cells (`cell_rememberAll`) and leaves the rest alone (`forget_rememberAll`).
-/

set_option autoImplicit false
set_option relaxedAutoImplicit false

namespace HostProfile

namespace Resolved

variable {α : Type}

/-- The cell behind what is known of a metric. -/
def cell : Resolved α → Option (Option α)
  | .unprobed => none
  | .failed => some none
  | .valid value => some (some value)

@[simp] theorem cell_ofProbe (probed : Option α) : (ofProbe probed).cell = some probed := by
  cases probed <;> rfl

@[simp] theorem ofCell_cell (state : Resolved α) : ofCell state.cell = state := by
  cases state <;> rfl

variable {state : Resolved α} {probed : Option α}

theorem eq_ofProbe_of_cell (h : state.cell = some probed) : state = .ofProbe probed := by
  cases state <;> cases h <;> rfl

theorem eq_failed_iff_of_cell (h : state.cell = some probed) : state = .failed ↔ probed = none := by
  cases state <;> cases h <;> simp

theorem cell_of_mem_valid? {value : α} (h : value ∈ state.valid?) :
    state.cell = some (some value) := by
  cases state <;> cases h
  rfl

end Resolved

/-- The result of a search, with an event for the log if it failed. -/
def Probing.orReport {α : Type} (report : ProbeError → Event) (search : Probing (Outcome α)) :
    Probing (Option α) := do
  match ← search with
  | .ok value => return some value
  | .error error =>
    Probing.write (report error)
    return none

@[simp] theorem Probing.value_orReport {α : Type} (report : ProbeError → Event)
    (search : Probing (Outcome α)) (source : Source) :
    (search.orReport report).value source = (search.value source).toOption := by
  unfold orReport
  rw [value_bind]
  rcases search.value source with error | value <;> rfl

@[simp] theorem Probing.calls_orReport {α : Type} (report : ProbeError → Event)
    (search : Probing (Outcome α)) (source : Source) :
    (search.orReport report).calls source = search.calls source := by
  unfold orReport
  rw [calls_bind]
  rcases search.value source with error | value <;> simp

/-- Probing a chain leaves the profiler as it is. -/
theorem Profiler.run_probeOrReport {α : Type} (chain : Chain α) (report : ProbeError → Event)
    (profiler : Profiler) :
    (probeOrReport chain report).run profiler =
      (fun found ↦ (found, profiler)) <$>
        (chain.run profiler.config profiler.architecture).orReport report := by
  simp only [probeOrReport, Probing.orReport, StateT.run_bind, StateT.run_get, pure_bind,
    StateT.run_monadLift, map_bind, bind_assoc, monadLift_self]
  refine bind_congr fun outcome ↦ ?_
  rcases outcome with error | value <;> simp

/-- What a profiler finds out once. -/
inductive Memo where
  | vendor
  | maxSpeed
  | memory
  | machineModel
  deriving DecidableEq, Repr

namespace Memo

/-- What is remembered. A clock or a memory size may be remembered as unknown. -/
abbrev Value : Memo → Type
  | .vendor | .machineModel => String
  | .maxSpeed => Option UInt32
  | .memory => Option Int64

/-- What a profiler has remembered, if anything yet. -/
def cell (profiler : Profiler) : (memo : Memo) → Option memo.Value
  | .vendor => profiler.vendor
  | .maxSpeed => profiler.maxSpeed.cell
  | .memory => profiler.memory.cell
  | .machineModel => profiler.machineModel

/-- The profiler that remembers a value. -/
def fill (profiler : Profiler) : (memo : Memo) → memo.Value → Profiler
  | .vendor => fun value ↦ { profiler with vendor := some value }
  | .maxSpeed => fun value ↦ { profiler with maxSpeed := .ofProbe value }
  | .memory => fun value ↦ { profiler with memory := .ofProbe value }
  | .machineModel => fun value ↦ { profiler with machineModel := some value }

/-- What the chain of a memo comes to on a host. -/
def found (config : Config) (architecture : Architecture) (source : Source) :
    (memo : Memo) → memo.Value
  | .vendor => (Metric.vendor config architecture).value source
  | .maxSpeed => ((Metric.maxSpeed.run config architecture).value source).toOption
  | .memory => ((Metric.memory.run config architecture).value source).toOption
  | .machineModel =>
    ((Metric.model config architecture).value source).toOption.getD Profiler.unknownModel

/-- The search for a memo. -/
def find (config : Config) (architecture : Architecture) : (memo : Memo) → Probing memo.Value
  | .vendor => Metric.vendor config architecture
  | .maxSpeed => (Metric.maxSpeed.run config architecture).orReport .speedUnknown
  | .memory => (Metric.memory.run config architecture).orReport .memoryUnknown
  | .machineModel =>
    (fun outcome ↦ outcome.toOption.getD Profiler.unknownModel) <$>
      Metric.model config architecture

/-- The accessor of the profiler behind a memo. -/
def read : (memo : Memo) → Profiling memo.Value
  | .vendor => Profiler.readVendor
  | .maxSpeed => Profiler.readMaxMhz
  | .memory => Profiler.readMemory?
  | .machineModel => Profiler.readMachineModel

theorem value_find (config : Config) (architecture : Architecture) (source : Source)
    (memo : Memo) :
    (memo.find config architecture).value source = memo.found config architecture source := by
  cases memo <;> simp [find, found]

/-! ### Cells -/

variable (profiler : Profiler)

@[simp] theorem cell_fill_self (memo : Memo) (value : memo.Value) :
    memo.cell (memo.fill profiler value) = some value := by
  cases memo <;> simp [cell, fill]

theorem cell_fill_of_ne {memo other : Memo} (h : memo ≠ other) (value : other.Value) :
    memo.cell (other.fill profiler value) = memo.cell profiler := by
  cases memo <;> cases other <;> first | rfl | contradiction

theorem fill_of_cell {memo : Memo} {value : memo.Value} (h : memo.cell profiler = some value) :
    memo.fill profiler value = profiler := by
  obtain ⟨config, architecture, logical, physical, signature, cache, vendor, speed, memory,
    model⟩ := profiler
  cases memo with
  | vendor => simpa [cell, fill] using h.symm
  | maxSpeed => cases speed <;> cases h <;> rfl
  | memory => cases memory <;> cases h <;> rfl
  | machineModel => simpa [cell, fill] using h.symm

/-- Reading a memo answers with the cell if it is set, and else finds the value and sets it. -/
theorem run_read (memo : Memo) :
    memo.read.run profiler =
      match memo.cell profiler with
      | some value => pure (value, profiler)
      | none =>
        (fun value ↦ (value, memo.fill profiler value)) <$>
          memo.find profiler.config profiler.architecture := by
  obtain ⟨config, architecture, logical, physical, signature, cache, vendor, speed, memory,
    model⟩ := profiler
  cases memo with
  | vendor => cases vendor <;> simp [read, Profiler.readVendor, cell, find, fill]
  | maxSpeed =>
    cases speed with
    | unprobed =>
      simp [read, Profiler.readMaxMhz, cell, find, fill, Resolved.cell,
        Profiler.run_probeOrReport]
    | failed => simp [read, Profiler.readMaxMhz, cell, Resolved.cell]
    | valid mhz => simp [read, Profiler.readMaxMhz, cell, Resolved.cell]
  | memory =>
    cases memory with
    | unprobed =>
      simp [read, Profiler.readMemory?, cell, find, fill, Resolved.cell,
        Profiler.run_probeOrReport]
    | failed => simp [read, Profiler.readMemory?, cell, Resolved.cell]
    | valid bytes => simp [read, Profiler.readMemory?, cell, Resolved.cell]
  | machineModel => cases model <;> simp [read, Profiler.readMachineModel, cell, find, fill]

/-- The value that a memo has, or else would get on a host. -/
def now (source : Source) (memo : Memo) : memo.Value :=
  (memo.cell profiler).getD (memo.found profiler.config profiler.architecture source)

theorem now_of_cell {memo : Memo} {value : memo.Value} (h : memo.cell profiler = some value)
    (source : Source) : memo.now profiler source = value := by
  rw [now, h, Option.getD_some]

end Memo

namespace Profiler

variable (profiler : Profiler) (source : Source)

/-- The profiler after a memo was read on a host. -/
def remember (memo : Memo) : Profiler :=
  memo.fill profiler (memo.now profiler source)

/-- The profiler after several memos were read on a host. -/
def rememberAll (memos : List Memo) : Profiler :=
  memos.foldl (fun later memo ↦ later.remember source memo) profiler

/-- A profiler that has forgotten everything but what it found out when it was started. -/
def forget : Profiler :=
  { profiler with vendor := none, maxSpeed := .unprobed, memory := .unprobed, machineModel := none }

@[simp] theorem forget_remember (memo : Memo) :
    (profiler.remember source memo).forget = profiler.forget := by
  cases memo <;> rfl

@[simp] theorem config_remember (memo : Memo) :
    (profiler.remember source memo).config = profiler.config := by
  cases memo <;> rfl

@[simp] theorem architecture_remember (memo : Memo) :
    (profiler.remember source memo).architecture = profiler.architecture := by
  cases memo <;> rfl

@[simp] theorem cell_remember_self (memo : Memo) :
    memo.cell (profiler.remember source memo) = some (memo.now profiler source) :=
  Memo.cell_fill_self profiler memo _

theorem cell_remember_of_ne {memo other : Memo} (h : memo ≠ other) :
    memo.cell (profiler.remember source other) = memo.cell profiler :=
  Memo.cell_fill_of_ne profiler h _

/-- Reading a memo settles what it has on every host from then on. -/
@[simp] theorem now_remember_self (memo : Memo) (later : Source) :
    memo.now (profiler.remember source memo) later = memo.now profiler source :=
  Memo.now_of_cell _ (profiler.cell_remember_self source memo) later

/-- Reading a memo leaves what another one would get on a host. -/
theorem now_remember_of_ne {memo other : Memo} (h : memo ≠ other) (later : Source) :
    memo.now (profiler.remember source other) later = memo.now profiler later := by
  rw [Memo.now, cell_remember_of_ne profiler source h, config_remember, architecture_remember,
    Memo.now]

@[simp] theorem now_remember (memo other : Memo) :
    memo.now (profiler.remember source other) source = memo.now profiler source := by
  by_cases h : memo = other
  · subst h
    exact now_remember_self profiler source memo source
  · exact now_remember_of_ne profiler source h source

theorem remember_of_cell {memo : Memo} {value : memo.Value} (h : memo.cell profiler = some value) :
    profiler.remember source memo = profiler := by
  rw [remember, Memo.now_of_cell profiler h, Memo.fill_of_cell profiler h]

@[simp] theorem remember_remember (memo : Memo) (later : Source) :
    (profiler.remember source memo).remember later memo = profiler.remember source memo :=
  remember_of_cell _ later (profiler.cell_remember_self source memo)

/-! ### Several memos -/

@[simp] theorem forget_rememberAll (memos : List Memo) :
    (profiler.rememberAll source memos).forget = profiler.forget := by
  induction memos generalizing profiler with
  | nil => rfl
  | cons memo rest ih => exact (ih _).trans (profiler.forget_remember source memo)

/-- Reading several memos on a host sets the cells of just these, and of each to what it has. -/
theorem cell_rememberAll (memos : List Memo) (memo : Memo) :
    memo.cell (profiler.rememberAll source memos) =
      if memo ∈ memos then some (memo.now profiler source) else memo.cell profiler := by
  induction memos generalizing profiler with
  | nil => simp [rememberAll]
  | cons other rest ih =>
    have hrest := ih (profiler.remember source other)
    rw [now_remember] at hrest
    change memo.cell ((profiler.remember source other).rememberAll source rest) = _
    rw [hrest]
    by_cases hother : memo = other
    · subst hother
      simp
    · simp [hother, cell_remember_of_ne profiler source hother]

end Profiler

namespace Memo

variable (profiler : Profiler) (source : Source) (memo : Memo)

theorem value_read :
    (memo.read.run profiler).value source =
      (memo.now profiler source, profiler.remember source memo) := by
  rw [run_read]
  cases hcell : memo.cell profiler with
  | some value => simp [now_of_cell _ hcell, Profiler.remember_of_cell _ _ hcell]
  | none => simp [value_find, Profiler.remember, now, hcell]

theorem calls_read_of_cell {value : memo.Value} (h : memo.cell profiler = some value) :
    (memo.read.run profiler).calls source = [] := by
  rw [run_read, h]
  rfl

theorem calls_read_of_unset (h : memo.cell profiler = none) :
    (memo.read.run profiler).calls source =
      (memo.find profiler.config profiler.architecture).calls source := by
  rw [run_read, h]
  exact Probing.calls_map source _ _

end Memo

end HostProfile
