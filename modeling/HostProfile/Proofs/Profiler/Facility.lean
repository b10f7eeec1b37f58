import HostProfile.Proofs.Metric.Mirror
import HostProfile.Proofs.Profiler.Memo

/-!
# A profiler with a facility switched off

A profiler that was started with one more facility switched off goes through every history as the
profiler with the old settings goes through it on hosts without the facility: at each step the two
differ in their settings only, so they give the same answers and remember the same
(`mirrors_accessor`, `visits_disable`). The questions of the first are those of the second that are
not put to the facility, so it puts none to the facility.
-/

set_option autoImplicit false
set_option relaxedAutoImplicit false

namespace HostProfile

variable {α β : Type} {name : String}

/-! ### Profilers that differ in their settings -/

namespace Profiler

/-- The profiler with one more facility switched off. -/
def disable (profiler : Profiler) (name : String) : Profiler :=
  { profiler with config := profiler.config.disable name }

end Profiler

namespace Memo

variable (profiler : Profiler) (memo : Memo)

@[simp] theorem cell_disable (name : String) :
    memo.cell (profiler.disable name) = memo.cell profiler := by
  cases memo <;> rfl

theorem fill_disable (name : String) (value : memo.Value) :
    memo.fill (profiler.disable name) value = (memo.fill profiler value).disable name := by
  cases memo <;> rfl

end Memo

/-! ### Searches -/

namespace Probing

/-- A search mirrors another also with the event that is logged if it fails. -/
theorem Mirrors.orReport {first second : Probing (Outcome α)} (h : Mirrors name Eq first second)
    {report : ProbeError → Event}
    (hreport : ∀ error, (report error).switchedOff name = report error) :
    Mirrors name Eq (first.orReport report) (second.orReport report) := by
  refine h.bind fun outcome _ houtcome ↦ ?_
  subst houtcome
  rcases outcome with error | value
  · exact (mirrors_write _ (hreport error)).bind fun _ _ _ ↦ mirrors_pure rfl
  · exact mirrors_pure rfl

end Probing

open Probing

variable (hfacility : name ∈ Query.facilities)
include hfacility

/-- Searching a memo with a facility switched off mirrors searching it on the host without the
facility. -/
theorem Memo.mirrors_find (config : Config) (architecture : Architecture) (memo : Memo) :
    Mirrors name Eq (memo.find (config.disable name) architecture)
      (memo.find config architecture) := by
  have hrun := fun kind ↦ Metric.Kind.mirrors_run hfacility config architecture kind
  have hfind := fun kind ↦ Metric.Kind.mirrors_find hfacility config architecture kind
  cases memo with
  | vendor => exact (hrun .vendor).bind fun _ _ h ↦ mirrors_pure (by rw [h])
  | maxSpeed => exact (hrun .maxSpeed).orReport fun _ ↦ rfl
  | memory => exact (hrun .memory).orReport fun _ ↦ rfl
  | machineModel => exact (hfind .model).map fun _ _ h ↦ by rw [h]

/-- Starting a profiler with a facility switched off mirrors starting it on the host without the
facility. -/
theorem Profiler.mirrors_start (config : Config) (architecture : Architecture) :
    Mirrors name (fun first second ↦ first = second.disable name)
      (start (config.disable name) architecture) (start config architecture) := by
  have hfind := fun kind ↦ Metric.Kind.mirrors_find hfacility config architecture kind
  refine (hfind .logicalCpus).bind fun logical _ hlogical ↦
    (hfind .physicalCpus).bind fun physical _ hphysical ↦
      (hfind .signature).bind fun signature _ hsignature ↦
        (hfind .cacheSize).bind fun cache _ hcache ↦ ?_
  subst hlogical hphysical hsignature hcache
  exact Mirrors.bind (mirrors_write _ rfl) fun _ _ _ ↦ mirrors_pure rfl

omit hfacility

/-! ### Accessors -/

namespace Profiling

/-- The first reading does with a facility switched off what the second does on the host without the
facility. -/
def Mirrors (name : String) (first second : Profiling α) : Prop :=
  ∀ profiler, Probing.Mirrors name (fun a b ↦ a = (b.1, b.2.disable name))
    (first.run (profiler.disable name)) (second.run profiler)

theorem mirrors_pure (a : α) : Mirrors name (pure a) (pure a) :=
  fun _ ↦ Probing.mirrors_pure rfl

theorem Mirrors.bind {first second : Profiling α} {next next' : α → Profiling β}
    (h : Mirrors name first second) (hnext : ∀ a, Mirrors name (next a) (next' a)) :
    Mirrors name (first >>= next) (second >>= next') := by
  intro profiler
  rw [StateT.run_bind, StateT.run_bind]
  refine (h profiler).bind fun first second heq ↦ ?_
  subst heq
  exact hnext second.1 second.2

/-- A reading that begins with a look at the profiler sees the two profilers. -/
theorem mirrors_get_bind {next next' : Profiler → Profiling β}
    (h : ∀ profiler : Profiler, Mirrors name (next (profiler.disable name)) (next' profiler)) :
    Mirrors name (get >>= next) (get >>= next') :=
  fun profiler ↦ h profiler profiler

theorem mirrors_lift {first second : Probing α} (h : Probing.Mirrors name Eq first second) :
    Mirrors name (liftM first) (liftM second) := by
  intro profiler
  rw [StateT.run_monadLift, StateT.run_monadLift]
  exact h.bind fun _ _ heq ↦ Probing.mirrors_pure (by rw [heq])

variable (hfacility : name ∈ Query.facilities)
include hfacility

theorem mirrors_find (kind : Metric.Kind) (profiler : Profiler) :
    Mirrors name (liftM (kind.find (profiler.disable name).config profiler.architecture))
      (liftM (kind.find profiler.config profiler.architecture)) :=
  mirrors_lift (kind.mirrors_find hfacility profiler.config profiler.architecture)

theorem mirrors_read (memo : Memo) : Mirrors name memo.read memo.read := by
  intro profiler
  rw [Memo.run_read, Memo.run_read, Memo.cell_disable]
  cases memo.cell profiler with
  | some value => exact Probing.mirrors_pure rfl
  | none =>
    refine (memo.mirrors_find hfacility profiler.config profiler.architecture).map
      fun value _ heq ↦ ?_
    rw [heq, Memo.fill_disable]

theorem mirrors_readCurrentCpus :
    Mirrors name Profiler.readCurrentCpus Profiler.readCurrentCpus :=
  mirrors_get_bind fun profiler ↦
    (mirrors_find hfacility .currentCpus profiler).bind fun _ ↦ mirrors_pure _

theorem mirrors_readAdapter? : Mirrors name Profiler.readAdapter? Profiler.readAdapter? := by
  refine mirrors_get_bind fun profiler ↦
    (mirrors_find hfacility .adapter profiler).bind fun outcome ↦ ?_
  rcases outcome with error | adapter
  · exact (mirrors_lift (mirrors_write (.adapterUnknown error) rfl)).bind fun _ ↦ mirrors_pure _
  · exact mirrors_pure _

theorem mirrors_readMaxSpeed : Mirrors name Profiler.readMaxSpeed Profiler.readMaxSpeed :=
  (mirrors_read hfacility .maxSpeed).bind fun _ ↦ mirrors_pure _

theorem mirrors_readCurrentSpeed :
    Mirrors name Profiler.readCurrentSpeed Profiler.readCurrentSpeed := by
  refine mirrors_get_bind fun profiler ↦
    (mirrors_find hfacility .currentSpeed profiler).bind fun outcome ↦ ?_
  rcases outcome with error | mhz
  · exact mirrors_readMaxSpeed hfacility
  · exact mirrors_pure _

theorem mirrors_readSummary : Mirrors name Profiler.readSummary Profiler.readSummary :=
  mirrors_get_bind fun _ ↦ (mirrors_read hfacility .vendor).bind fun _ ↦
    (mirrors_readCurrentCpus hfacility).bind fun _ ↦
      (mirrors_read hfacility .maxSpeed).bind fun _ ↦
        (mirrors_readCurrentSpeed hfacility).bind fun _ ↦
          (mirrors_read hfacility .memory).bind fun _ ↦
            (mirrors_read hfacility .machineModel).bind fun _ ↦
              (mirrors_readAdapter? hfacility).bind fun _ ↦ mirrors_pure _

/-- Every accessor with a facility switched off mirrors itself on the host without the facility. -/
theorem mirrors_accessor (accessor : Accessor) :
    Mirrors name (Profiler.read accessor) (Profiler.read accessor) := by
  cases accessor with
  | currentCpus => exact mirrors_readCurrentCpus hfacility
  | vendor => exact mirrors_read hfacility .vendor
  | maxSpeed => exact mirrors_readMaxSpeed hfacility
  | currentSpeed => exact mirrors_readCurrentSpeed hfacility
  | memory => exact (mirrors_read hfacility .memory).bind fun _ ↦ mirrors_pure _
  | machineModel => exact mirrors_read hfacility .machineModel
  | modelUnknown => exact (mirrors_read hfacility .machineModel).bind fun _ ↦ mirrors_pure _
  | adapter =>
    refine (mirrors_readAdapter? hfacility).bind fun found ↦ ?_
    rcases found with _ | adapter <;> exact mirrors_pure _
  | adapter? => exact mirrors_readAdapter? hfacility
  | summary => exact mirrors_readSummary hfacility
  | logicalCpus | physicalCpus | architecture | cacheSize | family | model | stepping
  | maxSpeedState | memoryState => exact mirrors_get_bind fun _ ↦ mirrors_pure _

end Profiling

/-! ### Histories -/

namespace Profiler

/-- The step on the host without a facility. -/
def Step.without (name : String) (step : Step) : Step :=
  { step with source := step.source.without name }

/-- What a step comes to if it puts no questions to a facility that is switched off. The answer is
the same. -/
def Visit.switchedOff (name : String) (visit : Visit) : Visit :=
  { visit with
    calls := Query.others name visit.calls
    log := visit.log.map (Event.switchedOff name) }

variable (hfacility : name ∈ Query.facilities)
include hfacility

theorem visit_disable (profiler : Profiler) (step : Step) :
    (profiler.disable name).visit step =
        (profiler.visit (step.without name)).switchedOff name ∧
      (profiler.disable name).after step = (profiler.after (step.without name)).disable name := by
  obtain ⟨hvalue, hcalls, hlog⟩ := Profiling.mirrors_accessor hfacility step.accessor profiler
  constructor
  · simp only [visit, Visit.switchedOff, Step.without, hvalue, hcalls, hlog]
  · rw [after, hvalue]
    rfl

/-- A history with a facility switched off runs as it does on the hosts without the facility. -/
theorem visits_disable (profiler : Profiler) (history : List Step) :
    (profiler.disable name).visits history =
        (profiler.visits (history.map (Step.without name))).map (Visit.switchedOff name) ∧
      (profiler.disable name).afterAll history =
        (profiler.afterAll (history.map (Step.without name))).disable name := by
  induction history generalizing profiler with
  | nil => exact ⟨rfl, rfl⟩
  | cons step rest ih =>
    obtain ⟨hvisit, hafter⟩ := visit_disable hfacility profiler step
    obtain ⟨hvisits, hafterAll⟩ := ih (profiler.after (step.without name))
    constructor
    · rw [visits, hvisit, hafter, hvisits, List.map_cons, visits, List.map_cons]
    · rw [← hafter] at hafterAll
      exact hafterAll

omit hfacility

/-- To switch a facility off is the same as to lose it on the host. Every metric comes to the same
value; a profiler started so remembers the same after every history, and gives the same answers on
hosts that may change between the steps; and no question is put to the facility. -/
theorem disable_facility (hfacility : name ∈ Query.facilities) (config : Config)
    (architecture : Architecture) :
    (∀ (kind : Metric.Kind) (source : Source),
      (kind.find (config.disable name) architecture).value source =
          (kind.find config architecture).value (source.without name) ∧
        ∀ q ∈ (kind.find (config.disable name) architecture).calls source, q.owner ≠ name) ∧
    ∀ (first : Source) (history : List Step),
      let off := (start (config.disable name) architecture).value first
      let lacking := (start config architecture).value (first.without name)
      off.visits history =
          (lacking.visits (history.map (Step.without name))).map (Visit.switchedOff name) ∧
        off.afterAll history =
          (lacking.afterAll (history.map (Step.without name))).disable name ∧
        (∀ q ∈ (start (config.disable name) architecture).calls first, q.owner ≠ name) ∧
        ∀ visit ∈ off.visits history, ∀ q ∈ visit.calls, q.owner ≠ name := by
  refine ⟨fun kind source ↦ ?_, fun first history ↦ ?_⟩
  · have hfind := kind.mirrors_find hfacility config architecture
    refine ⟨hfind.value source, fun q hq ↦ ?_⟩
    rw [hfind.calls] at hq
    exact Query.owner_ne_of_mem_others hq
  · intro off lacking
    have hstart := mirrors_start hfacility config architecture
    have hoff : off = lacking.disable name := hstart.value first
    obtain ⟨hvisits, hafterAll⟩ := visits_disable hfacility lacking history
    rw [← hoff] at hvisits hafterAll
    refine ⟨hvisits, hafterAll, fun q hq ↦ ?_, fun visit hvisit q hq ↦ ?_⟩
    · rw [hstart.calls] at hq
      exact Query.owner_ne_of_mem_others hq
    · rw [hvisits, List.mem_map] at hvisit
      obtain ⟨lost, -, rfl⟩ := hvisit
      exact Query.owner_ne_of_mem_others hq

end Profiler

/-- A host that tells every kernel parameter that is a number, and nothing else. -/
def Source.parametersOnly : Source
  | .parameter _ => .ok 8
  | _ => .error .unavailable

namespace Profiler

/-- Without its kernel parameters such a host tells no count, and a profiler of it goes on as on a
host that has none. -/
theorem disable_facility_sysctl :
    "sysctl" ∈ Query.facilities ∧
      (Metric.Kind.logicalCpus.find .standard .x64).value .parametersOnly = .ok 8 ∧
      (Metric.Kind.logicalCpus.find (Config.standard.disable "sysctl") .x64).value
        .parametersOnly = .error .noData ∧
      ((start (Config.standard.disable "sysctl") .x64).value .parametersOnly).visits
          [⟨.parametersOnly, .summary⟩, ⟨.silent, .memoryState⟩] =
        (((start .standard .x64).value (Source.parametersOnly.without "sysctl")).visits
          [⟨Source.parametersOnly.without "sysctl", .summary⟩,
            ⟨Source.silent.without "sysctl", .memoryState⟩]).map (Visit.switchedOff "sysctl") := by
  have hfacility : "sysctl" ∈ Query.facilities := by decide
  obtain ⟨hfind, hrun⟩ := disable_facility hfacility .standard .x64
  refine ⟨hfacility, rfl, ?_, (hrun .parametersOnly _).1⟩
  rw [(hfind .logicalCpus .parametersOnly).1]
  rfl

end Profiler

end HostProfile
