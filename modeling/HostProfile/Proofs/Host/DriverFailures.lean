import HostProfile.Metric.Graphics
import HostProfile.Proofs.Chain.Runner
import HostProfile.Proofs.Host.Adapters

/-!
# Drivers that are missing and drivers that fail

A graphics interface of a Windows host is missing, or it is there and fails, or it tells an adapter
(`Machine.lacks_or_breaks_or_delivers`). A missing interface is no reason for a warning, a failing
one is, if no other interface tells an adapter: then the host should answer with a failed query, and
the chain of the adapter should warn of it (`FailuresReported`).

A host does so unless Direct3D fails where Vulkan is missing or switched off (`Masked`). There the
failure is lost, and the adapter counts as unavailable (`driver_failures_reported`).
-/

set_option autoImplicit false
set_option relaxedAutoImplicit false

namespace HostProfile

/-! ### What a loader comes to -/

namespace Vulkan

/-- A loader is opened, and a later call fails or no device is listed. -/
inductive Loader.Fails : Loader → Fault → Prop
  | create (text : String) (enumerate : Except String (List Device)) :
      Fails (.present (.error text) enumerate) ⟨text, ["vkCreateInstance"]⟩
  | enumerate (text : String) :
      Fails (.present (.ok ()) (.error text)) ⟨text, ["enumerate physical devices"]⟩
  | noDevice : Fails (.present (.ok ()) (.ok [])) ⟨"no vulkan physical devices", []⟩

/-- All calls of a loader succeed, and of the devices it lists this one is reported. -/
inductive Loader.Identifies : Loader → Device → Prop
  | intro {devices : List Device} {device : Device} (h : preferred? devices = some device) :
      Identifies (.present (.ok ()) (.ok devices)) device

theorem preferred?_eq_none_iff {devices : List Device} :
    preferred? devices = none ↔ devices = [] := by
  cases devices with
  | nil => simp [preferred?]
  | cons device rest => simp [preferred?]

namespace Loader

variable {loader : Loader}

/-- A loader that is opened identifies a device or fails. -/
theorem identifies_or_fails (create : Except String Unit)
    (enumerate : Except String (List Device)) :
    let loader := Loader.present create enumerate
    (∃ device, loader.Identifies device) ∨ ∃ fault, loader.Fails fault := by
  rcases create with text | ⟨⟩
  · exact .inr ⟨_, .create text enumerate⟩
  · rcases enumerate with text | devices
    · exact .inr ⟨_, .enumerate text⟩
    · cases hdevice : preferred? devices with
      | some device => exact .inl ⟨device, .intro hdevice⟩
      | none =>
        obtain rfl := preferred?_eq_none_iff.mp hdevice
        exact .inr ⟨_, .noDevice⟩

theorem Fails.adapter_eq {fault : Fault} (h : loader.Fails fault) :
    loader.adapter = .error fault.toProbeError := by
  cases h <;> rfl

theorem Identifies.adapter_eq {device : Device} (h : loader.Identifies device) :
    loader.adapter = .ok device.toAdapter := by
  cases h with
  | intro h =>
    simp [adapter, findAdapter, during, h, bind, Except.bind, Except.mapError, pure, Except.pure]

end Loader

end Vulkan

/-- A library that cannot be loaded fails at no other step. -/
theorem Direct3D.Library.Fails.eq_load {library : Library} {step : Step} (h : library.Fails step)
    (hload : library.Fails .load) : step = .load := by
  cases hload
  cases h
  rfl

namespace Windows

/-! ### The interfaces of a host -/

/-- A graphics interface. -/
inductive Interface where
  | direct3d
  | vulkan
  deriving DecidableEq, Repr

/-- The name under which an interface is switched off. -/
def Interface.name : Interface → String
  | .direct3d => "d3d9"
  | .vulkan => "vulkan"

/-- An interface is missing: its library or loader cannot be opened. A Vulkan library without the
entry point is not opened as a loader. -/
inductive Machine.Lacks (machine : Machine) : Interface → Prop
  | direct3d (h : machine.direct3d.Fails .load) : Lacks machine .direct3d
  | vulkan (h : machine.vulkan = .absent ∨ machine.vulkan = .noEntry) : Lacks machine .vulkan

/-- An interface is there, but asking it for the default adapter fails. -/
inductive Machine.Breaks (machine : Machine) : Interface → Prop
  | direct3d {step : Direct3D.Step} (h : machine.direct3d.Fails step) (hloaded : step ≠ .load) :
      Breaks machine .direct3d
  | vulkan {fault : Fault} (h : machine.vulkan.Fails fault) : Breaks machine .vulkan

/-- An interface tells the default adapter. -/
inductive Machine.Delivers (machine : Machine) : Interface → Adapter → Prop
  | direct3d {identifier : Direct3D.Identifier} (h : machine.direct3d.Identifies identifier) :
      Delivers machine .direct3d identifier.toAdapter
  | vulkan {device : Vulkan.Device} (h : machine.vulkan.Identifies device) :
      Delivers machine .vulkan device.toAdapter

/-- A host with these settings reports the failures of its graphics interfaces. -/
structure FailuresReported (settings : Config) (machine : Machine) : Prop where
  /-- The adapter counts as unavailable only if every interface that is switched on is missing. -/
  missing : source settings machine .adapter = .error .unavailable →
    ∀ interface, settings.isDisabled interface.name = false → machine.Lacks interface
  /-- An interface that is switched on and fails makes a failed query, with a warning in the log of
  the chain, if no other interface tells an adapter. -/
  warned : ∀ interface, settings.isDisabled interface.name = false → machine.Breaks interface →
    (∀ other, other ≠ interface → settings.isDisabled other.name = false →
      ∀ adapter, ¬ machine.Delivers other adapter) →
    ∃ reason, source settings machine .adapter = .error (.queryFailed "driver" reason) ∧
      ∀ config architecture, config.isDisabled "driver" = false →
        .probed "gpu" "driver" (.failed "driver" reason) ∈
          (Metric.adapter.run config architecture).log (source settings machine)

/-- Direct3D is switched on and fails, and Vulkan is missing or switched off. -/
structure Masked (settings : Config) (machine : Machine) : Prop where
  on : settings.isDisabled Interface.direct3d.name = false
  breaks : machine.Breaks .direct3d
  alone : settings.isDisabled Interface.vulkan.name = true ∨ machine.Lacks .vulkan

section Interfaces

variable {settings config : Config} {machine : Machine}

theorem Machine.lacks_or_breaks_or_delivers (machine : Machine) (interface : Interface) :
    machine.Lacks interface ∨ machine.Breaks interface ∨
      ∃ adapter, machine.Delivers interface adapter := by
  cases interface with
  | direct3d =>
    obtain ⟨identifier, h⟩ | ⟨step, h⟩ := machine.direct3d.identifies_or_fails
    · exact .inr (.inr ⟨_, .direct3d h⟩)
    · by_cases hstep : step = .load
      · subst hstep
        exact .inl (.direct3d h)
      · exact .inr (.inl (.direct3d h hstep))
  | vulkan =>
    cases hloader : machine.vulkan with
    | absent => exact .inl (.vulkan (.inl hloader))
    | noEntry => exact .inl (.vulkan (.inr hloader))
    | present create enumerate =>
      obtain ⟨device, h⟩ | ⟨fault, h⟩ := Vulkan.Loader.identifies_or_fails create enumerate
      · exact .inr (.inr ⟨_, .vulkan (hloader ▸ h)⟩)
      · exact .inr (.inl (.vulkan (hloader ▸ h)))

theorem Machine.Lacks.not_breaks {interface : Interface} (h : machine.Lacks interface) :
    ¬ machine.Breaks interface := by
  intro hbreaks
  cases hbreaks with
  | direct3d hfails hloaded =>
    cases h with
    | direct3d hload => exact hloaded (hfails.eq_load hload)
  | vulkan hfails =>
    cases h with
    | vulkan hloader =>
      obtain hloader | hloader := hloader <;> rw [hloader] at hfails <;> cases hfails

/-- Direct3D is silent unless it is switched on and tells an adapter. -/
theorem silent_of_not_delivers (h : settings.isDisabled Interface.direct3d.name = false →
    ∀ adapter, ¬ machine.Delivers .direct3d adapter) :
    settings.Direct3DSilent machine.direct3d := by
  refine not_tells_iff.mp fun identifier htells ↦ ?_
  exact h htells.1 _ (.direct3d htells.2)

/-! ### What the host answers -/

/-- Where Direct3D is silent, a failing Vulkan makes a failed query. -/
theorem adapter_of_vulkan_breaks (hsilent : settings.Direct3DSilent machine.direct3d)
    (hon : settings.isDisabled Interface.vulkan.name = false) (hbreaks : machine.Breaks .vulkan) :
    ∃ reason, source settings machine .adapter = .error (.queryFailed "driver" reason) := by
  cases hbreaks with
  | @vulkan fault hfails =>
    refine ⟨fault.describe, (defaultAdapter_of_silent hsilent machine.vulkan).trans ?_⟩
    rw [Config.vulkanOutcome, if_neg (by rw [← Interface.name, hon]; exact Bool.false_ne_true),
      hfails.adapter_eq]
    rfl

theorem Masked.adapter_eq (h : Masked settings machine) :
    source settings machine .adapter = .error .unavailable := by
  have hsilent : settings.Direct3DSilent machine.direct3d := by
    cases h.breaks with
    | direct3d hfails => exact .inr ⟨_, hfails⟩
  refine (defaultAdapter_of_silent hsilent machine.vulkan).trans ?_
  refine Config.vulkanOutcome_eq_unavailable_iff.mpr (h.alone.imp_right fun hlacks ↦ ?_)
  cases hlacks with
  | vulkan hloader => exact hloader

/-- Where the host tells no adapter, the log has what became of its driver and that the display of a
Windows host tells nothing. -/
theorem log_adapter {error : ProbeError} (architecture : Architecture)
    (h : source settings machine .adapter = .error error)
    (hon : config.isDisabled "driver" = false) :
    (Metric.adapter.run config architecture).log (source settings machine) =
      [.probed "gpu" "driver" (.of Metric.adapter.usable (.error error : Outcome Adapter)),
        .probed "gpu" "display"
          (if config.isDisabled "display" then .disabled else .unavailable)] := by
  have hdriver :
      Metric.AdapterProbe.driver.outcome architecture (source settings machine) =
        .error error := h
  have hdisplay :
      Metric.AdapterProbe.display.outcome architecture (source settings machine) =
        .error .unavailable := rfl
  have hfirstName : Metric.AdapterProbe.driver.name = "driver" := rfl
  have hsecondName : Metric.AdapterProbe.display.name = "display" := rfl
  have hunsettled : ∀ (probe : Probe Adapter) (failure : ProbeError),
      probe.outcome architecture (source settings machine) = .error failure →
        probe.settles architecture (source settings machine) Metric.adapter.usable config =
          false :=
    fun probe failure hfails ↦ Probe.settles_eq_false_iff.mpr fun adapter hresolves ↦ by
      cases hfails.symm.trans hresolves.2.1
  obtain ⟨-, -, hfirst⟩ := Chain.firstUsable_cons_of_not_settles "gpu" [Metric.AdapterProbe.display]
    (hunsettled _ error hdriver)
  obtain ⟨-, -, hsecond⟩ := Chain.firstUsable_cons_of_not_settles "gpu" []
    (hunsettled _ .unavailable hdisplay)
  refine hfirst.trans ?_
  rw [hsecond, Probe.reachedLog, Probe.reachedLog, Probe.verdict_of_enabled hon, hdriver,
    Probe.verdict, hdisplay, hfirstName, hsecondName, hon]
  cases config.isDisabled "display" <;> rfl

theorem failuresReported_of_not_masked (h : ¬ Masked settings machine) :
    FailuresReported settings machine where
  missing := by
    intro hunavailable interface hon
    obtain ⟨hsilent, habsent⟩ :=
      ((selection settings machine.direct3d).unavailable machine.vulkan).mp hunavailable
    cases interface with
    | vulkan =>
      refine .vulkan (habsent.resolve_left fun hoff ↦ ?_)
      exact Bool.false_ne_true (hon.symm.trans hoff)
    | direct3d =>
      obtain hlacks | hbreaks | ⟨adapter, hdelivers⟩ :=
        machine.lacks_or_breaks_or_delivers .direct3d
      · exact hlacks
      · exact absurd ⟨hon, hbreaks, habsent.imp_right .vulkan⟩ h
      · cases hdelivers with
        | direct3d hidentifies =>
          exact absurd ⟨hon, hidentifies⟩ (not_tells_iff.mpr hsilent _)
  warned := by
    intro interface hon hbreaks hothers
    -- Whichever interface fails, the answer is that of Vulkan, which then fails too.
    have hvulkan : settings.Direct3DSilent machine.direct3d ∧
        settings.isDisabled Interface.vulkan.name = false ∧ machine.Breaks .vulkan := by
      cases interface with
      | vulkan =>
        exact ⟨silent_of_not_delivers (hothers .direct3d (by decide)), hon, hbreaks⟩
      | direct3d =>
        have hswitched : settings.isDisabled Interface.vulkan.name = false :=
          Bool.eq_false_iff.mpr fun hoff ↦ h ⟨hon, hbreaks, .inl hoff⟩
        refine ⟨?_, hswitched, ?_⟩
        · cases hbreaks with
          | direct3d hfails => exact .inr ⟨_, hfails⟩
        · obtain hlacks | hvulkan | ⟨adapter, hdelivers⟩ :=
            machine.lacks_or_breaks_or_delivers .vulkan
          · exact absurd ⟨hon, hbreaks, .inr hlacks⟩ h
          · exact hvulkan
          · exact absurd hdelivers (hothers .vulkan (by decide) hswitched adapter)
    obtain ⟨reason, hfailed⟩ := adapter_of_vulkan_breaks hvulkan.1 hvulkan.2.1 hvulkan.2.2
    refine ⟨reason, hfailed, fun config architecture hdriver ↦ ?_⟩
    rw [log_adapter architecture hfailed hdriver]
    exact List.mem_cons_self

theorem Masked.not_failuresReported (h : Masked settings machine) :
    ¬ FailuresReported settings machine := fun hreported ↦
  (hreported.missing h.adapter_eq .direct3d h.on).not_breaks h.breaks

end Interfaces

/-- The failures of drivers are reported on every host but those on which Direct3D fails and Vulkan
is missing or switched off. On these the adapter counts as unavailable, and the chain of the adapter
does not warn. -/
theorem driver_failures_reported (settings : Config) (machine : Machine) :
    (FailuresReported settings machine ↔ ¬ Masked settings machine) ∧
      (Masked settings machine → source settings machine .adapter = .error .unavailable ∧
        ∀ config architecture, config.isDisabled "driver" = false →
          let log := (Metric.adapter.run config architecture).log (source settings machine)
          .probed "gpu" "driver" .unavailable ∈ log ∧ ∀ event ∈ log, event.level ≠ .warn) := by
  refine ⟨⟨fun hreported hmasked ↦ hmasked.not_failuresReported hreported,
    failuresReported_of_not_masked⟩, fun hmasked ↦ ⟨hmasked.adapter_eq, ?_⟩⟩
  intro config architecture hdriver log
  have hlog : log = _ := log_adapter architecture hmasked.adapter_eq hdriver
  rw [hlog]
  refine ⟨List.mem_cons_self, fun event hevent ↦ ?_⟩
  obtain rfl | hevent := List.mem_cons.mp hevent
  · decide
  · obtain rfl := List.mem_singleton.mp hevent
    cases config.isDisabled "display" <;> decide

/-- A host that has two graphics interfaces and nothing else. -/
def Machine.ofInterfaces (direct3d : Direct3D.Library) (vulkan : Vulkan.Loader) : Machine where
  processorRecords := fun _ _ ↦ .filled 0 []
  systemInfo := ⟨0, 0, 0⟩
  registry := fun _ ↦ .error 2
  affinityMask := .ok 0
  memoryBytes := .ok 0
  direct3d := direct3d
  vulkan := vulkan
  processor := ⟨none, 1, none⟩

/-- Direct3D is there and counts no adapter, Vulkan is missing, and nobody is warned. -/
theorem driver_failure_masked :
    let machine := Machine.ofInterfaces (.present false 0 0 ⟨[], [], [], 0, 0, 0, 0⟩) .absent
    let host := source .standard machine
    Config.standard.isDisabled Interface.direct3d.name = false ∧ machine.Breaks .direct3d ∧
      machine.Lacks .vulkan ∧ ¬ machine.Lacks .direct3d ∧
      host .adapter = .error .unavailable ∧
      (Metric.adapter.run .standard .x64).log host =
        [.probed "gpu" "driver" .unavailable, .probed "gpu" "display" .unavailable] ∧
      ¬ FailuresReported .standard machine := by
  intro machine host
  have hbreaks : machine.Breaks .direct3d := .direct3d (.count 0 _) (by decide)
  have hlacks : machine.Lacks .vulkan := .vulkan (.inl rfl)
  have hmasked : Masked .standard machine := ⟨rfl, hbreaks, .inr hlacks⟩
  exact ⟨rfl, hbreaks, hlacks, fun h ↦ h.not_breaks hbreaks, hmasked.adapter_eq,
    log_adapter .x64 hmasked.adapter_eq rfl, hmasked.not_failuresReported⟩

end Windows

end HostProfile
