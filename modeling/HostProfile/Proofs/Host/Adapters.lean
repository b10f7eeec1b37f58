import HostProfile.Host.Linux
import HostProfile.Host.Windows
import HostProfile.Proofs.Host.DriverVersion
import HostProfile.Proofs.Text.Terminated

/-!
# Which driver tells the default adapter

A Windows host asks Direct3D for its default adapter and turns to Vulkan if that interface is
switched off or one of its steps fails, whichever step it is (`Selection`). Nothing of a failed step
is left in the answer, which is then that of Vulkan alone. The record of Direct3D has the fields of
one identifier (`Direct3D.Describes`). A Linux host asks Vulkan at once.

To switch a driver off is to take it away: a host answers every question as it would without the
library (`DriverSwitches`).
-/

set_option autoImplicit false
set_option relaxedAutoImplicit false

namespace HostProfile

/-! ### The steps to an adapter -/

namespace Direct3D

/-- A step on the way to the identifier of the default adapter. -/
inductive Step where
  /-- The library is loaded. -/
  | load
  /-- It has the entry point. -/
  | entryPoint
  /-- The entry point makes an object. -/
  | object
  /-- The object counts an adapter at least. -/
  | count
  /-- The object identifies the default adapter. -/
  | identify
  deriving DecidableEq, Repr

/-- The step at which a library fails. -/
inductive Library.Fails : Library → Step → Prop
  | load : Fails .absent .load
  | entryPoint : Fails .noEntry .entryPoint
  | object (adapterCount : Nat) (result : Int) (identifier : Identifier) :
      Fails (.present true adapterCount result identifier) .object
  | count (result : Int) (identifier : Identifier) :
      Fails (.present false 0 result identifier) .count
  | identify {adapterCount : Nat} {result : Int} (identifier : Identifier)
      (hcount : adapterCount ≠ 0) (hresult : result ≠ 0) :
      Fails (.present false adapterCount result identifier) .identify

/-- All steps of a library succeed, and it identifies the default adapter. -/
inductive Library.Identifies : Library → Identifier → Prop
  | intro {adapterCount : Nat} (identifier : Identifier) (hcount : adapterCount ≠ 0) :
      Identifies (.present false adapterCount 0 identifier) identifier

/-- A record has what one identifier tells: the texts are those in its fields, each up to the first
NUL and no longer than its field, and the version has the halves of its two words. -/
structure Describes (identifier : Identifier) (adapter : Adapter) : Prop where
  deviceName : Text.Terminated (identifier.deviceName.take 32) adapter.deviceName
  description : Text.Terminated (identifier.description.take 512) adapter.description
  vendorId : adapter.vendorId = identifier.vendorId
  deviceId : adapter.deviceId = identifier.deviceId
  driver : Text.Terminated (identifier.driver.take 512) adapter.driver
  driverVersion : adapter.driverVersion = DriverVersion.dotted
    (DriverVersion.cut [16, 16, 16, 16]
      (DriverVersion.pairNumber (identifier.versionHigh, identifier.versionLow)))

/-- The text in a field is the one up to the first NUL, and no other is. -/
theorem terminated_iff_fieldText {bytes : List UInt8} {text : String} :
    Text.Terminated bytes text ↔ text = fieldText bytes := by
  rw [Text.terminated_iff, Text.fieldText_eq, eq_comm]

theorem describes_iff {identifier : Identifier} {adapter : Adapter} :
    Describes identifier adapter ↔ adapter = identifier.toAdapter := by
  have hversion := DriverVersion.packed_eq identifier.versionHigh identifier.versionLow
  constructor
  · intro h
    exact Adapter.ext (terminated_iff_fieldText.mp h.deviceName)
      (terminated_iff_fieldText.mp h.description) h.vendorId h.deviceId
      (terminated_iff_fieldText.mp h.driver) (h.driverVersion.trans hversion.symm)
  · rintro rfl
    exact ⟨terminated_iff_fieldText.mpr rfl, terminated_iff_fieldText.mpr rfl, rfl, rfl,
      terminated_iff_fieldText.mpr rfl, hversion⟩

namespace Library

variable {library : Library}

/-- A library identifies the default adapter or fails at a step. -/
theorem identifies_or_fails (library : Library) :
    (∃ identifier, library.Identifies identifier) ∨ ∃ step, library.Fails step := by
  cases library with
  | absent => exact .inr ⟨_, .load⟩
  | noEntry => exact .inr ⟨_, .entryPoint⟩
  | present objectIsNull adapterCount result identifier =>
    cases objectIsNull with
    | true => exact .inr ⟨_, .object adapterCount result identifier⟩
    | false =>
      by_cases hcount : adapterCount = 0
      · subst hcount
        exact .inr ⟨_, .count result identifier⟩
      · by_cases hresult : result = 0
        · subst hresult
          exact .inl ⟨_, .intro identifier hcount⟩
        · exact .inr ⟨_, .identify identifier hcount hresult⟩

theorem Identifies.adapter?_eq {identifier : Identifier} (h : library.Identifies identifier) :
    library.adapter? = some identifier.toAdapter := by
  cases h with
  | intro _ hcount => simp [adapter?, hcount]

theorem Fails.adapter?_eq {step : Step} (h : library.Fails step) : library.adapter? = none := by
  cases h with
  | load | entryPoint | object | count => rfl
  | identify _ _ hresult => simp [adapter?, hresult]

theorem Fails.not_identifies {step : Step} (h : library.Fails step) (identifier : Identifier) :
    ¬ library.Identifies identifier := fun hidentifies ↦ by
  cases h.adapter?_eq.symm.trans hidentifies.adapter?_eq

end Library

end Direct3D

namespace Vulkan

/-- Vulkan counts as absent only if the loader cannot be opened or has no entry point; a loader that
fails later is a failed query. -/
theorem Loader.adapter_eq_unavailable_iff {loader : Loader} :
    loader.adapter = .error .unavailable ↔ loader = .absent ∨ loader = .noEntry := by
  cases loader with
  | absent | noEntry => simp [adapter]
  | present create enumerate =>
    refine iff_of_false (fun h ↦ ?_) (by simp)
    rw [adapter] at h
    cases hfind : findAdapter create enumerate with
    | ok found => rw [hfind] at h; cases h
    | error fault => rw [hfind] at h; cases h

end Vulkan

/-! ### The choice between the drivers -/

namespace Config

/-- What Vulkan comes to on a host with these settings. -/
def vulkanOutcome (config : Config) (vulkan : Vulkan.Loader) : Outcome Adapter :=
  if config.isDisabled "vulkan" then .error .unavailable else vulkan.adapter

/-- Direct3D is switched on and identifies the default adapter. -/
def Direct3DTells (config : Config) (direct3d : Direct3D.Library)
    (identifier : Direct3D.Identifier) : Prop :=
  config.isDisabled "d3d9" = false ∧ direct3d.Identifies identifier

/-- Direct3D is switched off or fails at a step. -/
def Direct3DSilent (config : Config) (direct3d : Direct3D.Library) : Prop :=
  config.isDisabled "d3d9" = true ∨ ∃ step, direct3d.Fails step

theorem tells_or_silent (config : Config) (direct3d : Direct3D.Library) :
    (∃ identifier, config.Direct3DTells direct3d identifier) ∨ config.Direct3DSilent direct3d := by
  cases hoff : config.isDisabled "d3d9" with
  | true => exact .inr (.inl hoff)
  | false =>
    exact direct3d.identifies_or_fails.imp (fun ⟨identifier, h⟩ ↦ ⟨identifier, hoff, h⟩) .inr

theorem vulkanOutcome_absent (config : Config) :
    config.vulkanOutcome .absent = .error .unavailable :=
  ite_self _

theorem vulkanOutcome_eq_unavailable_iff {config : Config} {vulkan : Vulkan.Loader} :
    config.vulkanOutcome vulkan = .error .unavailable ↔
      config.isDisabled "vulkan" = true ∨ vulkan = .absent ∨ vulkan = .noEntry := by
  unfold vulkanOutcome
  split
  · simp [*]
  · rw [Vulkan.Loader.adapter_eq_unavailable_iff]
    simp [*]

end Config

/-- How the default adapter of a Windows host is chosen. -/
structure Selection (config : Config) (direct3d : Direct3D.Library) : Prop where
  /-- The adapter is that of Direct3D, whatever Vulkan does, if all steps succeed, and only then. -/
  first : ∀ adapter, (∀ vulkan, Windows.defaultAdapter config direct3d vulkan = .ok adapter) ↔
    ∃ identifier, config.Direct3DTells direct3d identifier ∧ Direct3D.Describes identifier adapter
  /-- In all other cases the outcome is that of Vulkan. -/
  second : (∀ identifier, ¬ config.Direct3DTells direct3d identifier) →
    ∀ vulkan, Windows.defaultAdapter config direct3d vulkan = config.vulkanOutcome vulkan
  /-- These are the cases that Direct3D is switched off or fails at a step. -/
  silent : (∀ identifier, ¬ config.Direct3DTells direct3d identifier) ↔
    config.Direct3DSilent direct3d
  /-- Libraries that fail come to the same, at whichever step and with whatever record. -/
  interchangeable : (∃ step, direct3d.Fails step) → ∀ library : Direct3D.Library,
    (∃ step, library.Fails step) →
      Windows.defaultAdapter config direct3d = Windows.defaultAdapter config library
  /-- Drivers count as missing where Direct3D is silent and Vulkan is switched off or cannot be
  opened. -/
  unavailable : ∀ vulkan,
    Windows.defaultAdapter config direct3d vulkan = .error .unavailable ↔
      config.Direct3DSilent direct3d ∧
        (config.isDisabled "vulkan" = true ∨ vulkan = .absent ∨ vulkan = .noEntry)

namespace Windows

variable {config : Config} {direct3d : Direct3D.Library}

/-- The choice in terms of what either driver comes to. -/
theorem defaultAdapter_eq (config : Config) (direct3d : Direct3D.Library)
    (vulkan : Vulkan.Loader) : defaultAdapter config direct3d vulkan =
      (if config.isDisabled "d3d9" then none else direct3d.adapter?).elim
        (config.vulkanOutcome vulkan) .ok := by
  rw [defaultAdapter]
  cases config.isDisabled "d3d9" <;> cases direct3d.adapter? <;> rfl

theorem defaultAdapter_of_tells {identifier : Direct3D.Identifier}
    (h : config.Direct3DTells direct3d identifier) (vulkan : Vulkan.Loader) :
    defaultAdapter config direct3d vulkan = .ok identifier.toAdapter := by
  rw [defaultAdapter_eq, h.1, h.2.adapter?_eq]
  rfl

theorem defaultAdapter_of_silent (h : config.Direct3DSilent direct3d) (vulkan : Vulkan.Loader) :
    defaultAdapter config direct3d vulkan = config.vulkanOutcome vulkan := by
  rw [defaultAdapter_eq]
  obtain hoff | ⟨step, hfails⟩ := h
  · rw [hoff]
    rfl
  · rw [hfails.adapter?_eq, ite_self]
    rfl

theorem not_tells_iff :
    (∀ identifier, ¬ config.Direct3DTells direct3d identifier) ↔
      config.Direct3DSilent direct3d := by
  constructor
  · exact fun h ↦ (config.tells_or_silent direct3d).resolve_left fun ⟨identifier, htells⟩ ↦
      h identifier htells
  · rintro (hoff | ⟨step, hfails⟩) identifier ⟨hon, hidentifies⟩
    · exact Bool.false_ne_true (hon.symm.trans hoff)
    · exact hfails.not_identifies identifier hidentifies

theorem forall_defaultAdapter_eq_ok_iff {adapter : Adapter} :
    (∀ vulkan, defaultAdapter config direct3d vulkan = .ok adapter) ↔
      ∃ identifier, config.Direct3DTells direct3d identifier ∧
        Direct3D.Describes identifier adapter := by
  simp only [Direct3D.describes_iff]
  constructor
  · intro h
    obtain ⟨identifier, htells⟩ | hsilent := config.tells_or_silent direct3d
    · have heq := (h .absent).symm.trans (defaultAdapter_of_tells htells .absent)
      exact ⟨identifier, htells, Except.ok.inj heq⟩
    · -- Without a loader Vulkan tells no adapter, so Direct3D told this one.
      have heq := (defaultAdapter_of_silent hsilent .absent).trans config.vulkanOutcome_absent
      cases (h .absent).symm.trans heq
  · rintro ⟨identifier, htells, rfl⟩ vulkan
    exact defaultAdapter_of_tells htells vulkan

theorem selection (config : Config) (direct3d : Direct3D.Library) : Selection config direct3d where
  first := fun _ ↦ forall_defaultAdapter_eq_ok_iff
  second := fun h ↦ defaultAdapter_of_silent (not_tells_iff.mp h)
  silent := not_tells_iff
  interchangeable := fun hfails _ hother ↦ funext fun vulkan ↦
    (defaultAdapter_of_silent (.inr hfails) vulkan).trans
      (defaultAdapter_of_silent (.inr hother) vulkan).symm
  unavailable := fun vulkan ↦ by
    obtain ⟨identifier, htells⟩ | hsilent := config.tells_or_silent direct3d
    · rw [defaultAdapter_of_tells htells]
      exact iff_of_false (fun h ↦ by cases h) fun h ↦ not_tells_iff.mpr h.1 identifier htells
    · rw [defaultAdapter_of_silent hsilent, Config.vulkanOutcome_eq_unavailable_iff,
        and_iff_right hsilent]

end Windows

/-! ### Drivers that are switched off -/

/-- Settings that switch a driver off and are otherwise the same. -/
structure Config.SwitchesOff (config : Config) (driver : String) (settings : Config) : Prop where
  off : settings.isDisabled driver = true
  others : ∀ name, name ≠ driver → settings.isDisabled name = config.isDisabled name
  cpuinfoPath : settings.cpuinfoPath = config.cpuinfoPath
  sysfsRoot : settings.sysfsRoot = config.sysfsRoot

theorem Config.switchesOff_disable (config : Config) (name : String) :
    config.SwitchesOff (name.map Char.toLower) (config.disable name) where
  off := by rw [isDisabled_disable, beq_self_eq_true, Bool.true_or]
  others := fun other hne ↦ by rw [isDisabled_disable, beq_false_of_ne hne, Bool.false_or]
  cpuinfoPath := rfl
  sysfsRoot := rfl

/-- Hosts on which a driver is switched off answer as hosts without its library. -/
structure DriverSwitches (config : Config) : Prop where
  windowsDirect3D : ∀ settings, config.SwitchesOff "d3d9" settings → ∀ machine,
    Windows.source settings machine =
      Windows.source config { machine with direct3d := .absent }
  windowsVulkan : ∀ settings, config.SwitchesOff "vulkan" settings → ∀ machine,
    Windows.source settings machine =
      Windows.source config { machine with vulkan := .absent }
  linuxVulkan : ∀ settings, config.SwitchesOff "vulkan" settings → ∀ machine,
    Linux.source settings machine =
      Linux.source config { machine with vulkan := .absent }

section Switches

variable {config settings : Config}

theorem Config.SwitchesOff.vulkanOutcome_eq (h : config.SwitchesOff "vulkan" settings)
    (vulkan : Vulkan.Loader) :
    settings.vulkanOutcome vulkan = config.vulkanOutcome .absent := by
  rw [Config.vulkanOutcome_absent, Config.vulkanOutcome, h.off, if_pos rfl]

theorem Windows.source_of_direct3d (h : config.SwitchesOff "d3d9" settings) (machine : Machine) :
    source settings machine = source config { machine with direct3d := .absent } := by
  funext query
  cases query with
  | adapter =>
    change defaultAdapter settings machine.direct3d machine.vulkan =
      defaultAdapter config .absent machine.vulkan
    have hvulkan : settings.vulkanOutcome machine.vulkan = config.vulkanOutcome machine.vulkan := by
      rw [Config.vulkanOutcome, Config.vulkanOutcome, h.others "vulkan" (by decide)]
    rw [defaultAdapter_of_silent (.inl h.off), defaultAdapter_of_silent (.inr ⟨_, .load⟩), hvulkan]
  | _ => rfl

theorem Windows.source_of_vulkan (h : config.SwitchesOff "vulkan" settings) (machine : Machine) :
    source settings machine = source config { machine with vulkan := .absent } := by
  funext query
  cases query with
  | adapter =>
    change defaultAdapter settings machine.direct3d machine.vulkan =
      defaultAdapter config machine.direct3d .absent
    rw [defaultAdapter_eq, defaultAdapter_eq, h.others "d3d9" (by decide), h.vulkanOutcome_eq]
  | _ => rfl

theorem Linux.source_of_vulkan (h : config.SwitchesOff "vulkan" settings) (machine : Machine) :
    source settings machine = source config { machine with vulkan := .absent } := by
  funext query
  cases query with
  | adapter => exact h.vulkanOutcome_eq machine.vulkan
  | cpuinfo => simp only [source, cpuinfo, h.cpuinfoPath]
  | frequencyKhz which => simp only [source, frequencyKhz, attributePath, h.sysfsRoot]
  | firmware => simp only [source, firmware, attributePath, h.sysfsRoot]
  | _ => rfl

end Switches

/-- Direct3D comes first and Vulkan second on Windows, and on either system a driver that is
switched off, under its name in any mix of cases, is as good as missing. -/
theorem adapter_selection (config : Config) :
    (∀ direct3d, Selection config direct3d) ∧ DriverSwitches config ∧
      ∀ name, config.SwitchesOff (name.map Char.toLower) (config.disable name) :=
  ⟨Windows.selection config,
    ⟨fun _ ↦ Windows.source_of_direct3d, fun _ ↦ Windows.source_of_vulkan,
      fun _ ↦ Linux.source_of_vulkan⟩,
    config.switchesOff_disable⟩

end HostProfile
