import HostProfile.Proofs.Host.DriverFailures
import HostProfile.Proofs.Host.DriverVersion
import HostProfile.Proofs.Text.Terminated
import Mathlib.Logic.Relation

/-!
# The choice of a Vulkan device

A Vulkan loader lists devices, and the one that is reported is found by going through the list once,
keeping the better of two at every step. What is kept in the end is the first device that is no
processor or, if each is one, the first of all (`Chosen`, `chosen_iff`). All of the record is taken
from this device (`Describes`).

A loader answers with that record if its calls succeed and it lists a device; otherwise the query of
the driver failed, and only a loader that cannot be opened counts as unavailable
(`Loader.Answers`). Where a device is no processor, the answer is not changed by more processors
anywhere or by any devices after the one that was chosen (`Inserts`), however many are put in
(`chosen_device_answered`).
-/

set_option autoImplicit false
set_option relaxedAutoImplicit false

namespace HostProfile.Vulkan

/-- The device that a list is reported by: the first that is no processor or, if each is one, the
first of all. -/
inductive Chosen : List Device → Device → Prop
  | hardware {before : List Device} {device : Device} (after : List Device)
      (hbefore : ∀ other ∈ before, other.isProcessor = true) (h : device.isProcessor = false) :
      Chosen (before ++ device :: after) device
  | processor {device : Device} {after : List Device}
      (h : ∀ other ∈ device :: after, other.isProcessor = true) :
      Chosen (device :: after) device

/-- A record has what one device tells: both texts are its name up to the first NUL, and the
versions are the fields of its version words. -/
structure Describes (device : Device) (adapter : Adapter) : Prop where
  deviceName : Text.Terminated (device.name.take 255) adapter.deviceName
  description : Text.Terminated (device.name.take 255) adapter.description
  vendorId : adapter.vendorId = device.vendorId
  deviceId : adapter.deviceId = device.deviceId
  driver : adapter.driver = "Vulkan " ++
    DriverVersion.dotted (DriverVersion.cut [7, 10, 12] device.apiVersion.toNat)
  driverVersion : adapter.driverVersion =
    DriverVersion.dotted
      (DriverVersion.cut (DriverVersion.layout device.vendorId) device.driverVersion.toNat)

/-- What a loader has to answer. A library without the entry point is not opened as a loader. -/
inductive Loader.Answers : Loader → Outcome Adapter → Prop
  | absent : Answers .absent (.error .unavailable)
  | noEntry : Answers .noEntry (.error .unavailable)
  | failed {loader : Loader} {fault : Fault} (h : loader.Fails fault) :
      Answers loader (.error (.queryFailed "driver" fault.describe))
  | chosen {devices : List Device} {device : Device} {adapter : Adapter}
      (h : Chosen devices device) (hadapter : Describes device adapter) :
      Answers (.present (.ok ()) (.ok devices)) (.ok adapter)

/-- A device is put into a list where it is not to matter: a processor anywhere, or any device after
one that is no processor. -/
inductive Inserts : List Device → List Device → Prop
  | processor (before after : List Device) {device : Device} (h : device.isProcessor = true) :
      Inserts (before ++ after) (before ++ device :: after)
  | later {before : List Device} (after : List Device) (device : Device)
      (h : ∃ other ∈ before, other.isProcessor = false) :
      Inserts (before ++ after) (before ++ device :: after)

/-! ### The device that is kept -/

/-- The first device that is no processor. -/
def hardware? (devices : List Device) : Option Device :=
  devices.find? (!·.isProcessor)

theorem hardware?_eq_none_iff {devices : List Device} :
    hardware? devices = none ↔ ∀ device ∈ devices, device.isProcessor = true := by
  simp [hardware?]

theorem hardware?_eq_some_iff {devices : List Device} {device : Device} :
    hardware? devices = some device ↔ device.isProcessor = false ∧ ∃ before after,
      devices = before ++ device :: after ∧ ∀ other ∈ before, other.isProcessor = true := by
  rw [hardware?, List.find?_eq_some_iff_append]
  simp

theorem exists_hardware?_eq_some {devices : List Device}
    (h : ∃ device ∈ devices, device.isProcessor = false) :
    ∃ device, hardware? devices = some device := by
  apply Option.isSome_iff_exists.mp
  simpa [hardware?] using h

theorem better_of_hardware {kept : Device} (h : kept.isProcessor = false) (other : Device) :
    better kept other = kept := by
  rw [better, h]
  exact if_neg (by cases other.isProcessor <;> decide)

theorem better_of_processor {kept : Device} (h : kept.isProcessor = true) (other : Device) :
    better kept other = if other.isProcessor then kept else other := by
  rw [better, h]
  cases other.isProcessor <;> rfl

/-- Going through a list keeps the first device that is no processor, or what was kept before it. -/
theorem foldl_better (kept : Device) (rest : List Device) :
    rest.foldl better kept = (hardware? (kept :: rest)).getD kept := by
  induction rest generalizing kept with
  | nil => cases h : kept.isProcessor <;> simp [hardware?, h]
  | cons other rest ih =>
    rw [List.foldl_cons, ih]
    cases hkept : kept.isProcessor with
    | false => simp [hardware?, better_of_hardware hkept, hkept]
    | true =>
      rw [better_of_processor hkept]
      cases hother : other.isProcessor <;> simp [hardware?, hkept, hother]

theorem preferred?_eq (devices : List Device) :
    preferred? devices = (hardware? devices).or devices.head? := by
  cases devices with
  | nil => rfl
  | cons device rest =>
    rw [preferred?, foldl_better]
    cases hardware? (device :: rest) <;> rfl

theorem chosen_iff {devices : List Device} {device : Device} :
    Chosen devices device ↔ preferred? devices = some device := by
  rw [preferred?_eq]
  constructor
  · intro h
    cases h with
    | hardware after hbefore h =>
      rw [hardware?_eq_some_iff.mpr ⟨h, _, after, rfl, hbefore⟩, Option.some_or]
    | processor h => rw [hardware?_eq_none_iff.mpr h, Option.none_or, List.head?_cons]
  · intro h
    cases hfound : hardware? devices with
    | some found =>
      rw [hfound, Option.some_or, Option.some_inj] at h
      subst h
      obtain ⟨hfirst, before, after, rfl, hbefore⟩ := hardware?_eq_some_iff.mp hfound
      exact .hardware after hbefore hfirst
    | none =>
      rw [hfound, Option.none_or] at h
      obtain ⟨after, rfl⟩ := List.head?_eq_some_iff.mp h
      exact .processor (hardware?_eq_none_iff.mp hfound)

/-! ### More devices -/

theorem Inserts.hardware?_eq {devices more : List Device} (h : Inserts devices more) :
    hardware? more = hardware? devices := by
  cases h with
  | processor before after h => simp [hardware?, List.find?_append, h]
  | @later before after device h =>
    obtain ⟨found, hfound⟩ := exists_hardware?_eq_some h
    change before.find? (!·.isProcessor) = some found at hfound
    simp only [hardware?, List.find?_append, hfound, Option.some_or]

theorem hardware?_eq_of_inserts {devices more : List Device}
    (h : Relation.ReflTransGen Inserts devices more) : hardware? more = hardware? devices := by
  induction h with
  | refl => rfl
  | tail _ hstep ih => exact hstep.hardware?_eq.trans ih

/-- Where a device is no processor, the devices that are put in make no difference. -/
theorem preferred?_eq_of_inserts {devices more : List Device}
    (hhardware : ∃ device ∈ devices, device.isProcessor = false)
    (h : Relation.ReflTransGen Inserts devices more) : preferred? more = preferred? devices := by
  obtain ⟨device, hdevice⟩ := exists_hardware?_eq_some hhardware
  rw [preferred?_eq, preferred?_eq, hardware?_eq_of_inserts h, hdevice, Option.some_or,
    Option.some_or]

/-! ### The record of a device -/

theorem Device.interfaceVersion_eq (device : Device) :
    device.interfaceVersion =
      DriverVersion.dotted (DriverVersion.cut [7, 10, 12] device.apiVersion.toNat) := by
  have hmajor : ((device.apiVersion >>> 22) &&& 0x7F).toNat =
      VersionWord.field device.apiVersion 22 7 :=
    VersionWord.toNat_field _ 22 7 (by decide) (by decide)
  have hminor : ((device.apiVersion >>> 12) &&& 0x3FF).toNat =
      VersionWord.field device.apiVersion 12 10 :=
    VersionWord.toNat_field _ 12 10 (by decide) (by decide)
  have hpatch : (device.apiVersion &&& 0xFFF).toNat = VersionWord.field device.apiVersion 0 12 :=
    DriverVersion.toNat_and_low _ 12 (by decide)
  rw [interfaceVersion, hmajor, hminor, hpatch]
  rfl

theorem Device.describes_toAdapter (device : Device) : Describes device device.toAdapter where
  deviceName := Text.terminated_terminatedText _
  description := Text.terminated_terminatedText _
  vendorId := rfl
  deviceId := rfl
  driver := by rw [← interfaceVersion_eq]; rfl
  driverVersion := DriverVersion.vulkan_eq _ _

theorem Describes.unique {device : Device} {adapter other : Adapter} (h : Describes device adapter)
    (hother : Describes device other) : adapter = other := by
  ext1
  · exact h.deviceName.terminatedText_eq.symm.trans hother.deviceName.terminatedText_eq
  · exact h.description.terminatedText_eq.symm.trans hother.description.terminatedText_eq
  · exact h.vendorId.trans hother.vendorId.symm
  · exact h.deviceId.trans hother.deviceId.symm
  · exact h.driver.trans hother.driver.symm
  · exact h.driverVersion.trans hother.driverVersion.symm

/-! ### What a loader answers -/

theorem Loader.Answers.adapter_eq {loader : Loader} {outcome : Outcome Adapter}
    (h : loader.Answers outcome) : loader.adapter = outcome := by
  cases h with
  | absent | noEntry => rfl
  | failed h => exact h.adapter_eq
  | @chosen devices device _ h hadapter =>
    have hidentifies : Identifies (.present (.ok ()) (.ok devices)) device :=
      .intro (chosen_iff.mp h)
    rw [hidentifies.adapter_eq, device.describes_toAdapter.unique hadapter]

theorem Loader.answers_adapter (loader : Loader) : loader.Answers loader.adapter := by
  cases loader with
  | absent => exact .absent
  | noEntry => exact .noEntry
  | present create enumerate =>
    obtain ⟨device, h⟩ | ⟨fault, h⟩ := identifies_or_fails create enumerate
    · rw [h.adapter_eq]
      cases h with
      | intro h => exact .chosen (chosen_iff.mpr h) device.describes_toAdapter
    · rw [h.adapter_eq]
      exact .failed h

/-- A loader answers with the record of the first device that is no processor, or of the first of
all if each is one; without a device, or if a call fails, the query of the driver failed, and it is
unavailable only if it cannot be opened. Where a device is no processor, more processors and more
devices after the first of the others make no difference. -/
theorem chosen_device_answered :
    (∀ (loader : Loader) outcome, loader.Answers outcome ↔ loader.adapter = outcome) ∧
    ∀ create devices more,
      (∃ device ∈ devices, device.isProcessor = false) →
      Relation.ReflTransGen Inserts devices more →
        (Loader.present create (.ok more)).adapter =
          (Loader.present create (.ok devices)).adapter := by
  refine ⟨fun loader outcome ↦ ⟨fun h ↦ h.adapter_eq, fun h ↦ h ▸ loader.answers_adapter⟩, ?_⟩
  intro create devices more hhardware hinserts
  have hpreferred := preferred?_eq_of_inserts hhardware hinserts
  have hlisted (list : List Device) :
      during "enumerate physical devices" (.ok list) = pure list := rfl
  rw [Loader.adapter, Loader.adapter, findAdapter, findAdapter, hlisted, hlisted, pure_bind,
    pure_bind, hpreferred]

/-- A card is reported where a rasterizer comes first, and where another one and a second card are
listed as well. -/
theorem chosen_device_answered_card :
    let rasterizer : Device := ⟨Text.encode "llvmpipe", 4, 0x00403000, 1, 0x10005, 0⟩
    let card : Device := ⟨Text.encode "card", 2, 0x00403000, 0x83C30000, 0x10DE, 0x2504⟩
    let devices := [rasterizer, card]
    let more := [rasterizer, rasterizer, card, { card with deviceId := 0x2484 }]
    (∃ device ∈ devices, device.isProcessor = false) ∧
      Relation.ReflTransGen Inserts devices more ∧
      (Loader.present (.ok ()) (.ok devices)).adapter = .ok card.toAdapter ∧
      (Loader.present (.ok ()) (.ok more)).adapter = .ok card.toAdapter := by
  intro rasterizer card devices more
  have hcard : ∃ device ∈ devices, device.isProcessor = false := ⟨card, by simp [devices], rfl⟩
  have hsecond : Inserts devices [rasterizer, card, { card with deviceId := 0x2484 }] :=
    .later [] _ hcard
  have hrasterizer : Inserts [rasterizer, card, { card with deviceId := 0x2484 }] more :=
    .processor [] _ rfl
  have hmore : Relation.ReflTransGen Inserts devices more :=
    .tail (.single hsecond) hrasterizer
  have hchosen : Chosen devices card := by
    have hbefore : ∀ other ∈ [rasterizer], other.isProcessor = true := by
      intro other hother
      rw [List.mem_singleton.mp hother]
      rfl
    exact .hardware [] hbefore rfl
  obtain ⟨hanswers, hinserts⟩ := chosen_device_answered
  have hadapter := (hanswers _ _).mp (.chosen hchosen card.describes_toAdapter)
  exact ⟨hcard, hmore, hadapter, (hinserts (.ok ()) devices more hcard hmore).trans hadapter⟩

end HostProfile.Vulkan
