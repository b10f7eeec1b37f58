import HostProfile.Proofs.Json.Parts
import Mathlib.Data.List.Forall2

/-!
# Records in JSON and back

What is written of a record is read back as that record, so no two records are written alike
(`Faithful`). Which objects are read as a summary at all is told by their fields: the parts that
have to be there are there with values of their forms, and the others are absent or have such values
(`Summary.Acceptable`, `Summary.isSome_ofJson?_iff`). Fields that no part is named after do not
matter, neither in the summary nor in the adapter record inside it.
-/

set_option autoImplicit false
set_option relaxedAutoImplicit false

namespace HostProfile

open Json

variable {fields before after : List (Option String × Json)}

/-- Reading gives back what was written, so no two values are written alike. -/
structure Json.Faithful {α : Type} (write : α → Json) (read : Json → Option α) : Prop where
  read_write : ∀ value, read (write value) = some value
  injective : Function.Injective write

theorem Json.faithful_of_read_write {α : Type} {write : α → Json} {read : Json → Option α}
    (h : ∀ value, read (write value) = some value) : Faithful write read where
  read_write := h
  injective := by
    intro first second hwrite
    have hread := h first
    rw [hwrite, h second] at hread
    exact (Option.some.inj hread).symm

/-! ### Alternatives -/

theorem Architecture.ofJson?_toJson (architecture : Architecture) :
    ofJson? architecture.toJson = some architecture := by
  cases architecture <;> rfl

theorem Resolved.ofJson?_toJson {α : Type} {write : α → Json} {read : Json → Option α}
    (h : ∀ value, read (write value) = some value) (state : Resolved α) :
    ofJson? read (state.toJson write) = some state := by
  cases state with
  | unprobed => rfl
  | failed => rfl
  | valid value =>
    change (read (write value)).map Resolved.valid = some (.valid value)
    rw [h, Option.map_some]

/-! ### Signatures -/

theorem Signature.ofJson?_toJson (s : Signature) : ofJson? s.toJson = some s := by
  have hparts := @parts?_ofFields ["family", "model", "stepping"]
    [.integer s.family.toNat, .integer s.model.toNat, .integer s.stepping.toNat] (by decide) rfl
  simp only [List.zip_cons_cons, List.zip_nil_left] at hparts
  rw [ofJson?, toJson, hparts]
  simp only [some_bind, List.map_cons, List.map_nil, required?_some, word32?_toNat, Option.pure_def]

/-! ### Adapters -/

namespace Adapter

/-- The names of the parts of an adapter record. -/
def fieldNames : List String :=
  ["device_name", "description", "vendor_id", "device_id", "driver", "driver_version"]

/-- The parts of an adapter record, all of which have to be there. -/
def forms : List (String × Form) :=
  [("device_name", .text), ("description", .text), ("vendor_id", .word32), ("device_id", .word32),
    ("driver", .text), ("driver_version", .text)]

theorem ofJson?_toJson (a : Adapter) : ofJson? a.toJson = some a := by
  have hparts := @parts?_ofFields fieldNames
    [.ofText a.deviceName, .ofText a.description, .integer a.vendorId.toNat,
      .integer a.deviceId.toNat, .ofText a.driver, .ofText a.driverVersion] (by decide) rfl
  simp only [fieldNames, List.zip_cons_cons, List.zip_nil_left] at hparts
  rw [ofJson?, toJson, hparts]
  simp only [some_bind, List.map_cons, List.map_nil, required?_some, text?_ofText, word32?_toNat,
    Option.pure_def]

/-- An unknown field of an object does not change the adapter. -/
theorem ofJson?_insert {name : String} (h : name ∉ fieldNames) (json : Json) :
    ofJson? (.object (before ++ (some name, json) :: after)) =
      ofJson? (.object (before ++ after)) := by
  have hparts := @parts?_insert before after name json fieldNames (by decide) h
  rw [ofJson?, ofJson?]
  exact congrArg (· >>= _) hparts

/-- The parts of an object that make an adapter. -/
structure ReadFrom (fields : List (Option String × Json)) (a : Adapter) : Prop where
  deviceName : Yields fields "device_name" (required? text?) a.deviceName
  description : Yields fields "description" (required? text?) a.description
  vendorId : Yields fields "vendor_id" (required? word32?) a.vendorId
  deviceId : Yields fields "device_id" (required? word32?) a.deviceId
  driver : Yields fields "driver" (required? text?) a.driver
  driverVersion : Yields fields "driver_version" (required? text?) a.driverVersion

theorem ofJson?_object_iff {a : Adapter} :
    ofJson? (.object fields) = some a ↔ a.ReadFrom fields := by
  unfold ofJson?
  rw [parts?_object (by simp)]
  simp only [List.mapM_cons, List.mapM_nil, bind_assoc, pure_bind]
  simp only [↓bind_eq_some_iff, Option.pure_def, Option.some.injEq]
  constructor
  · rintro ⟨_, hdeviceName, _, hdescription, _, hvendorId, _, hdeviceId, _, hdriver, _,
      hdriverVersion, _, h1, _, h2, _, h3, _, h4, _, h5, _, h6, rfl⟩
    exact ⟨⟨_, hdeviceName, h1⟩, ⟨_, hdescription, h2⟩, ⟨_, hvendorId, h3⟩,
      ⟨_, hdeviceId, h4⟩, ⟨_, hdriver, h5⟩, ⟨_, hdriverVersion, h6⟩⟩
  · rintro ⟨⟨_, hdeviceName, h1⟩, ⟨_, hdescription, h2⟩, ⟨_, hvendorId, h3⟩,
      ⟨_, hdeviceId, h4⟩, ⟨_, hdriver, h5⟩, ⟨_, hdriverVersion, h6⟩⟩
    exact ⟨_, hdeviceName, _, hdescription, _, hvendorId, _, hdeviceId, _, hdriver, _,
      hdriverVersion, _, h1, _, h2, _, h3, _, h4, _, h5, _, h6, rfl⟩

/-- What can be read as an adapter: an object with all its parts, or a list of just these in their
order. -/
inductive Acceptable : Json → Prop
  | object {fields : List (Option String × Json)} (hkeyed : Keyed fieldNames fields)
      (hforms : ∀ entry ∈ forms, ∃ json, (some entry.1, json) ∈ fields ∧ entry.2.Admits json) :
      Acceptable (.object fields)
  | array {items : List Json}
      (hitems : List.Forall₂ (fun entry item ↦ entry.2.Admits item) forms items) :
      Acceptable (.array items)

theorem exists_readFrom_iff :
    (∃ a, ReadFrom fields a) ↔ ∀ entry ∈ forms, (part? fields entry.1).isSome ∧
      ∃ json, (some entry.1, json) ∈ fields ∧ entry.2.Admits json := by
  simp only [forms, List.forall_mem_cons, ← exists_yields_required_iff fits_text,
    ← exists_yields_required_iff fits_word32]
  constructor
  · rintro ⟨a, h⟩
    exact ⟨⟨_, h.deviceName⟩, ⟨_, h.description⟩, ⟨_, h.vendorId⟩, ⟨_, h.deviceId⟩, ⟨_, h.driver⟩,
      ⟨_, h.driverVersion⟩, by simp⟩
  · rintro ⟨⟨deviceName, hdeviceName⟩, ⟨description, hdescription⟩, ⟨vendorId, hvendorId⟩,
      ⟨deviceId, hdeviceId⟩, ⟨driver, hdriver⟩, ⟨driverVersion, hdriverVersion⟩, -⟩
    exact ⟨⟨deviceName, description, vendorId, deviceId, driver, driverVersion⟩,
      ⟨hdeviceName, hdescription, hvendorId, hdeviceId, hdriver, hdriverVersion⟩⟩

theorem acceptable_object_iff :
    Acceptable (.object fields) ↔ (ofJson? (.object fields)).isSome := by
  have hnames : fieldNames = forms.map Prod.fst := rfl
  rw [Option.isSome_iff_exists]
  simp only [ofJson?_object_iff, exists_readFrom_iff]
  constructor
  · rintro (⟨hkeyed, hforms⟩ | -)
    rw [keyed_iff (by decide), hnames] at hkeyed
    exact fun entry hentry ↦ ⟨hkeyed _ (List.mem_map_of_mem hentry), hforms entry hentry⟩
  · intro h
    refine .object ?_ fun entry hentry ↦ (h entry hentry).2
    rw [keyed_iff (by decide), hnames]
    intro name hname
    obtain ⟨entry, hentry, rfl⟩ := List.mem_map.mp hname
    exact (h entry hentry).1

theorem acceptable_array_iff {items : List Json} :
    Acceptable (.array items) ↔ (ofJson? (.array items)).isSome := by
  have hforms : Acceptable (.array items) ↔
      List.Forall₂ (fun entry item ↦ entry.2.Admits item) forms items := by
    constructor
    · rintro (- | hitems)
      exact hitems
    · exact .array
  rw [hforms]
  match items with
  | [] | [_] | [_, _] | [_, _, _] | [_, _, _, _] | [_, _, _, _, _] =>
    simp [forms, ofJson?, parts?, required?]
  | [a, b, c, d, e, f] =>
    simp [forms, ofJson?, parts?, required?, fits_text _, fits_word32 _, Option.isSome_bind,
      Option.any_eq_true, Option.isSome_iff_exists]
  | _ :: _ :: _ :: _ :: _ :: _ :: _ :: _ => simp [forms, ofJson?, parts?]

theorem acceptable_iff {json : Json} : Acceptable json ↔ (ofJson? json).isSome := by
  cases json with
  | object fields => exact acceptable_object_iff
  | array items => exact acceptable_array_iff
  | null | bool | integer | other | string =>
    constructor
    · rintro ⟨⟩
    · intro h
      contradiction

end Adapter

/-! ### Summaries -/

namespace Summary

/-- The parts of a summary that have to be there. -/
def requiredForms : List (String × Form) :=
  [("architecture", .architecture), ("cpu_vendor", .text), ("logical_cpus", .word32),
    ("physical_cpus", .word32), ("current_cpus", .word32), ("cpu_family", .word32),
    ("cpu_model", .word32), ("cpu_stepping", .word32), ("cache_size_bytes", .word64),
    ("machine_model", .text)]

/-- The numbers of a summary that may be absent. -/
def absentableForms : List (String × Form) :=
  [("max_cpu_speed_mhz", .word32), ("current_cpu_speed_mhz", .word32), ("memory_bytes", .int64)]

theorem ofJson?_toJson (s : Summary) : ofJson? s.toJson = some s := by
  have hword (mhz : Option UInt32) :
      absentable? word32? (some (ofOption (fun mhz ↦ .integer mhz.toNat) mhz)) = some mhz :=
    absentable?_ofOption word32?_toNat (fun _ ↦ Json.noConfusion) mhz
  have hbytes (bytes : Option Int64) :
      absentable? int64? (some (ofOption (fun bytes ↦ .integer bytes.toInt) bytes)) = some bytes :=
    absentable?_ofOption int64?_toInt (fun _ ↦ Json.noConfusion) bytes
  have hadapter (adapter : Option Adapter) :
      absentable? Adapter.ofJson? (some (ofOption Adapter.toJson adapter)) = some adapter :=
    absentable?_ofOption Adapter.ofJson?_toJson (fun _ ↦ Json.noConfusion) adapter
  rw [ofJson?, toJson, parts?_ofFields (by decide) rfl]
  simp only [some_bind, List.map_cons, List.map_nil, required?_some, Architecture.ofJson?_toJson,
    text?_ofText, word32?_toNat, word64?_toNat, hword, hbytes, hadapter, Option.pure_def]

/-- An unknown field of an object does not change the summary. -/
theorem ofJson?_insert {name : String} (h : name ∉ fieldNames) (json : Json) :
    ofJson? (.object (before ++ (some name, json) :: after)) =
      ofJson? (.object (before ++ after)) := by
  rw [ofJson?, ofJson?, parts?_insert (by decide) h]

/-- The parts of an object that make a summary. -/
structure ReadFrom (fields : List (Option String × Json)) (s : Summary) : Prop where
  architecture :
    Yields fields "architecture" (required? Architecture.ofJson?) s.architecture
  vendor : Yields fields "cpu_vendor" (required? text?) s.vendor
  logicalCpus : Yields fields "logical_cpus" (required? word32?) s.logicalCpus
  physicalCpus : Yields fields "physical_cpus" (required? word32?) s.physicalCpus
  currentCpus : Yields fields "current_cpus" (required? word32?) s.currentCpus
  family : Yields fields "cpu_family" (required? word32?) s.family
  model : Yields fields "cpu_model" (required? word32?) s.model
  stepping : Yields fields "cpu_stepping" (required? word32?) s.stepping
  cacheSize : Yields fields "cache_size_bytes" (required? word64?) s.cacheSize
  maxSpeed : Yields fields "max_cpu_speed_mhz" (absentable? word32?) s.maxSpeed
  currentSpeed : Yields fields "current_cpu_speed_mhz" (absentable? word32?) s.currentSpeed
  memory : Yields fields "memory_bytes" (absentable? int64?) s.memory
  machineModel : Yields fields "machine_model" (required? text?) s.machineModel
  adapter : Yields fields "gpu" (absentable? Adapter.ofJson?) s.adapter

theorem ofJson?_object_iff {s : Summary} :
    ofJson? (.object fields) = some s ↔ s.ReadFrom fields := by
  unfold ofJson?
  rw [parts?_object (by decide)]
  simp only [fieldNames, List.mapM_cons, List.mapM_nil, bind_assoc, pure_bind]
  simp only [↓bind_eq_some_iff, Option.pure_def, Option.some.injEq]
  constructor
  · rintro ⟨_, harchitecture, _, hvendor, _, hlogicalCpus, _, hphysicalCpus, _, hcurrentCpus, _,
      hfamily, _, hmodel, _, hstepping, _, hcacheSize, _, hmaxSpeed, _, hcurrentSpeed, _, hmemory,
      _, hmachineModel, _, hadapter, _, h1, _, h2, _, h3, _, h4, _, h5, _, h6, _, h7, _, h8, _, h9,
      _, h10, _, h11, _, h12, _, h13, _, h14, rfl⟩
    exact ⟨⟨_, harchitecture, h1⟩, ⟨_, hvendor, h2⟩, ⟨_, hlogicalCpus, h3⟩,
      ⟨_, hphysicalCpus, h4⟩, ⟨_, hcurrentCpus, h5⟩, ⟨_, hfamily, h6⟩, ⟨_, hmodel, h7⟩,
      ⟨_, hstepping, h8⟩, ⟨_, hcacheSize, h9⟩, ⟨_, hmaxSpeed, h10⟩, ⟨_, hcurrentSpeed, h11⟩,
      ⟨_, hmemory, h12⟩, ⟨_, hmachineModel, h13⟩, ⟨_, hadapter, h14⟩⟩
  · rintro ⟨⟨_, harchitecture, h1⟩, ⟨_, hvendor, h2⟩, ⟨_, hlogicalCpus, h3⟩,
      ⟨_, hphysicalCpus, h4⟩, ⟨_, hcurrentCpus, h5⟩, ⟨_, hfamily, h6⟩, ⟨_, hmodel, h7⟩,
      ⟨_, hstepping, h8⟩, ⟨_, hcacheSize, h9⟩, ⟨_, hmaxSpeed, h10⟩, ⟨_, hcurrentSpeed, h11⟩,
      ⟨_, hmemory, h12⟩, ⟨_, hmachineModel, h13⟩, ⟨_, hadapter, h14⟩⟩
    exact ⟨_, harchitecture, _, hvendor, _, hlogicalCpus, _, hphysicalCpus, _, hcurrentCpus, _,
      hfamily, _, hmodel, _, hstepping, _, hcacheSize, _, hmaxSpeed, _, hcurrentSpeed, _, hmemory,
      _, hmachineModel, _, hadapter, _, h1, _, h2, _, h3, _, h4, _, h5, _, h6, _, h7, _, h8, _, h9,
      _, h10, _, h11, _, h12, _, h13, _, h14, rfl⟩

theorem exists_readFrom_iff :
    (∃ s, ReadFrom fields s) ↔
      (∀ entry ∈ requiredForms, (part? fields entry.1).isSome ∧
        ∃ json, (some entry.1, json) ∈ fields ∧ entry.2.Admits json) ∧
      (∀ entry ∈ absentableForms, (part? fields entry.1).isSome ∧
        ∀ json, (some entry.1, json) ∈ fields → json ≠ .null → entry.2.Admits json) ∧
      (part? fields "gpu").isSome ∧
        ∀ json, (some "gpu", json) ∈ fields → json ≠ .null → Adapter.Acceptable json := by
  simp only [requiredForms, absentableForms, List.forall_mem_cons,
    ← exists_yields_required_iff fits_architecture, ← exists_yields_required_iff fits_text,
    ← exists_yields_required_iff fits_word32, ← exists_yields_required_iff fits_word64,
    ← exists_yields_absentable_iff fits_word32, ← exists_yields_absentable_iff fits_int64,
    ← exists_yields_absentable_iff fun _ ↦ Adapter.acceptable_iff]
  constructor
  · rintro ⟨s, h⟩
    exact ⟨⟨⟨_, h.architecture⟩, ⟨_, h.vendor⟩, ⟨_, h.logicalCpus⟩, ⟨_, h.physicalCpus⟩,
      ⟨_, h.currentCpus⟩, ⟨_, h.family⟩, ⟨_, h.model⟩, ⟨_, h.stepping⟩, ⟨_, h.cacheSize⟩,
      ⟨_, h.machineModel⟩, by simp⟩, ⟨⟨_, h.maxSpeed⟩, ⟨_, h.currentSpeed⟩, ⟨_, h.memory⟩, by simp⟩,
      ⟨_, h.adapter⟩⟩
  · rintro ⟨⟨⟨_, harchitecture⟩, ⟨_, hvendor⟩, ⟨_, hlogicalCpus⟩, ⟨_, hphysicalCpus⟩,
      ⟨_, hcurrentCpus⟩, ⟨_, hfamily⟩, ⟨_, hmodel⟩, ⟨_, hstepping⟩, ⟨_, hcacheSize⟩,
      ⟨_, hmachineModel⟩, -⟩, ⟨⟨_, hmaxSpeed⟩, ⟨_, hcurrentSpeed⟩, ⟨_, hmemory⟩, -⟩, ⟨_, hadapter⟩⟩
    exact ⟨⟨_, _, _, _, _, _, _, _, _, _, _, _, _, _⟩, ⟨harchitecture, hvendor, hlogicalCpus,
      hphysicalCpus, hcurrentCpus, hfamily, hmodel, hstepping, hcacheSize, hmaxSpeed,
      hcurrentSpeed, hmemory, hmachineModel, hadapter⟩⟩

/-- What an object must be like to be read as a summary. -/
structure Acceptable (fields : List (Option String × Json)) : Prop where
  keyed : Keyed fieldNames fields
  /-- The parts that have to be there are, with values of their forms. -/
  required : ∀ entry ∈ requiredForms, ∃ json, (some entry.1, json) ∈ fields ∧ entry.2.Admits json
  /-- The other parts are absent or have values of their forms. -/
  absentable : ∀ entry ∈ absentableForms, ∀ json, (some entry.1, json) ∈ fields →
    json ≠ .null → entry.2.Admits json
  adapter : ∀ json, (some "gpu", json) ∈ fields → json ≠ .null → Adapter.Acceptable json

theorem isSome_ofJson?_iff : (ofJson? (.object fields)).isSome ↔ Acceptable fields := by
  rw [Option.isSome_iff_exists]
  simp only [ofJson?_object_iff]
  rw [exists_readFrom_iff]
  constructor
  · rintro ⟨hrequired, habsentable, hgpu, hadapter⟩
    have hnames : ∀ name ∈ fieldNames, (∃ entry ∈ requiredForms, entry.1 = name) ∨
        (∃ entry ∈ absentableForms, entry.1 = name) ∨ name = "gpu" := by decide
    refine ⟨?_, fun entry hentry ↦ (hrequired entry hentry).2,
      fun entry hentry ↦ (habsentable entry hentry).2, hadapter⟩
    rw [keyed_iff (by decide)]
    intro name hname
    obtain ⟨entry, hentry, rfl⟩ | ⟨entry, hentry, rfl⟩ | rfl := hnames name hname
    · exact (hrequired entry hentry).1
    · exact (habsentable entry hentry).1
    · exact hgpu
  · rintro ⟨hkeyed, hrequired, habsentable, hadapter⟩
    rw [keyed_iff (by decide)] at hkeyed
    have hrequiredNames : ∀ entry ∈ requiredForms, entry.1 ∈ fieldNames := by decide
    have habsentableNames : ∀ entry ∈ absentableForms, entry.1 ∈ fieldNames := by decide
    exact ⟨fun entry hentry ↦ ⟨hkeyed _ (hrequiredNames entry hentry), hrequired entry hentry⟩,
      fun entry hentry ↦ ⟨hkeyed _ (habsentableNames entry hentry), habsentable entry hentry⟩,
      hkeyed _ (by decide), hadapter⟩

/-- A summary is read off the same parts where the adapter is written another way. -/
theorem ReadFrom.replace_adapter {s : Summary} {first second : Json}
    (h : s.ReadFrom (before ++ (some "gpu", first) :: after)) (hfirst : first ≠ .null)
    (hsecond : second ≠ .null) (hread : Adapter.ofJson? second = Adapter.ofJson? first) :
    s.ReadFrom (before ++ (some "gpu", second) :: after) := by
  have hpart {name : String} (hname : "gpu" ≠ name) :
      part? (before ++ (some "gpu", second) :: after) name =
        part? (before ++ (some "gpu", first) :: after) name := by
    rw [part?_insert hname, part?_insert hname]
  exact {
    architecture := h.architecture.congr (hpart (by decide))
    vendor := h.vendor.congr (hpart (by decide))
    logicalCpus := h.logicalCpus.congr (hpart (by decide))
    physicalCpus := h.physicalCpus.congr (hpart (by decide))
    currentCpus := h.currentCpus.congr (hpart (by decide))
    family := h.family.congr (hpart (by decide))
    model := h.model.congr (hpart (by decide))
    stepping := h.stepping.congr (hpart (by decide))
    cacheSize := h.cacheSize.congr (hpart (by decide))
    maxSpeed := h.maxSpeed.congr (hpart (by decide))
    currentSpeed := h.currentSpeed.congr (hpart (by decide))
    memory := h.memory.congr (hpart (by decide))
    machineModel := h.machineModel.congr (hpart (by decide))
    adapter := h.adapter.replace hfirst hsecond hread }

theorem ofJson?_replace_adapter {first second : Json} (hfirst : first ≠ .null)
    (hsecond : second ≠ .null) (hread : Adapter.ofJson? second = Adapter.ofJson? first) :
    ofJson? (.object (before ++ (some "gpu", second) :: after)) =
      ofJson? (.object (before ++ (some "gpu", first) :: after)) := by
  ext s
  rw [ofJson?_object_iff, ofJson?_object_iff]
  constructor
  · intro h
    exact h.replace_adapter hsecond hfirst hread.symm
  · intro h
    exact h.replace_adapter hfirst hsecond hread

end Summary

/-- Records are read back from what is written of them. An object that is read as a summary is
written as one that is read as the same summary; each of the four parts that may be absent comes out
as none exactly if it is; and an unknown field changes nothing, neither in the object nor in the
adapter record inside it. An object is read at all exactly if it is acceptable; in particular, it is
not where one of the other parts, or a part of the adapter record, has no value of its form. -/
theorem Json.records_round_trip :
    Faithful Summary.toJson Summary.ofJson? ∧
    Faithful Adapter.toJson Adapter.ofJson? ∧
    Faithful Signature.toJson Signature.ofJson? ∧
    Faithful Architecture.toJson Architecture.ofJson? ∧
    Faithful (Resolved.toJson fun n : UInt32 ↦ .integer n.toNat) (Resolved.ofJson? word32?) ∧
    Faithful (Resolved.toJson fun n : Int64 ↦ .integer n.toInt) (Resolved.ofJson? int64?) ∧
    (∀ fields s, Summary.ofJson? (.object fields) = some s →
      Summary.ofJson? s.toJson = some s ∧
      (s.maxSpeed = none ↔ Absent fields "max_cpu_speed_mhz") ∧
      (s.currentSpeed = none ↔ Absent fields "current_cpu_speed_mhz") ∧
      (s.memory = none ↔ Absent fields "memory_bytes") ∧
      (s.adapter = none ↔ Absent fields "gpu")) ∧
    (∀ name ∉ Summary.fieldNames, ∀ before json after,
      Summary.ofJson? (.object (before ++ (some name, json) :: after)) =
        Summary.ofJson? (.object (before ++ after))) ∧
    (∀ name ∉ Adapter.fieldNames, ∀ before first json second after,
      Summary.ofJson? (.object
          (before ++ (some "gpu", .object (first ++ (some name, json) :: second)) :: after)) =
        Summary.ofJson? (.object (before ++ (some "gpu", .object (first ++ second)) :: after))) ∧
    (∀ fields, (Summary.ofJson? (.object fields)).isSome ↔ Summary.Acceptable fields) ∧
    (∀ fields, ∀ entry ∈ Summary.requiredForms,
      (∀ json, (some entry.1, json) ∈ fields → ¬ entry.2.Admits json) →
        Summary.ofJson? (.object fields) = none) ∧
    ∀ fields adapter, (some "gpu", .object adapter) ∈ fields → ∀ entry ∈ Adapter.forms,
      (∀ json, (some entry.1, json) ∈ adapter → ¬ entry.2.Admits json) →
        Summary.ofJson? (.object fields) = none := by
  refine ⟨faithful_of_read_write Summary.ofJson?_toJson,
    faithful_of_read_write Adapter.ofJson?_toJson, faithful_of_read_write Signature.ofJson?_toJson,
    faithful_of_read_write Architecture.ofJson?_toJson,
    faithful_of_read_write (Resolved.ofJson?_toJson word32?_toNat),
    faithful_of_read_write (Resolved.ofJson?_toJson int64?_toInt), ?_, ?_, ?_, ?_, ?_, ?_⟩
  · intro fields s h
    have hread := Summary.ofJson?_object_iff.mp h
    exact ⟨Summary.ofJson?_toJson s, hread.maxSpeed.eq_none_iff, hread.currentSpeed.eq_none_iff,
      hread.memory.eq_none_iff, hread.adapter.eq_none_iff⟩
  · intro name hname before json after
    exact Summary.ofJson?_insert hname json
  · intro name hname before first json second after
    exact Summary.ofJson?_replace_adapter Json.noConfusion Json.noConfusion
      (Adapter.ofJson?_insert hname json)
  · intro fields
    exact Summary.isSome_ofJson?_iff
  · intro fields entry hentry hnone
    rw [← Option.not_isSome_iff_eq_none, Summary.isSome_ofJson?_iff]
    intro hacceptable
    obtain ⟨json, hmem, hadmits⟩ := hacceptable.required entry hentry
    exact hnone json hmem hadmits
  · intro fields adapter hadapter entry hentry hnone
    rw [← Option.not_isSome_iff_eq_none, Summary.isSome_ofJson?_iff]
    intro hacceptable
    obtain ⟨-, hforms⟩ := hacceptable.adapter _ hadapter Json.noConfusion
    obtain ⟨json, hmem, hadmits⟩ := hforms entry hentry
    exact hnone json hmem hadmits

end HostProfile
