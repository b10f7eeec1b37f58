import HostProfile.Proofs.Metric.FileNumbers

/-!
# Where a signature comes from

Four facilities can tell a signature, each by its own rules (`Identifier.Tells`): which answers
have to be there, which may be missing, and how the three numbers are read off them. The chain takes
the signature of the first facility that is switched on and tells a family, as a whole, and comes to
nothing if there is none (`decides_signature`).
-/

set_option autoImplicit false
set_option relaxedAutoImplicit false

namespace HostProfile

variable {source : Source} {config : Config} {architecture : Architecture} {s : Signature}

/-- A file whose integers for the signature fit a word. -/
structure CpuInfo.Fits (file : CpuInfo) (architecture : Architecture) : Prop where
  family : file.familyNumber architecture ≤ 4294967295
  model : file.ownNumber "model" architecture ≤ 4294967295
  stepping : file.ownNumber "stepping" architecture ≤ 4294967295

/-- A facility that can tell a signature. -/
inductive Identifier where
  | cpuid
  | systemInfo
  | sysctl
  | cpuinfo

namespace Identifier

/-- The name under which a facility is switched off. -/
def name : Identifier → String
  | .cpuid => "cpuid"
  | .systemInfo => "system_info"
  | .sysctl => "sysctl"
  | .cpuinfo => "cpuinfo"

/-- The facilities in the order of the chain. -/
def all : List Identifier :=
  [.cpuid, .systemInfo, .sysctl, .cpuinfo]

/-- A facility tells a signature. -/
inductive Tells (source : Source) (architecture : Architecture) : Identifier → Signature → Prop
  /-- The version word, where the architecture has the instruction and the first leaf tells of the
  leaf with the word. -/
  | cpuid {first version : Registers} (hcpuid : architecture.hasCpuid = true)
      (hfirst : source (.cpuid Leaf.vendor) = .ok first) (hcovered : Leaf.version ≤ first.eax)
      (hversion : source (.cpuid Leaf.version) = .ok version) :
      Tells source architecture .cpuid (.ofVersionWord version.eax)
  /-- The level and the two bytes of the revision. -/
  | systemInfo {info : SystemInfo} {s : Signature} (hinfo : source .systemInfo = .ok info)
      (hfamily : s.family.toNat = info.level.toNat)
      (hmodel : s.model.toNat = info.revision.toNat / 256)
      (hstepping : s.stepping.toNat = info.revision.toNat % 256) :
      Tells source architecture .systemInfo s
  /-- The kernel parameters: the family has to be there, a model or stepping that is missing counts
  as zero, and all three have to fit a word. -/
  | sysctl {family : UInt64} {s : Signature}
      (hasked : source (.parameter "machdep.cpu.family") = .ok family)
      (hfamily : s.family.toNat = family.toNat)
      (hmodel : s.model.toNat =
        ((source (.parameter "machdep.cpu.model")).toOption.getD 0).toNat)
      (hstepping : s.stepping.toNat =
        ((source (.parameter "machdep.cpu.stepping")).toOption.getD 0).toNat) :
      Tells source architecture .sysctl s
  /-- The integers for the first processor in the file, where negative ones count as zero. -/
  | cpuinfo {file : CpuInfo} {s : Signature} (hfile : source .cpuinfo = .ok file)
      (hfamily : (s.family.toNat : Int) = max 0 (file.familyNumber architecture))
      (hmodel : (s.model.toNat : Int) = max 0 (file.ownNumber "model" architecture))
      (hstepping : (s.stepping.toNat : Int) = max 0 (file.ownNumber "stepping" architecture)) :
      Tells source architecture .cpuinfo s

/-- A signature is that of the first facility that is switched on and tells a family. -/
def TellsFirst (source : Source) (config : Config) (architecture : Architecture) (s : Signature) :
    Prop :=
  ∃ before identifier after, all = before ++ identifier :: after ∧
    config.isDisabled identifier.name = false ∧ identifier.Tells source architecture s ∧
    0 < s.family ∧ ∀ earlier ∈ before, config.isDisabled earlier.name = false →
      ∀ other, earlier.Tells source architecture other → ¬ 0 < other.family

/-- No facility that is switched on tells a family. -/
def TellsNone (source : Source) (config : Config) (architecture : Architecture) : Prop :=
  ∀ identifier ∈ all, config.isDisabled identifier.name = false →
    ∀ s, identifier.Tells source architecture s → ¬ 0 < s.family

/-- What a facility tells hangs on its own answers alone. -/
theorem Tells.of_owner {identifier : Identifier} (h : identifier.Tells source architecture s)
    {other : Source}
    (hother : ∀ query, query.owner = identifier.name → other query = source query) :
    identifier.Tells other architecture s := by
  cases h with
  | cpuid hcpuid hfirst hcovered hversion =>
    exact .cpuid hcpuid ((hother _ rfl).trans hfirst) hcovered ((hother _ rfl).trans hversion)
  | systemInfo hinfo hfamily hmodel hstepping =>
    exact .systemInfo ((hother _ rfl).trans hinfo) hfamily hmodel hstepping
  | sysctl hasked hfamily hmodel hstepping =>
    refine .sysctl ((hother _ rfl).trans hasked) hfamily ?_ ?_
    · rwa [hother (.parameter "machdep.cpu.model") rfl]
    · rwa [hother (.parameter "machdep.cpu.stepping") rfl]
  | cpuinfo hfile hfamily hmodel hstepping =>
    exact .cpuinfo ((hother _ rfl).trans hfile) hfamily hmodel hstepping

end Identifier

/-! ### The probes -/

theorem Signature.ext_toNat {first second : Signature}
    (hfamily : first.family.toNat = second.family.toNat)
    (hmodel : first.model.toNat = second.model.toNat)
    (hstepping : first.stepping.toNat = second.stepping.toNat) : first = second := by
  cases first
  cases second
  simp_all [UInt32.toNat_inj]

namespace Metric

open Attempt

theorem value_coveredLeaf_eq_ok_iff {first leaf : UInt32} {registers : Registers} :
    (coveredLeaf architecture first leaf).run.value source = .ok registers ↔
      architecture.hasCpuid = true ∧ ∃ top, source (.cpuid first) = .ok top ∧ leaf ≤ top.eax ∧
        source (.cpuid leaf) = .ok registers := by
  rw [coveredLeaf, value_bind_eq_ok_iff]
  simp only [value_cpuid]
  cases hcpuid : architecture.hasCpuid with
  | false => simp
  | true =>
    simp only [if_true, true_and]
    refine exists_congr fun top ↦ and_congr_right fun _ ↦ ?_
    by_cases hlt : top.eax < leaf
    · rw [if_pos hlt, ← UInt32.not_lt]
      exact iff_of_false (fun h ↦ by cases h) fun h ↦ h.1 hlt
    · rw [if_neg hlt, ← UInt32.not_lt]
      simp [value_cpuid, hcpuid, hlt]

theorem narrow_eq_ok_iff {origin : String} {n : Nat} {word : UInt32} :
    narrow origin n = .ok word ↔ word.toNat = n := by
  unfold narrow
  split
  · rename_i hlt
    rw [Except.ok.injEq, ← UInt32.toNat_inj, UInt32.toNat_ofNat_of_lt' hlt]
    exact eq_comm
  · rename_i hle
    refine iff_of_false (fun h ↦ by cases h) fun h ↦ hle ?_
    rw [← h]
    exact word.toNat_lt

theorem value_smallParameter_eq_ok_iff {name : String} {word : UInt32} :
    (smallParameter name).run.value source = .ok word ↔
      ∃ n, source (.parameter name) = .ok n ∧ word.toNat = n.toNat := by
  rw [smallParameter, value_bind_eq_ok_iff]
  exact exists_congr fun n ↦ and_congr Iff.rfl narrow_eq_ok_iff

theorem value_parameterSignature_eq_ok_iff :
    parameterSignature.run.value source = .ok s ↔
      Identifier.sysctl.Tells source architecture s := by
  have hobserve (name : String) :
      (observe (.parameter name)).run.value source = .ok (source (.parameter name)) := rfl
  simp only [parameterSignature, value_bind_eq_ok_iff, value_smallParameter_eq_ok_iff, hobserve,
    Except.ok.injEq, exists_eq_left']
  constructor
  · rintro ⟨family, ⟨n, hn, hfamily⟩, model, hmodel, stepping, hstepping, hs⟩
    cases hs
    exact .sysctl hn hfamily (narrow_eq_ok_iff.mp hmodel) (narrow_eq_ok_iff.mp hstepping)
  · intro h
    cases h with
    | sysctl hasked hfamily hmodel hstepping =>
      exact ⟨s.family, ⟨_, hasked, hfamily⟩, s.model, narrow_eq_ok_iff.mpr hmodel, s.stepping,
        narrow_eq_ok_iff.mpr hstepping, rfl⟩

/-- A file whose integers fit tells the signature with these integers. -/
theorem eq_fileSignature_iff {file : CpuInfo} (h : file.Fits architecture) :
    s = fileSignature file architecture ↔
      (s.family.toNat : Int) = max 0 (file.familyNumber architecture) ∧
        (s.model.toNat : Int) = max 0 (file.ownNumber "model" architecture) ∧
        (s.stepping.toNat : Int) = max 0 (file.ownNumber "stepping" architecture) := by
  obtain ⟨hfamily, hmodel, hstepping⟩ := file.signedBy_fileSignature architecture
  rw [← hfamily.fits h.family, ← hmodel.fits h.model, ← hstepping.fits h.stepping]
  simp only [Int.natCast_inj]
  constructor
  · rintro rfl
    exact ⟨rfl, rfl, rfl⟩
  · rintro ⟨hfamily, hmodel, hstepping⟩
    exact Signature.ext_toNat hfamily hmodel hstepping

theorem eq_ofLevelRevision_iff {level revision : UInt16} :
    s = .ofLevelRevision level revision ↔ s.family.toNat = level.toNat ∧
      s.model.toNat = revision.toNat / 256 ∧ s.stepping.toNat = revision.toNat % 256 := by
  have hmodel : (revision >>> 8).toUInt32.toNat = revision.toNat / 256 := by
    simp [Nat.shiftRight_eq_div_pow]
  have hstepping : (revision &&& 0xFF).toUInt32.toNat = revision.toNat % 256 := by
    simpa using Nat.and_two_pow_sub_one_eq_mod revision.toNat 8
  rw [← hmodel, ← hstepping]
  constructor
  · rintro rfl
    exact ⟨UInt16.toNat_toUInt32 level, rfl, rfl⟩
  · rintro ⟨hfamily, hmodel, hstepping⟩
    exact Signature.ext_toNat (hfamily.trans (UInt16.toNat_toUInt32 level).symm) hmodel hstepping

end Metric

open Attempt HostProfile.Metric

namespace Identifier

/-- The probe for a facility. -/
def probe : Identifier → Probe Signature
  | .cpuid => SignatureProbe.cpuid
  | .systemInfo => SignatureProbe.systemInfo
  | .sysctl => SignatureProbe.sysctl
  | .cpuinfo => SignatureProbe.cpuinfo

theorem map_probe : all.map probe = signature.probes := rfl

theorem name_probe (identifier : Identifier) : identifier.probe.name = identifier.name := by
  cases identifier <;> rfl

/-- A probe comes to the signatures that its facility tells. -/
theorem outcome_probe_eq_ok_iff (identifier : Identifier)
    (hfits : ∀ file, source .cpuinfo = .ok file → file.Fits architecture) :
    identifier.probe.outcome architecture source = .ok s ↔
      identifier.Tells source architecture s := by
  cases identifier with
  | cpuid =>
    refine value_bind_eq_ok_iff.trans ?_
    simp only [value_coveredLeaf_eq_ok_iff]
    constructor
    · rintro ⟨version, ⟨hcpuid, first, hfirst, hcovered, hversion⟩, hs⟩
      cases hs
      exact .cpuid hcpuid hfirst hcovered hversion
    · intro h
      cases h with
      | cpuid hcpuid hfirst hcovered hversion =>
        exact ⟨_, ⟨hcpuid, _, hfirst, hcovered, hversion⟩, rfl⟩
  | systemInfo =>
    refine value_bind_eq_ok_iff.trans ?_
    constructor
    · rintro ⟨info, hinfo, hs⟩
      cases hs
      obtain ⟨hfamily, hmodel, hstepping⟩ := eq_ofLevelRevision_iff.mp rfl
      exact .systemInfo hinfo hfamily hmodel hstepping
    · intro h
      cases h with
      | systemInfo hinfo hfamily hmodel hstepping =>
        have hs := eq_ofLevelRevision_iff.mpr ⟨hfamily, hmodel, hstepping⟩
        exact ⟨_, hinfo, congrArg Except.ok hs.symm⟩
  | sysctl => exact value_parameterSignature_eq_ok_iff
  | cpuinfo =>
    refine value_bind_eq_ok_iff.trans ?_
    constructor
    · rintro ⟨file, hfile, hs⟩
      cases hs
      obtain ⟨hfamily, hmodel, hstepping⟩ := (eq_fileSignature_iff (hfits file hfile)).mp rfl
      exact .cpuinfo hfile hfamily hmodel hstepping
    · intro h
      cases h with
      | cpuinfo hfile hfamily hmodel hstepping =>
        have hs := (eq_fileSignature_iff (hfits _ hfile)).mpr ⟨hfamily, hmodel, hstepping⟩
        exact ⟨_, hfile, congrArg Except.ok hs.symm⟩

theorem resolves_probe_iff (identifier : Identifier)
    (hfits : ∀ file, source .cpuinfo = .ok file → file.Fits architecture) :
    identifier.probe.Resolves architecture source signature.usable config s ↔
      config.isDisabled identifier.name = false ∧ identifier.Tells source architecture s ∧
        0 < s.family := by
  rw [Probe.Resolves, name_probe, outcome_probe_eq_ok_iff identifier hfits]
  refine and_congr_right fun _ ↦ and_congr_right fun _ ↦ ?_
  exact decide_eq_true_iff

/-- A probe does not resolve if it is switched off or its facility tells no family. -/
theorem not_resolves_probe_iff (identifier : Identifier)
    (hfits : ∀ file, source .cpuinfo = .ok file → file.Fits architecture) :
    (∀ s, ¬ identifier.probe.Resolves architecture source signature.usable config s) ↔
      (config.isDisabled identifier.name = false →
        ∀ s, identifier.Tells source architecture s → ¬ 0 < s.family) := by
  simp only [resolves_probe_iff identifier hfits]
  exact ⟨fun h hon s htells hfamily ↦ h s ⟨hon, htells, hfamily⟩,
    fun h s ⟨hon, htells, hfamily⟩ ↦ h hon s htells hfamily⟩

/-! ### The chain -/

/-- How a signature comes from the facilities that can tell one. -/
structure Decides (source : Source) (config : Config) (architecture : Architecture)
    (outcome : Outcome Signature) : Prop where
  /-- A signature is told by one facility, the first to tell a family. -/
  found : ∀ s, outcome = .ok s ↔ TellsFirst source config architecture s
  /-- There is none if none tells a family, and then for this reason. -/
  missed : ∀ error, outcome = .error error ↔
    error = .noData ∧ TellsNone source config architecture
  family : ∀ s, outcome = .ok s → 0 < s.family
  /-- What a facility tells hangs on its own answers alone. -/
  alone : ∀ (identifier : Identifier) (other : Source),
    (∀ query, query.owner = identifier.name → other query = source query) →
      ∀ s, identifier.Tells other architecture s ↔ identifier.Tells source architecture s

theorem decides_signature
    (hfits : ∀ file, source .cpuinfo = .ok file → file.Fits architecture) :
    Decides source config architecture ((signature.run config architecture).value source) := by
  have hfound (s : Signature) : (signature.run config architecture).value source = .ok s ↔
      TellsFirst source config architecture s := by
    rw [Chain.run, ← map_probe, Chain.value_map_eq_ok_iff]
    constructor
    · rintro ⟨before, identifier, after, hall, hresolves, hbefore⟩
      obtain ⟨hon, htells, hfamily⟩ := (identifier.resolves_probe_iff hfits).mp hresolves
      exact ⟨before, identifier, after, hall, hon, htells, hfamily, fun earlier hearlier ↦
        (earlier.not_resolves_probe_iff hfits).mp (hbefore earlier hearlier)⟩
    · rintro ⟨before, identifier, after, hall, hon, htells, hfamily, hbefore⟩
      exact ⟨before, identifier, after, hall,
        (identifier.resolves_probe_iff hfits).mpr ⟨hon, htells, hfamily⟩, fun earlier hearlier ↦
          (earlier.not_resolves_probe_iff hfits).mpr (hbefore earlier hearlier)⟩
  refine ⟨hfound, fun error ↦ ?_, fun s hs ↦ ?_, fun identifier other hother s ↦ ?_⟩
  · refine (Chain.value_eq_error_iff signature.metric).trans (and_congr_right fun _ ↦ ?_)
    rw [← map_probe, List.forall_mem_map]
    exact forall₂_congr fun identifier _ ↦ identifier.not_resolves_probe_iff hfits
  · obtain ⟨_, _, _, _, _, _, hfamily, _⟩ := (hfound s).mp hs
    exact hfamily
  · exact ⟨fun h ↦ h.of_owner fun query hquery ↦ (hother query hquery).symm,
      fun h ↦ h.of_owner hother⟩

end Identifier

end HostProfile
