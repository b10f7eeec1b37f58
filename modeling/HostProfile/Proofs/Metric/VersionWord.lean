import HostProfile.Proofs.CpuInfo.Integers
import HostProfile.Proofs.Metric.SignatureSources

/-!
# A version word and the file on the same processor

The kernel prints family, model and stepping of a processor into the processor information file. It
takes them from the version word that the identification instruction tells: the extended family
counts for base family 15, and the extended model for every family from six on (`family`, `model`,
`stepping`).

The signature that is read off the word has the family and the stepping that the kernel prints. It
has the model that the kernel prints unless the base family is one of 7 to 14 and the word has an
extended model, which is then left out (`LosesModel`). For these words alone the two facilities
disagree on one processor, and the model that is found hangs on which of them is asked
(`version_word_signature`).
-/

set_option autoImplicit false
set_option relaxedAutoImplicit false

namespace HostProfile

/-! ### What the kernel prints -/

namespace VersionWord

/-- The number in some bits of a version word, from the lowest of them on. -/
def field (word : UInt32) (start length : Nat) : Nat :=
  word.toNat / 2 ^ start % 2 ^ length

/-- The family before it is extended. -/
def baseFamily (word : UInt32) : Nat :=
  field word 8 4

/-- The extension of the model. -/
def extendedModel (word : UInt32) : Nat :=
  field word 16 4

/-- The family that the kernel prints. -/
def family (word : UInt32) : Nat :=
  if baseFamily word = 15 then baseFamily word + field word 20 8 else baseFamily word

/-- The model that the kernel prints. -/
def model (word : UInt32) : Nat :=
  field word 4 4 + if 6 ≤ family word then 16 * extendedModel word else 0

/-- The stepping that the kernel prints. -/
def stepping (word : UInt32) : Nat :=
  field word 0 4

/-- The word has an extended model that the kernel takes up and the decoded signature does not. -/
def LosesModel (word : UInt32) : Prop :=
  7 ≤ baseFamily word ∧ baseFamily word ≤ 14 ∧ extendedModel word ≠ 0

/-- A signature has the numbers that the kernel prints. -/
structure Printed (word : UInt32) (s : Signature) : Prop where
  family : s.family.toNat = family word
  model : s.model.toNat = model word
  stepping : s.stepping.toNat = stepping word

end VersionWord

/-- A file whose first section is the one that the kernel prints for a version word. -/
structure CpuInfo.Shows (file : CpuInfo) (word : UInt32) : Prop where
  family : file.value? 0 "cpu family" =
    some (String.ofList (Text.decimal (VersionWord.family word)))
  model : file.value? 0 "model" = some (String.ofList (Text.decimal (VersionWord.model word)))
  stepping : file.value? 0 "stepping" =
    some (String.ofList (Text.decimal (VersionWord.stepping word)))

/-- A host whose processor has a version word: the identification instruction tells it, and the
kernel prints what it makes of it. -/
structure Source.HasProcessor (source : Source) (word : UInt32) : Prop where
  covered : ∃ first, source (.cpuid Leaf.vendor) = .ok first ∧ Leaf.version ≤ first.eax
  told : ∃ registers, source (.cpuid Leaf.version) = .ok registers ∧ registers.eax = word
  shown : ∃ file, source .cpuinfo = .ok file ∧ file.Shows word

namespace VersionWord

variable (word : UInt32)

/-! ### The decoded numbers -/

theorem field_lt (start length : Nat) : field word start length < 2 ^ length :=
  Nat.mod_lt _ (Nat.two_pow_pos length)

theorem toNat_field (start length : Nat) (hstart : start < 32) (hlength : length < 32) :
    ((word >>> UInt32.ofNat start) &&& UInt32.ofNat (2 ^ length - 1)).toNat =
      field word start length := by
  have hmask : 2 ^ length - 1 < 2 ^ 32 :=
    Nat.lt_of_le_of_lt (Nat.sub_le _ _) (Nat.pow_lt_pow_right (by decide) hlength)
  rw [UInt32.toNat_and, UInt32.toNat_shiftRight, UInt32.toNat_ofNat_of_lt' hmask,
    UInt32.toNat_ofNat_of_lt' (by exact Nat.lt_trans hstart (by decide)),
    Nat.mod_eq_of_lt hstart, Nat.and_two_pow_sub_one_eq_mod, Nat.shiftRight_eq_div_pow]
  rfl

theorem toNat_shiftLeft_or {high low : UInt32} (hhigh : high.toNat < 16) (hlow : low.toNat < 16) :
    ((high <<< 4) ||| low).toNat = low.toNat + 16 * high.toNat := by
  have hshift : (high <<< 4).toNat = high.toNat <<< 4 := by
    rw [UInt32.toNat_shiftLeft, Nat.mod_eq_of_lt]
    · rfl
    · show high.toNat <<< 4 < 2 ^ 32
      rw [Nat.shiftLeft_eq]
      omega
  rw [UInt32.toNat_or, hshift, ← Nat.shiftLeft_add_eq_or_of_lt hlow, Nat.shiftLeft_eq]
  omega

theorem baseFamily_lt : baseFamily word < 16 :=
  field_lt word 8 4

theorem toNat_baseFamily : ((word >>> 8) &&& 0xF).toNat = baseFamily word :=
  toNat_field word 8 4 (by decide) (by decide)

/-- The base family is a number if its word is. -/
theorem baseFamily_eq_iff (family : UInt32) :
    (word >>> 8) &&& 0xF = family ↔ baseFamily word = family.toNat := by
  rw [← UInt32.toNat_inj, toNat_baseFamily]

theorem toNat_family_ofVersionWord :
    (Signature.ofVersionWord word).family.toNat = family word := by
  have hextended : ((word >>> 20) &&& 0xFF).toNat = field word 20 8 :=
    toNat_field word 20 8 (by decide) (by decide)
  have hbase := baseFamily_lt word
  have hbound : field word 20 8 < 256 := field_lt word 20 8
  unfold Signature.ofVersionWord family
  simp only [baseFamily_eq_iff, UInt32.reduceToNat]
  split
  · rw [UInt32.toNat_add, toNat_baseFamily, hextended]
    omega
  · exact toNat_baseFamily word

theorem toNat_stepping_ofVersionWord :
    (Signature.ofVersionWord word).stepping.toNat = stepping word := by
  have h := toNat_field word 0 4 (by decide) (by decide)
  rwa [show word >>> UInt32.ofNat 0 = word from UInt32.shiftRight_zero] at h

/-- The extended model is taken up for the base families 6 and 15. -/
theorem toNat_model_ofVersionWord :
    (Signature.ofVersionWord word).model.toNat = field word 4 4 +
      if baseFamily word = 6 ∨ baseFamily word = 15 then 16 * extendedModel word else 0 := by
  have hbase : ((word >>> 4) &&& 0xF).toNat = field word 4 4 :=
    toNat_field word 4 4 (by decide) (by decide)
  have hextended : ((word >>> 16) &&& 0xF).toNat = extendedModel word :=
    toNat_field word 16 4 (by decide) (by decide)
  unfold Signature.ofVersionWord
  simp only [baseFamily_eq_iff, UInt32.reduceToNat]
  split
  · rw [toNat_shiftLeft_or, hbase, hextended]
    · exact hextended ▸ field_lt word 16 4
    · exact hbase ▸ field_lt word 4 4
  · exact hbase

/-- A family of six or more has a base family of six or more. -/
theorem six_le_family_iff : 6 ≤ family word ↔ 6 ≤ baseFamily word := by
  unfold family
  split <;> omega

/-- The models agree unless an extended model is lost. -/
theorem toNat_model_eq_iff :
    (Signature.ofVersionWord word).model.toNat = model word ↔ ¬ LosesModel word := by
  have hbase := baseFamily_lt word
  simp only [toNat_model_ofVersionWord, model, LosesModel, six_le_family_iff]
  split <;> split <;> omega

/-! ### The two facilities on one processor -/

theorem family_le : family word ≤ 270 := by
  have hbase := baseFamily_lt word
  have hextended : field word 20 8 < 256 := field_lt word 20 8
  unfold family
  split <;> omega

theorem model_le : model word ≤ 255 := by
  have hbase : field word 4 4 < 16 := field_lt word 4 4
  have hextended : extendedModel word < 16 := field_lt word 16 4
  unfold model
  split <;> omega

theorem stepping_le : stepping word ≤ 15 :=
  Nat.le_of_lt_succ (field_lt word 0 4)

/-- The signature with the numbers that the kernel prints. -/
def printed : Signature :=
  ⟨UInt32.ofNat (family word), UInt32.ofNat (model word), UInt32.ofNat (stepping word)⟩

theorem printed_printed : Printed word (printed word) where
  family := UInt32.toNat_ofNat_of_lt' (Nat.lt_of_le_of_lt (family_le word) (by decide))
  model := UInt32.toNat_ofNat_of_lt' (Nat.lt_of_le_of_lt (model_le word) (by decide))
  stepping := UInt32.toNat_ofNat_of_lt' (Nat.lt_of_le_of_lt (stepping_le word) (by decide))

variable {word}

theorem Printed.eq {s other : Signature} (h : Printed word s) (hother : Printed word other) :
    s = other :=
  Signature.ext_toNat (h.family.trans hother.family.symm)
    (h.model.trans hother.model.symm) (h.stepping.trans hother.stepping.symm)

/-- The decoded signature is the one that the kernel prints unless an extended model is lost. -/
theorem ofVersionWord_printed_iff : Printed word (.ofVersionWord word) ↔ ¬ LosesModel word :=
  ⟨fun h ↦ (toNat_model_eq_iff word).mp h.model, fun h ↦
    ⟨toNat_family_ofVersionWord word, (toNat_model_eq_iff word).mpr h,
      toNat_stepping_ofVersionWord word⟩⟩

end VersionWord

open VersionWord

variable {source : Source} {config : Config} {architecture : Architecture} {word : UInt32}

namespace CpuInfo.Shows

variable {file : CpuInfo}

theorem ownNumber_of_decimal {key : String} {n : Nat}
    (hvalue : file.value? 0 key = some (String.ofList (Text.decimal n))) (hle : n ≤ 270)
    (hcpuid : architecture.hasCpuid = true) : file.ownNumber key architecture = n := by
  have hint := int?_of_decimal hvalue (Nat.le_trans hle (by decide))
  cases architecture with
  | arm => cases hcpuid
  | x86 | x64 => rw [ownNumber, hint, Option.getD_some]

theorem familyNumber_eq (h : file.Shows word) (hcpuid : architecture.hasCpuid = true) :
    file.familyNumber architecture = VersionWord.family word := by
  rw [← ownNumber_of_decimal h.family (family_le word) hcpuid]
  cases architecture with
  | arm => cases hcpuid
  | x86 | x64 => rfl

theorem ownNumber_model (h : file.Shows word) (hcpuid : architecture.hasCpuid = true) :
    file.ownNumber "model" architecture = VersionWord.model word :=
  ownNumber_of_decimal h.model (Nat.le_trans (model_le word) (by decide)) hcpuid

theorem ownNumber_stepping (h : file.Shows word) (hcpuid : architecture.hasCpuid = true) :
    file.ownNumber "stepping" architecture = VersionWord.stepping word :=
  ownNumber_of_decimal h.stepping (Nat.le_trans (stepping_le word) (by decide)) hcpuid

theorem fits (h : file.Shows word) (hcpuid : architecture.hasCpuid = true) :
    file.Fits architecture where
  family := by
    have hle := family_le word
    rw [h.familyNumber_eq hcpuid]
    omega
  model := by
    have hle := model_le word
    rw [h.ownNumber_model hcpuid]
    omega
  stepping := by
    have hle := stepping_le word
    rw [h.ownNumber_stepping hcpuid]
    omega

end CpuInfo.Shows

namespace Source.HasProcessor

theorem fits (h : source.HasProcessor word) (hcpuid : architecture.hasCpuid = true) (file : CpuInfo)
    (hfile : source .cpuinfo = .ok file) : file.Fits architecture := by
  obtain ⟨shown, hshown, hshows⟩ := h.shown
  obtain rfl := Except.ok.inj (hshown.symm.trans hfile)
  exact hshows.fits hcpuid

/-- The instruction tells the decoded signature and no other. -/
theorem tells_cpuid_iff (h : source.HasProcessor word) (hcpuid : architecture.hasCpuid = true)
    {s : Signature} : Identifier.cpuid.Tells source architecture s ↔ s = .ofVersionWord word := by
  obtain ⟨first, hfirst, hcovered⟩ := h.covered
  obtain ⟨registers, hregisters, rfl⟩ := h.told
  constructor
  · rintro ⟨-, -, -, hversion⟩
    rw [Except.ok.inj (hregisters.symm.trans hversion)]
  · rintro rfl
    exact .cpuid hcpuid hfirst hcovered hregisters

/-- The file tells the signature that the kernel prints and no other. -/
theorem tells_cpuinfo_iff (h : source.HasProcessor word) (hcpuid : architecture.hasCpuid = true)
    {s : Signature} : Identifier.cpuinfo.Tells source architecture s ↔ Printed word s := by
  obtain ⟨file, hfile, hshows⟩ := h.shown
  have hfamily := hshows.familyNumber_eq hcpuid
  have hmodel := hshows.ownNumber_model hcpuid
  have hstepping := hshows.ownNumber_stepping hcpuid
  constructor
  · intro htells
    cases htells with
    | cpuinfo hother htold₁ htold₂ htold₃ =>
      obtain rfl := Except.ok.inj (hfile.symm.trans hother)
      rw [hfamily] at htold₁
      rw [hmodel] at htold₂
      rw [hstepping] at htold₃
      exact ⟨by omega, by omega, by omega⟩
  · rintro ⟨hs₁, hs₂, hs₃⟩
    refine .cpuinfo hfile ?_ ?_ ?_
    · rw [hfamily]
      omega
    · rw [hmodel]
      omega
    · rw [hstepping]
      omega

end Source.HasProcessor

open HostProfile.Metric

namespace VersionWord

/-- What becomes of a processor with a version word, by the facility that is asked for it. -/
structure Alternatives (word : UInt32) (source : Source) (config : Config)
    (architecture : Architecture) (shown : Signature) : Prop where
  printed : Printed word shown
  /-- The instruction resolves to the decoded signature. -/
  ofWord : ∀ s, Identifier.cpuid.probe.Resolves architecture source signature.usable config s ↔
    config.isDisabled "cpuid" = false ∧ s = .ofVersionWord word ∧ 0 < s.family
  /-- The file resolves to the signature that the kernel prints. -/
  ofFile : ∀ s, Identifier.cpuinfo.probe.Resolves architecture source signature.usable config s ↔
    config.isDisabled "cpuinfo" = false ∧ s = shown ∧ 0 < s.family
  /-- The chain comes to the decoded signature if the instruction is asked. -/
  first : config.isDisabled "cpuid" = false → 0 < family word →
    (signature.run config architecture).value source = .ok (.ofVersionWord word)
  /-- The chain comes to the signature that the kernel prints if only the file is left. -/
  last : config.isDisabled "cpuid" = true → config.isDisabled "cpuinfo" = false →
    (∀ s, ¬ Identifier.systemInfo.probe.Resolves architecture source signature.usable config s) →
    (∀ s, ¬ Identifier.sysctl.probe.Resolves architecture source signature.usable config s) →
    0 < family word → (signature.run config architecture).value source = .ok shown
  /-- Either way it is one signature, unless an extended model is lost. -/
  agree : Signature.ofVersionWord word = shown ↔ ¬ LosesModel word

/-- The signature decoded from a version word has the family and the stepping that the kernel
prints, and the model that the kernel prints unless an extended model is lost, which it lacks then.
On a processor with this word it is the signature that the instruction resolves to, while the file
resolves to the one that the kernel prints. -/
theorem version_word_signature (word : UInt32) :
    let decoded := Signature.ofVersionWord word
    decoded.family.toNat = family word ∧ decoded.stepping.toNat = stepping word ∧
      (¬ LosesModel word → decoded.model.toNat = model word) ∧
      (LosesModel word → decoded.model.toNat + 16 * extendedModel word = model word) ∧
      ∀ source config architecture, architecture.hasCpuid = true → source.HasProcessor word →
        ∃ shown, Alternatives word source config architecture shown := by
  intro decoded
  refine ⟨toNat_family_ofVersionWord word, toNat_stepping_ofVersionWord word,
    (toNat_model_eq_iff word).mpr, fun hloses ↦ ?_, fun source config architecture hcpuid h ↦ ?_⟩
  · obtain ⟨hlow, hhigh, -⟩ := hloses
    simp only [decoded, toNat_model_ofVersionWord, model, six_le_family_iff]
    split <;> split <;> omega
  · have hfits := h.fits hcpuid
    have hshown {s : Signature} : Printed word s ↔ s = printed word :=
      ⟨fun hs ↦ hs.eq (printed_printed word), fun hs ↦ hs ▸ printed_printed word⟩
    have hword (s : Signature) :
        Identifier.cpuid.probe.Resolves architecture source signature.usable config s ↔
          config.isDisabled "cpuid" = false ∧ s = decoded ∧ 0 < s.family := by
      rw [Identifier.resolves_probe_iff _ hfits, h.tells_cpuid_iff hcpuid]
      rfl
    have hfile (s : Signature) :
        Identifier.cpuinfo.probe.Resolves architecture source signature.usable config s ↔
          config.isDisabled "cpuinfo" = false ∧ s = printed word ∧ 0 < s.family := by
      rw [Identifier.resolves_probe_iff _ hfits, h.tells_cpuinfo_iff hcpuid, hshown]
      rfl
    have hpositive {s : Signature} (hs : s.family.toNat = family word) (hfamily : 0 < family word) :
        0 < s.family := by
      rw [UInt32.lt_iff_toNat_lt, hs]
      exact hfamily
    refine ⟨printed word, printed_printed word, hword, hfile, fun hon hfamily ↦ ?_,
      fun hoff hon hsystem hsysctl hfamily ↦ ?_, ?_⟩
    · refine (Chain.value_eq_ok_iff signature.metric).mpr
        ⟨[], Identifier.cpuid.probe, _, rfl, ?_, fun other hother ↦ by cases hother⟩
      exact (hword _).mpr ⟨hon, rfl, hpositive (toNat_family_ofVersionWord word) hfamily⟩
    · have hnoWord (s : Signature) :
          ¬ Identifier.cpuid.probe.Resolves architecture source signature.usable config s := by
        rw [hword, hoff]
        simp
      refine (Chain.value_eq_ok_iff signature.metric).mpr
        ⟨[Identifier.cpuid.probe, Identifier.systemInfo.probe, Identifier.sysctl.probe],
          Identifier.cpuinfo.probe, [], rfl, ?_, ?_⟩
      · exact (hfile _).mpr ⟨hon, rfl, hpositive (printed_printed word).family hfamily⟩
      · simpa using ⟨hnoWord, hsystem, hsysctl⟩
    · rw [← ofVersionWord_printed_iff, hshown]

end VersionWord

/-- A host that has the identification instruction, with a version word, and a processor information
file. -/
def Source.ofProcessor (word : UInt32) (text : String) : Source
  | .cpuid leaf => .ok ⟨if leaf = Leaf.version then word else 13, 0, 0, 0⟩
  | .cpuinfo => .ok (.parse text)
  | _ => .error .unavailable

namespace VersionWord

/-- A processor of family 6 with an extended model. -/
theorem version_word_signature_desktop :
    let word := 0x000906EA
    let source := Source.ofProcessor word "cpu family\t: 6\nmodel\t\t: 158\nstepping\t: 10\n"
    Architecture.x64.hasCpuid = true ∧ source.HasProcessor word ∧ ¬ LosesModel word ∧
      (Signature.ofVersionWord word).model.toNat = model word ∧
      (∃ shown, Alternatives word source .standard .x64 shown) ∧
      (signature.run .standard .x64).value source = .ok ⟨6, 158, 10⟩ ∧
      (signature.run (.disable .standard "cpuid") .x64).value source = .ok ⟨6, 158, 10⟩ := by
  intro word source
  have hcpuid : Architecture.x64.hasCpuid = true := rfl
  have hprocessor : source.HasProcessor word :=
    ⟨⟨_, rfl, by decide⟩, ⟨_, rfl, rfl⟩, ⟨_, rfl, by decide +kernel, by decide +kernel,
      by decide +kernel⟩⟩
  have hloses : ¬ LosesModel word := fun h ↦ absurd h.1 (by decide)
  obtain ⟨-, -, hmodel, -, halternatives⟩ := version_word_signature word
  exact ⟨hcpuid, hprocessor, hloses, hmodel hloses,
    halternatives source .standard .x64 hcpuid hprocessor, by decide +kernel, by decide +kernel⟩

/-- A processor of family 11 with an extended model has another model by its word than by its
file. -/
theorem version_word_drops_extended_model :
    let word := 0x00010B11
    let source := Source.ofProcessor word "cpu family\t: 11\nmodel\t\t: 17\nstepping\t: 1\n"
    source.HasProcessor word ∧ model word = 17 ∧ (Signature.ofVersionWord word).model = 1 ∧
      (signature.run .standard .x64).value source = .ok ⟨11, 1, 1⟩ ∧
      (signature.run (.disable .standard "cpuid") .x64).value source = .ok ⟨11, 17, 1⟩ := by
  intro word source
  refine ⟨⟨⟨_, rfl, by decide⟩, ⟨_, rfl, rfl⟩, ⟨_, rfl, ?_, ?_, ?_⟩⟩, by decide, by decide, ?_, ?_⟩
  · decide +kernel
  · decide +kernel
  · decide +kernel
  · decide +kernel
  · decide +kernel

end VersionWord

end HostProfile
