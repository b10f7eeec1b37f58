import HostProfile.Proofs.CpuInfo.Integers
import HostProfile.Proofs.Metric.SignatureSources

/-!
# Units of clocks

The facilities that tell a clock tell it in Hz, in kHz, in MHz, or as a text that starts with the
MHz. A clock of some MHz is the same clock in each of these units, whatever is left over below a MHz
(`ClockFacility.Reports`). The chains for the highest clock and for the clock in use come to the
clock of the first facility that is switched on and reports one that is at least a MHz and fits a
word. A facility that reports any other is passed over as if it were switched off, and its clock is
neither wrapped nor taken for zero (`ClockSearch`).
-/

set_option autoImplicit false
set_option relaxedAutoImplicit false

namespace HostProfile

open Attempt HostProfile.Metric

variable {source : Source} {config : Config} {architecture : Architecture}

/-! ### Clocks and their units -/

/-- A facility that can tell a clock. -/
inductive ClockFacility where
  | sysctl
  | registry
  | sysfs
  | cpuinfo
  deriving DecidableEq

namespace ClockFacility

/-- The name under which a facility is switched off. -/
def name : ClockFacility → String
  | .sysctl => "sysctl"
  | .registry => "registry"
  | .sysfs => "sysfs"
  | .cpuinfo => "cpuinfo"

/-- The facilities that are asked for a clock, in order. -/
def asked : Frequency → List ClockFacility
  | .maximum => [.sysctl, .registry, .sysfs, .cpuinfo]
  | .current => [.sysctl, .sysfs]

/-- The kernel parameter for a clock. -/
def parameter : Frequency → String
  | .maximum => "hw.cpufrequency_max"
  | .current => "hw.cpufrequency"

/-- The question for a clock that a facility is asked. -/
def question (which : Frequency) : ClockFacility → Query
  | .sysctl => .parameter (parameter which)
  | .registry => .registryMhz
  | .sysfs => .frequencyKhz which
  | .cpuinfo => .cpuinfo

/-- A facility reports a clock of some MHz in its own unit: in Hz, in MHz, in kHz, or with a text
that starts with the MHz. -/
inductive Reports (source : Source) (which : Frequency) : ClockFacility → Int → Prop
  | sysctl {hertz : UInt64} {mhz rest : Nat}
      (hasked : source (.parameter (parameter which)) = .ok hertz)
      (hhertz : hertz.toNat = mhz * 1000000 + rest) (hrest : rest < 1000000) :
      Reports source which .sysctl mhz
  | registry {mhz : UInt32} (hasked : source .registryMhz = .ok mhz) :
      Reports source which .registry mhz.toNat
  | sysfs {kilohertz : UInt64} {mhz rest : Nat}
      (hasked : source (.frequencyKhz which) = .ok kilohertz)
      (hkilohertz : kilohertz.toNat = mhz * 1000 + rest) (hrest : rest < 1000) :
      Reports source which .sysfs mhz
  | cpuinfo {file : CpuInfo} {text : String} {mhz : Int} (hasked : source .cpuinfo = .ok file)
      (hvalue : file.value? 0 "cpu MHz" = some text) (hstarts : Text.Starts text.toList mhz) :
      Reports source which .cpuinfo mhz

/-- A clock that is no clock in MHz: it is below a MHz, or it does not fit a word. -/
def Unfit (mhz : Int) : Prop :=
  mhz < 1 ∨ 4294967295 < mhz

end ClockFacility

/-! ### What the probes come to -/

namespace Metric

theorem value_parameterMhz_eq_ok_iff {name : String} {mhz : UInt32} :
    (parameterMhz name).run.value source = .ok mhz ↔
      ∃ hertz, source (.parameter name) = .ok hertz ∧ mhz.toNat = hertz.toNat / 1000000 := by
  rw [parameterMhz, value_bind_eq_ok_iff]
  exact exists_congr fun _ ↦ and_congr Iff.rfl narrow_eq_ok_iff

theorem value_attributeMhz_eq_ok_iff {which : Frequency} {mhz : UInt32} :
    (attributeMhz which).run.value source = .ok mhz ↔
      ∃ kilohertz, source (.frequencyKhz which) = .ok kilohertz ∧
        mhz.toNat = kilohertz.toNat / 1000 := by
  rw [attributeMhz, value_bind_eq_ok_iff]
  exact exists_congr fun _ ↦ and_congr Iff.rfl narrow_eq_ok_iff

theorem value_fileNumber_eq_ok_iff {key complaint : String} {n : Int}
    (hcpuid : architecture.hasCpuid = true) :
    (fileNumber architecture key complaint).run.value source = .ok n ↔
      ∃ file, source .cpuinfo = .ok file ∧ file.int? 0 key = some n := by
  have harchitecture : architecture ≠ .arm := by
    rintro rfl
    cases hcpuid
  rw [fileNumber, if_neg harchitecture]
  refine value_bind_eq_ok_iff.trans (exists_congr fun file ↦ and_congr Iff.rfl ?_)
  cases file.int? 0 key with
  | none => exact iff_of_false (fun h ↦ by cases h) fun h ↦ by cases h
  | some found => exact ⟨fun h ↦ by cases h; rfl, fun h ↦ by cases h; rfl⟩

end Metric

/-! ### The chains for the two clocks -/

/-- The chain for a clock. -/
def Metric.clockChain : Frequency → Chain UInt32
  | .maximum => maxSpeed
  | .current => currentSpeed

namespace ClockFacility

/-- The probe for a facility. -/
def probe (which : Frequency) : ClockFacility → Probe UInt32
  | .sysctl => ClockProbe.sysctl (parameter which)
  | .registry => ClockProbe.registry
  | .sysfs => ClockProbe.sysfs which
  | .cpuinfo => ClockProbe.cpuinfo

theorem run_clockChain (which : Frequency) (config : Config) (architecture : Architecture) :
    (clockChain which).run config architecture =
      Chain.firstUsable (clockChain which).metric positive config architecture
        ((asked which).map (probe which)) := by
  cases which <;> rfl

variable {which : Frequency} {facility : ClockFacility} {mhz : UInt32}

theorem name_probe : (facility.probe which).name = facility.name := by
  cases facility <;> rfl

theorem positive_iff : positive mhz = true ↔ 0 < mhz.toNat :=
  decide_eq_true_iff

theorem inInt64Range_word (word : UInt32) : Text.inInt64Range word.toNat = true := by
  have hlt := word.toNat_lt
  simp only [Text.inInt64Range, Bool.and_eq_true, decide_eq_true_eq]
  omega

/-- A clock that is more than zero is what the probe comes to if the facility reports it. -/
theorem outcome_probe_eq_ok_iff (hcpuid : architecture.hasCpuid = true) (hpositive : 0 < mhz.toNat) :
    (facility.probe which).outcome architecture source = .ok mhz ↔
      facility.Reports source which mhz.toNat := by
  cases facility with
  | sysctl =>
    refine value_parameterMhz_eq_ok_iff.trans ⟨?_, ?_⟩
    · rintro ⟨hertz, hasked, hmhz⟩
      exact .sysctl hasked (hmhz ▸ (Nat.div_add_mod' hertz.toNat 1000000).symm)
        (Nat.mod_lt _ (by decide))
    · generalize hn : (mhz.toNat : Int) = n
      intro h
      cases h with
      | sysctl hasked hhertz hrest => exact ⟨_, hasked, by omega⟩
  | registry =>
    refine ⟨fun h ↦ .registry h, ?_⟩
    generalize hn : (mhz.toNat : Int) = n
    intro h
    cases h with
    | registry hasked =>
      rw [UInt32.toNat_inj.mp (Int.ofNat_inj.mp hn)]
      exact hasked
  | sysfs =>
    refine value_attributeMhz_eq_ok_iff.trans ⟨?_, ?_⟩
    · rintro ⟨kilohertz, hasked, hmhz⟩
      exact .sysfs hasked (hmhz ▸ (Nat.div_add_mod' kilohertz.toNat 1000).symm)
        (Nat.mod_lt _ (by decide))
    · generalize hn : (mhz.toNat : Int) = n
      intro h
      cases h with
      | sysfs hasked hkilohertz hrest => exact ⟨_, hasked, by omega⟩
  | cpuinfo =>
    refine value_bind_eq_ok_iff.trans ?_
    simp only [value_fileNumber_eq_ok_iff hcpuid]
    constructor
    · rintro ⟨n, ⟨file, hasked, hint⟩, hmhz⟩
      have hn : n = mhz.toNat := by
        have htoNat : mhz.toNat = n.toNat := narrow_eq_ok_iff.mp hmhz
        omega
      rw [CpuInfo.int?_eq_bind, Option.bind_eq_some_iff] at hint
      obtain ⟨text, hvalue, hread⟩ := hint
      exact .cpuinfo hasked hvalue (hn ▸ (Text.leadingInt?_eq_some_iff.mp hread).1)
    · generalize hn : (mhz.toNat : Int) = n
      intro h
      cases h with
      | cpuinfo hasked hvalue hstarts =>
        refine ⟨n, ⟨_, hasked, ?_⟩, narrow_eq_ok_iff.mpr (by omega)⟩
        rw [CpuInfo.int?_of_starts hvalue hstarts, if_pos (hn ▸ inInt64Range_word mhz)]

theorem resolves_probe_iff (hcpuid : architecture.hasCpuid = true) :
    (facility.probe which).Resolves architecture source positive config mhz ↔
      config.isDisabled facility.name = false ∧ 0 < mhz.toNat ∧
        facility.Reports source which mhz.toNat := by
  rw [Probe.Resolves, name_probe, positive_iff]
  refine and_congr_right fun _ ↦ ?_
  rw [and_comm]
  exact and_congr_right fun hpositive ↦ outcome_probe_eq_ok_iff hcpuid hpositive

/-- A facility that reports a clock in a word reports no other clock. -/
theorem Reports.eq_toNat {n : Int} (h : facility.Reports source which n)
    (hword : facility.Reports source which mhz.toNat) : n = mhz.toNat := by
  generalize hm : (mhz.toNat : Int) = m at hword
  cases h with
  | sysctl hasked hhertz hrest =>
    cases hword with
    | sysctl hagain hother hsmall =>
      obtain rfl := Except.ok.inj (hasked.symm.trans hagain)
      omega
  | registry hasked =>
    cases hword with
    | registry hagain => rw [Except.ok.inj (hasked.symm.trans hagain)]
  | sysfs hasked hkilohertz hrest =>
    cases hword with
    | sysfs hagain hother hsmall =>
      obtain rfl := Except.ok.inj (hasked.symm.trans hagain)
      omega
  | cpuinfo hasked hvalue hstarts =>
    cases hword with
    | cpuinfo hagain hother hread =>
      obtain rfl := Except.ok.inj (hasked.symm.trans hagain)
      obtain rfl := Option.some.inj (hvalue.symm.trans hother)
      -- The word is in range, so the text is read, and it is one text.
      have hrange : Text.inInt64Range m = true := hm ▸ inInt64Range_word mhz
      have hm := (Text.leadingInt?_of_starts hread).trans (if_pos hrange)
      have hn := (Text.leadingInt?_of_starts hstarts).symm.trans hm
      exact Option.some.inj (Option.ite_none_right_eq_some.mp hn).2

/-- A probe resolves to nothing if its facility is switched off or reports an unfit clock only. -/
theorem not_resolves_probe_iff (hcpuid : architecture.hasCpuid = true) :
    (∀ mhz, ¬ (facility.probe which).Resolves architecture source positive config mhz) ↔
      (config.isDisabled facility.name = false →
        ∀ n, facility.Reports source which n → Unfit n) := by
  simp only [resolves_probe_iff hcpuid]
  constructor
  · intro h hon n hreports
    by_contra hfit
    obtain ⟨hlow, hhigh⟩ := not_or.mp hfit
    obtain ⟨word, hword⟩ : ∃ word : UInt32, (word.toNat : Int) = n :=
      ⟨UInt32.ofNat n.toNat, by
        rw [UInt32.toNat_ofNat_of_lt' (show n.toNat < 4294967296 by omega)]
        omega⟩
    exact h word ⟨hon, by omega, hword ▸ hreports⟩
  · rintro h mhz ⟨hon, hpositive, hreports⟩
    have hlt := mhz.toNat_lt
    have hunfit := h hon _ hreports
    unfold Unfit at hunfit
    omega

/-- A facility that reports an unfit clock resolves to nothing. -/
theorem Reports.not_resolves {n : Int} (h : facility.Reports source which n) (hunfit : Unfit n)
    (hcpuid : architecture.hasCpuid = true) (config : Config) (mhz : UInt32) :
    ¬ (facility.probe which).Resolves architecture source positive config mhz := by
  intro hresolves
  obtain ⟨-, hpositive, hword⟩ := (resolves_probe_iff hcpuid).mp hresolves
  have hlt := mhz.toNat_lt
  rw [h.eq_toNat hword] at hunfit
  unfold Unfit at hunfit
  omega

/-! ### One facility switched off -/

theorem name_mem_facilities (facility : ClockFacility) : facility.name ∈ Query.facilities := by
  cases facility <;> decide

theorem name_injective {first second : ClockFacility} (h : first.name = second.name) :
    first = second := by
  cases first <;> cases second <;> first | rfl | exact absurd h (by decide)

/-- A facility that resolves to nothing may as well be switched off. -/
theorem value_disable
    (h : ∀ mhz, ¬ (facility.probe which).Resolves architecture source positive config mhz) :
    ((clockChain which).run config architecture).value source =
      ((clockChain which).run (config.disable facility.name) architecture).value source := by
  rw [run_clockChain, run_clockChain]
  refine Chain.value_disable _ (name_mem_facilities facility)
    (List.forall_mem_map.mpr fun other _ hname ↦ ?_)
  rw [name_injective (name_probe.symm.trans hname)]
  exact h

end ClockFacility

/-! ### The chain for a clock -/

/-- How a clock comes from the facilities that report one. -/
structure ClockSearch (source : Source) (config : Config) (which : Frequency)
    (search : Config → Outcome UInt32) : Prop where
  /-- The clock is that of the first facility that reports a fit one. -/
  found : ∀ mhz, search config = .ok mhz ↔ ∃ before facility after,
    ClockFacility.asked which = before ++ facility :: after ∧
      config.isDisabled facility.name = false ∧ 0 < mhz.toNat ∧
      facility.Reports source which mhz.toNat ∧
      ∀ earlier ∈ before, config.isDisabled earlier.name = false →
        ∀ n, earlier.Reports source which n → ClockFacility.Unfit n
  /-- There is none if no facility reports a fit one. -/
  missed : ∀ error, search config = .error error ↔ error = .noData ∧
    ∀ facility ∈ ClockFacility.asked which, config.isDisabled facility.name = false →
      ∀ n, facility.Reports source which n → ClockFacility.Unfit n
  /-- A clock in a word is found in whichever unit it is reported, if nothing else is answered. -/
  alone : ∀ facility ∈ ClockFacility.asked which, config.isDisabled facility.name = false →
    ∀ mhz : UInt32, 0 < mhz.toNat → facility.Reports source which mhz.toNat →
      (∀ query, query ≠ facility.question which → ∃ error, source query = .error error) →
      search config = .ok mhz
  /-- A facility that reports an unfit clock is passed over as if it were switched off. -/
  skipped : ∀ facility ∈ ClockFacility.asked which, ∀ n, facility.Reports source which n →
    ClockFacility.Unfit n → search config = search (config.disable facility.name)

namespace ClockFacility

/-- A facility that reports a clock was answered. -/
theorem Reports.question_ne_error {which : Frequency} {facility : ClockFacility} {n : Int}
    (h : facility.Reports source which n) :
    ¬ ∃ error, source (facility.question which) = .error error := by
  rintro ⟨error, herror⟩
  cases h with
  | sysctl hasked | registry hasked | sysfs hasked | cpuinfo hasked =>
    exact absurd (hasked.symm.trans herror) (by simp)

theorem question_injective {which : Frequency} {first second : ClockFacility}
    (h : first.question which = second.question which) : first = second := by
  cases first <;> cases second <;> first | rfl | cases h

theorem nodup_asked (which : Frequency) : (asked which).Nodup := by
  cases which <;> decide

theorem clockSearch (hcpuid : architecture.hasCpuid = true) (which : Frequency) :
    ClockSearch source config which fun settings ↦
      ((clockChain which).run settings architecture).value source := by
  have hfound (mhz : UInt32) :
      ((clockChain which).run config architecture).value source = .ok mhz ↔
        ∃ before facility after, asked which = before ++ facility :: after ∧
          config.isDisabled facility.name = false ∧ 0 < mhz.toNat ∧
          facility.Reports source which mhz.toNat ∧
          ∀ earlier ∈ before, config.isDisabled earlier.name = false →
            ∀ n, earlier.Reports source which n → Unfit n := by
    rw [run_clockChain, Chain.value_map_eq_ok_iff]
    simp only [not_resolves_probe_iff hcpuid]
    simp only [resolves_probe_iff hcpuid, and_assoc]
  refine ⟨hfound, fun error ↦ ?_, fun facility hmem hon mhz hpositive hreports honly ↦ ?_,
    fun facility hmem n hreports hunfit ↦ ?_⟩
  · rw [run_clockChain, Chain.value_eq_error_iff, List.forall_mem_map]
    simp only [not_resolves_probe_iff hcpuid]
  · obtain ⟨before, after, hsplit⟩ := List.append_of_mem hmem
    refine (hfound mhz).mpr ⟨before, facility, after, hsplit, hon, hpositive, hreports, ?_⟩
    intro earlier hearlier _ n hother
    have hnodup := nodup_asked which
    rw [hsplit, List.nodup_middle, List.nodup_cons] at hnodup
    have hne : earlier ≠ facility := fun heq ↦
      hnodup.1 (heq ▸ List.mem_append_left after hearlier)
    exact absurd (honly _ fun heq ↦ hne (question_injective heq)) hother.question_ne_error
  · exact value_disable (hreports.not_resolves hunfit hcpuid config)

end ClockFacility

end HostProfile
