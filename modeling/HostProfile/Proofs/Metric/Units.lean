import HostProfile.Proofs.Metric.ClockUnits

/-!
# Units of clocks and caches

The size of the cache comes from the first facility that is switched on and tells a level above zero
(`CacheSearch`). A second-level cache of some kilobytes is the same in bytes, as a text and in the
upper half of a register, whatever is in the lower half (`CacheFacility.Reports`).

With the same for the clocks, the facilities for one metric agree on its unit
(`facilities_agree_on_units`).
-/

set_option autoImplicit false
set_option relaxedAutoImplicit false

namespace HostProfile

open Attempt HostProfile.Metric

variable {source : Source} {config : Config} {architecture : Architecture}

/-- A facility that can tell the sizes of the caches. -/
inductive CacheFacility where
  | topology
  | sysctl
  | cpuinfo
  | cpuid

namespace CacheFacility

/-- The facilities in the order in which they are asked. -/
def all : List CacheFacility :=
  [.topology, .sysctl, .cpuinfo, .cpuid]

/-- The name under which a facility is switched off. -/
def name : CacheFacility → String
  | .topology => "topology"
  | .sysctl => "sysctl"
  | .cpuinfo => "cpuinfo"
  | .cpuid => "cpuid"

/-- A facility tells cache levels. -/
inductive Tells (source : Source) : CacheFacility → CacheLevels → Prop
  | topology {topology : Topology} (hasked : source .topology = .ok topology) :
      Tells source .topology topology.caches
  /-- Either parameter may be missing, and counts as zero then. -/
  | sysctl {third second : Outcome UInt64}
      (hthird : source (.parameter "hw.l3cachesize") = third)
      (hsecond : source (.parameter "hw.l2cachesize") = second)
      (htold : (∃ bytes, third = .ok bytes) ∨ ∃ bytes, second = .ok bytes) :
      Tells source .sysctl ⟨second.toOption.getD 0, third.toOption.getD 0⟩
  /-- The kilobytes that the text starts with. -/
  | cpuinfo {file : CpuInfo} {kilobytes : Int} (hasked : source .cpuinfo = .ok file)
      (hread : file.int? 0 "cache size" = some kilobytes) :
      Tells source .cpuinfo ⟨UInt64.ofNat (kilobytes.toNat * 1024), 0⟩
  /-- The kilobytes in the upper half of a register. -/
  | cpuid {top registers : Registers} (hfirst : source (.cpuid 0x80000000) = .ok top)
      (hcovered : 0x80000006 ≤ top.eax) (hleaf : source (.cpuid 0x80000006) = .ok registers) :
      Tells source .cpuid ⟨UInt64.ofNat (registers.ecx.toNat / 65536 * 1024), 0⟩

/-- A facility reports a second-level cache of some kilobytes in its own unit: in bytes, with a
text, or in the upper half of a register. Where there is a parameter for the third level, the one
for the second does not count. -/
inductive Reports (source : Source) (kilobytes : Nat) : CacheFacility → Prop
  | sysctl {bytes : UInt64} {error : ProbeError}
      (hasked : source (.parameter "hw.l2cachesize") = .ok bytes)
      (hthird : source (.parameter "hw.l3cachesize") = .error error)
      (hbytes : bytes.toNat = kilobytes * 1024) :
      Reports source kilobytes .sysctl
  | cpuinfo {file : CpuInfo} (hasked : source .cpuinfo = .ok file)
      (hvalue : file.value? 0 "cache size" =
        some (String.ofList (Text.decimal kilobytes ++ [' ', 'K', 'B']))) :
      Reports source kilobytes .cpuinfo
  | cpuid {top registers : Registers} {low : Nat} (hfirst : source (.cpuid 0x80000000) = .ok top)
      (hcovered : 0x80000006 ≤ top.eax) (hleaf : source (.cpuid 0x80000006) = .ok registers)
      (hdescriptor : registers.ecx.toNat = kilobytes * 65536 + low) (hlow : low < 65536) :
      Reports source kilobytes .cpuid

/-! ### What the probes come to -/

/-- The probe for a facility. -/
def probe : CacheFacility → Probe CacheLevels
  | .topology => CacheProbe.topology
  | .sysctl => CacheProbe.sysctl
  | .cpuinfo => CacheProbe.cpuinfo
  | .cpuid => CacheProbe.cpuid

theorem probes_cacheLevels : cacheLevels.probes = all.map probe := rfl

theorem secondLevelCacheBytes_eq (descriptor : UInt32) :
    secondLevelCacheBytes descriptor = UInt64.ofNat (descriptor.toNat / 65536 * 1024) := by
  have hlt := descriptor.toNat_lt
  have hsize : descriptor.toNat / 65536 * 1024 < 18446744073709551616 := by omega
  have hhalf : (descriptor >>> 16).toNat = descriptor.toNat / 65536 := by
    simp [Nat.shiftRight_eq_div_pow]
  apply UInt64.toNat_inj.mp
  rw [UInt64.toNat_ofNat_of_lt' hsize, secondLevelCacheBytes, UInt64.toNat_mul,
    UInt32.toNat_toUInt64, hhalf]
  exact Nat.mod_eq_of_lt hsize

variable {facility : CacheFacility} {levels : CacheLevels}

theorem name_probe : facility.probe.name = facility.name := by
  cases facility <;> rfl

theorem usable_iff : cacheLevels.usable levels = true ↔ 0 < levels.preferred :=
  decide_eq_true_iff

theorem eitherLevel_eq_ok_iff {third second : Outcome UInt64} :
    eitherLevel third second = .ok levels ↔
      ((∃ bytes, third = .ok bytes) ∨ ∃ bytes, second = .ok bytes) ∧
        levels = ⟨second.toOption.getD 0, third.toOption.getD 0⟩ := by
  rcases third with error | third <;> rcases second with other | second <;>
    simp [eitherLevel, eq_comm]

theorem outcome_probe_eq_ok_iff (hcpuid : architecture.hasCpuid = true) :
    facility.probe.outcome architecture source = .ok levels ↔ facility.Tells source levels := by
  cases facility with
  | topology =>
    refine value_bind_eq_ok_iff.trans ⟨?_, ?_⟩
    · rintro ⟨topology, hasked, hlevels⟩
      cases hlevels
      exact .topology hasked
    · rintro ⟨hasked⟩
      exact ⟨_, hasked, rfl⟩
  | sysctl =>
    refine eitherLevel_eq_ok_iff.trans ⟨?_, ?_⟩
    · rintro ⟨htold, rfl⟩
      exact .sysctl rfl rfl htold
    · intro h
      cases h with
      | sysctl hthird hsecond htold =>
        subst hthird hsecond
        exact ⟨htold, rfl⟩
  | cpuinfo =>
    refine value_bind_eq_ok_iff.trans ?_
    simp only [value_fileNumber_eq_ok_iff hcpuid]
    constructor
    · rintro ⟨kilobytes, ⟨file, hasked, hread⟩, hlevels⟩
      cases hlevels
      exact .cpuinfo hasked hread
    · intro h
      cases h with
      | cpuinfo hasked hread => exact ⟨_, ⟨_, hasked, hread⟩, rfl⟩
  | cpuid =>
    refine value_bind_eq_ok_iff.trans ?_
    simp only [value_coveredLeaf_eq_ok_iff, secondLevelCacheBytes_eq]
    constructor
    · rintro ⟨registers, ⟨-, top, hfirst, hcovered, hleaf⟩, hlevels⟩
      cases hlevels
      exact .cpuid hfirst hcovered hleaf
    · intro h
      cases h with
      | cpuid hfirst hcovered hleaf => exact ⟨_, ⟨hcpuid, _, hfirst, hcovered, hleaf⟩, rfl⟩

theorem resolves_probe_iff (hcpuid : architecture.hasCpuid = true) :
    facility.probe.Resolves architecture source cacheLevels.usable config levels ↔
      config.isDisabled facility.name = false ∧ facility.Tells source levels ∧
        0 < levels.preferred := by
  rw [Probe.Resolves, name_probe, usable_iff, outcome_probe_eq_ok_iff hcpuid]

theorem not_resolves_probe_iff (hcpuid : architecture.hasCpuid = true) :
    (∀ levels, ¬ facility.probe.Resolves architecture source cacheLevels.usable config levels) ↔
      (config.isDisabled facility.name = false →
        ∀ levels, facility.Tells source levels → levels.preferred = 0) := by
  simp only [resolves_probe_iff hcpuid, not_and, UInt64.not_lt, UInt64.le_zero_iff]
  exact ⟨fun h hon levels ↦ h levels hon, fun h levels hon ↦ h hon levels⟩

/-! ### One cache in all units -/

/-- The kilobytes are the cache that is told, and there is no third level. -/
theorem Reports.tells {kilobytes : Nat} (h : facility.Reports source kilobytes)
    (hrange : kilobytes ≤ 65535) :
    facility.Tells source ⟨UInt64.ofNat (kilobytes * 1024), 0⟩ := by
  cases h with
  | @sysctl bytes error hasked hthird hbytes =>
    have hlevels := Tells.sysctl hthird hasked (.inr ⟨bytes, rfl⟩)
    rwa [show bytes = UInt64.ofNat (kilobytes * 1024) by rw [← hbytes, UInt64.ofNat_toNat]]
      at hlevels
  | cpuinfo hasked hvalue =>
    have hstarts : Text.Starts (String.ofList (Text.decimal kilobytes ++ [' ', 'K', 'B'])).toList
        kilobytes := by
      rw [String.toList_ofList]
      exact Text.starts_decimal_append kilobytes fun c hc ↦ by cases hc; rfl
    have hread := CpuInfo.int?_of_starts hvalue hstarts
    rw [if_pos] at hread
    · have hlevels := Tells.cpuinfo hasked hread
      rwa [Int.toNat_natCast] at hlevels
    · simp only [Text.inInt64Range, Bool.and_eq_true, decide_eq_true_eq]
      omega
  | @cpuid top registers low hfirst hcovered hleaf hdescriptor hlow =>
    have hlevels := Tells.cpuid hfirst hcovered hleaf
    rwa [show registers.ecx.toNat / 65536 = kilobytes by omega] at hlevels

/-- A facility that tells cache levels was answered. -/
theorem Tells.exists_answered (h : facility.Tells source levels) :
    ∃ query, query.owner = facility.name ∧ ∃ answer, source query = .ok answer := by
  cases h with
  | topology hasked => exact ⟨.topology, rfl, _, hasked⟩
  | sysctl hthird hsecond htold =>
    subst hthird hsecond
    obtain ⟨bytes, hbytes⟩ | ⟨bytes, hbytes⟩ := htold
    · exact ⟨.parameter "hw.l3cachesize", rfl, bytes, hbytes⟩
    · exact ⟨.parameter "hw.l2cachesize", rfl, bytes, hbytes⟩
  | cpuinfo hasked => exact ⟨.cpuinfo, rfl, _, hasked⟩
  | cpuid hfirst hcovered hleaf => exact ⟨.cpuid 0x80000006, rfl, _, hleaf⟩

theorem mem_all (facility : CacheFacility) : facility ∈ all := by
  cases facility <;> simp [all]

theorem nodup_name_all : (all.map name).Nodup := by
  decide

end CacheFacility

/-- How the size of the cache comes from the facilities that tell cache levels. -/
structure CacheSearch (source : Source) (config : Config) (outcome : Outcome UInt64) : Prop where
  /-- The size is that of the preferred level of the first facility that tells one above zero. -/
  found : ∀ bytes, outcome = .ok bytes ↔ ∃ before facility after levels,
    CacheFacility.all = before ++ facility :: after ∧
      config.isDisabled facility.name = false ∧ facility.Tells source levels ∧
      0 < levels.preferred ∧ bytes = levels.preferred ∧
      ∀ earlier ∈ before, config.isDisabled earlier.name = false →
        ∀ other, earlier.Tells source other → other.preferred = 0
  /-- Some kilobytes are found in whichever unit they are reported, if nothing else is answered. -/
  alone : ∀ facility : CacheFacility, config.isDisabled facility.name = false →
    ∀ kilobytes, 1 ≤ kilobytes → kilobytes ≤ 65535 → facility.Reports source kilobytes →
      (∀ query, query.owner ≠ facility.name → ∃ error, source query = .error error) →
      outcome = .ok (UInt64.ofNat (kilobytes * 1024))

namespace CacheFacility

theorem cacheSearch (hcpuid : architecture.hasCpuid = true) :
    CacheSearch source config ((cacheSize config architecture).value source) := by
  have hfound (bytes : UInt64) : (cacheSize config architecture).value source = .ok bytes ↔
      ∃ before facility after levels, all = before ++ facility :: after ∧
        config.isDisabled facility.name = false ∧ facility.Tells source levels ∧
        0 < levels.preferred ∧ bytes = levels.preferred ∧
        ∀ earlier ∈ before, config.isDisabled earlier.name = false →
          ∀ other, earlier.Tells source other → other.preferred = 0 := by
    have hvalue : (cacheSize config architecture).value source =
        ((cacheLevels.run config architecture).value source).map CacheLevels.preferred :=
      Probing.value_map source _ _
    have hpreferred : (cacheSize config architecture).value source = .ok bytes ↔
        ∃ levels, (cacheLevels.run config architecture).value source = .ok levels ∧
          bytes = levels.preferred := by
      rw [hvalue]
      cases (cacheLevels.run config architecture).value source <;> simp [Except.map, eq_comm]
    rw [hpreferred, Chain.run, probes_cacheLevels]
    simp only [Chain.value_map_eq_ok_iff, not_resolves_probe_iff hcpuid]
    simp only [resolves_probe_iff hcpuid]
    constructor
    · rintro ⟨levels, ⟨before, facility, after, hsplit, ⟨hon, htells, hpositive⟩, hbefore⟩, hbytes⟩
      exact ⟨before, facility, after, levels, hsplit, hon, htells, hpositive, hbytes, hbefore⟩
    · rintro ⟨before, facility, after, levels, hsplit, hon, htells, hpositive, hbytes, hbefore⟩
      exact ⟨levels, ⟨before, facility, after, hsplit, ⟨hon, htells, hpositive⟩, hbefore⟩, hbytes⟩
  refine ⟨hfound, fun facility hon kilobytes hlow hhigh hreports honly ↦ ?_⟩
  obtain ⟨before, after, hsplit⟩ := List.append_of_mem (mem_all facility)
  have hlevels : (⟨UInt64.ofNat (kilobytes * 1024), 0⟩ : CacheLevels).preferred =
      UInt64.ofNat (kilobytes * 1024) := if_neg (UInt64.lt_irrefl 0)
  have hsize : kilobytes * 1024 < 18446744073709551616 := by omega
  have hpositive : 0 < UInt64.ofNat (kilobytes * 1024) := by
    rw [UInt64.lt_iff_toNat_lt, UInt64.toNat_ofNat_of_lt' hsize]
    exact Nat.mul_pos hlow (by decide)
  refine (hfound _).mpr ⟨before, facility, after, _, hsplit, hon, hreports.tells hhigh,
    hlevels ▸ hpositive, hlevels.symm, fun earlier hearlier _ other htells ↦ ?_⟩
  obtain ⟨query, howner, answer, hanswer⟩ := htells.exists_answered
  have hnodup := nodup_name_all
  rw [hsplit, List.map_append, List.map_cons, List.nodup_middle, List.nodup_cons] at hnodup
  have hne : earlier.name ≠ facility.name := fun heq ↦
    hnodup.1 (heq ▸ List.mem_append_left _ (List.mem_map_of_mem hearlier))
  obtain ⟨error, herror⟩ := honly query (howner ▸ hne)
  cases hanswer.symm.trans herror

end CacheFacility

/-- On an architecture with the identification instruction, both clocks come to the same MHz and the
cache to the same bytes in whichever unit a facility reports them; and a decimal number before
anything but a digit is a text that starts with the number. -/
theorem facilities_agree_on_units (hcpuid : architecture.hasCpuid = true) (source : Source)
    (config : Config) :
    (∀ n rest, (∀ c ∈ List.head? rest, c.isDigit = false) →
        Text.Starts (Text.decimal n ++ rest) n) ∧
      ClockSearch source config .maximum
        (fun settings ↦ (maxSpeed.run settings architecture).value source) ∧
      ClockSearch source config .current
        (fun settings ↦ (currentSpeed.run settings architecture).value source) ∧
      CacheSearch source config ((cacheSize config architecture).value source) :=
  ⟨fun n _ hrest ↦ Text.starts_decimal_append n hrest, ClockFacility.clockSearch hcpuid .maximum,
    ClockFacility.clockSearch hcpuid .current, CacheFacility.cacheSearch hcpuid⟩

/-- A host that tells a highest clock of 2^32 MHz in Hz, both clocks in kHz, and a cache in a
text. -/
def Source.ofDesktop : Source
  | .parameter name =>
    if name = "hw.cpufrequency_max" then .ok 4294967296000000 else .error .unavailable
  | .frequencyKhz _ => .ok 2400123
  | .cpuinfo => .ok (.parse "cache size\t: 512 KB\n")
  | _ => .error .unavailable

/-- The clock that does not fit a word is passed over for the one in kHz. -/
theorem facilities_agree_on_units_desktop :
    let source := Source.ofDesktop
    Architecture.x64.hasCpuid = true ∧
      ClockFacility.sysctl.Reports source .maximum 4294967296 ∧
      ClockFacility.sysfs.Reports source .maximum 2400 ∧
      (maxSpeed.run .standard .x64).value source = .ok 2400 ∧
      (currentSpeed.run .standard .x64).value source = .ok 2400 ∧
      (cacheSize .standard .x64).value source = .ok 524288 := by
  intro source
  have hcpuid : Architecture.x64.hasCpuid = true := rfl
  have hhertz : ClockFacility.sysctl.Reports source .maximum 4294967296 :=
    .sysctl rfl (show (4294967296000000 : UInt64).toNat = 4294967296 * 1000000 + 0 from rfl)
      (by decide)
  have hkilohertz (which : Frequency) : ClockFacility.sysfs.Reports source which 2400 :=
    .sysfs rfl (show (2400123 : UInt64).toNat = 2400 * 1000 + 123 from rfl) (by decide)
  have hread : (CpuInfo.parse "cache size\t: 512 KB\n").int? 0 "cache size" = some 512 := by
    decide +kernel
  have hcached : CacheFacility.cpuinfo.Tells source ⟨524288, 0⟩ := .cpuinfo rfl hread
  obtain ⟨-, hmaximum, hcurrent, hcache⟩ := facilities_agree_on_units hcpuid source .standard
  refine ⟨hcpuid, hhertz, hkilohertz .maximum, ?_, ?_, ?_⟩
  · rw [hmaximum.skipped .sysctl List.mem_cons_self _ hhertz (.inr (by decide))]
    obtain ⟨-, hrest, -⟩ := facilities_agree_on_units hcpuid source (.disable .standard "sysctl")
    refine (hrest.found 2400).mpr ⟨[.sysctl, .registry], .sysfs, [.cpuinfo], rfl, by decide +kernel,
      by decide, hkilohertz .maximum, ?_⟩
    simp only [List.forall_mem_cons]
    refine ⟨fun hon ↦ absurd hon (by decide +kernel), fun _ n hreports ↦ ?_, by simp⟩
    cases hreports with
    | registry hasked => cases hasked
  · refine (hcurrent.found 2400).mpr ⟨[.sysctl], .sysfs, [], rfl, rfl, by decide,
      hkilohertz .current, ?_⟩
    simp only [List.forall_mem_singleton]
    intro _ n hreports
    cases hreports with
    | sysctl hasked => cases hasked
  · refine (hcache.found 524288).mpr ⟨[.topology, .sysctl], .cpuinfo, [.cpuid], ⟨524288, 0⟩, rfl,
      rfl, hcached, by decide, by decide, ?_⟩
    simp only [List.forall_mem_cons]
    refine ⟨?_, ?_, by simp⟩
    · intro _ levels htells
      cases htells with
      | topology hasked => cases hasked
    · intro _ levels htells
      cases htells with
      | sysctl hthird hsecond htold =>
        subst hthird hsecond
        obtain ⟨_, hbytes⟩ | ⟨_, hbytes⟩ := htold <;> cases hbytes

end HostProfile
