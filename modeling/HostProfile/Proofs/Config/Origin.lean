import HostProfile.Proofs.Config.Changes
import HostProfile.Proofs.Text.Encoding

/-!
# What settings start from

Settings start from the built-in ones or from an environment (`Origin`) and are then changed any
number of times. What comes of it follows from the origin and the changes (`Settled`): a source is
off if its variable says so or some change names it, and a path is the last one that was given, or
else the one in its variable, or else the built-in one.

A value says yes if it is one of a few byte strings (`Yes`), since no other bytes are read as these
words (`yes_iff`). Different sources have different variables (`switchVariable_injOn`), so one that
is meant for one source bears on no other (`AgreeBut`).
-/

set_option autoImplicit false
set_option relaxedAutoImplicit false

namespace HostProfile.Config

/-- What settings start from: the built-in ones or an environment. -/
inductive Origin where
  | builtIn
  | environment (env : Environment)

/-- The settings before any change. -/
def Origin.settings : Origin → Config
  | .builtIn => standard
  | .environment env => ofEnvironment env

/-- The variable that can switch a source off ends in the name of the source in capitals. -/
def SwitchVariable (name key : String) : Prop :=
  ∃ capitals, Text.CapitalForm name capitals ∧ key = "STRATA_SYSINFO_DISABLE_" ++ capitals

/-- A value says yes if it is the digit one, or the word for true in any mix of cases. -/
inductive Yes : List UInt8 → Prop
  | digit : Yes (Text.encode "1")
  | word {text : String} (h : Text.SameLetters text "true") : Yes (Text.encode text)

/-- The sources that are off before any change: those of the known ones whose variable says yes. -/
inductive Origin.Off : Origin → String → Prop
  | intro {env : Environment} {name key : String} {value : List UInt8} (hname : name ∈ sourceNames)
      (hkey : SwitchVariable name key) (hset : env key = some value) (hyes : Yes value) :
      Off (.environment env) name

/-- A path before any change: the one in its variable if that is set and not empty, and otherwise
the built-in one. -/
inductive Origin.Path (key : String) (usual : PathBytes) : Origin → PathBytes → Prop
  | builtIn : Path key usual .builtIn usual
  | set {env : Environment} {path : PathBytes} (h : env key = some path) (hpath : path ≠ []) :
      Path key usual (.environment env) path
  | unset {env : Environment} (h : ∀ path, env key = some path → path = []) :
      Path key usual (.environment env) usual

/-- A path after changes: the last one that was given, or else the one before any change. -/
def Origin.PathAfter (origin : Origin) (key : String) (usual : PathBytes)
    (give : PathBytes → Change) (changes : List Change) (path : PathBytes) : Prop :=
  ∃ initial, origin.Path key usual initial ∧ InForce give initial changes path

/-- What settings are after changes, all told. -/
structure Settled (origin : Origin) (changes : List Change) (settings : Config) : Prop where
  isDisabled_iff : ∀ query, settings.isDisabled query = true ↔
    origin.Off query ∨ ∃ name, .disable name ∈ changes ∧ Text.SmallForm name query
  cpuinfoPath : origin.PathAfter "STRATA_SYSINFO_CPUINFO_PATH" (Text.encode "/proc/cpuinfo")
    .cpuinfoPath changes settings.cpuinfoPath
  sysfsRoot : origin.PathAfter "STRATA_SYSINFO_SYSFS_ROOT" (Text.encode "/sys")
    .sysfsRoot changes settings.sysfsRoot

/-- Settings that are the same but for one source. -/
structure AgreeBut (name : String) (first second : Config) : Prop where
  sources : ∀ query, query ≠ name → first.isDisabled query = second.isDisabled query
  cpuinfoPath : first.cpuinfoPath = second.cpuinfoPath
  sysfsRoot : first.sysfsRoot = second.sysfsRoot

/-! ### Sources before any change -/

theorem sameLetters_true_iff {text : String} :
    Text.SameLetters text "true" ↔ text.map Char.toLower = "true" := by
  have hsmall : ∀ c ∈ "true".toList, c.isUpper = false := by simp
  rw [Text.folds_toLower.sameLetters_iff, Text.folds_toLower.map_eq_self hsmall]

theorem saysYes_encode_iff {text : String} :
    saysYes (Text.encode text) = true ↔ text = "1" ∨ Text.SameLetters text "true" := by
  simp [saysYes, Text.decode?_encode, sameLetters_true_iff]

theorem yes_iff {value : List UInt8} : Yes value ↔ saysYes value = true := by
  constructor
  · intro h
    cases h with
    | digit => exact saysYes_encode_iff.mpr (.inl rfl)
    | word h => exact saysYes_encode_iff.mpr (.inr h)
  · intro h
    cases htext : Text.decode? value with
    | none => simp [saysYes, htext] at h
    | some text =>
      obtain rfl := Text.decode?_eq_some_iff.mp htext
      obtain rfl | hword := saysYes_encode_iff.mp h
      · exact .digit
      · exact .word hword

theorem switchVariable_eq (name : String) :
    switchVariable name = "STRATA_SYSINFO_DISABLE_" ++ name.map Char.toUpper :=
  rfl

theorem switchVariable_iff {name key : String} :
    SwitchVariable name key ↔ key = switchVariable name := by
  simp [SwitchVariable, Text.folds_toUpper.caseForm_iff, switchVariable_eq]

theorem off_environment_iff {env : Environment} {name : String} :
    (Origin.environment env).Off name ↔
      name ∈ sourceNames ∧ flag env (switchVariable name) = true := by
  rw [flag, Option.any_eq_true]
  constructor
  · rintro ⟨hname, hkey, hset, hyes⟩
    exact ⟨hname, _, switchVariable_iff.mp hkey ▸ hset, yes_iff.mp hyes⟩
  · rintro ⟨hname, value, hset, hyes⟩
    exact .intro hname (switchVariable_iff.mpr rfl) hset (yes_iff.mpr hyes)

/-- The sources that are off in settings before any change. -/
theorem Origin.off_iff {origin : Origin} {query : String} :
    origin.Off query ↔ origin.settings.isDisabled query = true := by
  cases origin with
  | builtIn =>
    have hoff : standard.isDisabled query = false := by simp [standard, Config.isDisabled]
    exact iff_of_false (fun h ↦ by cases h) (by simp [settings, hoff])
  | environment env =>
    rw [off_environment_iff, settings, isDisabled_ofEnvironment, Bool.and_eq_true,
      List.contains_iff_mem]

/-! ### Paths before any change -/

theorem path?_eq_some_iff {env : Environment} {key : String} {path : PathBytes} :
    path? env key = some path ↔ env key = some path ∧ path ≠ [] := by
  simp [path?, Option.filter_eq_some_iff]

theorem path?_eq_none_iff {env : Environment} {key : String} :
    path? env key = none ↔ ∀ path, env key = some path → path = [] := by
  simp [path?, Option.filter_eq_none_iff]

theorem path_environment_iff {env : Environment} {key : String} {usual path : PathBytes} :
    Origin.Path key usual (.environment env) path ↔ (path? env key).getD usual = path := by
  constructor
  · intro h
    cases h with
    | set h hpath => rw [path?_eq_some_iff.mpr ⟨h, hpath⟩, Option.getD_some]
    | unset h => rw [path?_eq_none_iff.mpr h, Option.getD_none]
  · rintro rfl
    cases hpath : path? env key with
    | none => exact .unset (path?_eq_none_iff.mp hpath)
    | some path =>
      obtain ⟨hset, hne⟩ := path?_eq_some_iff.mp hpath
      exact .set hset hne

theorem path_builtIn_iff {key : String} {usual path : PathBytes} :
    Origin.Path key usual .builtIn path ↔ usual = path :=
  ⟨fun h ↦ by cases h; rfl, fun h ↦ h ▸ .builtIn⟩

/-- A path of the settings, the variable that can tell it and the built-in one. -/
structure Starts (get : Config → PathBytes) (key : String) (usual : PathBytes) : Prop where
  standard : get standard = usual
  environment : ∀ env, get (ofEnvironment env) = (path? env key).getD usual

theorem starts_cpuinfoPath :
    Starts cpuinfoPath "STRATA_SYSINFO_CPUINFO_PATH" (Text.encode "/proc/cpuinfo") where
  standard := rfl
  environment := fun _ ↦ rfl

theorem starts_sysfsRoot : Starts sysfsRoot "STRATA_SYSINFO_SYSFS_ROOT" (Text.encode "/sys") where
  standard := rfl
  environment := fun _ ↦ rfl

section Starts

variable {get : Config → PathBytes} {key : String} {usual : PathBytes}

/-- A path in settings before any change. -/
theorem Starts.path_iff (h : Starts get key usual) {origin : Origin} {path : PathBytes} :
    origin.Path key usual path ↔ get origin.settings = path := by
  cases origin with
  | builtIn => rw [path_builtIn_iff, Origin.settings, h.standard]
  | environment env => rw [path_environment_iff, Origin.settings, h.environment]

/-- A path in settings after changes. -/
theorem Starts.pathAfter_iff (h : Starts get key usual) {give : PathBytes → Change}
    (hmoves : Moves get give) {origin : Origin} {changes : List Change} {path : PathBytes} :
    origin.PathAfter key usual give changes path ↔
      get (origin.settings.changeAll changes) = path := by
  constructor
  · rintro ⟨initial, hinitial, hforce⟩
    obtain rfl := h.path_iff.mp hinitial
    exact hmoves.eq_of_inForce hforce
  · exact fun hpath ↦ ⟨_, h.path_iff.mpr rfl, hmoves.inForce_iff.mpr hpath⟩

/-- Environments with the same value in its variable lead to the same path. -/
theorem Starts.changeAll_congr (h : Starts get key usual) {give : PathBytes → Change}
    (hmoves : Moves get give) {env other : Environment} (heq : env key = other key)
    (changes : List Change) :
    get ((ofEnvironment env).changeAll changes) =
      get ((ofEnvironment other).changeAll changes) := by
  apply hmoves.changeAll_congr
  rw [h.environment, h.environment, path?, heq, path?]

end Starts

/-! ### Settings after changes -/

theorem Origin.settled_changeAll (origin : Origin) (changes : List Change) :
    Settled origin changes (origin.settings.changeAll changes) where
  isDisabled_iff := fun query ↦ by rw [isDisabled_changeAll_iff, origin.off_iff]
  cpuinfoPath := (starts_cpuinfoPath.pathAfter_iff moves_cpuinfoPath).mpr rfl
  sysfsRoot := (starts_sysfsRoot.pathAfter_iff moves_sysfsRoot).mpr rfl

/-- What is told of settings after changes leaves no choice. -/
theorem Settled.changeAll_eq {origin : Origin} {changes : List Change} {settings : Config}
    (h : Settled origin changes settings) : origin.settings.changeAll changes = settings := by
  have hsettled := origin.settled_changeAll changes
  apply eq_of_isDisabled
  · intro query
    rw [Bool.eq_iff_iff, hsettled.isDisabled_iff, h.isDisabled_iff]
  · exact (starts_cpuinfoPath.pathAfter_iff moves_cpuinfoPath).mp h.cpuinfoPath
  · exact (starts_sysfsRoot.pathAfter_iff moves_sysfsRoot).mp h.sysfsRoot

/-! ### The flag of one source -/

theorem map_toLower_of_mem {name : String} (h : name ∈ sourceNames) :
    name.map Char.toLower = name := by
  have hsmall : ∀ name ∈ sourceNames, ∀ c ∈ name.toList, c.isUpper = false := by
    simp [sourceNames]
  exact Text.folds_toLower.map_eq_self (hsmall name h)

/-- Different sources have different variables. -/
theorem switchVariable_injOn {name other : String} (hname : name ∈ sourceNames)
    (hother : other ∈ sourceNames) (h : switchVariable name = switchVariable other) :
    name = other := by
  have hcapitals : name.map Char.toUpper = other.map Char.toUpper := by
    rwa [switchVariable_eq, switchVariable_eq, String.append_right_inj] at h
  have hsame := Text.folds_toUpper.sameLetters_iff.mpr hcapitals
  rw [← map_toLower_of_mem hname, ← map_toLower_of_mem hother]
  exact Text.folds_toLower.sameLetters_iff.mp hsame

/-- A variable that does not begin as those of the sources is none of them. -/
theorem ne_of_switchVariable {name key other : String} (hkey : SwitchVariable name key)
    (hother : ¬ "STRATA_SYSINFO_DISABLE_".toList <+: other.toList) : other ≠ key := by
  rintro rfl
  obtain ⟨capitals, -, rfl⟩ := hkey
  exact hother ⟨capitals.toList, String.toList_append.symm⟩

/-- Environments that differ in the variable of one source ask for settings that differ in this
source at most, and changes keep it so. -/
theorem agreeBut_of_switchVariable {name key : String} {env other : Environment}
    (hname : name ∈ sourceNames) (hkey : SwitchVariable name key)
    (hagree : ∀ k, k ≠ key → env k = other k) (changes : List Change) :
    AgreeBut name ((ofEnvironment env).changeAll changes)
      ((ofEnvironment other).changeAll changes) where
  sources := by
    intro query hquery
    have hflag (hmem : query ∈ sourceNames) :
        flag env (switchVariable query) = flag other (switchVariable query) := by
      have hne : switchVariable query ≠ key := by
        rw [switchVariable_iff.mp hkey]
        exact fun h ↦ hquery (switchVariable_injOn hmem hname h)
      rw [flag, flag, hagree _ hne]
    rw [Bool.eq_iff_iff, isDisabled_changeAll_iff, isDisabled_changeAll_iff,
      isDisabled_ofEnvironment, isDisabled_ofEnvironment]
    by_cases hmem : query ∈ sourceNames
    · rw [hflag hmem]
    · simp [hmem]
  cpuinfoPath := starts_cpuinfoPath.changeAll_congr moves_cpuinfoPath
    (hagree _ (ne_of_switchVariable hkey (by simp))) changes
  sysfsRoot := starts_sysfsRoot.changeAll_congr moves_sysfsRoot
    (hagree _ (ne_of_switchVariable hkey (by simp))) changes

/-- Settings are those that follow from what they start from and from the changes, and no others.
Switching sources off in another order, more or less often or in another mix of cases comes to the
same settings, and what is off stays off whatever else is changed. Environments that differ in the
variable of one source lead to settings that differ in this source at most, and neither do moves
bear on what is off nor other changes on the paths. -/
theorem changes_settle_settings :
    (∀ (origin : Origin) changes settings,
      Settled origin changes settings ↔ origin.settings.changeAll changes = settings) ∧
    (∀ (start : Config) first second, Rearranged first second →
      start.changeAll first = start.changeAll second) ∧
    (∀ (start : Config) changes query, (start.changeAll changes).isDisabled query = true →
      ∀ later, (start.changeAll (changes ++ later)).isDisabled query = true) ∧
    (∀ name key env other, name ∈ sourceNames → SwitchVariable name key →
      (∀ k, k ≠ key → env k = other k) → ∀ changes,
        AgreeBut name ((ofEnvironment env).changeAll changes)
          ((ofEnvironment other).changeAll changes)) ∧
    ∀ start changes, Separate start changes := by
  refine ⟨fun origin changes settings ↦ ⟨fun h ↦ h.changeAll_eq, ?_⟩,
    fun start first second h ↦ h.changeAll_eq start, fun start changes query ↦ isDisabled_append,
    fun name key env other ↦ agreeBut_of_switchVariable, separate⟩
  rintro rfl
  exact origin.settled_changeAll changes

/-- In an environment that switches one source off and leaves a path empty, two others are switched
off in mixed cases, one of them twice, and the other path is given twice. -/
theorem changes_settle_settings_mixed_case :
    let key := "STRATA_SYSINFO_DISABLE_CPUID"
    let other : Environment := fun k ↦ if k = "STRATA_SYSINFO_SYSFS_ROOT" then some [] else none
    let env : Environment := fun k ↦ if k = key then some (Text.encode "TRue") else other k
    let first : List Change := [.disable "Sysctl", .cpuinfoPath (Text.encode "/a"),
      .disable "MEMORY", .disable "sysCTL", .cpuinfoPath (Text.encode "/b")]
    let second : List Change := [.cpuinfoPath (Text.encode "/a"), .cpuinfoPath (Text.encode "/b"),
      .disable "memory", .disable "SYSCTL"]
    Rearranged first second ∧ "cpuid" ∈ sourceNames ∧ SwitchVariable "cpuid" key ∧
      (∀ k, k ≠ key → env k = other k) ∧
      ((ofEnvironment env).changeAll first).isDisabled "cpuid" = true ∧
      ((ofEnvironment env).changeAll first).isDisabled "sysctl" = true ∧
      ((ofEnvironment env).changeAll first).cpuinfoPath = Text.encode "/b" ∧
      ((ofEnvironment env).changeAll first).sysfsRoot = Text.encode "/sys" ∧
      (ofEnvironment env).changeAll first = (ofEnvironment env).changeAll second ∧
      ((ofEnvironment env).changeAll (first ++ second)).isDisabled "cpuid" = true ∧
      AgreeBut "cpuid" ((ofEnvironment env).changeAll first)
        ((ofEnvironment other).changeAll first) := by
  intro key other env first second
  have hrearranged : Rearranged first second := by
    refine ⟨fun name hname ↦ ?_, fun name hname ↦ ?_, rfl⟩
    · obtain rfl | rfl | rfl : name = "Sysctl" ∨ name = "MEMORY" ∨ name = "sysCTL" := by
        simpa [first] using hname
      · exact ⟨"SYSCTL", by simp [second], by decide⟩
      · exact ⟨"memory", by simp [second], by decide⟩
      · exact ⟨"SYSCTL", by simp [second], by decide⟩
    · obtain rfl | rfl : name = "memory" ∨ name = "SYSCTL" := by simpa [second] using hname
      · exact ⟨"MEMORY", by simp [first], by decide⟩
      · exact ⟨"Sysctl", by simp [first], by decide⟩
  have hname : "cpuid" ∈ sourceNames := by decide
  have hkey : SwitchVariable "cpuid" key := ⟨"CPUID", ⟨by decide, by simp⟩, rfl⟩
  have hagree : ∀ k, k ≠ key → env k = other k := fun k hk ↦ if_neg hk
  have hset : env key = some (Text.encode "TRue") := if_pos rfl
  obtain ⟨hsettled, hequal, hkept, hflag, -⟩ := changes_settle_settings
  have htold := (hsettled (.environment env) first _).mpr rfl
  have hoff : ((ofEnvironment env).changeAll first).isDisabled "cpuid" = true :=
    (htold.isDisabled_iff "cpuid").mpr (.inl (.intro hname hkey hset (.word (by decide))))
  have hsysctl : ((ofEnvironment env).changeAll first).isDisabled "sysctl" = true :=
    (htold.isDisabled_iff "sysctl").mpr (.inr ⟨"Sysctl", by simp [first], ⟨by decide, by simp⟩⟩)
  exact ⟨hrearranged, hname, hkey, hagree, hoff, hsysctl, rfl, rfl, hequal _ _ _ hrearranged,
    hkept _ _ _ hoff second, hflag _ _ _ _ hname hkey hagree first⟩

end HostProfile.Config
