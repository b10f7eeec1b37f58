import HostProfile.Text.Utf8
import Std.Data.ExtTreeSet

/-!
# Probe settings

Which sources are switched off and where the files of a host lie. Settings start from the built-in
ones or from an environment, and are then changed one at a time.

A source is switched off under its lower-case name. `disable` lowers the case of the name it is
given, while an environment names a source in upper case at the end of a variable; both meet in one
set of names that is looked up as it is.
-/

set_option autoImplicit false
set_option relaxedAutoImplicit false

namespace HostProfile

/-- A file path or a part of one. It need not be text. -/
abbrev PathBytes := List UInt8

/-- The variables of a process and their values. -/
abbrev Environment := String → Option (List UInt8)

/-- Settings of all probes. -/
structure Config where
  /-- Names of the sources that are switched off. -/
  disabled : Std.ExtTreeSet String
  /-- Where the file on the processors lies. -/
  cpuinfoPath : PathBytes
  /-- Where the tree of device attributes starts. -/
  sysfsRoot : PathBytes

namespace Config

/-- The sources that an environment can switch off. -/
def sourceNames : List String :=
  ["topology", "system_info", "sysctl", "registry", "cpuinfo", "sysfs", "cpuid", "affinity",
    "online", "runtime", "memory", "firmware", "driver", "display", "d3d9", "vulkan", "iokit"]

/-- The settings of a live system: nothing is switched off. -/
def standard : Config :=
  { disabled := ∅
    cpuinfoPath := Text.encode "/proc/cpuinfo"
    sysfsRoot := Text.encode "/sys" }

/-- Switches a source off, named in any mix of cases. -/
def disable (config : Config) (name : String) : Config :=
  { config with disabled := config.disabled.insert (name.map Char.toLower) }

/-- Whether a source is switched off, named exactly. -/
def isDisabled (config : Config) (name : String) : Bool :=
  config.disabled.contains name

/-- Moves the file on the processors. -/
def withCpuinfoPath (config : Config) (path : PathBytes) : Config :=
  { config with cpuinfoPath := path }

/-- Moves the tree of device attributes. -/
def withSysfsRoot (config : Config) (root : PathBytes) : Config :=
  { config with sysfsRoot := root }

/-! ### Changes -/

/-- A change of the settings. -/
inductive Change where
  /-- Switches a source off. -/
  | disable (name : String)
  /-- Moves the file on the processors. -/
  | cpuinfoPath (path : PathBytes)
  /-- Moves the tree of device attributes. -/
  | sysfsRoot (root : PathBytes)
  deriving DecidableEq, Repr

/-- The settings after a change. -/
def change (config : Config) : Change → Config
  | .disable name => config.disable name
  | .cpuinfoPath path => config.withCpuinfoPath path
  | .sysfsRoot root => config.withSysfsRoot root

/-- The settings after several changes, made in order. -/
def changeAll (config : Config) (changes : List Change) : Config :=
  changes.foldl change config

/-! ### Settings from an environment -/

/-- The variable that switches a source off. -/
def switchVariable (name : String) : String :=
  "STRATA_SYSINFO_DISABLE_" ++ name.map Char.toUpper

/-- Whether the value of a variable says yes: the digit one, or the word for true in any mix of
cases. -/
def saysYes (value : List UInt8) : Bool :=
  match Text.decode? value with
  | some text => text == "1" || text.map Char.toLower == "true"
  | none => false

/-- Whether a variable is set and says yes. -/
def flag (env : Environment) (name : String) : Bool :=
  (env name).any saysYes

/-- The path in a variable that is set and not empty. -/
def path? (env : Environment) (name : String) : Option PathBytes :=
  (env name).filter fun value => !value.isEmpty

/-- The settings an environment asks for. -/
def ofEnvironment (env : Environment) : Config :=
  { disabled := .ofList (sourceNames.filter fun name => flag env (switchVariable name))
    cpuinfoPath := (path? env "STRATA_SYSINFO_CPUINFO_PATH").getD standard.cpuinfoPath
    sysfsRoot := (path? env "STRATA_SYSINFO_SYSFS_ROOT").getD standard.sysfsRoot }

/-- The sources that are switched off, of those an environment can switch off and in that order. -/
def disabledSources (config : Config) : List String :=
  sourceNames.filter config.isDisabled

theorem isDisabled_disable (config : Config) (name query : String) :
    (config.disable name).isDisabled query =
      (query == name.map Char.toLower || config.isDisabled query) := by
  rw [Bool.eq_iff_iff]
  simp [isDisabled, disable, Std.ExtTreeSet.contains_insert, @eq_comm _ (name.map Char.toLower)]

theorem isDisabled_ofEnvironment (env : Environment) (query : String) :
    (ofEnvironment env).isDisabled query =
      (sourceNames.contains query && flag env (switchVariable query)) := by
  rw [Bool.eq_iff_iff]
  simp [isDisabled, ofEnvironment]

end Config

end HostProfile
