import HostProfile.Metric.Clock
import HostProfile.Metric.Graphics
import HostProfile.Metric.Machine
import HostProfile.Proofs.Chain.Runner
import HostProfile.Proofs.Probing.Agenda
import Mathlib.Data.List.Flatten
import Mathlib.Data.List.Forall2

/-!
# The chains as a family

There are eleven metrics, and what is true of all their chains is said here once. `Kind.find` is the
computation that finds a metric, and `Kind.agenda` lists the probes of its chain by name, each with
the questions it may ask in their order. The agenda is checked against the chains themselves
(`keeps_agenda`): every probe keeps to its entry, all questions of an entry go to the facility after
which the probe is named (`owner_of_mem_agenda`), and a probe named after a facility comes to
nothing on a host without it.
-/

set_option autoImplicit false
set_option relaxedAutoImplicit false

namespace HostProfile

namespace Metric

/-- The metrics that are found by a chain. -/
inductive Kind where
  | logicalCpus
  | physicalCpus
  | currentCpus
  | vendor
  | signature
  | cacheSize
  | maxSpeed
  | currentSpeed
  | memory
  | model
  | adapter
  deriving DecidableEq, Repr

namespace Kind

/-- The values of a metric. -/
abbrev Value : Kind → Type
  | .logicalCpus | .physicalCpus | .currentCpus | .maxSpeed | .currentSpeed => UInt32
  | .vendor | .model => String
  | .signature => Signature
  | .cacheSize => UInt64
  | .memory => Int64
  | .adapter => Adapter

/-- Finds a metric. The vendor is always found. -/
def find (config : Config) (architecture : Architecture) :
    (kind : Kind) → Probing (Outcome kind.Value)
  | .logicalCpus => Metric.logicalCpus.run config architecture
  | .physicalCpus => Metric.physicalCpus.run config architecture
  | .currentCpus => Metric.currentCpus.run config architecture
  | .vendor => .ok <$> Metric.vendor config architecture
  | .signature => Metric.signature.run config architecture
  | .cacheSize => Metric.cacheSize config architecture
  | .maxSpeed => Metric.maxSpeed.run config architecture
  | .currentSpeed => Metric.currentSpeed.run config architecture
  | .memory => Metric.memory.run config architecture
  | .model => Metric.model config architecture
  | .adapter => Metric.adapter.run config architecture

/-- The probes of a metric by name, each with the questions it may ask. -/
def agenda : Kind → List (String × List Query)
  | .logicalCpus =>
    [("topology", [.topology]), ("system_info", [.systemInfo]),
      ("sysctl", [.parameter "hw.logicalcpu_max"]), ("cpuinfo", [.cpuinfo]),
      ("runtime", [.runtimeLogical])]
  | .physicalCpus =>
    [("topology", [.topology]), ("sysctl", [.parameter "hw.physicalcpu_max"]),
      ("cpuinfo", [.cpuinfo]), ("runtime", [.runtimePhysical])]
  | .currentCpus =>
    [("affinity", [.affinity]), ("sysctl", [.parameter "hw.ncpu"]), ("online", [.online])]
  | .vendor => [("cpuid", [.cpuid Leaf.vendor]), ("architecture", [])]
  | .signature =>
    [("cpuid", [.cpuid Leaf.vendor, .cpuid Leaf.version]), ("system_info", [.systemInfo]),
      ("sysctl", [.parameter "machdep.cpu.family", .parameter "machdep.cpu.model",
        .parameter "machdep.cpu.stepping"]),
      ("cpuinfo", [.cpuinfo])]
  | .cacheSize =>
    [("topology", [.topology]),
      ("sysctl", [.parameter "hw.l3cachesize", .parameter "hw.l2cachesize"]),
      ("cpuinfo", [.cpuinfo]), ("cpuid", [.cpuid Leaf.extended, .cpuid Leaf.secondLevelCache])]
  | .maxSpeed =>
    [("sysctl", [.parameter "hw.cpufrequency_max"]), ("registry", [.registryMhz]),
      ("sysfs", [.frequencyKhz .maximum]), ("cpuinfo", [.cpuinfo])]
  | .currentSpeed =>
    [("sysctl", [.parameter "hw.cpufrequency"]), ("sysfs", [.frequencyKhz .current])]
  | .memory => [("memory", [.memory])]
  | .model => [("sysctl", [.textParameter "hw.model"]), ("firmware", [.firmware])]
  | .adapter =>
    [("driver", [.adapter]),
      ("display", [.displayProperty .vendorId, .displayProperty .deviceId,
        .displayProperty .model, .displayName])]

/-- What the probes of a metric come to. -/
abbrev Found : Kind → Type
  | .logicalCpus | .physicalCpus | .currentCpus | .maxSpeed | .currentSpeed => UInt32
  | .vendor | .model => String
  | .signature => Signature
  | .cacheSize => CacheLevels
  | .memory => Int64
  | .adapter => Adapter

/-- The chain of a metric. -/
def chain : (kind : Kind) → Chain kind.Found
  | .logicalCpus => Metric.logicalCpus
  | .physicalCpus => Metric.physicalCpus
  | .currentCpus => Metric.currentCpus
  | .vendor => vendorChain
  | .signature => Metric.signature
  | .cacheSize => cacheLevels
  | .maxSpeed => Metric.maxSpeed
  | .currentSpeed => Metric.currentSpeed
  | .memory => Metric.memory
  | .model => modelChain
  | .adapter => Metric.adapter

/-- The metric as it follows from what its chain came to. -/
def finish (architecture : Architecture) : (kind : Kind) → Outcome kind.Found → Outcome kind.Value
  | .vendor => fun outcome ↦ .ok (outcome.toOption.getD architecture.vendorFallback)
  | .cacheSize => Except.map CacheLevels.preferred
  | .model => Except.map Text.trimmed
  | .logicalCpus | .physicalCpus | .currentCpus | .signature | .maxSpeed | .currentSpeed
  | .memory | .adapter => id

/-- A metric is found by running its chain. -/
theorem find_eq (config : Config) (architecture : Architecture) (kind : Kind) :
    kind.find config architecture =
      kind.finish architecture <$> kind.chain.run config architecture := by
  cases kind
  case vendor => simp only [find, finish, chain, Metric.vendor, bind_pure_comp, Functor.map_map]
  case cacheSize => simp only [find, finish, chain, Metric.cacheSize, bind_pure_comp]
  case model => simp only [find, finish, chain, Metric.model, bind_pure_comp]
  all_goals exact (id_map _).symm

/-- All questions of an entry go to the facility after which the probe is named. -/
theorem owner_of_mem_agenda {kind : Kind} {entry : String × List Query} (h : entry ∈ kind.agenda)
    {q : Query} (hq : q ∈ entry.2) : q.owner = entry.1 := by
  have hall : ∀ entry ∈ kind.agenda, ∀ q ∈ entry.2, q.owner = entry.1 := by
    cases kind <;> simp [agenda, Query.owner]
  exact hall entry h q hq

end Kind

/-! ### The attempts keep to their facilities -/

open Attempt

theorem keepsTo_smallParameter (name : String) :
    (smallParameter name).KeepsTo "sysctl" [.parameter name] :=
  (keepsTo_query (.parameter name)).bind_nil fun _ ↦ follows_ofOutcome [] _

theorem keepsTo_parameterMhz (name : String) :
    (parameterMhz name).KeepsTo "sysctl" [.parameter name] :=
  (keepsTo_query (.parameter name)).bind_nil fun _ ↦ follows_ofOutcome [] _

theorem keepsTo_attributeMhz (which : Frequency) :
    (attributeMhz which).KeepsTo "sysfs" [.frequencyKhz which] :=
  (keepsTo_query (.frequencyKhz which)).bind_nil fun _ ↦ follows_ofOutcome [] _

theorem keepsTo_cpuid (architecture : Architecture) (leaf : UInt32) :
    (cpuid architecture leaf).KeepsTo "cpuid" [.cpuid leaf] := by
  unfold cpuid
  split
  · exact keepsTo_query (.cpuid leaf)
  · exact keepsTo_throw _ _

theorem keepsTo_coveredLeaf (architecture : Architecture) (first leaf : UInt32) :
    (coveredLeaf architecture first leaf).KeepsTo "cpuid" [.cpuid first, .cpuid leaf] := by
  refine (keepsTo_cpuid architecture first).bind fun registers ↦ ?_
  dsimp only
  split
  · exact follows_throw [.cpuid leaf] .unavailable
  · exact (keepsTo_cpuid architecture leaf).follows

theorem keepsTo_fileNumber (architecture : Architecture) (key complaint : String) :
    (fileNumber architecture key complaint).KeepsTo "cpuinfo" [.cpuinfo] := by
  unfold fileNumber
  dsimp only
  split
  · exact keepsTo_throw "cpuinfo" [.cpuinfo]
  · refine (keepsTo_query .cpuinfo).bind_nil fun file ↦ ?_
    cases file.int? 0 key with
    | some n => exact follows_pure [] n
    | none => exact follows_throw [] _

theorem keepsTo_parameterSignature :
    parameterSignature.KeepsTo "sysctl" [.parameter "machdep.cpu.family",
      .parameter "machdep.cpu.model", .parameter "machdep.cpu.stepping"] := by
  refine (keepsTo_smallParameter _).bind fun family ↦ follows_bind (follows_observe _) fun model ↦
    follows_bind_nil (follows_observe _) fun stepping ↦ ?_
  exact follows_bind_nil (follows_ofOutcome [] _) fun _ ↦
    follows_bind_nil (follows_ofOutcome [] _) fun _ ↦ follows_pure [] _

/-- Where neither parameter is answered, there are no cache levels. -/
theorem keepsTo_parameterLevels :
    parameterLevels.KeepsTo "sysctl"
      [.parameter "hw.l3cachesize", .parameter "hw.l2cachesize"] where
  follows := follows_bind (follows_observe _) fun _ ↦
    follows_bind_nil (follows_observe _) fun _ ↦ follows_ofOutcome [] _
  dependsOn := by
    intro source hlacks
    have hthird := hlacks (.parameter "hw.l3cachesize") rfl
    have hsecond := hlacks (.parameter "hw.l2cachesize") rfl
    simp [parameterLevels, Attempt.observe, Attempt.ofOutcome, Probing.query, Probing.value,
      Probing.log, hthird, hsecond, eitherLevel]

/-- A property that cannot be read is remarked on, unless there are no properties at all. -/
theorem keepsTo_lookup (property : DisplayProperty) :
    (lookup property).KeepsTo "display" [.displayProperty property] where
  follows := by
    refine follows_bind_nil (follows_observe _) fun outcome ↦ ?_
    rcases outcome with error | value
    · cases error with
      | unavailable => exact follows_throw [] _
      | noData | queryFailed origin reason =>
        exact follows_bind_nil (follows_write _ ⟨_, _, rfl⟩) fun _ ↦ follows_pure [] _
    · exact follows_pure [] _
  dependsOn := by
    intro source hlacks
    have hanswer := hlacks (.displayProperty property) rfl
    simp [lookup, Attempt.observe, Probing.query, Probing.value, Probing.log, hanswer]

theorem keepsTo_displayProperties :
    displayProperties.KeepsTo "display" [.displayProperty .vendorId, .displayProperty .deviceId,
      .displayProperty .model] :=
  (keepsTo_lookup _).bind fun _ ↦ follows_bind (keepsTo_lookup _).follows fun _ ↦
    follows_bind_nil (keepsTo_lookup _).follows fun _ ↦ follows_pure [] _

/-- The device name is asked for in any case, and there is an adapter only if something is told. -/
theorem keepsTo_displayAdapter :
    displayAdapter.KeepsTo "display" [.displayProperty .vendorId, .displayProperty .deviceId,
      .displayProperty .model, .displayName] where
  follows := by
    constructor
    · intro source
      have h := (keepsTo_displayProperties.follows.calls source).append
        (List.Sublist.refl [.displayName])
      simpa [displayAdapter, Probing.query, Probing.calls] using h
    · intro source event hevent
      have hproperties : event ∈ displayProperties.run.log source := by
        simpa [displayAdapter, Probing.query, Probing.log] using hevent
      exact keepsTo_displayProperties.follows.log source event hproperties
  dependsOn := by
    intro source hlacks
    obtain ⟨hvalue, hlog⟩ := keepsTo_displayProperties.dependsOn source hlacks
    have hname : (Probing.query .displayName).value source = .error .unavailable :=
      hlacks .displayName rfl
    constructor
    · simp only [displayAdapter, ExceptT.run_mk, Probing.value_bind, Probing.value_pure, hvalue,
        hname]
      rfl
    · simp only [displayAdapter, ExceptT.run_mk, Probing.log_bind, Probing.log_pure, hlog,
        Probing.query, Probing.log, List.append_nil]

/-! ### The probes keep to the agendas -/

open Probe

theorem keeps_asking (q : Query) : (Probe.asking q.owner q).Keeps (q.owner, [q]) :=
  keeps_of_keepsTo fun _ ↦ keepsTo_query q

theorem keeps_reading {α : Type} (q : Query) (read : Architecture → q.Answer → α) :
    (Probe.reading q.owner q read).Keeps (q.owner, [q]) :=
  keeps_of_keepsTo fun _ ↦ (keepsTo_query q).bind_nil fun _ ↦ follows_pure [] _

/-- The probes of every chain keep to its agenda, one after the other. -/
theorem keeps_agenda (kind : Kind) :
    List.Forall₂ Probe.Keeps kind.chain.probes kind.agenda := by
  cases kind with
  | logicalCpus =>
    exact .cons (keeps_reading .topology _) <|
      .cons (keeps_reading .systemInfo _) <|
      .cons (keeps_of_keepsTo fun _ ↦ keepsTo_smallParameter _) <|
      .cons (keeps_reading .cpuinfo _) <|
      .cons (keeps_asking .runtimeLogical) .nil
  | physicalCpus =>
    exact .cons (keeps_reading .topology _) <|
      .cons (keeps_of_keepsTo fun _ ↦ keepsTo_smallParameter _) <|
      .cons (keeps_reading .cpuinfo _) <|
      .cons (keeps_asking .runtimePhysical) .nil
  | currentCpus =>
    exact .cons (keeps_asking .affinity) <|
      .cons (keeps_of_keepsTo fun _ ↦ keepsTo_smallParameter _) <|
      .cons (keeps_asking .online) .nil
  | vendor =>
    refine .cons (keeps_of_keepsTo fun architecture ↦ ?_) <|
      .cons ⟨rfl, fun _ ↦ follows_pure [] _, fun h ↦ ?_⟩ .nil
    · exact (keepsTo_cpuid architecture _).bind_nil fun _ ↦ follows_pure [] _
    · simp [Query.facilities] at h
  | signature =>
    refine .cons (keeps_of_keepsTo fun architecture ↦ ?_) <|
      .cons (keeps_reading .systemInfo _) <|
      .cons (keeps_of_keepsTo fun _ ↦ keepsTo_parameterSignature) <|
      .cons (keeps_reading .cpuinfo _) .nil
    exact (keepsTo_coveredLeaf architecture _ _).bind_nil fun _ ↦ follows_pure [] _
  | cacheSize =>
    refine .cons (keeps_reading .topology _) <|
      .cons (keeps_of_keepsTo fun _ ↦ keepsTo_parameterLevels) <|
      .cons (keeps_of_keepsTo fun architecture ↦ ?_) <|
      .cons (keeps_of_keepsTo fun architecture ↦ ?_) .nil
    · exact (keepsTo_fileNumber architecture _ _).bind_nil fun _ ↦ follows_pure [] _
    · exact (keepsTo_coveredLeaf architecture _ _).bind_nil fun _ ↦ follows_pure [] _
  | maxSpeed =>
    refine .cons (keeps_of_keepsTo fun _ ↦ keepsTo_parameterMhz _) <|
      .cons (keeps_asking .registryMhz) <|
      .cons (keeps_of_keepsTo fun _ ↦ keepsTo_attributeMhz _) <|
      .cons (keeps_of_keepsTo fun architecture ↦ ?_) .nil
    exact (keepsTo_fileNumber architecture _ _).bind_nil fun _ ↦ follows_ofOutcome [] _
  | currentSpeed =>
    exact .cons (keeps_of_keepsTo fun _ ↦ keepsTo_parameterMhz _) <|
      .cons (keeps_of_keepsTo fun _ ↦ keepsTo_attributeMhz _) .nil
  | memory => exact .cons (keeps_asking .memory) .nil
  | model =>
    exact .cons (keeps_asking (.textParameter _)) <| .cons (keeps_asking .firmware) .nil
  | adapter =>
    exact .cons (keeps_asking .adapter) <|
      .cons (keeps_of_keepsTo fun _ ↦ keepsTo_displayAdapter) .nil

namespace Kind

/-! ### The questions of a run -/

/-- All questions that finding a metric may put, in the order in which it puts them. -/
def questions (kind : Kind) : List Query :=
  kind.agenda.flatMap Prod.snd

theorem nodup_questions (kind : Kind) : kind.questions.Nodup := by
  cases kind <;> simp [questions, agenda, Leaf.vendor, Leaf.version, Leaf.extended,
    Leaf.secondLevelCache]

theorem sublist_flatMap_agenda {α : Type} {probes : List (Probe α)}
    {entries : List (String × List Query)} (h : List.Forall₂ Probe.Keeps probes entries)
    (config : Config) (architecture : Architecture) (source : Source) :
    (probes.flatMap (Probe.reachedQuestions architecture source config)).Sublist
      (entries.flatMap Prod.snd) := by
  induction h with
  | nil => exact List.Sublist.refl _
  | cons hkeeps _ ih =>
    simp only [List.flatMap_cons]
    refine List.Sublist.append ?_ ih
    unfold Probe.reachedQuestions
    split
    · exact List.nil_sublist _
    · exact (hkeeps.follows architecture).calls source

/-- Finding a metric puts some of its questions, each once and in their order. -/
theorem calls_find_sublist (config : Config) (architecture : Architecture) (source : Source)
    (kind : Kind) : ((kind.find config architecture).calls source).Sublist kind.questions := by
  rw [find_eq, Probing.calls_map, Chain.run, Chain.calls_firstUsable]
  exact ((List.take_sublist _ _).flatMap _).trans
    (sublist_flatMap_agenda (keeps_agenda kind) config architecture source)

end Kind

end Metric

end HostProfile
