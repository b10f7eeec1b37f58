import HostProfile.Proofs.CpuInfo.Cores
import HostProfile.Proofs.Metric.FileNumbers
import HostProfile.Proofs.Profiler.LogDiscipline

/-!
# Cores and processors of a profiler

Where a host answers with nothing but a processor information file, the counts of a profiler are
those of the file, with one processor and as many cores as processors standing in for counts that
the file does not tell or that are switched off (`counts_of_tellsOnly`). So there are no more cores
than processors where this is so in the file (`cores_within_processors`).
-/

set_option autoImplicit false
set_option relaxedAutoImplicit false

namespace HostProfile

open Happening Probing

variable {file : CpuInfo} {source : Source} {config : Config} {architecture : Architecture}

/-- An exchange with a host that answers with a processor information file and nothing else. -/
def Exchange.TellsOnly (file : CpuInfo) : Exchange → Prop
  | ⟨.cpuinfo, outcome⟩ => outcome = .ok file
  | ⟨_, outcome⟩ => ∃ error, outcome = .error error

/-- A count in the file, unless it is zero or the file is switched off. -/
def Config.fileCount? (config : Config) (count : UInt32) : Option UInt32 :=
  if config.isDisabled "cpuinfo" then none else (some count).filter (0 < ·)

theorem Source.tellsOnly_ofFile (file : CpuInfo) (query : Query) :
    ((Source.ofFile file).exchange query).TellsOnly file := by
  cases query with
  | cpuinfo => rfl
  | _ => exact ⟨.unavailable, rfl⟩

/-! ### The chains for the counts -/

namespace Metric

theorem exists_error_of_query {α : Type} {query : Query} (h : ∃ error, source query = .error error)
    (next : query.Answer → Attempt α) :
    ∃ error, (Attempt.query query >>= next).run.value source = .error error := by
  obtain ⟨error, herror⟩ := h
  have hquery := (Attempt.value_query query).trans herror
  exact ⟨error, Attempt.value_bind_of_error hquery next⟩

/-- The probe for the file finds its count. -/
theorem resolved?_fileCount (h : source .cpuinfo = .ok file)
    (count : CpuInfo → Architecture → UInt32) :
    (CountProbe.cpuinfo count).resolved? architecture source positive config =
      config.fileCount? (count file architecture) := by
  have hquery := (Attempt.value_query .cpuinfo).trans h
  have houtcome : (CountProbe.cpuinfo count).outcome architecture source =
      .ok (count file architecture) := Attempt.value_bind_of_ok hquery _
  rw [Probe.resolved?, Config.fileCount?, houtcome]
  rfl

theorem toOption_logicalCpus (h : ∀ query, (source.exchange query).TellsOnly file) :
    ((logicalCpus.run config architecture).value source).toOption =
      config.fileCount? (file.logicalCpus architecture) := by
  have hothers : ∀ probe ∈ logicalCpus.probes.take 3 ++ logicalCpus.probes.drop 4,
      ∃ error, probe.outcome architecture source = .error error := by
    simp only [logicalCpus, List.take_succ_cons, List.take_zero, List.drop_succ_cons,
      List.drop_zero, List.cons_append, List.nil_append, List.forall_mem_cons]
    exact ⟨exists_error_of_query (h .topology) _, exists_error_of_query (h .systemInfo) _,
      exists_error_of_query (h (.parameter _)) _, h .runtimeLogical, by simp⟩
  exact (Chain.found_of_others_error "logical_cpus" _ hothers).trans
    (resolved?_fileCount (h .cpuinfo) CpuInfo.logicalCpus)

theorem toOption_physicalCpus (h : ∀ query, (source.exchange query).TellsOnly file) :
    ((physicalCpus.run config architecture).value source).toOption =
      config.fileCount? file.physicalCpus := by
  have hothers : ∀ probe ∈ physicalCpus.probes.take 2 ++ physicalCpus.probes.drop 3,
      ∃ error, probe.outcome architecture source = .error error := by
    simp only [physicalCpus, List.take_succ_cons, List.take_zero, List.drop_succ_cons,
      List.drop_zero, List.cons_append, List.nil_append, List.forall_mem_cons]
    exact ⟨exists_error_of_query (h .topology) _, exists_error_of_query (h (.parameter _)) _,
      h .runtimePhysical, by simp⟩
  exact (Chain.found_of_others_error "physical_cpus" _ hothers).trans
    (resolved?_fileCount (h .cpuinfo) fun file _ ↦ file.physicalCpus)

end Metric

/-! ### The profiler -/

theorem Config.filter_fileCount? (count : UInt32) :
    (config.fileCount? count).filter (0 < ·) = config.fileCount? count := by
  unfold Config.fileCount?
  split
  · rfl
  · rw [Option.filter_filter]
    simp

theorem Config.fileCount?_eq_some_iff {count found : UInt32} :
    config.fileCount? count = some found ↔
      config.isDisabled "cpuinfo" = false ∧ 0 < count ∧ count = found := by
  unfold Config.fileCount?
  cases config.isDisabled "cpuinfo" with
  | true => simp
  | false =>
    rw [if_neg Bool.false_ne_true, Option.filter_eq_some_iff]
    constructor
    · rintro ⟨hsome, hpositive⟩
      cases hsome
      exact ⟨rfl, of_decide_eq_true hpositive, rfl⟩
    · rintro ⟨-, hpositive, rfl⟩
      exact ⟨rfl, decide_eq_true hpositive⟩

namespace Profiler

variable {opening : List Happening} {episodes : List Episode} {profiler : Profiler}

/-- The counts of a profiler on a host that answers with a file only are those of the file, as far
as it tells them and may be asked. -/
theorem counts_of_tellsOnly (h : (start config architecture).Unfolds opening profiler)
    (honly : ∀ exchange, .asked exchange ∈ opening → exchange.TellsOnly file) :
    profiler.logicalCpus = (config.fileCount? (file.logicalCpus architecture)).getD 1 ∧
      profiler.physicalCpus =
        (config.fileCount? file.physicalCpus).getD profiler.logicalCpus := by
  obtain ⟨ofLogical, ofPhysical, ofSignature, ofCache, logical, physical, found, cache, hlogical,
    hphysical, -, -, rfl, rfl⟩ := exists_searches_of_start h
  have hbase := Source.tellsOnly_ofFile file
  obtain ⟨first, -, rfl, hfirst⟩ := Metric.Kind.exists_source_of_find hlogical hbase
    fun exchange hasked ↦ honly exchange (by simp [hasked])
  obtain ⟨second, -, rfl, hsecond⟩ := Metric.Kind.exists_source_of_find hphysical hbase
    fun exchange hasked ↦ honly exchange (by simp [hasked])
  constructor
  · exact congrArg (·.getD 1) (Metric.toOption_logicalCpus hfirst)
  · dsimp only
    rw [Metric.Kind.find, Metric.Kind.find, Metric.toOption_logicalCpus hfirst,
      Metric.toOption_physicalCpus hsecond, Config.filter_fileCount?]

/-- A profiler has a core and no more cores than processors, if the file that its host answers with
has enough processors for its cores. -/
theorem cores_le_processors (h : (start config architecture).Unfolds opening profiler)
    (honly : ∀ exchange, .asked exchange ∈ opening → exchange.TellsOnly file)
    (hample : file.Ample architecture) (htold : file.toldCores ≤ 9223372036854775807) :
    1 ≤ profiler.physicalCpus ∧ profiler.physicalCpus ≤ profiler.logicalCpus := by
  obtain ⟨hlogical, hphysical⟩ := counts_of_tellsOnly h honly
  cases hcores : config.fileCount? file.physicalCpus with
  | some cores =>
    obtain ⟨hon, hpositive, rfl⟩ := Config.fileCount?_eq_some_iff.mp hcores
    have hle := hample.physicalCpus_le (CpuInfo.coreSum_ge_of_toldCores_le htold)
    have hprocessors : config.fileCount? (file.logicalCpus architecture) =
        some (file.logicalCpus architecture) :=
      Config.fileCount?_eq_some_iff.mpr ⟨hon, UInt32.lt_of_lt_of_le hpositive hle, rfl⟩
    rw [hphysical, hcores, hlogical, hprocessors]
    exact ⟨hpositive, hle⟩
  | none =>
    rw [hphysical, hcores]
    refine ⟨?_, UInt32.le_refl _⟩
    rw [Option.getD_none, hlogical]
    cases hprocessors : config.fileCount? (file.logicalCpus architecture) with
    | none => exact UInt32.le_refl 1
    | some processors =>
      obtain ⟨-, hpositive, rfl⟩ := Config.fileCount?_eq_some_iff.mp hprocessors
      exact hpositive

/-- What there is to know of the counts of a file whose cores add up to a 64-bit integer; and a
profiler on a host that answers with such a file only has a core and no more cores than processors,
as it keeps saying over its life, if the file has enough processors for its cores. -/
theorem cores_within_processors (h : file.toldCores ≤ 9223372036854775807) :
    file.Counted ∧
      (file.Ample architecture → Life config architecture opening episodes profiler →
        (∀ exchange, .asked exchange ∈ opening → exchange.TellsOnly file) →
        1 ≤ profiler.physicalCpus ∧ profiler.physicalCpus ≤ profiler.logicalCpus ∧
          ∀ episode ∈ episodes, episode.accessor.Repeats profiler episode.answer) := by
  refine ⟨CpuInfo.counted_of_toldCores_le h, fun hample hlife honly ↦ ?_⟩
  obtain ⟨hpositive, hle⟩ := cores_le_processors hlife.unfolds_opening honly hample h
  exact ⟨hpositive, hle, fun episode hmem ↦ hlife.repeats_of_mem hmem⟩

end Profiler

/-- The section of one thread of a package. -/
def Section.ofThread (processor socket cores : String) : Section :=
  ((∅ : Section).insert "processor" processor).insert "physical id" socket
    |>.insert "cpu cores" cores

namespace Profiler

/-- Two packages whose threads take turns, the first with two cores and the second with one core of
two threads. -/
theorem cores_within_processors_interleaved :
    let file : CpuInfo := ⟨[.ofThread "0" "0" "2", .ofThread "1" "1" "1", .ofThread "2" "0" "2",
      .ofThread "3" "1" "1"]⟩
    let source := Source.ofFile file
    let started := (start .standard .arm).value source
    let opening := (start .standard .arm).transcript source
    file.toldCores ≤ 9223372036854775807 ∧
      file.Lists [⟨0, 2, 1⟩, ⟨1, 1, 2⟩] ∧ file.Counted ∧
      (file.Ample .arm ∧ Life .standard .arm opening [] started ∧
        ∀ exchange, .asked exchange ∈ opening → exchange.TellsOnly file) ∧
      1 ≤ started.physicalCpus ∧ started.physicalCpus ≤ started.logicalCpus := by
  intro file source started opening
  have htold : file.toldCores ≤ 9223372036854775807 := by decide +kernel
  have hlists : file.Lists [⟨0, 2, 1⟩, ⟨1, 1, 2⟩] :=
    ⟨by decide +kernel, by decide +kernel, by decide +kernel, by decide +kernel⟩
  have hample : file.Ample .arm := hlists.ample (by decide +kernel) .arm
  have hlife : Life .standard .arm opening [] started := .start (unfolds_transcript _ source)
  have honly : ∀ exchange, .asked exchange ∈ opening → exchange.TellsOnly file := by
    intro exchange hasked
    obtain ⟨query, -, rfl⟩ := asked_mem_transcript_iff.mp hasked
    exact Source.tellsOnly_ofFile file query
  obtain ⟨hcounted, hprofiler⟩ := cores_within_processors htold
  obtain ⟨hpositive, hle, -⟩ := hprofiler hample hlife honly
  exact ⟨htold, hlists, hcounted, ⟨hample, hlife, honly⟩, hpositive, hle⟩

end Profiler

end HostProfile
