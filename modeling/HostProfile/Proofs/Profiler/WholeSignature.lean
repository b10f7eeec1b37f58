import HostProfile.Proofs.Metric.SignatureSources
import HostProfile.Proofs.Profiler.LogDiscipline

/-!
# The signature of a profiler

The search for the signature asks nothing twice. So whatever a host answers while a profiler is
started, the answers are those of some source, and the signature that the profiler goes on to report
is that of the first facility of the source to tell a family, all zero if there is none
(`signature_from_one_facility`).
-/

set_option autoImplicit false
set_option relaxedAutoImplicit false

namespace HostProfile

open Happening Probing

namespace Profiler

variable {config : Config} {architecture : Architecture} {opening : List Happening}
  {profiler : Profiler}

/-- An exchange in which a file, if one is told, fits. -/
def FitsIn (architecture : Architecture) : Exchange → Prop
  | ⟨.cpuinfo, outcome⟩ => ∀ file, outcome = .ok file → file.Fits architecture
  | _ => True

/-- The search for a signature at a start is a search on a source, and what it comes to is kept. -/
theorem exists_signature_source (h : (start config architecture).Unfolds opening profiler)
    (hfits : ∀ file, .asked ⟨.cpuinfo, .ok file⟩ ∈ opening → file.Fits architecture) :
    ∃ source : Source, (Metric.signature.run config architecture).transcript source <:+: opening ∧
      (∀ file, source .cpuinfo = .ok file → file.Fits architecture) ∧
      profiler.signature =
        ((Metric.signature.run config architecture).value source).toOption.getD .unknown := by
  obtain ⟨ofLogical, ofPhysical, ofSignature, ofCache, logical, physical, found, cache, -, -,
    hsignature, -, rfl, rfl⟩ := exists_searches_of_start h
  have hasked : ∀ exchange, .asked exchange ∈ ofSignature → FitsIn architecture exchange := by
    rintro ⟨query, outcome⟩ hmem
    cases query with
    | cpuinfo =>
      rintro file rfl
      exact hfits file (by simp [hmem])
    | _ => trivial
  have hbase (query : Query) : FitsIn architecture (Source.silent.exchange query) := by
    cases query with
    | cpuinfo => exact fun file hfile ↦ by cases hfile
    | _ => trivial
  obtain ⟨source, rfl, rfl, hsource⟩ :=
    Metric.Kind.exists_source_of_find hsignature hbase hasked
  refine ⟨source, ?_, hsource .cpuinfo, rfl⟩
  exact ((List.prefix_append _ _).isInfix.trans (List.suffix_append ofPhysical _).isInfix).trans
    (List.suffix_append ofLogical _).isInfix

/-- On every source the chain comes to the signature of the first facility to tell a family, and to
no data if there is none; and a profiler, whatever its host answers, has the signature that the
chain comes to on a source with the same answers, or all zero, and keeps saying so over its life. -/
theorem signature_from_one_facility (config : Config) (architecture : Architecture) :
    (∀ source : Source, (∀ file, source .cpuinfo = .ok file → file.Fits architecture) →
      Identifier.Decides source config architecture
        ((Metric.signature.run config architecture).value source)) ∧
    ∀ (opening : List Happening) (episodes : List Episode) (profiler : Profiler),
      Life config architecture opening episodes profiler →
      (∀ file, .asked ⟨.cpuinfo, .ok file⟩ ∈ opening → file.Fits architecture) →
      ∃ source : Source, (Metric.signature.run config architecture).transcript source <:+: opening ∧
        Identifier.Decides source config architecture
          ((Metric.signature.run config architecture).value source) ∧
        (∀ s, Identifier.TellsFirst source config architecture s → profiler.signature = s) ∧
        (Identifier.TellsNone source config architecture → profiler.signature = ⟨0, 0, 0⟩) ∧
        ∀ episode ∈ episodes, episode.accessor.Repeats profiler episode.answer := by
  refine ⟨fun source ↦ Identifier.decides_signature, fun opening episodes profiler hlife hfits ↦ ?_⟩
  obtain ⟨source, hsearch, hsource, hsignature⟩ :=
    exists_signature_source hlife.unfolds_opening hfits
  have hdecides : Identifier.Decides source config architecture
      ((Metric.signature.run config architecture).value source) :=
    Identifier.decides_signature hsource
  change profiler.signature = _ at hsignature
  refine ⟨source, hsearch, hdecides, fun s hfirst ↦ ?_, fun hnone ↦ ?_,
    fun episode hmem ↦ hlife.repeats_of_mem hmem⟩
  · rw [hsignature, (hdecides.found s).mpr hfirst]
    rfl
  · rw [hsignature, (hdecides.missed .noData).mpr ⟨rfl, hnone⟩]
    rfl

end Profiler

/-- A host whose processor record, kernel parameters and file tell different things of its
processor. -/
def Source.atOdds : Source
  | .systemInfo => .ok ⟨4, 0, 0x9E0A⟩
  | .parameter "machdep.cpu.family" => .ok 6
  | .parameter "machdep.cpu.stepping" => .ok 3
  | .cpuinfo => .ok (.parse "cpu family: 15\nmodel: 4\nstepping: 8\n")
  | _ => .error .unavailable

namespace Profiler

/-- The record tells no family, so the parameters decide, and their missing model is taken neither
from the record nor from the file. -/
theorem signature_from_one_facility_at_odds :
    let source := Source.atOdds
    let started := (start .standard .x64).value source
    let opening := (start .standard .x64).transcript source
    (∀ file, source .cpuinfo = .ok file → file.Fits .x64) ∧
      Identifier.Decides source .standard .x64
        ((Metric.signature.run .standard .x64).value source) ∧
      Life .standard .x64 opening [] started ∧
      (∀ file, .asked ⟨.cpuinfo, .ok file⟩ ∈ opening → file.Fits .x64) ∧
      (∃ other : Source, (Metric.signature.run .standard .x64).transcript other <:+: opening ∧
        Identifier.Decides other .standard .x64
          ((Metric.signature.run .standard .x64).value other) ∧
        (∀ s, Identifier.TellsFirst other .standard .x64 s → started.signature = s) ∧
        (Identifier.TellsNone other .standard .x64 → started.signature = ⟨0, 0, 0⟩) ∧
        ∀ episode ∈ ([] : List Episode), episode.accessor.Repeats started episode.answer) ∧
      started.signature = ⟨6, 0, 3⟩ := by
  intro source started opening
  have hfits : ∀ file, source .cpuinfo = .ok file → file.Fits .x64 := by
    intro file hfile
    cases hfile
    exact ⟨by decide +kernel, by decide +kernel, by decide +kernel⟩
  have hlife : Life .standard .x64 opening [] started := .start (unfolds_transcript _ source)
  have hasked : ∀ file, .asked ⟨.cpuinfo, .ok file⟩ ∈ opening → file.Fits .x64 := by
    intro file hmem
    obtain ⟨query, -, hexchange⟩ := asked_mem_transcript_iff.mp hmem
    cases hexchange
    exact hfits _ rfl
  obtain ⟨hchain, hprofiler⟩ := signature_from_one_facility .standard .x64
  exact ⟨hfits, hchain source hfits, hlife, hasked, hprofiler opening [] started hlife hasked,
    by decide +kernel⟩

end Profiler

end HostProfile
