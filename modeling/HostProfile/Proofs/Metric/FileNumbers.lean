import HostProfile.Proofs.CpuInfo.Sockets
import HostProfile.Proofs.Metric.Warning

/-!
# Numbers from the processor information file

The counts and the signature that are read off the processor information file are integers there and
32-bit words here, the core count after a sum that has to stay within the 64-bit integers. A word
holds an integer that is below the word size, and zero for a negative or missing one; of a larger
integer it holds the remainder, so a core count or a family may come out as a small number that the
file does not have (`file_numbers_in_words`).
-/

set_option autoImplicit false
set_option relaxedAutoImplicit false

namespace HostProfile

open Happening Probing

namespace CpuInfo

/-- The integer for the family of the first processor, zero if the file does not tell: on ARM the
architecture version, which may stand in the processor's name. -/
def familyNumber (file : CpuInfo) : Architecture → Int
  | .arm => (((file.int? 0 "CPU architecture").filter (0 < ·)) <|>
      (file.value? 0 "Processor").bind armVersion?).getD 0
  | .x86 | .x64 => (file.int? 0 "cpu family").getD 0

/-- The integer for the model or the stepping of the first processor, zero if the file does not
tell. Files on ARM do not have them in this form. -/
def ownNumber (file : CpuInfo) (key : String) : Architecture → Int
  | .arm => 0
  | .x86 | .x64 => (file.int? 0 key).getD 0

/-- A signature holds the integers of the file for the first processor. -/
structure SignedBy (file : CpuInfo) (architecture : Architecture) (s : Signature) : Prop where
  family : InWord (file.familyNumber architecture) s.family
  model : InWord (file.ownNumber "model" architecture) s.model
  stepping : InWord (file.ownNumber "stepping" architecture) s.stepping

theorem signedBy_fileSignature (file : CpuInfo) (architecture : Architecture) :
    file.SignedBy architecture (Metric.fileSignature file architecture) := by
  cases architecture <;> exact ⟨inWord_word _, inWord_word _, inWord_word _⟩

end CpuInfo

namespace Metric

variable {config : Config} {architecture : Architecture} {transcript : List Happening}
  {outcome : Outcome Signature}

/-- A signature that is resolved from the file is that of a file which the host answered with. -/
theorem exists_file_of_resolved
    (h : (Metric.signature.run config architecture).Unfolds transcript outcome)
    (hresolved : .logged (.probed "cpu_signature" "cpuinfo" .resolved) ∈ transcript) :
    ∃ file, .asked ⟨.cpuinfo, .ok file⟩ ∈ transcript ∧
      outcome = .ok (fileSignature file architecture) ∧
      0 < (fileSignature file architecture).family := by
  have hremarks : ∀ probe ∈ Kind.signature.chain.probes, ∀ run found,
      (probe.attempt architecture).run.Unfolds run found →
        ∀ event, .logged event ∈ run → event.IsRemark :=
    fun _ hprobe _ _ ↦ Kind.isRemark_of_mem_probe hprobe
  obtain ⟨probe, hprobe, hname, -, sofar, run, rfl, hrun, s, hs, husable⟩ :=
    Chain.resolved_of_mem hremarks h hresolved
  have hnames : probe = SignatureProbe.cpuinfo := by
    simp only [Kind.chain, signature, List.mem_cons, List.not_mem_nil, or_false] at hprobe
    obtain rfl | rfl | rfl | rfl := hprobe
    · exact absurd hname (by decide)
    · exact absurd hname (by decide)
    · exact absurd hname (by decide)
    · rfl
  subst hnames
  obtain ⟨error, herror, -⟩ | ⟨before, file, after, rfl, hasked, hrest⟩ :=
    Attempt.unfolds_bind hrun
  · rw [hs] at herror
    cases herror
  · obtain ⟨rfl, rfl⟩ := unfolds_pure_iff.mp hrest
    cases hs
    cases hasked with
    | ask _ _ hdone =>
      cases hdone
      exact ⟨file, by simp, rfl, of_decide_eq_true husable⟩

/-- The core count of a file is the sum over its sockets in a word, if the sum is a 64-bit integer;
and whatever the host answers, a signature that is resolved from the file holds the integers of a
file that the host answered with, each of them in a word. -/
theorem file_numbers_in_words (counted : CpuInfo) (config : Config) (architecture : Architecture)
    (transcript : List Happening) (outcome : Outcome Signature) :
    (Text.inInt64Range counted.coreSum = true →
        CpuInfo.InWord counted.coreSum counted.physicalCpus) ∧
      ((signature.run config architecture).Unfolds transcript outcome →
        .logged (.probed "cpu_signature" "cpuinfo" .resolved) ∈ transcript →
        ∃ file s, .asked ⟨.cpuinfo, .ok file⟩ ∈ transcript ∧ outcome = .ok s ∧ 0 < s.family ∧
          file.SignedBy architecture s) := by
  constructor
  · intro hrange
    rw [CpuInfo.physicalCpus_eq_word hrange]
    exact CpuInfo.inWord_word _
  · intro h hresolved
    obtain ⟨file, hasked, houtcome, hfamily⟩ := exists_file_of_resolved h hresolved
    exact ⟨file, _, hasked, houtcome, hfamily, file.signedBy_fileSignature architecture⟩

end Metric

/-- A host that has a processor information file and nothing else. -/
def Source.ofFile (file : CpuInfo) : Source
  | .cpuinfo => .ok file
  | _ => .error .unavailable

namespace Metric

/-- A processor whose file tells eight cores and a negative stepping. -/
theorem file_numbers_in_words_desktop :
    let file := CpuInfo.parse
      "cpu family : 6\nmodel : 158\nstepping : -1\nphysical id : 0\ncpu cores : 8\n"
    let source := Source.ofFile file
    let run := signature.run .standard .x64
    (Text.inInt64Range file.coreSum = true ∧ file.physicalCpus = 8 ∧
        CpuInfo.InWord file.coreSum file.physicalCpus) ∧
      .logged (.probed "cpu_signature" "cpuinfo" .resolved) ∈ run.transcript source ∧
      (∃ file s, .asked ⟨.cpuinfo, .ok file⟩ ∈ run.transcript source ∧
        run.value source = .ok s ∧ 0 < s.family ∧ file.SignedBy .x64 s) ∧
      run.value source = .ok ⟨6, 158, 0⟩ := by
  intro file source run
  have hrange : Text.inInt64Range file.coreSum = true := by decide +kernel
  have hresolved :
      .logged (.probed "cpu_signature" "cpuinfo" .resolved) ∈ run.transcript source := by
    rw [← mem_events_iff, events_transcript]
    decide +kernel
  obtain ⟨hcores, hsignature⟩ :=
    file_numbers_in_words file .standard .x64 (run.transcript source) (run.value source)
  exact ⟨⟨hrange, by decide +kernel, hcores hrange⟩, hresolved,
    hsignature (unfolds_transcript run source) hresolved, by decide +kernel⟩

/-- One core is counted of more than a word can hold, and a family of which a word holds the
remainder is taken for that family. -/
theorem file_numbers_wrap :
    let crowded := CpuInfo.parse "physical id : 0\ncpu cores : 4294967297\n"
    let distant := CpuInfo.parse "cpu family : 4294967302\nmodel : 158\nstepping : 10\n"
    let source := Source.ofFile distant
    let run := signature.run .standard .x64
    crowded.coreSum = 4294967297 ∧ crowded.physicalCpus = 1 ∧
      .probed "cpu_signature" "cpuinfo" .resolved ∈ run.log source ∧
      distant.familyNumber .x64 = 4294967302 ∧ run.value source = .ok ⟨6, 158, 10⟩ := by
  decide +kernel

end Metric

end HostProfile
