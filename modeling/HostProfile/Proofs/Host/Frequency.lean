import HostProfile.Proofs.Host.Firmware
import HostProfile.Proofs.Text.Numeral
import HostProfile.Proofs.Text.Unsigned

/-!
# Numbers in attribute files

An attribute file has a number if the text between its padding is an unsigned number; which blanks
and NULs stand around it, in which mix, makes no difference. A file that is missing is a source that
does not exist. Every other file, whether it cannot be read or has no number, is a failed query that
names the path (`NumberRead`).

The frequencies of the first processor are numbers in two such files (`frequency_files_read`).
-/

set_option autoImplicit false
set_option relaxedAutoImplicit false

namespace HostProfile.Linux

/-- What the number in an attribute file is, and what it is where there is none. -/
structure NumberRead (files : Files) (origin : String) (path : PathBytes)
    (outcome : Outcome UInt64) : Prop where
  /-- The number is what the text between the padding denotes. -/
  ok_iff : ∀ n, outcome = .ok n ↔ ∃ content core, files.read path = .ok content ∧
    Text.Core isPadding (Text.decodeLossy content).toList core ∧ Text.Denotes core n
  /-- The source does not exist where the file is not found, and only there. -/
  unavailable_iff : outcome = .error .unavailable ↔ files.read path = .error .notFound
  /-- In all other cases the query failed, for a reason that starts with the path. -/
  failed : ∀ error, outcome = .error error → error ≠ .unavailable →
    ∃ detail, error = .queryFailed origin (Text.decodeLossy path ++ ": " ++ detail)
  /-- A number that was written in decimal is read back, with any padding around it. -/
  written : ∀ (n : UInt64) (before after : List Char), before.all isPadding = true →
    after.all isPadding = true →
      files.read path =
        .ok (Text.encode (String.ofList (before ++ Text.decimal n.toNat ++ after))) →
        outcome = .ok n

section Attributes

variable {files : Files} {origin : String} {path : PathBytes}

theorem numericAttribute_of_content {content : List UInt8}
    (hread : files.read path = .ok content) :
    numericAttribute files origin path =
      (Text.readWord64 (Text.strip isPadding (Text.decodeLossy content).toList)).mapError
        fun error ↦ .queryFailed origin (Text.decodeLossy path ++ ": " ++ error.message) := by
  rw [numericAttribute, attributeText, hread]
  simp only [bind, Except.bind]
  cases Text.readWord64 (Text.strip isPadding (Text.decodeLossy content).toList) <;> rfl

theorem numericAttribute_of_error {error : ReadError} (hread : files.read path = .error error) :
    numericAttribute files origin path = .error (readFailure origin path error) := by
  unfold numericAttribute attributeText
  rw [hread]
  rfl

theorem mapError_eq_ok_iff {ε ε' α : Type} {f : ε → ε'} {outcome : Except ε α} {a : α} :
    outcome.mapError f = .ok a ↔ outcome = .ok a := by
  cases outcome <;> simp [Except.mapError]

theorem numericAttribute_eq_ok_iff {n : UInt64} : numericAttribute files origin path = .ok n ↔
    ∃ content core, files.read path = .ok content ∧
      Text.Core isPadding (Text.decodeLossy content).toList core ∧ Text.Denotes core n := by
  cases hread : files.read path with
  | error error => simp [numericAttribute_of_error hread]
  | ok content =>
    rw [numericAttribute_of_content hread, mapError_eq_ok_iff, Text.readWord64_eq_ok_iff]
    constructor
    · exact fun h ↦ ⟨content, _, rfl, Text.core_strip _ _, h⟩
    · rintro ⟨_, core, ⟨⟩, hcore, h⟩
      rwa [← Text.core_iff.mp hcore]

theorem isDigit_not_padding {c : Char} (h : c.isDigit = true) : isPadding c = false := by
  have hnul : (c == '\x00') = false := by
    rw [beq_eq_false_iff_ne]
    rintro rfl
    simp at h
  rw [isPadding, hnul, Bool.false_or, Text.isBlank_of_isDigit h]

/-- A number between padding is the core of the text. -/
theorem core_decimal (n : Nat) {before after : List Char} (hbefore : before.all isPadding = true)
    (hafter : after.all isPadding = true) :
    Text.Core isPadding (before ++ Text.decimal n ++ after) (Text.decimal n) where
  padded := ⟨before, after, rfl, hbefore, hafter⟩
  head := fun _ hc ↦
    isDigit_not_padding (Text.isDigit_of_mem_decimal (List.mem_of_mem_head? hc))
  last := fun _ hc ↦
    isDigit_not_padding (Text.isDigit_of_mem_decimal (List.mem_of_mem_getLast? hc))

theorem numberRead_numericAttribute (files : Files) (origin : String) (path : PathBytes) :
    NumberRead files origin path (numericAttribute files origin path) where
  ok_iff := fun n ↦ numericAttribute_eq_ok_iff
  unavailable_iff := by
    cases hread : files.read path with
    | ok content =>
      rw [numericAttribute_of_content hread]
      cases Text.readWord64 (Text.strip isPadding (Text.decodeLossy content).toList) <;>
        simp [Except.mapError]
    | error error =>
      rw [numericAttribute_of_error hread]
      by_cases hfound : error = .notFound
      · subst hfound
        simp [readFailure_notFound]
      · simp [readFailure_of_found hfound, hfound]
  failed := by
    intro failure hfails hfound
    cases hread : files.read path with
    | ok content =>
      rw [numericAttribute_of_content hread] at hfails
      cases hword : Text.readWord64 (Text.strip isPadding (Text.decodeLossy content).toList) with
      | ok n => rw [hword] at hfails; cases hfails
      | error error =>
        rw [hword] at hfails
        cases hfails
        exact ⟨error.message, rfl⟩
    | error error =>
      rw [numericAttribute_of_error hread] at hfails
      obtain rfl := Except.error.inj hfails
      have hpresent : error ≠ .notFound := by
        rintro rfl
        exact hfound (readFailure_notFound origin path)
      exact ⟨error.message, readFailure_of_found hpresent origin path⟩
  written := by
    intro n before after hbefore hafter hread
    refine numericAttribute_eq_ok_iff.mpr ⟨_, _, hread, ?_, Text.denotes_decimal n⟩
    rw [Text.decodeLossy_encode, String.toList_ofList]
    exact core_decimal n.toNat hbefore hafter

end Attributes

/-- The file with a frequency of the first processor, below the root of the attributes. -/
inductive FrequencyFile (root : PathBytes) : Frequency → PathBytes → Prop
  | maximum {path : PathBytes}
      (h : Joins root "devices/system/cpu/cpu0/cpufreq/cpuinfo_max_freq" path) :
      FrequencyFile root .maximum path
  | current {path : PathBytes}
      (h : Joins root "devices/system/cpu/cpu0/cpufreq/scaling_cur_freq" path) :
      FrequencyFile root .current path

theorem frequencyFile_attributePath (config : Config) (which : Frequency) :
    FrequencyFile config.sysfsRoot which (attributePath config (frequencyAttribute which)) := by
  cases which with
  | maximum => exact .maximum (joins_attributePath config _)
  | current => exact .current (joins_attributePath config _)

/-- Both frequencies of every machine are read from their files in this way, wherever its attributes
lie. -/
theorem frequency_files_read (config : Config) (machine : Machine) (which : Frequency) :
    FrequencyFile config.sysfsRoot which (attributePath config (frequencyAttribute which)) ∧
      NumberRead machine.files "sysfs" (attributePath config (frequencyAttribute which))
        (source config machine (.frequencyKhz which)) :=
  ⟨frequencyFile_attributePath config which, numberRead_numericAttribute machine.files "sysfs" _⟩

end HostProfile.Linux
