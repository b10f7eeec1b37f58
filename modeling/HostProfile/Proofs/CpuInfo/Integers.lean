import HostProfile.CpuInfo
import HostProfile.Proofs.Text.IntegerPrefix

/-!
# Integers of a processor information file

The integer of an entry is the one its value starts with, if that is in the signed 64-bit range
(`int?_of_starts`), and there is none for any other value. Which values have one, and how much of
them is read, is told by the longest start of the value that has the form of an integer
(`integer_values_read`).
-/

set_option autoImplicit false
set_option relaxedAutoImplicit false

namespace HostProfile.CpuInfo

variable {file : CpuInfo} {index : Nat} {key text : String}

theorem int?_eq_bind (file : CpuInfo) (index : Nat) (key : String) :
    file.int? index key = (file.value? index key).bind fun text ↦ Text.leadingInt? text.toList := by
  rw [value?, Option.bind_assoc]
  rfl

theorem int?_of_starts {n : Int} (hvalue : file.value? index key = some text)
    (hstarts : Text.Starts text.toList n) :
    file.int? index key = if Text.inInt64Range n then some n else none := by
  rw [int?_eq_bind, hvalue, Option.bind_some, Text.leadingInt?_of_starts hstarts]

/-- A number that was written in decimal is read as it was written. -/
theorem int?_of_decimal {n : Nat}
    (hvalue : file.value? index key = some (String.ofList (Text.decimal n)))
    (hrange : n ≤ 9223372036854775807) : file.int? index key = some (n : Int) := by
  have hstarts : Text.Starts (String.ofList (Text.decimal n)).toList n := by
    rw [String.toList_ofList, ← List.append_nil (Text.decimal n)]
    exact Text.starts_decimal_append n fun c hc ↦ by cases hc
  rw [int?_of_starts hvalue hstarts, if_pos]
  simp only [Text.inInt64Range, Bool.and_eq_true, decide_eq_true_eq]
  omega

/-- How the integer of a value is read. -/
structure ReadAsInteger (value : String) (found : Option Int) : Prop where
  /-- There is an integer if the longest start of the trimmed value has a digit and is in range. -/
  some_iff : ∀ n, found = some n ↔ ∃ negative digits,
    Text.Lead (Text.trim value.toList) negative digits ∧ digits ≠ [] ∧
      Text.signedInt negative digits = n ∧ Text.inInt64Range n = true
  /-- There is none if it has no digit or is out of range. -/
  none_iff : found = none ↔ ∃ negative digits,
    Text.Lead (Text.trim value.toList) negative digits ∧
      (digits = [] ∨ Text.inInt64Range (Text.signedInt negative digits) = false)
  /-- An integer that was written is read back, with blanks around it and anything but a digit
  after it. -/
  written : ∀ (n : Int64) (before rest after : List Char), Text.isAllBlank before = true →
    Text.isAllBlank after = true → (∀ c ∈ rest.head?, c.isDigit = false) →
      value.toList = before ++ (toString n).toList ++ rest ++ after → found = some n.toInt
  /-- The scan for the end of the integer stops between two characters of the trimmed value, and the
  longest start is what stands before that place. -/
  cut : ∃ place : (Text.trimmed value).Pos,
    place.offset.byteIdx = Text.integerEnd (Text.trim value.toList) ∧ ∃ negative digits,
      Text.Lead (Text.trim value.toList) negative digits ∧
        ((Text.trimmed value).sliceTo place).copy =
          String.ofList (Text.sign negative ++ digits)

theorem not_isDigit_of_blank {c : Char} (h : Text.isBlank c = true) : c.isDigit = false := by
  by_contra hdigit
  rw [Text.isBlank_of_isDigit (Bool.not_eq_false _ ▸ hdigit)] at h
  cases h

/-- Every value of every file is read in this way. -/
theorem integer_values_read (h : file.value? index key = some text) :
    ReadAsInteger text (file.int? index key) := by
  have hint : file.int? index key = Text.leadingInt? text.toList := by
    rw [int?_eq_bind, h, Option.bind_some]
  rw [hint]
  refine ⟨fun n ↦ Text.leadingInt?_eq_some_iff_lead, Text.leadingInt?_eq_none_iff_lead, ?_, ?_⟩
  · intro n before rest after hbefore hafter hrest htext
    have hend : ∀ c ∈ (rest ++ after).head?, c.isDigit = false := by
      intro c hc
      cases rest with
      | nil =>
        exact not_isDigit_of_blank (List.all_eq_true.mp hafter c (List.mem_of_mem_head? hc))
      | cons d ds => exact hrest c hc
    have hstarts := (Text.starts_toString_append n.toInt hend).of_blanks hbefore
    have hassoc : text.toList = before ++ ((toString n.toInt).toList ++ (rest ++ after)) := by
      rw [htext, List.append_assoc, List.append_assoc]
      rfl
    have hrange : Text.inInt64Range n.toInt = true := by
      have hlow := n.le_toInt
      have hhigh := n.toInt_lt
      simp only [Text.inInt64Range, Bool.and_eq_true, decide_eq_true_eq]
      omega
    rw [hassoc, Text.leadingInt?_of_starts hstarts, if_pos hrange]
  · obtain ⟨negative, digits, hlead⟩ := Text.exists_lead (Text.trim text.toList)
    have htrimmed : (Text.trimmed text).toList = Text.trim text.toList := String.toList_ofList
    obtain ⟨place, hplace, hcut⟩ := Text.Lead.exists_cut (htrimmed.symm ▸ hlead)
    exact ⟨place, htrimmed ▸ hplace, negative, digits, hlead, hcut⟩

/-- The least integer there is, with a digit of another script after it. -/
theorem integer_values_read_least :
    let file := parse "cache size\t: -9223372036854775808\u0663 KB\n"
    let value := "-9223372036854775808\u0663 KB"
    file.value? 0 "cache size" = some value ∧
      ReadAsInteger value (file.int? 0 "cache size") ∧
      file.int? 0 "cache size" = some (-9223372036854775808) := by
  intro file value
  have hvalue : file.value? 0 "cache size" = some value := by decide +kernel
  have hread := integer_values_read hvalue
  refine ⟨hvalue, hread, hread.written (-9223372036854775808) []
    ['\u0663', ' ', 'K', 'B'] [] rfl rfl ?_ (by decide +kernel)⟩
  rintro c ⟨⟩
  decide

end HostProfile.CpuInfo
