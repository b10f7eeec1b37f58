import HostProfile.Proofs.Text.Numeral

/-!
# The longest start of a text that is an integer

A text starts with a minus sign or none and with digits, of which there may be none; the longest
such start is its lead (`Lead`). Every text has one, and has only one (`exists_lead`,
`Lead.unique`). What is read of a text is the integer of the lead between its blanks, if the lead
has a digit and the integer is in the signed 64-bit range (`leadingInt?_eq_some_iff_lead`).

The end of the lead can be found by its distance in bytes (`integerEnd`), going from character to
character. Wherever that is, it is a place between two characters of the text, and the lead is what
stands before it (`Lead.exists_cut`).
-/

set_option autoImplicit false
set_option relaxedAutoImplicit false

namespace HostProfile.Text

/-! ### Leads -/

/-- A text is a minus sign or none, and then digits, of which there may be none. -/
def IntegerForm (cs : List Char) : Prop :=
  ∃ negative digits, cs = sign negative ++ digits ∧ digits.all Char.isDigit = true

/-- The longest start of a text that has the form of an integer, by its sign and its digits. -/
structure Lead (text : List Char) (negative : Bool) (digits : List Char) : Prop where
  start : sign negative ++ digits <+: text
  digit : digits.all Char.isDigit = true
  longest : ∀ cs, IntegerForm cs → cs <+: text → cs.length ≤ (sign negative ++ digits).length

section Leads

variable {text digits : List Char} {negative : Bool}

theorem length_le_takeWhile_of_isPrefix {p : Char → Bool} {ds cs : List Char} (h : ds <+: cs)
    (hall : ds.all p = true) : ds.length ≤ (cs.takeWhile p).length := by
  obtain ⟨rest, rfl⟩ := h
  rw [List.takeWhile_append_of_pos fun c hc ↦ List.all_eq_true.mp hall c hc, List.length_append]
  exact Nat.le_add_right _ _

/-- After a minus sign the lead goes on with the digits that follow. -/
theorem lead_negative (rest : List Char) :
    Lead ('-' :: rest) true (rest.takeWhile Char.isDigit) where
  start := (List.prefix_cons_inj '-').mpr (List.takeWhile_prefix _)
  digit := List.all_takeWhile
  longest := by
    rintro cs ⟨negative, digits, rfl, hdigits⟩ hstart
    cases negative with
    | true =>
      have hrest : digits <+: rest := (List.prefix_cons_inj '-').mp hstart
      simpa [sign] using length_le_takeWhile_of_isPrefix hrest hdigits
    | false =>
      -- Digits cannot stand where the minus sign stands.
      cases digits with
      | nil => exact Nat.zero_le _
      | cons d ds =>
        obtain ⟨rfl, -⟩ := List.cons_prefix_cons.mp hstart
        simp at hdigits

/-- Without a minus sign the lead is made of the first digits. -/
theorem lead_unsigned (h : text.head? ≠ some '-') :
    Lead text false (text.takeWhile Char.isDigit) where
  start := List.takeWhile_prefix _
  digit := List.all_takeWhile
  longest := by
    rintro cs ⟨negative, digits, rfl, hdigits⟩ hstart
    cases negative with
    | true =>
      obtain ⟨rest, rfl⟩ := hstart
      exact absurd rfl h
    | false => exact length_le_takeWhile_of_isPrefix hstart hdigits

theorem exists_lead (text : List Char) : ∃ negative digits, Lead text negative digits := by
  by_cases h : text.head? = some '-'
  · obtain ⟨rest, rfl⟩ := List.head?_eq_some_iff.mp h
    exact ⟨_, _, lead_negative rest⟩
  · exact ⟨_, _, lead_unsigned h⟩

/-- A sign and digits are told from how they are written. -/
theorem sign_append_inj {other : Bool} {others : List Char}
    (hdigits : digits.all Char.isDigit = true) (hothers : others.all Char.isDigit = true)
    (h : sign negative ++ digits = sign other ++ others) : negative = other ∧ digits = others := by
  cases negative <;> cases other
  · exact ⟨rfl, h⟩
  · obtain rfl : digits = '-' :: others := h
    simp at hdigits
  · obtain rfl : '-' :: digits = others := h
    simp at hothers
  · exact ⟨rfl, (List.cons.inj h).2⟩

theorem Lead.unique {other : Bool} {others : List Char} (h : Lead text negative digits)
    (hother : Lead text other others) : negative = other ∧ digits = others := by
  have hle := hother.longest _ ⟨negative, digits, rfl, h.digit⟩ h.start
  have hge := h.longest _ ⟨other, others, rfl, hother.digit⟩ hother.start
  have hstart := List.prefix_of_prefix_length_le h.start hother.start hle
  exact sign_append_inj h.digit hother.digit (hstart.eq_of_length (Nat.le_antisymm hle hge))

/-- What is read of a text is the integer of its lead. -/
theorem leadingInt?_of_lead (h : Lead (trim text) negative digits) :
    leadingInt? text = signedValue? negative digits := by
  rw [leadingInt?]
  split
  · rename_i rest htrim
    rw [htrim] at h
    obtain ⟨rfl, rfl⟩ := h.unique (lead_negative rest)
    rfl
  · rename_i htrim
    have hhead : (trim text).head? ≠ some '-' := by
      intro hsign
      obtain ⟨rest, hrest⟩ := List.head?_eq_some_iff.mp hsign
      exact htrim rest hrest
    obtain ⟨rfl, rfl⟩ := h.unique (lead_unsigned hhead)
    rfl

theorem signedValue?_eq_some_iff {n : Int} : signedValue? negative digits = some n ↔
    digits ≠ [] ∧ signedInt negative digits = n ∧ inInt64Range n = true := by
  by_cases hdigits : digits = []
  · subst hdigits
    simp [signedValue?]
  · rw [signedValue?_eq hdigits, Option.ite_none_right_eq_some]
    grind

theorem signedValue?_eq_none_iff : signedValue? negative digits = none ↔
    digits = [] ∨ inInt64Range (signedInt negative digits) = false := by
  by_cases hdigits : digits = []
  · subst hdigits
    simp [signedValue?]
  · rw [signedValue?_eq hdigits]
    simp [hdigits]

theorem leadingInt?_eq_iff_lead {found : Option Int} : leadingInt? text = found ↔
    ∃ negative digits, Lead (trim text) negative digits ∧
      signedValue? negative digits = found := by
  constructor
  · intro h
    obtain ⟨negative, digits, hlead⟩ := exists_lead (trim text)
    exact ⟨negative, digits, hlead, (leadingInt?_of_lead hlead).symm.trans h⟩
  · rintro ⟨negative, digits, hlead, hvalue⟩
    exact (leadingInt?_of_lead hlead).trans hvalue

theorem leadingInt?_eq_some_iff_lead {n : Int} : leadingInt? text = some n ↔
    ∃ negative digits, Lead (trim text) negative digits ∧ digits ≠ [] ∧
      signedInt negative digits = n ∧ inInt64Range n = true := by
  simp only [leadingInt?_eq_iff_lead, signedValue?_eq_some_iff]

theorem leadingInt?_eq_none_iff_lead : leadingInt? text = none ↔
    ∃ negative digits, Lead (trim text) negative digits ∧
      (digits = [] ∨ inInt64Range (signedInt negative digits) = false) := by
  simp only [leadingInt?_eq_iff_lead, signedValue?_eq_none_iff]

end Leads

/-! ### Integers that were written -/

theorem starts_toString_append (n : Int) {rest : List Char}
    (hrest : ∀ c ∈ rest.head?, c.isDigit = false) : Starts ((toString n).toList ++ rest) n := by
  rw [Int.toString_eq_repr, Int.repr_eq_if]
  by_cases hn : 0 ≤ n
  · rw [if_pos hn, Nat.toList_repr]
    have h := starts_decimal_append n.toNat hrest
    rwa [Int.toNat_of_nonneg hn] at h
  · rw [if_neg hn, String.toList_append, Nat.toList_repr]
    have hdigits : (decimal (-n).toNat).all Char.isDigit = true :=
      List.all_eq_true.mpr fun _ ↦ isDigit_of_mem_decimal
    have hvalue : signedInt true (decimal (-n).toNat) = n := by
      rw [signedInt, if_pos rfl, digitsValue_decimal]
      omega
    have h := Starts.intro [] true (decimal (-n).toNat) rest rfl hdigits Nat.toDigits_ne_nil hrest
    rwa [hvalue] at h

/-- Blanks before a text make no difference to the integer that it starts with. -/
theorem Starts.of_blanks {text blanks : List Char} {n : Int} (h : Starts text n)
    (hblanks : isAllBlank blanks = true) : Starts (blanks ++ text) n := by
  obtain ⟨before, negative, digits, rest, hbefore, hdigits, hne, hrest⟩ := h
  have hall : isAllBlank (blanks ++ before) = true := by
    rw [isAllBlank, List.all_append, Bool.and_eq_true]
    exact ⟨hblanks, hbefore⟩
  have hstarts := Starts.intro (blanks ++ before) negative digits rest hall hdigits hne hrest
  rwa [List.append_assoc blanks] at hstarts

/-! ### Where a lead ends -/

/-- The characters of a text that stands at a distance in bytes, each with its own distance. -/
def charOffsets : Nat → List Char → List (Nat × Char)
  | _, [] => []
  | offset, c :: rest => (offset, c) :: charOffsets (offset + c.utf8Size) rest

/-- Whether a character at some distance is no part of an integer that the text starts with: it is
no digit, nor a minus sign at distance zero. -/
def endsInteger (place : Nat × Char) : Bool :=
  !(place.2.isDigit || (place.1 == 0 && place.2 == '-'))

/-- The distance of the first character that ends an integer, or that of the end of the text. -/
def scanEnd (offset : Nat) (cs : List Char) : Nat :=
  match (charOffsets offset cs).find? endsInteger with
  | some place => place.1
  | none => offset + (String.ofList cs).utf8ByteSize

/-- The number of bytes before the end of the integer that a text starts with. -/
def integerEnd (text : List Char) : Nat :=
  scanEnd 0 text

section Ends

variable {text digits : List Char} {negative : Bool}

theorem utf8ByteSize_ofList_cons (c : Char) (cs : List Char) :
    (String.ofList (c :: cs)).utf8ByteSize = c.utf8Size + (String.ofList cs).utf8ByteSize := by
  rw [← List.singleton_append, String.ofList_append, String.utf8ByteSize_append,
    ← String.singleton_eq_ofList, String.utf8ByteSize_singleton]

theorem utf8Size_of_isDigit {c : Char} (h : c.isDigit = true) : c.utf8Size = 1 := by
  have hhigh : c.val ≤ 57 := by
    simpa [Char.le_def] using (Bool.and_eq_true_iff.mp h).2
  exact Char.utf8Size_eq_one_iff.mpr (UInt32.le_trans hhigh (by decide))

theorem utf8ByteSize_ofList {cs : List Char} (h : ∀ c ∈ cs, c.utf8Size = 1) :
    (String.ofList cs).utf8ByteSize = cs.length := by
  induction cs with
  | nil => rfl
  | cons c rest ih =>
    rw [utf8ByteSize_ofList_cons, h c List.mem_cons_self,
      ih fun d hd ↦ h d (List.mem_cons_of_mem c hd), List.length_cons, Nat.add_comm]

/-- The sign and the digits of an integer take one byte each. -/
theorem utf8ByteSize_signed (negative : Bool) (hdigits : digits.all Char.isDigit = true) :
    (String.ofList (sign negative ++ digits)).utf8ByteSize = (sign negative ++ digits).length := by
  refine utf8ByteSize_ofList fun c hc ↦ ?_
  obtain hsign | hdigit := List.mem_append.mp hc
  · cases negative with
    | true =>
      obtain rfl := List.mem_singleton.mp hsign
      rfl
    | false => cases hsign
  · exact utf8Size_of_isDigit (List.all_eq_true.mp hdigits c hdigit)

theorem scanEnd_cons (offset : Nat) (c : Char) (rest : List Char) :
    scanEnd offset (c :: rest) =
      if endsInteger (offset, c) then offset else scanEnd (offset + c.utf8Size) rest := by
  rw [scanEnd, charOffsets, List.find?_cons]
  cases endsInteger (offset, c) with
  | true => rfl
  | false =>
    rw [if_neg Bool.false_ne_true, scanEnd, utf8ByteSize_ofList_cons, ← Nat.add_assoc]

/-- Away from the start of the text a scan goes over digits only. -/
theorem scanEnd_of_pos {offset : Nat} (h : 0 < offset) (cs : List Char) :
    scanEnd offset cs = offset + (cs.takeWhile Char.isDigit).length := by
  induction cs generalizing offset with
  | nil => rfl
  | cons c rest ih =>
    have hends : endsInteger (offset, c) = !c.isDigit := by
      simp [endsInteger, Nat.pos_iff_ne_zero.mp h]
    rw [scanEnd_cons, hends, List.takeWhile_cons]
    cases hdigit : c.isDigit with
    | true =>
      rw [Bool.not_true, if_neg Bool.false_ne_true, if_pos rfl, utf8Size_of_isDigit hdigit,
        ih (Nat.succ_pos offset), List.length_cons]
      omega
    | false => rfl

/-- The scan ends where the lead ends. -/
theorem Lead.integerEnd_eq (h : Lead text negative digits) :
    integerEnd text = (sign negative ++ digits).length := by
  by_cases hsign : text.head? = some '-'
  · obtain ⟨rest, rfl⟩ := List.head?_eq_some_iff.mp hsign
    obtain ⟨rfl, rfl⟩ := h.unique (lead_negative rest)
    have hscan : integerEnd ('-' :: rest) = scanEnd 1 rest := scanEnd_cons 0 '-' rest
    rw [hscan, scanEnd_of_pos Nat.one_pos, List.length_append]
    rfl
  · obtain ⟨rfl, rfl⟩ := h.unique (lead_unsigned hsign)
    cases text with
    | nil => rfl
    | cons c rest =>
      have hends : endsInteger (0, c) = !c.isDigit := by
        have hminus : c ≠ '-' := by simpa using hsign
        simp [endsInteger, hminus]
      rw [integerEnd, scanEnd_cons, hends, sign, if_neg Bool.false_ne_true, List.nil_append,
        List.takeWhile_cons]
      cases hdigit : c.isDigit with
      | true =>
        rw [Bool.not_true, if_neg Bool.false_ne_true, if_pos rfl, utf8Size_of_isDigit hdigit,
          scanEnd_of_pos Nat.one_pos, List.length_cons]
        omega
      | false => rfl

/-- The end of the lead is a place between two characters, so that the text can be cut there, and
the lead is what stands before it. -/
theorem Lead.exists_cut {value : String} (h : Lead value.toList negative digits) :
    ∃ cut : value.Pos, cut.offset.byteIdx = integerEnd value.toList ∧
      (value.sliceTo cut).copy = String.ofList (sign negative ++ digits) := by
  obtain ⟨rest, hrest⟩ := h.start
  have hvalue : value = String.ofList (sign negative ++ digits) ++ String.ofList rest := by
    rw [← String.ofList_append, hrest, String.ofList_toList]
  have hend : (⟨integerEnd value.toList⟩ : String.Pos.Raw) =
      (String.ofList (sign negative ++ digits)).rawEndPos := by
    rw [h.integerEnd_eq, ← utf8ByteSize_signed negative h.digit]
    rfl
  let cut : value.Pos :=
    ⟨⟨integerEnd value.toList⟩, String.Pos.Raw.isValid_iff_exists_append.mpr ⟨_, _, hvalue, hend⟩⟩
  exact ⟨cut, rfl, cut.splits.eq_left ⟨hvalue, hend⟩⟩

end Ends

end HostProfile.Text
