import HostProfile.Text.Utf8
import Mathlib

/-!
# Byte strings that are texts

A byte string that can be read in full is the encoding of the text that is read, so no other byte
string is read as this text (`decode?_eq_some_iff`).

While a character is pending, the bytes that were read of it are the first of its encoding, whatever
the rest may be, as long as the next byte is in the range that is asked for (`Pending.Begins`). A
first byte establishes this (`begins_of_scanFirst`) and every further byte keeps it
(`Pending.Begins.next`), so a byte that completes a character completes its encoding
(`Pending.Begins.last`). What one byte preserves (`Unfinished.step`) then holds of a whole byte
string (`Unfinished.append_eq`).
-/

set_option autoImplicit false
set_option relaxedAutoImplicit false

namespace HostProfile.Text

/-- The last bytes of the character of a code point, so many of them. -/
def tailBytes (point : Nat) : Nat → List UInt8
  | 0 => []
  | missing + 1 => UInt8.ofNat (point / 64 ^ missing % 64 + 0x80) :: tailBytes point missing

/-! ### Encodings by their length -/

theorem toNat_val_ofNat {point : Nat} (h : point.isValidChar) :
    (Char.ofNat point).val.toNat = point := by
  rw [Char.toNat_val, Char.toNat_ofNat, if_pos h]

section Lengths

variable {point : Nat}

theorem utf8EncodeChar_ofNat_one (h : point < 0x80) :
    String.utf8EncodeChar (Char.ofNat point) = [UInt8.ofNat point] := by
  rw [String.utf8EncodeChar.eq_def, toNat_val_ofNat (.inl (by omega))]
  exact if_pos (by omega)

theorem utf8EncodeChar_ofNat_two (hlo : 0x80 ≤ point) (hhi : point < 0x800) :
    String.utf8EncodeChar (Char.ofNat point) =
      UInt8.ofNat (point / 64 + 0xC0) :: tailBytes point 1 := by
  have hlead : point / 64 % 32 = point / 64 := by omega
  rw [String.utf8EncodeChar.eq_def, toNat_val_ofNat (.inl (by omega))]
  dsimp only
  rw [if_neg (by omega), if_pos (by omega), hlead]
  simp [tailBytes]

theorem utf8EncodeChar_ofNat_three (hvalid : point.isValidChar) (hlo : 0x800 ≤ point)
    (hhi : point < 0x10000) :
    String.utf8EncodeChar (Char.ofNat point) =
      UInt8.ofNat (point / 4096 + 0xE0) :: tailBytes point 2 := by
  have hlead : point / 4096 % 16 = point / 4096 := by omega
  rw [String.utf8EncodeChar.eq_def, toNat_val_ofNat hvalid]
  dsimp only
  rw [if_neg (by omega), if_neg (by omega), if_pos (by omega), hlead]
  simp [tailBytes]

theorem utf8EncodeChar_ofNat_four (hlo : 0x10000 ≤ point) (hhi : point < 0x110000) :
    String.utf8EncodeChar (Char.ofNat point) =
      UInt8.ofNat (point / 262144 + 0xF0) :: tailBytes point 3 := by
  have hlead : point / 262144 % 8 = point / 262144 := by omega
  rw [String.utf8EncodeChar.eq_def, toNat_val_ofNat (.inr (by omega))]
  dsimp only
  rw [if_neg (by omega), if_neg (by omega), if_neg (by omega), hlead]
  simp [tailBytes]

end Lengths

/-! ### A pending character -/

/-- The bytes that were read are the first of every character that the pending one can become. -/
structure Pending.Begins (p : Pending) (read : List UInt8) : Prop where
  missing_pos : 0 < p.missing
  least : 0x80 ≤ p.least
  greatest : p.greatest ≤ 0xBF
  encoded : ∀ point, point / 64 ^ p.missing = p.bits →
    p.least ≤ point / 64 ^ (p.missing - 1) % 64 + 0x80 →
    point / 64 ^ (p.missing - 1) % 64 + 0x80 ≤ p.greatest →
      String.utf8EncodeChar (Char.ofNat point) = read ++ tailBytes point p.missing

/-- The bytes since the last character that was read in full. -/
inductive Unfinished : Option Pending → List UInt8 → Prop
  | nothing : Unfinished none []
  | character {p : Pending} {read : List UInt8} (h : p.Begins read) : Unfinished (some p) read

section Leads

variable {lead bits least greatest : Nat}

theorem begins_two (hlead : lead = bits + 0xC0) (hlong : 2 ≤ bits) (hbits : bits < 32) :
    Pending.Begins ⟨1, 0x80, 0xBF, bits⟩ [UInt8.ofNat lead] where
  missing_pos := Nat.one_pos
  least := le_rfl
  greatest := le_rfl
  encoded := by
    intro point hpoint _ _
    simp only [pow_one] at hpoint
    rw [utf8EncodeChar_ofNat_two (by omega) (by omega), hpoint, ← hlead, List.singleton_append]

theorem begins_three (hlead : lead = bits + 0xE0) (hbits : bits < 16) (hleast : 0x80 ≤ least)
    (hgreatest : greatest ≤ 0xBF) (hlong : bits = 0 → 0xA0 ≤ least)
    (hsurrogate : bits = 13 → greatest ≤ 0x9F) :
    Pending.Begins ⟨2, least, greatest, bits⟩ [UInt8.ofNat lead] where
  missing_pos := Nat.two_pos
  least := hleast
  greatest := hgreatest
  encoded := by
    intro point hpoint hlo hhi
    simp only [Nat.reducePow, Nat.reduceSub] at hpoint hlo hhi
    have hvalid : point.isValidChar := by
      show point < 0xD800 ∨ 0xDFFF < point ∧ point < 0x110000
      omega
    rw [utf8EncodeChar_ofNat_three hvalid (by omega) (by omega), hpoint, ← hlead,
      List.singleton_append]

theorem begins_four (hlead : lead = bits + 0xF0) (hbits : bits < 5) (hleast : 0x80 ≤ least)
    (hgreatest : greatest ≤ 0xBF) (hlong : bits = 0 → 0x90 ≤ least)
    (hlimit : bits = 4 → greatest ≤ 0x8F) :
    Pending.Begins ⟨3, least, greatest, bits⟩ [UInt8.ofNat lead] where
  missing_pos := Nat.succ_pos 2
  least := hleast
  greatest := hgreatest
  encoded := by
    intro point hpoint hlo hhi
    simp only [Nat.reducePow, Nat.reduceSub] at hpoint hlo hhi
    rw [utf8EncodeChar_ofNat_four (by omega) (by omega), hpoint, ← hlead, List.singleton_append]

/-- A byte that leaves a character pending yields nothing yet and begins this character. -/
theorem begins_of_scanFirst {p : Pending} (h : (scanFirst lead).2 = some p) :
    (scanFirst lead).1 = [] ∧ p.Begins [UInt8.ofNat lead] := by
  unfold scanFirst at h ⊢
  split_ifs at h ⊢ with hone htwo hE0 hED hthree hF0 hfour hF4
  all_goals
    cases h
    refine ⟨rfl, ?_⟩
    simp only [Bool.and_eq_true, decide_eq_true_eq, beq_iff_eq] at *
  · apply begins_two <;> omega
  · apply begins_three <;> omega
  · apply begins_three <;> omega
  · apply begins_three <;> omega
  · apply begins_four <;> omega
  · apply begins_four <;> omega
  · apply begins_four <;> omega

/-- A byte that leaves nothing pending and is not ill-formed is a character by itself. -/
theorem scanFirst_of_finished (hpending : (scanFirst lead).2 = none)
    (hfound : none ∉ (scanFirst lead).1) :
    ∃ c, (scanFirst lead).1 = [some c] ∧ String.utf8EncodeChar c = [UInt8.ofNat lead] := by
  unfold scanFirst at hpending hfound ⊢
  split_ifs at hpending hfound ⊢ with hone
  · exact ⟨_, rfl, utf8EncodeChar_ofNat_one (by omega)⟩
  · simp at hfound

end Leads

theorem Pending.Begins.last {p : Pending} {read : List UInt8} (h : p.Begins read) {tail : Nat}
    (htail : tail < 64) (hlo : p.least ≤ tail + 0x80) (hhi : tail + 0x80 ≤ p.greatest)
    (hlast : p.missing ≤ 1) :
    String.utf8EncodeChar (Char.ofNat (p.bits * 64 + tail)) =
      read ++ [UInt8.ofNat (tail + 0x80)] := by
  have hmissing : p.missing = 1 := Nat.le_antisymm hlast h.missing_pos
  have hbits : (p.bits * 64 + tail) / 64 = p.bits := by omega
  have hmod : (p.bits * 64 + tail) % 64 = tail := by omega
  have hencoded := h.encoded (p.bits * 64 + tail)
  simp only [hmissing, tailBytes, Nat.sub_self, pow_one, pow_zero, Nat.div_one, hbits, hmod]
    at hencoded
  exact hencoded trivial hlo hhi

theorem Pending.Begins.next {p : Pending} {read : List UInt8} (h : p.Begins read) {tail : Nat}
    (htail : tail < 64) (hlo : p.least ≤ tail + 0x80) (hhi : tail + 0x80 ≤ p.greatest)
    (hmore : 1 < p.missing) :
    Pending.Begins ⟨p.missing - 1, 0x80, 0xBF, p.bits * 64 + tail⟩
      (read ++ [UInt8.ofNat (tail + 0x80)]) where
  missing_pos := by dsimp only; omega
  least := le_rfl
  greatest := le_rfl
  encoded := by
    intro point hpoint _ _
    obtain ⟨missing, hmissing⟩ : ∃ missing, p.missing = missing + 1 := ⟨p.missing - 1, by omega⟩
    have hencoded := h.encoded point
    simp only [hmissing, Nat.add_sub_cancel, tailBytes] at hpoint hencoded ⊢
    have hbits : point / 64 ^ (missing + 1) = p.bits := by
      rw [pow_succ, ← Nat.div_div_eq_div_mul, hpoint]
      omega
    have hmod : point / 64 ^ missing % 64 = tail := by omega
    rw [hmod] at hencoded
    rw [hencoded hbits hlo hhi, List.append_assoc, List.singleton_append]

/-! ### Whole byte strings -/

variable {pending : Option Pending} {read : List UInt8}

theorem scanByte_of_range {p : Pending} {tail : Nat} (hlo : p.least ≤ tail + 0x80)
    (hhi : tail + 0x80 ≤ p.greatest) :
    scanByte (some p) (tail + 0x80) =
      if p.missing ≤ 1 then ([some (Char.ofNat (p.bits * 64 + tail))], none)
      else ([], some ⟨p.missing - 1, 0x80, 0xBF, p.bits * 64 + tail⟩) := by
  simp [scanByte, hlo, hhi]

theorem scanFrom_cons (pending : Option Pending) (byte : UInt8) (rest : List UInt8) :
    scanFrom pending (byte :: rest) =
      (scanByte pending byte.toNat).1 ++ scanFrom (scanByte pending byte.toNat).2 rest := by
  cases pending <;> rfl

/-- A byte after which no character is ill-formed completes some characters and may leave another
one unfinished, and these have all bytes up to it. -/
theorem Unfinished.step (h : Unfinished pending read) (byte : UInt8)
    (hfound : none ∉ (scanByte pending byte.toNat).1) :
    ∃ (chars : List Char) (left : List UInt8),
      (scanByte pending byte.toNat).1 = chars.map some ∧
      Unfinished (scanByte pending byte.toNat).2 left ∧
      read ++ [byte] = chars.flatMap String.utf8EncodeChar ++ left := by
  cases h with
  | nothing =>
    simp only [scanByte] at hfound ⊢
    cases hnext : (scanFirst byte.toNat).2 with
    | none =>
      obtain ⟨c, hc, hbyte⟩ := scanFirst_of_finished hnext hfound
      exact ⟨[c], [], hc, .nothing, by simp [hbyte]⟩
    | some p =>
      obtain ⟨hnothing, hbegins⟩ := begins_of_scanFirst hnext
      exact ⟨[], _, hnothing, .character hbegins, by simp⟩
  | @character p _ h =>
    have hleast := h.least
    have hgreatest := h.greatest
    by_cases hrange : p.least ≤ byte.toNat ∧ byte.toNat ≤ p.greatest
    · obtain ⟨tail, htail⟩ : ∃ tail, byte.toNat = tail + 0x80 := ⟨byte.toNat - 0x80, by omega⟩
      have hbyte : byte = UInt8.ofNat (tail + 0x80) := by rw [← htail, UInt8.ofNat_toNat]
      obtain ⟨hlo, hhi⟩ := htail ▸ hrange
      rw [htail, scanByte_of_range hlo hhi]
      split_ifs with hlast
      · have hencoded := h.last (by omega) hlo hhi hlast
        exact ⟨[_], [], rfl, .nothing, by simp [hencoded, hbyte]⟩
      · have hbegins := h.next (by omega) hlo hhi (by omega)
        exact ⟨[], _, rfl, .character hbegins, by simp [hbyte]⟩
    · -- A byte out of range ends the pending character as ill-formed.
      simp [scanByte, hrange] at hfound

/-- Bytes that scan to characters alone are the rest of what was begun and the encoding of the
others. -/
theorem Unfinished.append_eq (h : Unfinished pending read) {bytes : List UInt8} {chars : List Char}
    (hscan : scanFrom pending bytes = chars.map some) :
    read ++ bytes = chars.flatMap String.utf8EncodeChar := by
  -- Every byte leads from what is unfinished to what is left unfinished, so both vary.
  induction bytes generalizing pending read chars with
  | nil =>
    cases h with
    | nothing =>
      obtain rfl : chars = [] := List.map_eq_nil_iff.mp hscan.symm
      rfl
    | character h =>
      have hnone : none ∈ chars.map some := hscan ▸ List.mem_singleton_self _
      simp at hnone
  | cons byte rest ih =>
    rw [scanFrom_cons] at hscan
    obtain ⟨first, others, rfl, hfirst, hothers⟩ := List.append_eq_map_iff.mp hscan
    have hfound : none ∉ (scanByte pending byte.toNat).1 := by
      rw [← hfirst]
      simp
    obtain ⟨chars, left, hchars, hleft, hread⟩ := h.step byte hfound
    obtain rfl : first = chars :=
      List.map_injective_iff.mpr (Option.some_injective _) (hfirst.trans hchars)
    calc read ++ byte :: rest
      _ = (read ++ [byte]) ++ rest := by simp
      _ = first.flatMap String.utf8EncodeChar ++ (left ++ rest) := by rw [hread, List.append_assoc]
      _ = (first ++ others).flatMap String.utf8EncodeChar := by
        rw [ih hleft hothers.symm, List.flatMap_append]

theorem eq_map_some_of_mapM_id {α : Type} {found : List (Option α)} {values : List α}
    (h : found.mapM id = some values) : found = values.map some := by
  induction found generalizing values with
  | nil =>
    obtain rfl : [] = values := Option.some.inj h
    rfl
  | cons value? found ih =>
    cases value? with
    | none => simp at h
    | some value =>
      obtain ⟨others, hothers, rfl⟩ : ∃ others, found.mapM id = some others ∧
          value :: others = values := by simpa [Option.bind_eq_some_iff] using h
      rw [ih hothers, List.map_cons]

/-- A byte string is read as a text if it is the encoding of this text, and only then. -/
theorem decode?_eq_some_iff {bytes : List UInt8} {text : String} :
    decode? bytes = some text ↔ bytes = encode text := by
  constructor
  · intro h
    obtain ⟨chars, hchars, rfl⟩ := Option.map_eq_some_iff.mp h
    have hscan : scanFrom none bytes = chars.map some := eq_map_some_of_mapM_id hchars
    have hbytes := Unfinished.nothing.append_eq hscan
    rwa [List.nil_append, ← String.toList_ofList (l := chars)] at hbytes
  · rintro rfl
    exact decode?_encode text

end HostProfile.Text
