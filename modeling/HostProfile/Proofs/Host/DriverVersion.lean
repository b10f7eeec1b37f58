import HostProfile.Host.Direct3D
import HostProfile.Proofs.Metric.VersionWord

/-!
# Driver versions without loss

The text of a driver version has decimal numbers with a point between any two. Splitting at the
points gives them back, so a text has one list of numbers at most (`Reads`, `Reads.unique`).

A driver version is a number whose bits are cut into fields of fixed widths, the first of them the
highest (`cut`, `joined`). The fields fill the number without a gap and without an overlap, so they
and the number determine each other, and every choice of fields that fit is the text of one number
(`Lossless`). So it is for the packed pair of words, for the signed number that Direct3D tells, and
for the version word of a Vulkan driver, whose widths depend on the vendor
(`driver_versions_lossless`).
-/

set_option autoImplicit false
set_option relaxedAutoImplicit false

namespace HostProfile.DriverVersion

/-! ### Numbers between points -/

/-- A text has these numbers in decimal between its points. -/
def Reads (text : String) (fields : List Nat) : Prop :=
  text.toList.splitOn '.' = fields.map Text.decimal

theorem Reads.unique {text : String} {fields others : List Nat} (h : Reads text fields)
    (hother : Reads text others) : fields = others := by
  have hinjective : Function.Injective Text.decimal :=
    Function.LeftInverse.injective Text.digitsValue_decimal
  exact List.map_injective_iff.mpr hinjective (h.symm.trans hother)

theorem reads_dotted {fields : List Nat} (h : fields ≠ []) : Reads (dotted fields) fields := by
  have hpoint : ∀ digits ∈ fields.map Text.decimal, '.' ∉ digits := by
    intro digits hdigits hmem
    obtain ⟨field, -, rfl⟩ := List.mem_map.mp hdigits
    exact absurd (Text.isDigit_of_mem_decimal hmem) (by decide)
  have hne : fields.map Text.decimal ≠ [] := by
    rwa [ne_eq, List.map_eq_nil_iff]
  rw [Reads, dotted, String.toList_ofList]
  exact List.splitOn_intercalate '.' hpoint hne

/-! ### Fields of fixed widths -/

/-- The fields of a number, the highest first. -/
def cut : List Nat → Nat → List Nat
  | [], _ => []
  | width :: widths, n => n / 2 ^ widths.sum % 2 ^ width :: cut widths n

/-- The number with these fields, the highest first. -/
def joined : List Nat → List Nat → Nat
  | _ :: widths, field :: fields => field * 2 ^ widths.sum + joined widths fields
  | _, _ => 0

/-- There is one field for each width, and it is not wider. -/
def Fits (widths fields : List Nat) : Prop :=
  List.Forall₂ (fun width field ↦ field < 2 ^ width) widths fields

theorem fits_cut (widths : List Nat) (n : Nat) : Fits widths (cut widths n) := by
  induction widths with
  | nil => exact .nil
  | cons width widths ih => exact .cons (Nat.mod_lt _ (Nat.two_pow_pos width)) ih

/-- The fields of a number make up as many of its bits as they are wide. -/
theorem joined_cut (widths : List Nat) (n : Nat) :
    joined widths (cut widths n) = n % 2 ^ widths.sum := by
  induction widths with
  | nil => exact (Nat.mod_one n).symm
  | cons width widths ih =>
    rw [cut, joined, ih, List.sum_cons, Nat.pow_add, Nat.mul_comm (2 ^ width), Nat.mod_mul,
      Nat.mul_comm, Nat.add_comm]

namespace Fits

variable {widths fields others : List Nat}

theorem joined_lt (h : Fits widths fields) : joined widths fields < 2 ^ widths.sum := by
  induction h with
  | nil => exact Nat.one_pos
  | @cons width field widths fields hfield _ ih =>
    calc field * 2 ^ widths.sum + joined widths fields
        < field * 2 ^ widths.sum + 2 ^ widths.sum := Nat.add_lt_add_left ih _
      _ = (field + 1) * 2 ^ widths.sum := (Nat.succ_mul _ _).symm
      _ ≤ 2 ^ width * 2 ^ widths.sum := Nat.mul_le_mul_right _ hfield
      _ = 2 ^ (width :: widths).sum := by rw [List.sum_cons, Nat.pow_add]

/-- No two choices of fields make up the same number. -/
theorem joined_inj (h : Fits widths fields) (hothers : Fits widths others)
    (heq : joined widths fields = joined widths others) : fields = others := by
  induction h generalizing others with
  | nil =>
    cases hothers
    rfl
  | @cons width field widths fields _ hfields ih =>
    cases hothers with
    | @cons _ other _ others _ hothers =>
      have hpos := Nat.two_pow_pos widths.sum
      have hlow := joined_lt hfields
      have hlow' := joined_lt hothers
      change field * 2 ^ widths.sum + joined widths fields =
        other * 2 ^ widths.sum + joined widths others at heq
      have hhigh : field = other := by
        have hdiv := congrArg (· / 2 ^ widths.sum) heq
        simpa only [Nat.mul_comm _ (2 ^ widths.sum), Nat.mul_add_div hpos, Nat.div_eq_of_lt hlow,
          Nat.div_eq_of_lt hlow', Nat.add_zero] using hdiv
      subst hhigh
      rw [ih hothers (Nat.add_left_cancel heq)]

theorem cut_joined (h : Fits widths fields) : cut widths (joined widths fields) = fields := by
  refine joined_inj (fits_cut ..) h ?_
  rw [joined_cut, Nat.mod_eq_of_lt h.joined_lt]

theorem ne_nil (h : Fits widths fields) (hwidths : widths ≠ []) : fields ≠ [] := by
  cases h with
  | nil => exact absurd rfl hwidths
  | cons _ _ => exact List.cons_ne_nil _ _

end Fits

/-! ### Printing without loss -/

/-- The fields in the texts of words rebuild their bits, and every choice of fields is the text of
one word. -/
structure Lossless {Word : Type} (widths : List Nat) (bits : Word → Nat) (print : Word → String) :
    Prop where
  rebuilds : ∀ word, ∃ fields, Reads (print word) fields ∧ Fits widths fields ∧
    joined widths fields = bits word
  injective : Function.Injective print
  /-- No bit of a field is without use, and none belongs to two fields. -/
  onto : ∀ fields, Fits widths fields → ∃! word, Reads (print word) fields

/-- Printing is without loss if it prints the fields of the bits, and the words are the numbers of
that many bits. -/
theorem lossless_of_print_eq {Word : Type} {widths : List Nat} {bits : Word → Nat}
    {print : Word → String} (hwidths : widths ≠ [])
    (hprint : ∀ word, print word = dotted (cut widths (bits word)))
    (hbits : Function.Injective bits) (hlt : ∀ word, bits word < 2 ^ widths.sum)
    (hword : ∀ n < 2 ^ widths.sum, ∃ word, bits word = n) : Lossless widths bits print := by
  have hreads (word : Word) : Reads (print word) (cut widths (bits word)) := by
    rw [hprint]
    exact reads_dotted ((fits_cut ..).ne_nil hwidths)
  have hjoined (word : Word) : joined widths (cut widths (bits word)) = bits word := by
    rw [joined_cut, Nat.mod_eq_of_lt (hlt word)]
  have hinj : Function.Injective fun word ↦ cut widths (bits word) := by
    intro word other heq
    apply hbits
    rw [← hjoined word, ← hjoined other]
    exact congrArg (joined widths) heq
  refine ⟨fun word ↦ ⟨_, hreads word, fits_cut .., hjoined word⟩, fun word other heq ↦ ?_,
    fun fields hfits ↦ ?_⟩
  · exact hinj ((hreads word).unique (heq ▸ hreads other))
  · obtain ⟨word, hnumber⟩ := hword _ hfits.joined_lt
    have hfields : cut widths (bits word) = fields := by rw [hnumber, hfits.cut_joined]
    refine ⟨word, ?_, fun other hother ↦ ?_⟩
    · change Reads (print word) fields
      exact hfields ▸ hreads word
    · exact hinj (((hreads other).unique hother).trans hfields.symm)

/-! ### The words of driver versions -/

/-- The highest bits of a word need no mask. -/
theorem toNat_shiftRight_top (word : UInt32) {start length : Nat} (h : start + length = 32)
    (hlength : 0 < length) :
    (word >>> UInt32.ofNat start).toNat = VersionWord.field word start length := by
  have hstart : start < 32 := by omega
  have hword : word.toNat < 2 ^ start * 2 ^ length := by
    rw [← Nat.pow_add, h]
    exact word.toNat_lt
  rw [UInt32.toNat_shiftRight, UInt32.toNat_ofNat_of_lt' (by exact Nat.lt_trans hstart (by decide)),
    Nat.mod_eq_of_lt hstart, Nat.shiftRight_eq_div_pow, VersionWord.field,
    Nat.mod_eq_of_lt (Nat.div_lt_of_lt_mul hword)]

/-- The lowest bits of a word need no shift. -/
theorem toNat_and_low (word : UInt32) (length : Nat) (hlength : length < 32) :
    (word &&& UInt32.ofNat (2 ^ length - 1)).toNat = VersionWord.field word 0 length := by
  have h := VersionWord.toNat_field word 0 length (by decide) hlength
  rwa [show word >>> UInt32.ofNat 0 = word from UInt32.shiftRight_zero] at h

/-- The number of 64 bits with these words. -/
def pairNumber (words : UInt32 × UInt32) : Nat :=
  words.1.toNat * 2 ^ 32 + words.2.toNat

theorem packed_eq_halves (high low : UInt32) :
    packed high low = dotted [VersionWord.field high 16 16, VersionWord.field high 0 16,
      VersionWord.field low 16 16, VersionWord.field low 0 16] := by
  have hupper (word : UInt32) : (word >>> 16).toNat = VersionWord.field word 16 16 :=
    toNat_shiftRight_top word rfl (by decide)
  have hlower (word : UInt32) : (word &&& 0xFFFF).toNat = VersionWord.field word 0 16 :=
    toNat_and_low word 16 (by decide)
  rw [packed, hupper, hlower, hupper, hlower]

theorem packed_eq (high low : UInt32) :
    packed high low = dotted (cut [16, 16, 16, 16] (pairNumber (high, low))) := by
  have hlow := low.toNat_lt
  rw [packed_eq_halves]
  congr 1
  simp only [cut, pairNumber, VersionWord.field, List.sum_cons, List.sum_nil, List.cons.injEq,
    and_true]
  omega

theorem lossless_packed :
    Lossless [16, 16, 16, 16] pairNumber fun words ↦ packed words.1 words.2 := by
  refine lossless_of_print_eq (by simp) (fun words ↦ packed_eq words.1 words.2) ?_ ?_ ?_
  · rintro ⟨high, low⟩ ⟨high', low'⟩ heq
    have hlow := low.toNat_lt
    have hlow' := low'.toNat_lt
    simp only [pairNumber] at heq
    exact Prod.ext (UInt32.toNat_inj.mp (show high.toNat = high'.toNat by omega))
      (UInt32.toNat_inj.mp (show low.toNat = low'.toNat by omega))
  · rintro ⟨high, low⟩
    have hhigh := high.toNat_lt
    have hlow := low.toNat_lt
    show high.toNat * 2 ^ 32 + low.toNat < 2 ^ 64
    omega
  · intro n hn
    change n < 2 ^ 64 at hn
    refine ⟨(UInt32.ofNat (n / 2 ^ 32), UInt32.ofNat (n % 2 ^ 32)), ?_⟩
    rw [pairNumber, UInt32.toNat_ofNat_of_lt' (by omega : n / 2 ^ 32 < 2 ^ 32),
      UInt32.toNat_ofNat_of_lt' (by omega : n % 2 ^ 32 < 2 ^ 32), Nat.mul_comm, Nat.div_add_mod]

/-- The widths of the fields in the version word of a vendor's Vulkan drivers. -/
def layout (vendorId : UInt32) : List Nat :=
  if vendorId = nvidia then [10, 8, 8, 6] else [10, 10, 12]

theorem vulkan_eq (vendorId version : UInt32) :
    vulkan vendorId version = dotted (cut (layout vendorId) version.toNat) := by
  have hfield (start length : Nat) (hstart : start < 32) (hlength : length < 32) :=
    VersionWord.toNat_field version start length hstart hlength
  by_cases hvendor : vendorId = nvidia
  · have h₁ : ((version >>> 22) &&& 0x3FF).toNat = VersionWord.field version 22 10 :=
      hfield 22 10 (by decide) (by decide)
    have h₂ : ((version >>> 14) &&& 0xFF).toNat = VersionWord.field version 14 8 :=
      hfield 14 8 (by decide) (by decide)
    have h₃ : ((version >>> 6) &&& 0xFF).toNat = VersionWord.field version 6 8 :=
      hfield 6 8 (by decide) (by decide)
    have h₄ : (version &&& 0x3F).toNat = VersionWord.field version 0 6 :=
      toNat_and_low version 6 (by decide)
    rw [vulkan, layout, if_pos hvendor, if_pos hvendor, h₁, h₂, h₃, h₄]
    rfl
  · have h₁ : (version >>> 22).toNat = VersionWord.field version 22 10 :=
      toNat_shiftRight_top version rfl (by decide)
    have h₂ : ((version >>> 12) &&& 0x3FF).toNat = VersionWord.field version 12 10 :=
      hfield 12 10 (by decide) (by decide)
    have h₃ : (version &&& 0xFFF).toNat = VersionWord.field version 0 12 :=
      toNat_and_low version 12 (by decide)
    rw [vulkan, layout, if_neg hvendor, if_neg hvendor, h₁, h₂, h₃]
    rfl

theorem lossless_vulkan (vendorId : UInt32) :
    Lossless (layout vendorId) UInt32.toNat (vulkan vendorId) := by
  have hsum : (layout vendorId).sum = 32 := by
    unfold layout
    split <;> rfl
  have hne : layout vendorId ≠ [] := by
    intro hnil
    rw [hnil] at hsum
    cases hsum
  refine lossless_of_print_eq hne (vulkan_eq vendorId) (fun _ _ ↦ UInt32.toNat_inj.mp) ?_ ?_
  · intro version
    rw [hsum]
    exact version.toNat_lt
  · intro n hn
    rw [hsum] at hn
    exact ⟨UInt32.ofNat n, UInt32.toNat_ofNat_of_lt' hn⟩

/-! ### The signed number of Direct3D -/

/-- The bits of a signed number, as a number without a sign. -/
def bits64 (version : Int64) : Nat :=
  version.toBitVec.toNat

theorem toNat_lowerWord (version : Int64) :
    (Direct3D.lowerWord version).toNat = bits64 version % 2 ^ 32 :=
  UInt64.toNat_toUInt32 _

/-- The sign that is shifted in does not reach the upper word. -/
theorem toNat_upperWord (version : Int64) :
    (Direct3D.upperWord version).toNat = bits64 version / 2 ^ 32 := by
  have hshift : (version >>> 32).toBitVec = version.toBitVec.sshiftRight 32 := rfl
  have hword : (Direct3D.upperWord version).toNat =
      (version.toBitVec.sshiftRight 32).toNat % 2 ^ 32 := by
    rw [← hshift]
    exact UInt64.toNat_toUInt32 _
  have hsigned : (version.toBitVec.sshiftRight 32).toInt = version.toBitVec.toInt / 2 ^ 32 := by
    rw [BitVec.toInt_sshiftRight, Int.shiftRight_eq_div_pow]
    rfl
  rw [BitVec.toInt_eq_toNat_cond, BitVec.toInt_eq_toNat_cond] at hsigned
  have hshifted := (version.toBitVec.sshiftRight 32).isLt
  have hversion := version.toBitVec.isLt
  rw [hword, bits64]
  split at hsigned <;> split at hsigned <;> omega

/-- The two words have the bits of the signed number. -/
theorem pairNumber_words (version : Int64) :
    pairNumber (Direct3D.upperWord version, Direct3D.lowerWord version) = bits64 version := by
  rw [pairNumber, toNat_upperWord, toNat_lowerWord, Nat.mul_comm, Nat.div_add_mod]

theorem driverVersion_withVersion (identifier : Direct3D.Identifier) (version : Int64) :
    (identifier.withVersion version).toAdapter.driverVersion =
      dotted (cut [16, 16, 16, 16] (bits64 version)) := by
  rw [← pairNumber_words]
  exact packed_eq _ _

theorem lossless_direct3d (identifier : Direct3D.Identifier) :
    Lossless [16, 16, 16, 16] bits64 fun version ↦
      (identifier.withVersion version).toAdapter.driverVersion := by
  refine lossless_of_print_eq (by simp) (driverVersion_withVersion identifier) ?_ ?_ ?_
  · intro version other heq
    exact Int64.toBitVec_inj.mp (BitVec.eq_of_toNat_eq heq)
  · exact fun version ↦ version.toBitVec.isLt
  · exact fun n hn ↦ ⟨.ofBitVec (.ofNat 64 n), Nat.mod_eq_of_lt hn⟩

/-- The least negative version differs from zero in the highest bit of the first field. -/
example : packed (Direct3D.upperWord (-9223372036854775808))
    (Direct3D.lowerWord (-9223372036854775808)) = "32768.0.0.0" := by
  decide +kernel

/-- No driver version is printed like another: the halves of the two packed words are read off their
text, the record of Direct3D tells all bits of the signed number whatever else is in the record, and
for every vendor the fields of a version word share its bits out among them. -/
theorem driver_versions_lossless :
    (∀ high low : UInt32, ∃ a b c d, Reads (packed high low) [a, b, c, d] ∧
      a < 65536 ∧ b < 65536 ∧ c < 65536 ∧ d < 65536 ∧
      high.toNat = a * 65536 + b ∧ low.toNat = c * 65536 + d) ∧
    Lossless [16, 16, 16, 16] pairNumber (fun words ↦ packed words.1 words.2) ∧
    (∀ identifier : Direct3D.Identifier, Lossless [16, 16, 16, 16] bits64 fun version ↦
      (identifier.withVersion version).toAdapter.driverVersion) ∧
    (∀ (identifier other : Direct3D.Identifier) (version version' : Int64),
      (identifier.withVersion version).toAdapter.driverVersion =
        (other.withVersion version').toAdapter.driverVersion ↔ version = version') ∧
    ∀ vendorId, Lossless (layout vendorId) UInt32.toNat (vulkan vendorId) := by
  refine ⟨fun high low ↦ ?_, lossless_packed, lossless_direct3d, fun identifier other _ _ ↦ ?_,
    lossless_vulkan⟩
  · have hhigh := high.toNat_lt
    have hlow := low.toNat_lt
    refine ⟨_, _, _, _, packed_eq_halves high low ▸ reads_dotted (List.cons_ne_nil _ _),
      VersionWord.field_lt .., VersionWord.field_lt .., VersionWord.field_lt ..,
      VersionWord.field_lt .., ?_, ?_⟩
    · simp only [VersionWord.field]
      omega
    · simp only [VersionWord.field]
      omega
  · have hothers (version : Int64) : (other.withVersion version).toAdapter.driverVersion =
        (identifier.withVersion version).toAdapter.driverVersion := rfl
    rw [hothers]
    exact (lossless_direct3d identifier).injective.eq_iff

end HostProfile.DriverVersion
