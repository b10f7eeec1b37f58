/-!
# Blank characters and trimming

`isBlank` is the Unicode property White_Space. `strip` removes the characters of any class from
both ends of a text, `trim` those that are blank, and `isAllBlank` says that nothing else is there.

`strip_eq_nil_iff` says when nothing is left. `strip_eq_self` and `strip_strip` say that a text
without a leading or trailing member of the class is left alone, so that stripping twice is
stripping once.
-/

set_option autoImplicit false
set_option relaxedAutoImplicit false

namespace HostProfile.Text

/-- The characters with the Unicode property White_Space. -/
def isBlank (c : Char) : Bool :=
  (0x09 ≤ c.toNat && c.toNat ≤ 0x0D) || c.toNat == 0x20 || c.toNat == 0x85 || c.toNat == 0xA0 ||
    c.toNat == 0x1680 || (0x2000 ≤ c.toNat && c.toNat ≤ 0x200A) || c.toNat == 0x2028 ||
    c.toNat == 0x2029 || c.toNat == 0x202F || c.toNat == 0x205F || c.toNat == 0x3000

/-- The characters of a text without the members of a class at its end. -/
def stripEnd (p : Char → Bool) (cs : List Char) : List Char :=
  (cs.reverse.dropWhile p).reverse

/-- The characters of a text without the members of a class at either end. -/
def strip (p : Char → Bool) (cs : List Char) : List Char :=
  stripEnd p (cs.dropWhile p)

/-- The characters of a text without the blank ones at either end. -/
def trim (cs : List Char) : List Char :=
  strip isBlank cs

/-- Whether a text has no character that is not blank. -/
def isAllBlank (cs : List Char) : Bool :=
  cs.all isBlank

/-- A text without the blank characters at either end. -/
def trimmed (text : String) : String :=
  String.ofList (trim text.toList)

/-- Whether a text has no character that is not blank. -/
def blank (text : String) : Bool :=
  isAllBlank text.toList

theorem dropWhile_eq_nil_iff (p : Char → Bool) (cs : List Char) :
    cs.dropWhile p = [] ↔ cs.all p = true := by
  induction cs with
  | nil => simp
  | cons c r ih => by_cases h : p c <;> simp [h, ih]

theorem strip_eq_nil_iff (p : Char → Bool) (cs : List Char) :
    strip p cs = [] ↔ cs.all p = true := by
  have hend : ∀ ds : List Char, stripEnd p ds = [] ↔ ds.all p = true := by
    intro ds
    rw [stripEnd, List.reverse_eq_nil_iff, dropWhile_eq_nil_iff, List.all_reverse]
  rw [strip, hend]
  induction cs with
  | nil => simp
  | cons c r ih => by_cases h : p c <;> simp [h, ih]

theorem trim_eq_nil_iff (cs : List Char) : trim cs = [] ↔ isAllBlank cs = true :=
  strip_eq_nil_iff isBlank cs

theorem dropWhile_eq_self {p : Char → Bool} {cs : List Char} (h : ∀ c ∈ cs.head?, p c = false) :
    cs.dropWhile p = cs := by
  cases cs with
  | nil => rfl
  | cons c r => simp [h c (by simp)]

theorem strip_eq_self {p : Char → Bool} {cs : List Char} (hhead : ∀ c ∈ cs.head?, p c = false)
    (hlast : ∀ c ∈ cs.getLast?, p c = false) : strip p cs = cs := by
  rw [strip, dropWhile_eq_self hhead, stripEnd, dropWhile_eq_self, List.reverse_reverse]
  simpa using hlast

theorem head?_dropWhile (p : Char → Bool) (cs : List Char) :
    ∀ c ∈ (cs.dropWhile p).head?, p c = false := by
  induction cs with
  | nil => simp
  | cons c r ih => by_cases h : p c <;> simp_all

theorem getLast?_stripEnd (p : Char → Bool) (cs : List Char) :
    ∀ c ∈ (stripEnd p cs).getLast?, p c = false := by
  simpa [stripEnd] using head?_dropWhile p cs.reverse

theorem stripEnd_append_of_head (p : Char → Bool) (c : Char) (r : List Char) (h : p c = false) :
    ∃ s, stripEnd p (c :: r) = c :: s := by
  have hdrop : ∀ ds : List Char, ∃ s, (ds ++ [c]).dropWhile p = s ++ [c] := by
    intro ds
    induction ds with
    | nil => exact ⟨[], by simp [h]⟩
    | cons d s ih =>
      by_cases hd : p d
      · simpa [hd] using ih
      · exact ⟨d :: s, by simp [hd]⟩
  obtain ⟨s, hs⟩ := hdrop r.reverse
  exact ⟨s.reverse, by simp [stripEnd, hs]⟩

theorem head?_strip (p : Char → Bool) (cs : List Char) :
    ∀ c ∈ (strip p cs).head?, p c = false := by
  have hhead := head?_dropWhile p cs
  rw [strip]
  cases hd : cs.dropWhile p with
  | nil => simp [stripEnd]
  | cons c r =>
    obtain ⟨s, hs⟩ := stripEnd_append_of_head p c r (hhead c (by simp [hd]))
    simpa [hs, hd] using hhead

theorem getLast?_strip (p : Char → Bool) (cs : List Char) :
    ∀ c ∈ (strip p cs).getLast?, p c = false :=
  getLast?_stripEnd p _

theorem strip_strip (p : Char → Bool) (cs : List Char) : strip p (strip p cs) = strip p cs :=
  strip_eq_self (head?_strip p cs) (getLast?_strip p cs)

theorem trim_trim (cs : List Char) : trim (trim cs) = trim cs :=
  strip_strip isBlank cs

end HostProfile.Text
