import Mathlib

/-!
# Letters in two cases

A letter from A to Z has two cases, and no other character has (`SameLetter`). Texts may be the same
but for the case of such letters (`SameLetters`), and a text has a form in which all of them are
small and one in which all are capitals (`CaseForm`).

Characters are the same letter if mapping them to small letters makes them equal, and mapping them
to capitals does as well (`Folds`). So texts are the same but for case if they are mapped to the
same text (`Folds.sameLetters_iff`), and what a text is mapped to is its one form in this case
(`Folds.caseForm_iff`).
-/

set_option autoImplicit false
set_option relaxedAutoImplicit false

namespace HostProfile.Text

/-- The same character, or the capital and the small form of a letter from A to Z. -/
inductive SameLetter : Char → Char → Prop
  | refl (c : Char) : SameLetter c c
  | small {c : Char} (h : c.isUpper = true) : SameLetter c (Char.ofNat (c.toNat + 32))
  | capital {c : Char} (h : c.isUpper = true) : SameLetter (Char.ofNat (c.toNat + 32)) c

/-- The same text but for the case of the letters from A to Z. -/
def SameLetters (text other : String) : Prop :=
  List.Forall₂ SameLetter text.toList other.toList

/-- A form of a text in one case: it has the same letters, and none that is to be avoided. -/
structure CaseForm (avoided : Char → Bool) (text form : String) : Prop where
  letters : SameLetters text form
  avoids : ∀ c ∈ form.toList, avoided c = false

/-- The form of a text that has no capitals from A to Z. -/
abbrev SmallForm : String → String → Prop :=
  CaseForm Char.isUpper

/-- The form of a text that has no small letters from a to z. -/
abbrev CapitalForm : String → String → Prop :=
  CaseForm Char.isLower

/-! ### Letters -/

theorem sameLetter_toLower (c : Char) : SameLetter c c.toLower := by
  by_cases h : c.isUpper = true
  · rw [Char.toLower_eq_of_isUpper h]
    exact .small h
  · rw [Char.toLower_eq_of_not_isUpper h]
    exact .refl c

theorem SameLetter.symm {c d : Char} (h : SameLetter c d) : SameLetter d c := by
  cases h with
  | refl => exact .refl _
  | small h => exact .capital h
  | capital h => exact .small h

theorem SameLetter.toLower_eq {c d : Char} (h : SameLetter c d) : c.toLower = d.toLower := by
  cases h with
  | refl => rfl
  | small h => rw [← Char.toLower_eq_of_isUpper h, Char.toLower_toLower_eq_toLower]
  | capital h => rw [← Char.toLower_eq_of_isUpper h, Char.toLower_toLower_eq_toLower]

theorem toUpper_eq_iff {c d : Char} : c.toUpper = d.toUpper ↔ c.toLower = d.toLower := by
  constructor
  · intro h
    rw [← Char.toLower_toUpper_eq_toLower c, h, Char.toLower_toUpper_eq_toLower]
  · intro h
    rw [← Char.toUpper_toLower_eq_toUpper c, h, Char.toUpper_toLower_eq_toUpper]

/-- Characters are the same letter if they have the same small form, and only then. -/
theorem sameLetter_iff_toLower {c d : Char} : SameLetter c d ↔ c.toLower = d.toLower := by
  refine ⟨SameLetter.toLower_eq, fun h ↦ ?_⟩
  by_cases hd : d.isUpper = true
  · by_cases hc : c.isUpper = true
    · -- Capitals with the same small form are its one capital form.
      have hcapital : c.toUpper = d.toUpper := toUpper_eq_iff.mpr h
      rw [Char.toUpper_eq_of_not_isLower (Char.not_isLower_of_isUpper hc),
        Char.toUpper_eq_of_not_isLower (Char.not_isLower_of_isUpper hd)] at hcapital
      exact hcapital ▸ .refl c
    · rw [Char.toLower_eq_of_not_isUpper hc] at h
      exact h ▸ (sameLetter_toLower d).symm
  · rw [Char.toLower_eq_of_not_isUpper hd] at h
    exact h ▸ sameLetter_toLower c

theorem sameLetter_iff_toUpper {c d : Char} : SameLetter c d ↔ c.toUpper = d.toUpper :=
  sameLetter_iff_toLower.trans toUpper_eq_iff.symm

/-! ### Texts -/

theorem forall₂_iff_map_eq {fold : Char → Char} {cs ds : List Char} :
    List.Forall₂ (fun c d ↦ fold c = fold d) cs ds ↔ cs.map fold = ds.map fold := by
  rw [← List.forall₂_eq_eq_eq, List.forall₂_map_left_iff, List.forall₂_map_right_iff]

/-- A map of characters that makes the same letters equal, to letters of one case. -/
structure Folds (avoided : Char → Bool) (fold : Char → Char) : Prop where
  sameLetter_iff : ∀ c d, SameLetter c d ↔ fold c = fold d
  avoids : ∀ c, avoided (fold c) = false
  fixed : ∀ c, avoided c = false → fold c = c

theorem folds_toLower : Folds Char.isUpper Char.toLower where
  sameLetter_iff := fun _ _ ↦ sameLetter_iff_toLower
  avoids := Char.isUpper_toLower_eq_false
  fixed := fun _ h ↦ Char.toLower_eq_of_not_isUpper (Bool.eq_false_iff.mp h)

theorem folds_toUpper : Folds Char.isLower Char.toUpper where
  sameLetter_iff := fun _ _ ↦ sameLetter_iff_toUpper
  avoids := Char.isLower_toUpper_eq_false
  fixed := fun _ h ↦ Char.toUpper_eq_of_not_isLower (Bool.eq_false_iff.mp h)

section Folds

variable {avoided : Char → Bool} {fold : Char → Char} {text other form : String}

theorem Folds.sameLetters_iff_toList (h : Folds avoided fold) :
    SameLetters text other ↔ text.toList.map fold = other.toList.map fold := by
  have hsame : SameLetter = fun c d ↦ fold c = fold d :=
    funext₂ fun c d ↦ propext (h.sameLetter_iff c d)
  rw [SameLetters, hsame, forall₂_iff_map_eq]

theorem Folds.sameLetters_iff (h : Folds avoided fold) :
    SameLetters text other ↔ text.map fold = other.map fold := by
  rw [h.sameLetters_iff_toList, ← String.toList_inj, String.toList_map, String.toList_map]

theorem Folds.map_eq_self (h : Folds avoided fold) (hform : ∀ c ∈ form.toList, avoided c = false) :
    form.map fold = form := by
  rw [← String.toList_inj, String.toList_map]
  exact (List.map_congr_left fun c hc ↦ h.fixed c (hform c hc)).trans (List.map_id _)

theorem Folds.avoids_map (h : Folds avoided fold) :
    ∀ c ∈ (text.map fold).toList, avoided c = false := by
  intro c hc
  rw [String.toList_map] at hc
  obtain ⟨d, -, rfl⟩ := List.mem_map.mp hc
  exact h.avoids d

/-- The form of a text is what its characters are mapped to. -/
theorem Folds.caseForm_iff (h : Folds avoided fold) :
    CaseForm avoided text form ↔ form = text.map fold := by
  constructor
  · intro hform
    rw [h.sameLetters_iff.mp hform.letters, h.map_eq_self hform.avoids]
  · rintro rfl
    exact ⟨h.sameLetters_iff.mpr (h.map_eq_self h.avoids_map).symm, h.avoids_map⟩

theorem Folds.caseForm_congr (h : Folds avoided fold) (hsame : SameLetters text other) :
    CaseForm avoided text form ↔ CaseForm avoided other form := by
  rw [h.caseForm_iff, h.caseForm_iff, h.sameLetters_iff.mp hsame]

end Folds

instance : DecidableRel SameLetters := fun _ _ ↦
  decidable_of_iff _ folds_toLower.sameLetters_iff_toList.symm

end HostProfile.Text
