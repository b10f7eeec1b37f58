import HostProfile.Text.Blank

/-!
# What stripping leaves

Members of a class around a text make no difference to what is left when the class is stripped off
(`strip_append_left`, `strip_append_right`). So what is left is told without the way it is found: it
is the only part of the text that neither begins nor ends with a member and has nothing but members
around it (`core_iff`).
-/

set_option autoImplicit false
set_option relaxedAutoImplicit false

namespace HostProfile.Text

variable {p : Char → Bool} {pad : List Char}

theorem dropWhile_append_of_all (h : pad.all p = true) (cs : List Char) :
    (pad ++ cs).dropWhile p = cs.dropWhile p :=
  List.dropWhile_append_of_pos fun c hc ↦ List.all_eq_true.mp h c hc

theorem strip_append_left (h : pad.all p = true) (cs : List Char) :
    strip p (pad ++ cs) = strip p cs := by
  rw [strip, dropWhile_append_of_all h, strip]

theorem strip_append_right (h : pad.all p = true) (cs : List Char) :
    strip p (cs ++ pad) = strip p cs := by
  have hreverse : pad.reverse.all p = true := by
    rw [List.all_reverse]
    exact h
  unfold strip stripEnd
  rw [List.dropWhile_append]
  by_cases hcs : cs.dropWhile p = []
  · have hpad : pad.dropWhile p = [] := (dropWhile_eq_nil_iff p pad).mpr h
    simp [hcs, hpad]
  · have hisEmpty : (cs.dropWhile p).isEmpty = false := by simpa using hcs
    rw [hisEmpty, if_neg Bool.false_ne_true, List.reverse_append,
      dropWhile_append_of_all hreverse]

/-- The part of a text between the members of a class that stand around it. -/
structure Core (p : Char → Bool) (cs core : List Char) : Prop where
  padded : ∃ before after, cs = before ++ core ++ after ∧ before.all p = true ∧ after.all p = true
  head : ∀ c ∈ core.head?, p c = false
  last : ∀ c ∈ core.getLast?, p c = false

theorem exists_append_dropWhile (p : Char → Bool) (cs : List Char) :
    ∃ before, cs = before ++ cs.dropWhile p ∧ before.all p = true :=
  ⟨cs.takeWhile p, List.takeWhile_append_dropWhile.symm, List.all_takeWhile⟩

theorem exists_stripEnd_append (p : Char → Bool) (cs : List Char) :
    ∃ after, cs = stripEnd p cs ++ after ∧ after.all p = true := by
  obtain ⟨before, hcs, hbefore⟩ := exists_append_dropWhile p cs.reverse
  refine ⟨before.reverse, ?_, by rwa [List.all_reverse]⟩
  rw [stripEnd, ← List.reverse_append, ← hcs, List.reverse_reverse]

/-- What stripping leaves is a core. -/
theorem core_strip (p : Char → Bool) (cs : List Char) : Core p cs (strip p cs) where
  padded := by
    obtain ⟨before, hcs, hbefore⟩ := exists_append_dropWhile p cs
    obtain ⟨after, hdrop, hafter⟩ := exists_stripEnd_append p (cs.dropWhile p)
    refine ⟨before, after, ?_, hbefore, hafter⟩
    rw [List.append_assoc, strip, ← hdrop, ← hcs]
  head := head?_strip p cs
  last := getLast?_strip p cs

/-- A text has one core, and it is what stripping leaves. -/
theorem core_iff {cs core : List Char} : Core p cs core ↔ core = strip p cs := by
  constructor
  · intro h
    obtain ⟨before, after, rfl, hbefore, hafter⟩ := h.padded
    rw [strip_append_right hafter, strip_append_left hbefore, strip_eq_self h.head h.last]
  · rintro rfl
    exact core_strip p cs

end HostProfile.Text
