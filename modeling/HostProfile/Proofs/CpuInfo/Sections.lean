import HostProfile.CpuInfo
import HostProfile.Proofs.Text.Strip
import Mathlib.Data.List.Forall2

/-!
# How lines make sections

All that counts of a line is whether it is blank and which entry it has. Blanks around a line change
neither (`alike_append`), so a carriage return that is left at the end of a line is as good as one
that belongs to the line end, and a line may be read with it or without it
(`lines_append_return`, `lines_append_lineFeed`).

The sections of a list of lines depend on what counts of each line only (`sectionsFrom_congr`). A
blank line cuts the list in two (`sectionsFrom_append_blank`), and lines with entries put them into
the section one after the other (`sectionsFrom_append_entries`).
-/

set_option autoImplicit false
set_option relaxedAutoImplicit false

namespace HostProfile

namespace Text

/-! ### Blanks around a text -/

/-- Blanks before a text are trimmed. -/
theorem trim_append_left {pad : List Char} (h : isAllBlank pad = true) (cs : List Char) :
    trim (pad ++ cs) = trim cs :=
  strip_append_left h cs

/-- Blanks after a text are trimmed. -/
theorem trim_append_right {pad : List Char} (h : isAllBlank pad = true) (cs : List Char) :
    trim (cs ++ pad) = trim cs :=
  strip_append_right h cs

theorem mem_of_mem_trim {cs : List Char} {c : Char} (h : c ∈ trim cs) : c ∈ cs := by
  unfold trim strip stripEnd at h
  have hdrop : c ∈ cs.dropWhile isBlank := by
    simpa using (List.dropWhile_sublist isBlank).mem (List.mem_reverse.mp h)
  exact (List.dropWhile_sublist isBlank).mem hdrop

/-! ### Lines -/

/-- No line has a line feed in it. -/
theorem newline_notMem_of_mem_lines {cs line : List Char} (h : line ∈ lines cs) : '\n' ∉ line := by
  fun_induction lines cs generalizing line with
  | case1 => simp at h
  | case2 rest ih | case3 rest ih =>
    rcases List.mem_cons.mp h with rfl | h
    · simp
    · exact ih h
  | case4 c rest hlf _ ih =>
    have hc : '\n' ≠ c := fun heq ↦ hlf heq.symm
    cases hrest : lines rest with
    | nil =>
      obtain rfl : line = [c] := by simpa [hrest, prependToFirst] using h
      simpa using hc
    | cons first others =>
      rw [hrest] at ih h
      rcases List.mem_cons.mp h with rfl | h
      · have hfirst := ih List.mem_cons_self
        simp [hc, hfirst]
      · exact ih (List.mem_cons_of_mem _ h)

theorem lines_cons {c : Char} (hlf : c ≠ '\n') {rest : List Char}
    (hcrlf : c = '\r' → rest.head? ≠ some '\n') :
    lines (c :: rest) = prependToFirst c (lines rest) := by
  rw [lines]
  · exact hlf
  · rintro tail rfl rfl
    exact hcrlf rfl rfl

/-- A text without a line feed is one line. -/
theorem lines_of_newline_notMem {line : List Char} (hne : line ≠ []) (h : '\n' ∉ line) :
    lines line = [line] := by
  induction line with
  | nil => contradiction
  | cons c rest ih =>
    obtain ⟨hc, hrest⟩ : '\n' ≠ c ∧ '\n' ∉ rest := by simpa using h
    rw [lines_cons hc.symm]
    · cases rest with
      | nil => rfl
      | cons d more => rw [ih (by simp) hrest, prependToFirst]
    · intro _ hhead
      exact hrest (List.mem_of_head? hhead)

/-- A carriage return and a line feed end a line. -/
theorem lines_append_return {line : List Char} (h : '\n' ∉ line) (rest : List Char) :
    lines (line ++ '\r' :: '\n' :: rest) = line :: lines rest := by
  induction line with
  | nil => rfl
  | cons c more ih =>
    obtain ⟨hc, hmore⟩ : '\n' ≠ c ∧ '\n' ∉ more := by simpa using h
    rw [List.cons_append, lines_cons hc.symm, ih hmore, prependToFirst]
    intro _ hhead
    cases more with
    | nil => simp at hhead
    | cons d others =>
      have hd : d = '\n' := by simpa using hhead
      simp [hd] at hmore

/-- A line feed on its own ends a line, too. -/
theorem lines_append_lineFeed {line : List Char} (h : '\n' ∉ line)
    (hreturn : line.getLast? ≠ some '\r') (rest : List Char) :
    lines (line ++ '\n' :: rest) = line :: lines rest := by
  induction line with
  | nil => rfl
  | cons c more ih =>
    obtain ⟨hc, hmore⟩ : '\n' ≠ c ∧ '\n' ∉ more := by simpa using h
    have hlast : more.getLast? ≠ some '\r' := by
      intro heq
      apply hreturn
      rw [List.getLast?_cons, heq]
      rfl
    rw [List.cons_append, lines_cons hc.symm, ih hmore hlast, prependToFirst]
    rintro rfl hhead
    cases more with
    | nil => simp at hreturn
    | cons d others =>
      have hd : d = '\n' := by simpa using hhead
      simp [hd] at hmore

end Text

namespace CpuInfo

/-! ### What counts of a line -/

/-- Lines that are both blank or both not, and that have the same entry. -/
def Alike (first second : List Char) : Prop :=
  Text.isAllBlank first = Text.isAllBlank second ∧ entry? first = entry? second

theorem alike_refl (line : List Char) : Alike line line := ⟨rfl, rfl⟩

/-- The entry of a line with a colon, whose key and value are what stands at its sides. -/
theorem entry?_append_colon {before : List Char} (h : ':' ∉ before) (after : List Char) :
    entry? (before ++ ':' :: after) =
      some (String.ofList (Text.trim before), String.ofList (Text.trim after)) := by
  have hbefore : ∀ c ∈ before, (c != ':') = true := by
    rintro c hc
    rw [bne_iff_ne]
    rintro rfl
    exact h hc
  have hdrop : (before ++ ':' :: after).dropWhile (· != ':') = ':' :: after := by
    rw [List.dropWhile_append_of_pos hbefore, List.dropWhile_cons_of_neg (by simp)]
  have htake : (before ++ ':' :: after).takeWhile (· != ':') = before := by
    rw [List.takeWhile_append_of_pos hbefore, List.takeWhile_cons_of_neg (by simp),
      List.append_nil]
  unfold entry?
  rw [hdrop, htake]

theorem entry?_eq_none {line : List Char} (h : ':' ∉ line) : entry? line = none := by
  have hdrop : line.dropWhile (· != ':') = [] := by
    rw [Text.dropWhile_eq_nil_iff, List.all_eq_true]
    intro c hc
    rw [bne_iff_ne]
    rintro rfl
    exact h hc
  unfold entry?
  rw [hdrop]

/-- Blanks at its end change nothing that counts of a line. -/
theorem alike_append {pad : List Char} (h : Text.isAllBlank pad = true) (line : List Char) :
    Alike (line ++ pad) line := by
  have hcolon : ':' ∉ pad := by
    intro hmem
    have hblank := List.all_eq_true.mp h ':' hmem
    revert hblank
    decide
  constructor
  · have hpad : pad.all Text.isBlank = true := h
    rw [Text.isAllBlank, Text.isAllBlank, List.all_append, hpad, Bool.and_true]
  · by_cases hline : ':' ∈ line
    · obtain ⟨before, after, rfl, hbefore⟩ := List.eq_append_cons_of_mem hline
      rw [List.append_assoc, List.cons_append, entry?_append_colon hbefore,
        entry?_append_colon hbefore, Text.trim_append_right h]
    · have hboth : ':' ∉ line ++ pad := by simp [hline, hcolon]
      rw [entry?_eq_none hboth, entry?_eq_none hline]

/-- A blank line has no entry. -/
theorem entry?_of_isAllBlank {line : List Char} (h : Text.isAllBlank line = true) :
    entry? line = none :=
  (alike_append h []).2

/-! ### The sections of a list of lines -/

theorem sectionsFrom_cons {line : List Char} (h : Text.isAllBlank line = false) (s : Section)
    (rest : List (List Char)) :
    sectionsFrom s (line :: rest) = sectionsFrom (absorb s line) rest := by
  rw [sectionsFrom, h, if_neg Bool.false_ne_true]

theorem sectionsFrom_cons_blank {line : List Char} (h : Text.isAllBlank line = true) (s : Section)
    (rest : List (List Char)) :
    sectionsFrom s (line :: rest) = closed s ++ sectionsFrom ∅ rest := by
  rw [sectionsFrom, if_pos h]

/-- Lines that are alike one by one make the same sections. -/
theorem sectionsFrom_congr {first second : List (List Char)} (h : List.Forall₂ Alike first second)
    (s : Section) : sectionsFrom s first = sectionsFrom s second := by
  induction h generalizing s with
  | nil => rfl
  | cons halike _ ih =>
    unfold sectionsFrom absorb
    rw [halike.1, halike.2, ih, ih]

/-- A blank line ends a section, and the next begins afresh. -/
theorem sectionsFrom_append_blank {line : List Char} (h : Text.isAllBlank line = true)
    (s : Section) (before after : List (List Char)) :
    sectionsFrom s (before ++ line :: after) = sectionsFrom s before ++ sectionsFrom ∅ after := by
  induction before generalizing s with
  | nil =>
    rw [List.nil_append, sectionsFrom_cons_blank h, sectionsFrom]
  | cons first rest ih =>
    rw [List.cons_append]
    cases hfirst : Text.isAllBlank first with
    | true =>
      rw [sectionsFrom_cons_blank hfirst, sectionsFrom_cons_blank hfirst, ih, List.append_assoc]
    | false => rw [sectionsFrom_cons hfirst, sectionsFrom_cons hfirst, ih]

/-- Blank lines at the start make no section. -/
theorem sectionsFrom_blanks_append {lines : List (List Char)}
    (h : ∀ line ∈ lines, Text.isAllBlank line = true) (rest : List (List Char)) :
    sectionsFrom ∅ (lines ++ rest) = sectionsFrom ∅ rest := by
  induction lines with
  | nil => rfl
  | cons line others ih =>
    rw [List.forall_mem_cons] at h
    rw [List.cons_append, sectionsFrom_cons_blank h.1, ih h.2]
    rfl

/-- Lines with entries are put into the section that has begun. -/
theorem sectionsFrom_append_entries {lines : List (List Char)} {entries : List (String × String)}
    (h : List.Forall₂ (fun entry line ↦ entry? line = some entry) entries lines) (s : Section)
    (rest : List (List Char)) :
    sectionsFrom s (lines ++ rest) =
      sectionsFrom (entries.foldl (fun s entry ↦ s.insert entry.1 entry.2) s) rest := by
  induction h generalizing s with
  | nil => rfl
  | @cons entry line entries lines hline _ ih =>
    have hblank : Text.isAllBlank line = false := by
      rw [← Bool.not_eq_true]
      intro hblank
      rw [entry?_of_isAllBlank hblank] at hline
      contradiction
    rw [List.cons_append, sectionsFrom_cons hblank, absorb, hline, ih]
    rfl

/-- The entries of a section, each put in once and in any order, make up the section. -/
theorem foldl_insert_of_perm {entries : List (String × String)} {s : Section}
    (h : entries.Perm s.toList) :
    entries.foldl (fun s entry ↦ s.insert entry.1 entry.2) (∅ : Section) = s := by
  have hdistinct : entries.Pairwise fun a b ↦ ¬ compare a.1 b.1 = .eq :=
    h.symm.pairwise s.distinct_keys_toList fun hne heq ↦ hne (Std.OrientedCmp.eq_symm heq)
  have hfold : entries.foldl (fun s entry ↦ s.insert entry.1 entry.2) (∅ : Section) =
      Std.ExtTreeMap.ofList entries := Std.ExtTreeMap.ofList_eq_foldl.symm
  rw [hfold]
  apply Std.ExtTreeMap.ext_getElem?
  intro key
  cases hkey : s[key]? with
  | some value =>
    have hmem : (key, value) ∈ entries :=
      h.mem_iff.mpr (Std.ExtTreeMap.mem_toList_iff_getElem?_eq_some.mpr hkey)
    exact Std.ExtTreeMap.getElem?_ofList_of_mem Std.ReflCmp.compare_self hdistinct hmem
  | none =>
    apply Std.ExtTreeMap.getElem?_ofList_of_contains_eq_false
    rw [Bool.eq_false_iff]
    intro hcontains
    obtain ⟨value, hmem⟩ : ∃ value, (key, value) ∈ entries := by simpa using hcontains
    have hsome := Std.ExtTreeMap.mem_toList_iff_getElem?_eq_some.mp (h.mem_iff.mp hmem)
    rw [hkey] at hsome
    contradiction

end CpuInfo

end HostProfile
