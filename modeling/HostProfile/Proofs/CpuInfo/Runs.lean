import HostProfile.Proofs.CpuInfo.Cores
import HostProfile.Proofs.CpuInfo.Rendering
import Mathlib.Logic.Relation

/-!
# Runs of lines

A section is what a run of lines without a blank one comes to, if there is a colon in it, and of the
entries of the run with some key the last counts (`sectionsFrom_empty`, `getElem?_ofRun`). So a text
can be laid out otherwise without a change to its sections (`Relaid`): lines without a colon come
and go, blank lines are put next to others or at the ends, and lines with different keys change
places. Nor does it matter how the lines are ended. Two texts with a blank line between them are
read one after the other (`sections_parse_append`).

None of this asks that the text be well-formed. Every text is made up of some lines, each but the
last with an end (`ended_lines`), and that is all that is used of it.
-/

set_option autoImplicit false
set_option relaxedAutoImplicit false

namespace HostProfile.CpuInfo

/-! ### Runs -/

/-- The section of a run of lines. -/
def ofRun (run : List (List Char)) : Section :=
  run.foldl absorb ∅

/-- The maximal runs of lines that are not blank, of those that have a colon somewhere. -/
def runs (lines : List (List Char)) : List (List (List Char)) :=
  (lines.splitOnP Text.isAllBlank).filter (·.any (·.contains ':'))

/-- A run is put into the section that has begun. -/
theorem sectionsFrom_append_run {run : List (List Char)}
    (h : ∀ line ∈ run, Text.isAllBlank line = false) (s : Section) (rest : List (List Char)) :
    sectionsFrom s (run ++ rest) = sectionsFrom (run.foldl absorb s) rest := by
  induction run generalizing s with
  | nil => rfl
  | cons line run ih =>
    rw [List.forall_mem_cons] at h
    rw [List.cons_append, sectionsFrom_cons h.1, ih h.2, List.foldl_cons]

theorem exists_entry {line : List Char} (h : ':' ∈ line) : ∃ entry, entry? line = some entry := by
  obtain ⟨before, after, rfl, hbefore⟩ := List.eq_append_cons_of_mem h
  exact ⟨_, entry?_append_colon hbefore after⟩

theorem absorb_of_entry?_eq_none {line : List Char} (h : entry? line = none) (s : Section) :
    absorb s line = s := by
  rw [absorb, h]

/-- In a section, the last entry of a run with a key counts, else what was there before. -/
theorem getElem?_foldl_absorb (run : List (List Char)) (s : Section) (key : String) :
    (run.foldl absorb s)[key]? = ((run.filterMap entry?).reverse.lookup key).or s[key]? := by
  induction run generalizing s with
  | nil => rfl
  | cons line run ih =>
    rw [List.foldl_cons, ih]
    cases hentry : entry? line with
    | none => rw [absorb_of_entry?_eq_none hentry, List.filterMap_cons_none hentry]
    | some entry =>
      have habsorb : (absorb s line)[key]? = if entry.1 = key then some entry.2 else s[key]? := by
        rw [absorb, hentry]
        simp [Std.ExtTreeMap.getElem?_insert]
      rw [habsorb, List.filterMap_cons_some hentry, List.reverse_cons, List.lookup_append,
        Option.or_assoc]
      congr 1
      by_cases hkey : entry.1 = key
      · subst hkey
        rw [List.lookup_cons_self, if_pos rfl, Option.some_or]
      · have hne : (key == entry.1) = false := by simpa using Ne.symm hkey
        rw [List.lookup_cons, hne, if_neg hkey]
        rfl

theorem getElem?_ofRun (run : List (List Char)) (key : String) :
    (ofRun run)[key]? = (run.filterMap entry?).reverse.lookup key := by
  rw [ofRun, getElem?_foldl_absorb]
  simp

theorem ofRun_eq_empty_iff (run : List (List Char)) :
    ofRun run = ∅ ↔ run.any (·.contains ':') = false := by
  constructor
  · intro hempty
    rw [List.any_eq_false]
    intro line hline hcolon
    obtain ⟨entry, hentry⟩ := exists_entry (List.contains_iff_mem.mp hcolon)
    have hmem : entry ∈ (run.filterMap entry?).reverse :=
      List.mem_reverse.mpr (List.mem_filterMap.mpr ⟨line, hline, hentry⟩)
    have hfound := List.lookup_isSome_iff.mpr ⟨entry, hmem, beq_self_eq_true entry.1⟩
    rw [← getElem?_ofRun, hempty] at hfound
    simp at hfound
  · intro hcolon
    have hentries : run.filterMap entry? = [] := by
      rw [List.filterMap_eq_nil_iff]
      intro line hline
      apply entry?_eq_none
      rw [← List.contains_iff_mem]
      exact List.any_eq_false.mp hcolon line hline
    apply Std.ExtTreeMap.ext_getElem?
    intro key
    rw [getElem?_ofRun, hentries]
    simp

/-- A run comes to nothing if it has no colon. -/
theorem closed_ofRun (run : List (List Char)) :
    closed (ofRun run) = if run.any (·.contains ':') then [ofRun run] else [] := by
  have hempty : (ofRun run).isEmpty = true ↔ run.any (·.contains ':') = false :=
    Std.ExtTreeMap.isEmpty_iff.trans (ofRun_eq_empty_iff run)
  cases hcolon : run.any (·.contains ':') with
  | false => rw [closed, if_pos (hempty.mpr hcolon), if_neg Bool.false_ne_true]
  | true =>
    rw [closed, if_neg, if_pos rfl]
    rw [hempty, hcolon]
    exact Bool.noConfusion

theorem sectionsFrom_eq (s : Section) {lines first : List (List Char)}
    {others : List (List (List Char))} (h : lines.splitOnP Text.isAllBlank = first :: others) :
    sectionsFrom s lines =
      closed (first.foldl absorb s) ++ others.flatMap fun run ↦ closed (ofRun run) := by
  -- Only the first run goes into the section that has begun; it may be empty.
  induction lines generalizing s first others with
  | nil =>
    obtain ⟨rfl, rfl⟩ := List.cons.inj (List.splitOnP_nil.symm.trans h)
    simp [sectionsFrom]
  | cons line rest ih =>
    obtain ⟨next, more, hrest⟩ :=
      List.exists_cons_of_ne_nil (List.splitOnP_ne_nil Text.isAllBlank rest)
    rw [List.splitOnP_cons_eq_if_modifyHead, hrest] at h
    rw [sectionsFrom]
    split at h
    · rename_i hblank
      obtain ⟨rfl, rfl⟩ := List.cons.inj h
      rw [if_pos hblank, ih ∅ hrest]
      rfl
    · rename_i hblank
      obtain ⟨rfl, rfl⟩ := List.cons.inj h
      rw [if_neg hblank, ih _ hrest]
      rfl

/-- The sections that lines make are those of their runs. -/
theorem sectionsFrom_empty (lines : List (List Char)) :
    sectionsFrom ∅ lines = (runs lines).map ofRun := by
  obtain ⟨first, others, hsplit⟩ :=
    List.exists_cons_of_ne_nil (List.splitOnP_ne_nil Text.isAllBlank lines)
  have hflat : sectionsFrom ∅ lines =
      (lines.splitOnP Text.isAllBlank).flatMap fun run ↦ closed (ofRun run) := by
    rw [sectionsFrom_eq ∅ hsplit, hsplit, List.flatMap_cons]
    rfl
  rw [hflat, runs]
  induction lines.splitOnP Text.isAllBlank with
  | nil => rfl
  | cons run rest ih =>
    rw [List.flatMap_cons, ih, closed_ofRun, List.filter_cons]
    split <;> rfl

/-! ### Layout -/

/-- Whether a line has an entry with a key. -/
def hasKey (key : String) (line : List Char) : Bool :=
  entry? line |>.any (·.1 = key)

/-- Lines that are laid out otherwise in one place. -/
inductive Relaid : List (List Char) → List (List Char) → Prop
  /-- A line without a colon that is not blank is put in. -/
  | remark (before after : List (List Char)) {line : List Char}
      (hline : Text.isAllBlank line = false) (hcolon : ':' ∉ line) :
      Relaid (before ++ after) (before ++ line :: after)
  /-- A blank line is put before a blank line. -/
  | blankBefore (before after : List (List Char)) {line gap : List Char}
      (hline : Text.isAllBlank line = true) (hgap : Text.isAllBlank gap = true) :
      Relaid (before ++ line :: after) (before ++ gap :: line :: after)
  /-- A blank line is put behind a blank line. -/
  | blankBehind (before after : List (List Char)) {line gap : List Char}
      (hline : Text.isAllBlank line = true) (hgap : Text.isAllBlank gap = true) :
      Relaid (before ++ line :: after) (before ++ line :: gap :: after)
  /-- A blank line is put in front. -/
  | blankFirst (lines : List (List Char)) {gap : List Char} (hgap : Text.isAllBlank gap = true) :
      Relaid lines (gap :: lines)
  /-- A blank line is put at the end. -/
  | blankLast (lines : List (List Char)) {gap : List Char} (hgap : Text.isAllBlank gap = true) :
      Relaid lines (lines ++ [gap])
  /-- Lines of a section change places, but lines with the same key stay in order. -/
  | reordered (before after : List (List Char)) {first second : List (List Char)}
      (hlines : ∀ line ∈ first, Text.isAllBlank line = false) (hperm : first.Perm second)
      (hkeys : ∀ key, first.filter (hasKey key) = second.filter (hasKey key)) :
      Relaid (before ++ (first ++ after)) (before ++ (second ++ after))

/-- What stands before may be left out of the account. -/
theorem sectionsFrom_append_congr {first second : List (List Char)}
    (h : ∀ s, sectionsFrom s first = sectionsFrom s second) (before : List (List Char))
    (s : Section) : sectionsFrom s (before ++ first) = sectionsFrom s (before ++ second) := by
  induction before generalizing s with
  | nil => exact h s
  | cons line rest ih =>
    rw [List.cons_append, List.cons_append, sectionsFrom, sectionsFrom]
    split
    · rw [ih]
    · exact ih _

/-- What is found under a key hangs on the lines with this key. -/
theorem lookup_entries_filter (lines : List (List Char)) (key : String) :
    (lines.filterMap entry?).reverse.lookup key =
      ((lines.filter (hasKey key)).filterMap entry?).reverse.lookup key := by
  induction lines with
  | nil => rfl
  | cons line rest ih =>
    cases hentry : entry? line with
    | none =>
      have hkey : hasKey key line = false := by rw [hasKey, hentry]; rfl
      rw [List.filterMap_cons_none hentry, ih, List.filter_cons, hkey, if_neg Bool.false_ne_true]
    | some entry =>
      rw [List.filterMap_cons_some hentry, List.reverse_cons, List.lookup_append, ih]
      by_cases hkey : entry.1 = key
      · have hline : hasKey key line = true := by simp [hasKey, hentry, hkey]
        rw [List.filter_cons_of_pos hline, List.filterMap_cons_some hentry, List.reverse_cons,
          List.lookup_append]
      · have hline : ¬ hasKey key line = true := by simp [hasKey, hentry, hkey]
        have hne : (key == entry.1) = false := by simpa using Ne.symm hkey
        rw [List.filter_cons_of_neg hline]
        rw [List.lookup_cons, hne, List.lookup_nil, Option.or_none]

/-- Lines make the same of a section if for every key they have the same lines in the same order. -/
theorem foldl_absorb_congr {first second : List (List Char)}
    (h : ∀ key, first.filter (hasKey key) = second.filter (hasKey key)) (s : Section) :
    first.foldl absorb s = second.foldl absorb s := by
  apply Std.ExtTreeMap.ext_getElem?
  intro key
  rw [getElem?_foldl_absorb, getElem?_foldl_absorb, lookup_entries_filter, h,
    ← lookup_entries_filter]

/-- Lines that are laid out otherwise make the same sections. -/
theorem Relaid.sectionsFrom_eq {first second : List (List Char)} (h : Relaid first second) :
    sectionsFrom ∅ first = sectionsFrom ∅ second := by
  cases h with
  | remark _ _ hline hcolon =>
    refine sectionsFrom_append_congr (fun s ↦ ?_) _ _
    rw [sectionsFrom_cons hline, absorb_of_entry?_eq_none (entry?_eq_none hcolon)]
  | blankBefore _ _ hline hgap =>
    refine sectionsFrom_append_congr (fun s ↦ ?_) _ _
    rw [sectionsFrom_cons_blank hline, sectionsFrom_cons_blank hgap, sectionsFrom_cons_blank hline]
    rfl
  | blankBehind _ _ hline hgap =>
    refine sectionsFrom_append_congr (fun s ↦ ?_) _ _
    rw [sectionsFrom_cons_blank hline, sectionsFrom_cons_blank hline, sectionsFrom_cons_blank hgap]
    rfl
  | blankFirst _ hgap =>
    rw [sectionsFrom_cons_blank hgap]
    rfl
  | blankLast _ hgap =>
    rw [sectionsFrom_append_blank hgap]
    exact (List.append_nil _).symm
  | reordered _ _ hlines hperm hkeys =>
    refine sectionsFrom_append_congr (fun s ↦ ?_) _ _
    have hsecond := fun line hline ↦ hlines line (hperm.mem_iff.mpr hline)
    rw [sectionsFrom_append_run hlines, sectionsFrom_append_run hsecond, foldl_absorb_congr hkeys]

/-- Two lines with different keys change places. -/
theorem relaid_swap (before after : List (List Char)) {first second : List Char}
    (hfirst : Text.isAllBlank first = false) (hsecond : Text.isAllBlank second = false)
    (hkeys : ∀ key, ¬ (hasKey key first = true ∧ hasKey key second = true)) :
    Relaid (before ++ first :: second :: after) (before ++ second :: first :: after) := by
  have hpair (key : String) :
      [first, second].filter (hasKey key) = [second, first].filter (hasKey key) := by
    have hkey := hkeys key
    by_cases h : hasKey key first = true
    · have hother : ¬ hasKey key second = true := fun hother ↦ hkey ⟨h, hother⟩
      simp [h, hother]
    · simp [List.filter_cons, h]
  have hlines : ∀ line ∈ [first, second], Text.isAllBlank line = false := by simp [hfirst, hsecond]
  exact .reordered before after hlines (List.Perm.swap second first []) hpair

/-- This goes for any number of such changes, made or taken back. -/
theorem sectionsFrom_eq_of_eqvGen {first second : List (List Char)}
    (h : Relation.EqvGen Relaid first second) : sectionsFrom ∅ first = sectionsFrom ∅ second := by
  induction h with
  | rel _ _ hrelaid => exact hrelaid.sectionsFrom_eq
  | refl => rfl
  | symm _ _ _ ih => exact ih.symm
  | trans _ _ _ _ _ ihfirst ihsecond => exact ihfirst.trans ihsecond

/-! ### Texts -/

/-- A text with a carriage return before every line feed. -/
def withReturns (text : List Char) : List Char :=
  text.flatMap fun c ↦ if c = '\n' then ['\r', '\n'] else [c]

/-- Carriage returns before the line feeds leave the lines as they are, up to where they end. -/
theorem exists_ended_withReturns {line : List Char} (hline : '\n' ∉ line) (text : List Char) :
    ∃ lines, (∀ other ∈ lines, '\n' ∉ other) ∧ Ended lines (line ++ text) ∧
      Ended lines (line ++ withReturns text) := by
  -- The line that has begun is carried along: a carriage return at its end belongs to it, whether
  -- or not another one is put behind.
  induction text generalizing line with
  | nil =>
    rw [List.append_nil]
    cases line with
    | nil => exact ⟨[], by simp, .nil, .nil⟩
    | cons c rest =>
      have hended : Ended [c :: rest] (c :: rest) := .unended (List.cons_ne_nil c rest)
      exact ⟨[c :: rest], by simpa using hline, hended, by simpa [withReturns] using hended⟩
  | cons c rest ih =>
    by_cases hc : c = '\n'
    · obtain ⟨lines, hlines, hplain, hreturns⟩ := ih List.not_mem_nil
      have hfirst : Ended (line :: lines) (line ++ ['\n'] ++ rest) := .cons .lineFeed hplain
      have hsecond : Ended (line :: lines) (line ++ ['\r', '\n'] ++ withReturns rest) :=
        .cons .returnLineFeed hreturns
      exact ⟨line :: lines, List.forall_mem_cons.mpr ⟨hline, hlines⟩, by simpa [hc] using hfirst,
        by simpa [withReturns, hc] using hsecond⟩
    · have hnext : '\n' ∉ line ++ [c] := by simp [hline, Ne.symm hc]
      obtain ⟨lines, hlines, hplain, hreturns⟩ := ih hnext
      refine ⟨lines, hlines, by simpa using hplain, ?_⟩
      simpa [withReturns, hc] using hreturns

theorem parse_withReturns (text : String) :
    parse (String.ofList (withReturns text.toList)) = parse text := by
  obtain ⟨lines, hlines, hplain, hreturns⟩ :=
    exists_ended_withReturns List.not_mem_nil text.toList
  have hother : Ended lines (String.ofList (withReturns text.toList)).toList := by
    simpa using hreturns
  rw [hother.parse_eq hlines, Ended.parse_eq hplain hlines]

/-- Two line feeds after a text leave a blank line there. -/
theorem Ended.exists_gap {first second : List (List Char)} {text other : List Char}
    (h : Ended first text) (hother : Ended second other) :
    ∃ gap, (∀ line ∈ gap, line = []) ∧
      Ended (first ++ [] :: (gap ++ second)) (text ++ '\n' :: '\n' :: other) := by
  have hblank : Ended ([] :: second) ('\n' :: other) := .cons .lineFeed hother
  induction h with
  | nil =>
    have hended : Ended ([] :: [] :: second) ('\n' :: '\n' :: other) := .cons .lineFeed hblank
    exact ⟨[[]], by simp, hended⟩
  | @unended line =>
    have hended : Ended (line :: [] :: second) (line ++ ['\n'] ++ '\n' :: other) :=
      .cons .lineFeed hblank
    exact ⟨[], by simp, by simpa using hended⟩
  | cons hend _ ih =>
    obtain ⟨gap, hgap, hrest⟩ := ih
    exact ⟨gap, hgap, by simpa using Ended.cons hend hrest⟩

/-- A text, a blank line and another text are read one after the other. -/
theorem sections_parse_append (text other : String) :
    (parse (text ++ "\n\n" ++ other)).sections =
      (parse text).sections ++ (parse other).sections := by
  have hlines (text : String) : ∀ line ∈ Text.lines text.toList, '\n' ∉ line :=
    fun _ hline ↦ Text.newline_notMem_of_mem_lines hline
  obtain ⟨gap, hgap, hended⟩ :=
    (ended_lines text.toList).exists_gap (ended_lines other.toList)
  have htext : Ended (Text.lines text.toList ++ [] :: (gap ++ Text.lines other.toList))
      (text ++ "\n\n" ++ other).toList := by
    simpa using hended
  have hwhole : ∀ line ∈ Text.lines text.toList ++ [] :: (gap ++ Text.lines other.toList),
      '\n' ∉ line := by
    intro line hline
    simp only [List.mem_append, List.mem_cons] at hline
    rcases hline with hline | rfl | hline | hline
    · exact hlines text line hline
    · exact List.not_mem_nil
    · exact hgap line hline ▸ List.not_mem_nil
    · exact hlines other line hline
  have hblank : ∀ line ∈ gap, Text.isAllBlank line = true := fun line hline ↦ hgap line hline ▸ rfl
  have hempty : Text.isAllBlank [] = true := rfl
  rw [htext.parse_eq hwhole, sectionsFrom_append_blank hempty, sectionsFrom_blanks_append hblank]
  rfl

theorem logicalCpus_parse_append (text other : String) (architecture : Architecture) :
    (parse (text ++ "\n\n" ++ other)).logicalCpus architecture =
      (parse text).logicalCpus architecture + (parse other).logicalCpus architecture := by
  have hprocessors : (parse (text ++ "\n\n" ++ other)).processors architecture =
      (parse text).processors architecture ++ (parse other).processors architecture := by
    cases architecture with
    | x86 | x64 => exact sections_parse_append text other
    | arm => simp only [processors, sections_parse_append, List.filter_append]
  rw [logicalCpus_eq, logicalCpus_eq, logicalCpus_eq, hprocessors, List.length_append,
    UInt32.ofNat_add]

/-! ### Reading by runs -/

/-- How the lines of a text make up its sections. -/
structure ReadByRuns (text : String) : Prop where
  /-- Whatever text comes after a blank line is read on its own. -/
  append : ∀ other, (parse (text ++ "\n\n" ++ other)).sections =
    (parse text).sections ++ (parse other).sections
  counts : ∀ other architecture, (parse (text ++ "\n\n" ++ other)).logicalCpus architecture =
    (parse text).logicalCpus architecture + (parse other).logicalCpus architecture
  returns : parse (String.ofList (withReturns text.toList)) = parse text
  /-- A text is made up of its lines. -/
  ended : Ended (Text.lines text.toList) text.toList
  /-- Any text that is made up of the same lines, laid out otherwise, is read as the same. -/
  relaid : ∀ (lines others : List (List Char)) (other : String),
    (∀ line ∈ lines, '\n' ∉ line) → (∀ line ∈ others, '\n' ∉ line) →
    Ended lines text.toList → Ended others other.toList → Relation.EqvGen Relaid lines others →
    parse other = parse text
  /-- There is one section for each run of lines that has a colon. -/
  sections : (parse text).sections = (runs (Text.lines text.toList)).map ofRun
  length : (parse text).sections.length = (runs (Text.lines text.toList)).length
  /-- In a run, the last of the entries with a key counts. -/
  last : ∀ (run : List (List Char)) (key : String),
    (ofRun run)[key]? = (run.filterMap entry?).reverse.lookup key

/-- Every text is read by the runs of its lines, well-formed or not. -/
theorem read_by_runs (text : String) : ReadByRuns text where
  append := sections_parse_append text
  counts := logicalCpus_parse_append text
  returns := parse_withReturns text
  ended := ended_lines text.toList
  relaid := by
    intro lines others other hlines hothers hended hother hrelaid
    rw [hother.parse_eq hothers, Ended.parse_eq hended hlines, sectionsFrom_eq_of_eqvGen hrelaid]
  sections := sectionsFrom_empty _
  length := by
    have hsections : (parse text).sections = (runs (Text.lines text.toList)).map ofRun :=
      sectionsFrom_empty _
    rw [hsections, List.length_map]
  last := getElem?_ofRun

/-- Two lines change places, a remark is put in front and a line of blanks into the gap, and lines
end otherwise. Of the entries with one key the last still counts. -/
theorem read_by_runs_relaid :
    let text := "b: 1\na: 2\na: 3\n\nc: 4"
    let other := "note\r\na: 2\nb: 1\r\na: 3\n\n \nc: 4\n"
    ReadByRuns text ∧ parse other = parse text ∧
      (parse text).sections.map (·.toList) = [[("a", "3"), ("b", "1")], [("c", "4")]] := by
  intro text other
  have hlines : Text.lines text.toList =
      ["b: 1".toList, "a: 2".toList, "a: 3".toList, [], "c: 4".toList] := by decide +kernel
  have hothers : Text.lines other.toList = ["note".toList, "a: 2".toList, "b: 1".toList,
      "a: 3".toList, [], [' '], "c: 4".toList] := by decide +kernel
  have hkeys (key : String) :
      ¬ (hasKey key "b: 1".toList = true ∧ hasKey key "a: 2".toList = true) := by
    have hfirst : entry? "b: 1".toList = some ("b", "1") := by decide +kernel
    have hsecond : entry? "a: 2".toList = some ("a", "2") := by decide +kernel
    rintro ⟨hb, ha⟩
    simp only [hasKey, hfirst, hsecond, Option.any_some, decide_eq_true_eq] at hb ha
    rw [← hb] at ha
    exact absurd ha (by decide)
  have hswap : Relaid ["b: 1".toList, "a: 2".toList, "a: 3".toList, [], "c: 4".toList]
      ["a: 2".toList, "b: 1".toList, "a: 3".toList, [], "c: 4".toList] :=
    relaid_swap [] _ (by decide +kernel) (by decide +kernel) hkeys
  have hremark : Relaid ["a: 2".toList, "b: 1".toList, "a: 3".toList, [], "c: 4".toList]
      ["note".toList, "a: 2".toList, "b: 1".toList, "a: 3".toList, [], "c: 4".toList] :=
    .remark [] _ (by decide +kernel) (by decide +kernel)
  have hgap : Relaid ["note".toList, "a: 2".toList, "b: 1".toList, "a: 3".toList, [], "c: 4".toList]
      ["note".toList, "a: 2".toList, "b: 1".toList, "a: 3".toList, [], [' '], "c: 4".toList] :=
    .blankBehind ["note".toList, "a: 2".toList, "b: 1".toList, "a: 3".toList] _ rfl rfl
  have hrelaid : Relation.EqvGen Relaid (Text.lines text.toList) (Text.lines other.toList) := by
    rw [hlines, hothers]
    exact (Relation.EqvGen.rel _ _ hswap).trans _ _ _
      ((Relation.EqvGen.rel _ _ hremark).trans _ _ _ (Relation.EqvGen.rel _ _ hgap))
  have hread : ReadByRuns text := read_by_runs text
  have hparse : parse other = parse text :=
    hread.relaid _ _ _ (fun _ ↦ Text.newline_notMem_of_mem_lines)
      (fun _ ↦ Text.newline_notMem_of_mem_lines) hread.ended (ended_lines _) hrelaid
  exact ⟨hread, hparse, by decide +kernel⟩

end HostProfile.CpuInfo
