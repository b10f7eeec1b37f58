import HostProfile.Proofs.CpuInfo.Sections

/-!
# Writing a processor information file

There are many ways to write down the same sections. `Rendering` admits them all: the entries of a
section in any order, each on a line of its own with blanks wherever they may stand, blank lines
before, between and after the sections, either line end, and a last line that has none. `render` is
one of them.

Reading gives back what was written (`parse_of_rendering`). What is read can always be written: a
section that comes out of a text is regular (`regular_of_mem_parse`), so writing it in any way and
reading it again changes nothing.
-/

set_option autoImplicit false
set_option relaxedAutoImplicit false

namespace HostProfile

/-- A text on one line, without blanks at its ends. -/
def Text.OneLine (text : String) : Prop :=
  '\n' ∉ text.toList ∧ trimmed text = text

/-- A key and a value that can be told apart when they stand on one line. -/
structure CpuInfo.Legible (key value : String) : Prop where
  oneLine_key : Text.OneLine key
  colon_notMem : ':' ∉ key.toList
  oneLine_value : Text.OneLine value

/-- A section that a file can have: it is not empty, and all its entries are legible. -/
structure Section.Regular (s : Section) : Prop where
  nonempty : s ≠ ∅
  legible : ∀ key value, s[key]? = some value → CpuInfo.Legible key value

namespace CpuInfo

/-! ### Renderings -/

/-- Blanks that stay on one line. -/
def Padding (pad : List Char) : Prop :=
  Text.isAllBlank pad = true ∧ '\n' ∉ pad

instance : DecidablePred Padding := fun pad ↦
  inferInstanceAs (Decidable (Text.isAllBlank pad = true ∧ '\n' ∉ pad))

/-- What may end a line. -/
inductive LineEnd : List Char → Prop
  | lineFeed : LineEnd ['\n']
  | returnLineFeed : LineEnd ['\r', '\n']

/-- A line that tells an entry: key, colon and value, with padding around each. -/
def WritesEntry (entry : String × String) (line : List Char) : Prop :=
  ∃ lead before after trail, Padding lead ∧ Padding before ∧ Padding after ∧ Padding trail ∧
    line = lead ++ entry.1.toList ++ before ++ ':' :: (after ++ entry.2.toList ++ trail)

/-- Lines that tell the entries of a section, each once and in any order. -/
def WritesSection (s : Section) (lines : List (List Char)) : Prop :=
  ∃ entries : List (String × String), entries.Perm s.toList ∧
    List.Forall₂ WritesEntry entries lines

/-- The lines of a file: any number of blank lines before the first section and after the last, and
at least one between two sections. -/
inductive Layout : List Section → List (List Char) → Prop
  | blank {gap : List (List Char)} : (∀ line ∈ gap, Padding line) → Layout [] gap
  | last {s : Section} {gap body : List (List Char)} :
    (∀ line ∈ gap, Padding line) → WritesSection s body → Layout [s] (gap ++ body)
  | cons {s : Section} {sections : List Section} {gap body rest : List (List Char)}
    {line : List Char} :
    (∀ line ∈ gap, Padding line) → WritesSection s body → Padding line → Layout sections rest →
      Layout (s :: sections) (gap ++ body ++ line :: rest)

/-- A text with the given lines. The last of them need not be ended. -/
inductive Ended : List (List Char) → List Char → Prop
  | nil : Ended [] []
  | unended {line : List Char} : line ≠ [] → Ended [line] line
  | cons {line lineEnd : List Char} {lines : List (List Char)} {rest : List Char} :
    LineEnd lineEnd → Ended lines rest → Ended (line :: lines) (line ++ lineEnd ++ rest)

/-- A text that writes down a list of sections. -/
def Rendering (sections : List Section) (text : String) : Prop :=
  ∃ lines, Layout sections lines ∧ Ended lines text.toList

/-! ### Padding -/

theorem padding_nil : Padding [] := ⟨rfl, List.not_mem_nil⟩

theorem Padding.colon_notMem {pad : List Char} (h : Padding pad) : ':' ∉ pad := by
  intro hmem
  have hblank := List.all_eq_true.mp h.1 ':' hmem
  revert hblank
  decide

/-- Padding around a text that has no blanks at its ends is trimmed, and nothing else. -/
theorem ofList_trim_padded {before after : List Char} (hbefore : Padding before)
    (hafter : Padding after) {text : String} (h : Text.OneLine text) :
    String.ofList (Text.trim (before ++ text.toList ++ after)) = text := by
  rw [Text.trim_append_right hafter.1, Text.trim_append_left hbefore.1]
  exact h.2

/-! ### Reading what was written -/

/-- A line that tells a legible entry is read as this entry. -/
theorem WritesEntry.entry_eq_some {entry : String × String} {line : List Char}
    (h : WritesEntry entry line) (hentry : Legible entry.1 entry.2) :
    entry? line = some entry := by
  obtain ⟨lead, before, after, trail, hlead, hbefore, hafter, htrail, rfl⟩ := h
  have hcolon : ':' ∉ lead ++ entry.1.toList ++ before := by
    simp [hlead.colon_notMem, hbefore.colon_notMem, hentry.colon_notMem]
  rw [entry?_append_colon hcolon, ofList_trim_padded hlead hbefore hentry.oneLine_key,
    ofList_trim_padded hafter htrail hentry.oneLine_value]

theorem WritesEntry.newline_notMem {entry : String × String} {line : List Char}
    (h : WritesEntry entry line) (hentry : Legible entry.1 entry.2) : '\n' ∉ line := by
  obtain ⟨lead, before, after, trail, hlead, hbefore, hafter, htrail, rfl⟩ := h
  simp [hlead.2, hbefore.2, hafter.2, htrail.2, hentry.oneLine_key.1, hentry.oneLine_value.1]

/-- The lines of a regular section tell legible entries. -/
theorem WritesSection.exists_legible {s : Section} {body : List (List Char)}
    (h : WritesSection s body) (hs : s.Regular) :
    ∃ entries : List (String × String), entries.Perm s.toList ∧
      List.Forall₂ (fun entry line ↦ Legible entry.1 entry.2 ∧ WritesEntry entry line)
        entries body := by
  obtain ⟨entries, hperm, hbody⟩ := h
  refine ⟨entries, hperm, (List.forall₂_and_left _ _).mpr ⟨fun entry hentry ↦ ?_, hbody⟩⟩
  exact hs.legible _ _ (Std.ExtTreeMap.mem_toList_iff_getElem?_eq_some.mp (hperm.mem_iff.mp hentry))

theorem WritesSection.newline_notMem {s : Section} {body : List (List Char)}
    (h : WritesSection s body) (hs : s.Regular) : ∀ line ∈ body, '\n' ∉ line := by
  obtain ⟨entries, -, hbody⟩ := h.exists_legible hs
  clear h
  induction hbody with
  | nil => simp
  | cons hline _ ih =>
    rw [List.forall_mem_cons]
    exact ⟨hline.2.newline_notMem hline.1, ih⟩

/-- The lines of a section are read as the section, also after blank lines. -/
theorem sectionsFrom_of_writesSection {s : Section} {gap body : List (List Char)}
    (hgap : ∀ line ∈ gap, Padding line) (h : WritesSection s body) (hs : s.Regular) :
    sectionsFrom ∅ (gap ++ body) = [s] := by
  obtain ⟨entries, hperm, hbody⟩ := h.exists_legible hs
  have hread : List.Forall₂ (fun entry line ↦ entry? line = some entry) entries body :=
    hbody.imp fun entry line hline ↦ hline.2.entry_eq_some hline.1
  have hclosed : closed s = [s] := by
    unfold closed
    rw [if_neg]
    simpa using hs.nonempty
  calc sectionsFrom ∅ (gap ++ body)
      = sectionsFrom ∅ (body ++ []) := by
        rw [sectionsFrom_blanks_append fun line hline ↦ (hgap line hline).1, List.append_nil]
    _ = sectionsFrom s [] := by
        rw [sectionsFrom_append_entries hread, foldl_insert_of_perm hperm]
    _ = [s] := hclosed

/-- The lines of a file are read as its sections. -/
theorem Layout.sectionsFrom {sections : List Section} {lines : List (List Char)}
    (h : Layout sections lines) (hregular : ∀ s ∈ sections, s.Regular) :
    sectionsFrom ∅ lines = sections := by
  induction h with
  | @blank gap hgap =>
    have hblank := sectionsFrom_blanks_append (fun line hline ↦ (hgap line hline).1) []
    rwa [List.append_nil] at hblank
  | last hgap hbody => exact sectionsFrom_of_writesSection hgap hbody (hregular _ (by simp))
  | @cons s sections gap body rest line hgap hbody hline _ ih =>
    have hfirst := sectionsFrom_of_writesSection hgap hbody (hregular s List.mem_cons_self)
    have hrest := ih fun other hother ↦ hregular other (List.mem_cons_of_mem _ hother)
    rw [sectionsFrom_append_blank hline.1, hfirst, hrest]
    rfl

theorem Layout.newline_notMem {sections : List Section} {lines : List (List Char)}
    (h : Layout sections lines) (hregular : ∀ s ∈ sections, s.Regular) :
    ∀ line ∈ lines, '\n' ∉ line := by
  induction h with
  | blank hgap => exact fun line hline ↦ (hgap line hline).2
  | @last s gap body hgap hbody =>
    intro line hline
    rcases List.mem_append.mp hline with hline | hline
    · exact (hgap line hline).2
    · exact hbody.newline_notMem (hregular s (by simp)) line hline
  | @cons s sections gap body rest line hgap hbody hblank _ ih =>
    intro other hother
    rcases List.mem_append.mp hother with hother | hother
    · rcases List.mem_append.mp hother with hother | hother
      · exact (hgap other hother).2
      · exact hbody.newline_notMem (hregular s List.mem_cons_self) other hother
    · rcases List.mem_cons.mp hother with rfl | hother
      · exact hblank.2
      · exact ih (fun s hs ↦ hregular s (List.mem_cons_of_mem _ hs)) other hother

/-- A line that is ended is read, up to a carriage return that does not count. -/
theorem LineEnd.exists_lines {lineEnd : List Char} (h : LineEnd lineEnd) {line : List Char}
    (hline : '\n' ∉ line) (rest : List Char) :
    ∃ first, Alike first line ∧
      Text.lines (line ++ lineEnd ++ rest) = first :: Text.lines rest := by
  cases h with
  | lineFeed =>
    by_cases hreturn : line.getLast? = some '\r'
    · obtain ⟨body, rfl⟩ := List.getLast?_eq_some_iff.mp hreturn
      have hbody : '\n' ∉ body := fun hmem ↦ hline (List.mem_append_left _ hmem)
      have hreturnBlank : Text.isAllBlank ['\r'] = true := by decide
      refine ⟨body, ⟨?_, ?_⟩, ?_⟩
      · exact (alike_append hreturnBlank body).1.symm
      · exact (alike_append hreturnBlank body).2.symm
      · simpa using Text.lines_append_return hbody rest
    · refine ⟨line, alike_refl line, ?_⟩
      simpa using Text.lines_append_lineFeed hline hreturn rest
  | returnLineFeed =>
    refine ⟨line, alike_refl line, ?_⟩
    simpa using Text.lines_append_return hline rest

/-- The lines of a text are read one by one. -/
theorem Ended.alike {lines : List (List Char)} {text : List Char} (h : Ended lines text)
    (hlines : ∀ line ∈ lines, '\n' ∉ line) : List.Forall₂ Alike (Text.lines text) lines := by
  induction h with
  | nil => exact .nil
  | @unended line hne =>
    rw [Text.lines_of_newline_notMem hne (hlines line (by simp))]
    exact .cons (alike_refl line) .nil
  | @cons line lineEnd lines rest hend _ ih =>
    obtain ⟨first, halike, hfirst⟩ := hend.exists_lines (hlines line List.mem_cons_self) rest
    rw [hfirst]
    exact .cons halike (ih fun other hother ↦ hlines other (List.mem_cons_of_mem _ hother))

/-- A text with the given lines is read as the sections that these make. -/
theorem Ended.parse_eq {lines : List (List Char)} {text : String} (h : Ended lines text.toList)
    (hlines : ∀ line ∈ lines, '\n' ∉ line) : parse text = ⟨CpuInfo.sectionsFrom ∅ lines⟩ :=
  congrArg CpuInfo.mk (sectionsFrom_congr (h.alike hlines) ∅)

theorem ended_prependToFirst (c : Char) {lines : List (List Char)} {text : List Char}
    (h : Ended lines text) : Ended (Text.prependToFirst c lines) (c :: text) := by
  cases h with
  | nil => exact .unended (List.cons_ne_nil c [])
  | unended => exact .unended (List.cons_ne_nil c _)
  | cons hend hrest => exact .cons hend hrest

/-- A text is made up of its lines. -/
theorem ended_lines (text : List Char) : Ended (Text.lines text) text := by
  fun_induction Text.lines text with
  | case1 => exact .nil
  | case2 rest ih => exact .cons .lineFeed ih
  | case3 rest ih => exact .cons .returnLineFeed ih
  | case4 c rest _ _ ih => exact ended_prependToFirst c ih

/-- Regular sections are read back, however they are written. -/
theorem parse_of_rendering {sections : List Section} {text : String}
    (hregular : ∀ s ∈ sections, s.Regular) (h : Rendering sections text) :
    parse text = ⟨sections⟩ := by
  obtain ⟨lines, hlayout, hended⟩ := h
  rw [hended.parse_eq (hlayout.newline_notMem hregular), hlayout.sectionsFrom hregular]

/-! ### What is read can be written -/

theorem oneLine_trim {cs : List Char} (h : '\n' ∉ cs) :
    Text.OneLine (String.ofList (Text.trim cs)) := by
  constructor
  · rw [String.toList_ofList]
    exact fun hmem ↦ h (Text.mem_of_mem_trim hmem)
  · rw [Text.trimmed, String.toList_ofList, Text.trim_trim]

/-- The entry of a line is legible. -/
theorem legible_of_entry? {line : List Char} (h : '\n' ∉ line) {key value : String}
    (hentry : entry? line = some (key, value)) : Legible key value := by
  by_cases hcolon : ':' ∈ line
  · obtain ⟨before, after, rfl, hbefore⟩ := List.eq_append_cons_of_mem hcolon
    obtain ⟨hnewline, hafter⟩ : '\n' ∉ before ∧ '\n' ∉ after := by simpa using h
    rw [entry?_append_colon hbefore] at hentry
    cases hentry
    refine ⟨oneLine_trim hnewline, ?_, oneLine_trim hafter⟩
    rw [String.toList_ofList]
    exact fun hmem ↦ hbefore (Text.mem_of_mem_trim hmem)
  · rw [entry?_eq_none hcolon] at hentry
    contradiction

theorem regular_of_mem_closed {s : Section}
    (hs : ∀ key value, s[key]? = some value → Legible key value) :
    ∀ other ∈ closed s, other.Regular := by
  unfold closed
  split
  · simp
  · rename_i hempty
    intro other hother
    obtain rfl : other = s := by simpa using hother
    exact ⟨by simpa using hempty, hs⟩

/-- The entries of a section stay legible when a line is added. -/
theorem legible_absorb {s : Section}
    (hs : ∀ key value, s[key]? = some value → Legible key value) {line : List Char}
    (hline : '\n' ∉ line) :
    ∀ key value, (absorb s line)[key]? = some value → Legible key value := by
  intro key value hget
  unfold absorb at hget
  cases hentry : entry? line with
  | none =>
    rw [hentry] at hget
    exact hs key value hget
  | some entry =>
    rw [hentry] at hget
    by_cases hkey : entry.1 = key
    · subst hkey
      obtain rfl : entry.2 = value := by simpa using hget
      exact legible_of_entry? hline hentry
    · rw [Std.ExtTreeMap.getElem?_insert, if_neg (by simpa using hkey)] at hget
      exact hs key value hget

/-- Lines make regular sections only. -/
theorem regular_of_mem_sectionsFrom {lines : List (List Char)}
    (hlines : ∀ line ∈ lines, '\n' ∉ line) {s : Section}
    (hs : ∀ key value, s[key]? = some value → Legible key value) :
    ∀ other ∈ CpuInfo.sectionsFrom s lines, other.Regular := by
  induction lines generalizing s with
  | nil => exact regular_of_mem_closed hs
  | cons line rest ih =>
    have hrest : ∀ other ∈ rest, '\n' ∉ other := fun other hother ↦
      hlines other (List.mem_cons_of_mem _ hother)
    rw [CpuInfo.sectionsFrom]
    split
    · intro other hother
      rcases List.mem_append.mp hother with hother | hother
      · exact regular_of_mem_closed hs other hother
      · refine ih hrest ?_ other hother
        simp
    · exact ih hrest (legible_absorb hs (hlines line List.mem_cons_self))

/-- Every section of every file is regular. -/
theorem regular_of_mem_parse (text : String) : ∀ s ∈ (parse text).sections, s.Regular := by
  refine regular_of_mem_sectionsFrom (fun line hline ↦ ?_) ?_
  · exact Text.newline_notMem_of_mem_lines hline
  · simp

/-! ### One way of writing -/

/-- The lines of a section, in the order of its keys. -/
def plainLines (s : Section) : List (List Char) :=
  s.toList.map fun entry ↦ entry.1.toList ++ '\t' :: ':' :: ' ' :: entry.2.toList

/-- Writes a processor information file: one line for each entry, and an empty line after each
section. -/
def render (file : CpuInfo) : String :=
  String.ofList ((file.sections.flatMap fun s ↦ plainLines s ++ [[]]).flatMap (· ++ ['\n']))

theorem writesSection_plainLines (s : Section) : WritesSection s (plainLines s) := by
  refine ⟨s.toList, List.Perm.refl _, ?_⟩
  rw [plainLines, List.forall₂_map_right_iff, List.forall₂_same]
  intro entry _
  have htab : Padding ['\t'] := ⟨by decide, by decide⟩
  have hspace : Padding [' '] := ⟨by decide, by decide⟩
  exact ⟨[], ['\t'], [' '], [], padding_nil, htab, hspace, padding_nil, by simp⟩

theorem layout_plainLines (sections : List Section) :
    Layout sections (sections.flatMap fun s ↦ plainLines s ++ [[]]) := by
  induction sections with
  | nil => exact .blank (by simp)
  | cons s rest ih =>
    have h : Layout (s :: rest)
        ([] ++ plainLines s ++ [] :: rest.flatMap fun s ↦ plainLines s ++ [[]]) :=
      .cons (by simp) (writesSection_plainLines s) padding_nil ih
    simpa using h

theorem ended_lineFeeds (lines : List (List Char)) : Ended lines (lines.flatMap (· ++ ['\n'])) := by
  induction lines with
  | nil => exact .nil
  | cons line rest ih => exact .cons .lineFeed ih

theorem rendering_render (file : CpuInfo) : Rendering file.sections file.render := by
  refine ⟨_, layout_plainLines file.sections, ?_⟩
  rw [render, String.toList_ofList]
  exact ended_lineFeeds _

/-- Regular sections are read back from every text that writes them down. Conversely every text has
regular sections only; so every text that writes these down is read as the first text was, and there
is such a text. -/
theorem parse_rendering_round_trip :
    (∀ (sections : List Section) (text : String), (∀ s ∈ sections, s.Regular) →
      Rendering sections text → parse text = ⟨sections⟩) ∧
    (∀ file : CpuInfo, Rendering file.sections file.render) ∧
    ∀ text : String, (∀ s ∈ (parse text).sections, s.Regular) ∧
      (∀ other : String, Rendering (parse text).sections other → parse other = parse text) ∧
      parse (parse text).render = parse text := by
  refine ⟨fun sections text ↦ parse_of_rendering, rendering_render, fun text ↦ ?_⟩
  have hregular := regular_of_mem_parse text
  have hother : ∀ other : String, Rendering (parse text).sections other →
      parse other = parse text := fun other h ↦ parse_of_rendering hregular h
  exact ⟨hregular, hother, hother _ (rendering_render (parse text))⟩

/-- A section with an empty key and a colon in the value, in a text with a carriage return before a
line end that has one itself, and with a last line that is not ended. -/
theorem parse_rendering_round_trip_padded :
    let s : Section := (∅ : Section).insert "" "a:b"
    let text := "\u0085\n\t:\u2028a:b \r\r\n "
    s.Regular ∧ Rendering [s] text ∧ parse text = ⟨[s]⟩ := by
  intro s text
  have hs : s.Regular := by
    refine ⟨Std.ExtTreeMap.insert_ne_empty, fun key value hget ↦ ?_⟩
    have hentry : "" = key ∧ "a:b" = value := by
      rw [Std.ExtTreeMap.getElem?_insert] at hget
      simpa using hget
    obtain ⟨rfl, rfl⟩ := hentry
    exact ⟨⟨by decide, by decide⟩, by decide, by decide, by decide⟩
  have hline : WritesEntry ("", "a:b") "\t:\u2028a:b \r".toList :=
    ⟨[], ['\t'], ['\u2028'], [' ', '\r'], by decide, by decide, by decide, by decide, by decide⟩
  have hbody : WritesSection s ["\t:\u2028a:b \r".toList] :=
    ⟨[("", "a:b")], List.Perm.refl _, .cons hline .nil⟩
  have htext : Rendering [s] text := by
    refine ⟨[['\u0085']] ++ ["\t:\u2028a:b \r".toList] ++ [' '] :: [], ?_, ?_⟩
    · exact .cons (by decide) hbody (by decide) (.blank (by simp))
    · have hcut : text.toList = ['\u0085'] ++ ['\n'] ++
          ("\t:\u2028a:b \r".toList ++ ['\r', '\n'] ++ [' ']) := by decide
      rw [hcut]
      exact .cons .lineFeed (.cons .returnLineFeed (.unended (by decide)))
  exact ⟨hs, htext, parse_rendering_round_trip.1 [s] text (by simpa using hs) htext⟩

end CpuInfo

end HostProfile
