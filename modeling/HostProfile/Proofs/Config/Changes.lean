import HostProfile.Config
import HostProfile.Proofs.Text.LetterCase

/-!
# Changes of settings

Settings are changed any number of times. What comes of it is told without going through the changes
one by one: a source is off if it was off before or some change names it, in any mix of cases
(`isDisabled_changeAll_iff`), and a path is the last one that was given, or the one from before
(`InForce`, `Moves.inForce_iff`). Both carry over from one change, which adds a source to those that
are off (`isDisabled_change_iff`) or gives a path and keeps the other (`Moves`).

So it makes no difference in which order, how often and in which mix of cases sources are switched
off (`Rearranged.changeAll_eq`), no change switches a source on again (`isDisabled_append`), and
what is off and where the paths lead have nothing to do with each other (`Separate`).
-/

set_option autoImplicit false
set_option relaxedAutoImplicit false

namespace HostProfile.Config

/-- A path after changes: the last one that was given, or the one before if none was. -/
inductive InForce (give : PathBytes → Change) (initial : PathBytes) :
    List Change → PathBytes → Prop
  | given (before : List Change) (path : PathBytes) {after : List Change}
      (h : ∀ later, give later ∉ after) :
      InForce give initial (before ++ give path :: after) path
  | initial {changes : List Change} (h : ∀ path, give path ∉ changes) :
      InForce give initial changes initial

/-- A change of a path. -/
def Change.isMove : Change → Bool
  | .disable _ => false
  | .cpuinfoPath _ | .sysfsRoot _ => true

/-- Changes that make the same moves and switch the same sources off, in another order, more or less
often and under names in another mix of cases. -/
structure Rearranged (first second : List Change) : Prop where
  forth : ∀ name, .disable name ∈ first →
    ∃ other, .disable other ∈ second ∧ Text.SameLetters name other
  back : ∀ name, .disable name ∈ second →
    ∃ other, .disable other ∈ first ∧ Text.SameLetters name other
  moves : first.filter Change.isMove = second.filter Change.isMove

/-- The sources that are off do not depend on the moves, and the paths depend on nothing else. -/
structure Separate (start : Config) (changes : List Change) : Prop where
  disabled : (start.changeAll changes).disabled =
    (start.changeAll (changes.filter (!·.isMove))).disabled
  cpuinfoPath : (start.changeAll changes).cpuinfoPath =
    (start.changeAll (changes.filter Change.isMove)).cpuinfoPath
  sysfsRoot : (start.changeAll changes).sysfsRoot =
    (start.changeAll (changes.filter Change.isMove)).sysfsRoot

/-! ### One change after the other -/

theorem changeAll_append (start : Config) (changes later : List Change) :
    start.changeAll (changes ++ later) = (start.changeAll changes).changeAll later :=
  List.foldl_append

theorem changeAll_concat (start : Config) (changes : List Change) (last : Change) :
    start.changeAll (changes ++ [last]) = (start.changeAll changes).change last :=
  changeAll_append start changes [last]

theorem eq_of_isDisabled {first second : Config}
    (hdisabled : ∀ query, first.isDisabled query = second.isDisabled query)
    (hcpuinfo : first.cpuinfoPath = second.cpuinfoPath)
    (hsysfs : first.sysfsRoot = second.sysfsRoot) : first = second := by
  have hset : first.disabled = second.disabled := Std.ExtTreeSet.ext_contains hdisabled
  cases first
  cases second
  exact Config.mk.injEq .. ▸ ⟨hset, hcpuinfo, hsysfs⟩

theorem isDisabled_change_iff (config : Config) (change : Change) (query : String) :
    (config.change change).isDisabled query = true ↔
      config.isDisabled query = true ∨
        ∃ name, .disable name = change ∧ Text.SmallForm name query := by
  cases change with
  | disable name =>
    rw [Config.change, isDisabled_disable]
    simp [Text.folds_toLower.caseForm_iff, or_comm]
  | cpuinfoPath path => simp [Config.change, withCpuinfoPath, isDisabled]
  | sysfsRoot root => simp [Config.change, withSysfsRoot, isDisabled]

/-- A source is off after changes if it was off before them or one of them switches it off. -/
theorem isDisabled_changeAll_iff (start : Config) (changes : List Change) (query : String) :
    (start.changeAll changes).isDisabled query = true ↔
      start.isDisabled query = true ∨
        ∃ name, .disable name ∈ changes ∧ Text.SmallForm name query := by
  induction changes using List.reverseRecOn with
  | nil => simp [changeAll]
  | append_singleton changes last ih =>
    rw [changeAll_concat, isDisabled_change_iff, ih, or_assoc, ← exists_or]
    simp only [List.mem_append, List.mem_singleton, or_and_right]

theorem isDisabled_append {start : Config} {changes : List Change} {query : String}
    (h : (start.changeAll changes).isDisabled query = true) (later : List Change) :
    (start.changeAll (changes ++ later)).isDisabled query = true := by
  rw [changeAll_append, isDisabled_changeAll_iff]
  exact .inl h

/-! ### Moves of a path -/

/-- A path of the settings and the changes that give it. -/
structure Moves (get : Config → PathBytes) (give : PathBytes → Change) : Prop where
  isMove : ∀ path, (give path).isMove = true
  given : ∀ (config : Config) path, get (config.change (give path)) = path
  kept : ∀ (config : Config) change, (∀ path, give path ≠ change) →
    get (config.change change) = get config

theorem moves_cpuinfoPath : Moves cpuinfoPath .cpuinfoPath where
  isMove := fun _ ↦ rfl
  given := fun _ _ ↦ rfl
  kept := by
    intro config change hchange
    cases change with
    | cpuinfoPath path => exact absurd rfl (hchange path)
    | disable | sysfsRoot => rfl

theorem moves_sysfsRoot : Moves sysfsRoot .sysfsRoot where
  isMove := fun _ ↦ rfl
  given := fun _ _ ↦ rfl
  kept := by
    intro config change hchange
    cases change with
    | sysfsRoot root => exact absurd rfl (hchange root)
    | disable | cpuinfoPath => rfl

theorem exists_inForce (give : PathBytes → Change) (initial : PathBytes) (changes : List Change) :
    ∃ path, InForce give initial changes path := by
  induction changes using List.reverseRecOn with
  | nil => exact ⟨initial, .initial fun _ ↦ List.not_mem_nil⟩
  | append_singleton changes last ih =>
    by_cases hlast : ∃ path, give path = last
    · obtain ⟨path, rfl⟩ := hlast
      exact ⟨path, .given changes path fun _ ↦ List.not_mem_nil⟩
    · have hnone : ∀ path, give path ≠ last := not_exists.mp hlast
      obtain ⟨path, hpath⟩ := ih
      refine ⟨path, ?_⟩
      cases hpath with
      | @given before _ after h =>
        rw [List.append_assoc, List.cons_append]
        exact .given before path fun later ↦ by simp [h later, hnone later]
      | initial h => exact .initial fun later ↦ by simp [h later, hnone later]

section Moves

variable {get : Config → PathBytes} {give : PathBytes → Change} {start : Config}
  {changes : List Change} {path : PathBytes}

theorem Moves.changeAll_of_notMem (h : Moves get give) (hnone : ∀ path, give path ∉ changes) :
    get (start.changeAll changes) = get start := by
  induction changes using List.reverseRecOn with
  | nil => rfl
  | append_singleton changes last ih =>
    have hlast : ∀ path, give path ≠ last := by
      rintro path rfl
      exact hnone path List.mem_concat_self
    have hbefore : ∀ path, give path ∉ changes := fun path hmem ↦
      hnone path (List.mem_append_left _ hmem)
    rw [changeAll_concat, h.kept _ _ hlast, ih hbefore]

theorem Moves.eq_of_inForce (h : Moves get give) (hforce : InForce give (get start) changes path) :
    get (start.changeAll changes) = path := by
  cases hforce with
  | given before path hafter =>
    rw [List.append_cons, changeAll_append, h.changeAll_of_notMem hafter, changeAll_concat, h.given]
  | initial hnone => exact h.changeAll_of_notMem hnone

/-- A path after changes is the last one that was given, or the one before them. -/
theorem Moves.inForce_iff (h : Moves get give) :
    InForce give (get start) changes path ↔ get (start.changeAll changes) = path := by
  refine ⟨h.eq_of_inForce, ?_⟩
  rintro rfl
  obtain ⟨path, hforce⟩ := exists_inForce give (get start) changes
  rwa [h.eq_of_inForce hforce]

theorem Moves.changeAll_congr (h : Moves get give) {other : Config} (heq : get start = get other) :
    get (start.changeAll changes) = get (other.changeAll changes) := by
  have hforce : InForce give (get start) changes (get (other.changeAll changes)) :=
    heq ▸ h.inForce_iff.mpr rfl
  exact h.eq_of_inForce hforce

/-- Changes that do not move anything make no difference to a path. -/
theorem Moves.changeAll_filter (h : Moves get give) :
    get (start.changeAll changes) = get (start.changeAll (changes.filter Change.isMove)) := by
  -- The last change gives this path, so that those before it do not matter, or it keeps it.
  induction changes using List.reverseRecOn with
  | nil => rfl
  | append_singleton changes last ih =>
    rw [List.filter_append, changeAll_concat, changeAll_append]
    by_cases hlast : ∃ path, give path = last
    · obtain ⟨path, rfl⟩ := hlast
      rw [h.given, List.filter_cons_of_pos (h.isMove path)]
      exact (h.given _ path).symm
    · have hnone : ∀ path, give path ≠ last := not_exists.mp hlast
      have hrest : ∀ path, give path ∉ [last].filter Change.isMove := fun path hmem ↦
        hnone path (List.mem_singleton.mp (List.mem_of_mem_filter hmem))
      rw [h.kept _ _ hnone, h.changeAll_of_notMem hrest, ih]

end Moves

theorem disabled_changeAll_filter (start : Config) (changes : List Change) :
    (start.changeAll changes).disabled =
      (start.changeAll (changes.filter (!·.isMove))).disabled := by
  apply Std.ExtTreeSet.ext_contains
  intro query
  show Config.isDisabled _ query = Config.isDisabled _ query
  rw [Bool.eq_iff_iff, isDisabled_changeAll_iff, isDisabled_changeAll_iff]
  simp [Change.isMove]

theorem separate (start : Config) (changes : List Change) : Separate start changes where
  disabled := disabled_changeAll_filter start changes
  cpuinfoPath := moves_cpuinfoPath.changeAll_filter
  sysfsRoot := moves_sysfsRoot.changeAll_filter

theorem Rearranged.symm {first second : List Change} (h : Rearranged first second) :
    Rearranged second first :=
  ⟨h.back, h.forth, h.moves.symm⟩

theorem Rearranged.isDisabled {first second : List Change} (h : Rearranged first second)
    {start : Config} {query : String} (hoff : (start.changeAll first).isDisabled query = true) :
    (start.changeAll second).isDisabled query = true := by
  rw [isDisabled_changeAll_iff] at hoff ⊢
  refine hoff.imp_right fun ⟨name, hmem, hquery⟩ ↦ ?_
  obtain ⟨other, hother, hsame⟩ := h.forth name hmem
  exact ⟨other, hother, (Text.folds_toLower.caseForm_congr hsame).mp hquery⟩

theorem Rearranged.changeAll_eq {first second : List Change} (h : Rearranged first second)
    (start : Config) : start.changeAll first = start.changeAll second := by
  apply eq_of_isDisabled
  · exact fun query ↦ Bool.eq_iff_iff.mpr ⟨h.isDisabled, h.symm.isDisabled⟩
  · rw [moves_cpuinfoPath.changeAll_filter, h.moves, ← moves_cpuinfoPath.changeAll_filter]
  · rw [moves_sysfsRoot.changeAll_filter, h.moves, ← moves_sysfsRoot.changeAll_filter]

end HostProfile.Config
