import HostProfile.Chain
import Mathlib.Tactic.Set
import Mathlib.Tactic.SplitIfs

/-!
# What a chain of probes does

Three things are observed of a run: its result, the questions put to the host, and the log. All
three are functions of the place at which the probes are decided (`firstSettled`): the first probe
that is switched on and comes to a usable value, or the end of the list. Up to and including that
place every probe that is switched on is run once, in order (`calls_firstUsable`), and every probe
leaves its verdict in the log after what it logs itself (`log_firstUsable`); nothing behind that
place is touched. `value_firstUsable` gives the result, and `firstUsable_account` puts the three
together for every list of probes.

Nothing is assumed of the probes: each may ask and log what it likes.
-/

set_option autoImplicit false
set_option relaxedAutoImplicit false

namespace HostProfile

variable {α : Type}

/-! ### One probe on its own -/

namespace Probe

variable (architecture : Architecture) (source : Source)

/-- What a probe comes to when it is run. -/
def outcome (probe : Probe α) : Outcome α :=
  (probe.attempt architecture).run.value source

/-- The questions of a probe that is run. -/
def questions (probe : Probe α) : List Query :=
  (probe.attempt architecture).run.calls source

/-- What a probe that is run writes to the log itself. -/
def remarks (probe : Probe α) : List Event :=
  (probe.attempt architecture).run.log source

variable (usable : α → Bool) (config : Config)

/-- A probe resolves to a value: it is switched on, comes to the value, and the value is usable. -/
def Resolves (probe : Probe α) (value : α) : Prop :=
  config.isDisabled probe.name = false ∧ probe.outcome architecture source = .ok value ∧
    usable value = true

/-- The value that a probe resolves to, if it resolves. -/
def resolved? (probe : Probe α) : Option α :=
  if config.isDisabled probe.name then none
  else (probe.outcome architecture source).toOption.filter usable

/-- What is logged of a probe that is reached: how loudly, in which words, and with which error. -/
def report (probe : Probe α) : Level × String × Option ProbeError :=
  if config.isDisabled probe.name then (.trace, "source disabled by config", none)
  else
    match probe.outcome architecture source with
    | .ok value =>
      if usable value then (.debug, "resolved", none) else (.trace, "implausible value", none)
    | .error .unavailable => (.trace, "unavailable", none)
    | .error .noData => (.trace, "no data", none)
    | .error (.queryFailed origin reason) =>
      (.warn, "probe failed, trying next source", some (.queryFailed origin reason))

/-- The verdict on a probe that is reached. -/
def verdict (probe : Probe α) : Verdict :=
  if config.isDisabled probe.name then .disabled
  else .of usable (probe.outcome architecture source)

/-- Whether a probe decides a chain that reaches it. -/
def settles (probe : Probe α) : Bool :=
  probe.verdict architecture source usable config = .resolved

/-- The questions of a probe that is reached: none if it is switched off. -/
def reachedQuestions (probe : Probe α) : List Query :=
  if config.isDisabled probe.name then [] else probe.questions architecture source

/-- What reaching a probe adds to the log. -/
def reachedLog (metric : String) (probe : Probe α) : List Event :=
  (if config.isDisabled probe.name then [] else probe.remarks architecture source) ++
    [.probed metric probe.name (probe.verdict architecture source usable config)]

variable {architecture source usable config}

theorem verdict_of_disabled {probe : Probe α} (h : config.isDisabled probe.name = true) :
    probe.verdict architecture source usable config = .disabled :=
  if_pos h

theorem verdict_of_enabled {probe : Probe α} (h : config.isDisabled probe.name = false) :
    probe.verdict architecture source usable config =
      .of usable (probe.outcome architecture source) := by
  simp [verdict, h]

/-- A probe decides a chain exactly when it resolves to a value. -/
theorem settles_iff {probe : Probe α} :
    probe.settles architecture source usable config = true ↔
      ∃ value, probe.Resolves architecture source usable config value := by
  unfold settles Resolves
  cases hoff : config.isDisabled probe.name with
  | true => simp [verdict_of_disabled hoff]
  | false =>
    rw [verdict_of_enabled hoff]
    rcases probe.outcome architecture source with error | value
    · cases error <;> simp [Verdict.of]
    · by_cases husable : usable value <;> simp [Verdict.of, husable]

theorem settles_eq_false_iff {probe : Probe α} :
    probe.settles architecture source usable config = false ↔
      ∀ value, ¬ probe.Resolves architecture source usable config value := by
  rw [← Bool.not_eq_true, settles_iff, not_exists]

theorem resolved?_eq_some_iff {probe : Probe α} {value : α} :
    probe.resolved? architecture source usable config = some value ↔
      probe.Resolves architecture source usable config value := by
  unfold resolved? Resolves
  cases config.isDisabled probe.name with
  | true => simp
  | false =>
    rw [if_neg Bool.false_ne_true, Option.filter_eq_some_iff]
    cases probe.outcome architecture source <;> simp [Except.toOption]

theorem resolved?_eq_none_iff {probe : Probe α} :
    probe.resolved? architecture source usable config = none ↔
      ∀ value, ¬ probe.Resolves architecture source usable config value := by
  rw [Option.eq_none_iff_forall_ne_some]
  exact forall_congr' fun _ ↦ not_congr resolved?_eq_some_iff

theorem resolved?_of_enabled {probe : Probe α} (h : config.isDisabled probe.name = false) :
    probe.resolved? architecture source usable config =
      (probe.outcome architecture source).toOption.filter usable :=
  if_neg (by rw [h]; exact Bool.false_ne_true)

theorem resolved?_of_error {probe : Probe α} {error : ProbeError}
    (h : probe.outcome architecture source = .error error) :
    probe.resolved? architecture source usable config = none := by
  rw [resolved?, h]
  cases config.isDisabled probe.name <;> rfl

/-- The words, the level and the error of the event on a probe are those of its report. -/
theorem event_verdict (metric : String) (probe : Probe α) :
    let event := Event.probed metric probe.name (probe.verdict architecture source usable config)
    (event.level, event.message, event.error?) =
      probe.report architecture source usable config := by
  cases hoff : config.isDisabled probe.name with
  | true =>
    simp [verdict_of_disabled hoff, report, hoff, Event.level, Event.message, Event.error?,
      Verdict.level, Verdict.message, Verdict.error?]
  | false =>
    simp only [verdict_of_enabled hoff, report, hoff, Bool.false_eq_true, if_false]
    rcases probe.outcome architecture source with error | value
    · cases error <;> rfl
    · simp only [Verdict.of]
      split_ifs <;> rfl

theorem report_resolved_iff {probe : Probe α} :
    (probe.report architecture source usable config).2.1 = "resolved" ↔
      probe.settles architecture source usable config = true := by
  rw [settles_iff]
  unfold report Resolves
  cases config.isDisabled probe.name with
  | true => simp
  | false =>
    rcases probe.outcome architecture source with error | value
    · cases error <;> simp
    · by_cases husable : usable value <;> simp [husable]

theorem report_warn_iff {probe : Probe α} :
    (probe.report architecture source usable config).1 = .warn ↔
      config.isDisabled probe.name = false ∧ ∃ origin reason,
        probe.outcome architecture source = .error (.queryFailed origin reason) := by
  unfold report
  cases config.isDisabled probe.name with
  | true => simp
  | false =>
    rcases probe.outcome architecture source with error | value
    · cases error <;> simp
    · by_cases husable : usable value <;> simp [husable]

end Probe

namespace Chain

variable (metric : String) (usable : α → Bool) (config : Config) (architecture : Architecture)
  (source : Source)

/-! ### Where a list of probes is decided -/

/-- The place of the first probe that decides the list, or the length of the list. -/
def firstSettled (probes : List (Probe α)) : Nat :=
  probes.findIdx (Probe.settles architecture source usable config)

/-- The probe that decides the list. -/
def winner? (probes : List (Probe α)) : Option (Probe α) :=
  probes.find? (Probe.settles architecture source usable config)

/-- The probes that are reached: those up to the one that decides. -/
def reached (probes : List (Probe α)) : List (Probe α) :=
  probes.take (firstSettled usable config architecture source probes + 1)

variable {usable config architecture source}

theorem reached_cons_of_settles {probe : Probe α} (rest : List (Probe α))
    (h : probe.settles architecture source usable config = true) :
    reached usable config architecture source (probe :: rest) = [probe] := by
  simp [reached, firstSettled, List.findIdx_cons, h]

theorem reached_cons_of_not_settles {probe : Probe α} (rest : List (Probe α))
    (h : probe.settles architecture source usable config = false) :
    reached usable config architecture source (probe :: rest) =
      probe :: reached usable config architecture source rest := by
  simp [reached, firstSettled, List.findIdx_cons, h]

/-! ### The three observations of a run -/

/-- A run that reaches a probe which does not settle goes on with the rest. -/
theorem firstUsable_cons_of_not_settles {probe : Probe α} (rest : List (Probe α))
    (h : probe.settles architecture source usable config = false) :
    let run := firstUsable metric usable config architecture (probe :: rest)
    let tail := firstUsable metric usable config architecture rest
    run.value source = tail.value source ∧
      run.calls source =
        probe.reachedQuestions architecture source config ++ tail.calls source ∧
      run.log source =
        probe.reachedLog architecture source usable config metric ++ tail.log source := by
  cases hoff : config.isDisabled probe.name with
  | true =>
    simp [firstUsable, hoff, Probe.reachedQuestions, Probe.reachedLog,
      Probe.verdict_of_disabled hoff]
  | false =>
    have hverdict :
        Verdict.of usable ((probe.attempt architecture).run.value source) ≠ .resolved := by
      simpa [Probe.settles, Probe.verdict_of_enabled hoff, Probe.outcome] using h
    simp [firstUsable, hoff, hverdict, Probe.reachedQuestions, Probe.reachedLog,
      Probe.verdict_of_enabled hoff, Probe.outcome, Probe.questions, Probe.remarks]

/-- A run that reaches a probe which settles ends there. -/
theorem firstUsable_cons_of_settles {probe : Probe α} (rest : List (Probe α))
    (h : probe.settles architecture source usable config = true) :
    let run := firstUsable metric usable config architecture (probe :: rest)
    run.value source = probe.outcome architecture source ∧
      run.calls source = probe.reachedQuestions architecture source config ∧
      run.log source = probe.reachedLog architecture source usable config metric := by
  obtain ⟨value, hoff, -, -⟩ := Probe.settles_iff.mp h
  have hverdict :
      Verdict.of usable ((probe.attempt architecture).run.value source) = .resolved := by
    simpa [Probe.settles, Probe.verdict_of_enabled hoff, Probe.outcome] using h
  simp [firstUsable, hoff, hverdict, Probe.reachedQuestions, Probe.reachedLog,
    Probe.verdict_of_enabled hoff, Probe.outcome, Probe.questions, Probe.remarks]

/-- The result of a run is what the deciding probe came to. -/
theorem value_firstUsable (probes : List (Probe α)) :
    (firstUsable metric usable config architecture probes).value source =
      ((winner? usable config architecture source probes).map
        (Probe.outcome architecture source)).getD (.error .noData) := by
  induction probes with
  | nil => rfl
  | cons probe rest ih =>
    cases h : probe.settles architecture source usable config with
    | true => simp [winner?, h, firstUsable_cons_of_settles metric rest h]
    | false => simpa [winner?, h, firstUsable_cons_of_not_settles metric rest h] using ih

/-- What a run finds is what the first of its probes to resolve resolves to. -/
theorem found_firstUsable (probes : List (Probe α)) :
    ((firstUsable metric usable config architecture probes).value source).toOption =
      probes.findSome? (Probe.resolved? architecture source usable config) := by
  induction probes with
  | nil => rfl
  | cons probe rest ih =>
    rw [List.findSome?_cons]
    cases hresolved : probe.resolved? architecture source usable config with
    | some value =>
      have hresolves := Probe.resolved?_eq_some_iff.mp hresolved
      rw [(firstUsable_cons_of_settles metric rest (Probe.settles_iff.mpr ⟨value, hresolves⟩)).1,
        hresolves.2.1]
      rfl
    | none =>
      have hsettles : probe.settles architecture source usable config = false := by
        apply Probe.settles_eq_false_iff.mpr
        intro value hresolves
        rw [Probe.resolved?_eq_some_iff.mpr hresolves] at hresolved
        contradiction
      rw [(firstUsable_cons_of_not_settles metric rest hsettles).1, ih]

/-- A run comes to a value if a probe resolves to it and none before it resolves. -/
theorem value_eq_ok_iff {probes : List (Probe α)} {value : α} :
    (firstUsable metric usable config architecture probes).value source = .ok value ↔
      ∃ before probe after, probes = before ++ probe :: after ∧
        probe.Resolves architecture source usable config value ∧
        ∀ other ∈ before, ∀ found, ¬ other.Resolves architecture source usable config found := by
  have hfound : (firstUsable metric usable config architecture probes).value source = .ok value ↔
      ((firstUsable metric usable config architecture probes).value source).toOption =
        some value := by
    cases (firstUsable metric usable config architecture probes).value source <;>
      simp [Except.toOption]
  rw [hfound, found_firstUsable, List.findSome?_eq_some_iff]
  simp only [Probe.resolved?_eq_some_iff, Probe.resolved?_eq_none_iff]

/-- A run comes to an error if no probe resolves, and then the error is that there is no data. -/
theorem value_eq_error_iff {probes : List (Probe α)} {error : ProbeError} :
    (firstUsable metric usable config architecture probes).value source = .error error ↔
      error = .noData ∧
        ∀ probe ∈ probes, ∀ found, ¬ probe.Resolves architecture source usable config found := by
  have hnoData (h : ∀ probe ∈ probes, ∀ found,
      ¬ probe.Resolves architecture source usable config found) :
      (firstUsable metric usable config architecture probes).value source = .error .noData := by
    have hwinner : winner? usable config architecture source probes = none := by
      rw [winner?, List.find?_eq_none]
      intro probe hprobe hsettles
      obtain ⟨found, hresolves⟩ := Probe.settles_iff.mp hsettles
      exact h probe hprobe found hresolves
    rw [value_firstUsable, hwinner]
    rfl
  constructor
  · intro herror
    have hnone : ∀ probe ∈ probes, ∀ found,
        ¬ probe.Resolves architecture source usable config found := by
      have hfound :
          probes.findSome? (Probe.resolved? architecture source usable config) = none := by
        rw [← found_firstUsable metric, herror]
        rfl
      exact fun probe hprobe ↦
        Probe.resolved?_eq_none_iff.mp (List.findSome?_eq_none_iff.mp hfound probe hprobe)
    have heq := herror.symm.trans (hnoData hnone)
    cases heq
    exact ⟨rfl, hnone⟩
  · rintro ⟨rfl, hnone⟩
    exact hnoData hnone

/-- The same for probes that are given by the facilities they ask. -/
theorem value_map_eq_ok_iff {ι : Type} {facilities : List ι} {probe : ι → Probe α} {value : α} :
    (firstUsable metric usable config architecture (facilities.map probe)).value source =
        .ok value ↔
      ∃ before facility after, facilities = before ++ facility :: after ∧
        (probe facility).Resolves architecture source usable config value ∧
        ∀ earlier ∈ before, ∀ found,
          ¬ (probe earlier).Resolves architecture source usable config found := by
  rw [value_eq_ok_iff]
  constructor
  · rintro ⟨before, winner, after, hsplit, hresolves, hbefore⟩
    obtain ⟨earlier, _, hall, rfl, hrest⟩ := List.map_eq_append_iff.mp hsplit
    obtain ⟨facility, later, rfl, rfl, rfl⟩ := List.map_eq_cons_iff.mp hrest
    exact ⟨earlier, facility, later, hall, hresolves, List.forall_mem_map.mp hbefore⟩
  · rintro ⟨before, facility, after, rfl, hresolves, hbefore⟩
    have hsplit : (before ++ facility :: after).map probe =
        before.map probe ++ probe facility :: after.map probe := by
      rw [List.map_append, List.map_cons]
    exact ⟨before.map probe, probe facility, after.map probe, hsplit, hresolves,
      List.forall_mem_map.mpr hbefore⟩

/-- A run comes to what it finds, or to no data. -/
theorem value_eq_found (probes : List (Probe α)) :
    (firstUsable metric usable config architecture probes).value source =
      (probes.findSome? (Probe.resolved? architecture source usable config)).elim
        (.error .noData) .ok := by
  rw [← found_firstUsable metric]
  cases h : (firstUsable metric usable config architecture probes).value source with
  | error error =>
    obtain ⟨rfl, -⟩ := (value_eq_error_iff metric).mp h
    rfl
  | ok value => rfl

/-- Settings under which every probe resolves to the same make no difference to a run. -/
theorem value_congr {probes : List (Probe α)} {other : Config}
    (h : ∀ probe ∈ probes, probe.resolved? architecture source usable config =
      probe.resolved? architecture source usable other) :
    (firstUsable metric usable config architecture probes).value source =
      (firstUsable metric usable other architecture probes).value source := by
  have hfound : probes.findSome? (Probe.resolved? architecture source usable config) =
      probes.findSome? (Probe.resolved? architecture source usable other) := by
    induction probes with
    | nil => rfl
    | cons probe rest ih =>
      obtain ⟨hprobe, hrest⟩ := List.forall_mem_cons.mp h
      rw [List.findSome?_cons, List.findSome?_cons, hprobe, ih hrest]
  rw [value_eq_found, value_eq_found, hfound]

/-- Probes that come to an error have no part in what a run finds. -/
theorem found_of_others_error {before after : List (Probe α)} (probe : Probe α)
    (h : ∀ other ∈ before ++ after, ∃ error, other.outcome architecture source = .error error) :
    ((firstUsable metric usable config architecture (before ++ probe :: after)).value
        source).toOption = probe.resolved? architecture source usable config := by
  have hnone : ∀ other ∈ before ++ after,
      other.resolved? architecture source usable config = none := by
    intro other hother
    obtain ⟨error, herror⟩ := h other hother
    exact Probe.resolved?_of_error herror
  rw [List.forall_mem_append] at hnone
  rw [found_firstUsable, List.findSome?_append, List.findSome?_eq_none_iff.mpr hnone.1,
    Option.none_or, List.findSome?_cons, List.findSome?_eq_none_iff.mpr hnone.2]
  cases probe.resolved? architecture source usable config <;> rfl

/-- The questions of a run are those of the probes that are reached, in order. -/
theorem calls_firstUsable (probes : List (Probe α)) :
    (firstUsable metric usable config architecture probes).calls source =
      (reached usable config architecture source probes).flatMap
        (Probe.reachedQuestions architecture source config) := by
  induction probes with
  | nil => rfl
  | cons probe rest ih =>
    cases h : probe.settles architecture source usable config with
    | true => simp [reached_cons_of_settles rest h, firstUsable_cons_of_settles metric rest h]
    | false =>
      simp [reached_cons_of_not_settles rest h, firstUsable_cons_of_not_settles metric rest h, ih]

/-- The log of a run is what the probes that are reached add to it, in order. -/
theorem log_firstUsable (probes : List (Probe α)) :
    (firstUsable metric usable config architecture probes).log source =
      (reached usable config architecture source probes).flatMap
        (Probe.reachedLog architecture source usable config metric) := by
  induction probes with
  | nil => rfl
  | cons probe rest ih =>
    cases h : probe.settles architecture source usable config with
    | true => simp [reached_cons_of_settles rest h, firstUsable_cons_of_settles metric rest h]
    | false =>
      simp [reached_cons_of_not_settles rest h, firstUsable_cons_of_not_settles metric rest h, ih]

/-! ### The account of a run -/

theorem not_settles_of_lt {probes : List (Probe α)} {i : Nat} (hi : i < probes.length)
    (h : i < firstSettled usable config architecture source probes) :
    probes[i].settles architecture source usable config = false := by
  simpa using List.not_of_lt_findIdx h

theorem settles_of_eq {probes : List (Probe α)}
    (h : firstSettled usable config architecture source probes < probes.length) :
    probes[firstSettled usable config architecture source probes].settles
      architecture source usable config = true :=
  List.findIdx_getElem

theorem winner?_eq_getElem? (probes : List (Probe α)) :
    winner? usable config architecture source probes =
      probes[firstSettled usable config architecture source probes]? :=
  List.find?_eq_getElem?_findIdx

theorem flatMap_reachedQuestions (probes : List (Probe α)) :
    probes.flatMap (Probe.reachedQuestions architecture source config) =
      (probes.filter fun probe ↦ !config.isDisabled probe.name).flatMap
        (Probe.questions architecture source) := by
  induction probes with
  | nil => rfl
  | cons probe rest ih =>
    cases hoff : config.isDisabled probe.name <;> simp [Probe.reachedQuestions, hoff, ih]

/-- Lists that agree up to the place at which one of them is decided are decided there both. -/
theorem firstSettled_eq_of_take_eq {probes others : List (Probe α)}
    (h : firstSettled usable config architecture source probes < probes.length)
    (heq : others.take (firstSettled usable config architecture source probes + 1) =
      probes.take (firstSettled usable config architecture source probes + 1)) :
    firstSettled usable config architecture source others =
      firstSettled usable config architecture source probes := by
  set stop := firstSettled usable config architecture source probes with hstop
  have hshort : (probes.take (stop + 1)).findIdx
      (Probe.settles architecture source usable config) = stop := by
    have hlt : (probes.take (stop + 1)).findIdx
        (Probe.settles architecture source usable config) < (probes.take (stop + 1)).length := by
      rw [List.findIdx_lt_length]
      exact ⟨probes[stop], List.mem_take_iff_getElem.mpr ⟨stop, by omega, rfl⟩, settles_of_eq h⟩
    exact ((List.take_prefix _ _).findIdx_eq_of_findIdx_lt_length hlt).symm
  have hlt : (others.take (stop + 1)).findIdx
      (Probe.settles architecture source usable config) < (others.take (stop + 1)).length := by
    rw [heq, hshort, List.length_take]
    omega
  have hothers := (List.take_prefix (stop + 1) others).findIdx_eq_of_findIdx_lt_length hlt
  rw [heq, hshort] at hothers
  exact hothers

/-- Taking away a probe that does not decide the list leaves the deciding probe. -/
theorem winner?_eraseIdx {probes : List (Probe α)} {i : Nat} (hi : i < probes.length)
    (h : i ≠ firstSettled usable config architecture source probes) :
    winner? usable config architecture source (probes.eraseIdx i) =
      winner? usable config architecture source probes := by
  have hsplit : probes = probes.take i ++ probes[i] :: probes.drop (i + 1) := by
    rw [List.getElem_cons_drop hi, List.take_append_drop]
  unfold winner?
  rw [List.eraseIdx_eq_take_drop_succ]
  conv => rhs; rw [hsplit]
  rw [List.find?_append, List.find?_append]
  rcases Nat.lt_or_gt_of_ne h with hbefore | hbehind
  · rw [List.find?_cons_of_neg]
    simp [not_settles_of_lt hi hbefore]
  · have hfound : ((probes.take i).find?
        (Probe.settles architecture source usable config)).isSome := by
      have hlt : firstSettled usable config architecture source probes < probes.length :=
        Nat.lt_trans hbehind hi
      rw [List.find?_isSome]
      exact ⟨_, List.mem_take_iff_getElem.mpr ⟨_, by omega, rfl⟩, settles_of_eq hlt⟩
    obtain ⟨probe, hprobe⟩ := Option.isSome_iff_exists.mp hfound
    rw [hprobe, Option.some_or, Option.some_or]

variable (usable config architecture source)

/-- The account of a runner on a list of probes and one source, where the list is decided at the
place `stop`. -/
structure Account (run : List (Probe α) → Probing (Outcome α)) (probes : List (Probe α))
    (stop : Nat) : Prop where
  /-- No probe before the deciding place resolves to a value. -/
  before : ∀ i (hi : i < probes.length), i < stop →
    ∀ value, ¬ probes[i].Resolves architecture source usable config value
  /-- The probe at the deciding place resolves to a value, which is the result. -/
  resolved : ∀ h : stop < probes.length,
    ∃ value, probes[stop].Resolves architecture source usable config value ∧
      (run probes).value source = .ok value
  /-- Where no probe decides, the result is that there is no data. -/
  exhausted : probes.length ≤ stop → (run probes).value source = .error .noData
  /-- The probes up to the deciding place that are switched on are run, each once and in order. -/
  asked : (run probes).calls source =
    ((probes.take (stop + 1)).filter fun probe ↦ !config.isDisabled probe.name).flatMap
      (Probe.questions architecture source)
  /-- Every probe up to the deciding place leaves one verdict in the log, in order, and before it
  what the probe logs itself when it is run. -/
  logged : (run probes).log source =
    (probes.take (stop + 1)).flatMap fun probe ↦
      (if config.isDisabled probe.name then [] else probe.remarks architecture source) ++
        [.probed metric probe.name (probe.verdict architecture source usable config)]
  /-- The event on a probe has the level, the words and the error of its report. -/
  reported : ∀ probe ∈ probes,
    let event := Event.probed metric probe.name (probe.verdict architecture source usable config)
    (event.level, event.message, event.error?) = probe.report architecture source usable config
  /-- Of the probes that are reached exactly the deciding one is reported as resolved. -/
  resolvedOnce : ∀ i (hi : i < probes.length), i ≤ stop →
    ((probes[i].report architecture source usable config).2.1 = "resolved" ↔ i = stop)
  /-- A warning is given exactly for a failed query of a probe that is switched on. -/
  warned : ∀ probe ∈ probes,
    (probe.report architecture source usable config).1 = .warn ↔
      config.isDisabled probe.name = false ∧ ∃ origin reason,
        probe.outcome architecture source = .error (.queryFailed origin reason)
  /-- The winner is the probe at the deciding place. -/
  won : winner? usable config architecture source probes = probes[stop]?
  /-- What stands behind the deciding place changes nothing. -/
  behind : stop < probes.length → ∀ others : List (Probe α),
    others.take (stop + 1) = probes.take (stop + 1) →
      winner? usable config architecture source others =
          winner? usable config architecture source probes ∧
        (run others).value source = (run probes).value source ∧
        (run others).calls source = (run probes).calls source ∧
        (run others).log source = (run probes).log source
  /-- A probe that does not decide can be taken away. -/
  erased : ∀ i < probes.length, i ≠ stop →
    winner? usable config architecture source (probes.eraseIdx i) =
        winner? usable config architecture source probes ∧
      (run (probes.eraseIdx i)).value source = (run probes).value source

/-- Whatever the probes are, the runner keeps its account with the first probe that resolves as
the deciding one. -/
theorem firstUsable_account (probes : List (Probe α)) :
    Account metric usable config architecture source
      (firstUsable metric usable config architecture) probes
      (firstSettled usable config architecture source probes) where
  before := fun i hi hlt ↦ Probe.settles_eq_false_iff.mp (not_settles_of_lt hi hlt)
  resolved := by
    intro h
    obtain ⟨value, hvalue⟩ := Probe.settles_iff.mp (settles_of_eq h)
    refine ⟨value, hvalue, ?_⟩
    rw [value_firstUsable, winner?_eq_getElem?, List.getElem?_eq_getElem h]
    exact hvalue.2.1
  exhausted := by
    intro h
    rw [value_firstUsable, winner?_eq_getElem?, List.getElem?_eq_none h]
    rfl
  asked := by
    rw [calls_firstUsable, reached, flatMap_reachedQuestions]
  logged := log_firstUsable metric probes
  reported := fun probe _ ↦ Probe.event_verdict metric probe
  resolvedOnce := by
    intro i hi hle
    rw [Probe.report_resolved_iff]
    constructor
    · intro hsettles
      rcases Nat.lt_or_eq_of_le hle with hlt | heq
      · rw [not_settles_of_lt hi hlt] at hsettles
        contradiction
      · exact heq
    · rintro rfl
      exact settles_of_eq hi
  warned := fun _ _ ↦ Probe.report_warn_iff
  won := winner?_eq_getElem? probes
  behind := by
    intro h others heq
    have hstop := firstSettled_eq_of_take_eq h heq
    have hreached : reached usable config architecture source others =
        reached usable config architecture source probes := by
      rw [reached, hstop, heq, reached]
    have hwinner : winner? usable config architecture source others =
        winner? usable config architecture source probes := by
      rw [winner?_eq_getElem?, winner?_eq_getElem?, hstop,
        ← List.getElem?_take_of_lt (Nat.lt_succ_self _), heq,
        List.getElem?_take_of_lt (Nat.lt_succ_self _)]
    refine ⟨hwinner, ?_, ?_, ?_⟩
    · rw [value_firstUsable, value_firstUsable, hwinner]
    · rw [calls_firstUsable, calls_firstUsable, hreached]
    · rw [log_firstUsable, log_firstUsable, hreached]
  erased := by
    intro i hi hne
    have hwinner := winner?_eraseIdx hi hne
    refine ⟨hwinner, ?_⟩
    rw [value_firstUsable, value_firstUsable, hwinner]

end Chain

end HostProfile
