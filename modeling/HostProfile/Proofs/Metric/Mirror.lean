import HostProfile.Proofs.Metric.Kind

/-!
# Switching off a facility

To switch a facility off in the settings is the same as to lose it on the host. A computation
mirrors another if it does on every host what the other does on the host without the facility: its
value is the same (or related as asked), its questions are those of the other that are not put to
the facility, and its log is the same but for the verdicts on the probes of the facility, which say
that these are switched off (`Probing.Mirrors`). The relation is kept by everything computations are
composed of.

A probe that is not named after the facility puts no question to it, so it cannot tell the two hosts
apart; one that is named after it comes to nothing where the facility does not exist, so both
computations go on behind it. This carries over to every list of probes (`mirrors_firstUsable`) and
to all metrics (`mirrors_find`).
-/

set_option autoImplicit false
set_option relaxedAutoImplicit false

namespace HostProfile

variable {α β γ δ : Type}

/-- An event as it is logged where a facility is switched off. -/
def Event.switchedOff (name : String) : Event → Event
  | .probed metric probe verdict =>
    .probed metric probe (if probe = name then .disabled else verdict)
  | event => event

theorem Event.map_switchedOff_of_isRemark {log : List Event} (h : ∀ event ∈ log, event.IsRemark)
    (name : String) : log.map (switchedOff name) = log := by
  have hevent : ∀ event ∈ log, switchedOff name event = id event := by
    intro event hmem
    obtain ⟨property, error, rfl⟩ := h event hmem
    rfl
  rw [List.map_congr_left hevent, List.map_id]

/-- The questions that are not put to a facility. -/
def Query.others (name : String) (calls : List Query) : List Query :=
  calls.filter fun q ↦ q.owner ≠ name

@[simp] theorem Query.others_nil (name : String) : others name [] = [] := rfl

theorem Query.others_append (name : String) (before after : List Query) :
    others name (before ++ after) = others name before ++ others name after :=
  List.filter_append ..

theorem Query.others_eq_self {name : String} {calls : List Query}
    (h : ∀ q ∈ calls, q.owner ≠ name) : others name calls = calls :=
  List.filter_eq_self.mpr fun q hq ↦ by simpa using h q hq

theorem Query.others_eq_nil {name : String} {calls : List Query}
    (h : ∀ q ∈ calls, q.owner = name) : others name calls = [] :=
  List.filter_eq_nil_iff.mpr fun q hq ↦ by simpa using h q hq

theorem Query.owner_ne_of_mem_others {name : String} {calls : List Query} {q : Query}
    (h : q ∈ others name calls) : q.owner ≠ name := by
  simpa using (List.mem_filter.mp h).2

/-! ### Facilities in the settings -/

/-- The names of the facilities are in lower case. -/
theorem Query.lower_of_mem_facilities : ∀ name ∈ facilities, name.map Char.toLower = name := by
  intro name h
  rw [← String.toList_inj, String.toList_map]
  revert name
  decide

theorem Config.isDisabled_disable_facility {name : String} (h : name ∈ Query.facilities)
    (config : Config) (probe : String) :
    (config.disable name).isDisabled probe = (probe == name || config.isDisabled probe) := by
  rw [isDisabled_disable, Query.lower_of_mem_facilities name h]

section Disable

variable {architecture : Architecture} {source : Source} {usable : α → Bool} {config : Config}
  {name : String}

theorem Probe.resolved?_disable (h : name ∈ Query.facilities) (probe : Probe α) :
    probe.resolved? architecture source usable (config.disable name) =
      if probe.name = name then none else probe.resolved? architecture source usable config := by
  rw [resolved?, resolved?, Config.isDisabled_disable_facility h]
  by_cases hname : probe.name = name <;> simp [hname]

/-- A facility whose probes resolve to nothing may as well be switched off. -/
theorem Chain.value_disable (metric : String) {probes : List (Probe α)}
    (h : name ∈ Query.facilities)
    (hnone : ∀ probe ∈ probes, probe.name = name →
      ∀ value, ¬ probe.Resolves architecture source usable config value) :
    (firstUsable metric usable config architecture probes).value source =
      (firstUsable metric usable (config.disable name) architecture probes).value source := by
  refine value_congr metric fun probe hprobe ↦ ?_
  rw [Probe.resolved?_disable h]
  split
  · exact Probe.resolved?_eq_none_iff.mpr (hnone probe hprobe ‹_›)
  · rfl

end Disable

/-! ### Computations that mirror each other -/

namespace Probing

/-- The first computation does on every host what the second does on the host without a facility,
but for the questions to the facility and the verdicts on its probes. -/
structure Mirrors (name : String) (R : α → β → Prop) (first : Probing α) (second : Probing β) :
    Prop where
  value : ∀ source : Source, R (first.value source) (second.value (source.without name))
  calls : ∀ source : Source,
    first.calls source = Query.others name (second.calls (source.without name))
  log : ∀ source : Source,
    first.log source = (second.log (source.without name)).map (Event.switchedOff name)

variable {name : String} {R : α → β → Prop} {S : γ → δ → Prop}

theorem mirrors_pure {a : α} {b : β} (h : R a b) : Mirrors name R (pure a) (pure b) where
  value := fun _ ↦ h
  calls := fun _ ↦ rfl
  log := fun _ ↦ rfl

theorem Mirrors.bind {first : Probing α} {second : Probing β} {next : α → Probing γ}
    {next' : β → Probing δ} (h : Mirrors name R first second)
    (hnext : ∀ a b, R a b → Mirrors name S (next a) (next' b)) :
    Mirrors name S (first >>= next) (second >>= next') where
  value := by
    intro source
    rw [value_bind, value_bind]
    exact (hnext _ _ (h.value source)).value source
  calls := by
    intro source
    rw [calls_bind, calls_bind, Query.others_append, h.calls,
      (hnext _ _ (h.value source)).calls]
  log := by
    intro source
    rw [log_bind, log_bind, List.map_append, h.log, (hnext _ _ (h.value source)).log]

theorem Mirrors.map {first : Probing α} {second : Probing β} {f : α → γ} {g : β → δ}
    (h : Mirrors name R first second) (hfg : ∀ a b, R a b → S (f a) (g b)) :
    Mirrors name S (f <$> first) (g <$> second) := by
  rw [map_eq_pure_bind, map_eq_pure_bind]
  exact h.bind fun a b hab ↦ mirrors_pure (hfg a b hab)

theorem mirrors_write (event : Event) (h : event.switchedOff name = event) :
    Mirrors name Eq (write event) (write event) where
  value := fun _ ↦ rfl
  calls := fun _ ↦ rfl
  log := fun _ ↦ by rw [log_write, log_write, List.map_singleton, h]

end Probing

/-! ### Probes -/

namespace Probe.Keeps

variable {probe : Probe α} {entry : String × List Query} {name : String}

theorem owner_of_mem_questions (h : probe.Keeps entry) (howner : ∀ q ∈ entry.2, q.owner = entry.1)
    {architecture : Architecture} {source : Source} {q : Query}
    (hq : q ∈ probe.questions architecture source) : q.owner = probe.name := by
  rw [h.name_eq]
  exact howner q (((h.follows architecture).calls source).mem hq)

/-- A probe that is not named after a facility cannot tell whether the host has it. -/
theorem run_without (h : probe.Keeps entry) (howner : ∀ q ∈ entry.2, q.owner = entry.1)
    (hname : probe.name ≠ name) (architecture : Architecture) (source : Source) :
    probe.outcome architecture (source.without name) = probe.outcome architecture source ∧
      probe.questions architecture (source.without name) = probe.questions architecture source ∧
      probe.remarks architecture (source.without name) = probe.remarks architecture source := by
  refine Probing.run_congr _ fun q hq ↦ source.without_of_ne_owner ?_
  rw [h.owner_of_mem_questions howner hq]
  exact hname

/-- A probe that is named after a facility comes to nothing where the host lacks it. -/
theorem outcome_without (h : probe.Keeps entry) (hfacility : name ∈ Query.facilities)
    (hname : probe.name = name) (architecture : Architecture) (source : Source) :
    probe.outcome architecture (source.without name) = .error .unavailable ∧
      probe.remarks architecture (source.without name) = [] := by
  have hentry : entry.1 = name := h.name_eq.symm.trans hname
  exact h.dependsOn (hentry ▸ hfacility) architecture _ (hentry ▸ source.lacks_without name)

variable (metric : String) (usable : α → Bool) (config : Config) (architecture : Architecture)
  (source : Source)

/-- What a chain sees of a probe that it reaches is, with a facility switched off, what it sees of
it on the host without the facility: whether the probe decides the chain and with which outcome, its
questions to other facilities, and its part of the log but for the verdict. -/
theorem reached_disable (h : probe.Keeps entry) (howner : ∀ q ∈ entry.2, q.owner = entry.1)
    (hfacility : name ∈ Query.facilities) :
    probe.settles architecture source usable (config.disable name) =
        probe.settles architecture (source.without name) usable config ∧
      (probe.settles architecture (source.without name) usable config = true →
        probe.outcome architecture source =
          probe.outcome architecture (source.without name)) ∧
      probe.reachedQuestions architecture source (config.disable name) =
        Query.others name (probe.reachedQuestions architecture (source.without name) config) ∧
      probe.reachedLog architecture source usable (config.disable name) metric =
        (probe.reachedLog architecture (source.without name) usable config metric).map
          (Event.switchedOff name) := by
  by_cases hname : probe.name = name
  · subst hname
    have hoff : (config.disable probe.name).isDisabled probe.name = true := by
      simp [Config.isDisabled_disable_facility hfacility]
    obtain ⟨houtcome, hsilent⟩ := h.outcome_without hfacility rfl architecture source
    have hquestions :
        Query.others probe.name (probe.questions architecture (source.without probe.name)) = [] :=
      Query.others_eq_nil fun q hq ↦ h.owner_of_mem_questions howner hq
    cases hon : config.isDisabled probe.name <;>
      simp [settles, verdict, reachedQuestions, reachedLog, hoff, hon, houtcome, hsilent,
        hquestions, Verdict.of, Event.switchedOff]
  · have hoff : (config.disable name).isDisabled probe.name = config.isDisabled probe.name := by
      simp [Config.isDisabled_disable_facility hfacility, hname]
    obtain ⟨houtcome, hquestions, hlog⟩ := h.run_without howner hname architecture source
    have hothers : Query.others name (probe.questions architecture source) =
        probe.questions architecture source :=
      Query.others_eq_self fun q hq ↦ (h.owner_of_mem_questions howner hq) ▸ hname
    have hremarks : (probe.remarks architecture source).map (Event.switchedOff name) =
        probe.remarks architecture source :=
      Event.map_switchedOff_of_isRemark ((h.follows architecture).log source) name
    cases hon : config.isDisabled probe.name <;>
      simp [settles, verdict, reachedQuestions, reachedLog, hoff, hon, houtcome, hlog, hquestions,
        hothers, hremarks, Event.switchedOff, hname]

end Probe.Keeps

/-! ### Chains and metrics -/

open Probing

variable {name : String}

/-- A list of probes that keep to an agenda, run with a facility switched off, mirrors its run on
the host without the facility. -/
theorem Chain.mirrors_firstUsable (hfacility : name ∈ Query.facilities) (metric : String)
    (usable : α → Bool) (config : Config) (architecture : Architecture) {probes : List (Probe α)}
    {agenda : List (String × List Query)} (hkeeps : List.Forall₂ Probe.Keeps probes agenda)
    (howner : ∀ entry ∈ agenda, ∀ q ∈ entry.2, q.owner = entry.1) :
    Mirrors name Eq (firstUsable metric usable (config.disable name) architecture probes)
      (firstUsable metric usable config architecture probes) := by
  induction hkeeps with
  | nil => exact mirrors_pure rfl
  | @cons probe entry probes agenda hprobe hrest ih =>
    have hrest := ih fun entry hentry ↦ howner entry (List.mem_cons_of_mem _ hentry)
    have hreached := fun source ↦ hprobe.reached_disable metric usable config architecture source
      (howner entry List.mem_cons_self) hfacility
    -- On every host the two runs agree on whether they end here.
    have hrun : ∀ source : Source,
        let off := firstUsable metric usable (config.disable name) architecture (probe :: probes)
        let lacking := firstUsable metric usable config architecture (probe :: probes)
        off.value source = lacking.value (source.without name) ∧
          off.calls source = Query.others name (lacking.calls (source.without name)) ∧
          off.log source =
            (lacking.log (source.without name)).map (Event.switchedOff name) := by
      intro source
      obtain ⟨hsettles, houtcome, hquestions, hlog⟩ := hreached source
      cases h : probe.settles architecture (source.without name) usable config with
      | true =>
        have hoff := firstUsable_cons_of_settles metric probes (hsettles.trans h)
        have hlacking := firstUsable_cons_of_settles metric probes h
        refine ⟨?_, ?_, ?_⟩
        · rw [hoff.1, hlacking.1, houtcome h]
        · rw [hoff.2.1, hlacking.2.1, hquestions]
        · rw [hoff.2.2, hlacking.2.2, hlog]
      | false =>
        have hoff := firstUsable_cons_of_not_settles metric probes (hsettles.trans h)
        have hlacking := firstUsable_cons_of_not_settles metric probes h
        refine ⟨?_, ?_, ?_⟩
        · rw [hoff.1, hlacking.1, hrest.value]
        · rw [hoff.2.1, hlacking.2.1, Query.others_append, hquestions, hrest.calls]
        · rw [hoff.2.2, hlacking.2.2, List.map_append, hlog, hrest.log]
    exact ⟨fun source ↦ (hrun source).1, fun source ↦ (hrun source).2.1,
      fun source ↦ (hrun source).2.2⟩

namespace Metric.Kind

/-- The run of a metric's chain with a facility switched off mirrors its run on the host without the
facility. -/
theorem mirrors_run (hfacility : name ∈ Query.facilities) (config : Config)
    (architecture : Architecture) (kind : Kind) :
    Mirrors name Eq (kind.chain.run (config.disable name) architecture)
      (kind.chain.run config architecture) :=
  Chain.mirrors_firstUsable hfacility kind.chain.metric kind.chain.usable config architecture
    (keeps_agenda kind) fun _ hentry _ hq ↦ owner_of_mem_agenda hentry hq

/-- So does finding the metric. -/
theorem mirrors_find (hfacility : name ∈ Query.facilities) (config : Config)
    (architecture : Architecture) (kind : Kind) :
    Mirrors name Eq (kind.find (config.disable name) architecture)
      (kind.find config architecture) := by
  rw [find_eq, find_eq]
  exact (kind.mirrors_run hfacility config architecture).map fun _ _ h ↦
    congrArg (kind.finish architecture) h

end Metric.Kind

end HostProfile
