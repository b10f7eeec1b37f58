import HostProfile.Proofs.Metric.Cpuid
import HostProfile.Proofs.Probing.Transcript

/-!
# What chains log

A chain logs the verdicts on its probes, and between them the remarks of the probes that it runs. So
the host may answer as it likes: every warning in the transcript of a chain is the verdict on a
probe that was run right before it and whose query failed (`failedProbe_of_warn`).

Graphics is where a host without a display would be loudest, for the adapter is looked for again and
again. A chain that is told of every source of it that the source does not exist gives no warning
(`quiet_adapter`).
-/

set_option autoImplicit false
set_option relaxedAutoImplicit false

namespace HostProfile

variable {α : Type}

open Happening Probing

/-- An event that chains log: a verdict on a probe or a remark of one. -/
def Event.IsProbing (event : Event) : Prop :=
  event.IsRemark ∨ ∃ metric source verdict, event = .probed metric source verdict

theorem Event.IsRemark.level_eq {event : Event} (h : event.IsRemark) : event.level = .debug := by
  obtain ⟨property, error, rfl⟩ := h
  rfl

/-- What chains log is worded like nothing else in the log. -/
theorem Event.IsProbing.message_mem {event : Event} (h : event.IsProbing) :
    event.message ∈ ["display property missing", "source disabled by config", "resolved",
      "implausible value", "unavailable", "no data", "probe failed, trying next source"] := by
  obtain ⟨property, error, rfl⟩ | ⟨metric, source, verdict, rfl⟩ := h
  · simp [Event.message]
  · cases verdict <;> simp [Event.message, Verdict.message]

/-- An event of two transcripts in a row happens in the first or in the second. -/
theorem Happening.append_eq_split {first second before after : List Happening}
    {happening : Happening} (h : first ++ second = before ++ happening :: after) :
    (∃ rest, first = before ++ happening :: rest ∧ after = rest ++ second) ∨
      ∃ sofar, before = first ++ sofar ∧ second = sofar ++ happening :: after := by
  rcases List.append_eq_append_iff.mp h with ⟨sofar, hbefore, hsecond⟩ | ⟨rest, hfirst, hafter⟩
  · exact .inr ⟨sofar, hbefore, hsecond⟩
  · cases rest with
    | nil => exact .inr ⟨[], by simpa using hfirst.symm, by simpa using hafter.symm⟩
    | cons head rest =>
      obtain ⟨rfl, rfl⟩ := List.cons.inj hafter
      exact .inl ⟨rest, hfirst, rfl⟩

/-! ### Lists of probes -/

namespace Chain

variable {metric : String} {usable : α → Bool} {config : Config} {architecture : Architecture}
  {transcript : List Happening} {outcome : Outcome α}

/-- The verdict on a query that failed is the only warning. -/
theorem eq_failed_of_warn {found : Outcome α} (h : (Verdict.of usable found).level = .warn) :
    ∃ origin reason, found = .error (.queryFailed origin reason) ∧
      Verdict.of usable found = .failed origin reason := by
  rcases found with error | value
  · cases error with
    | unavailable | noData => cases h
    | queryFailed origin reason => exact ⟨origin, reason, rfl, rfl⟩
  · by_cases husable : usable value <;> simp [Verdict.of, husable, Verdict.level] at h

theorem exists_ok_of_resolved (h : Verdict.of usable outcome = .resolved) :
    ∃ value, outcome = .ok value ∧ usable value = true := by
  rcases outcome with error | value
  · cases error <;> cases h
  · by_cases husable : usable value = true
    · exact ⟨value, rfl, husable⟩
    · rw [Verdict.of, if_neg husable] at h
      cases h

/-- A list of probes begins with what its first probe does, unless that is switched off, and with
the verdict on it; there it ends with what the probe came to if that is resolved, and else it goes
on with the rest. -/
theorem unfolds_firstUsable_cons {probe : Probe α} {rest : List (Probe α)}
    (h : (firstUsable metric usable config architecture (probe :: rest)).Unfolds transcript
      outcome) :
    ∃ run verdict tail, transcript = run ++ .logged (.probed metric probe.name verdict) :: tail ∧
      (config.isDisabled probe.name = true ∧ run = [] ∧ verdict = .disabled ∨
        config.isDisabled probe.name = false ∧ ∃ found,
          (probe.attempt architecture).run.Unfolds run found ∧ verdict = .of usable found) ∧
      (verdict = .resolved ∧ tail = [] ∧ (probe.attempt architecture).run.Unfolds run outcome ∧
          verdict = .of usable outcome ∨
        verdict ≠ .resolved ∧
          (firstUsable metric usable config architecture rest).Unfolds tail outcome) := by
  rw [firstUsable] at h
  cases hoff : config.isDisabled probe.name with
  | true =>
    rw [if_pos hoff] at h
    obtain ⟨tail, rfl, htail⟩ := unfolds_write_bind_iff.mp h
    exact ⟨[], .disabled, tail, rfl, .inl ⟨rfl, rfl, rfl⟩, .inr ⟨by rintro ⟨⟩, htail⟩⟩
  | false =>
    rw [hoff, if_neg Bool.false_ne_true] at h
    obtain ⟨run, found, after, rfl, hrun, hafter⟩ := unfolds_bind_iff.mp h
    obtain ⟨tail, rfl, htail⟩ := unfolds_write_bind_iff.mp hafter
    refine ⟨run, .of usable found, tail, rfl, .inr ⟨rfl, found, hrun, rfl⟩, ?_⟩
    split at htail
    · rename_i hresolved
      obtain ⟨rfl, rfl⟩ := unfolds_pure_iff.mp htail
      exact .inl ⟨hresolved, rfl, hrun, rfl⟩
    · rename_i hresolved
      exact .inr ⟨hresolved, htail⟩

variable {probes : List (Probe α)}

/-- Probes that log nothing but remarks make a list that logs nothing but these and verdicts. -/
theorem isProbing_of_mem
    (hremarks : ∀ probe ∈ probes, ∀ run found, (probe.attempt architecture).run.Unfolds run found →
      ∀ event, .logged event ∈ run → event.IsRemark)
    (h : (firstUsable metric usable config architecture probes).Unfolds transcript outcome) :
    ∀ event, .logged event ∈ transcript → event.IsProbing := by
  induction probes generalizing transcript with
  | nil =>
    rw [(unfolds_pure_iff.mp h).1]
    simp
  | cons probe rest ih =>
    rw [List.forall_mem_cons] at hremarks
    obtain ⟨run, verdict, tail, rfl, hrun, htail⟩ := unfolds_firstUsable_cons h
    intro event hmem
    rw [List.mem_append, List.mem_cons] at hmem
    rcases hmem with hmem | hmem | hmem
    · rcases hrun with ⟨-, rfl, -⟩ | ⟨-, found, hrun, -⟩
      · cases hmem
      · exact .inl (hremarks.1 run found hrun event hmem)
    · cases hmem
      exact .inr ⟨_, _, _, rfl⟩
    · rcases htail with ⟨-, rfl, -⟩ | ⟨-, htail⟩
      · cases hmem
      · exact ih hremarks.2 htail event hmem

/-- What is logged up to the first verdict of a list is that verdict and remarks. -/
theorem verdict_of_mem {probe : Probe α} {run tail : List Happening} {verdict : Verdict}
    (hremarks : ∀ found, (probe.attempt architecture).run.Unfolds run found →
      ∀ event, .logged event ∈ run → event.IsRemark)
    (hrun : config.isDisabled probe.name = true ∧ run = [] ∧ verdict = .disabled ∨
      config.isDisabled probe.name = false ∧ ∃ found,
        (probe.attempt architecture).run.Unfolds run found ∧ verdict = .of usable found)
    {logged name : String} {other : Verdict}
    (hmem : .logged (.probed logged name other) ∈
      run ++ .logged (.probed metric probe.name verdict) :: tail) :
    (logged = metric ∧ name = probe.name ∧ other = verdict) ∨
      .logged (.probed logged name other) ∈ tail := by
  rw [List.mem_append, List.mem_cons, Happening.logged.injEq, Event.probed.injEq] at hmem
  rcases hmem with hmem | hmem | hmem
  · rcases hrun with ⟨-, rfl, -⟩ | ⟨-, found, hrun, -⟩
    · cases hmem
    · obtain ⟨property, error, hremark⟩ := hremarks found hrun _ hmem
      cases hremark
  · exact .inl hmem
  · exact .inr hmem

/-- A verdict that a list of probes logs is on one of them. -/
theorem exists_probe_of_mem
    (hremarks : ∀ probe ∈ probes, ∀ run found, (probe.attempt architecture).run.Unfolds run found →
      ∀ event, .logged event ∈ run → event.IsRemark)
    (h : (firstUsable metric usable config architecture probes).Unfolds transcript outcome)
    {logged name : String} {verdict : Verdict}
    (hmem : .logged (.probed logged name verdict) ∈ transcript) :
    ∃ probe ∈ probes, probe.name = name := by
  induction probes generalizing transcript with
  | nil =>
    rw [(unfolds_pure_iff.mp h).1] at hmem
    cases hmem
  | cons probe rest ih =>
    rw [List.forall_mem_cons] at hremarks
    obtain ⟨run, first, tail, rfl, hrun, htail⟩ := unfolds_firstUsable_cons h
    obtain ⟨-, rfl, -⟩ | hmem := verdict_of_mem (hremarks.1 run) hrun hmem
    · exact ⟨probe, List.mem_cons_self, rfl⟩
    · rcases htail with ⟨-, rfl, -⟩ | ⟨-, htail⟩
      · cases hmem
      · obtain ⟨other, hother, hname⟩ := ih hremarks.2 htail hmem
        exact ⟨other, List.mem_cons_of_mem _ hother, hname⟩

/-- A list of probes ends right after one that is resolved, with the usable value it came to. -/
theorem resolved_of_mem
    (hremarks : ∀ probe ∈ probes, ∀ run found, (probe.attempt architecture).run.Unfolds run found →
      ∀ event, .logged event ∈ run → event.IsRemark)
    (h : (firstUsable metric usable config architecture probes).Unfolds transcript outcome)
    {name : String} (hmem : .logged (.probed metric name .resolved) ∈ transcript) :
    ∃ probe ∈ probes, probe.name = name ∧ config.isDisabled probe.name = false ∧ ∃ sofar run,
      transcript = sofar ++ run ++ [.logged (.probed metric name .resolved)] ∧
        (probe.attempt architecture).run.Unfolds run outcome ∧
        ∃ value, outcome = .ok value ∧ usable value = true := by
  induction probes generalizing transcript with
  | nil =>
    rw [(unfolds_pure_iff.mp h).1] at hmem
    cases hmem
  | cons probe rest ih =>
    rw [List.forall_mem_cons] at hremarks
    obtain ⟨run, verdict, tail, rfl, hrun, htail⟩ := unfolds_firstUsable_cons h
    obtain ⟨-, rfl, rfl⟩ | hmem := verdict_of_mem (hremarks.1 run) hrun hmem
    · rcases hrun with ⟨-, -, hverdict⟩ | ⟨hoff, -⟩
      · cases hverdict
      · rcases htail with ⟨-, rfl, hrun, hverdict⟩ | ⟨hverdict, -⟩
        · exact ⟨probe, List.mem_cons_self, rfl, hoff, [], run, rfl, hrun,
            exists_ok_of_resolved hverdict.symm⟩
        · exact absurd rfl hverdict
    · rcases htail with ⟨-, rfl, -⟩ | ⟨-, htail⟩
      · cases hmem
      · obtain ⟨other, hother, hname, hoff, sofar, otherRun, rfl, hrest⟩ :=
          ih hremarks.2 htail hmem
        exact ⟨other, List.mem_cons_of_mem _ hother, hname, hoff,
          run ++ .logged (.probed metric probe.name verdict) :: sofar, otherRun, by simp, hrest⟩

/-- Where no earlier probe comes to a usable value, a probe that is switched on has its turn: it is
run, the verdict on it follows and is the only one on it, and if it is resolved, the list comes to
what the probe came to. -/
theorem exists_turn (before : List (Probe α)) (probe : Probe α) (after : List (Probe α))
    (h : (firstUsable metric usable config architecture (before ++ probe :: after)).Unfolds
      transcript outcome)
    (hremarks : ∀ other ∈ before ++ probe :: after, ∀ run found,
      (other.attempt architecture).run.Unfolds run found →
        ∀ event, .logged event ∈ run → event.IsRemark)
    (hon : config.isDisabled probe.name = false)
    (hnames : ∀ other ∈ before ++ after, other.name ≠ probe.name)
    (hbefore : ∀ other ∈ before, ∀ run value, run <:+: transcript →
      (other.attempt architecture).run.Unfolds run (.ok value) → usable value = false) :
    ∃ run found, (probe.attempt architecture).run.Unfolds run found ∧
      run ++ [.logged (.probed metric probe.name (.of usable found))] <:+: transcript ∧
      (∀ logged verdict, .logged (.probed logged probe.name verdict) ∈ transcript →
        logged = metric ∧ verdict = .of usable found) ∧
      (Verdict.of usable found = .resolved → outcome = found) := by
  induction before generalizing transcript with
  | nil =>
    rw [List.nil_append] at h hremarks hnames
    rw [List.forall_mem_cons] at hremarks
    obtain ⟨run, verdict, tail, rfl, hrun, htail⟩ := unfolds_firstUsable_cons h
    obtain ⟨found, hfound, rfl, hresolved⟩ : ∃ found,
        (probe.attempt architecture).run.Unfolds run found ∧ verdict = .of usable found ∧
          (Verdict.of usable found = .resolved → outcome = found) := by
      rcases htail with ⟨-, -, hfound, hverdict⟩ | ⟨hverdict, -⟩
      · exact ⟨outcome, hfound, hverdict, fun _ ↦ rfl⟩
      · rcases hrun with ⟨hoff, -⟩ | ⟨-, found, hfound, rfl⟩
        · rw [hon] at hoff
          cases hoff
        · exact ⟨found, hfound, rfl, fun hresolved ↦ absurd hresolved hverdict⟩
    refine ⟨run, found, hfound, ⟨[], tail, by simp⟩, fun logged verdict hmem ↦ ?_, hresolved⟩
    obtain ⟨hmetric, -, hverdict⟩ | hmem := verdict_of_mem (hremarks.1 run) hrun hmem
    · exact ⟨hmetric, hverdict⟩
    · rcases htail with ⟨-, rfl, -⟩ | ⟨-, htail⟩
      · cases hmem
      · obtain ⟨other, hother, hname⟩ := exists_probe_of_mem hremarks.2 htail hmem
        exact absurd hname (hnames other hother)
  | cons first rest ih =>
    rw [List.cons_append] at h hremarks hnames
    rw [List.forall_mem_cons] at hremarks hnames hbefore
    obtain ⟨run, verdict, tail, rfl, hrun, ⟨hresolved, -, hfound, rfl⟩ | ⟨-, htail⟩⟩ :=
      unfolds_firstUsable_cons h
    · obtain ⟨value, rfl, husable⟩ := exists_ok_of_resolved hresolved
      rw [hbefore.1 run value (List.infix_append' [] run _) hfound] at husable
      cases husable
    · have hsuffix : tail <:+: run ++ .logged (.probed metric first.name verdict) :: tail :=
        ((List.suffix_cons _ tail).trans (List.suffix_append run _)).isInfix
      obtain ⟨turn, found, hturn, hinfix, honly, hresult⟩ := ih htail hremarks.2 hnames.2
        fun other hother part value hpart ↦ hbefore.2 other hother part value (hpart.trans hsuffix)
      refine ⟨turn, found, hturn, hinfix.trans hsuffix, fun logged other hmem ↦ ?_, hresult⟩
      obtain ⟨-, hname, -⟩ | hmem := verdict_of_mem (hremarks.1 run) hrun hmem
      · exact absurd hname.symm hnames.1
      · exact honly logged other hmem

/-- A warning of a list of probes comes right after one of them was run and its query failed. -/
theorem failed_of_warn
    (hremarks : ∀ probe ∈ probes, ∀ run found, (probe.attempt architecture).run.Unfolds run found →
      ∀ event, .logged event ∈ run → event.IsRemark)
    (h : (firstUsable metric usable config architecture probes).Unfolds transcript outcome)
    {before after : List Happening} {event : Event}
    (hsplit : transcript = before ++ .logged event :: after) (hwarn : event.level = .warn) :
    ∃ probe ∈ probes, config.isDisabled probe.name = false ∧ ∃ origin reason sofar run,
      before = sofar ++ run ∧
        (probe.attempt architecture).run.Unfolds run (.error (.queryFailed origin reason)) ∧
        event = .probed metric probe.name (.failed origin reason) := by
  induction probes generalizing transcript before with
  | nil =>
    rw [(unfolds_pure_iff.mp h).1] at hsplit
    simp at hsplit
  | cons probe rest ih =>
    rw [List.forall_mem_cons] at hremarks
    obtain ⟨run, verdict, tail, rfl, hrun, htail⟩ := unfolds_firstUsable_cons h
    -- The warning is none of the remarks of the probe, so it is the verdict or comes later.
    obtain ⟨later, hrunsplit, -⟩ | ⟨sofar, rfl, hsofar⟩ := append_eq_split hsplit
    · have hmem : .logged event ∈ run := by simp [hrunsplit]
      rcases hrun with ⟨-, rfl, -⟩ | ⟨-, found, hrun, -⟩
      · cases hmem
      · have hlevel := (hremarks.1 run found hrun event hmem).level_eq
        rw [hwarn] at hlevel
        cases hlevel
    · cases sofar with
      | nil =>
        obtain ⟨hevent, -⟩ := List.cons.inj hsofar
        cases hevent
        rcases hrun with ⟨-, -, rfl⟩ | ⟨hoff, found, hrun, rfl⟩
        · cases hwarn
        · obtain ⟨origin, reason, rfl, hverdict⟩ := eq_failed_of_warn hwarn
          exact ⟨probe, List.mem_cons_self, hoff, origin, reason, [], run, by simp, hrun,
            by rw [hverdict]⟩
      | cons head sofar =>
        obtain ⟨rfl, htailsplit⟩ := List.cons.inj hsofar
        rcases htail with ⟨-, rfl, -⟩ | ⟨-, htail⟩
        · simp at htailsplit
        · obtain ⟨other, hother, hoff, origin, reason, earlier, otherRun, rfl, hrest⟩ :=
            ih hremarks.2 htail htailsplit
          exact ⟨other, List.mem_cons_of_mem _ hother, hoff, origin, reason,
            run ++ .logged (.probed metric probe.name verdict) :: earlier, otherRun,
            by simp, hrest⟩

end Chain

/-! ### Metrics -/

namespace Metric

variable {config : Config} {architecture : Architecture}

/-- An event is the verdict on a probe of a running chain that is switched on and whose query
failed; it stands right behind what the probe did. -/
def FailedProbe (config : Config) (architecture : Architecture) (before : List Happening)
    (event : Event) (after : List Happening) : Prop :=
  ∃ (kind : Kind) (probe : Probe kind.Found) (origin reason : String)
    (earlier sofar run rest later : List Happening) (outcome : Outcome kind.Found),
    before = earlier ++ (sofar ++ run) ∧ after = rest ++ later ∧
      (kind.chain.run config architecture).Unfolds (sofar ++ run ++ .logged event :: rest)
        outcome ∧
      probe ∈ kind.chain.probes ∧ config.isDisabled probe.name = false ∧
      (probe.attempt architecture).run.Unfolds run (.error (.queryFailed origin reason)) ∧
      event = .probed kind.chain.metric probe.name (.failed origin reason)

/-- What happens before and after a chain takes nothing from a probe that failed in it. -/
theorem FailedProbe.append {before after : List Happening} {event : Event}
    (h : FailedProbe config architecture before event after) (first last : List Happening) :
    FailedProbe config architecture (first ++ before) event (after ++ last) := by
  obtain ⟨kind, probe, origin, reason, earlier, sofar, run, rest, later, outcome, rfl, rfl, h⟩ := h
  exact ⟨kind, probe, origin, reason, first ++ earlier, sofar, run, rest, later ++ last, outcome,
    by simp, by simp, h⟩

namespace Kind

variable {kind : Kind} {transcript : List Happening}

/-- A probe asks nothing twice, so all it can do is what it does on some source. -/
theorem exists_source_of_probe {probe : Probe kind.Found} (h : probe ∈ kind.chain.probes)
    {found : Outcome kind.Found}
    (hrun : (probe.attempt architecture).run.Unfolds transcript found) :
    ∃ source : Source, transcript = (probe.attempt architecture).run.transcript source ∧
      found = probe.outcome architecture source :=
  exists_source_of_unfolds hrun fun source ↦ nodup_questions_probe architecture source h

/-- Finding a metric asks nothing twice, so all that can happen is what happens on some source,
which may be taken to give no answers but such as are given. -/
theorem exists_source_of_find {value : Outcome kind.Value}
    (h : (kind.find config architecture).Unfolds transcript value) {P : Exchange → Prop}
    {base : Source} (hbase : ∀ query, P (base.exchange query))
    (hasked : ∀ exchange, .asked exchange ∈ transcript → P exchange) :
    ∃ source : Source, transcript = (kind.find config architecture).transcript source ∧
      value = (kind.find config architecture).value source ∧
      ∀ query, P (source.exchange query) :=
  exists_source_of_unfolds_of_forall h (fun source ↦
    kind.nodup_questions.sublist (calls_find_sublist config architecture source kind)) hbase hasked

theorem isRemark_of_mem_probe {probe : Probe kind.Found} (h : probe ∈ kind.chain.probes)
    {found : Outcome kind.Found}
    (hrun : (probe.attempt architecture).run.Unfolds transcript found) :
    ∀ event, .logged event ∈ transcript → event.IsRemark := by
  obtain ⟨entry, -, hkeeps⟩ := exists_entry h
  obtain ⟨source, rfl, -⟩ := exists_source_of_probe h hrun
  intro event hmem
  rw [← mem_events_iff, events_transcript] at hmem
  exact (hkeeps.follows architecture).log source event hmem

/-- A probe asks questions of its metric only. -/
theorem mem_questions_of_asked {probe : Probe kind.Found} (h : probe ∈ kind.chain.probes)
    {found : Outcome kind.Found}
    (hrun : (probe.attempt architecture).run.Unfolds transcript found) {exchange : Exchange}
    (hasked : .asked exchange ∈ transcript) : exchange.1 ∈ kind.questions := by
  obtain ⟨entry, hentry, hkeeps⟩ := exists_entry h
  obtain ⟨source, rfl, -⟩ := exists_source_of_probe h hrun
  obtain ⟨query, hquery, rfl⟩ := asked_mem_transcript_iff.mp hasked
  have hsublist := (hkeeps.follows architecture).calls source
  exact List.mem_flatMap.mpr ⟨entry, hentry, hsublist.mem hquery⟩

/-- A probe that is named after a facility comes to nothing if it is told at every question that
there is no such thing. -/
theorem eq_unavailable_of_absent {probe : Probe kind.Found} (h : probe ∈ kind.chain.probes)
    (hfacility : probe.name ∈ Query.facilities) {found : Outcome kind.Found}
    (hrun : (probe.attempt architecture).run.Unfolds transcript found)
    (habsent : ∀ exchange, .asked exchange ∈ transcript → exchange.2 = .error .unavailable) :
    found = .error .unavailable := by
  obtain ⟨entry, -, hkeeps⟩ := exists_entry h
  have hgives : Gives .silent (exchanges transcript) := fun exchange hmem ↦
    (habsent exchange (mem_exchanges_iff.mp hmem)).symm
  rw [(hrun.eq_of_gives hgives).2]
  exact (hkeeps.dependsOn (hkeeps.name_eq ▸ hfacility) architecture .silent fun _ _ ↦ rfl).1

theorem unfolds_run_of_find {value : Outcome kind.Value}
    (h : (kind.find config architecture).Unfolds transcript value) :
    ∃ outcome, (kind.chain.run config architecture).Unfolds transcript outcome := by
  rw [find_eq, unfolds_map_iff] at h
  obtain ⟨outcome, hrun, -⟩ := h
  exact ⟨outcome, hrun⟩

/-- Finding a metric logs verdicts and remarks only. -/
theorem isProbing_of_mem_find {value : Outcome kind.Value}
    (h : (kind.find config architecture).Unfolds transcript value) :
    ∀ event, .logged event ∈ transcript → event.IsProbing := by
  obtain ⟨outcome, hrun⟩ := unfolds_run_of_find h
  exact Chain.isProbing_of_mem (fun _ hprobe _ _ ↦ isRemark_of_mem_probe hprobe) hrun

/-- A warning that is given while a metric is found is the verdict on a probe whose query failed. -/
theorem failedProbe_of_warn {value : Outcome kind.Value}
    (h : (kind.find config architecture).Unfolds transcript value)
    {before after : List Happening} {event : Event}
    (hsplit : transcript = before ++ .logged event :: after) (hwarn : event.level = .warn) :
    FailedProbe config architecture before event after := by
  obtain ⟨outcome, hrun⟩ := unfolds_run_of_find h
  obtain ⟨probe, hprobe, hoff, origin, reason, sofar, run, rfl, hfailed, hevent⟩ :=
    Chain.failed_of_warn (fun _ hprobe _ _ ↦ isRemark_of_mem_probe hprobe) hrun hsplit hwarn
  exact ⟨kind, probe, origin, reason, [], sofar, run, after, [], outcome, by simp, by simp,
    hsplit ▸ hrun, hprobe, hoff, hfailed, hevent⟩

end Kind

end Metric

/-! ### The graphics adapter -/

/-- A question that is put to find the graphics adapter: to the driver or to the main display. -/
def Query.IsGraphics (query : Query) : Prop :=
  query = .adapter ∨ (∃ property, query = .displayProperty property) ∨ query = .displayName

namespace Metric

variable {config : Config} {architecture : Architecture} {transcript : List Happening}

theorem isGraphics_of_mem_questions {query : Query} (h : query ∈ Kind.adapter.questions) :
    query.IsGraphics := by
  have hall : ∀ query ∈ Kind.adapter.questions, query.IsGraphics := by
    simp [Kind.questions, Kind.agenda, Query.IsGraphics]
  exact hall query h

/-- Where every source of the adapter says that it does not exist, the adapter is looked for without
a warning. -/
theorem quiet_adapter {outcome : Outcome Kind.adapter.Value}
    (h : (Kind.adapter.find config architecture).Unfolds transcript outcome)
    (habsent : ∀ exchange, .asked exchange ∈ transcript → exchange.1.IsGraphics →
      exchange.2 = .error .unavailable) :
    ∀ event, .logged event ∈ transcript → event.level ≠ .warn := by
  have hnamed : ∀ entry ∈ Kind.adapter.agenda, entry.1 ∈ Query.facilities := by decide
  intro event hmem hwarn
  obtain ⟨before, after, hsplit⟩ := List.append_of_mem hmem
  obtain ⟨found, hfound⟩ := Kind.unfolds_run_of_find h
  obtain ⟨probe, hprobe, -, origin, reason, sofar, run, rfl, hfailed, -⟩ :=
    Chain.failed_of_warn (fun _ hprobe _ _ ↦ Kind.isRemark_of_mem_probe hprobe) hfound hsplit hwarn
  obtain ⟨entry, hentry, hkeeps⟩ := Kind.exists_entry hprobe
  -- The probe was told at every question that there is no such thing, so its query cannot fail.
  have hnothing := Kind.eq_unavailable_of_absent hprobe
    (hkeeps.name_eq ▸ hnamed entry hentry) hfailed fun exchange hasked ↦
      habsent exchange (by simp [hsplit, hasked])
        (isGraphics_of_mem_questions (Kind.mem_questions_of_asked hprobe hfailed hasked))
  cases hnothing

end Metric

end HostProfile
