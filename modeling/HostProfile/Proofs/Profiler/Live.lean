import HostProfile.Proofs.Profiler.HistoryIndependence

/-!
# The accessors that probe every time

The processors in use, the graphics adapter and the clock in use are answered from the host as it is
when they are asked for (`Live`). What a profiler has seen before counts in two places only: the
processors at the start stand in for those in use, and the highest clock stands in for the clock in
use, so two profilers that agree there agree on every host (`Agrees`).

Asking leaves the profiler as it is, with one exception. A clock in use that no live source tells is
read off the highest clock, and if that was not probed yet it is found now and never looked for
again, whatever a later host would tell.
-/

set_option autoImplicit false
set_option relaxedAutoImplicit false

namespace HostProfile.Profiler

open Metric.Kind

variable (profiler : Profiler) (now : Source)

/-- The highest clock: what is remembered of it, else what is found on a host. -/
def maxClock : Option UInt32 :=
  match profiler.maxSpeed with
  | .unprobed => found? profiler.config profiler.architecture now .maxSpeed
  | .failed => none
  | .valid mhz => some mhz

theorem now_maxSpeed : Memo.maxSpeed.now profiler now = profiler.maxClock now := by
  rw [Memo.now, Memo.cell, maxClock]
  cases profiler.maxSpeed <;> rfl

theorem logicalCpus_afterAll (history : List Step) :
    (profiler.afterAll history).logicalCpus = profiler.logicalCpus :=
  (congrArg logicalCpus (profiler.forget_afterAll history) :)

/-! ### Answers of the moment -/

theorem reply_currentCpus :
    profiler.reply now .currentCpus =
      max 1 ((found? profiler.config profiler.architecture now .currentCpus).getD
        profiler.logicalCpus) :=
  reply_eq now .currentCpus

theorem reply_adapter? :
    profiler.reply now .adapter? = found? profiler.config profiler.architecture now .adapter :=
  reply_eq now .adapter?

theorem reply_adapter :
    profiler.reply now .adapter = adapterRecord (profiler.reply now .adapter?) := by
  rw [reply_eq, reply_eq]
  rfl

/-- The clock in use is what a live source tells, else the highest clock. -/
theorem reply_currentSpeed :
    profiler.reply now .currentSpeed =
      clockReport ((found? profiler.config profiler.architecture now .currentSpeed).or
        (profiler.maxClock now)) := by
  rw [reply_eq]
  change profiler.clockNumber now = clockReport ((profiler.liveClock now).or _)
  cases hlive : profiler.liveClock now with
  | some mhz => rw [clockNumber_of_live profiler now hlive, speed_eq]; rfl
  | none => rw [clockNumber_of_silent profiler now hlive, speedNumber_eq, now_maxSpeed]; rfl

theorem reply_maxSpeed :
    profiler.reply now .maxSpeed = clockReport (profiler.maxClock now) := by
  rw [reply_eq, ← speedNumber_eq, ← now_maxSpeed]
  rfl

/-! ### What asking changes -/

/-- A step that reads no memo changes nothing. -/
theorem after_eq_self {profiler : Profiler} {step : Step}
    (h : step.memos profiler.config profiler.architecture = []) :
    profiler.after step = profiler := by
  rw [after_eq, h]
  rfl

theorem after_currentSpeed_of_live
    (h : found? profiler.config profiler.architecture now .currentSpeed ≠ none) :
    profiler.after ⟨now, .currentSpeed⟩ = profiler := by
  apply after_eq_self
  exact if_pos (Option.isSome_iff_ne_none.mpr h)

/-- A clock in use that no live source tells is asked for like the highest clock. -/
theorem after_currentSpeed_of_silent
    (h : found? profiler.config profiler.architecture now .currentSpeed = none) :
    profiler.after ⟨now, .currentSpeed⟩ = profiler.remember now .maxSpeed := by
  have hmemos : Step.memos profiler.config profiler.architecture ⟨now, .currentSpeed⟩ =
      [.maxSpeed] := if_neg (by rw [found?, find] at h; simp [h])
  rw [after_eq, hmemos]
  rfl

/-- The highest clock is remembered where it was not probed yet, and else stays as it is. -/
theorem remember_maxSpeed :
    profiler.remember now .maxSpeed =
      { profiler with maxSpeed := .ofProbe (profiler.maxClock now) } := by
  rw [remember, now_maxSpeed]
  rfl

theorem maxSpeed_ne_unprobed_iff :
    profiler.maxSpeed ≠ .unprobed ↔ ∃ found, Memo.maxSpeed.cell profiler = some found := by
  rw [Memo.cell]
  cases profiler.maxSpeed <;> simp [Resolved.cell]

/-- Once the highest clock has been probed, it stays what it is. -/
theorem maxSpeed_afterAll (h : profiler.maxSpeed ≠ .unprobed) (history : List Step) :
    (profiler.afterAll history).maxSpeed = profiler.maxSpeed := by
  obtain ⟨found, hcell⟩ := profiler.maxSpeed_ne_unprobed_iff.mp h
  rw [Resolved.eq_ofProbe_of_cell hcell]
  exact Resolved.eq_ofProbe_of_cell (profiler.cell_afterAll_of_cell hcell history)

/-! ### Freshness and frame -/

/-- A profiler answers from the host of the moment where it probes every time, and changes nothing
by it but a highest clock that was not probed yet. -/
structure Live (config : Config) (architecture : Architecture) (logicalCpus : UInt32)
    (profiler : Profiler) : Prop where
  currentCpus : ∀ now, profiler.reply now .currentCpus =
    max 1 ((found? config architecture now .currentCpus).getD logicalCpus)
  adapter? : ∀ now, profiler.reply now .adapter? = found? config architecture now .adapter
  adapter : ∀ now, profiler.reply now .adapter =
    match found? config architecture now .adapter with
    | some record => (true, record)
    | none => (false, .unidentified)
  currentSpeed_of_live : ∀ now mhz, found? config architecture now .currentSpeed = some mhz →
    profiler.reply now .currentSpeed = min (mhz.toNat : Int) 2147483647
  /-- Where no live source tells, the clock is the highest one, as it is reported at this moment and
  from then on. -/
  currentSpeed_of_silent : ∀ now, found? config architecture now .currentSpeed = none →
    profiler.reply now .currentSpeed = clockReport (profiler.maxClock now) ∧
      profiler.reply now .maxSpeed = profiler.reply now .currentSpeed ∧
      ∀ between later, (profiler.afterAll (⟨now, .currentSpeed⟩ :: between)).reply later .maxSpeed =
        profiler.reply now .currentSpeed
  after : ∀ now, ∀ accessor ∈ [Accessor.currentCpus, .adapter, .adapter?],
    profiler.after ⟨now, accessor⟩ = profiler
  /-- A clock in use that a live source tells, or a highest clock that has been probed: nothing
  changes. -/
  after_currentSpeed : ∀ now, found? config architecture now .currentSpeed ≠ none ∨
    profiler.maxSpeed ≠ .unprobed → profiler.after ⟨now, .currentSpeed⟩ = profiler
  /-- Else the highest clock becomes what this host tells, and nothing else changes; no later step
  changes it again. -/
  after_currentSpeed_of_unprobed : ∀ now, found? config architecture now .currentSpeed = none →
    profiler.maxSpeed = .unprobed →
      profiler.after ⟨now, .currentSpeed⟩ =
        { profiler with maxSpeed := .ofProbe (found? config architecture now .maxSpeed) } ∧
      ∀ between, (profiler.afterAll (⟨now, .currentSpeed⟩ :: between)).maxSpeed =
        .ofProbe (found? config architecture now .maxSpeed)

/-- Two profilers answer alike where they probe every time, but for the processors at the start and
a highest clock that one of them has probed. -/
structure Agrees (config : Config) (architecture : Architecture) (first second : Profiler) :
    Prop where
  adapter : ∀ now, first.reply now .adapter = second.reply now .adapter
  adapter? : ∀ now, first.reply now .adapter? = second.reply now .adapter?
  currentCpus : ∀ now, found? config architecture now .currentCpus ≠ none ∨
    first.logicalCpus = second.logicalCpus →
      first.reply now .currentCpus = second.reply now .currentCpus
  currentSpeed : ∀ now, found? config architecture now .currentSpeed ≠ none ∨
    first.maxSpeed = second.maxSpeed →
      first.reply now .currentSpeed = second.reply now .currentSpeed

theorem live : Live profiler.config profiler.architecture profiler.logicalCpus profiler where
  currentCpus := profiler.reply_currentCpus
  adapter? := profiler.reply_adapter?
  adapter := by
    intro now
    rw [reply_adapter, reply_adapter?]
    cases found? profiler.config profiler.architecture now .adapter <;> rfl
  currentSpeed_of_live := by
    intro now mhz hlive
    rw [reply_currentSpeed, hlive]
    rfl
  currentSpeed_of_silent := by
    intro now hsilent
    have hspeed : profiler.reply now .currentSpeed = clockReport (profiler.maxClock now) := by
      rw [reply_currentSpeed, hsilent]
      rfl
    refine ⟨hspeed, by rw [hspeed, reply_maxSpeed], fun between later ↦ ?_⟩
    rw [hspeed, reply_maxSpeed]
    have hcell : Memo.maxSpeed.cell (profiler.afterAll (⟨now, .currentSpeed⟩ :: between)) =
        some (profiler.maxClock now) := by
      rw [afterAll, List.foldl_cons, after_currentSpeed_of_silent profiler now hsilent]
      refine cell_afterAll_of_cell _ ?_ between
      rw [cell_remember_self, now_maxSpeed]
    rw [← now_maxSpeed, Memo.now_of_cell _ hcell]
  after := by
    intro now accessor hmem
    apply after_eq_self
    simp only [List.mem_cons, List.not_mem_nil, or_false] at hmem
    rcases hmem with rfl | rfl | rfl <;> rfl
  after_currentSpeed := by
    intro now h
    by_cases hlive : found? profiler.config profiler.architecture now .currentSpeed = none
    · obtain ⟨found, hcell⟩ := profiler.maxSpeed_ne_unprobed_iff.mp (h.resolve_left (· hlive))
      rw [after_currentSpeed_of_silent profiler now hlive, remember_of_cell profiler now hcell]
    · exact after_currentSpeed_of_live profiler now hlive
  after_currentSpeed_of_unprobed := by
    intro now hsilent hunprobed
    have hclock : profiler.maxClock now =
        found? profiler.config profiler.architecture now .maxSpeed := by
      rw [maxClock, hunprobed]
    have hafter := after_currentSpeed_of_silent profiler now hsilent
    rw [remember_maxSpeed, hclock] at hafter
    refine ⟨hafter, fun between ↦ ?_⟩
    change ((profiler.after ⟨now, .currentSpeed⟩).afterAll between).maxSpeed = _
    rw [hafter]
    refine maxSpeed_afterAll _ ?_ between
    cases found? profiler.config profiler.architecture now .maxSpeed <;> simp [Resolved.ofProbe]

theorem agrees {first second : Profiler} (hconfig : first.config = second.config)
    (harchitecture : first.architecture = second.architecture) :
    Agrees second.config second.architecture first second where
  adapter? := by
    intro now
    rw [reply_adapter?, reply_adapter?, hconfig, harchitecture]
  adapter := by
    intro now
    rw [reply_adapter, reply_adapter, reply_adapter?, reply_adapter?, hconfig, harchitecture]
  currentCpus := by
    intro now h
    rw [reply_currentCpus, reply_currentCpus, hconfig, harchitecture]
    rcases h with hfound | hcount
    · obtain ⟨count, hcount⟩ := Option.ne_none_iff_exists'.mp hfound
      rw [hcount, Option.getD_some, Option.getD_some]
    · rw [hcount]
  currentSpeed := by
    intro now h
    rw [reply_currentSpeed, reply_currentSpeed, hconfig, harchitecture]
    rcases h with hfound | hspeed
    · obtain ⟨mhz, hmhz⟩ := Option.ne_none_iff_exists'.mp hfound
      rw [hmhz, Option.some_or, Option.some_or]
    · rw [maxClock, maxClock, hspeed, hconfig, harchitecture]

/-- However the host changes over a history, a profiler answers from the host of the moment where it
probes every time, with the processors at the start and the highest clock to stand in; it agrees in
this with every profiler that was started and asked in any other way, but for these two; and asking
changes nothing but a highest clock that was not probed yet. -/
theorem live_accessors (config : Config) (architecture : Architecture) (first : Source)
    (history : List Step) :
    let started := (start config architecture).value first
    let profiler := started.afterAll history
    Live config architecture started.logicalCpus profiler ∧
      ∀ (otherFirst : Source) (otherHistory : List Step),
        let other := ((start config architecture).value otherFirst).afterAll otherHistory
        Agrees config architecture profiler other := by
  have hsettings (first : Source) (history : List Step) :
      let profiler := ((start config architecture).value first).afterAll history
      profiler.config = config ∧ profiler.architecture = architecture :=
    ⟨(config_afterAll _ history).trans (config_start config architecture first),
      (architecture_afterAll _ history).trans (architecture_start config architecture first)⟩
  intro started profiler
  obtain ⟨hconfig, harchitecture⟩ := hsettings first history
  constructor
  · have hlive := profiler.live
    rwa [hconfig, harchitecture, logicalCpus_afterAll] at hlive
  · intro otherFirst otherHistory other
    obtain ⟨hotherConfig, hotherArchitecture⟩ := hsettings otherFirst otherHistory
    have hagrees : Agrees other.config other.architecture profiler other :=
      agrees (hconfig.trans hotherConfig.symm) (harchitecture.trans hotherArchitecture.symm)
    rwa [hotherConfig, hotherArchitecture] at hagrees

end HostProfile.Profiler
