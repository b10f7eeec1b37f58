import HostProfile.Proofs.Profiler.HistoryIndependence
import HostProfile.Proofs.Profiler.LogDiscipline

/-!
# The clocks of a summary

A summary tells of two clocks. The highest clock is read as the profiler keeps it. The clock in use
is read through the accessor that answers with a number, which is what a live source tells during
the call, else the highest clock, and in either case no more than the limit of such numbers
(`exists_live_of_unfolds`). Read back as a clock, the number is the live clock or the highest one if
these are within the limit, and the limit otherwise (`Summary.Clocks`), whatever the host answers
and whatever the profiler remembers (`summary_clocks`).
-/

set_option autoImplicit false
set_option relaxedAutoImplicit false

namespace HostProfile

variable {α β : Type}

open Happening Probing

/-- Reading a memo leaves it set to the answer. -/
theorem Memo.cell_of_unfolds_read {memo : Memo} {profiler later : Profiler}
    {transcript : List Happening} {value : memo.Value}
    (h : (memo.read.run profiler).Unfolds transcript (value, later)) :
    memo.cell later = some value := by
  rw [Memo.run_read] at h
  cases hcell : memo.cell profiler with
  | some kept =>
    rw [hcell] at h
    obtain ⟨-, hanswer⟩ := unfolds_pure_iff.mp h
    cases hanswer
    exact hcell
  | none =>
    rw [hcell] at h
    obtain ⟨value, -, hanswer⟩ := unfolds_map_iff.mp h
    cases hanswer
    exact memo.cell_fill_self profiler value

/-- A course changes no settings. -/
theorem Profiling.Takes.settings {missed : α → Nat} {reading : Profiling α}
    (h : Takes missed reading) {profiler later : Profiler} {transcript : List Happening}
    {answer : α} (hrun : (reading.run profiler).Unfolds transcript (answer, later)) :
    later.config = profiler.config ∧ later.architecture = profiler.architecture :=
  Profiler.config_eq_of_forget (h _ _ _ _ hrun).tally.forget

/-- The clocks of a summary, for the outcome of the search for a live clock while it is taken. -/
structure Summary.Clocks (summary : Summary) (live : Outcome UInt32) : Prop where
  /-- The live clock, else the highest one, within the limit. -/
  limited : summary.currentSpeed = (live.toOption.or summary.maxSpeed).map (min · 2147483647)
  /-- A live clock within the limit is the clock in use. -/
  ofLive : ∀ mhz, live = .ok mhz → mhz ≤ 2147483647 → summary.currentSpeed = some mhz
  /-- Without a live clock, the clock in use is a highest clock within the limit. -/
  ofHighest : ∀ error, live = .error error → (∀ mhz ∈ summary.maxSpeed, mhz ≤ 2147483647) →
    summary.currentSpeed = summary.maxSpeed

theorem map_min_of_le {mhz : Option UInt32} (h : ∀ found ∈ mhz, found ≤ 2147483647) :
    mhz.map (min · 2147483647) = mhz := by
  cases mhz with
  | none => rfl
  | some found =>
    show some (if found ≤ 2147483647 then found else 2147483647) = some found
    rw [if_pos (h found rfl)]

theorem Summary.clocks_of_limited {summary : Summary} {live : Outcome UInt32}
    (h : summary.currentSpeed = (live.toOption.or summary.maxSpeed).map (min · 2147483647)) :
    summary.Clocks live where
  limited := h
  ofLive := by
    intro mhz hlive hle
    subst hlive
    rw [h]
    exact map_min_of_le fun found hfound ↦ Option.some.inj hfound ▸ hle
  ofHighest := by
    intro error hlive hle
    subst hlive
    rw [h]
    exact map_min_of_le hle

namespace Profiler

open Profiling

variable {profiler later : Profiler} {transcript : List Happening}

/-- Once the highest clock was asked for, the clock in use is all that is searched for, and the
number is what the search comes to, else the highest clock. -/
theorem exists_live_of_unfolds {highest : Option UInt32} {number : Int}
    (hcell : Memo.maxSpeed.cell profiler = some highest)
    (h : (readCurrentSpeed.run profiler).Unfolds transcript (number, later)) :
    ∃ live, (Metric.currentSpeed.run profiler.config profiler.architecture).Unfolds transcript
      live ∧ number = clockReport (live.toOption.or highest) := by
  rw [run_readCurrentSpeed] at h
  obtain ⟨before, live, after, rfl, hlive, hrest⟩ := unfolds_bind_iff.mp h
  rcases live with error | mhz
  · dsimp only at hrest
    rw [run_readMaxSpeed, Memo.run_read, hcell] at hrest
    obtain ⟨answer, hanswer, hnumber⟩ := unfolds_map_iff.mp hrest
    obtain ⟨rfl, rfl⟩ := unfolds_pure_iff.mp hanswer
    cases hnumber
    exact ⟨.error error, by rwa [List.append_nil], speedNumber_eq highest⟩
  · obtain ⟨rfl, hnumber⟩ := unfolds_pure_iff.mp hrest
    cases hnumber
    exact ⟨.ok mhz, by rwa [List.append_nil], speed_eq mhz⟩

/-- Whatever the host answers and whatever the profiler remembers: while a summary is taken, the
clock in use is searched for, and the clocks of the summary are those that go with what the search
comes to; where the answers are those of a source, it is what the chain comes to on the source. -/
theorem summary_clocks {summary : Summary}
    (h : ((read .summary).run profiler).Unfolds transcript (summary, later)) :
    ∃ before search after live, transcript = before ++ search ++ after ∧
      (Metric.currentSpeed.run profiler.config profiler.architecture).Unfolds search live ∧
      (∀ source, Gives source (Happening.exchanges transcript) →
        live = (Metric.currentSpeed.run profiler.config profiler.architecture).value source) ∧
      summary.Clocks live := by
  rw [read, readSummary, run_get_bind] at h
  obtain ⟨ofVendor, vendor, first, _, rfl, hvendor, hrest⟩ := unfolds_bind h
  obtain ⟨ofCount, count, second, _, rfl, hcount, hrest⟩ := unfolds_bind hrest
  obtain ⟨ofSpeed, highest, third, _, rfl, hhighest, hrest⟩ := unfolds_bind hrest
  obtain ⟨search, number, fourth, after, rfl, hnumber, hrest⟩ := unfolds_bind hrest
  have hcell : Memo.maxSpeed.cell third = some highest := Memo.cell_of_unfolds_read hhighest
  obtain ⟨live, hlive, rfl⟩ := exists_live_of_unfolds hcell hnumber
  obtain ⟨hconfig, harchitecture⟩ : third.config = profiler.config ∧
      third.architecture = profiler.architecture := by
    obtain ⟨hc₁, ha₁⟩ := (takes_memo .vendor).settings hvendor
    obtain ⟨hc₂, ha₂⟩ := takes_readCurrentCpus.settings hcount
    obtain ⟨hc₃, ha₃⟩ := (takes_memo .maxSpeed).settings hhighest
    exact ⟨hc₃.trans (hc₂.trans hc₁), ha₃.trans (ha₂.trans ha₁)⟩
  rw [hconfig, harchitecture] at hlive
  obtain ⟨ofMemory, memory, fifth, _, rfl, -, hrest⟩ := unfolds_bind hrest
  obtain ⟨ofModel, machineModel, sixth, _, rfl, -, hrest⟩ := unfolds_bind hrest
  obtain ⟨ofAdapter, adapter, seventh, _, rfl, -, hrest⟩ := unfolds_bind hrest
  obtain ⟨rfl, hsummary⟩ := unfolds_pure_iff.mp hrest
  cases hsummary
  refine ⟨ofVendor ++ ofCount ++ ofSpeed, search, ofMemory ++ (ofModel ++ (ofAdapter ++ [])), live,
    by simp only [List.append_assoc], hlive, fun source hgives ↦ ?_, Summary.clocks_of_limited ?_⟩
  · refine (hlive.eq_of_gives fun exchange hmem ↦ hgives exchange ?_).2
    rw [mem_exchanges_iff] at hmem ⊢
    simp only [List.mem_append]
    exact .inr (.inr (.inr (.inl hmem)))
  · exact mhz?_clockReport _

end Profiler

/-- A host whose device attributes tell two clocks in kHz, the highest one and the one in use. -/
def Source.ofClocks (highest current : Outcome UInt64) : Source
  | .frequencyKhz .maximum => highest
  | .frequencyKhz .current => current
  | _ => .error .unavailable

namespace Profiler

/-- A processor that has slowed down. -/
theorem summary_clocks_slowed :
    let source := Source.ofClocks (.ok 2600000) (.ok 1200000)
    let started := (start .standard .x64).value source
    let taken := (read .summary).run started
    let transcript := taken.transcript source
    let summary := (taken.value source).1
    taken.Unfolds transcript (summary, (taken.value source).2) ∧
      (∃ before search after live, transcript = before ++ search ++ after ∧
        (Metric.currentSpeed.run started.config started.architecture).Unfolds search live ∧
        (∀ source, Gives source (Happening.exchanges transcript) →
          live = (Metric.currentSpeed.run started.config started.architecture).value source) ∧
        summary.Clocks live) ∧
      summary.maxSpeed = some 2600 ∧ summary.currentSpeed = some 1200 := by
  intro source started taken transcript summary
  -- The pair is made for any profiler, so that nothing is run to find that it is one.
  have hrun (profiler : Profiler) :
      ((read .summary).run profiler).Unfolds (((read .summary).run profiler).transcript source)
        ((((read .summary).run profiler).value source).1,
          (((read .summary).run profiler).value source).2) :=
    unfolds_transcript _ source
  exact ⟨hrun started, summary_clocks (hrun started), by decide +kernel, by decide +kernel⟩

/-- Above the limit, the clock in use of a summary is neither the live clock nor, where no live
source tells, the highest clock that the summary tells of. -/
theorem summary_clock_above_limit :
    let summary := fun source : Source ↦
      ((start .standard .x64).value source).reply source .summary
    let live := Source.ofClocks (.error .unavailable) (.ok 3000000000000)
    let nominal := Source.ofClocks (.ok 3000000000000) (.error .unavailable)
    (Metric.currentSpeed.run .standard .x64).value live = .ok 3000000000 ∧
      (summary live).currentSpeed = some 2147483647 ∧
      (Metric.currentSpeed.run .standard .x64).value nominal = .error .noData ∧
      (summary nominal).maxSpeed = some 3000000000 ∧
      (summary nominal).currentSpeed = some 2147483647 := by
  decide +kernel

end Profiler

end HostProfile
