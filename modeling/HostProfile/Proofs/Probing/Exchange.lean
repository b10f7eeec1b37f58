import HostProfile.Probing
import Mathlib.Data.List.Nodup
import Mathlib.Logic.Function.Basic

/-!
# Hosts that change their answers

A source gives one answer to each question. A host may also answer the same question differently
from one time to the next, even while it is being probed. What a computation can then exchange with
it is a path through the tree of the computation, with any answer to each question
(`Probing.Talks`). A run on a source is one such path (`talks_run`).

A computation that asks nothing twice cannot tell the difference: each of its paths is its run on
some source (`exists_source_of_talks`).
-/

set_option autoImplicit false
set_option relaxedAutoImplicit false

namespace HostProfile

variable {α β : Type}

/-- A question with what came of it. -/
abbrev Exchange : Type :=
  (query : Query) × Outcome query.Answer

/-- The exchange of a question with a source. -/
def Source.exchange (source : Source) (query : Query) : Exchange :=
  ⟨query, source query⟩

namespace Probing

/-- What a computation may exchange with a host that answers each question as it likes, and what it
then comes to. -/
inductive Talks : Probing α → List Exchange → α → Prop
  | done (result : α) : Talks (.done result) [] result
  | ask (query : Query) {next : Outcome query.Answer → Probing α} (outcome : Outcome query.Answer)
      {exchanges : List Exchange} {result : α} (hnext : Talks (next outcome) exchanges result) :
      Talks (.ask query next) (⟨query, outcome⟩ :: exchanges) result
  | note (event : Event) {rest : Probing α} {exchanges : List Exchange} {result : α}
      (hrest : Talks rest exchanges result) : Talks (.note event rest) exchanges result

/-- A run on a source is one of the things that can happen. -/
theorem talks_run (p : Probing α) (source : Source) :
    p.Talks ((p.calls source).map source.exchange) (p.value source) := by
  induction p with
  | done result => exact .done result
  | ask query next ih => exact .ask query (source query) (ih (source query))
  | note event rest ih => exact .note event ih

theorem talks_pure_iff {a result : α} {exchanges : List Exchange} :
    (pure a : Probing α).Talks exchanges result ↔ exchanges = [] ∧ result = a := by
  constructor
  · rintro ⟨⟩
    exact ⟨rfl, rfl⟩
  · rintro ⟨rfl, rfl⟩
    exact .done _

/-- One computation after another exchanges first what the first does and then what the second
does. -/
theorem talks_bind_iff {p : Probing α} {f : α → Probing β} {exchanges : List Exchange}
    {result : β} :
    (p >>= f).Talks exchanges result ↔ ∃ before a after, exchanges = before ++ after ∧
      p.Talks before a ∧ (f a).Talks after result := by
  change (p.bind f).Talks exchanges result ↔ _
  constructor
  · intro h
    induction p generalizing exchanges with
    | done a => exact ⟨[], a, exchanges, rfl, .done a, h⟩
    | ask query next ih =>
      cases h with
      | ask _ outcome hnext =>
        obtain ⟨before, a, after, rfl, hbefore, hafter⟩ := ih outcome hnext
        exact ⟨⟨query, outcome⟩ :: before, a, after, rfl, .ask query outcome hbefore, hafter⟩
    | note event rest ih =>
      cases h with
      | note _ hrest =>
        obtain ⟨before, a, after, rfl, hbefore, hafter⟩ := ih hrest
        exact ⟨before, a, after, rfl, .note event hbefore, hafter⟩
  · rintro ⟨before, a, after, rfl, hbefore, hafter⟩
    induction hbefore with
    | done a => exact hafter
    | ask query outcome hnext ih => exact .ask query outcome (ih hafter)
    | note event hrest ih => exact .note event (ih hafter)

theorem talks_write_iff {event : Event} {exchanges : List Exchange} {result : Unit} :
    (write event).Talks exchanges result ↔ exchanges = [] := by
  constructor
  · rintro (- | - | ⟨-, ⟨⟩⟩)
    rfl
  · rintro rfl
    exact .note event (.done ())

/-! ### Computations that ask nothing twice -/

/-- A source gives the answers that were exchanged. -/
def Gives (source : Source) (exchanges : List Exchange) : Prop :=
  ∀ exchange ∈ exchanges, source exchange.1 = exchange.2

/-- The induction runs along the path. What was exchanged before is kept in `past`, and a source
that gives it is built up; a question that comes up is none of the past ones, so its answer can
still be set. -/
theorem exists_source_of_talks_after {p : Probing α} {exchanges : List Exchange} {result : α}
    (h : p.Talks exchanges result) {past : List Exchange} {base : Source}
    (hbase : Gives base past)
    (hnodup : ∀ source, Gives source past → (past.map Sigma.fst ++ p.calls source).Nodup) :
    ∃ source : Source, Gives source past ∧ exchanges = (p.calls source).map source.exchange ∧
      result = p.value source := by
  induction h generalizing past base with
  | done result => exact ⟨base, hbase, rfl, rfl⟩
  | @ask query next outcome exchanges result hnext ih =>
    have hnew : query ∉ past.map Sigma.fst := by
      have hdisjoint := (List.nodup_append.mp (hnodup base hbase)).2.2
      intro hmem
      exact hdisjoint query hmem query (by simp [calls]) rfl
    have hgives (source : Source) : Gives source (past ++ [⟨query, outcome⟩]) ↔
        Gives source past ∧ source query = outcome := by
      simp [Gives, or_imp, forall_and]
    have hupdated : Gives (Function.update base query outcome) (past ++ [⟨query, outcome⟩]) := by
      rw [hgives]
      refine ⟨fun exchange hmem ↦ ?_, Function.update_self query outcome base⟩
      have hne : exchange.1 ≠ query := by
        intro heq
        exact hnew (heq ▸ List.mem_map_of_mem hmem)
      rw [Function.update_of_ne hne]
      exact hbase exchange hmem
    obtain ⟨source, hsource, rfl, rfl⟩ := ih hupdated fun source hsource ↦ by
      obtain ⟨hpast, houtcome⟩ := (hgives source).mp hsource
      have hcalls := hnodup source hpast
      rw [calls, houtcome] at hcalls
      simpa using hcalls
    obtain ⟨hpast, houtcome⟩ := (hgives source).mp hsource
    refine ⟨source, hpast, ?_, ?_⟩
    · rw [calls, houtcome, List.map_cons, Source.exchange, houtcome]
    · rw [value, houtcome]
  | note event hrest ih => exact ih hbase hnodup

/-- A computation that asks nothing twice exchanges with a host that changes its answers only what
it would exchange with some source. -/
theorem exists_source_of_talks {p : Probing α} {exchanges : List Exchange} {result : α}
    (h : p.Talks exchanges result) (hnodup : ∀ source, (p.calls source).Nodup) :
    ∃ source : Source, exchanges = (p.calls source).map source.exchange ∧
      result = p.value source := by
  have hempty : Gives .silent [] := by simp [Gives]
  obtain ⟨source, -, hrun⟩ := exists_source_of_talks_after h hempty fun source _ ↦ by
    simpa using hnodup source
  exact ⟨source, hrun⟩

end Probing

end HostProfile
