import HostProfile.Proofs.Probing.Exchange

/-!
# Transcripts

While a computation runs, questions are answered and events are logged, and a transcript holds both
in the order in which they happen. The host may answer each question as it likes
(`Probing.Unfolds`). A run on a source has one transcript (`unfolds_transcript`), whose questions
and events are those of the run.

A transcript in which every answer is that of a source is the transcript of the run on the source
(`Unfolds.eq_of_gives`), and a computation that asks nothing twice has no other transcripts than
those of its runs (`exists_source_of_unfolds`).
-/

set_option autoImplicit false
set_option relaxedAutoImplicit false

namespace HostProfile

variable {α β : Type}

/-- What can happen while a computation runs. -/
inductive Happening where
  /-- A question is answered. -/
  | asked (exchange : Exchange)
  /-- An event is logged. -/
  | logged (event : Event)

namespace Happening

/-- The exchange with the host, if it is one. -/
def exchange? : Happening → Option Exchange
  | .asked exchange => some exchange
  | .logged _ => none

/-- The event in the log, if it is one. -/
def event? : Happening → Option Event
  | .asked _ => none
  | .logged event => some event

/-- The exchanges of a transcript. -/
def exchanges (transcript : List Happening) : List Exchange :=
  transcript.filterMap exchange?

/-- The events of a transcript. -/
def events (transcript : List Happening) : List Event :=
  transcript.filterMap event?

theorem mem_exchanges_iff {transcript : List Happening} {exchange : Exchange} :
    exchange ∈ exchanges transcript ↔ .asked exchange ∈ transcript := by
  rw [exchanges, List.mem_filterMap]
  constructor
  · rintro ⟨happening, hmem, h⟩
    cases happening with
    | asked other => cases h; exact hmem
    | logged event => cases h
  · exact fun h ↦ ⟨_, h, rfl⟩

theorem mem_events_iff {transcript : List Happening} {event : Event} :
    event ∈ events transcript ↔ .logged event ∈ transcript := by
  rw [events, List.mem_filterMap]
  constructor
  · rintro ⟨happening, hmem, h⟩
    cases happening with
    | asked exchange => cases h
    | logged other => cases h; exact hmem
  · exact fun h ↦ ⟨_, h, rfl⟩

/-- How often something is said in the log, at some level and in some words. -/
def said (level : Level) (message : String) (transcript : List Happening) : Nat :=
  (events transcript).countP fun event ↦ event.level = level ∧ event.message = message

variable (level : Level) (message : String)

@[simp] theorem said_nil : said level message [] = 0 := rfl

@[simp] theorem said_append (before after : List Happening) :
    said level message (before ++ after) =
      said level message before + said level message after := by
  rw [said, events, List.filterMap_append, List.countP_append]
  rfl

theorem said_eq_zero {transcript : List Happening}
    (h : ∀ event, .logged event ∈ transcript → event.message ≠ message) :
    said level message transcript = 0 := by
  rw [said, List.countP_eq_zero]
  intro event hmem hsaid
  exact h event (mem_events_iff.mp hmem) (of_decide_eq_true hsaid).2

end Happening

open Happening

namespace Probing

/-- What may happen while a computation runs on a host that answers each question as it likes, and
what it then comes to. -/
inductive Unfolds : Probing α → List Happening → α → Prop
  | done (result : α) : Unfolds (.done result) [] result
  | ask (query : Query) {next : Outcome query.Answer → Probing α} (outcome : Outcome query.Answer)
      {transcript : List Happening} {result : α}
      (hnext : Unfolds (next outcome) transcript result) :
      Unfolds (.ask query next) (.asked ⟨query, outcome⟩ :: transcript) result
  | note (event : Event) {rest : Probing α} {transcript : List Happening} {result : α}
      (hrest : Unfolds rest transcript result) :
      Unfolds (.note event rest) (.logged event :: transcript) result

/-! ### Composed computations -/

theorem unfolds_pure_iff {a result : α} {transcript : List Happening} :
    (pure a : Probing α).Unfolds transcript result ↔ transcript = [] ∧ result = a := by
  constructor
  · rintro ⟨⟩
    exact ⟨rfl, rfl⟩
  · rintro ⟨rfl, rfl⟩
    exact .done _

/-- While one computation runs after another, first happens what may happen in the first and then
what may happen in the second. -/
theorem unfolds_bind_iff {p : Probing α} {f : α → Probing β} {transcript : List Happening}
    {result : β} :
    (p >>= f).Unfolds transcript result ↔ ∃ before a after, transcript = before ++ after ∧
      p.Unfolds before a ∧ (f a).Unfolds after result := by
  change (p.bind f).Unfolds transcript result ↔ _
  constructor
  · intro h
    induction p generalizing transcript with
    | done a => exact ⟨[], a, transcript, rfl, .done a, h⟩
    | ask query next ih =>
      cases h with
      | ask _ outcome hnext =>
        obtain ⟨before, a, after, rfl, hbefore, hafter⟩ := ih outcome hnext
        exact ⟨.asked ⟨query, outcome⟩ :: before, a, after, rfl, .ask query outcome hbefore, hafter⟩
    | note event rest ih =>
      cases h with
      | note _ hrest =>
        obtain ⟨before, a, after, rfl, hbefore, hafter⟩ := ih hrest
        exact ⟨.logged event :: before, a, after, rfl, .note event hbefore, hafter⟩
  · rintro ⟨before, a, after, rfl, hbefore, hafter⟩
    induction hbefore with
    | done a => exact hafter
    | ask query outcome hnext ih => exact .ask query outcome (ih hafter)
    | note event hrest ih => exact .note event (ih hafter)

theorem unfolds_map_iff {p : Probing α} {f : α → β} {transcript : List Happening} {result : β} :
    (f <$> p).Unfolds transcript result ↔ ∃ a, p.Unfolds transcript a ∧ result = f a := by
  rw [map_eq_pure_bind, unfolds_bind_iff]
  constructor
  · rintro ⟨before, a, after, rfl, hbefore, hafter⟩
    obtain ⟨rfl, rfl⟩ := unfolds_pure_iff.mp hafter
    exact ⟨a, by rwa [List.append_nil], rfl⟩
  · rintro ⟨a, h, rfl⟩
    exact ⟨transcript, a, [], (List.append_nil _).symm, h, .done _⟩

theorem unfolds_write_bind_iff {event : Event} {f : Unit → Probing β} {transcript : List Happening}
    {result : β} :
    (write event >>= f).Unfolds transcript result ↔
      ∃ after, transcript = .logged event :: after ∧ (f ()).Unfolds after result := by
  constructor
  · intro h
    cases h with
    | note _ hrest => exact ⟨_, rfl, hrest⟩
  · rintro ⟨after, rfl, hafter⟩
    exact .note event hafter

theorem unfolds_query_bind_iff {query : Query} {f : Outcome query.Answer → Probing β}
    {transcript : List Happening} {result : β} :
    (Probing.query query >>= f).Unfolds transcript result ↔ ∃ outcome after,
      transcript = .asked ⟨query, outcome⟩ :: after ∧ (f outcome).Unfolds after result := by
  constructor
  · intro h
    cases h with
    | ask _ outcome hnext => exact ⟨outcome, _, rfl, hnext⟩
  · rintro ⟨outcome, after, rfl, hafter⟩
    exact .ask query outcome hafter

/-! ### Runs on a source -/

/-- What happens while a computation runs on a source. -/
def transcript (source : Source) : Probing α → List Happening
  | .done _ => []
  | .ask query next => .asked (source.exchange query) :: (next (source query)).transcript source
  | .note event rest => .logged event :: rest.transcript source

theorem unfolds_transcript (p : Probing α) (source : Source) :
    p.Unfolds (p.transcript source) (p.value source) := by
  induction p with
  | done result => exact .done result
  | ask query next ih => exact .ask query (source query) (ih (source query))
  | note event rest ih => exact .note event ih

@[simp] theorem events_transcript (p : Probing α) (source : Source) :
    events (p.transcript source) = p.log source := by
  induction p with
  | done result => rfl
  | ask query next ih => exact ih (source query)
  | note event rest ih => exact congrArg (event :: ·) ih

@[simp] theorem exchanges_transcript (p : Probing α) (source : Source) :
    exchanges (p.transcript source) = (p.calls source).map source.exchange := by
  induction p with
  | done result => rfl
  | ask query next ih => exact congrArg (source.exchange query :: ·) (ih (source query))
  | note event rest ih => exact ih

/-- What is asked in a run on a source is answered by the source. -/
theorem asked_mem_transcript_iff {p : Probing α} {source : Source} {exchange : Exchange} :
    .asked exchange ∈ p.transcript source ↔
      ∃ query ∈ p.calls source, source.exchange query = exchange := by
  rw [← mem_exchanges_iff, exchanges_transcript, List.mem_map]

namespace Unfolds

variable {p : Probing α} {transcript : List Happening} {result : α}

/-- The exchanges of a transcript can be had with a host. -/
theorem talks (h : p.Unfolds transcript result) : p.Talks (exchanges transcript) result := by
  induction h with
  | done result => exact .done result
  | ask query outcome hnext ih => exact .ask query outcome ih
  | note event hrest ih => exact .note event ih

/-- Where all answers are those of a source, the transcript and the result are those of the run on
the source. -/
theorem eq_of_gives (h : p.Unfolds transcript result) {source : Source}
    (hgives : Gives source (exchanges transcript)) :
    transcript = p.transcript source ∧ result = p.value source := by
  induction h with
  | done result => exact ⟨rfl, rfl⟩
  | @ask query next outcome transcript result hnext ih =>
    have houtcome : source query = outcome := hgives ⟨query, outcome⟩ List.mem_cons_self
    subst houtcome
    obtain ⟨rfl, rfl⟩ := ih fun exchange hmem ↦ hgives exchange (List.mem_cons_of_mem _ hmem)
    exact ⟨rfl, rfl⟩
  | note event hrest ih =>
    obtain ⟨rfl, rfl⟩ := ih hgives
    exact ⟨rfl, rfl⟩

end Unfolds

/-- A computation that asks nothing twice has the transcripts of its runs on sources only. -/
theorem exists_source_of_unfolds {p : Probing α} {transcript : List Happening} {result : α}
    (h : p.Unfolds transcript result) (hnodup : ∀ source, (p.calls source).Nodup) :
    ∃ source : Source, transcript = p.transcript source ∧ result = p.value source := by
  obtain ⟨source, hexchanges, -⟩ := exists_source_of_talks h.talks hnodup
  refine ⟨source, h.eq_of_gives fun exchange hmem ↦ ?_⟩
  rw [hexchanges] at hmem
  obtain ⟨query, -, rfl⟩ := List.mem_map.mp hmem
  rfl

/-- Where all answers of a transcript are of one kind, the source may be taken to give no others, if
there is a source that does. -/
theorem exists_source_of_unfolds_of_forall {p : Probing α} {transcript : List Happening}
    {result : α} (h : p.Unfolds transcript result) (hnodup : ∀ source, (p.calls source).Nodup)
    {P : Exchange → Prop} {base : Source} (hbase : ∀ query, P (base.exchange query))
    (hasked : ∀ exchange, .asked exchange ∈ transcript → P exchange) :
    ∃ source : Source, transcript = p.transcript source ∧ result = p.value source ∧
      ∀ query, P (source.exchange query) := by
  obtain ⟨source, rfl, rfl⟩ := exists_source_of_unfolds h hnodup
  let patched : Source := fun query ↦
    if query ∈ p.calls source then source query else base query
  have hpatched (query : Query) (hquery : query ∈ p.calls source) :
      patched.exchange query = source.exchange query :=
    Sigma.ext rfl (heq_of_eq (if_pos hquery))
  have hgives : Gives patched (exchanges (p.transcript source)) := by
    rw [exchanges_transcript]
    exact List.forall_mem_map.mpr fun query hquery ↦ if_pos hquery
  obtain ⟨htranscript, hvalue⟩ := h.eq_of_gives hgives
  refine ⟨patched, htranscript, hvalue, fun query ↦ ?_⟩
  by_cases hquery : query ∈ p.calls source
  · rw [hpatched query hquery]
    exact hasked _ (asked_mem_transcript_iff.mpr ⟨query, hquery, rfl⟩)
  · have hexchange : patched.exchange query = base.exchange query :=
      Sigma.ext rfl (heq_of_eq (if_neg hquery))
    rw [hexchange]
    exact hbase query

end Probing

/-- One attempt after another ends with the error of the first or goes on with the second. -/
theorem Attempt.unfolds_bind {attempt : Attempt α} {next : α → Attempt β}
    {transcript : List Happening} {outcome : Outcome β}
    (h : (attempt >>= next).run.Unfolds transcript outcome) :
    (∃ error, outcome = .error error ∧ attempt.run.Unfolds transcript (.error error)) ∨
      ∃ before a after, transcript = before ++ after ∧ attempt.run.Unfolds before (.ok a) ∧
        (next a).run.Unfolds after outcome := by
  rw [ExceptT.run_bind] at h
  obtain ⟨before, result, after, rfl, hbefore, hafter⟩ := Probing.unfolds_bind_iff.mp h
  rcases result with error | a
  · obtain ⟨rfl, rfl⟩ := Probing.unfolds_pure_iff.mp hafter
    exact .inl ⟨error, rfl, by rwa [List.append_nil]⟩
  · exact .inr ⟨before, a, after, rfl, hbefore, hafter⟩

end HostProfile
