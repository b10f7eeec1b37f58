import HostProfile.Event
import HostProfile.Query

/-!
# Probing a host

A `Probing` is a computation that may ask a host and write to the log. It is a tree: at each
question it goes on with the answer, so what it asks next may hang on what it was told, and it knows
nothing about the host but the answers.

Run on a source, it has a value, a list of the questions it asked and a log. The three are separate
functions; the lemmas on `pure` and `bind` say that one computation after another asks and logs
first what the first does and then what the second does.

An `Attempt` is a probing that may end without a value.
-/

set_option autoImplicit false
set_option relaxedAutoImplicit false

namespace HostProfile

/-- A computation that asks a host and writes to the log. -/
inductive Probing (α : Type) where
  /-- The computation is over. -/
  | done (value : α)
  /-- Asks a question and goes on with what comes of it. -/
  | ask (query : Query) (next : Outcome query.Answer → Probing α)
  /-- Writes to the log and goes on. -/
  | note (event : Event) (rest : Probing α)

namespace Probing

variable {α β : Type}

/-- One computation after another. -/
protected def bind : Probing α → (α → Probing β) → Probing β
  | .done value, f => f value
  | .ask query next, f => .ask query fun outcome => (next outcome).bind f
  | .note event rest, f => .note event (rest.bind f)

instance : Monad Probing where
  pure := .done
  bind := Probing.bind

/-- What a computation comes to on a source. -/
def value (source : Source) : Probing α → α
  | .done result => result
  | .ask query next => (next (source query)).value source
  | .note _ rest => rest.value source

/-- The questions a computation asks a source, in order. -/
def calls (source : Source) : Probing α → List Query
  | .done _ => []
  | .ask query next => query :: (next (source query)).calls source
  | .note _ rest => rest.calls source

/-- What a computation on a source writes to the log, in order. -/
def log (source : Source) : Probing α → List Event
  | .done _ => []
  | .ask query next => (next (source query)).log source
  | .note event rest => event :: rest.log source

/-- Asks one question. -/
def query (q : Query) : Probing (Outcome q.Answer) :=
  .ask q .done

/-- Writes one event to the log. -/
def write (event : Event) : Probing Unit :=
  .note event (.done ())

/-! ### The laws of the monad -/

theorem bind_done (p : Probing α) : p.bind .done = p := by
  induction p with
  | done value => rfl
  | ask query next ih => simp [Probing.bind, ih]
  | note event rest ih => simp [Probing.bind, ih]

theorem bind_bind {γ : Type} (p : Probing α) (f : α → Probing β) (g : β → Probing γ) :
    (p.bind f).bind g = p.bind fun a => (f a).bind g := by
  induction p with
  | done value => rfl
  | ask query next ih => simp [Probing.bind, ih]
  | note event rest ih => simp [Probing.bind, ih]

instance : LawfulMonad Probing :=
  LawfulMonad.mk' Probing bind_done (fun _ _ => rfl) bind_bind

/-! ### Runs of composed computations -/

variable (source : Source)

@[simp]
theorem value_pure (a : α) : (pure a : Probing α).value source = a := rfl

@[simp]
theorem calls_pure (a : α) : (pure a : Probing α).calls source = [] := rfl

@[simp]
theorem log_pure (a : α) : (pure a : Probing α).log source = [] := rfl

@[simp]
theorem value_bind (p : Probing α) (f : α → Probing β) :
    (p >>= f).value source = (f (p.value source)).value source := by
  change (p.bind f).value source = _
  induction p with
  | done value => rfl
  | ask query next ih => exact ih (source query)
  | note event rest ih => exact ih

@[simp]
theorem calls_bind (p : Probing α) (f : α → Probing β) :
    (p >>= f).calls source = p.calls source ++ (f (p.value source)).calls source := by
  change (p.bind f).calls source = _
  induction p with
  | done value => rfl
  | ask query next ih => exact congrArg (query :: ·) (ih (source query))
  | note event rest ih => exact ih

@[simp]
theorem log_bind (p : Probing α) (f : α → Probing β) :
    (p >>= f).log source = p.log source ++ (f (p.value source)).log source := by
  change (p.bind f).log source = _
  induction p with
  | done value => rfl
  | ask query next ih => exact ih (source query)
  | note event rest ih => exact congrArg (event :: ·) ih

@[simp]
theorem value_map (f : α → β) (p : Probing α) : (f <$> p).value source = f (p.value source) := by
  rw [map_eq_pure_bind, value_bind, value_pure]

@[simp]
theorem calls_map (f : α → β) (p : Probing α) : (f <$> p).calls source = p.calls source := by
  rw [map_eq_pure_bind, calls_bind, calls_pure, List.append_nil]

@[simp]
theorem log_map (f : α → β) (p : Probing α) : (f <$> p).log source = p.log source := by
  rw [map_eq_pure_bind, log_bind, log_pure, List.append_nil]

@[simp]
theorem value_query (q : Query) : (query q).value source = source q := rfl

@[simp]
theorem calls_query (q : Query) : (query q).calls source = [q] := rfl

@[simp]
theorem log_query (q : Query) : (query q).log source = [] := rfl

@[simp]
theorem value_write (event : Event) : (write event).value source = () := rfl

@[simp]
theorem calls_write (event : Event) : (write event).calls source = [] := rfl

@[simp]
theorem log_write (event : Event) : (write event).log source = [event] := rfl

end Probing

/-! ### Attempts -/

/-- A probing that may end without a value. -/
abbrev Attempt (α : Type) := ExceptT ProbeError Probing α

namespace Attempt

/-- Asks one question and ends if it has no answer. -/
def query (q : Query) : Attempt q.Answer :=
  ExceptT.mk (Probing.query q)

/-- Asks one question and goes on whatever comes of it. -/
def observe (q : Query) : Attempt (Outcome q.Answer) :=
  ExceptT.lift (Probing.query q)

/-- Ends unless there is a value. -/
def ofOutcome {α : Type} (outcome : Outcome α) : Attempt α :=
  ExceptT.mk (pure outcome)

end Attempt

end HostProfile
