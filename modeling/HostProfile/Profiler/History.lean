import HostProfile.Profiler.Accessor

/-!
# Histories of a profiler

A history is a list of steps, each of which asks one accessor of a host that may have changed since
the step before. A step comes to a `Visit`: the answer, the questions that were put to the host, and
what was written to the log.

A history can be cut in two: the second part begins with the profiler that the first part leaves
(`afterAll_append`).
-/

set_option autoImplicit false
set_option relaxedAutoImplicit false

namespace HostProfile.Profiler

/-- One step of a history: the host as it is by then, and what the profiler is asked. -/
structure Step where
  source : Source
  accessor : Accessor

/-- What one step of a history comes to. -/
structure Visit where
  accessor : Accessor
  answer : accessor.Answer
  /-- The questions to the host, in order. -/
  calls : List Query
  /-- The events written to the log, in order. -/
  log : List Event

/-- What a step comes to. -/
def visit (profiler : Profiler) (step : Step) : Visit :=
  let reading := (read step.accessor).run profiler
  { accessor := step.accessor
    answer := (reading.value step.source).1
    calls := reading.calls step.source
    log := reading.log step.source }

/-- The profiler that a step leaves. -/
def after (profiler : Profiler) (step : Step) : Profiler :=
  (((read step.accessor).run profiler).value step.source).2

/-- What the steps of a history come to. -/
def visits : Profiler → List Step → List Visit
  | _, [] => []
  | profiler, step :: rest => profiler.visit step :: (profiler.after step).visits rest

/-- The profiler that a history leaves. -/
def afterAll (profiler : Profiler) (history : List Step) : Profiler :=
  history.foldl after profiler

theorem afterAll_append (profiler : Profiler) (first second : List Step) :
    profiler.afterAll (first ++ second) = (profiler.afterAll first).afterAll second :=
  List.foldl_append

end HostProfile.Profiler
