import HostProfile.Config
import HostProfile.Probing

/-!
# Chains of probes

A metric has several sources, and its chain tries one probe after another until one has a value that
can be right. A switched-off probe is passed over without being run, and every probe that is reached
leaves one event in the log. A chain without a usable value ends with `noData` and no other error.
-/

set_option autoImplicit false
set_option relaxedAutoImplicit false

namespace HostProfile

/-- One way to find the value of a metric. -/
structure Probe (α : Type) where
  /-- The name under which the probe is logged and can be switched off. -/
  name : String
  /-- Tries to find the value on a host with the given architecture. -/
  attempt : Architecture → Attempt α

namespace Probe

/-- The probe that gives what the host answers to a query. -/
def asking (name : String) (q : Query) : Probe q.Answer :=
  ⟨name, fun _ => Attempt.query q⟩

/-- The probe that reads a value off what the host answers to a query. -/
def reading {α : Type} (name : String) (q : Query) (read : Architecture → q.Answer → α) :
    Probe α :=
  ⟨name, fun architecture => return read architecture (← Attempt.query q)⟩

end Probe

/-- The verdict on what a probe came to. -/
def Verdict.of {α : Type} (usable : α → Bool) : Outcome α → Verdict
  | .ok value => if usable value then .resolved else .unusable
  | .error .unavailable => .unavailable
  | .error .noData => .noData
  | .error (.queryFailed origin reason) => .failed origin reason

/-- The probes of one metric, and which of their values can be right. -/
structure Chain (α : Type) where
  /-- The name under which the chain is logged. -/
  metric : String
  /-- Whether a value can be right. -/
  usable : α → Bool
  /-- The probes, in the order in which they are tried. -/
  probes : List (Probe α)

namespace Chain

/-- Tries probes in order and ends with the first usable value. -/
def firstUsable {α : Type} (metric : String) (usable : α → Bool) (config : Config)
    (architecture : Architecture) : List (Probe α) → Probing (Outcome α)
  | [] => return .error .noData
  | probe :: rest =>
    if config.isDisabled probe.name then do
      Probing.write (.probed metric probe.name .disabled)
      firstUsable metric usable config architecture rest
    else do
      let outcome ← (probe.attempt architecture).run
      let verdict := Verdict.of usable outcome
      Probing.write (.probed metric probe.name verdict)
      if verdict = .resolved then return outcome
      else firstUsable metric usable config architecture rest

/-- Runs the probes of a chain. -/
def run {α : Type} (chain : Chain α) (config : Config) (architecture : Architecture) :
    Probing (Outcome α) :=
  firstUsable chain.metric chain.usable config architecture chain.probes

end Chain

end HostProfile
