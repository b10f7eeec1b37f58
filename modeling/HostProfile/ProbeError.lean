/-!
# Why a probe has no value

A probe that yields nothing says why: the source does not exist on this host, it exists but the
query failed, or all sources of a metric are exhausted.

A `Fault` is a failure inside a driver interface together with what was being done, innermost
first. It becomes a failed query of the driver whose reason names the outermost action first.
-/

set_option autoImplicit false
set_option relaxedAutoImplicit false

namespace HostProfile

/-- Why a probe has no value. -/
inductive ProbeError where
  /-- The source does not exist on this host. -/
  | unavailable
  /-- The source exists but the query failed. -/
  | queryFailed (origin reason : String)
  /-- Every source was exhausted. -/
  | noData
  deriving DecidableEq, Repr

/-- What asking a source comes to. -/
abbrev Outcome (α : Type) := Except ProbeError α

namespace ProbeError

/-- The wording of a probe error. -/
def message : ProbeError → String
  | .unavailable => "source unavailable"
  | .queryFailed origin reason => origin ++ " query failed: " ++ reason
  | .noData => "no source produced a value"

/-- Whether the source does not exist. -/
def isUnavailable : ProbeError → Bool
  | .unavailable => true
  | .queryFailed _ _ | .noData => false

end ProbeError

/-- A failure inside a driver interface. -/
structure Fault where
  /-- What went wrong. -/
  cause : String
  /-- What was being done, innermost first. -/
  actions : List String
  deriving DecidableEq, Repr

namespace Fault

/-- The wording of a fault: the actions from the outermost inwards, then the cause. -/
def describe (f : Fault) : String :=
  ": ".intercalate (f.actions.reverse ++ [f.cause])

/-- A fault as a failed query of the driver. -/
def toProbeError (f : Fault) : ProbeError :=
  .queryFailed "driver" f.describe

end Fault

end HostProfile
