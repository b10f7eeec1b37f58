/-!
# Values that are found out once

What is known of a metric that is probed at most once: nothing yet, that nobody knows it, or its
value. "Never asked" and "asked in vain" are told apart.
-/

set_option autoImplicit false
set_option relaxedAutoImplicit false

namespace HostProfile

/-- What is known of a metric that is probed at most once. -/
inductive Resolved (α : Type) where
  /-- The metric has not been probed. -/
  | unprobed
  /-- The metric has been probed and nobody knows it. -/
  | failed
  /-- The value that was found. -/
  | valid (value : α)
  deriving DecidableEq, Repr

namespace Resolved

variable {α : Type}

/-- The value, where one was found. -/
def valid? : Resolved α → Option α
  | .valid value => some value
  | .unprobed | .failed => none

/-- Whether the metric was probed in vain. -/
def isFailed : Resolved α → Bool
  | .failed => true
  | .unprobed | .valid _ => false

/-- What is known once a probe came to a value or to none. -/
def ofProbe : Option α → Resolved α
  | some value => .valid value
  | none => .failed

/-- What is known by a cell that is empty until the probe has run. -/
def ofCell : Option (Option α) → Resolved α
  | none => .unprobed
  | some probed => ofProbe probed

end Resolved

end HostProfile
