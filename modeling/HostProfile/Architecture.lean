/-!
# Processor architectures

The architectures that can be profiled, with what the probes need to know about each.
-/

set_option autoImplicit false
set_option relaxedAutoImplicit false

namespace HostProfile

/-- A processor architecture. -/
inductive Architecture where
  | x86
  | x64
  | arm
  deriving DecidableEq, Repr

namespace Architecture

/-- The architecture that profiles are taken on. -/
def current : Architecture := .x64

/-- The short name of an architecture. -/
def name : Architecture → String
  | .x86 => "x86"
  | .x64 => "x64"
  | .arm => "arm"

/-- Whether the processor has an identification instruction. -/
def hasCpuid : Architecture → Bool
  | .x86 | .x64 => true
  | .arm => false

/-- The vendor to report when no identification instruction answers. -/
def vendorFallback : Architecture → String
  | .arm => "ARM"
  | .x86 | .x64 => "Undefined"

end Architecture

end HostProfile
