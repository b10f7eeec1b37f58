import HostProfile.ProbeError
import HostProfile.Signature
import HostProfile.Architecture

/-!
# Log events

Everything that probing writes to the log. A missing source is traced, a failed one is a warning,
and the events outside the chains mark the start of a profile and the metrics that stay unknown.
-/

set_option autoImplicit false
set_option relaxedAutoImplicit false

namespace HostProfile

/-- How loudly an event is logged. -/
inductive Level where
  | trace
  | debug
  | warn
  deriving DecidableEq, Repr

/-- The name of a level. -/
def Level.name : Level → String
  | .trace => "TRACE"
  | .debug => "DEBUG"
  | .warn => "WARN"

/-- What became of one probe of a chain. -/
inductive Verdict where
  /-- The source is switched off. -/
  | disabled
  /-- The probe's value is the chain's. -/
  | resolved
  /-- The probe has a value that cannot be right. -/
  | unusable
  /-- The source does not exist. -/
  | unavailable
  /-- The sources behind the probe are exhausted. -/
  | noData
  /-- The query failed. -/
  | failed (origin reason : String)
  deriving DecidableEq, Repr

namespace Verdict

/-- How loudly a verdict is logged. -/
def level : Verdict → Level
  | .resolved => .debug
  | .failed _ _ => .warn
  | .disabled | .unusable | .unavailable | .noData => .trace

/-- The wording of a verdict. -/
def message : Verdict → String
  | .disabled => "source disabled by config"
  | .resolved => "resolved"
  | .unusable => "implausible value"
  | .unavailable => "unavailable"
  | .noData => "no data"
  | .failed _ _ => "probe failed, trying next source"

/-- The error that a verdict reports. -/
def error? : Verdict → Option ProbeError
  | .failed origin reason => some (.queryFailed origin reason)
  | .disabled | .resolved | .unusable | .unavailable | .noData => none

end Verdict

/-- An event in the log. -/
inductive Event where
  /-- One probe of the chain of a metric came to a verdict. -/
  | probed (metric source : String) (verdict : Verdict)
  /-- A property of the display could not be read. -/
  | propertyMissing (property : String) (error : ProbeError)
  /-- A profile was started with these values. -/
  | started (architecture : Architecture) (logicalCpus physicalCpus : UInt32)
      (signature : Signature) (cacheSize : UInt64)
  /-- No source knows the highest clock. -/
  | speedUnknown (error : ProbeError)
  /-- No source knows the memory size. -/
  | memoryUnknown (error : ProbeError)
  /-- No source knows the graphics adapter. -/
  | adapterUnknown (error : ProbeError)
  deriving DecidableEq, Repr

namespace Event

/-- How loudly an event is logged. -/
def level : Event → Level
  | .probed _ _ verdict => verdict.level
  | .speedUnknown _ | .memoryUnknown _ => .warn
  | .propertyMissing _ _ | .started _ _ _ _ _ | .adapterUnknown _ => .debug

/-- The wording of an event. -/
def message : Event → String
  | .probed _ _ verdict => verdict.message
  | .propertyMissing _ _ => "display property missing"
  | .started _ _ _ _ _ => "hardware profiler initialized"
  | .speedUnknown _ => "max cpu speed unavailable"
  | .memoryUnknown _ => "memory size unavailable"
  | .adapterUnknown _ => "no GPU identified"

/-- The error that an event reports. -/
def error? : Event → Option ProbeError
  | .probed _ _ verdict => verdict.error?
  | .propertyMissing _ error | .speedUnknown error | .memoryUnknown error
  | .adapterUnknown error => some error
  | .started _ _ _ _ _ => none

end Event

end HostProfile
