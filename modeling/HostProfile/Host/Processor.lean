import HostProfile.Query

/-!
# The processor of a host

What a program learns of the processor in the same way on every operating system: the registers
after the identification instruction, where the processor has one, and the two counts that run-time
libraries give.
-/

set_option autoImplicit false
set_option relaxedAutoImplicit false

namespace HostProfile

/-- The processor of a host as a program on it sees it. -/
structure Processor where
  /-- The registers that the identification instruction leaves for a leaf, if there is one. -/
  identify : Option (UInt32 → Registers)
  /-- The logical processors. -/
  logical : Nat
  /-- The physical cores, if they are known. -/
  physical : Option Nat

/-- What the processor answers, whatever the operating system. -/
def Processor.source (processor : Processor) : Source
  | .cpuid leaf =>
    match processor.identify with
    | some identify => .ok (identify leaf)
    | none => .error .unavailable
  | .runtimeLogical => .ok (UInt32.ofNat processor.logical)
  | .runtimePhysical =>
    match processor.physical with
    | some cores => .ok (UInt32.ofNat cores)
    | none => .error (.queryFailed "runtime" "physical core count unknown")
  | _ => .error .unavailable

end HostProfile
