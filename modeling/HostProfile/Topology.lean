/-!
# Processor layout and caches

Counts of processors and sizes of caches as an operating system reports them.
-/

set_option autoImplicit false
set_option relaxedAutoImplicit false

namespace HostProfile

/-- Sizes of the second- and third-level cache in bytes, zero where none is reported. -/
structure CacheLevels where
  l2 : UInt64
  l3 : UInt64
  deriving DecidableEq, Repr

/-- The third level where it is reported, else the second. -/
def CacheLevels.preferred (c : CacheLevels) : UInt64 :=
  if 0 < c.l3 then c.l3 else c.l2

/-- How the processors of a host are laid out. -/
structure Topology where
  /-- Physical cores. -/
  cores : UInt32
  /-- Logical processors over all cores. -/
  logical : UInt32
  caches : CacheLevels
  deriving DecidableEq, Repr

/-- The basic record an operating system keeps on its processors. -/
structure SystemInfo where
  logical : UInt32
  level : UInt16
  revision : UInt16
  deriving DecidableEq, Repr

/-- Which clock frequency is asked for. -/
inductive Frequency where
  /-- The highest the hardware allows. -/
  | maximum
  /-- The one in use. -/
  | current
  deriving DecidableEq, Repr

end HostProfile
