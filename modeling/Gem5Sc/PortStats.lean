/-
  File:      Gem5Sc/PortStats.lean
  Subject:   The counters of a port (`struct PortStats`), in 64-bit arithmetic.

  The two `updateStats` functions of the source (`Port.lean`) differ in which packet types they
  count; what they do with a delay sample is the same three lines, `addDelay`. That `merge` makes
  the counters a commutative monoid, and every update an addition in it, is in
  `PortManager/Statistics.lean`.
-/
import Gem5Sc.Packet

namespace Gem5Sc

/-- `struct PortStats`. -/
structure PortStats where
  reqCount : UInt64 := 0
  respCount : UInt64 := 0
  byteCount : UInt64 := 0
  totalDelay : UInt64 := 0
  minDelay : UInt64 := 0xFFFFFFFFFFFFFFFF
  maxDelay : UInt64 := 0
  creditSent : UInt64 := 0
  creditReceived : UInt64 := 0
  creditValue : UInt64 := 0
  deriving DecidableEq, Repr, Inhabited

namespace PortStats

/-- One delay sample. -/
def addDelay (s : PortStats) (d : UInt64) : PortStats :=
  { s with totalDelay := s.totalDelay + d,
           minDelay := if d < s.minDelay then d else s.minDelay,
           maxDelay := if d > s.maxDelay then d else s.maxDelay }

/-- `PortStats::reset`. -/
def reset (s : PortStats) : PortStats :=
  { s with reqCount := 0, respCount := 0, byteCount := 0, totalDelay := 0,
           minDelay := 0xFFFFFFFFFFFFFFFF, maxDelay := 0,
           creditSent := 0, creditReceived := 0, creditValue := 0 }

/-- `PortStats::merge`. -/
def merge (s other : PortStats) : PortStats where
  reqCount := s.reqCount + other.reqCount
  respCount := s.respCount + other.respCount
  byteCount := s.byteCount + other.byteCount
  totalDelay := s.totalDelay + other.totalDelay
  creditSent := s.creditSent + other.creditSent
  creditReceived := s.creditReceived + other.creditReceived
  creditValue := s.creditValue + other.creditValue
  minDelay := if other.minDelay < s.minDelay then other.minDelay else s.minDelay
  maxDelay := if other.maxDelay > s.maxDelay then other.maxDelay else s.maxDelay

end PortStats

end Gem5Sc
