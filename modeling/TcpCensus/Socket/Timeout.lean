/-
# Receive timeouts

The operating system takes a timeout as signed seconds and microseconds, and
takes zero for "wait for ever". A span of time is cut to whole microseconds, and
its seconds are read as a signed word.
-/

import TcpCensus.Duration

namespace TcpCensus

/-- A timeout as the operating system takes it. -/
structure Timeval where
  seconds : Int64
  microseconds : Int64
  deriving DecidableEq, Repr

namespace Timeval

/-- The timeout that is taken for "wait for ever". -/
def forever : Timeval := ⟨0, 0⟩

/-- The timeout for a span of time. -/
def ofDuration (d : Duration) : Timeval :=
  ⟨d.seconds.toInt64, .ofNat d.subsecondMicroseconds⟩

/-- No wait is longer than this many seconds: the clock ticks a thousand times a
second, and ticks are counted in a signed word. -/
def longest : Int := Int64.maxValue.toInt / 1000 - 1

/-- The timeout in microseconds as the operating system keeps it. One that it
cannot count reads as zero. -/
def kept (t : Timeval) : Nat :=
  if 0 ≤ t.seconds.toInt ∧ t.seconds.toInt < longest then
    (t.seconds.toInt * 1000000 + t.microseconds.toInt).toNat
  else 0

end Timeval
end TcpCensus
