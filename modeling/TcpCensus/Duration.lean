/-
# Durations

A span of time is whole seconds and a rest in nanoseconds. It is shown in the
largest of seconds, milliseconds, microseconds and nanoseconds that leaves a
whole part.
-/

import TcpCensus.Text.Decimal

namespace TcpCensus

/-- A span of time. -/
structure Duration where
  seconds : UInt64
  nanoseconds : Nat
  nanoseconds_lt : nanoseconds < 1000000000 := by decide
  deriving DecidableEq, Repr

namespace Duration

/-- No time at all. -/
def zero : Duration := { seconds := 0, nanoseconds := 0 }

/-- One second. -/
def second : Duration := { seconds := 1, nanoseconds := 0 }

/-- So many microseconds. -/
def ofMicroseconds (n : Nat) : Duration where
  seconds := .ofNat (n / 1000000)
  nanoseconds := n % 1000000 * 1000
  nanoseconds_lt := by omega

/-- The whole microseconds in the rest. -/
def subsecondMicroseconds (d : Duration) : Nat := d.nanoseconds / 1000

/-- The whole microseconds in a span. -/
def microseconds (d : Duration) : Nat := d.seconds.toNat * 1000000 + d.subsecondMicroseconds

/-- The span in its largest unit. -/
def text (d : Duration) : String :=
  let n := d.nanoseconds
  if 0 < d.seconds then Decimal.text d.seconds.toNat 9 n ++ "s"
  else if 1000000 ≤ n then Decimal.text (n / 1000000) 6 (n % 1000000) ++ "ms"
  else if 1000 ≤ n then Decimal.text (n / 1000) 3 (n % 1000) ++ "µs"
  else toString n ++ "ns"

end Duration
end TcpCensus
