/-
# For which timeouts a receive comes back

A span of time is handed to the operating system as signed seconds and microseconds. Cutting
it to whole microseconds makes nothing of a span below one microsecond, and a timeout of
nothing means to wait for ever. Taking the seconds as a signed word makes a negative number
of those from `2 ^ 63` on. Every span between the two is a bound on the wait, and is kept up
to a part of a microsecond.

* `Socket.bounded_iff`: for which spans a socket is given a bound, and what it is.
* `Socket.hangs_below_microsecond`: a span that is no bound at either end.
-/

import Mathlib
import TcpCensus.Socket

namespace TcpCensus

/-- The whole span in nanoseconds. -/
def Duration.inNanoseconds (d : Duration) : Nat := d.seconds.toNat * 1000000000 + d.nanoseconds

namespace Timeval

/-- What a timeout says in nanoseconds. -/
def inNanoseconds (t : Timeval) : Int :=
  t.seconds.toInt * 1000000000 + t.microseconds.toInt * 1000

/-- A timeout that bounds a wait: whole seconds and a rest, neither of them negative, and not
the timeout that stands for no bound. -/
structure Bounds (t : Timeval) : Prop where
  seconds_nonneg : 0 ≤ t.seconds
  microseconds_nonneg : 0 ≤ t.microseconds
  microseconds_lt : t.microseconds < 1000000
  ne_forever : t ≠ forever

/-! ### The two words -/

/-- What is less than a microsecond is cut from a timeout. -/
theorem toInt_microseconds_ofDuration (d : Duration) :
    (ofDuration d).microseconds.toInt = (d.nanoseconds / 1000 : Nat) := by
  have rest := d.nanoseconds_lt
  exact Int64.toInt_ofNat_of_lt (by rw [Duration.subsecondMicroseconds]; omega)

/-- The rest is less than a second. -/
theorem microseconds_ofDuration (d : Duration) :
    0 ≤ (ofDuration d).microseconds ∧ (ofDuration d).microseconds < 1000000 := by
  have rest := d.nanoseconds_lt
  have million : (1000000 : Int64).toInt = 1000000 := by decide
  rw [Int64.le_iff_toInt_le, Int64.lt_iff_toInt_lt, toInt_microseconds_ofDuration, million,
    Int64.toInt_zero]
  omega

/-- **Seconds are kept below `2 ^ 63`;** from there on they come out negative. -/
theorem toInt_seconds_ofDuration (d : Duration) :
    (ofDuration d).seconds.toInt =
      if d.seconds.toNat < 2 ^ 63 then (d.seconds.toNat : Int)
      else (d.seconds.toNat : Int) - 2 ^ 64 := by
  have word : (ofDuration d).seconds.toInt = d.seconds.toBitVec.toInt := rfl
  have read : d.seconds.toBitVec.toNat = d.seconds.toNat := rfl
  rw [word, BitVec.toInt_eq_toNat_cond, read]
  split <;> split <;> omega

/-- **Seconds from `2 ^ 63` on turn negative.** -/
theorem seconds_ofDuration_neg_iff (d : Duration) :
    (ofDuration d).seconds < 0 ↔ 2 ^ 63 ≤ d.seconds.toNat := by
  have := d.seconds.toNat_lt
  rw [Int64.lt_iff_toInt_lt, toInt_seconds_ofDuration, Int64.toInt_zero]
  split <;> omega

/-! ### The timeout -/

/-- **A span is kept up to a part of a microsecond,** if its seconds are. -/
theorem inNanoseconds_ofDuration {d : Duration} (h : d.seconds.toNat < 2 ^ 63) :
    (ofDuration d).inNanoseconds ≤ d.inNanoseconds ∧
      d.inNanoseconds < (ofDuration d).inNanoseconds + 1000 := by
  rw [inNanoseconds, toInt_microseconds_ofDuration, toInt_seconds_ofDuration, if_pos h,
    Duration.inNanoseconds]
  omega

/-- **Spans below a microsecond, and only they, are taken for "wait for ever".** -/
theorem ofDuration_eq_forever_iff (d : Duration) :
    ofDuration d = forever ↔ d.inNanoseconds < 1000 := by
  have range := d.seconds.toNat_lt
  have words : ofDuration d = forever ↔
      (ofDuration d).seconds.toInt = 0 ∧ (ofDuration d).microseconds.toInt = 0 := by
    rw [forever, ofDuration, Timeval.mk.injEq, ← Int64.toInt_inj, ← Int64.toInt_inj,
      Int64.toInt_zero]
  rw [words, toInt_seconds_ofDuration, toInt_microseconds_ofDuration, Duration.inNanoseconds]
  split <;> omega

/-- **A span is a bound from one microsecond on, below `2 ^ 63` seconds.** -/
theorem bounds_ofDuration_iff (d : Duration) :
    (ofDuration d).Bounds ↔ 1000 ≤ d.inNanoseconds ∧ d.inNanoseconds < 2 ^ 63 * 10 ^ 9 := by
  have rest := d.nanoseconds_lt
  have least := ofDuration_eq_forever_iff d
  have most := seconds_ofDuration_neg_iff d
  have signs : 0 ≤ (ofDuration d).seconds ↔ ¬ (ofDuration d).seconds < 0 := Int64.not_lt.symm
  have size : 2 ^ 63 ≤ d.seconds.toNat ↔ 2 ^ 63 * 10 ^ 9 ≤ d.inNanoseconds := by
    rw [Duration.inNanoseconds]
    omega
  constructor
  · intro h
    have kept := signs.1 h.seconds_nonneg
    have counted := h.ne_forever
    rw [most, size] at kept
    rw [ne_eq, least] at counted
    omega
  · rintro ⟨long, short⟩
    refine ⟨signs.2 ?_, (microseconds_ofDuration d).1, (microseconds_ofDuration d).2, ?_⟩
    · rw [most, size]
      omega
    · rw [ne_eq, least]
      omega

end Timeval

namespace Socket

/-- **For which timeouts a socket waits only so long.** A socket that is opened with a span of
time bounds its receives just where the span is at least a microsecond and less than `2 ^ 63`
seconds. Below a microsecond a receive hangs while nothing is sent to the socket; from
`2 ^ 63` seconds on the seconds are negative. Below that the bound is the span up to a part of
a microsecond. -/
theorem bounded_iff (span : Duration) (port : UInt32) :
    ∃ s, connect span port true = .ok s ∧
      (s.timeout.Bounds ↔ 1000 ≤ span.inNanoseconds ∧ span.inNanoseconds < 2 ^ 63 * 10 ^ 9) ∧
      (s.hangs ↔ span.inNanoseconds < 1000) ∧
      (s.timeout.seconds < 0 ↔ 2 ^ 63 ≤ span.seconds.toNat) ∧
      (0 ≤ s.timeout.microseconds ∧ s.timeout.microseconds < 1000000) ∧
      (span.seconds.toNat < 2 ^ 63 →
        s.timeout.inNanoseconds ≤ span.inNanoseconds ∧
          span.inNanoseconds < s.timeout.inNanoseconds + 1000) := by
  refine ⟨{ port, timeout := .ofDuration span }, rfl, Timeval.bounds_ofDuration_iff span, ?_,
    Timeval.seconds_ofDuration_neg_iff span, Timeval.microseconds_ofDuration span,
    Timeval.inNanoseconds_ofDuration⟩
  rw [hangs, ← Timeval.ofDuration_eq_forever_iff]
  simp

/-- **A span of 999 nanoseconds is no bound:** a socket that is opened with it has the timeout
that stands for "wait for ever", so with nothing sent to it a receive hangs. Nor is one of
`2 ^ 63` seconds, which becomes a negative one. -/
theorem hangs_below_microsecond :
    let short : Duration := { seconds := 0, nanoseconds := 999 }
    let long : Duration := { seconds := 2 ^ 63, nanoseconds := 0 }
    (0 < short.inNanoseconds ∧ ∃ s, connect short 1 true = .ok s ∧ s.timeout = .forever ∧
        s.hangs ∧ ¬ s.timeout.Bounds) ∧
      (0 < long.inNanoseconds ∧ ∃ s, connect long 1 true = .ok s ∧ s.timeout.seconds < 0 ∧
        ¬ s.timeout.Bounds) := by
  intro short long
  have nothing : Timeval.ofDuration short = .forever := by decide
  have negative : (Timeval.ofDuration long).seconds < 0 := by decide +kernel
  refine ⟨⟨by decide +kernel, ⟨1, .ofDuration short, []⟩, rfl, nothing, ?_, ?_⟩,
    by decide +kernel, ⟨1, .ofDuration long, []⟩, rfl, negative, ?_⟩
  · simp [hangs, nothing]
  · exact fun h => h.ne_forever nothing
  · exact fun h => Int64.not_lt.2 h.seconds_nonneg negative

end Socket
end TcpCensus
