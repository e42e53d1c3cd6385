/-
# Alignment

Envelopes and attributes start at multiples of four bytes. What is shorter is
followed by padding, which its own length field does not count.
-/

import TcpCensus.Bytes

namespace TcpCensus

/-- The least multiple of four that is at least `n`. -/
def roundUp (n : Nat) : Nat := (n + 3) / 4 * 4

/-- Rounding up takes nothing away. -/
theorem le_roundUp (n : Nat) : n ≤ roundUp n := by unfold roundUp; omega

/-- Rounding up adds less than four. -/
theorem roundUp_lt (n : Nat) : roundUp n < n + 4 := by unfold roundUp; omega

/-- Rounding up comes to a multiple of four. -/
theorem four_dvd_roundUp (n : Nat) : 4 ∣ roundUp n := ⟨(n + 3) / 4, by unfold roundUp; omega⟩

/-- The number of padding bytes behind `n` bytes. -/
def padLength (n : Nat) : Nat := roundUp n - n

/-- Padding ends at the next multiple of four. -/
theorem add_padLength (n : Nat) : n + padLength n = roundUp n := Nat.add_sub_cancel' (le_roundUp n)

/-- The bytes followed by the zeros that bring them to a multiple of four. -/
def padded (bs : Bytes) : Bytes := bs ++ List.replicate (padLength bs.length) 0

/-- Padded bytes are as many as the next multiple of four. -/
theorem length_padded (bs : Bytes) : (padded bs).length = roundUp bs.length := by
  rw [padded, List.length_append, List.length_replicate, add_padLength]

end TcpCensus
