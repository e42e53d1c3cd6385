/-
# Decimal fractions

A quantity in a fixed unit, shown in a larger one: the whole part, and a
fraction of a known number of places without its trailing zeros.
-/

namespace TcpCensus
namespace Decimal

/-- The `places` low digits of a number, the first first. -/
def digits : Nat → Nat → List Char
  | 0, _ => []
  | places + 1, n => digits places (n / 10) ++ [Nat.digitChar (n % 10)]

/-- A fraction is written with as many digits as there are places. -/
@[simp] theorem length_digits (places n : Nat) : (digits places n).length = places := by
  induction places generalizing n with
  | zero => rfl
  | succ places ih => simp [digits, ih]

/-- The fraction `n / 10 ^ places` behind its point: nothing where it is zero,
and no zeros at its end. -/
def fraction (places n : Nat) : String :=
  match ((digits places n).reverse.dropWhile (· = '0')).reverse with
  | [] => ""
  | ds => "." ++ String.ofList ds

/-- A whole part and a fraction of so many places. -/
def text (whole places part : Nat) : String := toString whole ++ fraction places part

end Decimal
end TcpCensus
