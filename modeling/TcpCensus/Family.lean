/-
# Address families

The two families whose connections can be sampled, and the number the kernel
gives each.
-/

namespace TcpCensus

/-- An address family. -/
inductive Family
  | inet
  | inet6
  deriving DecidableEq, Repr

namespace Family

/-- The kernel's number for a family. -/
def code : Family → UInt8
  | .inet => 2
  | .inet6 => 10

/-- The family with a given number. -/
def ofCode? (n : UInt8) : Option Family :=
  if n = 2 then some .inet else if n = 10 then some .inet6 else none

/-- The length of an address. -/
def addressLength : Family → Nat
  | .inet => 4
  | .inet6 => 16

/-- The name shown to a user. -/
def name : Family → String
  | .inet => "ipv4"
  | .inet6 => "ipv6"

/-- The name in serialized samples. -/
def tag : Family → String
  | .inet => "Inet"
  | .inet6 => "Inet6"

/-- A family is read from its own number and from no other. -/
theorem ofCode?_eq_some_iff {n : UInt8} {f : Family} : ofCode? n = some f ↔ n = f.code := by
  constructor
  · intro h
    unfold ofCode? at h
    split at h
    · cases h; assumption
    · split at h
      · cases h; assumption
      · cases h
  · rintro rfl
    cases f <;> rfl

/-- An address of either family fits the field of a record. -/
theorem addressLength_le (f : Family) : f.addressLength ≤ 16 := by cases f <;> decide

end Family
end TcpCensus
