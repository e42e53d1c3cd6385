/-
# Bytes and the words laid out in them

A message is a list of bytes. Its fields are words of one, two, four or eight
bytes at fixed offsets; the kernel writes all of them least significant byte
first, except the two ports of a socket, which are in network order.

A word is read from an offset and never fails: bytes that are missing read as
zero, so a record is guarded once, by its size, and a statistics block cut
short by an old kernel degrades field by field.

`covers_iff`: the test for "at least `n` bytes are there", which looks at no more
than `n` of them.
-/

namespace TcpCensus

/-- A string of bytes. -/
abbrev Bytes := List UInt8

namespace Bytes

/-! ### Lengths -/

/-- Whether at least `n` bytes are there. -/
def covers (bs : Bytes) : Nat → Bool
  | 0 => true
  | n + 1 => !(bs.drop n).isEmpty

/-- Bytes cover a length if there are so many of them. -/
theorem covers_iff {bs : Bytes} {n : Nat} : covers bs n = true ↔ n ≤ bs.length := by
  cases n with
  | zero => simp [covers]
  | succ n =>
    rw [covers, Bool.not_eq_true', ← Bool.not_eq_true, List.isEmpty_iff, List.drop_eq_nil_iff]
    omega

/-- The `w` bytes from offset `o` on, fewer where the bytes end early. -/
def slice (bs : Bytes) (o w : Nat) : Bytes := (bs.drop o).take w

/-- A slice is as wide as was asked for, or ends where the bytes do. -/
theorem length_slice (bs : Bytes) (o w : Nat) :
    (slice bs o w).length = min w (bs.length - o) := by
  simp [slice]

/-! ### Numbers -/

/-- The number whose bytes these are, least significant first. -/
def toNatLE : Bytes → Nat
  | [] => 0
  | b :: bs => b.toNat + 256 * toNatLE bs

/-- The `w` low bytes of a number, least significant first. -/
def ofNatLE : Nat → Nat → Bytes
  | 0, _ => []
  | w + 1, n => UInt8.ofNat n :: ofNatLE w (n / 256)

/-- A number is written in as many bytes as were asked for, however large it is. -/
@[simp] theorem length_ofNatLE (w n : Nat) : (ofNatLE w n).length = w := by
  induction w generalizing n with
  | zero => rfl
  | succ w ih => simp [ofNatLE, ih]

/-! ### Words read at an offset -/

/-- The byte at an offset. -/
def u8 (bs : Bytes) (o : Nat) : UInt8 := .ofNat (toNatLE (slice bs o 1))

/-- The two-byte word at an offset. -/
def u16 (bs : Bytes) (o : Nat) : UInt16 := .ofNat (toNatLE (slice bs o 2))

/-- The two-byte word at an offset, most significant byte first. -/
def u16BE (bs : Bytes) (o : Nat) : UInt16 := .ofNat (toNatLE (slice bs o 2).reverse)

/-- The four-byte word at an offset. -/
def u32 (bs : Bytes) (o : Nat) : UInt32 := .ofNat (toNatLE (slice bs o 4))

/-- The eight-byte word at an offset. -/
def u64 (bs : Bytes) (o : Nat) : UInt64 := .ofNat (toNatLE (slice bs o 8))

/-! ### Words written -/

/-- The two bytes of a word. -/
def ofU16 (x : UInt16) : Bytes := ofNatLE 2 x.toNat

/-- The two bytes of a word, most significant first. -/
def ofU16BE (x : UInt16) : Bytes := (ofNatLE 2 x.toNat).reverse

/-- The four bytes of a word. -/
def ofU32 (x : UInt32) : Bytes := ofNatLE 4 x.toNat

/-- The eight bytes of a word. -/
def ofU64 (x : UInt64) : Bytes := ofNatLE 8 x.toNat

@[simp] theorem length_ofU16 (x : UInt16) : (ofU16 x).length = 2 := length_ofNatLE 2 _
@[simp] theorem length_ofU16BE (x : UInt16) : (ofU16BE x).length = 2 := by simp [ofU16BE]
@[simp] theorem length_ofU32 (x : UInt32) : (ofU32 x).length = 4 := length_ofNatLE 4 _
@[simp] theorem length_ofU64 (x : UInt64) : (ofU64 x).length = 8 := length_ofNatLE 8 _

end Bytes

/-- Exactly `n` bytes. -/
structure Octets (n : Nat) where
  bytes : Bytes
  length_eq : bytes.length = n
  deriving DecidableEq

namespace Octets

/-- The first `n` bytes, with zeros in the place of those that are missing. -/
def ofBytes (n : Nat) (bs : Bytes) : Octets n :=
  let kept := bs.take n
  ⟨kept ++ List.replicate (n - kept.length) 0, by
    simp only [List.length_append, List.length_replicate]
    have : kept.length ≤ n := by simp only [kept, List.length_take]; omega
    omega⟩

/-- All zeros. -/
def zero (n : Nat) : Octets n := ofBytes n []

instance (n : Nat) : Inhabited (Octets n) := ⟨zero n⟩

end Octets
end TcpCensus
