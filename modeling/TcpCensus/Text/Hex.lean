/-
# Bytes in hexadecimal

Two lower-case digits for each byte, the high half first. Reading takes digits of
either case and refuses anything else, an odd digit at the end included.

`decode_encode`: what is written is read back.
-/

import TcpCensus.Bytes

namespace TcpCensus
namespace Hex

/-- The digits of a byte. -/
def ofByte (b : UInt8) : List Char :=
  [Nat.digitChar (b.toNat / 16), Nat.digitChar (b.toNat % 16)]

/-- The value of a digit. -/
def digit? (c : Char) : Option Nat :=
  if '0' ≤ c ∧ c ≤ '9' then some (c.toNat - '0'.toNat)
  else if 'a' ≤ c ∧ c ≤ 'f' then some (c.toNat - 'a'.toNat + 10)
  else if 'A' ≤ c ∧ c ≤ 'F' then some (c.toNat - 'A'.toNat + 10)
  else none

/-- Read the digits, after the bytes already read, last first. -/
def decodeAfter (read : Bytes) : List Char → Option Bytes
  | [] => some read.reverse
  | [_] => none
  | hi :: lo :: cs =>
    match digit? hi, digit? lo with
    | some h, some l => decodeAfter (.ofNat (16 * h + l) :: read) cs
    | _, _ => none

/-- The digits of bytes. -/
def encode (bs : Bytes) : String := String.ofList (bs.flatMap ofByte)

/-- The bytes that the digits stand for. -/
def decode (s : String) : Option Bytes := decodeAfter [] s.toList

/-- Two digits are read as the byte that they were written for. -/
theorem decodeAfter_ofByte (read : Bytes) (b : UInt8) (cs : List Char) :
    decodeAfter read (ofByte b ++ cs) = decodeAfter (b :: read) cs := by
  have half : ∀ n : Fin 16, digit? (Nat.digitChar n) = some n.val := by decide
  have hb := b.toNat_lt
  have hi := half ⟨b.toNat / 16, by omega⟩
  have lo := half ⟨b.toNat % 16, by omega⟩
  have whole : UInt8.ofNat (16 * (b.toNat / 16) + b.toNat % 16) = b := by
    rw [Nat.div_add_mod, UInt8.ofNat_toNat]
  simp only [ofByte, List.cons_append, List.nil_append, decodeAfter, hi, lo, whole]

/-- **Bytes are read back** from their digits. -/
theorem decode_encode (bs : Bytes) : decode (encode bs) = some bs := by
  have h : ∀ read : Bytes, decodeAfter read (bs.flatMap ofByte) = some (read.reverse ++ bs) := by
    induction bs with
    | nil => intro read; simp [decodeAfter]
    | cons b bs ih => intro read; simp [decodeAfter_ofByte, ih]
  simp [decode, encode, h]

end Hex
end TcpCensus
