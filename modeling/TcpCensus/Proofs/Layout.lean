/-
# Records read back as they were written

A record is written as the row of its fields and read field by field at literal
offsets. Two facts about `Bytes.slice` carry every record: what stands behind a
prefix is found by leaving the prefix out (`slice_append_of_le`), and a field at
the front is found whole (`slice_append_of_length`). With them a reader runs over
the fields of a writer by simplification, whatever follows the record.

* `toNatLE_ofNatLE`, `ofNatLE_toNatLE`: a word of `w` bytes and a number below
  `256 ^ w` are the same thing.
* `Envelope.Header.read_encode_append`, `Attribute.Header.read_encode_append`,
  `Acknowledgement.read_encode_append`, `SocketId.read_encode_append`,
  `DumpRequest.read_encode_append`, `DiagRecord.read_encode_append`: the record, whatever
  stands behind it.
* `Envelope.Header.encode_read`, `Attribute.Header.encode_read`: a header that is read and
  written again gives the bytes it was read from.
* `Envelope.Header.read_take`, `Attribute.Header.read_take`, `Acknowledgement.read_take`,
  `SocketId.read_take`, `DiagRecord.read_take`: a reader looks at no more than the bytes
  of its record.
-/

import Mathlib
import TcpCensus.Diag.DiagRecord
import TcpCensus.Diag.DumpRequest
import TcpCensus.Envelope.Acknowledgement

namespace TcpCensus
namespace Bytes

/-! ### Numbers -/

/-- A number is read back from its bytes, as far as they hold it. -/
theorem toNatLE_ofNatLE (w n : Nat) : toNatLE (ofNatLE w n) = n % 256 ^ w := by
  induction w generalizing n with
  | zero => simp [toNatLE, ofNatLE, Nat.mod_one]
  | succ w ih =>
    have byte : (UInt8.ofNat n).toNat = n % 256 := UInt8.toNat_ofNat'
    rw [ofNatLE, toNatLE, ih, byte, Nat.pow_succ', Nat.mod_mul]

/-- Bytes are written back from the number that they make. -/
theorem ofNatLE_toNatLE (bs : Bytes) : ofNatLE bs.length (toNatLE bs) = bs := by
  induction bs with
  | nil => rfl
  | cons b bs ih =>
    have hb := b.toNat_lt
    rw [List.length_cons, ofNatLE, toNatLE]
    congr 1
    · apply UInt8.toNat_inj.1
      rw [UInt8.toNat_ofNat']
      omega
    · rw [show (b.toNat + 256 * toNatLE bs) / 256 = toNatLE bs by omega, ih]

/-- The number that some bytes make is one that so many bytes can hold. -/
theorem toNatLE_lt (bs : Bytes) : toNatLE bs < 256 ^ bs.length := by
  induction bs with
  | nil => simp [toNatLE]
  | cons b bs ih =>
    have hb := b.toNat_lt
    rw [toNatLE, List.length_cons, Nat.pow_succ]
    omega

/-! ### Fields in a row -/

/-- **A prefix is left out:** a slice that begins behind it begins so much
earlier in the rest. -/
theorem slice_append_of_le {before bs : Bytes} {o : Nat} (h : before.length ≤ o) (w : Nat) :
    slice (before ++ bs) o w = slice bs (o - before.length) w := by
  rw [slice, slice, List.drop_append, List.drop_of_length_le h, List.nil_append]

/-- **A field at the front is found whole.** -/
theorem slice_append_of_length {field bs : Bytes} {w : Nat} (h : field.length = w) :
    slice (field ++ bs) 0 w = field := by
  subst h
  rw [slice, List.drop_zero, List.take_left]

/-- A byte in front is left out like any prefix. -/
@[simp] theorem slice_cons_succ (b : UInt8) (bs : Bytes) (o w : Nat) :
    slice (b :: bs) (o + 1) w = slice bs o w := by
  rw [slice, slice, List.drop_succ_cons]

/-- The slice of one byte at the front is the first byte. -/
@[simp] theorem slice_cons_zero_one (b : UInt8) (bs : Bytes) : slice (b :: bs) 0 1 = [b] := rfl

/-- A prefix is left out of what is dropped, too. -/
theorem drop_append_of_le {before bs : Bytes} {o : Nat} (h : before.length ≤ o) :
    (before ++ bs).drop o = bs.drop (o - before.length) := by
  rw [List.drop_append, List.drop_of_length_le h, List.nil_append]

/-- **A field within the first bytes** is the same without the rest. -/
theorem slice_take_of_le {bs : Bytes} {o w n : Nat} (h : o + w ≤ n) :
    slice (bs.take n) o w = slice bs o w := by
  rw [slice, slice, List.drop_take, List.take_take, Nat.min_eq_left (by omega)]

/-- **A field behind the first bytes** makes them so much longer. -/
theorem take_append_slice (bs : Bytes) (o w : Nat) : bs.take o ++ slice bs o w = bs.take (o + w) :=
  List.take_add.symm

/-! ### Words -/

/-- The bytes of a number that was read are the bytes it was read from. -/
theorem ofNatLE_toNatLE_of_length {bs : Bytes} {w m : Nat} (hw : bs.length = w) (hm : 256 ^ w ≤ m) :
    ofNatLE w (toNatLE bs % m) = bs := by
  subst hw
  rw [Nat.mod_eq_of_lt (Nat.lt_of_lt_of_le (toNatLE_lt bs) hm), ofNatLE_toNatLE]

/-- A word of two bytes that is read at an offset is written as it stands there. -/
theorem ofU16_u16 {bs : Bytes} {o : Nat} (h : o + 2 ≤ bs.length) :
    ofU16 (u16 bs o) = slice bs o 2 := by
  have length : (slice bs o 2).length = 2 := by rw [length_slice]; omega
  rw [ofU16, u16, UInt16.toNat_ofNat', ofNatLE_toNatLE_of_length length (by decide)]

/-- A word of four bytes that is read at an offset is written as it stands there. -/
theorem ofU32_u32 {bs : Bytes} {o : Nat} (h : o + 4 ≤ bs.length) :
    ofU32 (u32 bs o) = slice bs o 4 := by
  have length : (slice bs o 4).length = 4 := by rw [length_slice]; omega
  rw [ofU32, u32, UInt32.toNat_ofNat', ofNatLE_toNatLE_of_length length (by decide)]

/-- A word of two bytes is read back. -/
@[simp] theorem ofNat_toNatLE_ofU16 (x : UInt16) : UInt16.ofNat (toNatLE (ofU16 x)) = x := by
  have hx := x.toNat_lt
  rw [ofU16, toNatLE_ofNatLE, Nat.mod_eq_of_lt (by omega), UInt16.ofNat_toNat]

/-- A word of two bytes, most significant first, is read back. -/
@[simp] theorem ofNat_toNatLE_reverse_ofU16BE (x : UInt16) :
    UInt16.ofNat (toNatLE (ofU16BE x).reverse) = x := by
  rw [ofU16BE, List.reverse_reverse]
  exact ofNat_toNatLE_ofU16 x

/-- A word of four bytes is read back. -/
@[simp] theorem ofNat_toNatLE_ofU32 (x : UInt32) : UInt32.ofNat (toNatLE (ofU32 x)) = x := by
  have hx := x.toNat_lt
  rw [ofU32, toNatLE_ofNatLE, Nat.mod_eq_of_lt (by omega), UInt32.ofNat_toNat]

/-- A byte is read back. -/
@[simp] theorem ofNat_toNatLE_singleton (b : UInt8) : UInt8.ofNat (toNatLE [b]) = b := by
  simp [toNatLE]

end Bytes

/-- So many bytes are told by what they are. -/
theorem Octets.bytes_inj {n : Nat} {x y : Octets n} : x.bytes = y.bytes ↔ x = y := by
  cases x
  cases y
  simp only [Octets.mk.injEq]

/-- **A field of fixed size holds the bytes written to it.** -/
theorem Octets.ofBytes_append {n : Nat} (x : Octets n) (bs : Bytes) :
    Octets.ofBytes n (x.bytes ++ bs) = x := by
  obtain ⟨bytes, rfl⟩ := x
  simp [Octets.ofBytes]

/-- A field of fixed size looks at no more bytes than it has. -/
theorem Octets.ofBytes_take {m n : Nat} (h : m ≤ n) (bs : Bytes) :
    Octets.ofBytes m (bs.take n) = Octets.ofBytes m bs := by
  simp only [Octets.ofBytes, List.take_take, Nat.min_eq_left h]

/-- Bytes that are made so many are cut, or filled up with zeros. -/
theorem Octets.bytes_ofBytes (n : Nat) (bs : Bytes) :
    (Octets.ofBytes n bs).bytes = bs.take n ++ List.replicate (n - bs.length) 0 := by
  have missing : n - (bs.take n).length = n - bs.length := by rw [List.length_take]; omega
  simp only [Octets.ofBytes, missing]

/-- Where bytes suffice, a field of fixed size is the first of them. -/
theorem Octets.bytes_ofBytes_of_le {n : Nat} {bs : Bytes} (h : n ≤ bs.length) :
    (Octets.ofBytes n bs).bytes = bs.take n := by
  rw [bytes_ofBytes, Nat.sub_eq_zero_of_le h, List.replicate_zero, List.append_nil]

/-- The bytes that a field is filled with stand at its front. -/
theorem Octets.take_length_ofBytes {n : Nat} {bs : Bytes} (h : bs.length ≤ n) :
    (Octets.ofBytes n bs).bytes.take bs.length = bs := by
  simp only [Octets.ofBytes, List.take_of_length_le h, List.take_left]

/-! ### Records -/

open Bytes in
/-- **A header is read back,** whatever follows it. -/
theorem Envelope.Header.read_encode_append (h : Envelope.Header) (bs : Bytes) :
    Envelope.Header.read (h.encode ++ bs) = h := by
  simp [read, encode, u16, u32, slice_append_of_le, slice_append_of_length]

open Bytes in
/-- **The header of an attribute is read back,** whatever follows it. -/
theorem Attribute.Header.read_encode_append (h : Attribute.Header) (bs : Bytes) :
    Attribute.Header.read (h.encode ++ bs) = h := by
  simp [read, encode, u16, slice_append_of_le, slice_append_of_length]

open Bytes in
/-- **The record in an error envelope is read back,** whatever follows it. -/
theorem Acknowledgement.read_encode_append (a : Acknowledgement) (bs : Bytes) :
    Acknowledgement.read (a.encode ++ bs) = a := by
  simp [read, encode, u32, slice_append_of_length, Envelope.Header.read_encode_append]

open Bytes in
/-- **The identity of a socket is read back,** whatever follows it. -/
theorem SocketId.read_encode_append (s : SocketId) (bs : Bytes) :
    SocketId.read (s.encode ++ bs) = s := by
  simp [read, encode, u16BE, u32, slice_append_of_le, slice_append_of_length,
    drop_append_of_le, Octets.ofBytes_append, s.source.length_eq, s.target.length_eq]

open Bytes in
/-- **A dump request is read back,** whatever follows it. -/
theorem DumpRequest.read_encode_append (r : DumpRequest) (bs : Bytes) :
    DumpRequest.read (r.encode ++ bs) = r := by
  simp [read, encode, u8, u32, slice_append_of_length,
    SocketId.read_encode_append]

open Bytes in
/-- **The record of a socket is read back,** whatever follows it. -/
theorem DiagRecord.read_encode_append (r : DiagRecord) (bs : Bytes) :
    DiagRecord.read (r.encode ++ bs) = r := by
  simp [read, encode, u8, u32, slice_append_of_le, slice_append_of_length,
    SocketId.read_encode_append, SocketId.size]

/-! ### Records written again -/

open Bytes in
/-- **A header is written as it was read.** -/
theorem Envelope.Header.encode_read {bs : Bytes} (h : size ≤ bs.length) :
    (read bs).encode = bs.take size := by
  have bound : 16 ≤ bs.length := h
  have first : slice bs 0 4 = bs.take 4 := rfl
  simp (disch := omega) only [encode, read, ofU32_u32, ofU16_u16]
  rw [first, take_append_slice, take_append_slice, take_append_slice, take_append_slice]
  rfl

open Bytes in
/-- **The header of an attribute is written as it was read.** -/
theorem Attribute.Header.encode_read {bs : Bytes} (h : size ≤ bs.length) :
    (read bs).encode = bs.take size := by
  have bound : 4 ≤ bs.length := h
  have first : slice bs 0 2 = bs.take 2 := rfl
  simp (disch := omega) only [encode, read, ofU16_u16]
  rw [first, take_append_slice]
  rfl

/-! ### Readers look at their records -/

section Take

variable {n : Nat} (bs : Bytes)

open Bytes in
/-- The header of an envelope is read from its first 16 bytes alone. -/
theorem Envelope.Header.read_take (h : size ≤ n) : read (bs.take n) = read bs := by
  have bound : 16 ≤ n := h
  simp (disch := omega) only [read, u16, u32, slice_take_of_le]

open Bytes in
/-- The header of an attribute is read from its first four bytes alone. -/
theorem Attribute.Header.read_take (h : size ≤ n) : read (bs.take n) = read bs := by
  have bound : 4 ≤ n := h
  simp (disch := omega) only [read, u16, slice_take_of_le]

open Bytes in
/-- An acknowledgement is read from its first 20 bytes alone. -/
theorem Acknowledgement.read_take (h : size ≤ n) : read (bs.take n) = read bs := by
  have bound : 20 ≤ n := h
  have rest : Envelope.Header.size ≤ n - 4 := Nat.le_sub_of_add_le bound
  simp (disch := omega) only [read, u32, slice_take_of_le, List.drop_take]
  rw [Envelope.Header.read_take (bs.drop 4) rest]

open Bytes in
/-- An identity is read from its first 48 bytes alone. -/
theorem SocketId.read_take (h : size ≤ n) : read (bs.take n) = read bs := by
  have bound : 48 ≤ n := h
  simp (disch := omega) only [read, u16BE, u32, slice_take_of_le, List.drop_take,
    Octets.ofBytes_take]

open Bytes in
/-- A record is read from its first 72 bytes alone. -/
theorem DiagRecord.read_take (h : size ≤ n) : read (bs.take n) = read bs := by
  have bound : 72 ≤ n := h
  have rest : SocketId.size ≤ n - 4 := Nat.le_trans (by decide) (Nat.le_sub_of_add_le bound)
  simp (disch := omega) only [read, u8, u32, slice_take_of_le, List.drop_take]
  rw [SocketId.read_take (bs.drop 4) rest]

end Take

end TcpCensus
