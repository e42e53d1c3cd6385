/-
# The header of an attribute

| offset | width | field |
| ---: | ---: | --- |
| 0 | 2 | `length`, header included |
| 2 | 2 | `type`: two flag bits above, the kind below |
-/

import TcpCensus.Bytes
import TcpCensus.Error

namespace TcpCensus
namespace Attribute

/-- The header of an attribute. -/
structure Header where
  /-- The length of the attribute, header included and padding not. -/
  length : UInt16
  /-- The kind, with two flags in its topmost bits. -/
  type : UInt16
  deriving DecidableEq, Repr

namespace Header

/-- The size of a header. -/
def size : Nat := 4

/-- The header of an attribute with so many bytes of data. The length field has
16 bits, and a length beyond them loses its high part. -/
def new (type : UInt16) (dataLength : Nat) : Header := ⟨.ofNat (size + dataLength), type⟩

/-- The kind: the type without the flag for nested attributes and the flag for
network byte order. -/
def kind (h : Header) : UInt16 := h.type &&& 0x3fff

/-- The bytes of a header. -/
def encode (h : Header) : Bytes := Bytes.ofU16 h.length ++ Bytes.ofU16 h.type

/-- The header that the first four bytes hold. -/
def read (bs : Bytes) : Header where
  length := Bytes.u16 bs 0
  type := Bytes.u16 bs 2

/-- The header at the front, if all of it is there. -/
def decode (bs : Bytes) : Except Error Header :=
  if Bytes.covers bs size then .ok (read bs) else .error (.truncated size bs.length)

/-- A header is four bytes. -/
@[simp] theorem length_encode (h : Header) : h.encode.length = size := by
  simp [encode, size]

end Header
end Attribute
end TcpCensus
