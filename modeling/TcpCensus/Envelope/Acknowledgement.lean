/-
# The record in an error envelope

| offset | width | field |
| ---: | ---: | --- |
| 0 | 4 | `code`: zero, or a negated error number |
| 4 | 16 | `request`: the header it answers |
-/

import TcpCensus.Envelope.Header

namespace TcpCensus

/-- What an error envelope carries. -/
structure Acknowledgement where
  /-- Zero where the request succeeded, else its error number negated. -/
  code : Int32
  /-- The header of the request. -/
  request : Envelope.Header
  deriving DecidableEq, Repr

namespace Acknowledgement

/-- The size of the record. -/
def size : Nat := 20

/-- Whether the request succeeded. -/
def isSuccess (a : Acknowledgement) : Bool := a.code = 0

/-- The bytes of the record. -/
def encode (a : Acknowledgement) : Bytes := Bytes.ofU32 a.code.toUInt32 ++ a.request.encode

/-- The record that the first 20 bytes hold. -/
def read (bs : Bytes) : Acknowledgement where
  code := (Bytes.u32 bs 0).toInt32
  request := .read (bs.drop 4)

/-- The record at the front of a payload, if all of it is there. -/
def decode (bs : Bytes) : Except Error Acknowledgement :=
  if Bytes.covers bs size then .ok (read bs) else .error (.truncated size bs.length)

/-- A code and the header that it answers are 20 bytes. -/
@[simp] theorem length_encode (a : Acknowledgement) : a.encode.length = size := by
  simp [encode, size, Envelope.Header.size]

end Acknowledgement
end TcpCensus
