/-
# The header of an envelope

Every message to or from the kernel is an envelope: a header of 16 bytes and a
payload.

| offset | width | field |
| ---: | ---: | --- |
| 0 | 4 | `length`, header included |
| 4 | 2 | `kind` |
| 6 | 2 | `flags` |
| 8 | 4 | `seq`, copied from the request into every reply to it |
| 12 | 4 | `port` |
-/

import TcpCensus.Bytes
import TcpCensus.Error

namespace TcpCensus
namespace Envelope

/-- The header of an envelope. -/
structure Header where
  /-- The length of the envelope, header included and padding not. -/
  length : UInt32
  /-- What the envelope is. -/
  kind : UInt16
  flags : UInt16
  /-- The number of the request it belongs to. -/
  seq : UInt32
  /-- The port it was sent from. -/
  port : UInt32
  deriving DecidableEq, Repr

namespace Header

/-- The size of a header. -/
def size : Nat := 16

/-- A header alone, before anything is sent. -/
def new (kind flags : UInt16) : Header := ⟨16, kind, flags, 0, 0⟩

/-- The bytes of a header. -/
def encode (h : Header) : Bytes :=
  Bytes.ofU32 h.length ++ Bytes.ofU16 h.kind ++ Bytes.ofU16 h.flags ++ Bytes.ofU32 h.seq
    ++ Bytes.ofU32 h.port

/-- The header that the first 16 bytes hold. -/
def read (bs : Bytes) : Header where
  length := Bytes.u32 bs 0
  kind := Bytes.u16 bs 4
  flags := Bytes.u16 bs 6
  seq := Bytes.u32 bs 8
  port := Bytes.u32 bs 12

/-- The header at the front of a message, if all of it is there. -/
def decode (bs : Bytes) : Except Error Header :=
  if Bytes.covers bs size then .ok (read bs) else .error (.truncated size bs.length)

/-- A header is 16 bytes. -/
@[simp] theorem length_encode (h : Header) : h.encode.length = size := by
  simp [encode, size]

end Header

/-! ### Kinds and flags -/

/-- An envelope that asks for nothing. -/
def noop : UInt16 := 1
/-- An error, or the acknowledgement of a request. -/
def error : UInt16 := 2
/-- The end of a dump. -/
def done : UInt16 := 3
/-- A socket-diagnostics request or reply for one address family. -/
def diagByFamily : UInt16 := 20

/-- The envelope is a request. -/
def flagRequest : UInt16 := 0x1
/-- The sender wants an acknowledgement. -/
def flagAck : UInt16 := 0x4
/-- Send the whole table, whatever it holds. -/
def flagDump : UInt16 := 0x300
/-- The acknowledgement leaves out the payload of the request. -/
def flagCapped : UInt16 := 0x100

end Envelope
end TcpCensus
