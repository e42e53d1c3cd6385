/-
# The request for a dump

| offset | width | field |
| ---: | ---: | --- |
| 0 | 1 | `family` |
| 1 | 1 | `protocol` |
| 2 | 1 | `extensions`, one bit for each |
| 3 | 1 | `pad` |
| 4 | 4 | `states`, one bit for each |
| 8 | 48 | `id` |
-/

import TcpCensus.Diag.SocketId
import TcpCensus.Family
import TcpCensus.Message
import TcpCensus.TcpState

namespace TcpCensus

/-- What a dump is to hold. -/
structure DumpRequest where
  family : UInt8
  protocol : UInt8
  extensions : UInt8
  pad : UInt8
  states : UInt32
  id : SocketId
  deriving DecidableEq

/-- The statistics block: the one extension that is asked for. -/
inductive Extension
  | info
  deriving DecidableEq, Repr

/-- The kind of the attribute an extension is delivered in. -/
def Extension.attributeKind : Extension → UInt16
  | .info => 2

/-- The bit that asks for an extension: bit `n - 1` for the attribute of kind `n`. -/
def Extension.mask (e : Extension) : UInt8 := 1 <<< (e.attributeKind.toUInt8 - 1)

namespace DumpRequest

/-- The size of the record. -/
def size : Nat := 56

/-- The bytes of the record. -/
def encode (r : DumpRequest) : Bytes :=
  [r.family, r.protocol, r.extensions, r.pad] ++ Bytes.ofU32 r.states ++ r.id.encode

/-- The record that the first 56 bytes hold. -/
def read (bs : Bytes) : DumpRequest where
  family := Bytes.u8 bs 0
  protocol := Bytes.u8 bs 1
  extensions := Bytes.u8 bs 2
  pad := Bytes.u8 bs 3
  states := Bytes.u32 bs 4
  id := .read (bs.drop 8)

/-- A record is 56 bytes. -/
@[simp] theorem length_encode (r : DumpRequest) : r.encode.length = size := by
  simp [encode, size, SocketId.size]

/-- The number of the TCP protocol. -/
def tcp : UInt8 := 6

/-- Every established TCP connection of a family, with its statistics block. -/
def established (family : Family) : DumpRequest where
  family := family.code
  protocol := tcp
  extensions := Extension.info.mask
  pad := 0
  states := TcpState.established.mask
  id := .any

/-- The whole request message for the established connections of a family. -/
def message (family : Family) (seq port : UInt32) : Bytes :=
  let blank : Message :=
    { kind := Envelope.diagByFamily, flags := Envelope.flagRequest ||| Envelope.flagDump }
  (((blank.withSeq seq).withPort port).append (established family).encode).finish

/-- A request is a header and one record, which need no padding. -/
theorem length_message (family : Family) (seq port : UInt32) :
    (message family seq port).length = 72 := by
  simp [message, Message.finish, Message.stamped, Message.append, Message.withSeq,
    Message.withPort, length_padded, size, roundUp, Envelope.Header.size]

end DumpRequest
end TcpCensus
