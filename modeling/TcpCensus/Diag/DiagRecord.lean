/-
# The record of one socket in a dump

| offset | width | field |
| ---: | ---: | --- |
| 0 | 1 | `family` |
| 1 | 1 | `state` |
| 2 | 1 | `timer` |
| 3 | 1 | `retransmits` |
| 4 | 48 | `id` |
| 52 | 4 | `expires` |
| 56 | 4 | `receiveQueue` |
| 60 | 4 | `sendQueue` |
| 64 | 4 | `uid` |
| 68 | 4 | `inode` |

Attributes follow it.
-/

import TcpCensus.Diag.SocketId
import TcpCensus.Error

namespace TcpCensus

/-- The record of one socket in a dump. -/
structure DiagRecord where
  family : UInt8
  state : UInt8
  timer : UInt8
  retransmits : UInt8
  id : SocketId
  expires : UInt32
  receiveQueue : UInt32
  sendQueue : UInt32
  uid : UInt32
  inode : UInt32
  deriving DecidableEq

namespace DiagRecord

/-- The size of the record. -/
def size : Nat := 72

/-- The bytes of the record. -/
def encode (r : DiagRecord) : Bytes :=
  [r.family, r.state, r.timer, r.retransmits] ++ r.id.encode ++ Bytes.ofU32 r.expires
    ++ Bytes.ofU32 r.receiveQueue ++ Bytes.ofU32 r.sendQueue ++ Bytes.ofU32 r.uid
    ++ Bytes.ofU32 r.inode

/-- The record that the first 72 bytes hold. -/
def read (bs : Bytes) : DiagRecord where
  family := Bytes.u8 bs 0
  state := Bytes.u8 bs 1
  timer := Bytes.u8 bs 2
  retransmits := Bytes.u8 bs 3
  id := .read (bs.drop 4)
  expires := Bytes.u32 bs 52
  receiveQueue := Bytes.u32 bs 56
  sendQueue := Bytes.u32 bs 60
  uid := Bytes.u32 bs 64
  inode := Bytes.u32 bs 68

/-- The record at the front of a payload, if all of it is there. -/
def decode (bs : Bytes) : Except Error DiagRecord :=
  if Bytes.covers bs size then .ok (read bs) else .error (.truncated size bs.length)

/-- A record is 72 bytes. -/
@[simp] theorem length_encode (r : DiagRecord) : r.encode.length = size := by
  simp [encode, size, SocketId.size]

end DiagRecord
end TcpCensus
