/-
# The identity of a socket

| offset | width | field |
| ---: | ---: | --- |
| 0 | 2 | `sourcePort`, most significant byte first |
| 2 | 2 | `targetPort`, most significant byte first |
| 4 | 16 | `source` |
| 20 | 16 | `target` |
| 36 | 4 | `interface` |
| 40 | 4 | `cookieLow` |
| 44 | 4 | `cookieHigh` |

An address shorter than 16 bytes stands at the front of its field; what the
kernel leaves behind it means nothing.
-/

import TcpCensus.Bytes

namespace TcpCensus

/-- The identity of a socket. -/
structure SocketId where
  sourcePort : UInt16
  targetPort : UInt16
  source : Octets 16
  target : Octets 16
  interface : UInt32
  cookieLow : UInt32
  cookieHigh : UInt32
  deriving DecidableEq

namespace SocketId

/-- The size of the record. -/
def size : Nat := 48

/-- The identity that matches every socket. -/
def any : SocketId := ⟨0, 0, .zero 16, .zero 16, 0, 0, 0⟩

/-- The bytes of the record. -/
def encode (s : SocketId) : Bytes :=
  Bytes.ofU16BE s.sourcePort ++ Bytes.ofU16BE s.targetPort ++ s.source.bytes ++ s.target.bytes
    ++ Bytes.ofU32 s.interface ++ Bytes.ofU32 s.cookieLow ++ Bytes.ofU32 s.cookieHigh

/-- The record that the first 48 bytes hold. -/
def read (bs : Bytes) : SocketId where
  sourcePort := Bytes.u16BE bs 0
  targetPort := Bytes.u16BE bs 2
  source := .ofBytes 16 (bs.drop 4)
  target := .ofBytes 16 (bs.drop 20)
  interface := Bytes.u32 bs 36
  cookieLow := Bytes.u32 bs 40
  cookieHigh := Bytes.u32 bs 44

/-- An identity is 48 bytes. -/
@[simp] theorem length_encode (s : SocketId) : s.encode.length = size := by
  simp [encode, size, s.source.length_eq, s.target.length_eq]

end SocketId
end TcpCensus
