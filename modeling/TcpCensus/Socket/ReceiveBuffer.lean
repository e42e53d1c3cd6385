/-
# The receive buffer

One buffer serves every receive. It is emptied first, and given room for a whole
datagram where it has less; what arrives is then written behind what it holds, as
far as there is room, and the rest is lost.

The buffer comes from a library, and it is the operating system that writes into
it. `Buffering` is what a receive uses of the two, and `Buffering.receive` is the
receive. `ReceiveBuffer` is the kind of buffer that a socket is run with.
-/

import TcpCensus.Bytes
import TcpCensus.Error

namespace TcpCensus

/-- The room a datagram is given. -/
def ReceiveBuffer.roomSize : Nat := 32768

/-- A kind of buffer: what can be seen of one, and what is done with it. -/
structure Buffering (β : Type) where
  /-- The bytes a buffer holds. -/
  held : β → Bytes
  /-- The number of bytes it can hold before it takes more memory. -/
  capacity : β → Nat
  /-- Drop the bytes. -/
  clear : β → β
  /-- Make room for so many more bytes. -/
  reserve : β → Nat → β
  /-- Write what arrives, a datagram or a failure. -/
  fill : β → Except Error Bytes → Except Error Nat × β

namespace Buffering

variable {β : Type}

/-- Empty a buffer and see to it that a datagram has room. -/
def ready (B : Buffering β) (b : β) : β :=
  let b := B.clear b
  if B.capacity b < ReceiveBuffer.roomSize then B.reserve b ReceiveBuffer.roomSize else b

/-- Receive what arrives into a buffer. -/
def receive (B : Buffering β) (b : β) (arrival : Except Error Bytes) : Except Error Nat × β :=
  B.fill (B.ready b) arrival

end Buffering

/-- Bytes, and the number of bytes there is room for. -/
structure ReceiveBuffer where
  bytes : Bytes := []
  capacity : Nat := 0
  deriving DecidableEq, Repr

namespace ReceiveBuffer

/-- Drop the bytes and keep the room. -/
def clear (b : ReceiveBuffer) : ReceiveBuffer := { b with bytes := [] }

/-- Make room for `n` more bytes. Where the room is missing, memory is taken for
`spare` bytes beyond them. -/
def reserve (b : ReceiveBuffer) (n spare : Nat) : ReceiveBuffer :=
  if b.bytes.length + n ≤ b.capacity then b
  else { b with capacity := b.bytes.length + n + spare }

/-- Append bytes, making room for them first. -/
def extend (b : ReceiveBuffer) (data : Bytes) (spare : Nat) : ReceiveBuffer :=
  let b := b.reserve data.length spare
  { b with bytes := b.bytes ++ data }

/-- Write as much of a datagram as there is room for behind the bytes, and report
how much that is. A failure writes nothing. -/
def fill (b : ReceiveBuffer) : Except Error Bytes → Except Error Nat × ReceiveBuffer
  | .error e => (.error e, b)
  | .ok datagram =>
    let written := datagram.take (b.capacity - b.bytes.length)
    (.ok written.length, { b with bytes := b.bytes ++ written })

/-- Such buffers, where `spare` more bytes are taken than are asked for. -/
def buffering (spare : Nat) : Buffering ReceiveBuffer where
  held := bytes
  capacity := capacity
  clear := clear
  reserve b n := b.reserve n spare
  fill := fill

/-- Receive what arrives: a datagram, of which as much is kept as there is room
for, or a failure. -/
def receive (b : ReceiveBuffer) (spare : Nat) (arrival : Except Error Bytes) :
    Except Error Nat × ReceiveBuffer :=
  (buffering spare).receive b arrival

end ReceiveBuffer
end TcpCensus
