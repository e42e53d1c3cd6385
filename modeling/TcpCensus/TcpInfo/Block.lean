/-
# The statistics block as the kernel sent it

A kernel sends as much of the block as it knows: an old one less than 248 bytes,
a new one more. What is kept is the part that can be read, at most 248 bytes,
and the block is that part with zeros behind it.
-/

import TcpCensus.Bytes

namespace TcpCensus

/-- The readable part of a statistics block. -/
structure InfoBlock where
  payload : Bytes
  length_le : payload.length ≤ 248
  deriving DecidableEq

namespace InfoBlock

/-- The size of a whole block. -/
def size : Nat := 248

/-- Keep the readable part of what the kernel sent. -/
def ofPayload (data : Bytes) : InfoBlock :=
  ⟨data.take size, by simp only [List.length_take, size]; omega⟩

/-- A block of which nothing was sent. -/
def empty : InfoBlock := ofPayload []

/-- How many bytes the kernel sent, up to the size of the block. -/
def reportedLength (b : InfoBlock) : Nat := b.payload.length

/-- The whole block, with zeros where nothing was sent. -/
def octets (b : InfoBlock) : Octets size := .ofBytes size b.payload

/-- A short form for a reader: the contents are left out. -/
def summary (b : InfoBlock) : String :=
  s!"RawTcpInfo \x7b reported_len: {b.reportedLength}, .. \x7d"

end InfoBlock
end TcpCensus
