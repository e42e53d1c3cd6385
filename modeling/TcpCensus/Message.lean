/-
# A message under construction

A message is a header and a body that grows piece by piece. Every piece is
padded to a multiple of four bytes as it is appended, and the padding counts as
part of the message. The length field is filled in when the message is finished;
until then it holds the length of a header alone.
-/

import TcpCensus.Attribute
import TcpCensus.Envelope.Header

namespace TcpCensus

/-- A message under construction. -/
structure Message where
  kind : UInt16
  flags : UInt16
  seq : UInt32 := 0
  port : UInt32 := 0
  /-- The pieces appended so far, each with its padding. -/
  body : Bytes := []
  deriving DecidableEq, Repr

namespace Message

/-- The message with the given length field. -/
def stamped (m : Message) (length : UInt32) : Bytes :=
  (Envelope.Header.mk length m.kind m.flags m.seq m.port).encode ++ m.body

/-- The message so far. -/
def bytes (m : Message) : Bytes := m.stamped 16

/-- The finished message, its length filled in. -/
def finish (m : Message) : Bytes :=
  m.stamped (.ofNat (Envelope.Header.size + m.body.length))

/-- Append bytes. -/
def append (m : Message) (data : Bytes) : Message :=
  { m with body := m.body ++ padded data }

/-- Append an attribute. -/
def appendAttribute (m : Message) (type : UInt16) (data : Bytes) : Message :=
  { m with body := m.body ++ Attribute.encode type data }

/-- Set the number of the request. -/
def withSeq (m : Message) (seq : UInt32) : Message := { m with seq }

/-- Set the port it is sent from. -/
def withPort (m : Message) (port : UInt32) : Message := { m with port }

end Message
end TcpCensus
