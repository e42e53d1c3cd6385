/-
# What the kernel answers

The kernel reads a message as envelopes. A control request, one with a kind
below the first that a subsystem may use, is taken without more ado; if it asks
for an acknowledgement it gets one, in a datagram of its own, with the header
that was sent. What is no whole envelope gets no answer.
-/

import TcpCensus.Envelope
import TcpCensus.Envelope.Acknowledgement

namespace TcpCensus
namespace Kernel

/-- The first kind that belongs to a subsystem; the kinds below it are control messages. -/
def firstSubsystemKind : UInt16 := 16

/-- The longest message a socket may send: its send buffer less the kernel's own share. -/
def longestMessage : Nat := 212992 - 32

/-- Whether an envelope asks for an acknowledgement and gets it. -/
def acknowledges (h : Envelope.Header) : Bool :=
  let wanted := Envelope.flagRequest ||| Envelope.flagAck
  h.kind < firstSubsystemKind && h.flags &&& wanted = wanted

/-- The datagram that acknowledges a request to the socket with this port. -/
def acknowledgement (port : UInt32) (request : Envelope.Header) : Bytes :=
  let record : Acknowledgement := ⟨0, request⟩
  Envelope.encode
    { header := ⟨36, Envelope.error, Envelope.flagCapped, request.seq, port⟩
      payload := record.encode }

/-- The datagrams that answer a message. -/
def answers (port : UInt32) (message : Bytes) : List Bytes :=
  ((Envelope.split message).1.filter (acknowledges ·.header)).map fun e =>
    acknowledgement port e.header

end Kernel
end TcpCensus
