/-
# The request as the kernel reads it

The request of a call is built by appending a record to a blank message and
filling in the length. It reads back as one envelope, which is all of it, with the
number and the port that were put in and a body that asks for the established TCP
connections of a family and their statistics.
-/

import TcpCensus.Diag.DumpRequest
import TcpCensus.Proofs.Framing

namespace TcpCensus
namespace DumpRequest

variable (family : Family) (seq port : UInt32)

/-- The envelope of a request. -/
def envelope : Envelope where
  header := ⟨72, Envelope.diagByFamily, 0x301, seq, port⟩
  payload := (established family).encode

/-- The request as a frame. It needs no padding. -/
def frame : Frame where
  envelope := envelope family seq port
  pad := []
  complete := by simp [envelope, size, Envelope.Header.size]
  aligned := ⟨by decide, 18, rfl⟩

/-- The request of a call is a frame. -/
theorem bytes_frame : (frame family seq port).bytes = message family seq port := by
  have flags : Envelope.flagRequest ||| Envelope.flagDump = 0x301 := by decide
  simp [Frame.bytes, frame, envelope, message, Message.finish, Message.stamped, Message.append,
    Message.withSeq, Message.withPort, padded, padLength, roundUp, size, Envelope.Header.size,
    flags]

/-- **The request is one envelope,** and nothing is left over. -/
theorem split_message :
    Envelope.split (message family seq port) = ([envelope family seq port], []) := by
  rw [← bytes_frame, ← List.append_nil (frame family seq port).bytes, Envelope.split_bytes_append,
    Envelope.split_nil]
  rfl

/-- **The request carries the number it was built with.** -/
theorem seq_read_message : (Envelope.Header.read (message family seq port)).seq = seq := by
  rw [← bytes_frame, ← List.append_nil (frame family seq port).bytes, Frame.read_bytes_append]
  rfl

/-- A message is the request with this number for the established TCP connections of
a family and their statistics: one envelope, nothing left over, and a body of 56 bytes in
which all is zero but the family, which is 2 for IPv4 and 10 for IPv6, the protocol, bit 1
of the extensions (the statistics) and bit 1 of the states (the established). -/
structure Asks (message : Bytes) (family : Family) (seq port : UInt32) : Prop where
  length : message.length = 72
  body : ∃ number body, number = (match family with | .inet => 2 | .inet6 => 10) ∧
    Envelope.split message = ([⟨⟨72, 20, 0x301, seq, port⟩, body⟩], []) ∧
    body = [number, 6, 2, 0, 2, 0, 0, 0] ++ List.replicate 48 0 ∧
    read body = ⟨number, 6, 2, 0, 2, ⟨0, 0, .zero 16, .zero 16, 0, 0, 0⟩⟩

/-- **The request asks for established TCP connections and their statistics,** and for
nothing else. -/
theorem asks_message : Asks (message family seq port) family seq port where
  length := length_message family seq port
  body := by
    refine ⟨family.code, (established family).encode, ?_, split_message family seq port, ?_, ?_⟩
    · cases family <;> rfl
    · cases family <;> rfl
    · rw [← List.append_nil (established family).encode, read_encode_append]
      rfl

end DumpRequest
end TcpCensus
