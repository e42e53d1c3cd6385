/-
# Envelopes in a datagram

A datagram is a row of envelopes, each padded to a multiple of four bytes. It is
read from the front. The first header that does not fit what is left, because it
claims less than its own size or more than there is, ends the reading, and the
rest of the datagram is left over.

* `Envelope.next?` reads one envelope and gives what follows it.
* `Envelope.split` reads them all; `split_eq` is its one-step equation.
-/

import TcpCensus.Alignment
import TcpCensus.Envelope.Header

namespace TcpCensus

/-- A header and the payload it announces. -/
structure Envelope where
  header : Envelope.Header
  payload : Bytes
  deriving DecidableEq, Repr

namespace Envelope

/-- Whether a whole envelope stands at the front: its header is there, and the
length it claims is at least the header's and at most what is there. -/
def Fits (bs : Bytes) : Prop :=
  Bytes.covers bs Header.size = true ∧ Header.size ≤ (Header.read bs).length.toNat ∧
    Bytes.covers bs (Header.read bs).length.toNat = true

instance (bs : Bytes) : Decidable (Fits bs) := by unfold Fits; infer_instance

/-- The envelope at the front, taken for whole. -/
def front (bs : Bytes) : Envelope :=
  let header := Header.read bs
  ⟨header, Bytes.slice bs Header.size (header.length.toNat - Header.size)⟩

/-- What follows the envelope at the front and its padding. -/
def behind (bs : Bytes) : Bytes := bs.drop (roundUp (Header.read bs).length.toNat)

/-- The envelope at the front and what follows it, if a whole one is there. -/
def next? (bs : Bytes) : Option (Envelope × Bytes) :=
  if Fits bs then some (front bs, behind bs) else none

/-- An envelope that is read takes bytes away, so reading ends. -/
theorem length_behind_lt {bs : Bytes} (h : Fits bs) : (behind bs).length < bs.length := by
  obtain ⟨hsize, hmin, _⟩ := h
  have hsize := Bytes.covers_iff.1 hsize
  have := le_roundUp (Header.read bs).length.toNat
  simp only [behind, List.length_drop, Header.size] at *
  omega

/-- All envelopes of a datagram in order, and the bytes left over. -/
def split (bs : Bytes) : List Envelope × Bytes :=
  if h : Fits bs then
    have := length_behind_lt h
    let (more, rest) := split (behind bs)
    (front bs :: more, rest)
  else ([], bs)
termination_by bs.length

/-- A datagram is the envelope at its front, if there is one, and what is read behind it. -/
theorem split_eq (bs : Bytes) :
    split bs = match next? bs with
      | some (e, rest) => (e :: (split rest).1, (split rest).2)
      | none => ([], bs) := by
  rw [split, next?]
  split <;> simp_all

/-- The bytes of an envelope: header and payload, then the padding. -/
def encode (e : Envelope) : Bytes := padded (e.header.encode ++ e.payload)

end Envelope
end TcpCensus
