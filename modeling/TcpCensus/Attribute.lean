/-
# Attributes in a payload

Behind its fixed record, a payload is a row of attributes, each padded to a
multiple of four bytes. They are read from the front. The first header that does
not fit what is left ends the reading, and nothing behind it is looked at.

* `Attribute.next?` reads one attribute and gives what follows it.
* `Attribute.all` reads them all; `all_eq` is its one-step equation.
-/

import TcpCensus.Alignment
import TcpCensus.Attribute.Header

namespace TcpCensus

/-- A kind and the data that goes with it. -/
structure Attribute where
  kind : UInt16
  data : Bytes
  deriving DecidableEq, Repr

namespace Attribute

/-- Whether a whole attribute stands at the front: its header is there, and the
length it claims is at least the header's and at most what is there. -/
def Fits (bs : Bytes) : Prop :=
  Bytes.covers bs Header.size = true ∧ Header.size ≤ (Header.read bs).length.toNat ∧
    Bytes.covers bs (Header.read bs).length.toNat = true

instance (bs : Bytes) : Decidable (Fits bs) := by unfold Fits; infer_instance

/-- The attribute at the front, taken for whole. -/
def front (bs : Bytes) : Attribute :=
  let header := Header.read bs
  ⟨header.kind, Bytes.slice bs Header.size (header.length.toNat - Header.size)⟩

/-- What follows the attribute at the front and its padding. -/
def behind (bs : Bytes) : Bytes := bs.drop (roundUp (Header.read bs).length.toNat)

/-- The attribute at the front and what follows it, if a whole one is there. -/
def next? (bs : Bytes) : Option (Attribute × Bytes) :=
  if Fits bs then some (front bs, behind bs) else none

/-- An attribute that is read takes bytes away, so reading ends. -/
theorem length_behind_lt {bs : Bytes} (h : Fits bs) : (behind bs).length < bs.length := by
  obtain ⟨hsize, hmin, _⟩ := h
  have hsize := Bytes.covers_iff.1 hsize
  have := le_roundUp (Header.read bs).length.toNat
  simp only [behind, List.length_drop, Header.size] at *
  omega

/-- The attributes of a payload in order, up to the first that does not fit. -/
def all (bs : Bytes) : List Attribute :=
  if h : Fits bs then
    have := length_behind_lt h
    front bs :: all (behind bs)
  else []
termination_by bs.length

/-- The attributes of some bytes are the one at the front, if there is one, and those behind
it. -/
theorem all_eq (bs : Bytes) :
    all bs = match next? bs with
      | some (a, rest) => a :: all rest
      | none => [] := by
  rw [all, next?]
  split <;> simp_all

/-- The bytes of an attribute: header and data, then the padding. All of the
data is written, also where its length does not fit the length field. -/
def encode (type : UInt16) (data : Bytes) : Bytes :=
  padded ((Header.new type data.length).encode ++ data)

end Attribute
end TcpCensus
