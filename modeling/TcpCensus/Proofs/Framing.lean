/-
# Datagrams made of complete envelopes

The kernel puts whole envelopes into a datagram, each brought to a multiple of
four bytes by padding that nobody looks at. A `Frame` is one of them; its proofs
are what makes it a whole part of a row in the framing of envelopes, so that a
datagram is no more than a row of frames.

`split_flatMap_bytes`: reading such a row gives its envelopes back, in order, and
leaves nothing over.
-/

import TcpCensus.Envelope
import TcpCensus.Proofs.Rows

namespace TcpCensus
namespace Envelope

/-- The framing of envelopes. -/
def framing : Framing Header where
  size := Header.size
  encode := Header.encode
  read := Header.read
  length h := h.length.toNat
  size_pos := by decide
  length_encode := Header.length_encode
  read_encode_append := Header.read_encode_append
  encode_read := Header.encode_read

/-- The envelope that a part is. -/
def ofPart (p : Framing.Part Header) : Envelope := ⟨p.header, p.data⟩

/-- An envelope fits where a whole item of the framing does. -/
theorem fits_iff {bs : Bytes} : Fits bs ↔ framing.Fits bs := by
  rw [Fits, Bytes.covers_iff, Bytes.covers_iff]
  rfl

/-- **Envelopes are found as the items of their framing.** -/
theorem reads_next? : framing.Reads ofPart next? := by
  intro bs
  rw [next?]
  simp only [fits_iff]
  rfl

end Envelope

/-- A complete envelope with its padding. -/
structure Frame where
  envelope : Envelope
  /-- The bytes up to the next multiple of four, whatever they are. -/
  pad : Bytes
  complete : envelope.header.length.toNat = Envelope.Header.size + envelope.payload.length
  aligned : Aligns pad.length envelope.header.length.toNat

namespace Frame

/-- The bytes of a frame. -/
def bytes (f : Frame) : Bytes := f.envelope.header.encode ++ (f.envelope.payload ++ f.pad)

/-- A frame as a part of a row, whole and with all of its padding. -/
def part (f : Frame) : Framing.Part Envelope.Header :=
  ⟨f.envelope.header, f.envelope.payload, f.pad⟩

/-- A frame has the bytes of the part that it is. -/
theorem bytes_part (f : Frame) : Envelope.framing.bytes f.part = f.bytes := rfl

/-- The length in the header of a frame counts the header and the payload. -/
theorem complete_part (f : Frame) : Envelope.framing.Complete f.part := f.complete

/-- A frame lacks none of its padding, whatever is behind it. -/
theorem padded_part (f : Frame) (behind : Bytes) : Envelope.framing.Padded f.part behind :=
  Framing.padded_of_aligns f.aligned behind

/-- The header of a frame is read, whatever is behind the frame. -/
theorem read_bytes_append (f : Frame) (bs : Bytes) :
    Envelope.Header.read (f.bytes ++ bs) = f.envelope.header := by
  rw [bytes, List.append_assoc, Envelope.Header.read_encode_append]

end Frame

namespace Envelope

/-- Where an envelope fits, it is read, and then what is behind it. -/
theorem split_of_fits {bs : Bytes} (h : Fits bs) :
    split bs = (front bs :: (split (behind bs)).1, (split (behind bs)).2) := by
  rw [split_eq, next?, if_pos h]

/-- Where no envelope fits, all that is there is left over. -/
theorem split_of_not_fits {bs : Bytes} (h : ¬ Fits bs) : split bs = ([], bs) := by
  rw [split_eq, next?, if_neg h]

/-- An empty datagram holds no envelope. -/
@[simp] theorem split_nil : split [] = ([], []) := split_of_not_fits (by decide)

/-- **A frame at the front gives its envelope,** and reading goes on right behind it. -/
theorem split_bytes_append (f : Frame) (bs : Bytes) :
    split (f.bytes ++ bs) = (f.envelope :: (split bs).1, (split bs).2) := by
  rw [← f.bytes_part, split_eq,
    reads_next?.next?_bytes_append f.complete_part (f.padded_part bs)]
  rfl

/-- **A row of frames is read back whole:** every envelope once, in order, and
nothing left over. -/
theorem split_flatMap_bytes (fs : List Frame) :
    split (fs.flatMap Frame.bytes) = (fs.map Frame.envelope, []) := by
  induction fs with
  | nil => exact split_nil
  | cons f fs ih => rw [List.flatMap_cons, split_bytes_append, ih, List.map_cons]

end Envelope
end TcpCensus
