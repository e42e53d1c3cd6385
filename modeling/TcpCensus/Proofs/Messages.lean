/-
# Messages read back as they were put together

A message grows by pieces, each brought to a multiple of four bytes, and an
attribute is one such piece. The writer counts the padding of the pieces as part
of the message, the reader rounds the length of each item up by itself. They agree
because a body stays a multiple of four bytes long: a finished message is then a
frame that needs no padding of its own.

* `Attribute.all_flatMap_encode`: a row of attributes is read back, each with its
  data and the kind that is left of its type without the flags. The data of each
  must fit the 16 bits of its length field.
* `Message.Aligned.bytes_append`: to pad a piece is to pad all that there is so far.
* `Message.split_flatMap_finish`: a row of finished messages is read back as their
  envelopes, and nothing is left over.
-/

import TcpCensus.Message
import TcpCensus.Proofs.Framing

namespace TcpCensus

/-! ### Alignment -/

/-- A padded piece is a multiple of four bytes. -/
theorem four_dvd_length_padded (bs : Bytes) : 4 ∣ (padded bs).length := by
  rw [length_padded]
  exact four_dvd_roundUp _

/-! ### Attributes -/

namespace Attribute

/-- The framing of attributes. -/
def framing : Framing Header where
  size := Header.size
  encode := Header.encode
  read := Header.read
  length h := h.length.toNat
  size_pos := by decide
  length_encode := Header.length_encode
  read_encode_append := Header.read_encode_append
  encode_read := Header.encode_read

/-- The attribute that a part is: of its type the kind is kept. -/
def ofPart (p : Framing.Part Header) : Attribute := ⟨p.header.type &&& 0x3fff, p.data⟩

/-- An attribute fits where a whole item of the framing does. -/
theorem fits_iff {bs : Bytes} : Fits bs ↔ framing.Fits bs := by
  rw [Fits, Bytes.covers_iff, Bytes.covers_iff]
  rfl

/-- **Attributes are found as the items of their framing.** -/
theorem reads_next? : framing.Reads ofPart next? := by
  intro bs
  rw [next?]
  simp only [fits_iff]
  rfl

/-- Where an attribute fits, it is read, and then what is behind it. -/
theorem all_of_fits {bs : Bytes} (h : Fits bs) : all bs = front bs :: all (behind bs) := by
  rw [all_eq, next?, if_pos h]

/-- Where no attribute fits, none is read. -/
theorem all_of_not_fits {bs : Bytes} (h : ¬ Fits bs) : all bs = [] := by
  rw [all_eq, next?, if_neg h]

/-- An empty payload holds no attribute. -/
@[simp] theorem all_nil : all [] = [] := all_of_not_fits (by decide)

/-- **A complete attribute at the front is read whole,** whatever its padding is, and
reading goes on right behind it. -/
theorem all_header_append {h : Header} {data pad : Bytes}
    (complete : h.length.toNat = Header.size + data.length)
    (aligned : Aligns pad.length h.length.toNat) (bs : Bytes) :
    all (h.encode ++ (data ++ (pad ++ bs))) = ⟨h.kind, data⟩ :: all bs := by
  let part : Framing.Part Header := ⟨h, data, pad⟩
  have bytes : framing.bytes part ++ bs = h.encode ++ (data ++ (pad ++ bs)) := by
    simp only [Framing.bytes, framing, part, List.append_assoc]
  rw [← bytes, all_eq, reads_next?.next?_bytes_append (p := part) complete
    (Framing.padded_of_aligns aligned bs)]
  rfl

/-- **An attribute is read back** if its data fits the length field, with the kind that
its type leaves without the two flags. -/
theorem all_encode_append (type : UInt16) {data : Bytes} (short : data.length ≤ 65531)
    (bs : Bytes) : all (encode type data ++ bs) = ⟨type &&& 0x3fff, data⟩ :: all bs := by
  have complete : (Header.new type data.length).length.toNat = Header.size + data.length := by
    have hmod : (Header.new type data.length).length.toNat = (4 + data.length) % 65536 :=
      UInt16.toNat_ofNat'
    rw [hmod, Nat.mod_eq_of_lt (by omega)]
    rfl
  have item : ((Header.new type data.length).encode ++ data).length =
      (Header.new type data.length).length.toNat := by
    rw [List.length_append, Header.length_encode, complete]
  rw [encode, padded, List.append_assoc, List.append_assoc]
  refine all_header_append complete (aligns_iff.2 ?_) bs
  rw [List.length_replicate, item]

/-- **A row of attributes is read back,** each once and in order. -/
theorem all_flatMap_encode (as : List (UInt16 × Bytes)) (short : ∀ a ∈ as, a.2.length ≤ 65531) :
    all (as.flatMap fun a => encode a.1 a.2) = as.map fun a => ⟨a.1 &&& 0x3fff, a.2⟩ := by
  induction as with
  | nil => exact all_nil
  | cons a as ih =>
    rw [List.flatMap_cons, all_encode_append a.1 (short a List.mem_cons_self),
      ih fun b hb => short b (.tail _ hb), List.map_cons]

end Attribute

/-! ### Messages -/

namespace Message

/-- The body of the message is a multiple of four bytes long, so that it needs no
padding. -/
def Aligned (m : Message) : Prop := 4 ∣ m.body.length

/-- **Every piece keeps a message aligned,** for it is padded. -/
theorem Aligned.append {m : Message} (h : m.Aligned) (data : Bytes) : (m.append data).Aligned := by
  have hpiece := four_dvd_length_padded data
  unfold Aligned at h ⊢
  rw [Message.append, List.length_append]
  omega

/-- Pieces keep a message aligned, however many they are. -/
theorem Aligned.foldl_append {m : Message} (h : m.Aligned) (pieces : List Bytes) :
    (pieces.foldl Message.append m).Aligned := by
  induction pieces generalizing m with
  | nil => exact h
  | cons piece pieces ih => exact ih (h.append piece)

/-- Pieces go behind the body, in order, and nothing else of the message changes. -/
theorem foldl_append_eq (pieces : List Bytes) (m : Message) :
    pieces.foldl Message.append m = { m with body := m.body ++ pieces.flatMap padded } := by
  induction pieces generalizing m with
  | nil => rw [List.foldl_nil, List.flatMap_nil, List.append_nil]
  | cons piece pieces ih =>
    rw [List.foldl_cons, ih, List.flatMap_cons]
    simp only [Message.append, List.append_assoc]

/-- **To pad the piece is to pad the whole so far:** the bytes of an aligned message grow
by the piece and by what brings all of them to a multiple of four. -/
theorem Aligned.bytes_append {m : Message} (h : m.Aligned) (data : Bytes) :
    (m.append data).bytes = padded (m.bytes ++ data) := by
  have length : (m.bytes ++ data).length = Envelope.Header.size + m.body.length + data.length := by
    rw [bytes, stamped, List.length_append, List.length_append, Envelope.Header.length_encode]
  have pad : padLength (m.bytes ++ data).length = padLength data.length := by
    unfold Aligned at h
    rw [length, Envelope.Header.size, padLength, padLength, roundUp, roundUp]
    omega
  rw [padded, pad]
  simp only [bytes, stamped, Message.append, padded, List.append_assoc]

/-- The envelope that a finished message is. -/
def envelope (m : Message) : Envelope :=
  ⟨⟨.ofNat (Envelope.Header.size + m.body.length), m.kind, m.flags, m.seq, m.port⟩, m.body⟩

/-- A finished message is a header and a body. -/
theorem length_finish (m : Message) : m.finish.length = Envelope.Header.size + m.body.length := by
  rw [finish, stamped, List.length_append, Envelope.Header.length_encode]

/-- The length field of a finished message holds its length, if that fits 32 bits. -/
theorem toNat_length_envelope {m : Message} (fits : m.finish.length < 2 ^ 32) :
    m.envelope.header.length.toNat = Envelope.Header.size + m.body.length := by
  have hmod : m.envelope.header.length.toNat =
      (Envelope.Header.size + m.body.length) % 2 ^ 32 := UInt32.toNat_ofNat'
  rw [length_finish] at fits
  rw [hmod, Nat.mod_eq_of_lt fits]

/-- A finished message as a frame, which needs no padding. -/
def frame (m : Message) (aligned : m.Aligned) (fits : m.finish.length < 2 ^ 32) : Frame where
  envelope := m.envelope
  pad := []
  complete := toNat_length_envelope fits
  aligned := by
    have whole : 4 ∣ Envelope.Header.size + m.body.length := Nat.dvd_add ⟨4, rfl⟩ aligned
    rw [toNat_length_envelope fits]
    exact ⟨by decide, whole⟩

/-- A finished message is a frame. -/
theorem bytes_frame (m : Message) (aligned : m.Aligned) (fits : m.finish.length < 2 ^ 32) :
    (m.frame aligned fits).bytes = m.finish := by
  rw [Frame.bytes, frame, List.append_nil]
  rfl

/-- **A finished message at the front gives its envelope,** and reading goes on right
behind it. -/
theorem split_finish_append {m : Message} (aligned : m.Aligned) (fits : m.finish.length < 2 ^ 32)
    (bs : Bytes) :
    Envelope.split (m.finish ++ bs) =
      (m.envelope :: (Envelope.split bs).1, (Envelope.split bs).2) := by
  rw [← m.bytes_frame aligned fits, Envelope.split_bytes_append]
  rfl

/-- **A row of finished messages is read back whole.** -/
theorem split_flatMap_finish (ms : List Message)
    (h : ∀ m ∈ ms, m.Aligned ∧ m.finish.length < 2 ^ 32) :
    Envelope.split (ms.flatMap finish) = (ms.map envelope, []) := by
  induction ms with
  | nil => exact Envelope.split_nil
  | cons m ms ih =>
    obtain ⟨aligned, fits⟩ := h m List.mem_cons_self
    rw [List.flatMap_cons, split_finish_append aligned fits, ih fun m' hm => h m' (.tail _ hm),
      List.map_cons]

end Message
end TcpCensus
