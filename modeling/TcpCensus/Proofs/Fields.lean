/-
# Records field by field

A record of fixed layout is a row of fields, each in a span of bytes of its own. The spans
lie one behind the other and fill the record (`Span.Tile`), so that there is no padding, and
no byte that two fields share. Writing a record puts the bytes of each field into its span,
and reading takes them from there; so writing and reading undo each other.

An integer stands in its span least significant byte first (`RecordField.little`), the two ports
of a socket the other way round (`RecordField.big`), and an address as it is
(`RecordField.octets`). A record in a record has its fields so much further back
(`RecordField.within`).

* `Span.flatMap_cut_of_tile`: what stands in tiling spans, put together, is the bytes that
  they fill.
* `Layout.exact_of_fields`: a layout whose fields are written and found in their spans is
  exact.
* `Layout.decodes_of_exact`: the reader that tests the length accepts just the records with
  something behind them.
* `Layout.records_exact`: the six records of the wire.
-/

import TcpCensus.Proofs.Layout

namespace TcpCensus

/-! ### Spans -/

/-- So many bytes in a row, from an offset on. -/
structure Span where
  start : Nat
  width : Nat
  deriving DecidableEq

namespace Span

variable {spans : List Span} {n : Nat}

/-- The bytes that stand in a span. -/
def cut (s : Span) (bs : Bytes) : Bytes := Bytes.slice bs s.start s.width

/-- The offsets in a span. -/
def offsets (s : Span) : List Nat := List.range' s.start s.width

/-- The spans fill the first `n` offsets in order: none is left out, and none is in two. -/
def Tile (spans : List Span) (n : Nat) : Prop := spans.flatMap offsets = List.range n

instance (spans : List Span) (n : Nat) : Decidable (Tile spans n) := by
  unfold Tile
  infer_instance

/-- The bytes in a span are those at its offsets, as far as there are any. -/
theorem cut_eq_filterMap (s : Span) (bs : Bytes) : s.cut bs = s.offsets.filterMap (bs[·]?) := by
  obtain ⟨start, width⟩ := s
  simp only [cut, offsets, Bytes.slice]
  induction width with
  | zero => rfl
  | succ width ih =>
    rw [List.range'_concat, List.filterMap_append, ← ih, List.take_add_one, List.getElem?_drop,
      Nat.one_mul]
    cases byte : bs[start + width]? <;> simp [byte]

/-- **What stands in tiling spans is what they fill.** -/
theorem flatMap_cut_of_tile (tile : Tile spans n) (bs : Bytes) :
    spans.flatMap (·.cut bs) = bs.take n := by
  have whole := cut_eq_filterMap ⟨0, n⟩ bs
  calc spans.flatMap (·.cut bs)
      = (spans.flatMap offsets).filterMap (bs[·]?) := by
        rw [List.filterMap_flatMap]
        exact congrArg spans.flatMap (funext fun s => s.cut_eq_filterMap bs)
    _ = (List.range n).filterMap (bs[·]?) := by rw [tile]
    _ = bs.take n := by
        rw [List.range_eq_range']
        exact whole.symm

end Span

/-! ### Fields -/

/-- A field of a record: its span, and the bytes that stand there. -/
structure RecordField (α : Type) extends Span where
  bytes : α → Bytes
  length_bytes : ∀ r, (bytes r).length = width

namespace RecordField

variable {α β : Type}

/-- An integer, least significant byte first. -/
def little (start width : Nat) (value : α → Nat) : RecordField α where
  start
  width
  bytes r := Bytes.ofNatLE width (value r)
  length_bytes _ := Bytes.length_ofNatLE width _

/-- An integer, most significant byte first. -/
def big (start width : Nat) (value : α → Nat) : RecordField α where
  start
  width
  bytes r := (Bytes.ofNatLE width (value r)).reverse
  length_bytes r := by rw [List.length_reverse, Bytes.length_ofNatLE]

/-- Bytes that stand as they are. -/
def octets {n : Nat} (start : Nat) (value : α → Octets n) : RecordField α where
  start
  width := n
  bytes r := (value r).bytes
  length_bytes r := (value r).length_eq

/-- A field of a part that begins `o` bytes behind the front. -/
def within (o : Nat) (part : β → α) (f : RecordField α) : RecordField β where
  start := o + f.start
  width := f.width
  bytes r := f.bytes (part r)
  length_bytes r := f.length_bytes (part r)

end RecordField

/-! ### Layouts -/

/-- How a record of fixed layout is written and read, and its fields in order. -/
structure Layout (α : Type) where
  size : Nat
  encode : α → Bytes
  read : Bytes → α
  fields : List (RecordField α)
  length_encode : ∀ r, (encode r).length = size

namespace Layout

variable {α : Type} {l : Layout α}

/-- Writing and reading undo each other, field by field and without a byte that is not
accounted for. -/
structure Exact (l : Layout α) : Prop where
  /-- The fields fill the record. -/
  tile : Span.Tile (l.fields.map (·.toSpan)) l.size
  /-- A record is read back, whatever stands behind it. -/
  read_append : ∀ r tail, l.read (l.encode r ++ tail) = r
  /-- What is read from bytes that suffice is written as it was. -/
  encode_read : ∀ bs : Bytes, l.size ≤ bs.length → l.encode (l.read bs) = bs.take l.size
  /-- Each field is written into its span. -/
  written : ∀ f ∈ l.fields, ∀ r, f.cut (l.encode r) = f.bytes r
  /-- Each field is read from the span it is written into. -/
  found : ∀ f ∈ l.fields, ∀ bs : Bytes, l.size ≤ bs.length → f.bytes (l.read bs) = f.cut bs

/-- A reader that can fail takes the records with something behind them, and nothing else;
where bytes are missing it says how many there should be and how many there are. -/
structure DecodedBy (l : Layout α) (decode : Bytes → Except Error α) : Prop where
  ok_iff : ∀ bs r, decode bs = .ok r ↔ ∃ tail, bs = l.encode r ++ tail
  error_iff : ∀ bs e, decode bs = .error e ↔
    bs.length < l.size ∧ e = .truncated l.size bs.length

/-- What stands in the spans of all fields is the whole record. -/
theorem flatMap_cut_fields (tile : Span.Tile (l.fields.map (·.toSpan)) l.size) (bs : Bytes) :
    l.fields.flatMap (·.cut bs) = bs.take l.size := by
  rw [← Span.flatMap_cut_of_tile tile, List.flatMap_map]

/-- **A layout whose fields are written and found in their spans is exact.** -/
theorem exact_of_fields (tile : Span.Tile (l.fields.map (·.toSpan)) l.size)
    (encode_eq : ∀ r, l.encode r = l.fields.flatMap (·.bytes r))
    (read_append : ∀ r tail, l.read (l.encode r ++ tail) = r)
    (found : ∀ bs : Bytes, l.size ≤ bs.length → ∀ f ∈ l.fields,
      f.bytes (l.read bs) = f.cut bs) :
    l.Exact where
  tile
  read_append
  encode_read bs h := by
    calc l.encode (l.read bs)
        = l.fields.flatMap (·.cut bs) := by
          rw [encode_eq]
          exact List.flatMap_congr (found bs h)
      _ = bs.take l.size := flatMap_cut_fields tile bs
  written f hf r := by
    -- the record as written is bytes to read from, and it reads as itself
    have back : l.read (l.encode r) = r := by
      rw [← List.append_nil (l.encode r), read_append]
    have h := found (l.encode r) (Nat.le_of_eq (l.length_encode r).symm) f hf
    rw [← h, back]
  found f hf bs h := found bs h f hf

/-- The fields of a record that is a part of another are written there one after the other. -/
theorem Exact.flatMap_within {β : Type} (exact : l.Exact) (o : Nat) (part : β → α) (r : β) :
    (l.fields.map (RecordField.within o part)).flatMap (·.bytes r) = l.encode (part r) := by
  calc (l.fields.map (RecordField.within o part)).flatMap (·.bytes r)
      = l.fields.flatMap (·.bytes (part r)) := List.flatMap_map ..
    _ = l.fields.flatMap (·.cut (l.encode (part r))) :=
        List.flatMap_congr fun f hf => (exact.written f hf (part r)).symm
    _ = l.encode (part r) := by
        rw [flatMap_cut_fields exact.tile, List.take_of_length_le]
        exact Nat.le_of_eq (l.length_encode _)

/-- The fields of a record that is a part of another are found in their spans there. -/
theorem Exact.found_within {β : Type} (exact : l.Exact) {o : Nat} (part : β → α)
    (read : Bytes → β) {bs : Bytes} (part_read : part (read bs) = l.read (bs.drop o))
    (h : o + l.size ≤ bs.length) :
    ∀ f ∈ l.fields.map (RecordField.within o part), f.bytes (read bs) = f.cut bs := by
  have rest : l.size ≤ (bs.drop o).length := by
    rw [List.length_drop]
    omega
  rw [List.forall_mem_map]
  intro f hf
  calc f.bytes (part (read bs))
      = f.cut (bs.drop o) := by rw [part_read, exact.found f hf _ rest]
    _ = Bytes.slice bs (o + f.start) f.width := by
        rw [Span.cut, Bytes.slice, Bytes.slice, List.drop_drop]

/-- **The reader that tests the length** takes just the records with something behind them. -/
theorem decodes_of_exact (exact : l.Exact) {decode : Bytes → Except Error α}
    (decode_eq : ∀ bs, decode bs =
      if Bytes.covers bs l.size then .ok (l.read bs) else .error (.truncated l.size bs.length)) :
    l.DecodedBy decode where
  ok_iff bs r := by
    rw [decode_eq]
    constructor
    · intro h
      split at h
      · rename_i covers
        cases h
        refine ⟨bs.drop l.size, ?_⟩
        rw [exact.encode_read bs (Bytes.covers_iff.1 covers), List.take_append_drop]
      · cases h
    · rintro ⟨tail, rfl⟩
      have covers : Bytes.covers (l.encode r ++ tail) l.size = true := by
        rw [Bytes.covers_iff, List.length_append, l.length_encode]
        exact Nat.le_add_right _ _
      rw [if_pos covers, exact.read_append]
  error_iff bs e := by
    rw [decode_eq, ← Nat.not_le, ← Bytes.covers_iff]
    split
    · rename_i covers
      exact ⟨nofun, fun h => absurd covers h.1⟩
    · rename_i short
      exact ⟨fun h => ⟨short, (Except.error.inj h).symm⟩, fun h => congrArg _ h.2.symm⟩

end Layout

/-! ### Words in their spans -/

namespace Bytes

variable {bs : Bytes} {o : Nat}

/-- A byte is an integer of one byte. -/
theorem ofNatLE_one_toNat (b : UInt8) : ofNatLE 1 b.toNat = [b] := by
  simp [ofNatLE]

/-- A byte that is read at an offset is written as it stands there. -/
theorem ofNatLE_u8 (h : o + 1 ≤ bs.length) : ofNatLE 1 (u8 bs o).toNat = slice bs o 1 := by
  have length : (slice bs o 1).length = 1 := by rw [length_slice]; omega
  rw [u8, UInt8.toNat_ofNat', ofNatLE_toNatLE_of_length length (by decide)]

/-- A word that is read most significant byte first is written as it stands there. -/
theorem ofU16BE_u16BE (h : o + 2 ≤ bs.length) : ofU16BE (u16BE bs o) = slice bs o 2 := by
  have length : (slice bs o 2).reverse.length = 2 := by
    rw [List.length_reverse, length_slice]
    omega
  rw [ofU16BE, u16BE, UInt16.toNat_ofNat', ofNatLE_toNatLE_of_length length (by decide),
    List.reverse_reverse]

example : ofU16BE 8080 = [0x1f, 0x90] ∧ ofU16 8080 = [0x90, 0x1f] := by decide

/-- Bytes that are all there are read as they stand. -/
theorem bytes_ofBytes_drop {n : Nat} (h : o + n ≤ bs.length) :
    (Octets.ofBytes n (bs.drop o)).bytes = slice bs o n :=
  Octets.bytes_ofBytes_of_le (by rw [List.length_drop]; omega)

end Bytes

/-! ### The records -/

open RecordField

/-- The fields of the header of an attribute. -/
def Attribute.Header.layout : Layout Attribute.Header where
  size
  encode
  read
  fields := [little 0 2 (·.length.toNat), little 2 2 (·.type.toNat)]
  length_encode

/-- The fields of the header of an envelope. -/
def Envelope.Header.layout : Layout Envelope.Header where
  size
  encode
  read
  fields := [little 0 4 (·.length.toNat), little 4 2 (·.kind.toNat), little 6 2 (·.flags.toNat),
    little 8 4 (·.seq.toNat), little 12 4 (·.port.toNat)]
  length_encode

/-- The fields of the record in an error envelope. The code is in two's complement. -/
def Acknowledgement.layout : Layout Acknowledgement where
  size
  encode
  read
  fields := little 0 4 (·.code.toUInt32.toNat) ::
    Envelope.Header.layout.fields.map (within 4 (·.request))
  length_encode

/-- The fields of the identity of a socket. -/
def SocketId.layout : Layout SocketId where
  size
  encode
  read
  fields := [big 0 2 (·.sourcePort.toNat), big 2 2 (·.targetPort.toNat), octets 4 (·.source),
    octets 20 (·.target), little 36 4 (·.interface.toNat), little 40 4 (·.cookieLow.toNat),
    little 44 4 (·.cookieHigh.toNat)]
  length_encode

/-- The fields of the request for a dump. -/
def DumpRequest.layout : Layout DumpRequest where
  size
  encode
  read
  fields := [little 0 1 (·.family.toNat), little 1 1 (·.protocol.toNat),
    little 2 1 (·.extensions.toNat), little 3 1 (·.pad.toNat), little 4 4 (·.states.toNat)] ++
    SocketId.layout.fields.map (within 8 (·.id))
  length_encode

/-- The fields of the record of a socket. -/
def DiagRecord.layout : Layout DiagRecord where
  size
  encode
  read
  fields := [little 0 1 (·.family.toNat), little 1 1 (·.state.toNat), little 2 1 (·.timer.toNat),
    little 3 1 (·.retransmits.toNat)] ++ SocketId.layout.fields.map (within 4 (·.id)) ++
    [little 52 4 (·.expires.toNat), little 56 4 (·.receiveQueue.toNat),
      little 60 4 (·.sendQueue.toNat), little 64 4 (·.uid.toNat), little 68 4 (·.inode.toNat)]
  length_encode

section Exact

open Bytes

/-- The header of an attribute is two words, the length and the type. -/
theorem Attribute.Header.exact_layout : layout.Exact := by
  refine Layout.exact_of_fields (by decide) (fun r => ?_) read_encode_append fun bs h => ?_
  · simp [layout, encode, little, ofU16]
  · have bound : 4 ≤ bs.length := h
    simp only [layout, List.forall_mem_cons]
    exact ⟨ofU16_u16 (by omega), ofU16_u16 (by omega), List.forall_mem_nil _⟩

/-- The header of an envelope begins with its length and ends with the port. -/
theorem Envelope.Header.exact_layout : layout.Exact := by
  refine Layout.exact_of_fields (by decide) (fun r => ?_) read_encode_append fun bs h => ?_
  · simp [layout, encode, little, ofU16, ofU32]
  · have bound : 16 ≤ bs.length := h
    simp only [layout, List.forall_mem_cons]
    exact ⟨ofU32_u32 (by omega), ofU16_u16 (by omega), ofU16_u16 (by omega),
      ofU32_u32 (by omega), ofU32_u32 (by omega), List.forall_mem_nil _⟩

/-- The ports of an identity are the only integers most significant byte first. -/
theorem SocketId.exact_layout : layout.Exact := by
  refine Layout.exact_of_fields (by decide) (fun r => ?_) read_encode_append fun bs h => ?_
  · simp [layout, encode, little, big, octets, ofU16BE, ofU32]
  · have bound : 48 ≤ bs.length := h
    simp only [layout, List.forall_mem_cons]
    exact ⟨ofU16BE_u16BE (by omega), ofU16BE_u16BE (by omega), bytes_ofBytes_drop (by omega),
      bytes_ofBytes_drop (by omega), ofU32_u32 (by omega), ofU32_u32 (by omega),
      ofU32_u32 (by omega), List.forall_mem_nil _⟩

/-- An acknowledgement is a code with a header behind it. -/
theorem Acknowledgement.exact_layout : layout.Exact := by
  have inner := Envelope.Header.exact_layout
  refine Layout.exact_of_fields (by decide) (fun r => ?_) read_encode_append fun bs h => ?_
  · rw [layout, List.flatMap_cons, inner.flatMap_within]
    rfl
  · have bound : 20 ≤ bs.length := h
    have request := inner.found_within (·.request) read rfl bound
    exact List.forall_mem_cons.2 ⟨ofU32_u32 (by omega), request⟩

/-- A request ends with the fields of an identity. -/
theorem DumpRequest.exact_layout : layout.Exact := by
  have inner := SocketId.exact_layout
  refine Layout.exact_of_fields (by decide) (fun r => ?_) read_encode_append fun bs h => ?_
  · have part : SocketId.layout.encode r.id = r.id.encode := rfl
    simp [layout, encode, little, ofNatLE_one_toNat, inner.flatMap_within, part, ofU32]
  · have bound : 56 ≤ bs.length := h
    have id := inner.found_within (·.id) read rfl bound
    refine List.forall_mem_append.2 ⟨?_, id⟩
    simp only [List.forall_mem_cons]
    exact ⟨ofNatLE_u8 (by omega), ofNatLE_u8 (by omega), ofNatLE_u8 (by omega),
      ofNatLE_u8 (by omega), ofU32_u32 (by omega), List.forall_mem_nil _⟩

/-- A record has the fields of an identity among its own. -/
theorem DiagRecord.exact_layout : layout.Exact := by
  have inner := SocketId.exact_layout
  refine Layout.exact_of_fields (by decide) (fun r => ?_) read_encode_append fun bs h => ?_
  · have part : SocketId.layout.encode r.id = r.id.encode := rfl
    simp [layout, encode, little, ofNatLE_one_toNat, inner.flatMap_within, part, ofU32]
  · have bound : 72 ≤ bs.length := h
    have within : 4 + SocketId.layout.size ≤ bs.length := Nat.le_trans (by decide) bound
    have id := inner.found_within (·.id) read rfl within
    -- the identity of the socket has fields of the record in front of it and behind it
    refine List.forall_mem_append.2 ⟨List.forall_mem_append.2 ⟨?_, id⟩, ?_⟩
    · simp only [List.forall_mem_cons]
      exact ⟨ofNatLE_u8 (by omega), ofNatLE_u8 (by omega), ofNatLE_u8 (by omega),
        ofNatLE_u8 (by omega), List.forall_mem_nil _⟩
    · simp only [List.forall_mem_cons]
      exact ⟨ofU32_u32 (by omega), ofU32_u32 (by omega), ofU32_u32 (by omega),
        ofU32_u32 (by omega), ofU32_u32 (by omega), List.forall_mem_nil _⟩

end Exact

/-- **The records of the wire are read as they are written, and written as they are read.**
Of each, the fields fill its bytes, and every field is written into the span it is read from:
a port most significant byte first, all other integers least significant byte first. Where a
record is read behind a test, the test fails just where bytes are missing. -/
theorem Layout.records_exact :
    Attribute.Header.layout.Exact ∧ Envelope.Header.layout.Exact ∧
      Acknowledgement.layout.Exact ∧ SocketId.layout.Exact ∧ DumpRequest.layout.Exact ∧
      DiagRecord.layout.Exact ∧
      Attribute.Header.layout.DecodedBy Attribute.Header.decode ∧
      Envelope.Header.layout.DecodedBy Envelope.Header.decode ∧
      Acknowledgement.layout.DecodedBy Acknowledgement.decode ∧
      DiagRecord.layout.DecodedBy DiagRecord.decode :=
  ⟨Attribute.Header.exact_layout, Envelope.Header.exact_layout, Acknowledgement.exact_layout,
    SocketId.exact_layout, DumpRequest.exact_layout, DiagRecord.exact_layout,
    decodes_of_exact Attribute.Header.exact_layout fun _ => rfl,
    decodes_of_exact Envelope.Header.exact_layout fun _ => rfl,
    decodes_of_exact Acknowledgement.exact_layout fun _ => rfl,
    decodes_of_exact DiagRecord.exact_layout fun _ => rfl⟩

end TcpCensus
