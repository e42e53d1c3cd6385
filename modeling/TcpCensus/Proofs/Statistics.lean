/-
# What a payload tells of the statistics

A kernel sends as much of the statistics block as it knows. The block that is read is the
first 248 bytes of the payload with zeros behind them (`InfoBlock.filled`), and each field
is an integer in a span of its own (`TcpInfo.fields`). The spans tile the block, so that the
statistics tell all of it and nothing else; and since zeros on top do not change an integer,
a field is also the integer that the payload itself has in the span, as far as that goes.

* `Bytes.toNatLE_cut_append_zeros`: zeros behind some bytes do not change an integer in them.
* `TcpInfo.entries_ofPayload`: each field is the integer that the block has in its span.
* `InfoBlock.ofPayload_eq_iff`: two blocks are equal where they are filled alike and as many
  bytes were reported.
* `TcpInfo.payload_field_by_field`: what all this says of payloads that end anywhere.
-/

import TcpCensus.Proofs.Fields
import TcpCensus.TcpInfo

namespace TcpCensus

namespace Span

/-- Bytes in which all integers in some tiling spans are the same are the same. -/
theorem take_eq_of_tile {spans : List Span} {n : Nat} (tile : Tile spans n) {bs bs' : Bytes}
    (length : bs.length = bs'.length)
    (h : ∀ s ∈ spans, Bytes.toNatLE (s.cut bs) = Bytes.toNatLE (s.cut bs')) :
    bs.take n = bs'.take n := by
  have cuts : ∀ s ∈ spans, s.cut bs = s.cut bs' := by
    intro s hs
    have width : (s.cut bs).length = (s.cut bs').length := by
      simp only [cut, Bytes.length_slice, length]
    rw [← Bytes.ofNatLE_toNatLE (s.cut bs), h s hs, width, Bytes.ofNatLE_toNatLE]
  rw [← flatMap_cut_of_tile tile, ← flatMap_cut_of_tile tile, List.flatMap_congr cuts]

end Span

/-! ### Zeros behind -/

namespace Bytes

/-- Zeros behind some bytes do not change the number that they make. -/
theorem toNatLE_append_zeros (bs : Bytes) (k : Nat) :
    toNatLE (bs ++ List.replicate k 0) = toNatLE bs := by
  induction bs with
  | nil =>
    induction k with
    | zero => rfl
    | succ k ih => simpa [List.replicate_succ, toNatLE] using ih
  | cons b bs ih => rw [List.cons_append, toNatLE, toNatLE, ih]

/-- **Zeros behind some bytes do not change an integer in them,** also where it reaches
beyond them. -/
theorem toNatLE_cut_append_zeros (s : Span) (bs : Bytes) (k : Nat) :
    toNatLE (s.cut (bs ++ List.replicate k 0)) = toNatLE (s.cut bs) := by
  simp only [Span.cut, slice, List.drop_append, List.take_append, List.drop_replicate,
    List.take_replicate, toNatLE_append_zeros]

end Bytes

/-! ### Blocks -/

namespace InfoBlock

/-- The first bytes of a payload with zeros behind them, a whole block of bytes. -/
def filled (p : Bytes) : Bytes := p.take size ++ List.replicate (size - p.length) 0

/-- Any payload fills a whole block. -/
theorem length_filled (p : Bytes) : (filled p).length = size := by
  rw [filled, List.length_append, List.length_take, List.length_replicate]
  omega

/-- The bytes of a block are those of its payload, filled up with zeros. -/
theorem octets_ofPayload (p : Bytes) : (ofPayload p).octets.bytes = filled p := by
  rw [octets, ofPayload, Octets.ofBytes_take le_rfl, Octets.bytes_ofBytes, filled]

/-- The length of a payload is kept up to the size of a block. -/
theorem reportedLength_ofPayload (p : Bytes) :
    (ofPayload p).reportedLength = min p.length size := by
  rw [reportedLength, ofPayload, List.length_take, Nat.min_comm]

/-- What was reported is the front of the block, so much as was reported. -/
theorem take_octets (b : InfoBlock) : b.octets.bytes.take b.reportedLength = b.payload :=
  Octets.take_length_ofBytes b.length_le

/-- What was not reported is zeros. -/
theorem drop_octets (b : InfoBlock) :
    b.octets.bytes.drop b.reportedLength = List.replicate (size - b.reportedLength) 0 := by
  have whole : b.payload.take size = b.payload := List.take_of_length_le b.length_le
  rw [octets, Octets.bytes_ofBytes, whole]
  exact List.drop_left

/-- **A block is its bytes and how many of them were reported.** -/
theorem eq_iff {b b' : InfoBlock} :
    b = b' ↔ b.octets = b'.octets ∧ b.reportedLength = b'.reportedLength := by
  constructor
  · rintro rfl
    exact ⟨rfl, rfl⟩
  · rintro ⟨octets, reported⟩
    have payload : b.payload = b'.payload := by
      rw [← take_octets b, ← take_octets b', octets, reported]
    cases b
    cases b'
    cases payload
    rfl

/-- Two payloads make the same block where they fill it alike and as much of it. -/
theorem ofPayload_eq_iff (p q : Bytes) :
    ofPayload p = ofPayload q ↔ filled p = filled q ∧ min p.length size = min q.length size := by
  have bytes : (ofPayload p).octets = (ofPayload q).octets ↔ filled p = filled q := by
    rw [← octets_ofPayload, ← octets_ofPayload, Octets.bytes_inj]
  rw [eq_iff, bytes, reportedLength_ofPayload, reportedLength_ofPayload]

/-- An integer within the block is the same in the payload. -/
theorem toNatLE_cut_filled {s : Span} (h : s.start + s.width ≤ size) (p : Bytes) :
    Bytes.toNatLE (s.cut (filled p)) = Bytes.toNatLE (s.cut p) := by
  rw [filled, Bytes.toNatLE_cut_append_zeros, Span.cut, Bytes.slice_take_of_le h, Span.cut]

end InfoBlock

/-! ### Words as numbers -/

namespace Bytes

variable (bs : Bytes) (o : Nat)

/-- The number in a slice is one that its bytes can hold. -/
theorem toNatLE_slice_lt (w : Nat) : toNatLE (slice bs o w) < 256 ^ w :=
  Nat.lt_of_lt_of_le (toNatLE_lt _)
    (Nat.pow_le_pow_right (by decide) (by rw [length_slice]; exact Nat.min_le_left _ _))

/-- A byte is the number in its slice. -/
theorem toNat_u8 : (u8 bs o).toNat = toNatLE (slice bs o 1) := by
  rw [u8, UInt8.toNat_ofNat']
  exact Nat.mod_eq_of_lt (toNatLE_slice_lt bs o 1)

/-- A word of two bytes is the number in its slice. -/
theorem toNat_u16 : (u16 bs o).toNat = toNatLE (slice bs o 2) := by
  rw [u16, UInt16.toNat_ofNat']
  exact Nat.mod_eq_of_lt (toNatLE_slice_lt bs o 2)

/-- A word of four bytes is the number in its slice. -/
theorem toNat_u32 : (u32 bs o).toNat = toNatLE (slice bs o 4) := by
  rw [u32, UInt32.toNat_ofNat']
  exact Nat.mod_eq_of_lt (toNatLE_slice_lt bs o 4)

/-- A word of eight bytes is the number in its slice. -/
theorem toNat_u64 : (u64 bs o).toNat = toNatLE (slice bs o 8) := by
  rw [u64, UInt64.toNat_ofNat']
  exact Nat.mod_eq_of_lt (toNatLE_slice_lt bs o 8)

end Bytes

namespace TcpInfo

/-! ### Fields of the statistics -/

/-- A field of the statistics: its span in the block, and its name. -/
structure Field extends Span where
  name : String

/-- The field with the integer that some bytes have in its span. -/
def Field.entry (f : Field) (bs : Bytes) : Entry := ⟨f.name, f.width, Bytes.toNatLE (f.cut bs)⟩

/-- The fields of some entries one behind the other, from an offset on. -/
def Field.row : Nat → List Entry → List Field
  | _, [] => []
  | start, e :: es => ⟨⟨start, e.width⟩, e.name⟩ :: Field.row (start + e.width) es

/-- The fields in their order. -/
def fields : List Field := Field.row 0 (read []).entries

/-- Fields one behind the other cover a stretch of offsets, each offset once. -/
theorem flatMap_offsets_row (start : Nat) (es : List Entry) :
    (Field.row start es).flatMap (·.offsets) =
      List.range' start (es.foldr (fun e n => e.width + n) 0) := by
  induction es generalizing start with
  | nil => rfl
  | cons e es ih =>
    rw [Field.row, List.flatMap_cons, ih, List.foldr_cons, Span.offsets, List.range'_append_1]

/-- **The fields tile the block.** -/
theorem tile_fields : Span.Tile (fields.map (·.toSpan)) InfoBlock.size := by
  rw [Span.Tile, List.flatMap_map, fields, flatMap_offsets_row, sum_width_entries,
    List.range_eq_range']

/-- Each field ends within the block. -/
theorem end_le_of_mem_fields {f : Field} (h : f ∈ fields) : f.start + f.width ≤ InfoBlock.size := by
  have all : ∀ s ∈ fields.map (·.toSpan), s.start + s.width ≤ InfoBlock.size := by decide
  exact all _ (List.mem_map_of_mem h)

/-- **Each field is the integer in its span.** -/
theorem entries_read (bs : Bytes) : (read bs).entries = fields.map (·.entry bs) := by
  -- the offsets that `read` has as numbers are the sums of the widths before them
  simp only [entries, read, fields, Field.entry, Field.row, Span.cut, List.map_cons,
    List.map_nil, Bytes.toNat_u8, Bytes.toNat_u16, Bytes.toNat_u32, Bytes.toNat_u64]

/-- The fields are all there is. -/
theorem entries_injective : Function.Injective entries := by
  intro t t' h
  cases t
  cases t'
  simpa [entries, UInt8.toNat_inj, UInt16.toNat_inj, UInt32.toNat_inj, UInt64.toNat_inj] using h

/-! ### Fields of a payload -/

section Payload

variable (p q : Bytes)

open InfoBlock

/-- A field of the filled block is the integer that the payload has in its span. -/
theorem entry_filled {f : Field} (h : f ∈ fields) : f.entry (filled p) = f.entry p := by
  rw [Field.entry, toNatLE_cut_filled (end_le_of_mem_fields h), Field.entry]

/-- What stands behind a field does not change it. -/
theorem entry_take {f : Field} {n : Nat} (h : f.start + f.width ≤ n) :
    f.entry (p.take n) = f.entry p := by
  rw [Field.entry, Span.cut, Bytes.slice_take_of_le h, Field.entry, Span.cut]

/-- **The statistics of a payload are those of the block it fills.** -/
theorem entries_ofPayload : (ofBlock (.ofPayload p)).entries = fields.map (·.entry (filled p)) := by
  rw [ofBlock, octets_ofPayload, entries_read]

/-- **Statistics are the same just where the blocks are.** -/
theorem ofBlock_ofPayload_eq_iff :
    ofBlock (.ofPayload p) = ofBlock (.ofPayload q) ↔ filled p = filled q := by
  rw [← entries_injective.eq_iff, entries_ofPayload, entries_ofPayload]
  constructor
  · intro h
    have length : (filled p).length = (filled q).length := by
      rw [length_filled, length_filled]
    -- equal integers in spans of one width are equal bytes, and the spans are all of the block
    have values : ∀ s ∈ fields.map (·.toSpan),
        Bytes.toNatLE (s.cut (filled p)) = Bytes.toNatLE (s.cut (filled q)) :=
      List.forall_mem_map.2 fun f hf => congrArg Entry.value (List.map_inj_left.1 h f hf)
    have taken := Span.take_eq_of_tile tile_fields length values
    rwa [List.take_of_length_le (length_filled p).le, List.take_of_length_le (length_filled q).le]
      at taken
  · intro h
    rw [h]

/-- What a field reads of a payload that ends in front of it, or in it. -/
structure Field.Degrades (f : Field) (p : Bytes) : Prop where
  /-- A field of which nothing is there reads as zero. -/
  missing : p.length ≤ f.start → (f.entry (filled p)).value = 0
  /-- A field that is cut is its low bytes that are there. -/
  cut : f.start ≤ p.length → p.length ≤ f.start + f.width →
    (f.entry (filled p)).value = Bytes.toNatLE (p.drop f.start)

/-- A field that the payload does not reach is zero, and one that it ends in is cut. -/
theorem degrades_of_mem_fields {f : Field} (h : f ∈ fields) : f.Degrades p where
  missing behind := by
    rw [entry_filled p h, Field.entry, Span.cut, Bytes.slice, List.drop_of_length_le behind,
      List.take_nil]
    rfl
  cut _ within := by
    have rest : (p.drop f.start).length ≤ f.width := by
      rw [List.length_drop]
      omega
    rw [entry_filled p h, Field.entry, Span.cut, Bytes.slice, List.take_of_length_le rest]

end Payload

open InfoBlock in
/-- What the statistics of a payload tell of it, and of how it differs from another. Its first
248 bytes, filled up with zeros, are `filled`. -/
structure Told (p q : Bytes) : Prop where
  /-- Each field is the integer in its span of the filled block. -/
  values : (ofBlock (.ofPayload p)).entries = fields.map (·.entry (filled p))
  degrades : ∀ f ∈ fields, f.Degrades p
  /-- A field in front of a place up to which the payloads agree is the same of both. -/
  agree : ∀ n, p.take n = q.take n → ∀ f ∈ fields, f.start + f.width ≤ n →
    f.entry (filled p) = f.entry (filled q)
  /-- Nothing of the block is lost and nothing else is seen. -/
  statistics : ofBlock (.ofPayload p) = ofBlock (.ofPayload q) ↔ filled p = filled q
  /-- The blocks tell, besides, how much was reported. -/
  block : ofPayload p = ofPayload q ↔
    filled p = filled q ∧ min p.length size = min q.length size

/-- **The statistics of a payload, field by field.** Its first 248 bytes, filled up with
zeros, are tiled by the fields, and each field is the integer in its span. So a field behind
the end of the payload is zero, one that the end cuts is its low bytes, and one in front of a
place up to which two payloads agree is the same of both. Nothing of the block is lost and
nothing else is seen: statistics are the same just where the blocks are filled alike, and the
blocks themselves where also as much of them was reported. -/
theorem payload_field_by_field :
    Span.Tile (fields.map (·.toSpan)) InfoBlock.size ∧ Function.Injective entries ∧
      ∀ p q : Bytes, Told p q := by
  refine ⟨tile_fields, entries_injective, fun p q => ?_⟩
  constructor
  case values => exact entries_ofPayload p
  case degrades => exact fun f hf => degrades_of_mem_fields p hf
  case statistics => exact ofBlock_ofPayload_eq_iff p q
  case block => exact InfoBlock.ofPayload_eq_iff p q
  case agree =>
    intro n agree f hf within
    calc f.entry (InfoBlock.filled p)
        = f.entry (p.take n) := by rw [entry_filled p hf, entry_take p within]
      _ = f.entry (q.take n) := by rw [agree]
      _ = f.entry (InfoBlock.filled q) := by rw [entry_filled q hf, entry_take q within]

/-- The hypotheses of `payload_field_by_field` can be met. A payload of 102 bytes cuts the
number of retransmissions, which is at bytes 100 to 103. -/
theorem payload_field_by_field_cut :
    let p : Bytes := List.replicate 102 7
    let q : Bytes := List.replicate 102 7 ++ [1]
    let total : Field := ⟨⟨100, 4⟩, "total_retrans"⟩
    let rate : Field := ⟨⟨104, 8⟩, "pacing_rate"⟩
    let space : Field := ⟨⟨96, 4⟩, "rcv_space"⟩
    p.take 102 = q.take 102 ∧ total ∈ fields ∧ rate ∈ fields ∧ space ∈ fields ∧
      (total.entry (InfoBlock.filled p)).value = 7 + 256 * 7 ∧
      (rate.entry (InfoBlock.filled p)).value = 0 ∧
      space.entry (InfoBlock.filled p) = space.entry (InfoBlock.filled q) := by
  intro p q total rate space
  have told : Told p q := payload_field_by_field.2.2 p q
  have front : p.take 102 = q.take 102 := by decide
  have htotal : total ∈ fields := List.mem_of_getElem? (i := 31) rfl
  have hrate : rate ∈ fields := List.mem_of_getElem? (i := 32) rfl
  have hspace : space ∈ fields := List.mem_of_getElem? (i := 30) rfl
  exact ⟨front, htotal, hrate, hspace, (told.degrades total htotal).cut (by decide) (by decide),
    (told.degrades rate hrate).missing (by decide), told.agree 102 front space hspace (by decide)⟩

end TcpInfo
end TcpCensus
