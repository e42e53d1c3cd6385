/-
# Rows of items

A datagram is a row of envelopes and a payload is a row of attributes. The two are
rows of one kind: an item is a header of fixed size that tells how long the item is,
the data that length counts, and padding that brings the item to a multiple of four
bytes. A `Framing` is what such a header is; a `Framing.Part` is an item where it stands.

A row is said in two ways. `Framing.Row` says of some bytes that they are these parts
and this rest: every part is whole, only the last may lack some of its padding, because
the bytes end there, and no whole item stands at the front of the rest. `Framing.parts`
reads the parts from the front.

* `parts_eq_iff`: the reader accepts exactly the rows, so bytes are a row in one way and
  no other (`existsUnique_row`).
* `Reads.next?_bytes_append`, `Reads.next?_of_blocked`: what a function that finds the part
  at the front gives.
* `map_item_parts_take`: of bytes that are cut short the reader gives a first part of the
  items.
-/

import TcpCensus.Alignment
import TcpCensus.Proofs.Layout

namespace TcpCensus

/-- Padding of so many bytes brings an item of `n` bytes to a multiple of four, and none of
it is more than that takes. -/
structure Aligns (pad n : Nat) : Prop where
  short : pad < 4
  dvd : 4 ∣ n + pad

/-- **There is one length that padding can have,** and it is the one that readers skip. -/
theorem aligns_iff {pad n : Nat} : Aligns pad n ↔ pad = padLength n := by
  have whole := add_padLength n
  have least := roundUp_lt n
  have aligned := four_dvd_roundUp n
  constructor
  · rintro ⟨short, dvd⟩
    omega
  · rintro rfl
    exact ⟨by omega, by omega⟩

/-- How the items of a row are framed: a header of fixed size, with the length of the
item in it. -/
structure Framing (H : Type) where
  /-- The size of a header. -/
  size : Nat
  encode : H → Bytes
  read : Bytes → H
  /-- The length of the item, header included and padding not. -/
  length : H → Nat
  size_pos : 0 < size
  length_encode : ∀ h, (encode h).length = size
  read_encode_append : ∀ h bs, read (encode h ++ bs) = h
  encode_read : ∀ {bs}, size ≤ bs.length → encode (read bs) = bs.take size

/-- An item where it stands in a row. -/
structure Framing.Part (H : Type) where
  header : H
  data : Bytes
  /-- The bytes up to the next item, whatever they are. -/
  pad : Bytes

namespace Framing

variable {H : Type} (F : Framing H)

/-- The item without its padding. -/
def Part.item (p : Part H) : H × Bytes := (p.header, p.data)

/-- The bytes of a part. -/
def bytes (p : Part H) : Bytes := F.encode p.header ++ (p.data ++ p.pad)

/-! ### What a row is -/

/-- No whole item stands at the front: there is no whole header, or the length in it is
less than the header's or more than what is there. -/
def Blocked (bs : Bytes) : Prop :=
  bs.length < F.size ∨ F.length (F.read bs) < F.size ∨ bs.length < F.length (F.read bs)

/-- The length in the header of a part counts the header and the data. -/
def Complete (p : Part H) : Prop := F.length p.header = F.size + p.data.length

/-- The padding of a part, with as many bytes as it lacks, brings the part to a multiple of
four. It lacks none unless nothing is behind it. -/
def Padded (p : Part H) (behind : Bytes) : Prop :=
  ∃ lacking, Aligns (p.pad.length + lacking) (F.length p.header) ∧ (lacking = 0 ∨ behind = [])

/-- **Bytes are a row:** some parts, each whole and padded, and a rest at whose front no
whole item stands. -/
inductive Row : Bytes → List (Part H) → Bytes → Prop
  | rest {bs : Bytes} (blocked : F.Blocked bs) : Row bs [] bs
  | part {p : Part H} {bs : Bytes} {ps : List (Part H)} {rest : Bytes} (complete : F.Complete p)
    (padded : F.Padded p bs) (row : Row bs ps rest) : Row (F.bytes p ++ bs) (p :: ps) rest

/-! ### Reading a row -/

/-- Whether a whole item stands at the front. -/
def Fits (bs : Bytes) : Prop :=
  F.size ≤ bs.length ∧ F.size ≤ F.length (F.read bs) ∧ F.length (F.read bs) ≤ bs.length

instance (bs : Bytes) : Decidable (F.Fits bs) := by unfold Fits; infer_instance

/-- The part at the front, taken for whole. -/
def front (bs : Bytes) : Part H where
  header := F.read bs
  data := Bytes.slice bs F.size (F.length (F.read bs) - F.size)
  pad := Bytes.slice bs (F.length (F.read bs)) (padLength (F.length (F.read bs)))

/-- What follows the part at the front. -/
def behind (bs : Bytes) : Bytes := bs.drop (roundUp (F.length (F.read bs)))

/-- A part that is read takes bytes away, so reading ends. -/
theorem length_behind_lt {bs : Bytes} (h : F.Fits bs) : (F.behind bs).length < bs.length := by
  obtain ⟨hsize, hmin, _⟩ := h
  have hpos := F.size_pos
  have hup := le_roundUp (F.length (F.read bs))
  rw [behind, List.length_drop]
  omega

/-- The parts of some bytes in order, and what is left over. -/
def parts (bs : Bytes) : List (Part H) × Bytes :=
  if h : F.Fits bs then
    have := F.length_behind_lt h
    (F.front bs :: (parts (F.behind bs)).1, (parts (F.behind bs)).2)
  else ([], bs)
termination_by bs.length

variable {F} {p : Part H} {ps : List (Part H)} {bs rest : Bytes}

/-- Where a whole item stands, it is read, and then what is behind it. -/
theorem parts_of_fits (h : F.Fits bs) :
    F.parts bs = (F.front bs :: (F.parts (F.behind bs)).1, (F.parts (F.behind bs)).2) := by
  rw [parts, dif_pos h]

/-- Where no whole item stands, all that is there is left over. -/
theorem parts_of_not_fits (h : ¬ F.Fits bs) : F.parts bs = ([], bs) := by
  rw [parts, dif_neg h]

/-- Bytes are blocked just where no whole item stands at their front. -/
theorem blocked_iff_not_fits : F.Blocked bs ↔ ¬ F.Fits bs := by
  unfold Blocked Fits
  omega

/-- Padding that lacks nothing may have anything behind it. -/
theorem padded_of_aligns (h : Aligns p.pad.length (F.length p.header)) (bs : Bytes) :
    F.Padded p bs :=
  ⟨0, h, .inl rfl⟩

/-- The padding of a part is whole, or it is cut short and nothing is behind it. -/
theorem padded_iff : F.Padded p bs ↔
    p.pad.length = padLength (F.length p.header) ∨
      p.pad.length < padLength (F.length p.header) ∧ bs = [] := by
  unfold Padded
  simp only [aligns_iff]
  constructor
  · rintro ⟨lacking, whole, rfl | rfl⟩
    · exact .inl whole
    · simp only [and_true]
      omega
  · rintro (whole | ⟨short, rfl⟩)
    · exact ⟨0, whole, .inl rfl⟩
    · exact ⟨padLength (F.length p.header) - p.pad.length, by omega, .inr rfl⟩

/-! ### Whole parts are read -/

/-- Header and data of a complete part are as long as its header says. -/
theorem length_header_data (complete : F.Complete p) :
    (F.encode p.header ++ p.data).length = F.length p.header := by
  rw [List.length_append, F.length_encode, complete]

/-- Padding of a part goes over into what is behind it. -/
theorem bytes_append_eq (p : Part H) (bs : Bytes) :
    F.bytes p ++ bs = (F.encode p.header ++ p.data) ++ (p.pad ++ bs) := by
  simp only [bytes, List.append_assoc]

/-- The header of a part is read, whatever is behind the part. -/
theorem read_bytes_append (p : Part H) (bs : Bytes) : F.read (F.bytes p ++ bs) = p.header := by
  rw [bytes, List.append_assoc, F.read_encode_append]

/-- A complete part at the front is a whole item, whatever is behind it. -/
theorem fits_bytes_append (complete : F.Complete p) (bs : Bytes) : F.Fits (F.bytes p ++ bs) := by
  have hlen := length_header_data complete
  have hdata : F.size ≤ F.length p.header := by rw [complete]; omega
  unfold Fits
  rw [read_bytes_append, bytes_append_eq, List.length_append, hlen]
  omega

/-- **A part at the front is read whole,** its padding too. -/
theorem front_bytes_append (complete : F.Complete p) (padded : F.Padded p bs) :
    F.front (F.bytes p ++ bs) = p := by
  have hdata : Bytes.slice (F.bytes p ++ bs) F.size (F.length p.header - F.size) = p.data := by
    rw [bytes, List.append_assoc, List.append_assoc,
      Bytes.slice_append_of_le (Nat.le_of_eq (F.length_encode _)), F.length_encode, Nat.sub_self,
      complete, Nat.add_sub_cancel_left, Bytes.slice_append_of_length rfl]
  have hpad : Bytes.slice (F.bytes p ++ bs) (F.length p.header) (padLength (F.length p.header)) =
      p.pad := by
    rw [bytes_append_eq, Bytes.slice_append_of_le (Nat.le_of_eq (length_header_data complete)),
      length_header_data complete, Nat.sub_self]
    rcases padded_iff.1 padded with whole | ⟨short, rfl⟩
    · exact Bytes.slice_append_of_length whole
    · rw [List.append_nil, Bytes.slice, List.drop_zero, List.take_of_length_le (Nat.le_of_lt short)]
  rw [front, read_bytes_append, hdata, hpad]

/-- **Reading goes on right behind a part,** or ends with it where its padding is cut. -/
theorem behind_bytes_append (complete : F.Complete p) (padded : F.Padded p bs) :
    F.behind (F.bytes p ++ bs) = bs := by
  rw [behind, read_bytes_append, bytes_append_eq, ← add_padLength, ← List.drop_drop,
    ← length_header_data complete, List.drop_left, length_header_data complete]
  rcases padded_iff.1 padded with whole | ⟨short, rfl⟩
  · rw [← whole, List.drop_left]
  · rw [List.append_nil, List.drop_of_length_le (Nat.le_of_lt short)]

/-! ### What is read is a row -/

/-- The part at the front and what follows it are all there is. -/
theorem bytes_front_append (h : F.Fits bs) : F.bytes (F.front bs) ++ F.behind bs = bs := by
  obtain ⟨hsize, hmin, -⟩ := h
  have whole : F.size + (F.length (F.read bs) - F.size) = F.length (F.read bs) := by omega
  rw [bytes_append_eq, front, F.encode_read hsize, Bytes.take_append_slice, whole,
    ← List.append_assoc, Bytes.take_append_slice, add_padLength, behind, List.take_append_drop]

/-- The part that is read has all the data that its header counts. -/
theorem complete_front (h : F.Fits bs) : F.Complete (F.front bs) := by
  obtain ⟨-, hmin, hmax⟩ := h
  simp only [Complete, front, Bytes.length_slice]
  omega

/-- The part that is read has all of its padding, or ends where the bytes end. -/
theorem padded_front (h : F.Fits bs) : F.Padded (F.front bs) (F.behind bs) := by
  obtain ⟨-, -, hmax⟩ := h
  have padding := add_padLength (F.length (F.read bs))
  simp only [padded_iff, front, behind, Bytes.length_slice, List.drop_eq_nil_iff]
  omega

/-- **What is read is a row,** of any bytes. -/
theorem row_parts (F : Framing H) (bs : Bytes) : F.Row bs (F.parts bs).1 (F.parts bs).2 := by
  fun_induction parts F bs with
  | case1 bs fits _ ih =>
    have row := Row.part (complete_front fits) (padded_front fits) ih
    rwa [bytes_front_append fits] at row
  | case2 bs unfit => exact .rest (blocked_iff_not_fits.2 unfit)

/-- **The reader accepts exactly the rows.** -/
theorem parts_eq_iff : F.parts bs = (ps, rest) ↔ F.Row bs ps rest := by
  constructor
  · intro h
    have row := F.row_parts bs
    rwa [h] at row
  · intro row
    induction row with
    | rest blocked => exact parts_of_not_fits (blocked_iff_not_fits.1 blocked)
    | part complete padded _ ih =>
      rw [parts_of_fits (fits_bytes_append complete _), front_bytes_append complete padded,
        behind_bytes_append complete padded, ih]

/-- **Bytes are a row in one way only,** down to the padding. -/
theorem existsUnique_row (F : Framing H) (bs : Bytes) :
    ∃! r : List (Part H) × Bytes, F.Row bs r.1 r.2 :=
  ⟨F.parts bs, F.row_parts bs, fun _ row => (parts_eq_iff.2 row).symm⟩

/-- The parts of a row and its rest are all its bytes, in order. -/
theorem Row.eq_append (row : F.Row bs ps rest) : bs = ps.flatMap F.bytes ++ rest := by
  induction row with
  | rest _ => rfl
  | part _ _ _ ih => rw [List.flatMap_cons, List.append_assoc, ← ih]

/-- Every part takes at least the bytes of a header. -/
theorem Row.size_mul_length_le (row : F.Row bs ps rest) : F.size * ps.length ≤ bs.length := by
  induction row with
  | rest _ => simp
  | @part p bs ps rest _ _ _ ih =>
    have header : F.size ≤ (F.bytes p).length := by
      rw [bytes, List.length_append, F.length_encode]
      omega
    rw [List.length_cons, Nat.mul_add, Nat.mul_one, List.length_append]
    omega

/-- There is at most one part for every header that the bytes have room for. -/
theorem length_parts_le (F : Framing H) (bs : Bytes) :
    (F.parts bs).1.length ≤ bs.length / F.size := by
  rw [Nat.le_div_iff_mul_le F.size_pos, Nat.mul_comm]
  exact (F.row_parts bs).size_mul_length_le

/-! ### Bytes that are cut short -/

/-- An item that fits the first bytes fits all of them, and it is the same item. -/
theorem Fits.of_take {n : Nat} (h : F.Fits (bs.take n)) :
    F.Fits bs ∧ F.read (bs.take n) = F.read bs ∧ F.length (F.read bs) ≤ n := by
  obtain ⟨hsize, hmin, hmax⟩ := h
  rw [List.length_take] at hsize hmax
  have same : F.read (bs.take n) = F.read bs := by
    have covered : F.size ≤ bs.length := by omega
    have cut : bs.take n = bs.take F.size ++ Bytes.slice bs F.size (n - F.size) := by
      rw [Bytes.take_append_slice, Nat.add_sub_cancel' (by omega)]
    rw [cut, ← F.encode_read covered, F.read_encode_append]
  rw [same] at hmin hmax
  exact ⟨⟨by omega, hmin, by omega⟩, same, by omega⟩

/-- **A cut loses a tail of the items and nothing else.** An item that the cut falls into
is lost as a whole, and so is all that stands behind it. -/
theorem map_item_parts_take (F : Framing H) (bs : Bytes) (n : Nat) :
    (F.parts (bs.take n)).1.map Part.item <+: (F.parts bs).1.map Part.item := by
  -- On the length: a part that fits the bytes that are kept is also the first of all, and
  -- behind it there is less to read.
  induction hlen : bs.length using Nat.strong_induction_on generalizing bs n with
  | _ len ih =>
    by_cases fits : F.Fits (bs.take n)
    · obtain ⟨whole, same, hle⟩ := fits.of_take
      have hitem : (F.front (bs.take n)).item = (F.front bs).item := by
        have hmin := whole.2.1
        simp only [Part.item, front, same]
        rw [Bytes.slice_take_of_le (by omega)]
      have hbehind : F.behind (bs.take n) =
          (F.behind bs).take (n - roundUp (F.length (F.read bs))) := by
        rw [behind, same, List.drop_take, behind]
      rw [parts_of_fits fits, parts_of_fits whole, List.map_cons, List.map_cons, hitem, hbehind]
      exact List.cons_prefix_cons.2
        ⟨rfl, ih _ (hlen ▸ F.length_behind_lt whole) (F.behind bs) _ rfl⟩
    · rw [parts_of_not_fits fits]
      exact List.nil_prefix

/-! ### Readers of one item -/

/-- Items are found with `next?` as the parts of a row are: the one at the front, if a
whole one stands there, and what is behind it. -/
def Reads {α : Type} (F : Framing H) (ofPart : Part H → α)
    (next? : Bytes → Option (α × Bytes)) : Prop :=
  ∀ bs, next? bs = if F.Fits bs then some (ofPart (F.front bs), F.behind bs) else none

section Reads

variable {α : Type} {ofPart : Part H → α} {next? : Bytes → Option (α × Bytes)}

/-- A part at the front is found, and what is behind it. -/
theorem Reads.next?_bytes_append (h : F.Reads ofPart next?) (complete : F.Complete p)
    (padded : F.Padded p bs) : next? (F.bytes p ++ bs) = some (ofPart p, bs) := by
  rw [h, if_pos (fits_bytes_append complete bs), front_bytes_append complete padded,
    behind_bytes_append complete padded]

/-- Where no whole item stands none is found. -/
theorem Reads.next?_of_blocked (h : F.Reads ofPart next?) (blocked : F.Blocked bs) :
    next? bs = none := by
  rw [h, if_neg (blocked_iff_not_fits.1 blocked)]

end Reads

end Framing
end TcpCensus
