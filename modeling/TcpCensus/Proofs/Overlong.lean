/-
# Attributes whose data is too long for their length field

The length field of an attribute has 16 bits and counts the header, so it holds the length of
at most 65531 bytes of data. Longer data is written whole all the same, under a length that
has lost its high part. A reader goes by that length. Where it comes to less than a header, the
reading ends there. Otherwise the attribute is read with too little of its data, and what
follows it is the rest of the data, which is then read as if it were attributes.

So whether all that is read was really appended is settled by the lengths of the data, and
only by the first that does not fit.

* `Attribute.all_encode_append_of_le`, `Attribute.all_encode_append_of_lt`: how an attribute is
  read whose length is cut.
* `Message.genuine_iff_lengths`: for which lengths every attribute that is read was appended.
* `Message.not_genuine_fours`: a value of 66560 bytes is read as 64 attributes, none of which
  was appended.
-/

import TcpCensus.Proofs.Drafts

namespace TcpCensus
namespace Attribute

variable {type : UInt16} {data : Bytes}

/-- The length field of a header holds what is left of the length modulo `65536`. -/
theorem Header.toNat_length_new (type : UInt16) (n : Nat) :
    (Header.new type n).length.toNat = (4 + n) % 65536 :=
  UInt16.toNat_ofNat'

/-- An attribute has all of its data behind its header, and padding behind that. -/
theorem encode_append_eq (type : UInt16) (data bs : Bytes) :
    ∃ more, encode type data ++ bs = (Header.new type data.length).encode ++ (data ++ more) := by
  refine ⟨List.replicate (padLength ((Header.new type data.length).encode ++ data).length) 0 ++ bs,
    ?_⟩
  rw [encode, padded]
  simp only [List.append_assoc]

/-- **An attribute is read with as much data as its cut length says,** and reading goes on
behind that, within the data where the length has been cut. -/
theorem all_encode_append_of_le (h : 4 ≤ (4 + data.length) % 65536) (bs : Bytes) :
    all (encode type data ++ bs) =
      ⟨type &&& 0x3fff, data.take ((4 + data.length) % 65536 - 4)⟩ ::
        all ((encode type data ++ bs).drop (roundUp ((4 + data.length) % 65536))) := by
  obtain ⟨more, written⟩ := encode_append_eq type data bs
  have header : Header.read (encode type data ++ bs) = Header.new type data.length := by
    rw [written, Header.read_encode_append]
  have length := Header.toNat_length_new type data.length
  have within : (4 + data.length) % 65536 ≤ 4 + data.length := Nat.mod_le _ _
  have whole : (encode type data ++ bs).length = 4 + (data.length + more.length) := by
    rw [written, List.length_append, List.length_append, Header.length_encode, Header.size]
  have fits : Fits (encode type data ++ bs) := by
    simp only [Fits, Bytes.covers_iff, header, length, whole, Header.size]
    omega
  have kept : Bytes.slice (encode type data ++ bs) 4 ((4 + data.length) % 65536 - 4) =
      data.take ((4 + data.length) % 65536 - 4) := by
    have front : (Header.new type data.length).encode.length = 4 := Header.length_encode _
    rw [written, Bytes.slice_append_of_le (Nat.le_of_eq front), front, Nat.sub_self, Bytes.slice,
      List.drop_zero, List.take_append_of_le_length (by omega)]
  rw [all_of_fits fits, front, behind, header, length]
  exact congrArg (fun d => Attribute.mk (type &&& 0x3fff) d :: _) kept

/-- **Where the cut length is less than a header's the reading ends.** -/
theorem all_encode_append_of_lt (h : (4 + data.length) % 65536 < 4) (bs : Bytes) :
    all (encode type data ++ bs) = [] := by
  obtain ⟨more, written⟩ := encode_append_eq type data bs
  refine all_of_not_fits fun fits => ?_
  have least := fits.2.1
  rw [written, Header.read_encode_append, Header.toNat_length_new, Header.size] at least
  omega

/-- Attributes in front whose data fits are read back, whatever stands behind them. -/
theorem all_flatMap_encode_append {as : List (UInt16 × Bytes)}
    (short : ∀ a ∈ as, a.2.length ≤ 65531) (bs : Bytes) :
    all ((as.flatMap fun a => encode a.1 a.2) ++ bs) =
      (as.map fun a => ⟨a.1 &&& 0x3fff, a.2⟩) ++ all bs := by
  induction as with
  | nil => rfl
  | cons a as ih =>
    rw [List.flatMap_cons, List.append_assoc, all_encode_append a.1 (short a List.mem_cons_self),
      ih fun b hb => short b (.tail _ hb), List.map_cons, List.cons_append]

end Attribute

namespace Message

/-- Every attribute that is read from a finished message of some attributes is one of them. -/
def Genuine (kind flags : UInt16) (as : List (UInt16 × Bytes)) : Prop :=
  ∀ a ∈ Attribute.all ((build { kind, flags } (Step.attributes as)).finish.drop 16),
    ∃ b ∈ as, a = ⟨b.1 &&& 0x3fff, b.2⟩

/-- Behind the header of a finished message of attributes there is nothing but them. -/
theorem drop_finish_attributes (kind flags : UInt16) (as : List (UInt16 × Bytes)) :
    (build { kind, flags } (Step.attributes as)).finish.drop 16 =
      as.flatMap fun a => Attribute.encode a.1 a.2 := by
  rw [build_eq, Step.row_attributes]
  exact List.drop_left' (Envelope.Header.length_encode _)

variable {kind flags : UInt16} {before later : List (UInt16 × Bytes)} {type : UInt16}
  {data : Bytes}

/-- **The first length that does not fit settles it:** if it is cut to less than a header's,
all that is read was appended. -/
theorem genuine_of_lt (short : ∀ a ∈ before, a.2.length ≤ 65531)
    (cut : (4 + data.length) % 65536 < 4) :
    Genuine kind flags (before ++ (type, data) :: later) := by
  intro a ha
  rw [drop_finish_attributes, List.flatMap_append, List.flatMap_cons,
    Attribute.all_flatMap_encode_append short, Attribute.all_encode_append_of_lt cut,
    List.append_nil] at ha
  obtain ⟨b, hb, rfl⟩ := List.mem_map.1 ha
  exact ⟨b, List.mem_append_left _ hb, rfl⟩

/-- Attributes whose lengths fit their fields are all genuine. -/
theorem genuine_of_short {as : List (UInt16 × Bytes)} (short : ∀ a ∈ as, a.2.length ≤ 65531) :
    Genuine kind flags as := by
  intro a ha
  rw [drop_finish_attributes, Attribute.all_flatMap_encode as short] at ha
  obtain ⟨b, hb, rfl⟩ := List.mem_map.1 ha
  exact ⟨b, hb, rfl⟩

/-- If it is cut to no less, an attribute of its kind is read that has less data. -/
theorem exists_shortened (kind flags type : UInt16) {data : Bytes}
    (later : List (UInt16 × Bytes)) (short : ∀ a ∈ before, a.2.length ≤ 65531)
    (cut : 4 ≤ (4 + data.length) % 65536) :
    ⟨type &&& 0x3fff, data.take ((4 + data.length) % 65536 - 4)⟩ ∈
      Attribute.all
        ((build { kind, flags } (Step.attributes (before ++ (type, data) :: later))).finish.drop
          16) := by
  rw [drop_finish_attributes, List.flatMap_append, List.flatMap_cons,
    Attribute.all_flatMap_encode_append short, Attribute.all_encode_append_of_le cut]
  exact List.mem_append_right _ List.mem_cons_self

/-- Attributes of type 0 with data of these lengths, all zeros. -/
def zeros (lengths : List Nat) : List (UInt16 × Bytes) :=
  lengths.map fun n => (0, List.replicate n 0)

/-- There are attributes of any lengths. -/
theorem map_length_zeros (lengths : List Nat) :
    (zeros lengths).map (·.2.length) = lengths := by
  rw [zeros, List.map_map]
  exact List.map_id'' (fun n => List.length_replicate) lengths

/-- All data is zeros here, and only the attribute that does not fit is of type 1. What is read
of it is of type 1 too, and too short to be the attribute. -/
theorem not_genuine_zeros {shorts : List Nat} {n : Nat} (short : ∀ k ∈ shorts, k ≤ 65531)
    (long : 65531 < n) (cut : 4 ≤ (4 + n) % 65536) (others : List Nat) :
    ¬ Genuine kind flags (zeros shorts ++ (1, List.replicate n 0) :: zeros others) := by
  intro genuine
  have size : (List.replicate n (0 : UInt8)).length = n := List.length_replicate
  have fits : ∀ a ∈ zeros shorts, a.2.length ≤ 65531 := by
    intro a ha
    obtain ⟨k, hk, rfl⟩ := List.mem_map.1 ha
    rw [List.length_replicate]
    exact short k hk
  have apart (ks : List Nat) (b : UInt16 × Bytes) (hb : b ∈ zeros ks) :
      (1 : UInt16) &&& 0x3fff ≠ b.1 &&& 0x3fff := by
    obtain ⟨k, -, rfl⟩ := List.mem_map.1 hb
    exact (by decide : (1 : UInt16) &&& 0x3fff ≠ 0 &&& 0x3fff)
  obtain ⟨b, hb, heq⟩ :=
    genuine _ (exists_shortened kind flags 1 (zeros others) fits (by rwa [size]))
  rw [Attribute.mk.injEq] at heq
  -- What was read has type 1, as the long attribute alone has, and is shorter than that.
  rcases List.mem_append.1 hb with before | rest
  · exact apart shorts b before heq.1
  · rcases List.mem_cons.1 rest with rfl | later
    · have lengths := congrArg List.length heq.2
      rw [List.length_take, size] at lengths
      omega
    · exact apart others b later heq.1

/-- **For which lengths all that is read was appended.** Take attributes with data of these
lengths, whatever the data and the types. Each attribute that is read from their message is
one of them just where no length is beyond 65531, or the first that is comes to less than a
header when it is cut to 16 bits. In particular no length up to 65535 does harm; a first one
that does is read as a shorter attribute, and what follows is made of the rest of its data. -/
theorem genuine_iff_lengths (kind flags : UInt16) (lengths : List Nat) :
    (∀ as : List (UInt16 × Bytes), as.map (·.2.length) = lengths → Genuine kind flags as) ↔
      ∀ n, lengths.find? (65531 < ·) = some n → (4 + n) % 65536 < 4 := by
  constructor
  · intro genuine n found
    obtain ⟨long, shorts, others, rfl, short⟩ := List.find?_eq_some_iff_append.1 found
    -- Zeros of these lengths would be read back shortened.
    by_contra cut
    have fits : ∀ k ∈ shorts, k ≤ 65531 := by
      intro k hk
      simpa using short k hk
    refine not_genuine_zeros fits (of_decide_eq_true long) (by omega) others (genuine _ ?_)
    rw [List.map_append, List.map_cons, map_length_zeros, map_length_zeros, List.length_replicate]
  · rintro cut as rfl
    cases hfind : (as.map (·.2.length)).find? (65531 < ·) with
    | none =>
      refine genuine_of_short fun a ha => ?_
      have := List.find?_eq_none.1 hfind _ (List.mem_map_of_mem ha)
      simpa using this
    | some n =>
      have least := cut n hfind
      -- Reading comes to the first long attribute and stops there: its length is less than that
      -- of a header.
      obtain ⟨-, shorts, others, split, short⟩ := List.find?_eq_some_iff_append.1 hfind
      obtain ⟨before, rest, rfl, rfl, hrest⟩ := List.map_eq_append_iff.1 split
      obtain ⟨⟨type, data⟩, later, rfl, rfl, -⟩ := List.map_eq_cons_iff.1 hrest
      refine genuine_of_lt (fun a ha => ?_) least
      have := short _ (List.mem_map_of_mem ha)
      simpa using this

/-! ### A value that is read as many -/

/-- Fours are read as attributes of type 1028, each 1028 bytes long, as far as they go. -/
theorem all_replicate_four (k : Nat) :
    Attribute.all (List.replicate (1028 * k + 772) 4) =
      List.replicate k ⟨1028, List.replicate 1024 4⟩ := by
  let header : Attribute.Header := ⟨1028, 1028⟩
  -- The length 1028 is the bytes 4 and 4, and so is the type: any four of the bytes are the
  -- header of an item of 1028 bytes.
  have encoded : header.encode = List.replicate 4 4 := by decide
  induction k with
  | zero =>
    refine Attribute.all_of_not_fits fun fits => ?_
    -- Of the last item 772 bytes are there.
    have claimed : Attribute.Header.read (List.replicate (1028 * 0 + 772) 4) = header := by
      rw [show 1028 * 0 + 772 = 4 + 768 from rfl, ← List.replicate_append_replicate, ← encoded,
        Attribute.Header.read_encode_append]
    have covered := Bytes.covers_iff.1 fits.2.2
    rw [claimed, List.length_replicate] at covered
    exact absurd covered (by decide)
  | succ k ih =>
    have row : List.replicate (1028 * (k + 1) + 772) (4 : UInt8) =
        header.encode ++ (List.replicate 1024 4 ++ ([] ++ List.replicate (1028 * k + 772) 4)) := by
      rw [encoded, List.nil_append, List.replicate_append_replicate,
        List.replicate_append_replicate]
      exact congrArg (List.replicate · 4) (by omega)
    have complete : header.length.toNat = Attribute.Header.size +
        (List.replicate 1024 (4 : UInt8)).length := by
      rw [List.length_replicate]
      rfl
    have kind : header.kind = 1028 := by decide
    rw [row, Attribute.all_header_append complete ⟨by decide, by decide⟩, ih, kind]
    exact List.replicate_succ.symm

/-- **A value can be read as attributes that nobody appended.** A message holds one attribute,
of type 1028, whose data is 66560 fours. Its length is cut to 1028, which is what four fours
say too, so the whole is read as 64 attributes of 1024 bytes each. -/
theorem not_genuine_fours :
    let as : List (UInt16 × Bytes) := [(1028, List.replicate 66560 4)]
    let m := build { kind := 16, flags := 1 } (Step.attributes as)
    m.finish.length < 2 ^ 32 ∧ m.finish.drop 16 = List.replicate 66564 4 ∧
      Attribute.all (m.finish.drop 16) = List.replicate 64 ⟨1028, List.replicate 1024 4⟩ ∧
      ¬ Genuine 16 1 as := by
  intro as m
  have data : (List.replicate 66560 (4 : UInt8)).length = 66560 := List.length_replicate
  have item : (Attribute.Header.new 1028 (List.replicate 66560 (4 : UInt8)).length).encode ++
      List.replicate 66560 4 = List.replicate 66564 4 := by
    have header : (Attribute.Header.new 1028 66560).encode = List.replicate 4 4 := by decide
    rw [data, header, List.replicate_append_replicate]
  have behind : m.finish.drop 16 = List.replicate 66564 4 := by
    have unpadded : padLength 66564 = 0 := by decide
    rw [drop_finish_attributes, List.flatMap_singleton, Attribute.encode, item, padded,
      List.length_replicate, unpadded, List.replicate_zero, List.append_nil]
  have read : Attribute.all (m.finish.drop 16) =
      List.replicate 64 ⟨1028, List.replicate 1024 4⟩ := by
    rw [behind]
    exact all_replicate_four 64
  refine ⟨?_, behind, read, fun genuine => ?_⟩
  · have rest := congrArg List.length behind
    rw [List.length_drop, List.length_replicate] at rest
    omega
  · obtain ⟨b, hb, heq⟩ := genuine _ (by
      rw [read]
      exact List.mem_replicate.2 ⟨by decide, rfl⟩)
    rw [List.mem_singleton.1 hb, Attribute.mk.injEq] at heq
    have lengths := congrArg List.length heq.2
    rw [List.length_replicate, List.length_replicate] at lengths
    exact absurd lengths (by decide)

end Message
end TcpCensus
