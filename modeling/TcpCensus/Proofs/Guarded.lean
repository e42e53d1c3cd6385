/-
# No datagram trips the reader

A machine has guards where this reader has none. It faults where a slice does not lie
within its bytes, where a sum is no word, a difference negative or a number too long for
its word, where two slices of different lengths are copied, and where an item is put into
a store behind the slots that it owns. Here is the reader once more, with every such
guard in its place; what a guard refuses is a `Fault`.

No fault is ever reached: the guarded reader comes to the same as `Dump.read`. The reason
is seldom near the guard. The test on the length of a record is what allows the slice
behind it, the two tests on a claimed length allow both the payload and the advance, the
width of a length field allows the sum in the alignment, and that a store holds no more
than it owns (`Store.Sound`) allows the growth and the append.

* `Guarded.slice`, `add`, `sub`, `narrow`, `overwrite`, `push`: the guarded steps.
* `Guarded.next_eq`: one step of an iterator, for envelopes and for attributes.
* `Guarded.sample_eq`, `append_eq`, `attributes_eq`, `envelope_eq`, `read_eq`: each
  guarded part comes to what it does without the guards.
* `Guarded.read_of_reachable`: whatever a datagram holds, and whatever growths are refused,
  the reader does not fault.
-/

import TcpCensus.Proofs.Capacity
import TcpCensus.Proofs.Messages
import TcpCensus.Proofs.Receiving

namespace TcpCensus

/-- What a guard refuses. -/
inductive Fault
  /-- A slice begins behind its end, or ends behind the end of the bytes. -/
  | outOfBounds
  /-- Bytes are copied over a slice of another length. -/
  | lengthMismatch
  /-- A sum is more than a word holds. -/
  | overflow
  /-- A difference is less than zero. -/
  | underflow
  /-- A number loses its high part in a narrower word. -/
  | narrowed
  /-- An item is put where the store owns no slot. -/
  | unreserved
  deriving DecidableEq, Repr

namespace Guarded

/-! ### Steps -/

/-- A step without a fault hands on what it came to. -/
@[simp] theorem ok_bind {α β : Type} (a : α) (f : α → Except Fault β) :
    (Except.ok a >>= f) = f a := rfl

/-- To come to a value is no fault. -/
@[simp] theorem pure_eq {α : Type} (a : α) : (pure a : Except Fault α) = .ok a := rfl

/-- The bytes from `start` up to `stop`. -/
def slice (bs : Bytes) (start stop : Nat) : Except Fault Bytes :=
  if start ≤ stop ∧ stop ≤ bs.length then .ok (Bytes.slice bs start (stop - start))
  else .error .outOfBounds

/-- A sum. -/
def add (m n : Nat) : Except Fault Nat :=
  if m + n ≤ Store.maxCount then .ok (m + n) else .error .overflow

/-- A difference. -/
def sub (m n : Nat) : Except Fault Nat := if n ≤ m then .ok (m - n) else .error .underflow

/-- A number as a word of two bytes. -/
def narrow (n : Nat) : Except Fault UInt16 :=
  if n < UInt16.size then .ok (.ofNat n) else .error .narrowed

/-- A field with its first `stop` bytes overwritten. -/
def overwrite {n : Nat} (target : Octets n) (stop : Nat) (source : Bytes) :
    Except Fault (Octets n) :=
  if within : stop ≤ n then
    if same : source.length = stop then
      .ok ⟨source ++ target.bytes.drop stop, by
        rw [List.length_append, List.length_drop, target.length_eq]
        omega⟩
    else .error .lengthMismatch
  else .error .outOfBounds

/-- A slice that begins before it ends, within the bytes, is no fault. -/
theorem slice_eq {bs : Bytes} {start stop : Nat} (h : start ≤ stop) (h' : stop ≤ bs.length) :
    slice bs start stop = .ok (Bytes.slice bs start (stop - start)) := if_pos ⟨h, h'⟩

/-- A slice from the front is the first bytes. -/
theorem slice_zero_eq {bs : Bytes} {stop : Nat} (h : stop ≤ bs.length) :
    slice bs 0 stop = .ok (bs.take stop) := by
  rw [slice_eq (Nat.zero_le _) h, Bytes.slice, List.drop_zero, Nat.sub_zero]

/-- A slice up to the end is what is behind its beginning. -/
theorem slice_length_eq {bs : Bytes} {start : Nat} (h : start ≤ bs.length) :
    slice bs start bs.length = .ok (bs.drop start) := by
  rw [slice_eq h (Nat.le_refl _), Bytes.slice, List.take_of_length_le]
  rw [List.length_drop]

/-- A sum that fits a word does not overflow. -/
theorem add_eq {m n : Nat} (h : m + n ≤ Store.maxCount) : add m n = .ok (m + n) := if_pos h

/-- What is there can be taken away. -/
theorem sub_eq {m n : Nat} (h : n ≤ m) : sub m n = .ok (m - n) := if_pos h

/-- A number of 16 bits keeps its value in a word of 16 bits. -/
theorem narrow_eq {n : Nat} (h : n < UInt16.size) : narrow n = .ok (.ofNat n) := if_pos h

/-- The first bytes of a field of zeros are overwritten. -/
theorem overwrite_zero_eq {n : Nat} {source : Bytes} (h : source.length ≤ n) :
    overwrite (.zero n) source.length source = .ok (.ofBytes n source) := by
  rw [overwrite, dif_pos h, dif_pos rfl]
  simp only [Octets.zero, Octets.ofBytes, List.take_of_length_le h, List.take_nil, List.nil_append,
    List.length_nil, Nat.sub_zero, List.drop_replicate]

/-- A length brought to a multiple of four. -/
def roundUp (n : Nat) : Except Fault Nat := do
  let sum ← add n 4
  let raised ← sub sum 1
  return raised / 4 * 4

/-- A length of 32 bits is rounded up without an overflow. -/
theorem roundUp_eq {n : Nat} (h : n < 2 ^ 32) : roundUp n = .ok (TcpCensus.roundUp n) := by
  have fits : n + 4 ≤ Store.maxCount := by
    unfold Store.maxCount UInt64.size
    omega
  simp only [roundUp, add_eq fits, sub_eq (show 1 ≤ n + 4 by omega), ok_bind, pure_eq,
    TcpCensus.roundUp]
  rfl

/-! ### Iterators -/

/-- What one step of an iterator gives: a header with its payload, and what is left. -/
structure Piece (H : Type) where
  header : H
  payload : Bytes
  rest : Bytes

/-- One step over a row of padded pieces. Each begins with a header of `size` bytes, which
claims a length. -/
def next {H : Type} (size : Nat) (read : Bytes → H) (length : H → Nat) (bs : Bytes) :
    Except Fault (Option (Piece H)) :=
  if bs.length < size then .ok none
  else do
    let header := read (← slice bs 0 size)
    if length header < size ∨ bs.length < length header then .ok none
    else do
      let payload ← slice bs size (length header)
      let aligned ← roundUp (length header)
      let rest ← if bs.length ≤ aligned then .ok [] else slice bs aligned bs.length
      .ok (some ⟨header, payload, rest⟩)

/-- **A step of an iterator does not fault,** where a length field has at most four bytes. -/
theorem next_eq {H : Type} {size : Nat} {read : Bytes → H} {length : H → Nat} {bs : Bytes}
    (whole : read (bs.take size) = read bs) (word : length (read bs) < 2 ^ 32) :
    next size read length bs =
      .ok (if size ≤ bs.length ∧ size ≤ length (read bs) ∧ length (read bs) ≤ bs.length then
          some ⟨read bs, Bytes.slice bs size (length (read bs) - size),
            bs.drop (TcpCensus.roundUp (length (read bs)))⟩
        else none) := by
  unfold next
  by_cases short : bs.length < size
  · rw [if_pos short, if_neg (by omega)]
  · have header : slice bs 0 size = .ok (bs.take size) := slice_zero_eq (by omega)
    rw [if_neg short]
    simp only [header, ok_bind, whole]
    by_cases bad : length (read bs) < size ∨ bs.length < length (read bs)
    · rw [if_pos bad, if_neg (by omega)]
    · -- Past both tests the claimed length ends behind the header and within the bytes. It
      -- may still round up to more than there is, so the advance has a test of its own.
      have payload : slice bs size (length (read bs)) =
          .ok (Bytes.slice bs size (length (read bs) - size)) := slice_eq (by omega) (by omega)
      rw [if_neg bad, if_pos (by omega)]
      simp only [payload, roundUp_eq word, ok_bind]
      by_cases last : bs.length ≤ TcpCensus.roundUp (length (read bs))
      · rw [if_pos last, List.drop_of_length_le last]
      · rw [if_neg last, slice_length_eq (by omega), ok_bind]

/-- A step leaves less. -/
theorem length_rest_lt_of_next {H : Type} {size : Nat} {read : Bytes → H} {length : H → Nat}
    {bs : Bytes} {piece : Piece H} (positive : 0 < size) (whole : read (bs.take size) = read bs)
    (word : length (read bs) < 2 ^ 32) (h : next size read length bs = .ok (some piece)) :
    piece.rest.length < bs.length := by
  rw [next_eq whole word] at h
  split at h
  · rename_i fits
    obtain ⟨covered, least, -⟩ := fits
    have beyond := le_roundUp (length (read bs))
    cases h
    rw [List.length_drop]
    omega
  · cases h

/-- One step over the envelopes of a datagram. -/
def nextEnvelope (bs : Bytes) : Except Fault (Option (Piece Envelope.Header)) :=
  next Envelope.Header.size Envelope.Header.read (·.length.toNat) bs

/-- One step over the attributes of a payload. -/
def nextAttribute (bs : Bytes) : Except Fault (Option (Piece Attribute.Header)) :=
  next Attribute.Header.size Attribute.Header.read (·.length.toNat) bs

/-- **To look for an envelope is no fault,** whatever length its header has. -/
theorem nextEnvelope_eq (bs : Bytes) :
    nextEnvelope bs =
      .ok (if Envelope.Fits bs then
          some ⟨(Envelope.front bs).header, (Envelope.front bs).payload, Envelope.behind bs⟩
        else none) := by
  unfold nextEnvelope
  rw [next_eq (Envelope.Header.read_take bs (Nat.le_refl _)) (UInt32.toNat_lt _)]
  simp only [Envelope.Fits, Bytes.covers_iff, Envelope.front, Envelope.behind]

/-- The length of an attribute is far from an overflow. -/
theorem toNat_length_lt (bs : Bytes) : (Attribute.Header.read bs).length.toNat < 2 ^ 32 :=
  Nat.lt_trans (UInt16.toNat_lt _) (by decide)

/-- **To look for an attribute is no fault,** whatever length its header has. -/
theorem nextAttribute_eq (bs : Bytes) :
    nextAttribute bs =
      .ok (if Attribute.Fits bs then
          some ⟨Attribute.Header.read bs, (Attribute.front bs).data, Attribute.behind bs⟩
        else none) := by
  unfold nextAttribute
  rw [next_eq (Attribute.Header.read_take bs (Nat.le_refl _)) (toNat_length_lt bs)]
  simp only [Attribute.Fits, Bytes.covers_iff, Attribute.front, Attribute.behind]

/-! ### Samples -/

/-- The first bytes of an address field, as many as an address of the family has, copied
into a field of zeros. -/
def clipped (family : Family) (field : Octets 16) : Except Fault (Octets 16) := do
  overwrite (.zero 16) family.addressLength (← slice field.bytes 0 family.addressLength)

/-- At most a whole block of statistics, copied into a block of zeros, with its length in a
word of two bytes. -/
def block (data : Bytes) : Except Fault InfoBlock := do
  let length := min data.length InfoBlock.size
  let octets ← overwrite (.zero InfoBlock.size) length (← slice data 0 length)
  let reported ← narrow length
  return .ofPayload (octets.bytes.take reported.toNat)

/-- The sample for a record and the data of its statistics attribute. -/
def sample (family : Family) (record : DiagRecord) (info : Bytes) : Except Fault Sample := do
  let source ← clipped family record.id.source
  let target ← clipped family record.id.target
  let info ← block info
  return ⟨family, ⟨source, record.id.sourcePort⟩, ⟨target, record.id.targetPort⟩, info⟩

/-- An address is no longer than its field, so that it can be clipped. -/
theorem clipped_eq (family : Family) (field : Octets 16) :
    clipped family field = .ok (Sample.clipped family field) := by
  have length : (field.bytes.take family.addressLength).length = family.addressLength := by
    rw [List.length_take, field.length_eq, Nat.min_eq_left family.addressLength_le]
  have source : slice field.bytes 0 family.addressLength =
      .ok (field.bytes.take family.addressLength) :=
    slice_zero_eq (by rw [field.length_eq]; exact family.addressLength_le)
  have copied := overwrite_zero_eq (Nat.le_trans (Nat.le_of_eq length) family.addressLength_le)
  rw [length] at copied
  simp only [clipped, source, ok_bind, copied, Sample.clipped]

/-- A payload of any length is taken into a block. -/
theorem block_eq (data : Bytes) : block data = .ok (.ofPayload data) := by
  have length : (data.take (min data.length InfoBlock.size)).length =
      min data.length InfoBlock.size := by
    rw [List.length_take]
    omega
  -- What is copied is the front of the data, as much of it as a block holds: so the cut is
  -- within the data, the copy within the block, and the length is a word of 16 bits.
  have source : slice data 0 (min data.length InfoBlock.size) =
      .ok (data.take (min data.length InfoBlock.size)) := slice_zero_eq (Nat.min_le_left _ _)
  have copied := overwrite_zero_eq (Nat.le_trans (Nat.le_of_eq length) (Nat.min_le_right _ _))
  rw [length] at copied
  have reported : min data.length InfoBlock.size < UInt16.size :=
    Nat.lt_of_le_of_lt (Nat.min_le_right _ _) (by decide)
  have word : (UInt16.ofNat (min data.length InfoBlock.size)).toNat =
      min data.length InfoBlock.size := by
    rw [UInt16.toNat_ofNat', Nat.mod_eq_of_lt reported]
  have front := Octets.take_length_ofBytes (n := InfoBlock.size)
    (Nat.le_trans (Nat.le_of_eq length) (Nat.min_le_right _ _))
  rw [length] at front
  have kept : InfoBlock.ofPayload (data.take (min data.length InfoBlock.size)) =
      .ofPayload data := by
    simp only [InfoBlock.ofPayload, List.take_take, InfoBlock.mk.injEq]
    rw [List.take_eq_take_iff]
    omega
  simp only [block, source, ok_bind, copied, narrow_eq reported, pure_eq, word, front, kept]

/-- A sample is made of any record and any payload. -/
theorem sample_eq (family : Family) (record : DiagRecord) (info : Bytes) :
    sample family record info = .ok (.ofRecord family record info) := by
  simp only [sample, clipped_eq, block_eq, ok_bind, pure_eq, Sample.ofRecord]

/-! ### The store -/

section Append

variable {α : Type}

/-- Room for so many more items, for which the allocator is asked unless the store owns it
already. -/
def reserve (s : Store α) (a : Allocator) (additional : Nat) :
    Except Error (Store α) × Allocator :=
  let wanted := s.size + additional
  if wanted ≤ s.allocated then (.ok { s with capacity := wanted }, a)
  else
    match a.ask wanted with
    | (.refused, a) => (.error (.outOfMemory wanted), a)
    | (.granted spare, a) => (.ok { s with capacity := wanted, allocated := wanted + spare }, a)

/-- Raise the capacity of a full store: it asks for the room that it lacks. -/
def grow (s : Store α) (a : Allocator) : Except Fault (Except Error (Store α) × Allocator) :=
  if Store.maxCount < s.nextCapacity then .ok (.error (.outOfMemory Store.maxCount), a)
  else do
    let additional ← sub s.nextCapacity s.size
    return reserve s a additional

/-- Put an item into the next slot. -/
def push (s : Store α) (x : α) : Except Fault (Store α) :=
  if s.size < s.allocated then .ok (s.push x) else .error .unreserved

/-- Append an item. -/
def append (p : Pool α) (x : α) : Except Fault (Except Error Unit × Pool α) :=
  if p.store.size = p.store.capacity then do
    match ← grow p.store p.allocator with
    | (.ok store, allocator) => return (.ok (), { store := ← push store x, allocator })
    | (.error e, allocator) => return (.error e, { p with allocator })
  else do
    return (.ok (), { p with store := ← push p.store x })

/-- A store that holds no more than its capacity asks for a growth of no less than nothing. -/
theorem grow_eq {s : Store α} (h : s.size ≤ s.capacity) (a : Allocator) :
    grow s a = .ok (s.grow a) := by
  have room : s.size ≤ s.nextCapacity := Nat.le_of_lt (Store.size_lt_nextCapacity h)
  unfold grow Store.grow
  simp only [sub_eq room, ok_bind, pure_eq, reserve, Nat.add_sub_cancel' room]
  split <;> rfl

/-- A sound store with room has a slot for an item. -/
theorem push_eq {s : Store α} (h : s.Sound) (room : s.size < s.capacity) (x : α) :
    push s x = .ok (s.push x) := if_pos (Nat.lt_of_lt_of_le room h.capacity_le)

/-- A store that says it will hold more than it owns slots for does fault. -/
example : push ({ items := #[1], capacity := 2, allocated := 1 } : Store Nat) 7 =
    .error .unreserved := rfl

/-- **An append does not fault,** refused or not. -/
theorem append_eq {p : Pool α} (h : p.store.Sound) (x : α) : append p x = .ok (p.append x) := by
  unfold append Pool.append
  by_cases full : p.store.size = p.store.capacity
  · rw [if_pos full, if_pos full, grow_eq h.size_le, ok_bind]
    cases hgrow : p.store.grow p.allocator with
    | mk result a =>
      cases result with
      | error e => rfl
      | ok store =>
        -- The slots that the growth has got are those that the item is put into.
        obtain ⟨sound, -, room⟩ := h.grow hgrow
        simp only [push_eq sound room, ok_bind, pure_eq]
  · have room : p.store.size < p.store.capacity := Nat.lt_of_le_of_ne h.size_le full
    rw [if_neg full, if_neg full, push_eq h room, ok_bind, pure_eq]

end Append

/-! ### Replies -/

/-- Append a sample for each statistics attribute. -/
def attributes (family : Family) (record : DiagRecord) (p : Pool Sample) (bs : Bytes) :
    Except Fault (Except Error Unit × Pool Sample) :=
  match _h : nextAttribute bs with
  | .error fault => .error fault
  | .ok none => .ok (.ok (), p)
  | .ok (some piece) =>
    if piece.header.kind = Extension.info.attributeKind then do
      match ← append p (← sample family record piece.payload) with
      | (.ok (), p) => attributes family record p piece.rest
      | (.error e, p) => return (.error e, p)
    else attributes family record p piece.rest
termination_by bs.length
decreasing_by
  all_goals
    have whole := Attribute.Header.read_take bs (Nat.le_refl Attribute.Header.size)
    exact length_rest_lt_of_next (by decide) whole (toNat_length_lt bs) _h

/-- Take a payload for a record with attributes behind it. -/
def record (p : Pool Sample) (payload : Bytes) :
    Except Fault (Except Error Unit × Pool Sample) :=
  if payload.length < DiagRecord.size then .ok (.ok (), p)
  else do
    let record := DiagRecord.read (← slice payload 0 DiagRecord.size)
    match Family.ofCode? record.family with
    | none => return (.ok (), p)
    | some family =>
      attributes family record p (← slice payload DiagRecord.size payload.length)

/-- Read one envelope for the caller that waits for the replies to `seq`. -/
def envelope (seq : UInt32) (p : Pool Sample) (header : Envelope.Header) (payload : Bytes) :
    Except Fault (Except Error Progress × Pool Sample) :=
  if header.seq ≠ seq then .ok (.ok .more, p)
  else if header.kind = Envelope.done then .ok (.ok .complete, p)
  else if header.kind = Envelope.error then
    if payload.length < Acknowledgement.size then .ok (.error .noData, p)
    else do
      let a := Acknowledgement.read (← slice payload 0 Acknowledgement.size)
      return (if a.isSuccess then .ok .more else .error (.ofCode a.code), p)
  else if header.kind = Envelope.noop then .ok (.ok .more, p)
  else do
    match ← record p payload with
    | (.ok (), p) => return (.ok .more, p)
    | (.error e, p) => return (.error e, p)

section Replies

variable {family : Family} {diag : DiagRecord} {p : Pool Sample} {bs : Bytes}

/-- What the loop over attributes does where a whole one is in front. -/
theorem attributes_of_fits (fits : Attribute.Fits bs) :
    attributes family diag p bs =
      if (Attribute.front bs).kind = Extension.info.attributeKind then do
        match ← append p (← sample family diag (Attribute.front bs).data) with
        | (.ok (), p) => attributes family diag p (Attribute.behind bs)
        | (.error e, p) => return (.error e, p)
      else attributes family diag p (Attribute.behind bs) := by
  have step := nextAttribute_eq bs
  rw [if_pos fits] at step
  rw [attributes]
  split <;> rename_i hnext <;> rw [step] at hnext <;> cases hnext
  rfl

/-- The loop over attributes ends where no whole one is in front. -/
theorem attributes_of_not_fits (h : ¬ Attribute.Fits bs) :
    attributes family diag p bs = .ok (.ok (), p) := by
  have step := nextAttribute_eq bs
  rw [if_neg h] at step
  rw [attributes]
  split <;> rename_i hnext <;> rw [step] at hnext <;> cases hnext

/-- **The attributes of a record do not fault.** -/
theorem attributes_eq (h : p.store.Sound) (bs : Bytes) :
    attributes family diag p bs =
      .ok (p.appendAll (((Attribute.all bs).filter
        (·.kind = Extension.info.attributeKind)).map fun a => .ofRecord family diag a.data)) := by
  induction bs using Attribute.all.induct generalizing p with
  | case1 bs fits _ ih =>
    rw [attributes_of_fits fits, Attribute.all_of_fits fits]
    by_cases info : (Attribute.front bs).kind = Extension.info.attributeKind
    · have kept := Pool.sound_append h (.ofRecord family diag (Attribute.front bs).data)
      rw [if_pos info, sample_eq, ok_bind, append_eq h, ok_bind,
        List.filter_cons_of_pos (by simpa using info), List.map_cons, Pool.appendAll]
      cases happend : p.append (.ofRecord family diag (Attribute.front bs).data) with
      | mk result p' =>
        rw [happend] at kept
        cases result with
        | error e => rfl
        | ok _ => exact ih kept
    · rw [if_neg info, List.filter_cons_of_neg (by simpa using info)]
      exact ih h
  | case2 bs short =>
    rw [attributes_of_not_fits short, Attribute.all_of_not_fits short]
    rfl

/-- **A payload taken for a record does not fault,** and brings the samples of its reply. -/
theorem record_eq (h : p.store.Sound) (payload : Bytes) :
    record p payload = .ok (p.appendAll (Reply.ofRecord payload).samples) := by
  unfold record Reply.ofRecord DiagRecord.decode
  by_cases short : payload.length < DiagRecord.size
  · rw [if_pos short, if_neg (Bytes.not_covers_iff.2 short)]
    rfl
  · have long : DiagRecord.size ≤ payload.length := Nat.le_of_not_lt short
    rw [if_neg short, if_pos (Bytes.covers_iff.2 long)]
    simp only [slice_zero_eq long, slice_length_eq long, ok_bind,
      DiagRecord.read_take payload (Nat.le_refl _)]
    cases Family.ofCode? (DiagRecord.read payload).family with
    | none => rfl
    | some family => exact attributes_eq h _

/-- **An envelope does not fault,** and is read as without the guards. -/
theorem envelope_eq (h : p.store.Sound) (seq : UInt32) (e : Envelope) :
    envelope seq p e.header e.payload = .ok (Dump.absorb seq p [e]).effect := by
  rw [Dump.effect_absorb_cons]
  unfold envelope Reply.ofEnvelope
  -- The kinds in the order in which both decoders ask for them. Only an acknowledgement is
  -- cut out of the payload, behind the test that it is there.
  by_cases foreign : e.header.seq ≠ seq
  · rw [if_pos foreign, if_pos foreign]
    rfl
  · rw [if_neg foreign, if_neg foreign]
    by_cases done : e.header.kind = Envelope.done
    · rw [if_pos done, if_pos done]
      rfl
    · rw [if_neg done, if_neg done]
      by_cases error : e.header.kind = Envelope.error
      · rw [if_pos error, if_pos error, Reply.ofError, Acknowledgement.decode]
        by_cases short : e.payload.length < Acknowledgement.size
        · rw [if_pos short, if_neg (Bytes.not_covers_iff.2 short)]
          rfl
        · have long : Acknowledgement.size ≤ e.payload.length := Nat.le_of_not_lt short
          rw [if_neg short, if_pos (Bytes.covers_iff.2 long)]
          simp only [slice_zero_eq long, ok_bind,
            Acknowledgement.read_take e.payload (Nat.le_refl _)]
          split <;> rfl
      · rw [if_neg error, if_neg error]
        by_cases noop : e.header.kind = Envelope.noop
        · rw [if_pos noop, if_pos noop]
          rfl
        · rw [if_neg noop, if_neg noop, record_eq h, ok_bind, Reply.verdict?_ofRecord]
          cases p.appendAll (Reply.ofRecord e.payload).samples with
          | mk result p' =>
            cases result with
            | error e => rfl
            | ok _ => rfl

end Replies

/-! ### The reader -/

/-- Read a datagram for the caller that waits for the replies to `seq`. -/
def read (seq : UInt32) (p : Pool Sample) (bs : Bytes) :
    Except Fault (Except Error Progress × Pool Sample) :=
  match _h : nextEnvelope bs with
  | .error fault => .error fault
  | .ok none => .ok (.ok .more, p)
  | .ok (some piece) => do
    match ← envelope seq p piece.header piece.payload with
    | (.ok .more, p) => read seq p piece.rest
    | (.ok .complete, p) => return (.ok .complete, p)
    | (.error e, p) => return (.error e, p)
termination_by bs.length
decreasing_by
  have whole := Envelope.Header.read_take bs (Nat.le_refl Envelope.Header.size)
  exact length_rest_lt_of_next (by decide) whole (UInt32.toNat_lt _) _h

section Reader

variable {seq : UInt32} {p : Pool Sample} {bs : Bytes}

/-- What the loop over envelopes does where a whole one is in front. -/
theorem read_of_fits (fits : Envelope.Fits bs) :
    read seq p bs = do
      match ← envelope seq p (Envelope.front bs).header (Envelope.front bs).payload with
      | (.ok .more, p) => read seq p (Envelope.behind bs)
      | (.ok .complete, p) => return (.ok .complete, p)
      | (.error e, p) => return (.error e, p) := by
  have step := nextEnvelope_eq bs
  rw [if_pos fits] at step
  rw [read]
  split <;> rename_i hnext <;> rw [step] at hnext <;> cases hnext
  rfl

/-- The loop over envelopes ends where no whole one is in front. -/
theorem read_of_not_fits (h : ¬ Envelope.Fits bs) : read seq p bs = .ok (.ok .more, p) := by
  have step := nextEnvelope_eq bs
  rw [if_neg h] at step
  rw [read]
  split <;> rename_i hnext <;> rw [step] at hnext <;> cases hnext

/-- **A datagram is read without a fault,** from every sound store. -/
theorem read_eq (h : p.store.Sound) (bs : Bytes) :
    read seq p bs = .ok (Dump.absorb seq p (Envelope.split bs).1).effect := by
  induction bs using Envelope.split.induct generalizing p with
  | case1 bs fits _ more rest hsplit ih =>
    have kept : (Dump.absorb seq p [Envelope.front bs]).effect.2.store.Sound := by
      rw [Dump.snd_effect_absorb]
      exact Pool.sound_appendAll h _
    have row := Dump.effect_absorb_append seq p [Envelope.front bs]
      (Envelope.split (Envelope.behind bs)).1
    rw [List.singleton_append] at row
    rw [read_of_fits fits, envelope_eq h, ok_bind, Envelope.split_of_fits fits, row]
    match hfirst : (Dump.absorb seq p [Envelope.front bs]).effect with
    | (.error e, p) => rfl
    | (.ok .complete, p) => rfl
    | (.ok .more, p) =>
      rw [hfirst] at kept
      exact ih kept
  | case2 bs short =>
    rw [read_of_not_fits short, Envelope.split_of_not_fits short]
    rfl

end Reader

/-- **Whatever a datagram holds, reading it does not fault.** From every store there can be,
for every number and whatever growths are refused, the guarded reader comes to what
`Dump.read` comes to, so none of its guards refuses anything. -/
theorem read_of_reachable (seq : UInt32) {p : Pool Sample} (h : p.store.Reachable)
    (datagram : Bytes) :
    read seq p datagram =
      .ok ((Dump.read seq p datagram).result, (Dump.read seq p datagram).pool) := by
  rw [read_eq h.sound, ← Dump.effect_read]
  rfl

/-- The hypothesis of `read_of_reachable` can be met. A store that holds a sample reads a
datagram of a socket, whose second attribute claims more than there is, before an envelope
that is cut short. -/
theorem read_of_reachable_cut :
    let first : Sample := .ofRecord .inet ⟨2, 1, 0, 0, .any, 0, 0, 0, 0, 0⟩ [7]
    let pool : Pool Sample := ((⟨.empty, .limited 16⟩ : Pool Sample).append first).2
    let socket : Message :=
      ((({ kind := Envelope.diagByFamily, flags := 2, seq := 5 } : Message).append
        (DiagRecord.encode ⟨10, 1, 0, 0, .any, 0, 0, 0, 0, 0⟩)).appendAttribute 2 [9]).append
          [255, 255, 2, 0]
    let datagram := socket.finish ++ [17, 0, 0, 0, 20, 0, 2, 0, 5, 0, 0, 0, 0, 0, 0, 0]
    pool.store.Reachable ∧
      ∃ p, read 5 pool datagram = .ok (.ok .more, p) ∧ p.store.toList.length = 2 := by
  intro first pool socket datagram
  have reached : pool.store.Reachable := .append .empty _ _
  have more : (Dump.read 5 pool datagram).result = .ok .more := by cbv
  refine ⟨reached, (Dump.read 5 pool datagram).pool, ?_, ?_⟩
  · rw [read_of_reachable 5 reached datagram, more]
  · cbv

end Guarded
end TcpCensus
