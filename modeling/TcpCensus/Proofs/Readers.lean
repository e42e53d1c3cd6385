/-
# The two readers accept exactly the rows

Envelopes and attributes are read one at a time. A reader holds what is left of its
bytes; each call gives the item at the front, or nothing where no whole item stands
there, and a reader that gave nothing never gives anything again.

Both readers go through a row (`Framing.Reads`), so what they give is told by the row
alone and not by how they go through it. They differ in what they keep at the end: the
reader of envelopes keeps what is left over, the reader of attributes drops it where
there is a header that does not fit.

* `Envelope.split_accepts_rows`: the envelopes of a datagram, and what is left over.
* `Attribute.all_accepts_rows`: the attributes of a payload.
-/

import TcpCensus.Proofs.Messages

namespace TcpCensus

/-! ### Calls of a reader -/

namespace Reader

variable {α : Type}

/-- One call of a reader that finds items with `next?`: the item it gives, if any, and
what it has left. `leave` is what it keeps when it finds none. -/
def pull (next? : Bytes → Option (α × Bytes)) (leave : Bytes → Bytes) (bs : Bytes) :
    Option α × Bytes :=
  match next? bs with
  | some (a, rest) => (some a, rest)
  | none => (none, leave bs)

/-- What so many calls give, one after the other, and what the reader has left then. -/
def calls (pull : Bytes → Option α × Bytes) : Nat → Bytes → List (Option α) × Bytes
  | 0, bs => ([], bs)
  | n + 1, bs => ((pull bs).1 :: (calls pull n (pull bs).2).1, (calls pull n (pull bs).2).2)

end Reader

namespace Framing

open Reader

variable {H α : Type} {F : Framing H} {ofPart : Part H → α} {next? : Bytes → Option (α × Bytes)}
  {ps : List (Part H)} {bs rest : Bytes}

section Pull

variable (leave : Bytes → Bytes) (h : F.Reads ofPart next?)
  (hleave : ∀ {bs}, F.Blocked bs → F.Blocked (leave bs))
include h hleave

/-- A reader that finds nothing goes on finding nothing. -/
theorem Reads.calls_of_blocked (blocked : F.Blocked bs) (k : Nat) :
    calls (pull next? leave) k bs = (List.replicate k none, leave^[k] bs) := by
  induction k generalizing bs with
  | zero => rfl
  | succ k ih =>
    have step : pull next? leave bs = (none, leave bs) := by
      rw [pull, h.next?_of_blocked blocked]
    rw [calls, step, ih (hleave blocked), List.replicate_succ, Function.iterate_succ_apply]

/-- **Calls go through a row:** each part gives its item, and all later calls give
nothing. -/
theorem Reads.calls_of_row (row : F.Row bs ps rest) (k : Nat) :
    calls (pull next? leave) (ps.length + k) bs =
      ((ps.map ofPart).map some ++ List.replicate k none, leave^[k] rest) := by
  induction row with
  | rest blocked =>
    rw [List.length_nil, Nat.zero_add]
    exact h.calls_of_blocked leave hleave blocked k
  | @part p bs ps rest complete padded _ ih =>
    have step : pull next? leave (F.bytes p ++ bs) = (some (ofPart p), bs) := by
      rw [pull, h.next?_bytes_append complete padded]
    rw [List.length_cons, Nat.succ_add, calls, step, ih, List.map_cons, List.map_cons,
      List.cons_append]

end Pull

end Framing

/-! ### Envelopes -/

namespace Envelope

open Reader

/-- One call of the reader of envelopes. -/
def pull : Bytes → Option Envelope × Bytes := Reader.pull next? id

variable {d rest : Bytes} {ps : List (Framing.Part Header)}

/-- **A row is read as its envelopes and its rest.** -/
theorem split_of_row (row : framing.Row d ps rest) : split d = (ps.map ofPart, rest) := by
  induction row with
  | rest blocked => rw [split_eq, reads_next?.next?_of_blocked blocked, List.map_nil]
  | part complete padded _ ih =>
    rw [split_eq, reads_next?.next?_bytes_append complete padded]
    simp only [ih, List.map_cons]

/-- The envelopes of a datagram are the parts of the row it is. -/
theorem split_eq_parts (d : Bytes) :
    split d = ((framing.parts d).1.map ofPart, (framing.parts d).2) :=
  split_of_row (framing.row_parts d)

/-- A datagram is read as some envelopes and a rest just where it is a row of them. -/
theorem split_eq_iff {es : List Envelope} :
    split d = (es, rest) ↔ ∃ ps, framing.Row d ps rest ∧ es = ps.map ofPart := by
  constructor
  · intro h
    rw [split_eq_parts, Prod.mk.injEq] at h
    obtain ⟨rfl, rfl⟩ := h
    exact ⟨_, framing.row_parts d, rfl⟩
  · rintro ⟨ps, row, rfl⟩
    exact split_of_row row

/-- What the reader of envelopes makes of a datagram. -/
structure ReadByRow (d : Bytes) : Prop where
  /-- It ends after at most one envelope for every 16 bytes, -/
  bound : (split d).1.length ≤ d.length / 16
  /-- and each later call gives nothing and keeps what is left over. -/
  calls : ∀ k, Reader.calls pull ((split d).1.length + k) d =
    ((split d).1.map some ++ List.replicate k none, (split d).2)
  /-- It gives these envelopes and leaves this rest just where the datagram is a row of
  them and the rest, -/
  accepts : ∀ es rest, split d = (es, rest) ↔ ∃ ps, framing.Row d ps rest ∧ es = ps.map ofPart
  /-- which it is in one way, down to the padding. -/
  unique : ∃! r : List (Framing.Part Header) × Bytes, framing.Row d r.1 r.2
  /-- The parts of the row and the rest are all of the datagram. -/
  whole : ∀ ps rest, framing.Row d ps rest → d = ps.flatMap framing.bytes ++ rest
  /-- A datagram that differs in its padding alone is read as this one is. -/
  unpadded : ∀ ps rest, framing.Row d ps rest → ∀ d' ps', framing.Row d' ps' rest →
    ps'.map ofPart = ps.map ofPart → split d' = split d

/-- **The reader of envelopes accepts exactly the framing.** It ends after at most one
envelope for every 16 bytes, and each later call gives nothing and keeps what is left
over. It gives these envelopes and leaves this rest just where the datagram is a row of
them, each with its padding, and the rest; a datagram is such a row in one way. So
padding never matters, and any envelopes that are put into a datagram are read back. -/
theorem split_accepts_rows (d : Bytes) :
    ReadByRow d ∧
      ∀ fs : List Frame, split (fs.flatMap Frame.bytes) = (fs.map Frame.envelope, []) := by
  refine ⟨?_, split_flatMap_bytes⟩
  constructor
  case bound =>
    rw [split_eq_parts, List.length_map]
    exact framing.length_parts_le d
  case calls =>
    intro k
    have h := reads_next?.calls_of_row id (fun blocked => blocked) (framing.row_parts d) k
    rw [Function.iterate_id] at h
    rw [split_eq_parts, List.length_map]
    exact h
  case accepts => exact fun es rest => split_eq_iff
  case unique => exact framing.existsUnique_row d
  case whole => exact fun ps rest row => row.eq_append
  case unpadded =>
    intro ps rest row d' ps' row' same
    rw [split_of_row row, split_of_row row', same]

/-- The hypotheses of `split_accepts_rows` can be met: two envelopes that need padding, of
which the second has only a part of it, and the same two with other padding. -/
theorem split_accepts_rows_cut :
    let part (length : UInt32) (data pad : Bytes) : Framing.Part Header :=
      ⟨⟨length, diagByFamily, 2, 1, 0⟩, data, pad⟩
    let ps := [part 17 [7] [1, 2, 3], part 18 [8, 9] [4]]
    let ps' := [part 17 [7] [0, 0, 0], part 18 [8, 9] []]
    let d := ps.flatMap framing.bytes
    let d' := ps'.flatMap framing.bytes
    framing.Row d ps [] ∧ framing.Row d' ps' [] ∧ ps'.map ofPart = ps.map ofPart ∧
      split d' = split d ∧ split d = (ps.map ofPart, []) := by
  intro part ps ps' d d'
  have whole (length : UInt32) (data pad : Bytes) (h : length.toNat = 16 + data.length) :
      framing.Complete (part length data pad) := h
  have blocked : framing.Blocked [] := .inl (by decide)
  have row : framing.Row d ps [] :=
    .part (whole 17 [7] [1, 2, 3] rfl) ⟨0, ⟨by decide, by decide⟩, .inl rfl⟩
      (.part (whole 18 [8, 9] [4] rfl) ⟨1, ⟨by decide, by decide⟩, .inr rfl⟩ (.rest blocked))
  have row' : framing.Row d' ps' [] :=
    .part (whole 17 [7] [0, 0, 0] rfl) ⟨0, ⟨by decide, by decide⟩, .inl rfl⟩
      (.part (whole 18 [8, 9] [] rfl) ⟨2, ⟨by decide, by decide⟩, .inr rfl⟩ (.rest blocked))
  have read := (split_accepts_rows d).1
  have same : ps'.map ofPart = ps.map ofPart := rfl
  exact ⟨row, row', same, read.unpadded ps [] row d' ps' row' same,
    (read.accepts _ _).2 ⟨ps, row, rfl⟩⟩

end Envelope

/-! ### Attributes -/

namespace Attribute

open Reader

/-- What the reader of attributes keeps at its end: less than a header. -/
def leave (bs : Bytes) : Bytes := if Bytes.covers bs Header.size then [] else bs

/-- One call of the reader of attributes. -/
def pull : Bytes → Option Attribute × Bytes := Reader.pull next? leave

variable {d rest : Bytes} {ps : List (Framing.Part Header)}

/-- The reader of attributes keeps nothing that it could find an attribute in. -/
theorem blocked_leave {bs : Bytes} (blocked : framing.Blocked bs) :
    framing.Blocked (leave bs) := by
  unfold leave
  split
  · exact .inl (by decide)
  · exact blocked

/-- **A row is read as its attributes,** whatever its rest is. -/
theorem all_of_row (row : framing.Row d ps rest) : all d = ps.map ofPart := by
  induction row with
  | rest blocked => rw [all_eq, reads_next?.next?_of_blocked blocked, List.map_nil]
  | part complete padded _ ih =>
    rw [all_eq, reads_next?.next?_bytes_append complete padded]
    simp only [ih, List.map_cons]

/-- **The reader of attributes accepts exactly the framing.** It ends after at most one
attribute for every four bytes, and each later call gives nothing. It gives these
attributes just where the payload is a row of them, each with its padding, and some
rest; a payload is such a row in one way. So all that stands before the first header
that does not fit is given, in order and once, and nothing behind it is. -/
theorem all_accepts_rows (d : Bytes) :
    ((all d).length ≤ d.length / 4 ∧
      ∀ k, (calls pull ((all d).length + k) d).1 =
        (all d).map some ++ List.replicate k none) ∧
    (∀ as, all d = as ↔ ∃ ps rest, framing.Row d ps rest ∧ as = ps.map ofPart) ∧
    ∃! r : List (Framing.Part Header) × Bytes,
      framing.Row d r.1 r.2 ∧ d = r.1.flatMap framing.bytes ++ r.2 := by
  have row := framing.row_parts d
  refine ⟨⟨?_, fun k => ?_⟩, fun as => ⟨?_, ?_⟩, ?_⟩
  · rw [all_of_row row, List.length_map]
    exact framing.length_parts_le d
  · rw [all_of_row row, List.length_map]
    exact congrArg Prod.fst (reads_next?.calls_of_row leave blocked_leave row k)
  · rintro rfl
    exact ⟨_, _, row, all_of_row row⟩
  · rintro ⟨ps, rest, row, rfl⟩
    exact all_of_row row
  · obtain ⟨r, hr, unique⟩ := framing.existsUnique_row d
    exact ⟨r, ⟨hr, hr.eq_append⟩, fun r' hr' => unique r' hr'.1⟩

end Attribute
end TcpCensus
