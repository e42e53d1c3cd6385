/-
# What a reused buffer shows

Every receive of a session goes into one buffer, and the session reads all that the buffer
holds, not the number of bytes that the receive reports. So none of it may be left from an
earlier datagram. Of the kind of buffer it is asked that emptying one leaves nothing, that
making room makes room and leaves the bytes, and that what arrives is written behind the
bytes, or not at all (`Buffering.Lawful`).

* `Buffering.Lawful.exists_kept`: one receive, whatever the buffer held and had room for.
* `Buffering.receives_fresh`: a row of receives, and the calls that read what they leave.
-/

import TcpCensus.Proofs.Receiving
import TcpCensus.Socket.ReceiveBuffer

namespace TcpCensus

open ReceiveBuffer (roomSize)

namespace Buffering

/-! ### What is asked of a kind of buffer -/

/-- What emptying a buffer, making room in it and writing into it do. What is written of a
datagram goes behind what is held, as far as there is room, and its length is reported. What
becomes of a buffer that has no room at all is left open. -/
structure Lawful {β : Type} (B : Buffering β) : Prop where
  held_clear : ∀ b, B.held (B.clear b) = []
  held_reserve : ∀ b n, B.held (B.reserve b n) = B.held b
  room_reserve : ∀ b n, (B.held b).length + n ≤ B.capacity (B.reserve b n)
  fill_datagram : ∀ b datagram, (B.held b).length < B.capacity b →
    let written := datagram.take (B.capacity b - (B.held b).length)
    (B.fill b (.ok datagram)).1 = .ok written.length ∧
      B.held (B.fill b (.ok datagram)).2 = B.held b ++ written
  fill_failure : ∀ b e,
    (B.fill b (.error e)).1 = .error e ∧ B.held (B.fill b (.error e)).2 = B.held b

/-- The buffers that a socket is run with are of such a kind, however much memory they take. -/
theorem lawful_buffering (spare : Nat) : (ReceiveBuffer.buffering spare).Lawful where
  held_clear _ := rfl
  held_reserve b n := by
    change (b.reserve n spare).bytes = b.bytes
    unfold ReceiveBuffer.reserve
    split <;> rfl
  room_reserve b n := by
    change b.bytes.length + n ≤ (b.reserve n spare).capacity
    unfold ReceiveBuffer.reserve
    split
    · assumption
    · exact Nat.le_add_right _ _
  fill_datagram _ _ _ := ⟨rfl, rfl⟩
  fill_failure _ _ := ⟨rfl, rfl⟩

/-- What may be kept of what arrives: a failure is, and so is a datagram that is no longer
than the room it is given. Of a longer one a part from its front is kept that fills the room. -/
inductive Keeps : Except Error Bytes → Except Error Bytes → Prop
  | failure (e : Error) : Keeps (.error e) (.error e)
  | whole {datagram : Bytes} (short : datagram.length ≤ roomSize) :
    Keeps (.ok datagram) (.ok datagram)
  | cut {datagram kept : Bytes} (long : roomSize < datagram.length) (front : kept <+: datagram)
    (full : roomSize ≤ kept.length) : Keeps (.ok datagram) (.ok kept)

/-- A datagram that is no longer than the room is kept whole. -/
theorem Keeps.eq_of_le {datagram : Bytes} {kept : Except Error Bytes}
    (keeps : Keeps (.ok datagram) kept) (short : datagram.length ≤ roomSize) :
    kept = .ok datagram := by
  cases keeps with
  | whole => rfl
  | cut long => omega

/-- Of a datagram that is longer than the room a front is kept that fills it. -/
theorem Keeps.exists_cut {datagram : Bytes} {kept : Except Error Bytes}
    (keeps : Keeps (.ok datagram) kept) (long : roomSize < datagram.length) :
    ∃ front, kept = .ok front ∧ front <+: datagram ∧ roomSize ≤ front.length := by
  cases keeps with
  | whole short => omega
  | cut _ front full => exact ⟨_, rfl, front, full⟩

/-- A failure is kept as it is. -/
theorem Keeps.eq_of_failure {e : Error} {kept : Except Error Bytes}
    (keeps : Keeps (.error e) kept) : kept = .error e := by
  cases keeps with
  | failure => rfl

/-- What a receive that keeps this comes to, and what the buffer holds then. -/
def shown : Except Error Bytes → Except Error Nat × Bytes
  | .ok kept => (.ok kept.length, kept)
  | .error e => (.error e, [])

section Receive

variable {β : Type} {B : Buffering β}

/-- A buffer that is made ready holds nothing of what it held before. -/
theorem Lawful.held_ready (lawful : B.Lawful) (b : β) : B.held (B.ready b) = [] := by
  unfold ready
  simp only
  split
  · rw [lawful.held_reserve, lawful.held_clear]
  · exact lawful.held_clear b

/-- A buffer that is made ready has the room that a receive is given. -/
theorem Lawful.roomSize_le_capacity_ready (lawful : B.Lawful) (b : β) :
    roomSize ≤ B.capacity (B.ready b) := by
  unfold ready
  simp only
  split
  · have room := lawful.room_reserve (B.clear b) roomSize
    omega
  · omega

/-- **One receive shows what arrives,** whatever the buffer held and had room for. -/
theorem Lawful.exists_kept (lawful : B.Lawful) (b : β) (arrival : Except Error Bytes) :
    ∃ kept, Keeps arrival kept ∧
      ((B.receive b arrival).1, B.held (B.receive b arrival).2) = shown kept := by
  have nothing := lawful.held_ready b
  cases arrival with
  | error e =>
    obtain ⟨outcome, held⟩ := lawful.fill_failure (B.ready b) e
    exact ⟨.error e, .failure e, by rw [receive, outcome, held, nothing, shown]⟩
  | ok datagram =>
    -- An emptied buffer has room, so it is filled with the datagram as far as the room goes.
    have room := lawful.roomSize_le_capacity_ready b
    have unfilled : (B.held (B.ready b)).length < B.capacity (B.ready b) := by
      rw [nothing]
      exact Nat.lt_of_lt_of_le (by decide) room
    obtain ⟨outcome, held⟩ := lawful.fill_datagram (B.ready b) datagram unfilled
    rw [nothing, List.length_nil, Nat.sub_zero] at outcome held
    refine ⟨.ok (datagram.take (B.capacity (B.ready b))), ?_,
      by rw [receive, outcome, held, List.nil_append, shown]⟩
    by_cases short : datagram.length ≤ roomSize
    · rw [List.take_of_length_le (by omega)]
      exact .whole short
    · refine .cut (by omega) (List.take_prefix _ _) ?_
      rw [List.length_take]
      omega

end Receive

/-! ### A row of receives -/

section Row

variable {β : Type}

/-- What receive after receive into one buffer comes to, each with the bytes that the buffer
holds behind it. -/
def receives (B : Buffering β) (b : β) :
    List (Except Error Bytes) → List (Except Error Nat × Bytes)
  | [] => []
  | arrival :: arrivals =>
    let (outcome, after) := B.receive b arrival
    (outcome, B.held after) :: receives B after arrivals

/-- What a session sees of a receive: all that the buffer holds, and the number reported. -/
def seen : Except Error Nat × Bytes → Link.Event
  | (.ok reported, held) => .datagram held reported
  | (.error cause, _) => .failure cause

/-- What a session sees of receive after receive into one buffer. -/
def script (B : Buffering β) (b : β) (arrivals : List (Except Error Bytes)) : List Link.Event :=
  (B.receives b arrivals).map seen

/-- Receive after receive shows what arrives. -/
theorem Lawful.exists_row {B : Buffering β} (lawful : B.Lawful) (b : β)
    (arrivals : List (Except Error Bytes)) :
    ∃ row, List.Forall₂ Keeps arrivals row ∧ B.receives b arrivals = row.map shown := by
  induction arrivals generalizing b with
  | nil => exact ⟨[], .nil, rfl⟩
  | cons arrival arrivals ih =>
    obtain ⟨kept, keeps, first⟩ := lawful.exists_kept b arrival
    obtain ⟨row, later, rest⟩ := ih (B.receive b arrival).2
    refine ⟨kept :: row, .cons keeps later, ?_⟩
    rw [receives, List.map_cons, ← first, ← rest]

end Row

/-- What a receive shows is never an interrupt. -/
theorem seen_shown_ne_interrupt (kept : Except Error Bytes) : (seen ∘ shown) kept ≠ .interrupt := by
  cases kept <;> exact nofun

/-- Receives that are seen so come to what was kept. -/
theorem outcome?_seen_shown (kept : Except Error Bytes) :
    ((seen ∘ shown) kept).outcome? = some kept := by
  cases kept <;> rfl

/-- **A reused buffer shows nothing but what arrives.** Receive after receive into one buffer,
whatever that held and had room for at first, shows what was kept of the arrivals, each its
own: a datagram of up to 32768 bytes whole and with its length reported, of a longer one at
least so many bytes from its front, and nothing after a failure. A call that begins behind
some of the receives, and reads all that the buffer holds after each, hears just what was
kept of the arrivals from there on. -/
theorem receives_fresh {β : Type} {B : Buffering β} (lawful : B.Lawful) (b : β)
    (arrivals : List (Except Error Bytes)) :
    ∃ row, List.Forall₂ Keeps arrivals row ∧ B.receives b arrivals = row.map shown ∧
      ∀ (n : Nat) (seq : UInt32) (s : Session) (p : Pool Sample),
        s.link.script = Link.past n (B.script b arrivals) →
          s.Hears (Dump.hear seq p (row.drop n)) (Session.drain seq s p) := by
  obtain ⟨row, keeps, shows⟩ := lawful.exists_row b arrivals
  refine ⟨row, keeps, shows, fun n seq s p begins => ?_⟩
  have hears := Session.hears_drain seq s p
  rwa [begins, script, shows, List.map_map, Link.past_map _ seen_shown_ne_interrupt,
    Link.outcomes_map outcome?_seen_shown, List.map_id'] at hears

/-- The hypotheses of `receives_fresh` can be met. A buffer holds three bytes of something else.
A long datagram arrives, then the mark that ends a dump, then a failure. The mark is all
that the buffer shows after the second receive, so a call that begins there is complete. -/
theorem receives_fresh_mark :
    let b : ReceiveBuffer := ⟨[1, 2, 3], 3⟩
    let mark : Bytes := ({ kind := Envelope.done, flags := 2, seq := 1 } : Message).finish
    let arrivals := [.ok (List.replicate 40000 7), .ok mark, .error Link.silence]
    let B := ReceiveBuffer.buffering 0
    let s := Session.start { script := Link.past 1 (B.script b arrivals) }
    let c := Session.drain 1 s ⟨.empty, .generous⟩
    B.Lawful ∧
      (∃ long, long <+: List.replicate 40000 7 ∧ 32768 ≤ long.length ∧
        B.receives b arrivals =
          [(.ok long.length, long), (.ok 16, mark), (.error Link.silence, [])]) ∧
      c.result = .ok () ∧ c.session.link.receives = 1 ∧ c.pool.store.toList = [] := by
  intro b mark arrivals B s c
  have lawful : B.Lawful := lawful_buffering 0
  obtain ⟨row, keeps, shows, hears⟩ := receives_fresh lawful b arrivals
  obtain ⟨first, _, hfirst, behind, rfl⟩ := List.forall₂_cons_left_iff.1 keeps
  obtain ⟨second, _, hsecond, last, rfl⟩ := List.forall₂_cons_left_iff.1 behind
  obtain ⟨third, _, hthird, nothing, rfl⟩ := List.forall₂_cons_left_iff.1 last
  obtain ⟨long, rfl, front, full⟩ := hfirst.exists_cut (by rw [List.length_replicate]; decide)
  obtain rfl := hsecond.eq_of_le (by decide)
  obtain rfl := hthird.eq_of_failure
  obtain rfl := List.forall₂_nil_left_iff.1 nothing
  have heard := hears 1 1 s ⟨.empty, .generous⟩ rfl
  have complete : Dump.hear 1 ⟨.empty, .generous⟩ [.ok mark, .error Link.silence] =
      ⟨.ok (), ⟨.empty, .generous⟩, 1⟩ := by cbv
  rw [List.drop_one, List.tail_cons, complete] at heard
  exact ⟨lawful, ⟨long, front, full, shows⟩, heard.result, heard.receives,
    congrArg (·.store.toList) heard.pool⟩

end Buffering
end TcpCensus
