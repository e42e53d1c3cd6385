/-
# The calls of a session

A session makes its calls one after the other, and what each meets on the link is
not up to it. A `Turn` says what one call meets: whether its send is refused, and
what there is to receive. `Session.after` is the session that a row of turns
leaves behind, so to quantify over turns is to quantify over every history, and
over everything the other side can do in it. A call that comes back has made
finitely many receives, so a script says all that it can meet.

* `numbered_after`: the requests of the first `2 ^ 32 - 1` calls carry the numbers
  1, 2, 3, …, failed calls counted, whatever the calls met. In particular no
  number is zero and none is used twice.
-/

import TcpCensus.Proofs.Request
import TcpCensus.Session

namespace TcpCensus

/-! ### What receiving leaves alone -/

/-- A receive changes the script of a link and the mark of an interrupt. -/
theorem Link.exists_link_receiveFrom (l : Link) (buffer : Bytes) (events : List Event) :
    ∃ script interrupted,
      (l.receiveFrom buffer events).link = { l with script, interrupted } := by
  induction events generalizing l with
  | nil => exact ⟨_, _, rfl⟩
  | cons event events ih =>
    cases event with
    | datagram bytes reported => exact ⟨_, _, rfl⟩
    | unchanged reported => exact ⟨_, _, rfl⟩
    | failure cause => exact ⟨_, _, rfl⟩
    | interrupt => exact ih _

/-- A receive is counted, and sends are left as they are. -/
theorem Link.exists_link_receive (l : Link) (buffer : Bytes) :
    ∃ script interrupted, (l.receive buffer).link =
      { l with script, interrupted, receives := l.receives + 1 } :=
  exists_link_receiveFrom _ buffer l.script

namespace Session

variable {s : Session} {l : Link} {n : Nat}

/-- Receiving leaves a session with its number, its phase and its record of sends. -/
theorem exists_session_drain (seq : UInt32) (s : Session) (p : Pool Sample) :
    ∃ buffer script interrupted receives, (drain seq s p).session =
      { s with buffer, link := { s.link with script, interrupted, receives } } := by
  fun_induction drain seq s p with
  | case1 s p receipt received e he | case2 s p receipt received n hn o notes e ho
  | case3 s p receipt received n hn o notes ho =>
    obtain ⟨script, interrupted, h⟩ := s.link.exists_link_receive s.buffer
    exact ⟨receipt.buffer, script, interrupted, _, by rw [← h]⟩
  | case4 s p receipt received n hn o notes ho ih =>
    obtain ⟨script, interrupted, h⟩ := s.link.exists_link_receive s.buffer
    obtain ⟨buffer, script', interrupted', receives, h'⟩ := ih
    refine ⟨buffer, script', interrupted', receives, h'.trans ?_⟩
    simp only [received, receipt, h]

/-! ### One call -/

/-- The end of a call changes the phase of its session. -/
theorem Call.exists_session_conclude (c : Call) (family : Family) (took : Duration) :
    ∃ phase, (c.conclude family took).session = { c.session with phase } := by
  unfold conclude
  split <;> exact ⟨_, rfl⟩

/-- The session once the request of its next call is sent. -/
def requesting (s : Session) (family : Family) : Session :=
  { s with
    link := s.link.sentOut.tried (DumpRequest.message family s.nextSeq s.link.port) none
    seq := s.nextSeq }

/-- A call whose send is refused is over, with an empty store. -/
theorem sampleInto_of_refused {cause : Error} {causes : List Error}
    (h : s.link.refusals = cause :: causes) (family : Family) (p : Pool Sample) :
    s.sampleInto family p =
      ⟨.error cause,
        { s with
          link := { s.link with refusals := causes }.tried
            (DumpRequest.message family s.nextSeq s.link.port) (some cause)
          seq := s.nextSeq
          phase := .failed }, p.reset, []⟩ := by
  simp only [sampleInto, Link.send, h]

/-- A call whose send goes out receives into the emptied store. -/
theorem sampleInto_of_sent (h : s.link.refusals = []) (family : Family) (p : Pool Sample) :
    s.sampleInto family p =
      ((drain s.nextSeq (s.requesting family) p.reset).after
        [.requestSent family s.nextSeq]).conclude family (s.link.took s.nextSeq) := by
  simp only [sampleInto, Link.send, h, requesting]

/-- **A call uses up one number and tries one send,** which carries that number.
The port and the record of earlier sends stay. -/
theorem exists_session_sampleInto (s : Session) (family : Family) (p : Pool Sample) :
    ∃ buffer phase script refusals later interrupted receives,
      (s.sampleInto family p).session =
        { buffer, phase, seq := s.nextSeq
          link := { s.link with
            script, refusals, later, interrupted, receives
            attempts := s.link.attempts ++
              [⟨DumpRequest.message family s.nextSeq s.link.port, s.link.refusals.head?⟩] } } := by
  cases h : s.link.refusals with
  | cons cause causes =>
    rw [sampleInto_of_refused h]
    exact ⟨_, _, _, _, _, _, _, rfl⟩
  | nil =>
    rw [sampleInto_of_sent h]
    obtain ⟨phase, hphase⟩ := Call.exists_session_conclude
      ((drain s.nextSeq (s.requesting family) p.reset).after [.requestSent family s.nextSeq])
      family (s.link.took s.nextSeq)
    obtain ⟨buffer, script, interrupted, receives, hdrain⟩ :=
      exists_session_drain s.nextSeq (s.requesting family) p.reset
    refine ⟨buffer, phase, script, s.link.sentOut.refusals, s.link.sentOut.later, interrupted,
      receives, ?_⟩
    rw [hphase, Call.after, hdrain]
    rfl

/-! ### A row of calls -/

/-- What a call meets. -/
structure Turn where
  /-- The family it is asked for. -/
  family : Family
  /-- The store it is given, whatever that holds, and the allocator it grows from. -/
  pool : Pool Sample
  /-- What there is to receive. -/
  script : List Link.Event
  /-- Why its send is refused, if it is. -/
  refusals : List Error

/-- A session before its first call. -/
def start (l : Link) : Session := { link := l }

/-- The session with what the next call meets on the link. -/
def meeting (s : Session) (t : Turn) : Session :=
  { s with link := { s.link with script := t.script, refusals := t.refusals } }

/-- The call for a turn. -/
def call (s : Session) (t : Turn) : Call := (s.meeting t).sampleInto t.family t.pool

/-- The session that a row of turns leaves behind. -/
def after (s : Session) : List Turn → Session
  | [] => s
  | t :: ts => (s.call t).session.after ts

/-! ### Numbers -/

/-- Below the largest number the next is one more. -/
theorem toNat_nextSeq (h : s.seq.toNat + 1 < 2 ^ 32) : s.nextSeq.toNat = s.seq.toNat + 1 := by
  have sum : (s.seq + 1).toNat = s.seq.toNat + 1 := by
    rw [UInt32.toNat_add, Nat.mod_eq_of_lt (by simpa using h)]
    rfl
  have nonzero : s.seq + 1 ≠ 0 := fun hz => by
    rw [hz] at sum
    exact absurd sum (by simp)
  rw [nextSeq, if_neg nonzero, sum]

/-- The number that each send tried on a link carried. -/
def numbers (l : Link) : List Nat :=
  l.attempts.map fun a => (Envelope.Header.read a.message).seq.toNat

/-- A session that began over a link has made `n` calls: it knows so, and its sends
were numbered from one to `n`, one each. -/
structure Numbered (l : Link) (s : Session) (n : Nat) : Prop where
  seq : s.seq.toNat = n
  attempts : numbers s.link = numbers l ++ List.range' 1 n

/-- A new session has used no number. -/
theorem numbered_start (l : Link) : Numbered l (start l) 0 where
  seq := rfl
  attempts := (List.append_nil _).symm

/-- A call takes the next number, however it ends. -/
theorem seq_call (s : Session) (t : Turn) : (s.call t).session.seq = s.nextSeq := by
  obtain ⟨_, _, _, _, _, _, _, h⟩ := exists_session_sampleInto (s.meeting t) t.family t.pool
  rw [call, h]
  rfl

/-- A call tries one send, whether it is refused or not. -/
theorem attempts_call (s : Session) (t : Turn) :
    (s.call t).session.link.attempts = s.link.attempts ++
      [⟨DumpRequest.message t.family s.nextSeq s.link.port, t.refusals.head?⟩] := by
  obtain ⟨_, _, _, _, _, _, _, h⟩ := exists_session_sampleInto (s.meeting t) t.family t.pool
  rw [call, h]
  rfl

/-- **One call is numbered next,** whatever it meets. -/
theorem Numbered.call (h : Numbered l s n) (few : n + 1 < 2 ^ 32) (t : Turn) :
    Numbered l (s.call t).session (n + 1) where
  seq := by rw [seq_call, toNat_nextSeq (by rw [h.seq]; exact few), h.seq]
  attempts := by
    have earlier : s.link.attempts.map (fun a => (Envelope.Header.read a.message).seq.toNat) =
        numbers l ++ List.range' 1 n := h.attempts
    rw [numbers, attempts_call, List.map_append, earlier, List.map_singleton,
      DumpRequest.seq_read_message, toNat_nextSeq (by rw [h.seq]; exact few), h.seq,
      List.range'_concat, List.append_assoc, Nat.one_mul, Nat.add_comm]

/-- **Calls are numbered one after the other,** as long as the numbers suffice. -/
theorem Numbered.after (h : Numbered l s n) (ts : List Turn) (few : n + ts.length < 2 ^ 32) :
    Numbered l (s.after ts) (n + ts.length) := by
  induction ts generalizing s n with
  | nil => exact h
  | cons t ts ih =>
    rw [List.length_cons] at few ⊢
    have := ih (h.call (by omega) t) (by omega)
    rwa [show n + 1 + ts.length = n + (ts.length + 1) by omega] at this

/-- **The calls of a session are numbered 1, 2, 3, …,** failed ones counted. -/
theorem numbered_after (l : Link) (ts : List Turn) (few : ts.length < 2 ^ 32) :
    Numbered l ((start l).after ts) ts.length := by
  have := (numbered_start l).after ts (by omega)
  rwa [Nat.zero_add] at this

/-- The number of the call behind a row of turns is one more than the row is long. -/
theorem nextSeq_after (l : Link) (ts : List Turn) (few : ts.length < 2 ^ 32 - 1) :
    ((start l).after ts).nextSeq = UInt32.ofNat (ts.length + 1) := by
  have h := (numbered_after l ts (by omega)).seq
  apply UInt32.toNat_inj.1
  rw [toNat_nextSeq (by omega), h, UInt32.toNat_ofNat', Nat.mod_eq_of_lt (by omega)]

end Session
end TcpCensus
