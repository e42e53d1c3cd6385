/-
# No leakage between calls

The kernel answers a request with complete envelopes that carry the request's number.
What lies between it and a session may do with them as it likes: delay them into a
later call, reorder, repeat or drop them, and part them into datagrams in any way. An
`Answer` is an envelope with the call it was produced for, which is known to nobody,
and a run is honest if every answer that arrives was produced for a request that had
been tried by then (`Session.Honest`).

* `Session.Delivers.apart`: the number tells the answers of a call apart from all
  others, for numbers are used once.
* `isolated`: so the samples of a call, and the envelope that ends it, come from its
  own answers, and without the others the call would have gone the same way.
-/

import TcpCensus.Proofs.Contract

namespace TcpCensus

/-! ### Answers on their way -/

/-- An envelope on its way to a session. -/
structure Answer where
  /-- The call it was produced for, counted from zero. -/
  call : Nat
  frame : Frame

namespace Answer

/-- The envelope of an answer. -/
def envelope (a : Answer) : Envelope := a.frame.envelope

/-- The datagram that some answers are put into. -/
def pack (answers : List Answer) : Bytes := answers.flatMap (·.frame.bytes)

/-- A datagram is read as the envelopes that were put into it. -/
theorem split_pack (answers : List Answer) :
    (Envelope.split (pack answers)).1 = answers.map envelope := by
  have h := Envelope.split_flatMap_bytes (answers.map frame)
  rw [List.flatMap_map] at h
  rw [pack, h, List.map_map]
  rfl

/-- The answers among some that were produced for a call. -/
def of (k : Nat) (answers : List Answer) : List Answer := answers.filter (·.call = k)

end Answer

/-- What a receive of a call brings. -/
inductive Arrival
  /-- A datagram of complete envelopes; so many bytes are reported for it. -/
  | datagram (answers : List Answer) (reported : Nat)
  /-- The receive fails. -/
  | failure (cause : Error)

namespace Arrival

/-- The answers that a receive brings. -/
def answers : Arrival → List Answer
  | .datagram answers _ => answers
  | .failure _ => []

/-- What happens on the link. -/
def event : Arrival → Link.Event
  | .datagram answers reported => .datagram (Answer.pack answers) reported
  | .failure cause => .failure cause

/-- What the receive comes to. -/
def outcome : Arrival → Except Error Bytes
  | .datagram answers _ => .ok (Answer.pack answers)
  | .failure cause => .error cause

/-- The same without the answers to other calls. -/
def only (k : Nat) : Arrival → Arrival
  | .datagram answers reported => .datagram (Answer.of k answers) reported
  | .failure cause => .failure cause

/-- Some arrivals are told apart by a number: it is on the answers to call `k` and on
no others. -/
def Apart (k : Nat) (seq : UInt32) (arrivals : List Arrival) : Prop :=
  ∀ arrival ∈ arrivals, ∀ a ∈ arrival.answers, a.envelope.header.seq = seq ↔ a.call = k

/-- A receive comes to the datagram that its answers are put into, or to its failure. -/
theorem outcomes_map_event (buffer : Bytes) (arrivals : List Arrival) :
    Link.outcomes buffer (arrivals.map event) = arrivals.map outcome :=
  Link.outcomes_map (fun arrival => by cases arrival <;> rfl) buffer arrivals

end Arrival

/-- What a call meets on a link that brings answers. -/
structure Exchange where
  /-- The family it is asked for. -/
  family : Family
  /-- The store it is given, and the allocator it grows from. -/
  pool : Pool Sample
  /-- Why its send is refused, if it is. -/
  refusals : List Error
  /-- What its receives bring. -/
  arrivals : List Arrival

namespace Exchange

/-- The call's turn in the session. -/
def turn (x : Exchange) : Session.Turn :=
  ⟨x.family, x.pool, x.arrivals.map Arrival.event, x.refusals⟩

/-- The same without the answers to other calls. -/
def only (k : Nat) (x : Exchange) : Exchange :=
  { x with arrivals := x.arrivals.map (Arrival.only k) }

end Exchange

namespace Session

/-- Every answer that arrives in the next call was produced for a request of the
session, tried before or by that call, and carries the number of that request. A
request whose send was refused may have been answered all the same. -/
def Delivers (l : Link) (s : Session) (x : Exchange) : Prop :=
  ∀ arrival ∈ x.arrivals, ∀ a ∈ arrival.answers, ∃ attempt,
    (s.call x.turn).session.link.attempts[l.attempts.length + a.call]? = some attempt ∧
      a.envelope.header.seq = (Envelope.Header.read attempt.message).seq

/-- All that arrives in a run is honest. -/
def Honest (l : Link) (s : Session) : List Exchange → Prop
  | [] => True
  | x :: run => s.Delivers l x ∧ (s.call x.turn).session.Honest l run

/-! ### Numbers tell answers apart -/

variable {l : Link} {s : Session} {x : Exchange} {n k : Nat}

/-- The number of a request says which call it was. -/
theorem Numbered.seq_of_attempt (h : Numbered l s n) {attempt : Link.Attempt}
    (ha : s.link.attempts[l.attempts.length + k]? = some attempt) :
    (Envelope.Header.read attempt.message).seq.toNat = k + 1 := by
  have hnumber : (numbers s.link)[l.attempts.length + k]? =
      some (Envelope.Header.read attempt.message).seq.toNat := by
    rw [numbers, List.getElem?_map, ha]
    rfl
  have hlength : (numbers l).length = l.attempts.length := List.length_map ..
  rw [h.attempts, List.getElem?_append_right (by omega), hlength,
    Nat.add_sub_cancel_left] at hnumber
  obtain ⟨hk, hvalue⟩ := List.getElem?_eq_some_iff.1 hnumber
  rw [List.getElem_range'] at hvalue
  omega

/-- **The number of a call is on its own answers and on no others.** -/
theorem Delivers.apart (h : s.Delivers l x) (hs : Numbered l s n) (few : n + 1 < 2 ^ 32) :
    Arrival.Apart n s.nextSeq x.arrivals := by
  intro arrival harrival a ha
  obtain ⟨attempt, hattempt, hseq⟩ := h arrival harrival a ha
  have hcall : a.envelope.header.seq.toNat = a.call + 1 := by
    rw [hseq]
    exact (hs.call few x.turn).seq_of_attempt hattempt
  have hnext : s.nextSeq.toNat = n + 1 := by
    rw [toNat_nextSeq (by rw [hs.seq]; exact few), hs.seq]
  rw [← UInt32.toNat_inj, hcall, hnext, Nat.add_right_cancel_iff]

/-- In an honest run all that arrives in a call answers a request tried by then. -/
theorem Honest.delivers {earlier later : List Exchange}
    (h : s.Honest l (earlier ++ x :: later)) :
    (s.after (earlier.map Exchange.turn)).Delivers l x := by
  -- On the exchanges before: honesty is said from the front, and each hands it on.
  induction earlier generalizing s with
  | nil => exact h.1
  | cons y earlier ih => exact ih h.2

end Session

/-! ### What a call takes -/

namespace Arrival

variable {k : Nat} {seq : UInt32} {arrivals : List Arrival} {answers : List Answer} {reported : Nat}

/-- The envelopes of a datagram that have the number of a call are its answers. -/
theorem Apart.own_split (h : Apart k seq arrivals) (hmem : .datagram answers reported ∈ arrivals) :
    Dump.own seq (Envelope.split (Answer.pack answers)).1 =
      (Answer.of k answers).map Answer.envelope := by
  rw [Answer.split_pack, Dump.own, List.filter_map, Answer.of]
  refine congrArg _ (List.filter_congr fun a ha => ?_)
  simpa using h _ hmem a ha

/-- Without the other answers a receive has the same for the call. -/
theorem Apart.addressed_only (h : Apart k seq arrivals) {arrival : Arrival}
    (hmem : arrival ∈ arrivals) :
    Dump.addressed seq (arrival.only k).outcome = Dump.addressed seq arrival.outcome := by
  cases arrival with
  | failure cause => rfl
  | datagram answers reported =>
    have own : Dump.own seq (Envelope.split (Answer.pack (Answer.of k answers))).1 =
        (Answer.of k answers).map Answer.envelope := by
      rw [Answer.split_pack, Dump.own, List.filter_eq_self]
      intro e he
      obtain ⟨a, ha, rfl⟩ := List.mem_map.1 he
      obtain ⟨hin, hcall⟩ := List.mem_filter.1 ha
      simpa using (h _ hmem a hin).2 (by simpa using hcall)
    rw [only, outcome, outcome, Dump.addressed, Dump.addressed, own, h.own_split hmem]

/-- What a receive brings to the store are samples of the call's answers. -/
theorem Apart.exists_of_mem_brought (h : Apart k seq arrivals) {arrival : Arrival}
    (hmem : arrival ∈ arrivals) {y : Sample} (hy : y ∈ Dump.brought seq arrival.outcome) :
    ∃ a ∈ Answer.of k arrival.answers, y ∈ a.envelope.samples := by
  cases arrival with
  | failure cause => cases hy
  | datagram answers reported =>
    rw [outcome, Dump.brought, Dump.samples, h.own_split hmem, List.mem_flatMap] at hy
    obtain ⟨e, he, hye⟩ := hy
    obtain ⟨a, ha, rfl⟩ := List.mem_map.1 (List.takeWhile_subset _ he)
    exact ⟨a, ha, hye⟩

/-- The first of the call's answers that ends a dump says how the datagram leaves it. -/
theorem Apart.verdict_split (h : Apart k seq arrivals)
    (hmem : .datagram answers reported ∈ arrivals) :
    Dump.verdict seq (Envelope.split (Answer.pack answers)).1 =
      match (Answer.of k answers).find? (·.envelope.ends) with
      | none => .ok .more
      | some a => a.envelope.verdict := by
  rw [Dump.verdict, h.own_split hmem, List.find?_map]
  cases hfind : (Answer.of k answers).find? (·.envelope.ends) with
  | none =>
    rw [show (Answer.of k answers).find? ((·.ends) ∘ Answer.envelope) = none from hfind]
    rfl
  | some a =>
    rw [show (Answer.of k answers).find? ((·.ends) ∘ Answer.envelope) = some a from hfind]
    rfl

/-- A good end is the end mark of a datagram, the last arrival. -/
theorem exists_of_reason_ok {last : Option Arrival}
    (h : Dump.Reason seq (.ok ()) (last.map outcome)) :
    ∃ answers reported, last = some (.datagram answers reported) ∧
      Dump.verdict seq (Envelope.split (Answer.pack answers)).1 = .ok .complete := by
  match last with
  | none => cases h
  | some (.failure cause) => cases h
  | some (.datagram answers reported) =>
    cases h with
    | complete hverdict => exact ⟨answers, reported, rfl, hverdict⟩

/-- An error of the kernel is the failure of the last receive, or in its datagram. -/
theorem exists_of_reason_kernel {last : Option Arrival} {errno : Errno} {text : String}
    (h : Dump.Reason seq (.error (.kernel errno text)) (last.map outcome)) :
    last = some (.failure (.kernel errno text)) ∨
      ∃ answers reported, last = some (.datagram answers reported) ∧
        Dump.verdict seq (Envelope.split (Answer.pack answers)).1 =
          .error (.kernel errno text) := by
  match last with
  | none => cases h
  | some (.failure cause) =>
    cases h with
    | failure => exact .inl rfl
  | some (.datagram answers reported) =>
    cases h with
    | failed hverdict => exact .inr ⟨answers, reported, rfl, hverdict⟩

end Arrival

/-! ### A call among others -/

namespace Session

/-- The arrivals that a call received. -/
def received (s : Session) (x : Exchange) : List Arrival :=
  x.arrivals.take ((s.call x.turn).session.link.receives - s.link.receives)

/-- Call `k` of a session is isolated from all others. -/
structure Isolated (k : Nat) (s : Session) (x : Exchange) : Prop where
  /-- Its samples are those of its own answers. -/
  samples : ∀ y ∈ (s.call x.turn).pool.store.toList,
    ∃ arrival ∈ s.received x, ∃ a ∈ Answer.of k arrival.answers, y ∈ a.envelope.samples
  /-- If it succeeds, an end mark among its own answers is what ended it. -/
  complete : (s.call x.turn).result = .ok () → ∃ arrival a,
    (s.received x).getLast? = some arrival ∧
      (Answer.of k arrival.answers).find? (·.envelope.ends) = some a ∧
      a.envelope.header.kind = Envelope.done
  /-- If it fails with an error of the kernel, that error is what its send or its last
  receive failed with, or one of its own answers reported it and ended the call. -/
  failed : ∀ errno text, (s.call x.turn).result = .error (.kernel errno text) →
    x.refusals.head? = some (.kernel errno text) ∨
      (s.received x).getLast? = some (.failure (.kernel errno text)) ∨
      ∃ arrival a, (s.received x).getLast? = some arrival ∧
        (Answer.of k arrival.answers).find? (·.envelope.ends) = some a ∧
        a.envelope.header.kind = Envelope.error ∧
        a.envelope.verdict = .error (.kernel errno text)
  /-- Without the answers to other calls it would have gone the same way. -/
  only : (s.call (x.only k).turn).result = (s.call x.turn).result ∧
    (s.call (x.only k).turn).pool = (s.call x.turn).pool ∧
    (s.call (x.only k).turn).session.link.receives = (s.call x.turn).session.link.receives

variable {s : Session} {x : Exchange} {k : Nat}

/-- A call whose send is refused hears of nobody. -/
theorem isolated_of_refused {cause : Error} {causes : List Error}
    (refused : x.refusals = cause :: causes) : Isolated k s x := by
  have hcall : s.call x.turn = _ :=
    sampleInto_of_refused (s := s.meeting x.turn) refused x.family x.pool
  have honly : s.call (x.only k).turn = _ :=
    sampleInto_of_refused (s := s.meeting (x.only k).turn) refused x.family x.pool
  refine ⟨?_, ?_, ?_, ?_⟩
  · intro y hy
    rw [hcall] at hy
    cases hy
  · intro hok
    rw [hcall] at hok
    cases hok
  · intro errno text herror
    rw [hcall] at herror
    cases herror
    exact .inl (by rw [refused]; rfl)
  · rw [hcall, honly]
    exact ⟨rfl, rfl, rfl⟩

/-- A call whose send goes out hears the receives of its exchange. -/
theorem exists_hears_exchange (sent : x.refusals = []) :
    ∃ c, s.call x.turn = c.conclude x.family (s.link.took s.nextSeq) ∧
      Hears (s.meeting x.turn)
        (Dump.hear s.nextSeq x.pool.reset (x.arrivals.map Arrival.outcome)) c := by
  obtain ⟨c, hcall, hears⟩ := exists_hears_call (s := s) (t := x.turn) sent
  rw [show x.turn.script = x.arrivals.map Arrival.event from rfl,
    Arrival.outcomes_map_event] at hears
  exact ⟨c, hcall, hears⟩

/-- The last arrival that a call received is the reason how it ended. -/
theorem exists_reason_call (s : Session) (sent : x.refusals = []) :
    ∃ i, s.received x = x.arrivals.take (i + 1) ∧
      Dump.Reason s.nextSeq (s.call x.turn).result (x.arrivals[i]?.map Arrival.outcome) := by
  obtain ⟨c, hcall, hears⟩ := exists_hears_exchange (s := s) sent
  obtain ⟨i, hi, reason⟩ :=
    Dump.exists_reason_hear s.nextSeq x.pool.reset (x.arrivals.map Arrival.outcome)
  refine ⟨i, ?_, ?_⟩
  · have count : (s.call x.turn).session.link.receives = s.link.receives + (i + 1) := by
      rw [hcall, Call.link_conclude, hears.receives, hi]
      rfl
    rw [received, count, Nat.add_sub_cancel_left]
  · rw [hcall, Call.result_conclude, hears.result, ← List.getElem?_map]
    exact reason

/-- The last of some first arrivals, where there are so many. -/
theorem getLast?_received {i : Nat} (h : s.received x = x.arrivals.take (i + 1)) {arrival : Arrival}
    (hget : x.arrivals[i]? = some arrival) : (s.received x).getLast? = some arrival := by
  rw [h, List.take_add_one, hget]
  exact List.getLast?_concat

/-- A call's samples are those of its own answers. -/
theorem samples_call (sent : x.refusals = []) (h : Arrival.Apart k s.nextSeq x.arrivals) :
    ∀ y ∈ (s.call x.turn).pool.store.toList,
      ∃ arrival ∈ s.received x, ∃ a ∈ Answer.of k arrival.answers, y ∈ a.envelope.samples := by
  intro y hy
  obtain ⟨c, hcall, hears⟩ := exists_hears_exchange (s := s) sent
  have hreceived : s.received x = x.arrivals.take (Dump.hear s.nextSeq x.pool.reset
      (x.arrivals.map Arrival.outcome)).receives := by
    rw [received, hcall, Call.link_conclude, hears.receives]
    exact congrArg (x.arrivals.take ·) (Nat.add_sub_cancel_left ..)
  rw [hcall, Call.toList_conclude, hears.pool] at hy
  rcases Dump.mem_toList_hear hy with hthere | ⟨o, ho, hbrought⟩
  · -- the store was emptied
    cases hthere
  · rw [← List.map_take, ← hreceived] at ho
    obtain ⟨arrival, harrival, rfl⟩ := List.mem_map.1 ho
    have hmem : arrival ∈ x.arrivals := List.mem_of_mem_take (hreceived ▸ harrival)
    exact ⟨arrival, harrival, h.exists_of_mem_brought hmem hbrought⟩

/-- **The answers to other calls make no difference to a call,** down to the number of
receives it makes. -/
theorem call_only (sent : x.refusals = []) (h : Arrival.Apart k s.nextSeq x.arrivals) :
    (s.call (x.only k).turn).result = (s.call x.turn).result ∧
      (s.call (x.only k).turn).pool = (s.call x.turn).pool ∧
      (s.call (x.only k).turn).session.link.receives = (s.call x.turn).session.link.receives := by
  have outcomes : Link.outcomes s.buffer x.turn.script = x.arrivals.map Arrival.outcome :=
    Arrival.outcomes_map_event s.buffer x.arrivals
  have outcomes' : Link.outcomes s.buffer (x.only k).turn.script =
      (x.arrivals.map (Arrival.only k)).map Arrival.outcome := Arrival.outcomes_map_event s.buffer _
  have same : Dump.hear s.nextSeq x.pool.reset (Link.outcomes s.buffer (x.only k).turn.script) =
      Dump.hear s.nextSeq x.pool.reset (Link.outcomes s.buffer x.turn.script) := by
    refine Dump.hear_congr ?_ _
    rw [outcomes, outcomes', List.map_map, List.map_map, List.map_map]
    exact List.map_congr_left fun arrival hmem => h.addressed_only hmem
  have alike : Alike (s.call x.turn) (s.call (x.only k).turn) :=
    alike_of_hear rfl rfl (congrArg Dump.Hearing.result same) (congrArg Dump.Hearing.pool same)
  refine ⟨alike.result, alike.pool, ?_⟩
  rw [receives_call (t := x.turn) sent, receives_call (t := (x.only k).turn) sent]
  exact congrArg (s.link.receives + Dump.Hearing.receives ·) same

/-- A call that hears its own answers apart from the others is isolated from them. -/
theorem isolated_of_sent (sent : x.refusals = []) (h : Arrival.Apart k s.nextSeq x.arrivals) :
    Isolated k s x := by
  obtain ⟨i, hreceived, reason⟩ := exists_reason_call s sent
  refine ⟨samples_call sent h, ?_, ?_, call_only sent h⟩
  · intro hok
    rw [hok] at reason
    obtain ⟨answers, reported, hget, hverdict⟩ := Arrival.exists_of_reason_ok reason
    -- The datagram that ended the call is judged by the answers to this call in it.
    rw [h.verdict_split (List.mem_of_getElem? hget)] at hverdict
    split at hverdict
    · cases hverdict
    · rename_i a hfind
      have kind := Envelope.kind_of_verdict_eq_complete hverdict
      exact ⟨_, a, getLast?_received hreceived hget, hfind, kind⟩
  · intro errno text herror
    rw [herror] at reason
    rcases Arrival.exists_of_reason_kernel reason with hget | ⟨answers, reported, hget, hverdict⟩
    · exact .inr (.inl (getLast?_received hreceived hget))
    · rw [h.verdict_split (List.mem_of_getElem? hget)] at hverdict
      split at hverdict
      · cases hverdict
      · rename_i a hfind
        have hends := List.find?_some hfind
        have kind := Envelope.kind_of_verdict_eq_error hends hverdict
        exact .inr (.inr ⟨_, a, getLast?_received hreceived hget, hfind, kind, hverdict⟩)

/-- **Nothing leaks from one call into another.** In an honest run of fewer than
`2 ^ 32` calls, however they end, each call takes its samples from its own answers and
is ended by one of them, and the answers to other calls make no difference to it. -/
theorem isolated (l : Link) (run : List Exchange) (few : run.length < 2 ^ 32)
    (honest : (start l).Honest l run) (earlier later : List Exchange) (x : Exchange)
    (hrun : run = earlier ++ x :: later) :
    Isolated earlier.length ((start l).after (earlier.map Exchange.turn)) x := by
  subst hrun
  rw [List.length_append, List.length_cons] at few
  have delivers := honest.delivers
  have numbered := numbered_after l (earlier.map Exchange.turn) (by rw [List.length_map]; omega)
  rw [List.length_map] at numbered
  have apart := delivers.apart numbered (by omega)
  cases refusals : x.refusals with
  | nil => exact isolated_of_sent refusals apart
  | cons cause causes => exact isolated_of_refused refusals

/-- The hypotheses of `isolated` can be met. What a first call is answered with, a socket
and an end mark, is delayed into the second, where it comes before that call's own. -/
theorem isolated_second :
    let socket (k : Nat) (seq : UInt32) : Answer :=
      ⟨k, ⟨⟨93, Envelope.diagByFamily, 2, seq, 0⟩,
        DiagRecord.encode ⟨2, 1, 0, 0, .any, 0, 0, 0, 0, 0⟩ ++ [5, 0, 2, 0, 7]⟩, [0, 0, 0],
        by simp [DiagRecord.size, Envelope.Header.size], by decide, 24, rfl⟩
    let mark (k : Nat) (seq : UInt32) : Answer :=
      ⟨k, ⟨⟨16, Envelope.done, 2, seq, 0⟩, []⟩, [], rfl, by decide, 4, rfl⟩
    let first : Exchange := ⟨.inet, ⟨.empty, .generous⟩, [], []⟩
    let second : Exchange := ⟨.inet, ⟨.empty, .generous⟩, [],
      [.datagram [socket 0 1, mark 0 1] 112, .datagram [socket 1 2, mark 1 2] 112]⟩
    let c := ((start {}).after [first.turn]).call second.turn
    (start {}).Honest {} [first, second] ∧
      Isolated 1 ((start {}).after [first.turn]) second ∧
      c.result = .ok () ∧ c.pool.store.toList.length = 1 := by
  intro socket mark first second c
  have delivered : ((start {}).after [first.turn]).Delivers {} second := by
    simp only [Delivers, second, List.forall_mem_cons, Arrival.answers, List.not_mem_nil,
      false_implies, implies_true, and_true]
    have request0 : c.session.link.attempts[0]? = some ⟨DumpRequest.message .inet 1 0, none⟩ := by
      unfold c
      cbv
    have request1 : c.session.link.attempts[1]? = some ⟨DumpRequest.message .inet 2 0, none⟩ := by
      unfold c
      cbv
    exact ⟨⟨⟨_, request0, by cbv⟩, ⟨_, request0, by cbv⟩⟩,
      ⟨_, request1, by cbv⟩, ⟨_, request1, by cbv⟩⟩
  have honest : (start {}).Honest {} [first, second] :=
    ⟨fun _ h => absurd h List.not_mem_nil, delivered, trivial⟩
  have h := isolated {} [first, second] (by decide) honest [first] [] second rfl
  refine ⟨honest, h, ?_, ?_⟩
  · unfold c
    cbv
  · unfold c
    cbv

end Session
end TcpCensus
