/-
# Recovery after calls that went wrong

A call that fails in the middle of a dump leaves the rest of the dump in the queue of
the link, and nothing flushes it. The next call has to read through it. It can, for
its number is new: a datagram with no envelope of that number brings no sample and
ends nothing, whatever else is in it.

* `Dump.Pending`: such datagrams are in the queue, and behind them the dump.
* `sample_recovers`: the call finds its own dump behind them, whole, and leaves in the
  queue what follows it.
-/

import TcpCensus.Proofs.Contract

namespace TcpCensus

/-! ### Queues of datagrams -/

namespace Link

/-- A datagram in the queue of a link. -/
structure Datagram where
  bytes : Bytes
  /-- The number of bytes that its receive reports. -/
  reported : Nat

namespace Datagram

/-- What happens when the datagram is received. -/
def event (d : Datagram) : Event := .datagram d.bytes d.reported

/-- What the receive comes to. -/
def outcome (d : Datagram) : Except Error Bytes := .ok d.bytes

/-- The envelopes in the datagram. -/
def envelopes (d : Datagram) : List Envelope := (Envelope.split d.bytes).1

end Datagram

/-- Each datagram of a queue is received once and in order. -/
theorem exists_outcomes_map_append (buffer : Bytes) (ds : List Datagram) (events : List Event) :
    ∃ buffer', outcomes buffer (ds.map Datagram.event ++ events) =
      ds.map Datagram.outcome ++ outcomes buffer' events :=
  exists_outcomes_map (fun _ => rfl) buffer ds events

end Link

/-! ### Dumps in parts -/

namespace Dump

variable {seq : UInt32} {ds : List Link.Datagram}

/-- A datagram leaves a dump open just where none of its own envelopes ends it. -/
theorem closes_outcome_eq_false_iff {d : Link.Datagram} :
    closes seq d.outcome = false ↔ ∀ e ∈ own seq d.envelopes, e.ends = false := by
  rw [Link.Datagram.outcome, closes, List.any_eq_false]
  simp only [Bool.not_eq_true]
  rfl

/-- Behind datagrams that leave the dump open one more brings its samples: all of them
are one row. -/
theorem flatMap_brought_of_open (h : ∀ d ∈ ds, ∀ e ∈ own seq d.envelopes, e.ends = false)
    (last : Link.Datagram) :
    (ds.map Link.Datagram.outcome ++ [last.outcome]).flatMap (brought seq) =
      samples seq ((ds ++ [last]).flatMap Link.Datagram.envelopes) := by
  induction ds with
  | nil =>
    rw [List.map_nil, List.nil_append, List.nil_append, List.flatMap_singleton,
      List.flatMap_singleton]
    rfl
  | cons d ds ih =>
    have rest := ih fun d' hd' => h d' (.tail _ hd')
    rw [List.map_cons, List.cons_append, List.flatMap_cons, rest, List.cons_append,
      List.flatMap_cons, samples_append_of_open (h d List.mem_cons_self)]
    rfl

/-- What is received before a call ends, and what it ends with. -/
theorem heard_append_of_open {opens : List (Except Error Bytes)} {last : Except Error Bytes}
    (outs : List (Except Error Bytes)) (hopens : ∀ o ∈ opens, closes seq o = false)
    (hlast : closes seq last = true) :
    lead seq (opens ++ last :: outs) = opens ∧ heard seq (opens ++ last :: outs) = opens ++ [last] ∧
      ending seq (opens ++ last :: outs) = ending seq [last] := by
  induction opens with
  | nil =>
    refine ⟨lead_cons_of_closes hlast, heard_cons_of_closes hlast, ?_⟩
    rw [ending, ending, List.nil_append, List.find?_cons_of_pos hlast, List.find?_cons_of_pos hlast]
  | cons o opens ih =>
    have ho : closes seq o = false := hopens o List.mem_cons_self
    obtain ⟨hlead, hheard, hending⟩ := ih fun o' ho' => hopens o' (.tail _ ho')
    rw [List.cons_append, lead_cons_of_open ho, heard_cons_of_open ho, ending_cons_of_open ho,
      hlead, hheard, hending]
    exact ⟨rfl, rfl, rfl⟩

/-- What waits for a call with this number: datagrams left over from other calls, and
behind them a dump, of which the last datagram alone has an end, and that is the end
mark. -/
structure Pending (seq : UInt32) (left dump : List Link.Datagram) (last : Link.Datagram) :
    Prop where
  stale : ∀ d ∈ left, ∀ e ∈ d.envelopes, e.header.seq ≠ seq
  goesOn : ∀ d ∈ dump, ∀ e ∈ d.envelopes, e.header.seq = seq → e.ends = false
  ends : ∃ mark, (last.envelopes.filter (·.header.seq = seq)).find? (·.ends) = some mark ∧
    mark.header.kind = Envelope.done

namespace Pending

variable {left dump : List Link.Datagram} {last : Link.Datagram}

/-- Nothing before the last datagram ends the call: what is left over is not the
caller's, and the dump goes on. -/
theorem open_of_mem (h : Pending seq left dump last) :
    ∀ d ∈ left ++ dump, ∀ e ∈ own seq d.envelopes, e.ends = false := by
  intro d hd e he
  obtain ⟨hmem, hown⟩ := List.mem_filter.1 he
  have hseq : e.header.seq = seq := by simpa using hown
  rcases List.mem_append.1 hd with hleft | hdump
  · exact absurd hseq (h.stale d hleft e hmem)
  · exact h.goesOn d hdump e hmem hseq

/-- **Left-over datagrams add nothing to a dump.** -/
theorem own_flatMap (h : Pending seq left dump last) (ds : List Link.Datagram) :
    own seq ((left ++ ds).flatMap Link.Datagram.envelopes) =
      own seq (ds.flatMap Link.Datagram.envelopes) := by
  have none : own seq (left.flatMap Link.Datagram.envelopes) = [] := by
    refine List.filter_eq_nil_iff.2 fun e he => ?_
    obtain ⟨d, hd, hed⟩ := List.mem_flatMap.1 he
    simpa using h.stale d hd e hed
  rw [List.flatMap_append, own_append, none, List.nil_append]

/-- The last datagram of a dump that is pending completes it. -/
theorem verdict_last (h : Pending seq left dump last) :
    verdict seq last.envelopes = .ok .complete := by
  obtain ⟨mark, hfind, hdone⟩ := h.ends
  rw [verdict, own, hfind]
  exact if_pos hdone

/-- The call hears all of it: as many receives as there are datagrams, the samples of
the dump, and a good end. -/
theorem heard_eq (h : Pending seq left dump last) (outs : List (Except Error Bytes)) :
    let all := (left ++ dump ++ [last]).map Link.Datagram.outcome ++ outs
    (lead seq all).length = left.length + dump.length ∧
      (heard seq all).flatMap (brought seq) =
        samples seq ((dump ++ [last]).flatMap Link.Datagram.envelopes) ∧
      ending seq all = .ok () := by
  intro all
  have parts : all = (left ++ dump).map Link.Datagram.outcome ++ last.outcome :: outs := by
    simp only [all, List.map_append, List.map_singleton, List.append_assoc, List.singleton_append]
  -- What was left over and the dump leave the call open, and the last datagram ends it.
  have opens : ∀ o ∈ (left ++ dump).map Link.Datagram.outcome, closes seq o = false := by
    intro o ho
    obtain ⟨d, hd, rfl⟩ := List.mem_map.1 ho
    exact closes_outcome_eq_false_iff.2 (h.open_of_mem d hd)
  have closed : closes seq last.outcome = true := by
    rw [← Bool.not_eq_false]
    intro hopen
    have more : verdict seq last.envelopes = .ok .more := verdict_eq_more_iff.2 hopen
    rw [h.verdict_last] at more
    cases more
  obtain ⟨hlead, hheard, hending⟩ := heard_append_of_open outs opens closed
  rw [← parts] at hlead hheard hending
  refine ⟨?_, ?_, ?_⟩
  · rw [hlead, List.length_map, List.length_append]
  · rw [hheard, flatMap_brought_of_open h.open_of_mem, samples, List.append_assoc, h.own_flatMap,
      samples]
  · have hlast : ending seq [last.outcome] = (verdict seq last.envelopes).map fun _ => () :=
      ending_cons_of_closes closed
    rw [hending, hlast, h.verdict_last]
    rfl

end Pending
end Dump

namespace Session

/-- **A call recovers, whatever went wrong before it.** Left-over datagrams without an
envelope of the call's number are in the queue, then those of its dump, then whatever
follows. If the send goes out and no growth is refused, the call succeeds with the
samples of its dump up to the end mark, after one receive for each of these
datagrams, and what follows is still in the queue. -/
theorem sample_recovers (l : Link) (turns : List Turn) (few : turns.length < 2 ^ 32 - 1)
    (family : Family) (a : Allocator) (left dump : List Link.Datagram) (last : Link.Datagram)
    (rest : List Link.Event)
    (pending : Dump.Pending (UInt32.ofNat (turns.length + 1)) left dump last)
    (granted : Pool.Takes ⟨.empty, a⟩ (Dump.samples (UInt32.ofNat (turns.length + 1))
      ((dump ++ [last]).flatMap Link.Datagram.envelopes))) :
    let seq := UInt32.ofNat (turns.length + 1)
    let before := (start l).after turns
    let queue := (left ++ dump ++ [last]).map Link.Datagram.event ++ rest
    let c := { before with link := { before.link with script := queue, refusals := [] } }.sample
      family a
    let answers := ((dump ++ [last]).flatMap Link.Datagram.envelopes).filter (·.header.seq = seq)
    c.result = .ok () ∧
      c.pool.store.toList = (answers.takeWhile (!·.ends)).flatMap Envelope.samples ∧
      c.session.link.receives = before.link.receives + (left.length + (dump.length + 1)) ∧
      c.session.link.script = rest := by
  intro seq before queue c answers
  have number : seq = before.nextSeq := (nextSeq_after l turns few).symm
  let t : Turn := ⟨family, ⟨.empty, a⟩, queue, []⟩
  -- Nothing behind the end of the dump is heard, whatever buffer that would be received into.
  obtain ⟨buffer, houts⟩ :=
    Link.exists_outcomes_map_append before.buffer (left ++ dump ++ [last]) rest
  obtain ⟨hlead, hheard, hending⟩ := pending.heard_eq (Link.outcomes buffer rest)
  rw [← houts, show UInt32.ofNat (turns.length + 1) = before.nextSeq from number]
    at hlead hheard hending
  have answered : Answered before.nextSeq before t (Link.outcomes before.buffer t.script) c := by
    refine answered_call rfl ?_
    rw [hheard, ← number]
    exact granted
  refine ⟨answered.result.trans hending, ?_, ?_, ?_⟩
  · rw [answered.store, hheard, ← number]
    rfl
  · rw [answered.receives, hlead, Nat.add_assoc, Nat.add_assoc]
  · rw [answered.script, hlead]
    have count : left.length + dump.length + 1 = (left ++ dump ++ [last]).length := by
      rw [List.length_append, List.length_append, List.length_singleton]
    rw [count]
    exact Link.past_map_append Link.Datagram.event (fun _ => nofun) _ rest

/-- The hypotheses of `sample_recovers` can be met. A first call gives up on a silent
link. What was meant for it is in the queue of the second, its end mark and a piece of
an envelope, and then a dump of one socket. -/
theorem sample_recovers_second :
    let turns : List Turn := [⟨.inet, ⟨.empty, .generous⟩, [], []⟩]
    let mark (seq : UInt32) : Bytes := ({ kind := Envelope.done, flags := 2, seq } : Message).finish
    let socket : Bytes :=
      ((({ kind := Envelope.diagByFamily, flags := 2, seq := 2 } : Message).append
        (DiagRecord.encode ⟨2, 1, 0, 0, .any, 0, 0, 0, 0, 0⟩)).appendAttribute 2 [7]).finish
    let left : List Link.Datagram := [⟨mark 1 ++ [20, 0, 0], 19⟩]
    let dump : List Link.Datagram := [⟨socket, 96⟩]
    let last : Link.Datagram := ⟨mark 2, 16⟩
    let before := (start {}).after turns
    let queue := (left ++ dump ++ [last]).map Link.Datagram.event ++ [.interrupt]
    let c := { before with link := { before.link with script := queue, refusals := [] } }.sample
      .inet .generous
    turns.length < 2 ^ 32 - 1 ∧ Dump.Pending 2 left dump last ∧ c.result = .ok () ∧
      c.pool.store.toList.length = 1 ∧ c.session.link.receives = 4 ∧
      c.session.link.script = [.interrupt] := by
  intro turns mark socket left dump last before queue c
  have stale : (left.all fun d => d.envelopes.all fun e => e.header.seq ≠ 2) = true := by cbv
  have goesOn : (dump.all fun d => d.envelopes.all fun e => e.ends = false) = true := by cbv
  simp only [List.all_eq_true, decide_eq_true_eq] at stale goesOn
  have pending : Dump.Pending 2 left dump last :=
    ⟨stale, fun d hd e he _ => goesOn d hd e he, ⟨⟨16, Envelope.done, 2, 2, 0⟩, []⟩, by cbv, rfl⟩
  have granted : Pool.Takes ⟨.empty, .generous⟩
      (Dump.samples 2 ((dump ++ [last]).flatMap Link.Datagram.envelopes)) :=
    Pool.takes_of_unfailing Allocator.unfailing_generous (by cbv)
  obtain ⟨hresult, hstore, hreceives, hscript⟩ :=
    sample_recovers {} turns (by decide) .inet .generous left dump last [.interrupt] pending granted
  refine ⟨by decide, pending, hresult, ?_, ?_, hscript⟩
  · rw [hstore]
    cbv
  · rw [hreceives]
    cbv

end Session
end TcpCensus
