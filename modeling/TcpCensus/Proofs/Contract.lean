/-
# The contract of a call

What a call does is settled by its number and by what it meets. What earlier calls
met, how they ended and what they left in the store does not enter into it, except
that the number counts them.

* A call tries one send, of the request under its number (`DumpRequest.Asks`).
* If the send is refused, the call comes back with the refusal (`Session.Refused`).
* If not, it makes the receives up to and including the first that fails or whose
  datagram ends the dump, and comes back with what that one says and with the
  samples of all of them (`Session.Answered`).

`call_fulfils`: every call of a session of fewer than `2 ^ 32 - 1` earlier ones does
so, where no growth of the store is refused.
-/

import TcpCensus.Proofs.Receiving

namespace TcpCensus
namespace Session

/-- A call came back with the refusal of its send: nothing is received, and the store
is empty. -/
structure Refused (s : Session) (t : Turn) (cause : Error) (c : Call) : Prop where
  result : c.result = .error cause
  store : c.pool.store.toList = []
  receives : c.session.link.receives = s.link.receives
  script : c.session.link.script = t.script
  phase : c.session.phase = .failed

/-- A call came back with what it heard of receives that come to `outs`, which it
filters by its number. -/
structure Answered (number : UInt32) (s : Session) (t : Turn) (outs : List (Except Error Bytes))
    (c : Call) : Prop where
  result : c.result = Dump.ending number outs
  store : c.pool.store.toList = (Dump.heard number outs).flatMap (Dump.brought number)
  receives : c.session.link.receives = s.link.receives + (Dump.lead number outs).length + 1
  script : c.session.link.script = Link.past ((Dump.lead number outs).length + 1) t.script
  phase : c.session.phase =
    match c.result with
    | .ok () => .complete
    | .error _ => .failed
  elapsed : c.result = .ok () → c.pool.store.elapsed = s.link.took number

/-- A call whose send is refused comes back with the refusal. -/
theorem refused_call {s : Session} {t : Turn} {cause : Error} {causes : List Error}
    (h : t.refusals = cause :: causes) : Refused s t cause (s.call t) := by
  have hcall : s.call t = _ := sampleInto_of_refused (s := s.meeting t) h t.family t.pool
  rw [hcall]
  exact ⟨rfl, rfl, rfl, rfl, rfl⟩

/-- A call whose samples are all taken is what it hears. -/
theorem answered_call {s : Session} {t : Turn} (sent : t.refusals = [])
    (granted : t.pool.reset.Takes
      ((Dump.heard s.nextSeq (Link.outcomes s.buffer t.script)).flatMap
        (Dump.brought s.nextSeq))) :
    Answered s.nextSeq s t (Link.outcomes s.buffer t.script) (s.call t) := by
  obtain ⟨c, hcall, hears⟩ := exists_hears_call (s := s) sent
  rw [Dump.hear_of_takes granted] at hears
  rw [hcall]
  refine ⟨?_, ?_, ?_, ?_, Call.phase_conclude .., fun hok => ?_⟩
  · rw [Call.result_conclude, hears.result]
  · rw [Call.toList_conclude, hears.pool, Pool.toList_appendAll_of_takes granted]
    rfl
  · rw [Call.link_conclude, hears.receives, Nat.add_assoc]
    rfl
  · rw [Call.link_conclude, hears.script]
    rfl
  · rw [Call.result_conclude] at hok
    rw [Call.pool_conclude, hok]
    rfl

/-- **Every call fulfils its contract,** whatever the calls before it met. The call
behind `n` others has the number `n + 1`, tries one send, of the request under that
number, and then comes back as its send and its receives say. -/
theorem call_fulfils (l : Link) (turns : List Turn) (few : turns.length < 2 ^ 32 - 1) (t : Turn) :
    let s := (start l).after turns
    let number := UInt32.ofNat (turns.length + 1)
    let outs := Link.outcomes s.buffer t.script
    let c := s.call t
    ∃ message,
      c.session.link.attempts = s.link.attempts ++ [⟨message, t.refusals.head?⟩] ∧
      DumpRequest.Asks message t.family number s.link.port ∧
      match t.refusals with
      | cause :: _ => Refused s t cause c
      | [] =>
        t.pool.reset.Takes ((Dump.heard number outs).flatMap (Dump.brought number)) →
          Answered number s t outs c := by
  intro s number outs c
  have hnumber : s.nextSeq = number := nextSeq_after l turns few
  refine ⟨DumpRequest.message t.family number s.link.port, ?_, DumpRequest.asks_message .., ?_⟩
  · rw [← hnumber]
    exact attempts_call s t
  · split
    · rename_i cause causes refused
      exact refused_call refused
    · rename_i sent
      rw [← hnumber]
      exact answered_call sent

/-- The hypotheses of `call_fulfils` can be met. A first call is refused its send. The
second receives the end mark of the first before a socket of its own and its own end
mark, which the kernel is then silent behind. -/
theorem call_fulfils_second :
    let turns : List Turn := [⟨.inet, ⟨.empty, .generous⟩, [], [Link.silence]⟩]
    let mark (seq : UInt32) : Bytes := ({ kind := Envelope.done, flags := 2, seq } : Message).finish
    let socket : Bytes :=
      ((({ kind := Envelope.diagByFamily, flags := 2, seq := 2 } : Message).append
        (DiagRecord.encode ⟨10, 1, 0, 0, .any, 0, 0, 0, 0, 0⟩)).appendAttribute 2 [7]).finish
    let t : Turn := ⟨.inet6, ⟨.empty, .generous⟩,
      [.datagram (mark 1) 16, .interrupt, .datagram (socket ++ mark 2) 112], []⟩
    let c := ((start {}).after turns).call t
    turns.length < 2 ^ 32 - 1 ∧ c.result = .ok () ∧ c.session.link.receives = 2 ∧
      c.session.link.script = [] ∧ c.pool.store.toList.length = 1 := by
  intro turns mark socket t c
  obtain ⟨message, -, -, answered⟩ := call_fulfils {} turns (by decide) t
  have granted : t.pool.reset.Takes
      ((Dump.heard 2 (Link.outcomes ((start {}).after turns).buffer t.script)).flatMap
        (Dump.brought 2)) :=
    Pool.takes_of_unfailing Allocator.unfailing_generous (by cbv)
  have h : Answered 2 _ t _ c := answered granted
  refine ⟨by decide, ?_, ?_, ?_, ?_⟩
  · rw [h.result]
    cbv
  · rw [h.receives]
    cbv
  · rw [h.script]
    cbv
  · rw [h.store]
    cbv

end Session
end TcpCensus
