/-
# Sampling calls

A session makes one call after another over its link. A call empties the store,
sends one dump request under a number of its own, and receives datagrams until
the dump is complete or something fails. Envelopes of other calls tell it
nothing, so what an earlier call left behind on the link does no harm.

* `drain` is the receiving half of a call, `sampleInto` a whole call,
  `sampleAll` a call for each family up to the first that fails.
* `script_lt_of_sampleAll`: calls that succeed use up a part of the script.
-/

import TcpCensus.Dump
import TcpCensus.Link

namespace TcpCensus

/-- What became of the last call. -/
inductive Session.Phase
  /-- There was none. -/
  | idle
  /-- Its dump is complete. -/
  | complete
  | failed
  deriving DecidableEq, Repr

/-- A link with what the calls over it share. -/
structure Session where
  link : Link
  /-- What the last receive left in the buffer. -/
  buffer : Bytes := []
  /-- The number of the last call. -/
  seq : UInt32 := 0
  phase : Session.Phase := .idle

namespace Session

/-- The number of the next call: one more, and never zero. -/
def nextSeq (s : Session) : UInt32 := if s.seq + 1 = 0 then 1 else s.seq + 1

/-- How a call ended, and what it left. -/
structure Call where
  result : Except Error Unit
  session : Session
  pool : Pool Sample
  notes : List Note

namespace Call

/-- The same call, after some earlier notes. -/
def after (c : Call) (notes : List Note) : Call := { c with notes := notes ++ c.notes }

/-- A call come to its end: the session learns how it went, and a call that
succeeded tells how much it found and how long it took. -/
def conclude (c : Call) (family : Family) (took : Duration) : Call :=
  match c.result with
  | .error _ => { c with session := { c.session with phase := .failed } }
  | .ok () =>
    { c with
      session := { c.session with phase := .complete }
      pool := { c.pool with store := c.pool.store.timed took }
      notes := c.notes ++ [.callComplete family c.pool.store.size took] }

/-- To conclude a call does not change how it went. -/
@[simp] theorem result_conclude (c : Call) (family : Family) (took : Duration) :
    (c.conclude family took).result = c.result := by
  unfold conclude
  split <;> rfl

/-- To conclude a call leaves the link as it is. -/
@[simp] theorem link_conclude (c : Call) (family : Family) (took : Duration) :
    (c.conclude family took).session.link = c.session.link := by
  unfold conclude
  split <;> rfl

end Call

/-- Receive and read datagrams until the dump with this number is complete. -/
def drain (seq : UInt32) (s : Session) (p : Pool Sample) : Call :=
  let receipt := s.link.receive s.buffer
  let received := { s with link := receipt.link, buffer := receipt.buffer }
  match _h : receipt.outcome with
  | .error e => ⟨.error e, received, p, []⟩
  | .ok n =>
    let o := Dump.read seq p receipt.buffer
    let notes := .datagramReceived n :: o.notes
    match o.result with
    | .error e => ⟨.error e, received, o.pool, notes⟩
    | .ok .complete => ⟨.ok (), received, o.pool, notes⟩
    | .ok .more => (drain seq received o.pool).after notes
termination_by s.link.script.length
decreasing_by exact Link.script_lt_of_receive _h

/-- Sample a family into a store, which is emptied first. After a failure the
store keeps the samples read until then. -/
def sampleInto (s : Session) (family : Family) (p : Pool Sample) : Call :=
  let seq := s.nextSeq
  match s.link.send (DumpRequest.message family seq s.link.port) with
  | (.error e, link) => ⟨.error e, { s with link, seq, phase := .failed }, p.reset, []⟩
  | (.ok (), link) =>
    ((drain seq { s with link, seq } p.reset).after [.requestSent family seq]).conclude family
      (s.link.took seq)

/-- Sample a family into a new store. -/
def sample (s : Session) (family : Family) (a : Allocator) : Call :=
  s.sampleInto family { store := .empty, allocator := a }

/-- How a call for each of several families ended, and what it left. -/
structure Round where
  result : Except Error (List (Store Sample))
  session : Session
  allocator : Allocator
  notes : List Note

/-- Sample families in order, each into a new store, up to the first failure. -/
def sampleAll (s : Session) (a : Allocator) : List Family → Round
  | [] => ⟨.ok [], s, a, []⟩
  | family :: families =>
    let c := s.sample family a
    match c.result with
    | .error e => ⟨.error e, c.session, c.pool.allocator, c.notes⟩
    | .ok () =>
      let r := sampleAll c.session c.pool.allocator families
      { r with result := r.result.map (c.pool.store :: ·), notes := c.notes ++ r.notes }

/-! ### Calls use up the script -/

/-- A dump that is complete has used up the datagram with its end mark. -/
theorem script_lt_of_drain {seq : UInt32} {s : Session} {p : Pool Sample}
    (h : (drain seq s p).result = .ok ()) :
    (drain seq s p).session.link.script.length < s.link.script.length := by
  fun_induction drain seq s p with
  | case1 => cases h
  | case2 => cases h
  | case3 s p receipt received n hn => exact Link.script_lt_of_receive hn
  | case4 s p receipt received n hn o notes ho ih =>
    exact Nat.lt_trans (ih h) (Link.script_lt_of_receive hn)

/-- A call that succeeds uses up a part of the script: its send takes nothing from it, its
receives do. -/
theorem script_lt_of_sampleInto {s : Session} {family : Family} {p : Pool Sample}
    (h : (s.sampleInto family p).result = .ok ()) :
    (s.sampleInto family p).session.link.script.length < s.link.script.length := by
  have hsend := s.link.script_send (DumpRequest.message family s.nextSeq s.link.port)
  unfold sampleInto at h ⊢
  match hs : s.link.send (DumpRequest.message family s.nextSeq s.link.port) with
  | (.error e, link) => simp [hs] at h
  | (.ok (), link) =>
    simp only [hs, Call.result_conclude, Call.link_conclude] at h hsend ⊢
    exact hsend ▸ script_lt_of_drain h

/-- **A round that succeeds uses up a part of the script.** -/
theorem script_lt_of_sampleAll {families : List Family} {s : Session} {a : Allocator}
    {stores : List (Store Sample)} (nonempty : families ≠ [])
    (h : (s.sampleAll a families).result = .ok stores) :
    (s.sampleAll a families).session.link.script.length < s.link.script.length := by
  induction families generalizing s a stores with
  | nil => exact absurd rfl nonempty
  | cons family families ih =>
    rw [sampleAll] at h ⊢
    simp only at h ⊢
    split at h
    · cases h
    · rename_i hc
      have first := script_lt_of_sampleInto hc
      cases families with
      | nil => exact first
      | cons next families =>
        cases hr : (sampleAll (s.sample family a).session (s.sample family a).pool.allocator
            (next :: families)).result with
        | error e => simp [hr, Except.map] at h
        | ok rest => exact Nat.lt_trans (ih (by simp) hr) first

end Session
end TcpCensus
