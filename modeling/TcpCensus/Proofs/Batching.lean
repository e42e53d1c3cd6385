/-
# How envelopes are parted into datagrams

The kernel puts as many envelopes into a datagram as it sees fit. A reader goes on in
the next datagram exactly where it stopped in the last, so the grouping makes no
difference: not to the samples, not to how the dump ends, and not to what is asked of
the allocator.

* `Dump.readEach`: datagrams are read one after the other, while the dump is open.
* `Dump.readEach_map_pack`: for datagrams of complete envelopes this is to read all
  envelopes as one row.
* `Session.regrouped`: so two groupings of the same envelopes are read alike, and a
  call that receives the one goes the way of a call that receives the other.
-/

import TcpCensus.Proofs.Recovery

namespace TcpCensus

/-! ### Datagrams of frames -/

/-- The datagram that some frames are put into. -/
def Frame.pack (fs : List Frame) : Bytes := fs.flatMap Frame.bytes

/-- A datagram of frames is read as their envelopes, with nothing left over. -/
theorem Frame.split_pack (fs : List Frame) :
    Envelope.split (pack fs) = (fs.map Frame.envelope, []) :=
  Envelope.split_flatMap_bytes fs

/-- Frames that are packed group by group have the bytes of all frames in a row. -/
theorem Frame.flatMap_pack (groups : List (List Frame)) :
    groups.flatMap pack = pack groups.flatten := by
  rw [pack, List.flatten_eq_flatMap, List.flatMap_assoc]
  rfl

namespace Dump

variable {seq : UInt32} {p : Pool Sample}

/-- Read datagrams one after the other, up to the first that does not leave the dump
open. -/
def readEach (seq : UInt32) (p : Pool Sample) : List Bytes → Outcome
  | [] => ⟨.ok .more, p, []⟩
  | datagram :: datagrams =>
    match (read seq p datagram).result with
    | .ok .more =>
      (readEach seq (read seq p datagram).pool datagrams).after (read seq p datagram).notes
    | _ => read seq p datagram

/-- Nothing is left over of a datagram of frames, so to read it is to read its row. -/
theorem read_pack (fs : List Frame) :
    read seq p (Frame.pack fs) = absorb seq p (fs.map Frame.envelope) := by
  have rest : restNotes [] = [] := rfl
  rw [read, Frame.split_pack]
  simp only [rest, List.append_nil]
  split <;> rfl

/-- **Reading goes on in the next datagram** where it stopped in the last: datagrams of
frames are read one after the other like the row of all their envelopes. -/
theorem readEach_map_pack (groups : List (List Frame)) :
    readEach seq p (groups.map Frame.pack) =
      absorb seq p (groups.flatten.map Frame.envelope) := by
  induction groups generalizing p with
  | nil => rfl
  | cons fs groups ih =>
    rw [List.map_cons, readEach, read_pack, List.flatten_cons, List.map_append, absorb_append]
    cases (absorb seq p (fs.map Frame.envelope)).result with
    | error e => rfl
    | ok progress =>
      cases progress with
      | more => exact congrArg (Outcome.after · _) ih
      | complete => rfl

/-! ### Receives of datagrams -/

/-- The envelopes of datagrams that are received first come first. -/
theorem stream_map_ok_append (datagrams : List Bytes) (outs : List (Except Error Bytes)) :
    stream (datagrams.map .ok ++ outs) =
      (datagrams.flatMap fun datagram => (Envelope.split datagram).1) ++ stream outs := by
  induction datagrams with
  | nil => rfl
  | cons datagram datagrams ih =>
    rw [List.map_cons, List.cons_append, stream, ih, List.flatMap_cons, List.append_assoc]

/-- Datagrams that are received put off the first failure and do not change it. -/
theorem failure_map_ok_append (datagrams : List Bytes) (outs : List (Except Error Bytes)) :
    failure (datagrams.map .ok ++ outs) = failure outs := by
  induction datagrams with
  | nil => rfl
  | cons datagram datagrams ih => exact ih

/-- The envelopes of received groups are one row. -/
theorem stream_map_pack_append (groups : List (List Frame)) (outs : List (Except Error Bytes)) :
    stream ((groups.map Frame.pack).map .ok ++ outs) =
      groups.flatten.map Frame.envelope ++ stream outs := by
  have row : (groups.map Frame.pack).flatMap (fun datagram => (Envelope.split datagram).1) =
      groups.flatten.map Frame.envelope := by
    rw [List.flatMap_map, List.map_flatten, List.flatMap]
    simp only [Frame.split_pack]
  rw [stream_map_ok_append, row]

/-- **Two groupings of the same frames are heard alike,** whatever is received behind
them, except for the number of receives. -/
theorem hear_regroup {groups groups' : List (List Frame)} (same : groups'.flatten = groups.flatten)
    (seq : UInt32) (p : Pool Sample) (outs : List (Except Error Bytes)) :
    (hear seq p ((groups'.map Frame.pack).map .ok ++ outs)).result =
        (hear seq p ((groups.map Frame.pack).map .ok ++ outs)).result ∧
      (hear seq p ((groups'.map Frame.pack).map .ok ++ outs)).pool =
        (hear seq p ((groups.map Frame.pack).map .ok ++ outs)).pool := by
  have h := effect_hear seq p ((groups.map Frame.pack).map .ok ++ outs)
  have h' := effect_hear seq p ((groups'.map Frame.pack).map .ok ++ outs)
  rw [stream_map_pack_append, failure_map_ok_append] at h h'
  rw [same, ← h] at h'
  exact ⟨congrArg Prod.fst h', congrArg Prod.snd h'⟩

end Dump

/-! ### Calls -/

namespace Link

/-- Where every receive fills the buffer anew, what it held before does not matter. -/
theorem outcomes_eq_of_fresh {events : List Event} (fresh : ∀ n, .unchanged n ∉ events)
    (buffer buffer' : Bytes) : outcomes buffer events = outcomes buffer' events := by
  induction events with
  | nil => rfl
  | cons event events ih =>
    have later := ih fun n hn => fresh n (.tail _ hn)
    cases event with
    | datagram bytes reported => rfl
    | unchanged reported => exact absurd List.mem_cons_self (fresh reported)
    | failure cause => exact congrArg (.error cause :: ·) later
    | interrupt => exact later

/-- The datagrams of a queue are the groups of frames, one each. -/
def Carries (queue : List Datagram) (groups : List (List Frame)) : Prop :=
  queue.map Datagram.bytes = groups.map Frame.pack

/-- The receives of a queue bring its groups, whatever lengths are reported. -/
theorem Carries.map_outcome {queue : List Datagram} {groups : List (List Frame)}
    (h : Carries queue groups) :
    queue.map Datagram.outcome = (groups.map Frame.pack).map .ok := by
  rw [← h, List.map_map]
  rfl

end Link

namespace Session

/-- **How envelopes are parted into datagrams does not matter.** Datagrams of complete
envelopes are read one after the other as one datagram of them all would be: the same
result, the same store, and the same of the allocator. And calls that receive the same
envelopes in two groupings, with the same behind them, come to the same, whether their
send goes out or not. -/
theorem regrouped (groups : List (List Frame)) :
    (∀ seq p, Dump.readEach seq p (groups.map Frame.pack) =
      Dump.read seq p (groups.flatMap Frame.pack)) ∧
    ∀ groups' : List (List Frame), groups'.flatten = groups.flatten →
      ∀ queue queue' : List Link.Datagram, Link.Carries queue groups →
        Link.Carries queue' groups' →
      ∀ rest : List Link.Event, (∀ n, .unchanged n ∉ rest) →
      ∀ (s : Session) (family : Family) (pool : Pool Sample) (refusals : List Error),
        Alike (s.call ⟨family, pool, queue.map Link.Datagram.event ++ rest, refusals⟩)
          (s.call ⟨family, pool, queue'.map Link.Datagram.event ++ rest, refusals⟩) := by
  constructor
  · intro seq p
    rw [Dump.readEach_map_pack, Frame.flatMap_pack, Dump.read_pack]
  · intro groups' same queue queue' carries carries' rest fresh s family pool refusals
    -- The two queues leave different bytes in the buffer, but none of what is behind reads them.
    obtain ⟨last, houts⟩ := Link.exists_outcomes_map_append s.buffer queue rest
    obtain ⟨last', houts'⟩ := Link.exists_outcomes_map_append s.buffer queue' rest
    rw [carries.map_outcome] at houts
    rw [carries'.map_outcome, Link.outcomes_eq_of_fresh fresh last' last] at houts'
    obtain ⟨result, store⟩ := Dump.hear_regroup same s.nextSeq pool.reset
      (Link.outcomes last rest)
    rw [← houts, ← houts'] at result store
    exact alike_of_hear rfl rfl result store

/-- The hypotheses of `regrouped` can be met: a socket, whose frame needs padding, and the
end mark in one datagram, or in two with an empty one between them. -/
theorem regrouped_mark :
    let socket : Frame :=
      ⟨⟨⟨93, Envelope.diagByFamily, 2, 1, 0⟩,
        DiagRecord.encode ⟨2, 1, 0, 0, .any, 0, 0, 0, 0, 0⟩ ++ [5, 0, 2, 0, 7]⟩, [1, 2, 3],
        by simp [DiagRecord.size, Envelope.Header.size], by decide, by decide⟩
    let mark : Frame :=
      ⟨⟨⟨16, Envelope.done, 2, 1, 0⟩, []⟩, [], rfl, by decide, by decide⟩
    let queue : List Link.Datagram := [⟨Frame.pack [socket, mark], 112⟩]
    let queue' : List Link.Datagram :=
      [⟨Frame.pack [socket], 96⟩, ⟨Frame.pack [], 0⟩, ⟨Frame.pack [mark], 16⟩]
    let c := (start {}).call ⟨.inet, ⟨.empty, .generous⟩, queue.map Link.Datagram.event ++ [], []⟩
    let c' := (start {}).call ⟨.inet, ⟨.empty, .generous⟩, queue'.map Link.Datagram.event ++ [], []⟩
    Link.Carries queue [[socket, mark]] ∧ Link.Carries queue' [[socket], [], [mark]] ∧
      Alike c c' ∧ c'.result = .ok () ∧ c.pool.store.toList.length = 1 := by
  intro socket mark queue queue' c c'
  have carries : Link.Carries queue [[socket, mark]] := rfl
  have carries' : Link.Carries queue' [[socket], [], [mark]] := rfl
  have alike : Alike c c' := (regrouped [[socket, mark]]).2 [[socket], [], [mark]] rfl queue queue'
    carries carries' [] (fun _ => List.not_mem_nil) (start {}) .inet ⟨.empty, .generous⟩ []
  have ended : c.result = .ok () := by
    unfold c
    cbv
  refine ⟨carries, carries', alike, alike.result.trans ended, ?_⟩
  unfold c
  cbv

end Session
end TcpCensus
