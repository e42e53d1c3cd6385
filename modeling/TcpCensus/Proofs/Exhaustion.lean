/-
# A call whose store cannot grow

Somewhere in a dump a sample finds the store full, and the allocator refuses it the
room to grow. The refusal comes up through four loops: over the attributes of an
envelope, the envelopes of a datagram, the datagrams of the call. Each stops at once.
Nothing is dropped on the quiet: the call fails with what was asked for, and keeps the
samples before the one that did not fit, exactly as many as the store has room for.

* `Pool.exists_filled`: a store without the room for a row is filled to its capacity.
* `Dump.exists_hear_filled`: the call ends with the datagram that the store runs full in,
  whatever stands behind the sample that did not fit, there or in later datagrams.
* `Session.full_or_exhausted`: a call brings all of its dump, or fails for want of
  room as `Session.Exhausted` says, and the next starts from an empty store.
-/

import TcpCensus.Proofs.Contract

namespace TcpCensus

/-! ### The item that does not fit -/

namespace Pool

variable {α : Type} {p : Pool α} {xs : List α}

/-- A part of a row that is taken is taken. -/
theorem Takes.of_prefix {ys : List α} (h : p.Takes ys) (part : xs <+: ys) : p.Takes xs := by
  obtain ⟨later, rfl⟩ := part
  exact (takes_append_iff.1 h).1

/-- `q` is what becomes of `p`, emptied first, as items are appended that it is not given
the room for. It is full of as many of them as there was room for, and is refused the
growth for the next. -/
structure Filled (p : Pool α) (xs : List α) (q : Pool α) : Prop where
  size : q.store.size = q.store.capacity
  short : q.store.capacity < xs.length
  store : q.store.toList = xs.take q.store.capacity
  takes : p.reset.Takes (xs.take q.store.capacity)
  /-- The refused append leaves the store as it was. -/
  kept : (p.reset.appendAll (xs.take q.store.capacity)).2.store = q.store
  /-- What stands behind the item that is refused makes no difference. -/
  ends : ∀ ys, xs.take (q.store.capacity + 1) <+: ys →
    p.reset.appendAll ys = (.error (.outOfMemory (Store.request q.store.capacity)), q)

/-- **A store that is not given the room for a row is filled to its capacity.** -/
theorem exists_filled (h : ¬ p.reset.Takes xs) : ∃ q, p.Filled xs q := by
  obtain ⟨taken, x, later, rfl, takes, refused⟩ := exists_refused_of_not_takes h
  obtain ⟨size, a, ends⟩ := appendAll_of_refused takes refused
  have items : (p.reset.appendAll taken).2.store.toList = taken := by
    rw [toList_appendAll_of_takes takes]
    exact List.nil_append taken
  -- A growth was refused, so the store was full: its capacity is the number of the samples.
  have length : (p.reset.appendAll taken).2.store.capacity = taken.length := by
    rw [← size, ← Store.length_toList, items]
  have first : (taken ++ x :: later).take taken.length = taken := List.take_left
  have next : (taken ++ x :: later).take (taken.length + 1) = taken ++ [x] := by
    rw [List.take_length_add_append]
    rfl
  refine ⟨⟨(p.reset.appendAll taken).2.store, a⟩, size, ?_, ?_, ?_, ?_, ?_⟩
  · simp only [length, List.length_append, List.length_cons]
    omega
  · simp only [length, first, items]
  · simp only [length, first]
    exact takes
  · simp only [length, first]
  · intro ys hys
    simp only [length, next] at hys
    obtain ⟨more, rfl⟩ := hys
    rw [List.append_assoc, List.singleton_append]
    exact ends more

variable {q : Pool α} {ys : List α}

/-- A part of the row that is taken does not go beyond the room there was. -/
theorem Filled.length_le (h : p.Filled xs q) (hys : ys <+: xs) (taken : p.reset.Takes ys) :
    ys.length ≤ q.store.capacity := by
  by_contra beyond
  have whole : xs.take (q.store.capacity + 1) <+: ys := by
    refine List.prefix_of_prefix_length_le (List.take_prefix _ _) hys ?_
    rw [List.length_take]
    omega
  unfold Takes at taken
  rw [h.ends ys whole] at taken
  cases taken

/-- A part of the row that is not taken goes beyond the room there was. -/
theorem Filled.lt_length (h : p.Filled xs q) (hys : ys <+: xs) (refused : ¬ p.reset.Takes ys) :
    q.store.capacity < ys.length := by
  by_contra within
  refine refused (h.takes.of_prefix ?_)
  refine List.prefix_of_prefix_length_le hys (List.take_prefix _ _) ?_
  have short := h.short
  rw [List.length_take]
  omega

end Pool

/-! ### The datagram it is in -/

namespace Dump

variable {seq : UInt32} {p : Pool Sample} {before outs : List (Except Error Bytes)}
  {datagram : Bytes}

/-- Behind receives that leave the call open it hears the rest. -/
theorem heard_append (hopen : ∀ o ∈ before, closes seq o = false) :
    heard seq (before ++ outs) = before ++ heard seq outs := by
  induction before with
  | nil => rfl
  | cons o before ih =>
    rw [List.cons_append, heard_cons_of_open (hopen o List.mem_cons_self),
      ih fun o' ho => hopen o' (.tail _ ho), List.cons_append]

/-- What is received next is heard, whether it ends the call or not. -/
theorem prefix_heard_cons (seq : UInt32) (o : Except Error Bytes)
    (outs : List (Except Error Bytes)) : [o] <+: heard seq (o :: outs) := by
  cases h : closes seq o with
  | true =>
    rw [heard_cons_of_closes h]
  | false =>
    rw [heard_cons_of_open h]
    exact ⟨heard seq outs, rfl⟩

/-- The samples of the first receives of a call are the first of its samples. -/
theorem prefix_flatMap_brought (hopen : ∀ o ∈ before, closes seq o = false)
    (o : Except Error Bytes) (outs : List (Except Error Bytes)) :
    (before ++ [o]).flatMap (brought seq) <+:
      (heard seq (before ++ o :: outs)).flatMap (brought seq) := by
  obtain ⟨later, hlater⟩ := prefix_heard_cons seq o outs
  refine ⟨later.flatMap (brought seq), ?_⟩
  rw [heard_append hopen, ← hlater, ← List.flatMap_append, List.append_assoc]

/-- **A store that runs full does so in one datagram.** The receives before it leave the
call open, and their samples are taken. -/
theorem exists_refused (h : ¬ p.Takes ((heard seq outs).flatMap (brought seq))) :
    ∃ before datagram after, outs = before ++ .ok datagram :: after ∧
      (∀ o ∈ before, closes seq o = false) ∧ p.Takes (before.flatMap (brought seq)) ∧
      ¬ p.Takes ((before ++ [.ok datagram]).flatMap (brought seq)) := by
  induction outs generalizing p with
  | nil => exact absurd rfl h
  | cons o outs ih =>
    cases o with
    | error e => exact absurd rfl h
    | ok datagram =>
      -- Where the samples of this datagram are taken it leaves the call open, for one is
      -- still to be refused, and the induction finds it behind. If not, this is the datagram.
      by_cases taken : p.Takes (brought seq (.ok datagram))
      · have open' : closes seq (.ok datagram) = false := by
          rw [← Bool.not_eq_true]
          intro closed
          rw [heard_cons_of_closes closed, List.flatMap_singleton] at h
          exact h taken
        rw [heard_cons_of_open open', List.flatMap_cons, Pool.takes_append_iff] at h
        obtain ⟨before, last, after, rfl, hopen, htaken, hrefused⟩ :=
          ih fun hrest => h ⟨taken, hrest⟩
        refine ⟨.ok datagram :: before, last, after, rfl, ?_, ?_, ?_⟩
        · exact List.forall_mem_cons.2 ⟨open', hopen⟩
        · rw [List.flatMap_cons, Pool.takes_append_iff]
          exact ⟨taken, htaken⟩
        · rw [List.cons_append, List.flatMap_cons, Pool.takes_append_iff]
          exact fun hrest => hrefused hrest.2
      · refine ⟨[], datagram, outs, rfl, ?_, rfl, ?_⟩
        · exact fun o ho => absurd ho List.not_mem_nil
        · rwa [List.nil_append, List.flatMap_singleton]

/-- **The call ends with the datagram that its store runs full in,** with the refusal and
the samples that were taken. Nothing is received behind it. -/
theorem hear_of_refused {e : Error} {q : Pool Sample}
    (hopen : ∀ o ∈ before, closes seq o = false) (taken : p.Takes (before.flatMap (brought seq)))
    (refused : p.appendAll ((before ++ [Except.ok datagram]).flatMap (brought seq)) = (.error e, q))
    (after : List (Except Error Bytes)) :
    hear seq p (before ++ .ok datagram :: after) = ⟨.error e, q, before.length + 1⟩ := by
  -- On the outcomes before the datagram: each is heard whole, and the store that it leaves
  -- refuses the rest at the same place.
  induction before generalizing p with
  | nil =>
    rw [List.nil_append, List.flatMap_singleton, brought] at refused
    have effect : (absorb seq p (Envelope.split datagram).1).effect = (.error e, q) := by
      rw [effect_absorb, refused]
    rw [List.nil_append, hear, effect]
    rfl
  | cons o before ih =>
    cases o with
    | error cause => exact absurd (hopen _ List.mem_cons_self) (by simp [closes])
    | ok first =>
      rw [List.flatMap_cons, Pool.takes_append_iff] at taken
      rw [List.cons_append, List.flatMap_cons, Pool.appendAll_append,
        Pool.appendAll_of_takes taken.1] at refused
      have more : verdict seq (Envelope.split first).1 = .ok .more :=
        verdict_eq_more_iff.2 (hopen _ List.mem_cons_self)
      have later := ih (fun o ho => hopen o (.tail _ ho)) taken.2 refused
      rw [brought] at later taken
      rw [List.cons_append, hear, effect_absorb_of_takes taken.1, more]
      simp only [later, List.length_cons]

/-- **A store that runs full ends the call where it does.** What is heard up to the sample
that does not fit decides; neither what stands behind that sample nor what there is to
receive is looked at. -/
theorem exists_hear_filled {q : Pool Sample}
    (refused : ¬ p.reset.Takes ((heard seq outs).flatMap (brought seq)))
    (filled : p.Filled ((heard seq outs).flatMap (brought seq)) q) :
    ∃ before datagram after, outs = before ++ .ok datagram :: after ∧
      (before.flatMap (brought seq)).length ≤ q.store.capacity ∧
      ((heard seq outs).flatMap (brought seq)).take (q.store.capacity + 1) <+:
        (before ++ [.ok datagram]).flatMap (brought seq) ∧
      ∀ datagram' after', ((heard seq outs).flatMap (brought seq)).take (q.store.capacity + 1) <+:
          (before ++ [Except.ok datagram']).flatMap (brought seq) →
        hear seq p.reset (before ++ .ok datagram' :: after') =
          ⟨.error (.outOfMemory (Store.request q.store.capacity)), q, before.length + 1⟩ := by
  obtain ⟨before, datagram, after, houts, hopen, taken, last⟩ := exists_refused refused
  have reach : (before ++ [Except.ok datagram]).flatMap (brought seq) <+:
      (heard seq outs).flatMap (brought seq) := by
    rw [houts]
    exact prefix_flatMap_brought hopen _ _
  have earlier : before.flatMap (brought seq) <+: (heard seq outs).flatMap (brought seq) := by
    refine List.IsPrefix.trans ?_ reach
    rw [List.flatMap_append]
    exact List.prefix_append _ _
  have here := filled.lt_length reach last
  refine ⟨before, datagram, after, houts, filled.length_le earlier taken, ?_, ?_⟩
  · refine List.prefix_of_prefix_length_le (List.take_prefix _ _) reach ?_
    rw [List.length_take]
    omega
  · intro datagram' after' same
    exact hear_of_refused hopen taken (filled.ends _ same) after'

end Dump

/-! ### The call -/

namespace Session

/-- How far a call came that ran out of room. Of receives that come to `outs` it hears
those of `before` and then `datagram`, which brings the one of `full`, its samples, that
the store has no room for. -/
structure Stopped (number : UInt32) (full : List Sample) (s : Session) (t : Turn)
    (outs before : List (Except Error Bytes)) (datagram : Bytes) (c : Call) : Prop where
  split : ∃ after, outs = before ++ .ok datagram :: after
  earlier : (before.flatMap (Dump.brought number)).length ≤ c.pool.store.capacity
  here : c.pool.store.capacity <
    ((before ++ [Except.ok datagram]).flatMap (Dump.brought number)).length
  receives : c.session.link.receives = s.link.receives + (before.length + 1)
  script : c.session.link.script = Link.past (before.length + 1) t.script
  /-- Neither what stands behind that sample in the datagram nor what there is to receive
  behind the datagram makes a difference. -/
  blind : ∀ (t' : Turn) (datagram' : Bytes) (after' : List (Except Error Bytes)),
    t'.pool = t.pool → t'.refusals = [] →
    Link.outcomes s.buffer t'.script = before ++ .ok datagram' :: after' →
    full.take (c.pool.store.capacity + 1) <+:
      (before ++ [Except.ok datagram']).flatMap (Dump.brought number) →
    Alike c (s.call t') ∧ (s.call t').session.link.receives = c.session.link.receives

/-- A call ran out of room for `full`, the samples of what it hears of receives that come
to `outs`. It fails with what was asked for, and keeps the samples that there was room
for. -/
structure Exhausted (number : UInt32) (full : List Sample) (s : Session) (t : Turn)
    (outs : List (Except Error Bytes)) (c : Call) : Prop where
  result : c.result = .error (.outOfMemory (Store.request c.pool.store.capacity))
  phase : c.session.phase = .failed
  pool : t.pool.Filled full c.pool
  stopped : ∃ before datagram, Stopped number full s t outs before datagram c
  /-- The next call makes nothing of the store that this one leaves. -/
  next : ∀ (t' : Turn) (a : Allocator),
    c.session.call { t' with pool := ⟨c.pool.store, a⟩ } =
      c.session.call { t' with pool := ⟨.empty, a⟩ }

/-- A call starts from an empty store, whatever the store that it is given holds. -/
theorem call_reset (s : Session) (t : Turn) :
    s.call { t with pool := t.pool.reset } = s.call t := by
  simp only [call, sampleInto, meeting, Pool.reset]

/-- **A call whose samples are not all taken runs out of room.** -/
theorem exhausted_call {s : Session} {t : Turn} (sent : t.refusals = [])
    (refused : ¬ t.pool.reset.Takes
      ((Dump.heard s.nextSeq (Link.outcomes s.buffer t.script)).flatMap
        (Dump.brought s.nextSeq))) :
    Exhausted s.nextSeq
      ((Dump.heard s.nextSeq (Link.outcomes s.buffer t.script)).flatMap (Dump.brought s.nextSeq))
      s t (Link.outcomes s.buffer t.script) (s.call t) := by
  obtain ⟨q, filled⟩ := Pool.exists_filled refused
  obtain ⟨before, datagram, after, houts, earlier, here, hears⟩ :=
    Dump.exists_hear_filled refused filled
  have heard := hears datagram after here
  rw [← houts] at heard
  have result : (s.call t).result = .error (.outOfMemory (Store.request q.store.capacity)) := by
    rw [result_call sent, heard]
  have pool : (s.call t).pool = q := by
    obtain ⟨c, hcall, hc⟩ := exists_hears_call (s := s) sent
    rw [heard] at hc
    rw [hcall, Call.pool_conclude, hc.result, hc.pool]
  have receives : (s.call t).session.link.receives = s.link.receives + (before.length + 1) := by
    rw [receives_call sent, heard]
  refine ⟨?_, ?_, ?_, ⟨before, datagram, ?_, ?_, ?_, receives, ?_, ?_⟩, ?_⟩
  · rw [result, pool]
  · obtain ⟨c, hcall, -⟩ := exists_hears_call (s := s) sent
    rw [hcall, Call.phase_conclude, ← hcall, result]
  · rw [pool]
    exact filled
  · exact ⟨after, houts⟩
  · rw [pool]
    exact earlier
  · have long := here.length_le
    have short := filled.short
    rw [List.length_take] at long
    rw [pool]
    omega
  · rw [script_call sent, heard]
  · intro t' datagram' after' hpool hsent houts' same
    -- Hearing goes by the samples up to the refused one, so the other call hears as much.
    rw [pool] at same
    have heard' := hears datagram' after' same
    rw [← houts'] at heard'
    refine ⟨alike_of_hear hpool (hsent.trans sent.symm) ?_ ?_, ?_⟩
    · rw [heard, heard']
    · rw [heard, heard']
    · rw [receives, receives_call hsent, hpool, heard']
  · intro t' a
    rw [← call_reset]
    rfl

/-- **A call brings all of its dump or tells that it ran out of room.** Take the receives
that a call makes where no growth of its store is refused, and their samples. A call that
succeeds has all of them. Where a growth is refused the call fails for want of room, with
as many of them as its store has room for. -/
theorem full_or_exhausted (s : Session) (t : Turn) (sent : t.refusals = []) :
    let outs := Link.outcomes s.buffer t.script
    let full := (Dump.heard s.nextSeq outs).flatMap (Dump.brought s.nextSeq)
    let c := s.call t
    (c.result = .ok () → c.pool.store.toList = full) ∧
      (t.pool.reset.Takes full → Answered s.nextSeq s t outs c) ∧
      (¬ t.pool.reset.Takes full → Exhausted s.nextSeq full s t outs c) := by
  intro outs full c
  refine ⟨fun done => ?_, answered_call sent, exhausted_call sent⟩
  by_cases granted : t.pool.reset.Takes full
  · exact (answered_call sent granted).store
  · have failed := (exhausted_call sent granted).result
    rw [show (s.call t).result = .ok () from done] at failed
    cases failed

set_option maxRecDepth 4096 in
/-- The hypothesis of `full_or_exhausted` can be met, and a store can run full: an allocator
that gives room for sixteen samples refuses it for the seventeenth. Behind that one stands
an end mark in the same datagram, and another in the next; neither is acted on. -/
theorem full_or_exhausted_seventeen :
    let record : Message :=
      ({ kind := Envelope.diagByFamily, flags := 2, seq := 1 } : Message).append
        (DiagRecord.encode ⟨2, 1, 0, 0, .any, 0, 0, 0, 0, 0⟩)
    let socket : Message := (List.range 17).foldl (fun m _ => m.appendAttribute 2 [7]) record
    let mark : Message := { kind := Envelope.done, flags := 2, seq := 1 }
    let t : Turn := ⟨.inet, ⟨.empty, .limited 16⟩,
      [.datagram (socket.finish ++ mark.finish) 240, .datagram mark.finish 16], []⟩
    let c := (start {}).call t
    t.refusals = [] ∧ c.result = .error (.outOfMemory 32) ∧ c.pool.store.size = 16 ∧
      c.session.phase = .failed := by
  intro record socket mark t c
  obtain ⟨-, -, exhausted⟩ := full_or_exhausted (start {}) t rfl
  have h := exhausted <| by
    unfold Pool.Takes
    cbv
    simp
  have capacity : c.pool.store.capacity = 16 := by
    have filled := congrArg (·.2.store.capacity) (h.pool.ends _ (List.take_prefix _ _))
    exact filled.symm.trans (by cbv)
  refine ⟨rfl, ?_, h.pool.size.trans capacity, h.phase⟩
  rw [h.result, show (Session.call _ _).pool.store.capacity = 16 from capacity]
  rfl

end Session
end TcpCensus
