/-
# Calls in turn

To sample several families is to make a call for each, one after the other on the same
session, each into a store of its own. `Standing.calls` makes the calls for a row of
families whether they succeed or not; what `Session.sampleAll` does is told by them.

* `calls_cases`: of the calls for a row either all succeed or there is a first that fails.
* `sampleAll_of_ok`: if all succeed, their stores are returned in order.
* `sampleAll_of_error`: if one fails, its error is returned, and the session is left as
  that call left it; for the families behind it nothing is done.
* `messages_after`, `exists_attempt_after`: the requests of the calls are for the families in
  order, and are numbered one after the other.
* `calm_after`, `quiet_calls`: calls do not bring about an interrupt, and leave it to the
  command line to tell about rounds.
-/

import TcpCensus.Proofs.History
import TcpCensus.Proofs.Request

namespace TcpCensus

/-! ### Links without an interrupt -/

/-- The user has not asked for an end and is not going to. -/
structure Link.Calm (l : Link) : Prop where
  interrupted : l.interrupted = false
  script : .interrupt ∉ l.script

namespace Link.Calm

variable {l : Link}

/-- Events without an interrupt bring none about. -/
theorem receiveFrom (buffer : Bytes) {events : List Event} (calm : l.interrupted = false)
    (h : .interrupt ∉ events) : (l.receiveFrom buffer events).link.Calm := by
  have later : ∀ event : Event, ∀ rest, events = event :: rest → .interrupt ∉ rest := by
    rintro event rest rfl hmem
    exact h (.tail _ hmem)
  cases events with
  | nil => exact ⟨calm, List.not_mem_nil⟩
  | cons event rest =>
    have hrest := later event rest rfl
    cases event with
    | datagram bytes reported => exact ⟨calm, hrest⟩
    | unchanged reported => exact ⟨calm, hrest⟩
    | failure cause => exact ⟨calm, hrest⟩
    | interrupt => exact absurd List.mem_cons_self h

/-- A receive on a calm link leaves it calm. -/
theorem receive (h : l.Calm) (buffer : Bytes) : (l.receive buffer).link.Calm :=
  receiveFrom buffer h.interrupted h.script

end Link.Calm

namespace Session

/-- Receiving does not bring about an interrupt. -/
theorem calm_drain {seq : UInt32} {s : Session} {p : Pool Sample} (h : s.link.Calm) :
    (drain seq s p).session.link.Calm := by
  fun_induction drain seq s p with
  | case1 s p receipt received e he => exact h.receive s.buffer
  | case2 s p receipt received n hn o notes e ho => exact h.receive s.buffer
  | case3 s p receipt received n hn o notes ho => exact h.receive s.buffer
  | case4 s p receipt received n hn o notes ho ih => exact ih (h.receive s.buffer)

/-- A call does not bring about an interrupt. -/
theorem calm_sampleInto {s : Session} (h : s.link.Calm) (family : Family) (p : Pool Sample) :
    (s.sampleInto family p).session.link.Calm := by
  cases hsend : s.link.refusals with
  | cons cause causes =>
    rw [sampleInto_of_refused hsend]
    exact ⟨h.interrupted, h.script⟩
  | nil =>
    rw [sampleInto_of_sent hsend, Call.link_conclude]
    exact calm_drain (s := s.requesting family) ⟨h.interrupted, h.script⟩

end Session

/-! ### What calls tell -/

/-- Some notes are none of the command line's. -/
def Quiet (notes : List Note) : Prop := ∀ n ∈ notes, n.part ≠ .commandLine

/-- Quiet notes behind quiet notes are quiet. -/
theorem Quiet.append {notes more : List Note} (h : Quiet notes) (h' : Quiet more) :
    Quiet (notes ++ more) :=
  List.forall_mem_append.2 ⟨h, h'⟩

/-- What is told about a reply comes from the decoder. -/
theorem Reply.quiet_notes (seq : UInt32) (r : Reply) : Quiet (r.notes seq) := by
  unfold Quiet
  cases r <;> simp [Reply.notes, Note.part]

/-- What is told about envelopes comes from the decoder. -/
theorem Dump.quiet_absorb (seq : UInt32) (p : Pool Sample) (es : List Envelope) :
    Quiet (absorb seq p es).notes := by
  have none : Quiet [] := fun _ h => absurd h List.not_mem_nil
  induction es generalizing p with
  | nil => exact none
  | cons e es ih =>
    rw [absorb]
    split
    · exact none
    · exact none
    · split
      · exact ih _
      · exact none
    · exact (Reply.quiet_notes seq _).append (ih p)

/-- What is told about a datagram comes from the decoder. -/
theorem Dump.quiet_read (seq : UInt32) (p : Pool Sample) (datagram : Bytes) :
    Quiet (read seq p datagram).notes := by
  have rest : Quiet (restNotes (Envelope.split datagram).2) := by
    unfold restNotes Quiet
    split <;> simp [Note.part]
  have row := quiet_absorb seq p (Envelope.split datagram).1
  unfold read
  simp only
  split
  · exact row.append rest
  · exact row

namespace Session

/-- What is told while a dump is received comes from the session and the decoder. -/
theorem quiet_drain (seq : UInt32) (s : Session) (p : Pool Sample) :
    Quiet (drain seq s p).notes := by
  have told (n : Nat) {notes : List Note} (h : Quiet notes) :
      Quiet (.datagramReceived n :: notes) :=
    List.forall_mem_cons.2 ⟨by simp [Note.part], h⟩
  fun_induction drain seq s p with
  | case1 s p receipt received e he => exact fun _ h => absurd h List.not_mem_nil
  | case2 s p receipt received n hn o notes e ho => exact told n (Dump.quiet_read seq p _)
  | case3 s p receipt received n hn o notes ho => exact told n (Dump.quiet_read seq p _)
  | case4 s p receipt received n hn o notes ho ih =>
    exact (told n (Dump.quiet_read seq p _)).append ih

/-- A call tells nothing in the name of the command line. -/
theorem quiet_sampleInto (s : Session) (family : Family) (p : Pool Sample) :
    Quiet (s.sampleInto family p).notes := by
  cases hsend : s.link.refusals with
  | cons cause causes =>
    rw [sampleInto_of_refused hsend]
    exact fun _ h => absurd h List.not_mem_nil
  | nil =>
    have sent : Quiet [.requestSent family s.nextSeq] := by simp [Quiet, Note.part]
    have received := sent.append (quiet_drain s.nextSeq (s.requesting family) p.reset)
    rw [sampleInto_of_sent hsend]
    unfold Call.conclude
    split
    · exact received
    · exact received.append (by simp [Quiet, Note.part])

/-! ### A row of calls -/

/-- A session, and the allocator that the stores of its calls grow from. -/
structure Standing where
  session : Session
  allocator : Allocator

namespace Standing

variable {x : Standing} {family : Family} {families : List Family}

/-- The call for a family, into a store of its own. -/
def call (x : Standing) (family : Family) : Call := x.session.sample family x.allocator

/-- What the call for a family leaves. -/
def next (x : Standing) (family : Family) : Standing :=
  ⟨(x.call family).session, (x.call family).pool.allocator⟩

/-- What the calls for a row of families leave, whether they succeed or not. -/
def after (x : Standing) (families : List Family) : Standing := families.foldl next x

/-- The calls for a row of families, each with its family and on the session that the one
before it left. -/
def calls (x : Standing) : List Family → List (Family × Call)
  | [] => []
  | family :: families => (family, x.call family) :: (x.next family).calls families

/-- Some calls succeed, all of them. -/
def Succeed (calls : List (Family × Call)) : Prop := ∀ c ∈ calls, c.2.result = .ok ()

/-- The calls for a longer row go on from what those for its first families leave. -/
theorem calls_append (x : Standing) (families more : List Family) :
    x.calls (families ++ more) = x.calls families ++ (x.after families).calls more := by
  induction families generalizing x with
  | nil => rfl
  | cons family families ih => exact congrArg (_ :: ·) (ih (x.next family))

/-- What a longer row leaves is what its last families leave of what the first left. -/
theorem after_append (x : Standing) (families more : List Family) :
    x.after (families ++ more) = (x.after families).after more := List.foldl_append

/-- The calls for a row are for its families, in order. -/
theorem map_fst_calls (x : Standing) (families : List Family) :
    (x.calls families).map Prod.fst = families := by
  induction families generalizing x with
  | nil => rfl
  | cons family families ih => exact congrArg (family :: ·) (ih (x.next family))

/-- **Either all calls of a row succeed, or there is a first that fails.** -/
theorem calls_cases (x : Standing) (families : List Family) :
    Succeed (x.calls families) ∨
      ∃ before family later e, families = before ++ family :: later ∧
        Succeed (x.calls before) ∧ ((x.after before).call family).result = .error e := by
  induction families generalizing x with
  | nil => exact .inl fun _ h => absurd h List.not_mem_nil
  | cons family families ih =>
    cases hresult : (x.call family).result with
    | error e =>
      exact .inr ⟨[], family, families, e, rfl, fun _ h => absurd h List.not_mem_nil, hresult⟩
    | ok _ =>
      rcases ih (x.next family) with all | ⟨before, failing, later, e, rfl, ok, hfail⟩
      · exact .inl (List.forall_mem_cons.2 ⟨hresult, all⟩)
      · exact .inr ⟨family :: before, failing, later, e, rfl,
          List.forall_mem_cons.2 ⟨hresult, ok⟩, hfail⟩

/-! ### Sampling a row -/

/-- **If all calls succeed, their stores are returned,** in order. -/
theorem sampleAll_of_ok (ok : Succeed (x.calls families)) :
    x.session.sampleAll x.allocator families =
      ⟨.ok ((x.calls families).map (·.2.pool.store)), (x.after families).session,
        (x.after families).allocator, (x.calls families).flatMap (·.2.notes)⟩ := by
  induction families generalizing x with
  | nil => rfl
  | cons family families ih =>
    obtain ⟨hresult, hrest⟩ := List.forall_mem_cons.1 ok
    have first : (x.session.sample family x.allocator).result = .ok () := hresult
    have rest := ih hrest
    rw [sampleAll]
    simp only [first]
    rw [show sampleAll (x.session.sample family x.allocator).session
      (x.session.sample family x.allocator).pool.allocator families = _ from rest]
    rfl

/-- **If a call fails, its error is returned,** and it was the last call. -/
theorem sampleAll_of_error {before later : List Family} {e : Error}
    (ok : Succeed (x.calls before)) (h : ((x.after before).call family).result = .error e) :
    x.session.sampleAll x.allocator (before ++ family :: later) =
      ⟨.error e, (x.after (before ++ [family])).session, (x.after (before ++ [family])).allocator,
        (x.calls (before ++ [family])).flatMap (·.2.notes)⟩ := by
  induction before generalizing x with
  | nil =>
    have first : (x.session.sample family x.allocator).result = .error e := h
    rw [List.nil_append, sampleAll]
    simp only [first]
    rw [List.nil_append, calls, calls, List.flatMap_singleton]
    rfl
  | cons earlier before ih =>
    obtain ⟨hresult, hrest⟩ := List.forall_mem_cons.1 ok
    have first : (x.session.sample earlier x.allocator).result = .ok () := hresult
    have rest := ih hrest h
    rw [List.cons_append, sampleAll]
    simp only [first]
    rw [show sampleAll (x.session.sample earlier x.allocator).session
      (x.session.sample earlier x.allocator).pool.allocator (before ++ family :: later) = _
      from rest]
    rfl

/-- All calls for a row that was sampled succeeded. -/
theorem succeed_of_sampleAll {stores : List (Store Sample)}
    (h : (x.session.sampleAll x.allocator families).result = .ok stores) :
    Succeed (x.calls families) := by
  rcases x.calls_cases families with ok | ⟨before, family, later, e, rfl, ok, hfail⟩
  · exact ok
  · rw [sampleAll_of_error ok hfail] at h
    cases h

/-- If a row was not sampled, the error is that of its first call to fail. -/
theorem exists_first_of_sampleAll {e : Error}
    (h : (x.session.sampleAll x.allocator families).result = .error e) :
    ∃ before family later, families = before ++ family :: later ∧
      Succeed (x.calls before) ∧ ((x.after before).call family).result = .error e := by
  rcases x.calls_cases families with ok | ⟨before, family, later, e', rfl, ok, hfail⟩
  · rw [sampleAll_of_ok ok] at h
    cases h
  · rw [sampleAll_of_error ok hfail] at h
    cases h
    exact ⟨before, family, later, rfl, ok, hfail⟩

/-! ### What a row of calls keeps -/

/-- Calls do not bring about an interrupt. -/
theorem calm_after (h : x.session.link.Calm) (families : List Family) :
    (x.after families).session.link.Calm := by
  induction families generalizing x with
  | nil => exact h
  | cons family families ih =>
    exact ih (x := x.next family) (calm_sampleInto h family { store := .empty, allocator := _ })

/-- Calls tell nothing in the name of the command line. -/
theorem quiet_calls (x : Standing) (families : List Family) :
    Quiet ((x.calls families).flatMap (·.2.notes)) := by
  induction families generalizing x with
  | nil => exact fun _ h => absurd h List.not_mem_nil
  | cons family families ih =>
    rw [calls, List.flatMap_cons]
    exact (quiet_sampleInto _ _ _).append (ih (x.next family))

/-- A call takes the next number and tries to send one request, which carries it. -/
theorem requests_next (x : Standing) (family : Family) :
    (x.next family).session.seq = x.session.nextSeq ∧
      (x.next family).session.link.port = x.session.link.port ∧
      (x.next family).session.link.attempts.map (·.message) =
        x.session.link.attempts.map (·.message) ++
          [DumpRequest.message family x.session.nextSeq x.session.link.port] := by
  obtain ⟨_, _, _, _, _, _, _, hsession⟩ :=
    exists_session_sampleInto x.session family { store := .empty, allocator := x.allocator }
  have hnext : (x.next family).session = _ := hsession
  rw [hnext]
  exact ⟨rfl, rfl, List.map_append⟩

/-- **The requests of a row of calls are for its families in order,** numbered one after
the other, whether they are sent or refused. -/
theorem messages_after (x : Standing) (families : List Family)
    (few : x.session.seq.toNat + families.length < 2 ^ 32) :
    (x.after families).session.link.attempts.map (·.message) =
      x.session.link.attempts.map (·.message) ++ families.mapIdx fun j family =>
        DumpRequest.message family (.ofNat (x.session.seq.toNat + j + 1)) x.session.link.port := by
  induction families generalizing x with
  | nil => exact (List.append_nil _).symm
  | cons family families ih =>
    rw [List.length_cons] at few
    obtain ⟨hseq, hport, hmessages⟩ := x.requests_next family
    have number : x.session.nextSeq.toNat = x.session.seq.toNat + 1 := toNat_nextSeq (by omega)
    have first : x.session.nextSeq = .ofNat (x.session.seq.toNat + 0 + 1) := by
      rw [Nat.add_zero, ← number, UInt32.ofNat_toNat]
    have later (j : Nat) :
        (x.next family).session.seq.toNat + j + 1 = x.session.seq.toNat + (j + 1) + 1 := by
      rw [hseq, number]
      omega
    have rest := ih (x.next family) (by rw [hseq, number]; omega)
    simp only [later, hport, hmessages, first, List.append_assoc, List.singleton_append] at rest
    rw [List.mapIdx_cons]
    exact rest

/-- A call for each family is a send for each, tried once. -/
theorem length_attempts_after (x : Standing) (families : List Family) :
    (x.after families).session.link.attempts.length =
      x.session.link.attempts.length + families.length := by
  induction families generalizing x with
  | nil => rfl
  | cons family families ih =>
    obtain ⟨-, -, hmessages⟩ := x.requests_next family
    have one := congrArg List.length hmessages
    simp only [List.length_map, List.length_append, List.length_singleton] at one
    calc ((x.next family).after families).session.link.attempts.length
        = (x.next family).session.link.attempts.length + families.length := ih _
      _ = x.session.link.attempts.length + (family :: families).length := by
        rw [one, List.length_cons]
        omega

/-- The request of each call asks for its family, under the number that its place gives. -/
theorem exists_attempt_after (x : Standing) {families : List Family}
    (few : x.session.seq.toNat + families.length < 2 ^ 32) {j : Nat} {family : Family}
    (h : families[j]? = some family) :
    ∃ attempt, (x.after families).session.link.attempts[x.session.link.attempts.length + j]? =
        some attempt ∧
      DumpRequest.Asks attempt.message family (.ofNat (x.session.seq.toNat + j + 1))
        x.session.link.port := by
  have message := congrArg (·[x.session.link.attempts.length + j]?) (x.messages_after families few)
  rw [List.getElem?_append_right (by rw [List.length_map]; omega), List.length_map,
    Nat.add_sub_cancel_left, List.getElem?_mapIdx, h, List.getElem?_map] at message
  obtain ⟨attempt, hattempt, hmessage⟩ := Option.map_eq_some_iff.1 message
  exact ⟨attempt, hattempt, hmessage ▸ DumpRequest.asks_message ..⟩

end Standing
end Session
end TcpCensus
