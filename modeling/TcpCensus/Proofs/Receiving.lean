/-
# What a call receives

A link's script is told by what its receives come to, one after the other
(`Link.outcomes`). The receiving half of a call is a matter of that list alone: it
reads datagram after datagram while the dump is open (`Dump.hear`), which
`hears_drain` says of the loop. Three things follow, each by going through the
list.

* `hear_of_takes`: where no growth is refused, the call hears the receives up to
  and including the first that fails or whose datagram ends the dump. Its samples
  are those of the datagrams it hears, and the last receive decides how it ends.
* `effect_hear`: with refused growths, too, the call reads the envelopes of its
  datagrams as one row, however they are parted into datagrams.
* `hear_congr`: envelopes that answer other requests make no difference at all.

`alike_of_hear`: two calls that hear the same come to the same.
-/

import TcpCensus.Proofs.Decoding
import TcpCensus.Proofs.History

namespace TcpCensus

/-! ### Receives -/

namespace Link

/-- What receive after receive comes to until the script is at its end: what the
buffer holds afterwards, or the failure. -/
def outcomes (buffer : Bytes) : List Event → List (Except Error Bytes)
  | [] => []
  | .datagram bytes _ :: events => .ok bytes :: outcomes bytes events
  | .unchanged _ :: events => .ok buffer :: outcomes buffer events
  | .failure cause :: events => .error cause :: outcomes buffer events
  | .interrupt :: events => outcomes buffer events

/-- **A receive comes to the next of the outcomes,** or to a silent link where there
is none left. -/
theorem outcomes_receiveFrom (l : Link) (buffer : Bytes) (events : List Event) :
    let r := l.receiveFrom buffer events
    match r.outcome with
    | .ok _ => outcomes buffer events = .ok r.buffer :: outcomes r.buffer r.link.script
    | .error e =>
      outcomes buffer events = .error e :: outcomes r.buffer r.link.script ∨
        e = silence ∧ outcomes buffer events = [] ∧ outcomes r.buffer r.link.script = [] := by
  induction events generalizing l with
  | nil => exact .inr ⟨rfl, rfl, rfl⟩
  | cons event events ih =>
    cases event with
    | datagram bytes reported => rfl
    | unchanged reported => rfl
    | failure cause => exact .inl rfl
    | interrupt => exact ih _

/-- A receive that succeeds comes to the first outcome, and leaves the others. -/
theorem outcomes_of_ok {l : Link} {buffer : Bytes} {n : Nat}
    (h : (l.receive buffer).outcome = .ok n) :
    outcomes buffer l.script = .ok (l.receive buffer).buffer ::
      outcomes (l.receive buffer).buffer (l.receive buffer).link.script := by
  have next := outcomes_receiveFrom { l with receives := l.receives + 1 } buffer l.script
  unfold receive at h ⊢
  simp only [h] at next
  exact next

/-- A receive that fails comes to the first outcome too, or there is none and the link is
silent. -/
theorem outcomes_of_error {l : Link} {buffer : Bytes} {e : Error}
    (h : (l.receive buffer).outcome = .error e) :
    outcomes buffer l.script = .error e ::
        outcomes (l.receive buffer).buffer (l.receive buffer).link.script ∨
      e = silence ∧ outcomes buffer l.script = [] ∧
        outcomes (l.receive buffer).buffer (l.receive buffer).link.script = [] := by
  have next := outcomes_receiveFrom { l with receives := l.receives + 1 } buffer l.script
  unfold receive at h ⊢
  simp only [h] at next
  exact next

/-- What a receive that meets an event comes to, where that depends on nothing else. -/
def Event.outcome? : Event → Option (Except Error Bytes)
  | .datagram bytes _ => some (.ok bytes)
  | .failure cause => some (.error cause)
  | .unchanged _ | .interrupt => none

section Map

variable {α : Type} {f : α → Event} {g : α → Except Error Bytes}

/-- Receives come to what their events bring, one each and in order. -/
theorem exists_outcomes_map (brings : ∀ x, (f x).outcome? = some (g x)) (buffer : Bytes)
    (xs : List α) (events : List Event) :
    ∃ buffer', outcomes buffer (xs.map f ++ events) = xs.map g ++ outcomes buffer' events := by
  induction xs generalizing buffer with
  | nil => exact ⟨buffer, rfl⟩
  | cons x xs ih =>
    have first := brings x
    simp only [List.map_cons, List.cons_append]
    cases hf : f x with
    | datagram bytes reported =>
      obtain ⟨buffer', later⟩ := ih bytes
      rw [hf, Event.outcome?, Option.some.injEq] at first
      exact ⟨buffer', by rw [outcomes, later, first]⟩
    | failure cause =>
      obtain ⟨buffer', later⟩ := ih buffer
      rw [hf, Event.outcome?, Option.some.injEq] at first
      exact ⟨buffer', by rw [outcomes, later, first]⟩
    | unchanged reported => rw [hf] at first; cases first
    | interrupt => rw [hf] at first; cases first

/-- Receives come to what their events bring, one each and in order, and to nothing else. -/
theorem outcomes_map (brings : ∀ x, (f x).outcome? = some (g x)) (buffer : Bytes)
    (xs : List α) : outcomes buffer (xs.map f) = xs.map g := by
  obtain ⟨_, h⟩ := exists_outcomes_map brings buffer xs []
  rwa [outcomes, List.append_nil, List.append_nil] at h

end Map

/-- What a receive leaves of a script. -/
def next : List Event → List Event
  | [] => []
  | .interrupt :: events => next events
  | _ :: events => events

/-- What so many receives leave of a script. -/
def past : Nat → List Event → List Event
  | 0, events => events
  | n + 1, events => past n (next events)

/-- A receive takes the interrupts up to the first other event, and that event. -/
theorem script_receiveFrom (l : Link) (buffer : Bytes) (events : List Event) :
    (l.receiveFrom buffer events).link.script = next events := by
  induction events generalizing l with
  | nil => rfl
  | cons event events ih =>
    cases event with
    | datagram bytes reported => rfl
    | unchanged reported => rfl
    | failure cause => rfl
    | interrupt => exact ih _

/-- A receive leaves what is behind the event that it meets. -/
theorem script_receive (l : Link) (buffer : Bytes) :
    (l.receive buffer).link.script = next l.script :=
  script_receiveFrom _ buffer l.script

/-- A receive is counted, however it ends. -/
theorem receives_receive (l : Link) (buffer : Bytes) :
    (l.receive buffer).link.receives = l.receives + 1 := by
  obtain ⟨_, _, h⟩ := l.exists_link_receive buffer
  rw [h]

/-- An event that is no interrupt is taken alone. -/
theorem next_cons {e : Event} (plain : e ≠ .interrupt) (events : List Event) :
    next (e :: events) = events := by
  cases e with
  | interrupt => exact absurd rfl plain
  | datagram | unchanged | failure => rfl

section Plain

variable {α : Type} (f : α → Event) (plain : ∀ x, f x ≠ .interrupt)
include plain

/-- On a script of datagrams every receive takes one. -/
theorem past_map_append (xs : List α) (events : List Event) :
    past xs.length (xs.map f ++ events) = events := by
  induction xs with
  | nil => rfl
  | cons x xs ih =>
    rw [List.map_cons, List.cons_append, List.length_cons, past, next_cons (plain x), ih]

/-- On a script of datagrams so many receives take so many of them. -/
theorem past_map (n : Nat) (xs : List α) : past n (xs.map f) = (xs.drop n).map f := by
  induction n generalizing xs with
  | zero => rfl
  | succ n ih =>
    cases xs with
    | nil => simpa [past, next] using ih []
    | cons x xs => rw [List.map_cons, past, next_cons (plain x), ih, List.drop_succ_cons]

end Plain

end Link

/-! ### What is heard of a dump -/

namespace Dump

/-- What the receives of a call come to. -/
structure Hearing where
  result : Except Error Unit
  pool : Pool Sample
  /-- The number of receives made, a failed one included. -/
  receives : Nat

/-- Read datagrams from receives that come to `outs`, while the dump is open. When
the receives are at their end the link is silent. -/
def hear (seq : UInt32) (p : Pool Sample) : List (Except Error Bytes) → Hearing
  | [] => ⟨.error Link.silence, p, 1⟩
  | .error e :: _ => ⟨.error e, p, 1⟩
  | .ok datagram :: outs =>
    match (absorb seq p (Envelope.split datagram).1).effect with
    | (.error e, p) => ⟨.error e, p, 1⟩
    | (.ok .complete, p) => ⟨.ok (), p, 1⟩
    | (.ok .more, p) =>
      let later := hear seq p outs
      { later with receives := later.receives + 1 }

/-- Whether a receive ends a call: it fails, or its datagram ends the dump. -/
def closes (seq : UInt32) : Except Error Bytes → Bool
  | .error _ => true
  | .ok datagram => (own seq (Envelope.split datagram).1).any (·.ends)

/-- The samples a receive brings. -/
def brought (seq : UInt32) : Except Error Bytes → List Sample
  | .error _ => []
  | .ok datagram => samples seq (Envelope.split datagram).1

/-- The receives before the first that ends the call. -/
def lead (seq : UInt32) (outs : List (Except Error Bytes)) : List (Except Error Bytes) :=
  outs.takeWhile (!closes seq ·)

/-- The receives of a call: up to and including the first that ends it. -/
def heard (seq : UInt32) (outs : List (Except Error Bytes)) : List (Except Error Bytes) :=
  lead seq outs ++ (outs.find? (closes seq)).toList

/-- How a call ends that makes these receives. -/
def ending (seq : UInt32) (outs : List (Except Error Bytes)) : Except Error Unit :=
  match outs.find? (closes seq) with
  | none => .error Link.silence
  | some (.error e) => .error e
  | some (.ok datagram) => (verdict seq (Envelope.split datagram).1).map fun _ => ()

/-- The envelopes received before the first receive that fails, as one row. -/
def stream : List (Except Error Bytes) → List Envelope
  | .ok datagram :: outs => (Envelope.split datagram).1 ++ stream outs
  | _ => []

/-- The first failure of a receive. -/
def failure : List (Except Error Bytes) → Error
  | .ok _ :: outs => failure outs
  | .error e :: _ => e
  | [] => Link.silence

/-- How a call stands whose envelopes came to `effect`, on a link that then fails: a
dump still open fails with it. -/
def settle (e : Error) : Except Error Progress × Pool Sample → Except Error Unit × Pool Sample
  | (.ok .more, p) => (.error e, p)
  | (.ok .complete, p) => (.ok (), p)
  | (.error e, p) => (.error e, p)

/-- What a receive has for the caller: a failure, or the envelopes that answer it. -/
def addressed (seq : UInt32) : Except Error Bytes → Except Error (List Envelope)
  | .error e => .error e
  | .ok datagram => .ok (own seq (Envelope.split datagram).1)

/-- A dump goes on just where none of its own envelopes ends it. -/
theorem verdict_eq_more_iff {seq : UInt32} {es : List Envelope} :
    verdict seq es = .ok .more ↔ (own seq es).any (·.ends) = false := by
  unfold verdict
  cases h : (own seq es).find? (·.ends) with
  | none => simpa using h
  | some e =>
    have hend := List.find?_some h
    have hmem := List.mem_of_find?_eq_some h
    have never : e.verdict ≠ .ok .more := by
      unfold Envelope.verdict
      split
      · simp
      · split <;> simp
    simp only [never, false_iff, Bool.not_eq_false, List.any_eq_true]
    exact ⟨e, hmem, hend⟩

section Receives

variable {seq : UInt32} {o : Except Error Bytes} {outs : List (Except Error Bytes)}

/-- A receive that does not end the call is one of those before the end. -/
theorem lead_cons_of_open (h : closes seq o = false) : lead seq (o :: outs) = o :: lead seq outs :=
  List.takeWhile_cons_of_pos (by simp [h])

/-- There is no receive before one that ends the call. -/
theorem lead_cons_of_closes (h : closes seq o = true) : lead seq (o :: outs) = [] :=
  List.takeWhile_cons_of_neg (by simp [h])

/-- A call hears a receive that does not end it, and goes on. -/
theorem heard_cons_of_open (h : closes seq o = false) :
    heard seq (o :: outs) = o :: heard seq outs := by
  rw [heard, lead_cons_of_open h, List.find?_cons_of_neg (by simp [h]), List.cons_append, heard]

/-- A call hears a receive that ends it, and no other. -/
theorem heard_cons_of_closes (h : closes seq o = true) : heard seq (o :: outs) = [o] := by
  rw [heard, lead_cons_of_closes h, List.find?_cons_of_pos h]
  rfl

/-- A receive that does not end the call has no part in how it ends. -/
theorem ending_cons_of_open (h : closes seq o = false) :
    ending seq (o :: outs) = ending seq outs := by
  rw [ending, List.find?_cons_of_neg (by simp [h]), ending]

/-- A datagram that ends the call decides how. -/
theorem ending_cons_of_closes {datagram : Bytes} (h : closes seq (.ok datagram) = true) :
    ending seq (.ok datagram :: outs) =
      (verdict seq (Envelope.split datagram).1).map fun _ => () := by
  rw [ending, List.find?_cons_of_pos h]

end Receives

/-- **A call is what it hears,** where no growth is refused: it makes the receives up
to the first that ends it, and brings their samples and no others. -/
theorem hear_of_takes {seq : UInt32} {p : Pool Sample} {outs : List (Except Error Bytes)}
    (granted : p.Takes ((heard seq outs).flatMap (brought seq))) :
    hear seq p outs =
      ⟨ending seq outs, (p.appendAll ((heard seq outs).flatMap (brought seq))).2,
        (lead seq outs).length + 1⟩ := by
  -- On the outcomes: one that ends the call is the last that is heard, and one that leaves it
  -- open puts its samples in front of those behind.
  induction outs generalizing p with
  | nil => rfl
  | cons o outs ih =>
    cases o with
    | error e => rfl
    | ok datagram =>
      cases h : closes seq (.ok datagram) with
      | true =>
        rw [heard_cons_of_closes h, List.flatMap_singleton, brought] at granted ⊢
        have closed : verdict seq (Envelope.split datagram).1 ≠ .ok .more := fun hmore => by
          rw [closes, verdict_eq_more_iff.1 hmore] at h
          exact absurd h Bool.false_ne_true
        rw [hear, effect_absorb_of_takes granted, lead_cons_of_closes h, ending_cons_of_closes h]
        cases hv : verdict seq (Envelope.split datagram).1 with
        | error e => rfl
        | ok progress =>
          cases progress with
          | more => exact absurd hv closed
          | complete => rfl
      | false =>
        rw [heard_cons_of_open h, List.flatMap_cons, Pool.takes_append_iff] at granted
        have more : verdict seq (Envelope.split datagram).1 = .ok .more := verdict_eq_more_iff.2 h
        have later := ih granted.2
        rw [brought] at later granted
        rw [hear, effect_absorb_of_takes granted.1, more, heard_cons_of_open h,
          ending_cons_of_open h, lead_cons_of_open h, List.flatMap_cons, brought,
          Pool.appendAll_append, Pool.appendAll_of_takes granted.1]
        simp only [later, List.length_cons]

/-- A row of envelopes that leaves the dump open is read, and then what follows. -/
theorem effect_absorb_append (seq : UInt32) (p : Pool Sample) (es fs : List Envelope) :
    (absorb seq p (es ++ fs)).effect =
      match (absorb seq p es).effect with
      | (.ok .more, p) => (absorb seq p fs).effect
      | effect => effect := by
  rw [absorb_append]
  cases h : (absorb seq p es).result with
  | error e => simp [Outcome.effect, h]
  | ok progress => cases progress <;> simp [Outcome.effect, Outcome.after, h]

/-- **A call reads one row of envelopes:** those of all datagrams up to the first
receive that fails. How they are parted into datagrams makes no difference, and
neither does what is received after a failure. -/
theorem effect_hear (seq : UInt32) (p : Pool Sample) (outs : List (Except Error Bytes)) :
    ((hear seq p outs).result, (hear seq p outs).pool) =
      settle (failure outs) (absorb seq p (stream outs)).effect := by
  induction outs generalizing p with
  | nil => rfl
  | cons o outs ih =>
    cases o with
    | error e => rfl
    | ok datagram =>
      rw [hear, stream, failure, effect_absorb_append]
      match (absorb seq p (Envelope.split datagram).1).effect with
      | (.error e, p) => rfl
      | (.ok .complete, p) => rfl
      | (.ok .more, p) => exact ih p

/-- Why a call ended as it did, by the last receive it made, if there was one to make:
the store could not grow, the link was silent, the receive failed, or its datagram
ended the dump. -/
inductive Reason (seq : UInt32) : Except Error Unit → Option (Except Error Bytes) → Prop
  | outOfMemory {requested : Nat} {last : Option (Except Error Bytes)} :
    Reason seq (.error (.outOfMemory requested)) last
  | silence : Reason seq (.error Link.silence) none
  | failure {e : Error} : Reason seq (.error e) (some (.error e))
  | complete {datagram : Bytes} (h : verdict seq (Envelope.split datagram).1 = .ok .complete) :
    Reason seq (.ok ()) (some (.ok datagram))
  | failed {datagram : Bytes} {e : Error}
    (h : verdict seq (Envelope.split datagram).1 = .error e) :
    Reason seq (.error e) (some (.ok datagram))

/-- What the envelopes of a datagram come to: how they stand, or that the store could
not grow. -/
theorem effect_absorb_cases (seq : UInt32) (p : Pool Sample) (es : List Envelope) :
    (∃ requested, (absorb seq p es).effect.1 = .error (.outOfMemory requested)) ∨
      (absorb seq p es).effect.1 = verdict seq es := by
  rw [effect_absorb]
  cases happend : p.appendAll (samples seq es) with
  | mk result p' =>
    cases result with
    | ok _ => exact .inr rfl
    | error e =>
      obtain ⟨requested, rfl⟩ := Pool.eq_outOfMemory_of_appendAll happend
      exact .inl ⟨requested, rfl⟩

/-- **The last receive is the reason how a call ends,** unless the store could not
grow. -/
theorem exists_reason_hear (seq : UInt32) (p : Pool Sample) (outs : List (Except Error Bytes)) :
    ∃ i, (hear seq p outs).receives = i + 1 ∧ Reason seq (hear seq p outs).result outs[i]? := by
  -- On the outcomes: the one that ends the call is the reason; one that leaves it open has the
  -- reason behind it.
  induction outs generalizing p with
  | nil => exact ⟨0, rfl, .silence⟩
  | cons o outs ih =>
    cases o with
    | error e => exact ⟨0, rfl, .failure⟩
    | ok datagram =>
      have cases := effect_absorb_cases seq p (Envelope.split datagram).1
      rw [hear]
      match h : (absorb seq p (Envelope.split datagram).1).effect with
      | (.error e, p) =>
        rw [h] at cases
        rcases cases with ⟨requested, he⟩ | hverdict
        · cases he
          exact ⟨0, rfl, .outOfMemory⟩
        · exact ⟨0, rfl, .failed hverdict.symm⟩
      | (.ok .complete, p) =>
        rw [h] at cases
        rcases cases with ⟨requested, he⟩ | hverdict
        · cases he
        · exact ⟨0, rfl, .complete hverdict.symm⟩
      | (.ok .more, p) =>
        obtain ⟨i, hreceives, hreason⟩ := ih p
        exact ⟨i + 1, congrArg (· + 1) hreceives, hreason⟩

/-- A sample in the store was there before or is one of the row. -/
theorem mem_toList_absorb {seq : UInt32} {p : Pool Sample} {es : List Envelope} {x : Sample}
    (hx : x ∈ (absorb seq p es).effect.2.store.toList) :
    x ∈ p.store.toList ∨ x ∈ samples seq es := by
  obtain ⟨kept, hkept, hlist⟩ := p.exists_toList_appendAll (samples seq es)
  rw [snd_effect_absorb, hlist, List.mem_append] at hx
  exact hx.imp_right (hkept.subset ·)

/-- **A sample in the store was there before or was brought** by one of the receives
that were made. -/
theorem mem_toList_hear {seq : UInt32} {p : Pool Sample} {outs : List (Except Error Bytes)}
    {x : Sample} (hx : x ∈ (hear seq p outs).pool.store.toList) :
    x ∈ p.store.toList ∨ ∃ o ∈ outs.take (hear seq p outs).receives, x ∈ brought seq o := by
  induction outs generalizing p with
  | nil => exact .inl hx
  | cons o outs ih =>
    cases o with
    | error e => exact .inl hx
    | ok datagram =>
      have datagramBrings (hread :
          x ∈ (absorb seq p (Envelope.split datagram).1).effect.2.store.toList) (n : Nat) :
          x ∈ p.store.toList ∨ ∃ o ∈ (.ok datagram :: outs).take (n + 1), x ∈ brought seq o :=
        (mem_toList_absorb hread).imp_right fun hb => ⟨.ok datagram, List.mem_cons_self, hb⟩
      -- A call that stays open got the sample behind, or had it when it came there.
      rw [hear] at hx ⊢
      match h : (absorb seq p (Envelope.split datagram).1).effect with
      | (.error e, p') | (.ok .complete, p') =>
        rw [h] at hx datagramBrings
        exact datagramBrings hx 0
      | (.ok .more, p') =>
        rw [h] at hx datagramBrings
        rcases ih hx with hthere | ⟨o, ho, hb⟩
        · exact datagramBrings hthere _
        · exact .inr ⟨o, .tail _ ho, hb⟩

/-- Reading a row is reading those of its envelopes that answer the caller. -/
theorem effect_absorb_own (seq : UInt32) (p : Pool Sample) (es : List Envelope) :
    (absorb seq p (own seq es)).effect = (absorb seq p es).effect := by
  have idem : own seq (own seq es) = own seq es := by simp [own]
  rw [effect_absorb, effect_absorb, samples, verdict, idem, samples, verdict]

/-- **Two rows of receives that have the same for the caller are heard alike,** down
to the number of receives. -/
theorem hear_congr {seq : UInt32} {outs outs' : List (Except Error Bytes)}
    (h : outs.map (addressed seq) = outs'.map (addressed seq)) (p : Pool Sample) :
    hear seq p outs = hear seq p outs' := by
  induction outs generalizing outs' p with
  | nil => rw [List.map_eq_nil_iff.1 h.symm]
  | cons o outs ih =>
    cases outs' with
    | nil => cases h
    | cons o' outs' =>
      rw [List.map_cons, List.map_cons, List.cons.injEq] at h
      obtain ⟨hhead, htail⟩ := h
      -- Receives with the same for a call are equal errors, or datagrams whose own envelopes are
      -- equal, and only those are absorbed.
      match o, o' with
      | .error e, .error e' =>
        cases hhead
        rfl
      | .error e, .ok datagram' => cases hhead
      | .ok datagram, .error e' => cases hhead
      | .ok datagram, .ok datagram' =>
        have same : own seq (Envelope.split datagram).1 = own seq (Envelope.split datagram').1 := by
          simpa [addressed] using hhead
        simp only [hear]
        rw [← effect_absorb_own, same, effect_absorb_own]
        match (absorb seq p (Envelope.split datagram').1).effect with
        | (.error e, p) => rfl
        | (.ok .complete, p) => rfl
        | (.ok .more, p) => simp only [ih htail p]

end Dump

/-! ### The receiving half of a call -/

namespace Session

/-- A call from a session came to what was heard, and took so many receives off the
script and no more. -/
structure Hears (s : Session) (heard : Dump.Hearing) (c : Call) : Prop where
  result : c.result = heard.result
  pool : c.pool = heard.pool
  receives : c.session.link.receives = s.link.receives + heard.receives
  script : c.session.link.script = Link.past heard.receives s.link.script

/-- A call that ends with its next receive. -/
theorem hears_receipt (s : Session) (p : Pool Sample) (result : Except Error Unit)
    (notes : List Note) :
    Hears s ⟨result, p, 1⟩
      ⟨result,
        { s with
          link := (s.link.receive s.buffer).link, buffer := (s.link.receive s.buffer).buffer },
        p, notes⟩ where
  result := rfl
  pool := rfl
  receives := Link.receives_receive ..
  script := Link.script_receive ..

/-- **The receiving loop reads what its receives come to.** -/
theorem hears_drain (seq : UInt32) (s : Session) (p : Pool Sample) :
    Hears s (Dump.hear seq p (Link.outcomes s.buffer s.link.script)) (drain seq s p) := by
  fun_induction drain seq s p with
  | case1 s p receipt received e he =>
    rcases Link.outcomes_of_error he with houts | ⟨rfl, houts, -⟩ <;>
      rw [houts] <;> exact hears_receipt ..
  | case2 s p receipt received n hn o notes e ho =>
    rw [Link.outcomes_of_ok hn, Dump.hear, Dump.effect_absorb_of_read ho]
    exact hears_receipt ..
  | case3 s p receipt received n hn o notes ho =>
    rw [Link.outcomes_of_ok hn, Dump.hear, Dump.effect_absorb_of_read ho]
    exact hears_receipt ..
  | case4 s p receipt received n hn o notes ho ih =>
    rw [Link.outcomes_of_ok hn, Dump.hear, Dump.effect_absorb_of_read ho]
    have count : received.link.receives = s.link.receives + 1 := Link.receives_receive ..
    have left : received.link.script = Link.next s.link.script := Link.script_receive ..
    refine ⟨ih.result, ih.pool, ?_, ?_⟩
    · refine ih.receives.trans ?_
      rw [count, Nat.add_assoc, Nat.add_comm 1]
    · rw [Link.past, ← left]
      exact ih.script

/-! ### A whole call -/

namespace Call

/-- A call that succeeds records how long it took, and nothing else becomes of the
store. -/
theorem pool_conclude (c : Call) (family : Family) (took : Duration) :
    (c.conclude family took).pool =
      match c.result with
      | .ok () => { c.pool with store := c.pool.store.timed took }
      | .error _ => c.pool := by
  unfold conclude
  split <;> rename_i h <;> rw [h]

/-- The end of a call adds no sample and takes none away. -/
@[simp] theorem toList_conclude (c : Call) (family : Family) (took : Duration) :
    (c.conclude family took).pool.store.toList = c.pool.store.toList := by
  rw [pool_conclude]
  split <;> rfl

/-- The session learns how the call ended. -/
theorem phase_conclude (c : Call) (family : Family) (took : Duration) :
    (c.conclude family took).session.phase =
      match (c.conclude family took).result with
      | .ok () => .complete
      | .error _ => .failed := by
  rw [result_conclude]
  unfold conclude
  split <;> rename_i h <;> rw [h]

end Call

/-- **A call whose send goes out hears its script** from the emptied store on, under
the number it sent. -/
theorem exists_hears_call {s : Session} {t : Turn} (sent : t.refusals = []) :
    ∃ c, s.call t = c.conclude t.family (s.link.took s.nextSeq) ∧
      Hears (s.meeting t)
        (Dump.hear s.nextSeq t.pool.reset (Link.outcomes s.buffer t.script)) c := by
  have h := hears_drain s.nextSeq ((s.meeting t).requesting t.family) t.pool.reset
  refine ⟨(drain s.nextSeq ((s.meeting t).requesting t.family) t.pool.reset).after
    [.requestSent t.family s.nextSeq], ?_, h.result, h.pool, h.receives, h.script⟩
  exact sampleInto_of_sent sent t.family t.pool

section Sent

variable {s : Session} {t : Turn} (sent : t.refusals = [])
include sent

/-- A call whose send goes out ends as what it hears does. -/
theorem result_call : (s.call t).result =
    (Dump.hear s.nextSeq t.pool.reset (Link.outcomes s.buffer t.script)).result := by
  obtain ⟨c, hcall, hears⟩ := exists_hears_call (s := s) sent
  rw [hcall, Call.result_conclude, hears.result]

/-- It makes as many receives as it hears. -/
theorem receives_call : (s.call t).session.link.receives = s.link.receives +
    (Dump.hear s.nextSeq t.pool.reset (Link.outcomes s.buffer t.script)).receives := by
  obtain ⟨c, hcall, hears⟩ := exists_hears_call (s := s) sent
  rw [hcall, Call.link_conclude, hears.receives]
  rfl

/-- It takes as many receives off the script as it hears. -/
theorem script_call : (s.call t).session.link.script =
    Link.past (Dump.hear s.nextSeq t.pool.reset (Link.outcomes s.buffer t.script)).receives
      t.script := by
  obtain ⟨c, hcall, hears⟩ := exists_hears_call (s := s) sent
  rw [hcall, Call.link_conclude, hears.script]
  rfl

end Sent

/-- Two calls came to the same: they ended alike, with the same store and the same
allocator, and left their sessions in the same state. -/
structure Alike (c c' : Call) : Prop where
  result : c'.result = c.result
  pool : c'.pool = c.pool
  seq : c'.session.seq = c.session.seq
  phase : c'.session.phase = c.session.phase

/-- Two calls of a session are alike if their sends are refused alike, or go out and what
they hear is the same. -/
theorem alike_of_hear {s : Session} {t t' : Turn} (pool : t'.pool = t.pool)
    (refusals : t'.refusals = t.refusals)
    (result : (Dump.hear s.nextSeq t.pool.reset (Link.outcomes s.buffer t'.script)).result =
      (Dump.hear s.nextSeq t.pool.reset (Link.outcomes s.buffer t.script)).result)
    (store : (Dump.hear s.nextSeq t.pool.reset (Link.outcomes s.buffer t'.script)).pool =
      (Dump.hear s.nextSeq t.pool.reset (Link.outcomes s.buffer t.script)).pool) :
    Alike (s.call t) (s.call t') := by
  have seq : (s.call t').session.seq = (s.call t).session.seq := by rw [seq_call, seq_call]
  -- If the send is refused nothing is heard by either call.
  cases hsend : t.refusals with
  | cons cause causes =>
    have hcall : s.call t = _ := sampleInto_of_refused (s := s.meeting t) hsend t.family t.pool
    have hcall' : s.call t' = _ :=
      sampleInto_of_refused (s := s.meeting t') (refusals.trans hsend) t'.family t'.pool
    rw [hcall, hcall', pool]
    exact ⟨rfl, rfl, rfl, rfl⟩
  | nil =>
    obtain ⟨c, hcall, hears⟩ := exists_hears_call (s := s) hsend
    obtain ⟨c', hcall', hears'⟩ := exists_hears_call (s := s) (refusals.trans hsend)
    have hresult : c'.result = c.result := by
      rw [hears'.result, hears.result, pool, result]
    have hpool : c'.pool = c.pool := by
      rw [hears'.pool, hears.pool, pool, store]
    refine ⟨?_, ?_, seq, ?_⟩
    · rw [hcall, hcall', Call.result_conclude, Call.result_conclude, hresult]
    · rw [hcall, hcall', Call.pool_conclude, Call.pool_conclude, hresult, hpool]
    · rw [hcall, hcall', Call.phase_conclude, Call.phase_conclude, Call.result_conclude,
        Call.result_conclude, hresult]

end Session
end TcpCensus
