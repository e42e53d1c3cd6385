/-
# What a datagram says

The reader of `Dump.absorb` goes through a row of envelopes one by one. What it
comes to can be said of the row as a whole. Of the envelopes that carry the
caller's sequence number, the first that ends a dump decides how the dump stands,
and those before it give their samples, in order:

* an envelope *ends* a dump if it is the end mark, or an error that is not the
  acknowledgement of a request (`Envelope.ends`);
* it gives a sample for each statistics attribute behind its record, if it is of
  no kind with a meaning of its own, holds a whole record, and the record is of a
  family that is sampled (`Envelope.samples`).

`effect_absorb` says so for every allocator; `read_decodes` is what it comes to
for a datagram when no growth is refused.
-/

import TcpCensus.Dump
import TcpCensus.Proofs.Growth

namespace TcpCensus

/-- Bytes do not cover a length if there are fewer of them. -/
theorem Bytes.not_covers_iff {bs : Bytes} {n : Nat} : ¬ covers bs n = true ↔ bs.length < n := by
  rw [covers_iff, Nat.not_le]

/-! ### One envelope -/

namespace Envelope

/-- The code an error envelope carries: zero, or a negated error number. -/
def errorCode (e : Envelope) : Int32 := (Bytes.u32 e.payload 0).toInt32

/-- Whether an envelope ends a dump. An error does unless it is a whole record
that carries the code zero. -/
def ends (e : Envelope) : Bool :=
  e.header.kind = done ∨
    e.header.kind = error ∧ (e.payload.length < Acknowledgement.size ∨ e.errorCode ≠ 0)

/-- How the dump stands after an envelope that ends it. -/
def verdict (e : Envelope) : Except Error Progress :=
  if e.header.kind = done then .ok .complete
  else if e.payload.length < Acknowledgement.size then .error .noData
  else .error (.ofCode e.errorCode)

/-- An envelope that leaves a dump complete is the end mark. -/
theorem kind_of_verdict_eq_complete {e : Envelope} (h : e.verdict = .ok .complete) :
    e.header.kind = done := by
  unfold verdict at h
  split at h
  · assumption
  · split at h <;> cases h

/-- An envelope that ends a dump with an error is an error envelope. -/
theorem kind_of_verdict_eq_error {e : Envelope} {failure : Error} (hends : e.ends)
    (h : e.verdict = .error failure) : e.header.kind = error := by
  have notDone : e.header.kind ≠ done := fun hdone => by
    rw [verdict, if_pos hdone] at h
    cases h
  rw [ends, decide_eq_true_eq] at hends
  exact (hends.resolve_left notDone).1

/-- The family of the record an envelope carries, if it carries a whole one and
the family is sampled. -/
def family? (e : Envelope) : Option Family :=
  if e.header.kind ∈ [noop, error, done] ∨ e.payload.length < DiagRecord.size then none
  else if e.payload.head? = some 2 then some .inet
  else if e.payload.head? = some 10 then some .inet6
  else none

/-- The samples an envelope gives: one for each statistics attribute behind its
record, in order. -/
def samples (e : Envelope) : List Sample :=
  match e.family? with
  | none => []
  | some family =>
    ((Attribute.all (e.payload.drop DiagRecord.size)).filter (·.kind = 2)).map fun a =>
      .ofRecord family (.read e.payload) a.data

end Envelope

/-- The family of a record is the first byte of its payload. -/
theorem DiagRecord.head?_eq_family {payload : Bytes} (h : DiagRecord.size ≤ payload.length) :
    payload.head? = some (DiagRecord.read payload).family := by
  cases payload with
  | nil => exact absurd h (by decide)
  | cons b bs => simp [DiagRecord.read, Bytes.u8, Bytes.slice, Bytes.toNatLE]

/-! ### One reply -/

namespace Reply

/-- How the dump stands after a reply, if the reply ends it. -/
def verdict? : Reply → Option (Except Error Progress)
  | .finished => some (.ok .complete)
  | .failed error => some (.error error)
  | _ => none

/-- The samples a reply brings. -/
def samples : Reply → List Sample
  | .socket samples => samples
  | _ => []

/-- What an error envelope's payload comes to, in one equation. -/
theorem ofError_eq (payload : Bytes) :
    ofError payload =
      if payload.length < Acknowledgement.size then .failed .noData
      else if (Bytes.u32 payload 0).toInt32 = 0 then .nothing
      else .failed (.ofCode (Bytes.u32 payload 0).toInt32) := by
  unfold ofError Acknowledgement.decode
  by_cases short : payload.length < Acknowledgement.size
  · rw [if_neg (Bytes.not_covers_iff.2 short), if_pos short]
  · have covered := Bytes.covers_iff.2 (Nat.le_of_not_lt short)
    simp only [if_pos covered, if_neg short, Acknowledgement.isSuccess, Acknowledgement.read,
      decide_eq_true_eq]

/-- What a payload taken for a record comes to brings the samples of its envelope. -/
theorem samples_ofRecord {e : Envelope}
    (hk : e.header.kind ∉ [Envelope.noop, Envelope.error, Envelope.done]) :
    (ofRecord e.payload).samples = e.samples := by
  unfold ofRecord DiagRecord.decode Envelope.samples Envelope.family?
  by_cases short : e.payload.length < DiagRecord.size
  · rw [if_neg (Bytes.not_covers_iff.2 short), if_pos (.inr short)]
    rfl
  · have plain : ¬ (e.header.kind ∈ [Envelope.noop, Envelope.error, Envelope.done] ∨
        e.payload.length < DiagRecord.size) := not_or.2 ⟨hk, short⟩
    rw [if_pos (Bytes.covers_iff.2 (Nat.le_of_not_lt short)), if_neg plain]
    have first : e.payload.head? = some (DiagRecord.read e.payload).family :=
      DiagRecord.head?_eq_family (by omega)
    simp only [first, Option.some.injEq, Family.ofCode?]
    by_cases h2 : (DiagRecord.read e.payload).family = 2
    · simp only [h2, if_true]
      rfl
    · by_cases h10 : (DiagRecord.read e.payload).family = 10
      · simp only [h10, if_true, if_neg (show (10 : UInt8) ≠ 2 by decide)]
        rfl
      · simp only [if_neg h2, if_neg h10]
        rfl

/-- A payload taken for a record does not end the dump. -/
theorem verdict?_ofRecord (payload : Bytes) : (ofRecord payload).verdict? = none := by
  unfold ofRecord
  split
  · rfl
  · split <;> rfl

/-- **Nothing of another request ends the dump,** and of its own envelopes those
that end a dump do. -/
theorem verdict?_ofEnvelope (seq : UInt32) (e : Envelope) :
    (ofEnvelope seq e).verdict? = if e.header.seq = seq ∧ e.ends then some e.verdict else none := by
  unfold ofEnvelope
  by_cases hs : e.header.seq = seq
  · rw [if_neg fun h => h hs]
    by_cases hd : e.header.kind = Envelope.done
    · rw [if_pos hd, if_pos ⟨hs, by simp [Envelope.ends, hd]⟩, Envelope.verdict, if_pos hd]
      rfl
    · rw [if_neg hd]
      by_cases he : e.header.kind = Envelope.error
      · simp only [if_pos he, ofError_eq, Envelope.ends, Envelope.verdict, if_neg hd,
          Envelope.errorCode]
        by_cases short : e.payload.length < Acknowledgement.size
        · simp [hs, he, short, verdict?]
        · have apart : ¬ Envelope.error = Envelope.done := by decide
          by_cases zero : (Bytes.u32 e.payload 0).toInt32 = 0 <;>
            simp [hs, he, short, zero, apart, verdict?]
      · have open' : ¬ (e.header.seq = seq ∧ e.ends) := by simp [Envelope.ends, hd, he]
        rw [if_neg he, if_neg open']
        split
        · rfl
        · exact verdict?_ofRecord e.payload
  · rw [if_pos hs, if_neg fun h => hs h.1]
    rfl

/-- **Nothing of another request brings a sample,** and its own envelopes bring
theirs. -/
theorem samples_ofEnvelope (seq : UInt32) (e : Envelope) :
    (ofEnvelope seq e).samples = if e.header.seq = seq then e.samples else [] := by
  unfold ofEnvelope
  by_cases hs : e.header.seq = seq
  · rw [if_neg fun h => h hs, if_pos hs]
    by_cases hk : e.header.kind ∈ [Envelope.noop, Envelope.error, Envelope.done]
    -- An envelope with a meaning of its own brings no samples, on both sides.
    · have none : e.samples = [] := by
        rw [Envelope.samples, Envelope.family?, if_pos (.inl hk)]
      rw [none]
      by_cases hd : e.header.kind = Envelope.done
      · rw [if_pos hd]
        rfl
      · rw [if_neg hd]
        by_cases he : e.header.kind = Envelope.error
        · rw [if_pos he, ofError_eq]
          split
          · rfl
          · split <;> rfl
        · rw [if_neg he, if_pos (by simpa [hd, he] using hk)]
          rfl
    · rw [← samples_ofRecord hk]
      simp only [List.mem_cons, List.not_mem_nil, or_false, not_or] at hk
      rw [if_neg hk.2.2, if_neg hk.2.1, if_neg hk.1]
  · rw [if_pos hs, if_neg hs]
    rfl

end Reply

/-! ### A row of envelopes -/

namespace Dump

/-- What reading came to, its notes apart. -/
def Outcome.effect (o : Outcome) : Except Error Progress × Pool Sample := (o.result, o.pool)

/-- The envelopes of a row that answer a request. -/
def own (seq : UInt32) (es : List Envelope) : List Envelope := es.filter (·.header.seq = seq)

/-- The samples of a row: those of its own envelopes before the first that ends the dump. -/
def samples (seq : UInt32) (es : List Envelope) : List Sample :=
  ((own seq es).takeWhile (!·.ends)).flatMap Envelope.samples

/-- How the dump stands after a row: the first of its own envelopes that ends it decides. -/
def verdict (seq : UInt32) (es : List Envelope) : Except Error Progress :=
  match (own seq es).find? (·.ends) with
  | none => .ok .more
  | some e => e.verdict

/-- The envelopes of a request in two rows are those in the first and then those in the second. -/
theorem own_append (seq : UInt32) (es fs : List Envelope) :
    own seq (es ++ fs) = own seq es ++ own seq fs := List.filter_append ..

/-- Behind a row without an end the samples go on. -/
theorem samples_append_of_open {seq : UInt32} {es fs : List Envelope}
    (h : ∀ e ∈ own seq es, e.ends = false) :
    samples seq (es ++ fs) = samples seq es ++ samples seq fs := by
  have all : ∀ e ∈ own seq es, (!e.ends) = true := fun e he => by rw [h e he]; rfl
  have whole : (own seq es ++ []).takeWhile (!·.ends) = own seq es ++ [] :=
    List.takeWhile_append_of_pos all
  rw [List.append_nil] at whole
  rw [samples, samples, samples, own_append, List.takeWhile_append_of_pos all, whole,
    List.flatMap_append]

/-- Behind a row without an end the rest decides. -/
theorem verdict_append_of_open {seq : UInt32} {es fs : List Envelope}
    (h : ∀ e ∈ own seq es, e.ends = false) : verdict seq (es ++ fs) = verdict seq fs := by
  have none : (own seq es).find? (·.ends) = none := by
    refine List.find?_eq_none.2 fun e he => ?_
    rw [h e he]
    exact Bool.false_ne_true
  rw [verdict, verdict, own_append, List.find?_append, none, Option.none_or]

/-- One envelope is read as its reply says: the reply ends the dump, or its samples
are appended and reading goes on. -/
theorem effect_absorb_cons (seq : UInt32) (p : Pool Sample) (e : Envelope) (es : List Envelope) :
    (absorb seq p (e :: es)).effect =
      match (Reply.ofEnvelope seq e).verdict? with
      | some result => (result, p)
      | none =>
        match p.appendAll (Reply.ofEnvelope seq e).samples with
        | (.ok (), p) => (absorb seq p es).effect
        | (.error error, p) => (.error error, p) := by
  rw [absorb]
  cases Reply.ofEnvelope seq e with
  | socket samples =>
    simp only [Reply.verdict?, Reply.samples]
    split <;> simp_all [Outcome.effect]
  | finished | failed error => rfl
  | foreign got | nothing | short length | unknownFamily code => rfl

/-- **Reading a row is appending its samples:** whatever the allocator refuses, the
row's samples are appended in order, and if all are taken the row decides how the
dump stands. -/
theorem effect_absorb (seq : UInt32) (p : Pool Sample) (es : List Envelope) :
    (absorb seq p es).effect =
      match p.appendAll (samples seq es) with
      | (.ok (), p) => (verdict seq es, p)
      | (.error error, p) => (.error error, p) := by
  -- On the envelopes. One of another request changes nothing; of its own, the first that ends
  -- the dump decides, and those before it append their samples, which can fail.
  induction es generalizing p with
  | nil => rfl
  | cons e es ih =>
    rw [effect_absorb_cons, Reply.verdict?_ofEnvelope, Reply.samples_ofEnvelope]
    by_cases hs : e.header.seq = seq
    · have hown : own seq (e :: es) = e :: own seq es := List.filter_cons_of_pos (by simpa using hs)
      by_cases hend : e.ends
      · simp only [samples, verdict, hown, hs, hend, List.takeWhile_cons, List.find?_cons,
          Bool.not_true, Bool.false_eq_true, if_false, if_true, and_self, List.flatMap_nil,
          Pool.appendAll_nil]
      · simp only [samples, verdict, hown, hs, hend, List.takeWhile_cons, List.find?_cons,
          Bool.not_false, if_true, and_false, if_false, List.flatMap_cons, Bool.false_eq_true,
          Pool.appendAll_append]
        cases p.appendAll e.samples with
        | mk result p =>
          cases result with
          | ok _ => exact ih p
          | error error => rfl
    · have hown : own seq (e :: es) = own seq es :=
        List.filter_cons_of_neg (by simpa using hs)
      simp only [samples, verdict, hown, hs, false_and, if_false, Pool.appendAll_nil]
      exact ih p

/-- What a row leaves of the store is what its samples leave of it. -/
theorem snd_effect_absorb (seq : UInt32) (p : Pool Sample) (es : List Envelope) :
    (absorb seq p es).effect.2 = (p.appendAll (samples seq es)).2 := by
  rw [effect_absorb]
  split <;> rename_i h <;> rw [h]

/-- Where every sample is taken, the row decides. -/
theorem effect_absorb_of_takes {seq : UInt32} {p : Pool Sample} {es : List Envelope}
    (granted : p.Takes (samples seq es)) :
    (absorb seq p es).effect = (verdict seq es, (p.appendAll (samples seq es)).2) := by
  have taken := Pool.appendAll_of_takes granted
  rw [effect_absorb]
  split
  · rename_i p' h
    rw [h]
  · rename_i e p' h
    rw [h] at taken
    cases taken

/-- What is left over of a datagram changes nothing but the notes. -/
theorem effect_read (seq : UInt32) (p : Pool Sample) (datagram : Bytes) :
    (read seq p datagram).effect = (absorb seq p (Envelope.split datagram).1).effect := by
  unfold read
  simp only
  split <;> rfl

/-- What a datagram does is told by its envelopes; what is left over behind them has no part in
it. -/
theorem effect_absorb_of_read {seq : UInt32} {p : Pool Sample} {datagram : Bytes}
    {result : Except Error Progress} (h : (read seq p datagram).result = result) :
    (absorb seq p (Envelope.split datagram).1).effect = (result, (read seq p datagram).pool) := by
  rw [← effect_read, ← h]
  rfl

end Dump
end TcpCensus
