/-
# Reading a dump

A dump arrives in datagrams. Reading one appends its samples to a store in the
order they stand in, up to the envelope that ends the dump, the first error, or
the first sample the store cannot take. After either, nothing further in the
datagram is looked at.

`absorb_append` is the law the rest builds on: reading a row of envelopes is
reading its first part and, if the dump goes on, the rest.
-/

import TcpCensus.Dump.Reply
import TcpCensus.Store

namespace TcpCensus

/-- Whether more datagrams belong to a dump. -/
inductive Progress
  /-- The dump goes on. -/
  | more
  /-- The dump is complete. -/
  | complete
  deriving DecidableEq, Repr

namespace Dump

/-- How reading ended, and what it left. -/
structure Outcome where
  result : Except Error Progress
  pool : Pool Sample
  notes : List Note

namespace Outcome

/-- The same, after some earlier notes. -/
def after (o : Outcome) (notes : List Note) : Outcome := { o with notes := notes ++ o.notes }

end Outcome

/-- Read envelopes for the caller that waits for the replies to `seq`. -/
def absorb (seq : UInt32) (p : Pool Sample) : List Envelope → Outcome
  | [] => ⟨.ok .more, p, []⟩
  | e :: es =>
    match Reply.ofEnvelope seq e with
    | .finished => ⟨.ok .complete, p, []⟩
    | .failed error => ⟨.error error, p, []⟩
    | .socket samples =>
      match p.appendAll samples with
      | (.ok (), p) => absorb seq p es
      | (.error error, p) => ⟨.error error, p, []⟩
    | reply => (absorb seq p es).after (reply.notes seq)

/-- To put no notes in front changes nothing. -/
@[simp] theorem Outcome.after_nil (o : Outcome) : o.after [] = o := rfl

/-- Of notes that are put in front the last ones come first. -/
@[simp] theorem Outcome.after_after (o : Outcome) (later earlier : List Note) :
    (o.after later).after earlier = o.after (earlier ++ later) := by
  simp [Outcome.after]

/-- **Reading goes on where it stopped:** to read a row of envelopes is to read
its first part and then, if the dump goes on, the rest. -/
theorem absorb_append (seq : UInt32) (p : Pool Sample) (es fs : List Envelope) :
    absorb seq p (es ++ fs) =
      match (absorb seq p es).result with
      | .ok .more =>
        (absorb seq (absorb seq p es).pool fs).after (absorb seq p es).notes
      | _ => absorb seq p es := by
  induction es generalizing p with
  | nil => rfl
  | cons e es ih =>
    rw [List.cons_append, absorb, absorb]
    cases Reply.ofEnvelope seq e with
    | finished => rfl
    | failed error => rfl
    | socket samples =>
      simp only
      split
      · exact ih _
      · rfl
    | foreign got | nothing | short length | unknownFamily code =>
      simp only [ih, Outcome.after]
      split <;> simp_all

/-- The note about what no envelope of a datagram covers. -/
def restNotes (rest : Bytes) : List Note :=
  if rest.isEmpty then [] else [.cutEnvelope rest.length]

/-- Read a datagram for the caller that waits for the replies to `seq`. -/
def read (seq : UInt32) (p : Pool Sample) (datagram : Bytes) : Outcome :=
  let (envelopes, rest) := Envelope.split datagram
  let o := absorb seq p envelopes
  match o.result with
  | .ok .more => { o with notes := o.notes ++ restNotes rest }
  | _ => o

end Dump
end TcpCensus
