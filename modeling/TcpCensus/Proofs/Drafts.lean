/-
# A message step by step, and in place

A message is put together in steps: pieces are appended, attributes among them, and the
number and the port are set, in any order and any number of times. All that its bytes tell of
the steps is the row of the pieces, the last number and the last port.

The same message can be written in place. A draft is nothing but its bytes: a piece goes to
the end, and then all the bytes are brought to a multiple of four; a number is written over
the four bytes that stand at its offset in the header, and the length, at last, over the first
four.

* `Message.build_eq`: what the steps come to.
* `Message.bytes_build`, `Message.finish_eq`: writing in place gives the same bytes, at every
  step and at the end.
* `Message.build_normal_form`: so the bytes are a header and the padded pieces, a finished
  message is read as one envelope with just them in it, and its attributes are read back.
-/

import TcpCensus.Proofs.Messages

namespace TcpCensus
namespace Message

/-! ### Steps -/

/-- A step in putting a message together. -/
inductive Step
  /-- Append bytes, which may be those of a record. -/
  | append (data : Bytes)
  | appendAttribute (type : UInt16) (data : Bytes)
  | setSeq (seq : UInt32)
  | setPort (port : UInt32)

namespace Step

/-- The piece that a step appends, if it appends one. -/
def piece? : Step → Option Bytes
  | append data => some data
  | appendAttribute type data => some ((Attribute.Header.new type data.length).encode ++ data)
  | setSeq _ | setPort _ => none

/-- The number that a step sets, if it sets the number. -/
def seq? : Step → Option UInt32
  | setSeq seq => some seq
  | append _ | appendAttribute .. | setPort _ => none

/-- The port that a step sets, if it sets the port. -/
def port? : Step → Option UInt32
  | setPort port => some port
  | append _ | appendAttribute .. | setSeq _ => none

/-- The pieces that some steps append, each brought to a multiple of four bytes. -/
def row (steps : List Step) : Bytes := (steps.filterMap piece?).flatMap padded

/-- The number that some steps set last, or `seq` if they set none. -/
def lastSeq (seq : UInt32) (steps : List Step) : UInt32 :=
  (steps.filterMap seq?).getLast?.getD seq

/-- The port that some steps set last, or `port` if they set none. -/
def lastPort (port : UInt32) (steps : List Step) : UInt32 :=
  (steps.filterMap port?).getLast?.getD port

/-- The pieces of later steps stand behind those of earlier ones. -/
theorem row_append (steps more : List Step) : row (steps ++ more) = row steps ++ row more := by
  rw [row, List.filterMap_append, List.flatMap_append, row, row]

/-- The part of a row that some of the steps have filled. -/
theorem slice_row (before steps later : List Step) :
    Bytes.slice (row (before ++ steps ++ later)) (row before).length (row steps).length =
      row steps := by
  rw [List.append_assoc, row_append, row_append, Bytes.slice_append_of_le (Nat.le_refl _),
    Nat.sub_self, Bytes.slice_append_of_length rfl]

/-- The steps that append some attributes, each given by its type and its data. -/
def attributes (as : List (UInt16 × Bytes)) : List Step := as.map fun a => appendAttribute a.1 a.2

/-- The row of a run of attributes is the row of their encodings. -/
theorem row_attributes (as : List (UInt16 × Bytes)) :
    row (attributes as) = as.flatMap fun a => Attribute.encode a.1 a.2 := by
  have pieces : piece? ∘ (fun a : UInt16 × Bytes => appendAttribute a.1 a.2) =
      some ∘ fun a => (Attribute.Header.new a.1 a.2.length).encode ++ a.2 := rfl
  rw [row, attributes, List.filterMap_map, pieces, List.filterMap_eq_map, List.flatMap_map]
  rfl

end Step

/-- The message after a step. -/
def apply (m : Message) : Step → Message
  | .append data => m.append data
  | .appendAttribute type data => m.appendAttribute type data
  | .setSeq seq => m.withSeq seq
  | .setPort port => m.withPort port

/-- The message after some steps. -/
def build (m : Message) (steps : List Step) : Message := steps.foldl apply m

/-- **What the steps come to:** the pieces go behind the body, in order, and the last number
and the last port stay. -/
theorem build_eq (m : Message) (steps : List Step) :
    m.build steps = { m with
      seq := Step.lastSeq m.seq steps
      port := Step.lastPort m.port steps
      body := m.body ++ Step.row steps } := by
  induction steps generalizing m with
  | nil =>
    rw [Step.row, List.filterMap_nil, List.flatMap_nil, List.append_nil]
    rfl
  | cons step steps ih =>
    have rest : m.build (step :: steps) = (m.apply step).build steps := rfl
    rw [rest, ih]
    cases step with
    | append data =>
      simp only [apply, append, Step.lastSeq, Step.lastPort, Step.row, Step.seq?, Step.port?,
        Step.piece?, List.filterMap_cons, List.flatMap_cons, List.append_assoc]
    | appendAttribute type data =>
      simp only [apply, appendAttribute, Attribute.encode, Step.lastSeq, Step.lastPort, Step.row,
        Step.seq?, Step.port?, Step.piece?, List.filterMap_cons, List.flatMap_cons,
        List.append_assoc]
    | setSeq seq =>
      simp only [apply, withSeq, Step.lastSeq, Step.lastPort, Step.row, Step.seq?, Step.port?,
        Step.piece?, List.filterMap_cons, List.getLast?_cons, Option.getD_some]
    | setPort port =>
      simp only [apply, withPort, Step.lastSeq, Step.lastPort, Step.row, Step.seq?, Step.port?,
        Step.piece?, List.filterMap_cons, List.getLast?_cons, Option.getD_some]

/-- A step keeps a message aligned. -/
theorem Aligned.apply {m : Message} (h : m.Aligned) (step : Step) : (m.apply step).Aligned := by
  cases step with
  | append data => exact h.append data
  | appendAttribute type data => exact h.append _
  | setSeq _ | setPort _ => exact h

/-! ### Drafts -/

/-- The bytes with others written over those that stand from offset `o` on. -/
def overwrite (bs : Bytes) (o : Nat) (word : Bytes) : Bytes :=
  bs.take o ++ (word ++ bs.drop (o + word.length))

/-- The draft of a message with nothing in it. -/
def blank (kind flags : UInt16) : Bytes := (Envelope.Header.new kind flags).encode

/-- The draft after a step. -/
def write (draft : Bytes) : Step → Bytes
  | .append data => padded (draft ++ data)
  | .appendAttribute type data =>
    padded (draft ++ ((Attribute.Header.new type data.length).encode ++ data))
  | .setSeq seq => overwrite draft 8 (Bytes.ofU32 seq)
  | .setPort port => overwrite draft 12 (Bytes.ofU32 port)

/-- The draft with its length written into it. -/
def writeLength (draft : Bytes) : Bytes := overwrite draft 0 (Bytes.ofU32 (.ofNat draft.length))

/-- What stands in front of the bytes that are overwritten, and what stands behind them, is
left alone. -/
theorem overwrite_append {before old word : Bytes} {o : Nat} (front : before.length = o)
    (same : old.length = word.length) (after : Bytes) :
    overwrite (before ++ (old ++ after)) o word = before ++ (word ++ after) := by
  have behind : o + word.length = (before ++ old).length := by
    rw [List.length_append, front, same]
  rw [overwrite, behind, ← front, List.take_left, ← List.append_assoc before old, List.drop_left]

/-- **No byte beside those that are overwritten changes.** -/
theorem getElem?_overwrite_of_not_mem {bs word : Bytes} {o k : Nat}
    (within : o + word.length ≤ bs.length) (beside : k < o ∨ o + word.length ≤ k) :
    (overwrite bs o word)[k]? = bs[k]? := by
  have front : (bs.take o).length = o := by
    rw [List.length_take]
    omega
  rw [overwrite]
  rcases beside with before | behind
  · rw [List.getElem?_append_left (by omega), List.getElem?_take_of_lt before]
  · rw [List.getElem?_append_right (by omega), front,
      List.getElem?_append_right (by omega), List.getElem?_drop]
    congr 1
    omega

/-- The number of a message is in its bytes 8 to 11. -/
theorem bytes_withSeq (m : Message) (seq : UInt32) :
    (m.withSeq seq).bytes = overwrite m.bytes 8 (Bytes.ofU32 seq) := by
  have offset : (Bytes.ofU32 16 ++ (Bytes.ofU16 m.kind ++ Bytes.ofU16 m.flags)).length = 8 := by
    simp
  have same : (Bytes.ofU32 m.seq).length = (Bytes.ofU32 seq).length := by simp
  have written := overwrite_append offset same (Bytes.ofU32 m.port ++ m.body)
  simp only [List.append_assoc] at written
  simp only [bytes, stamped, withSeq, Envelope.Header.encode, List.append_assoc, written]

/-- The port of a message is in its bytes 12 to 15. -/
theorem bytes_withPort (m : Message) (port : UInt32) :
    (m.withPort port).bytes = overwrite m.bytes 12 (Bytes.ofU32 port) := by
  have offset : (Bytes.ofU32 16 ++ (Bytes.ofU16 m.kind ++ (Bytes.ofU16 m.flags ++
      Bytes.ofU32 m.seq))).length = 12 := by
    simp
  have same : (Bytes.ofU32 m.port).length = (Bytes.ofU32 port).length := by simp
  have written := overwrite_append offset same m.body
  simp only [List.append_assoc] at written
  simp only [bytes, stamped, withPort, Envelope.Header.encode, List.append_assoc, written]

/-- A message is a header and a body. -/
theorem length_bytes (m : Message) : m.bytes.length = Envelope.Header.size + m.body.length := by
  rw [bytes, stamped, List.length_append, Envelope.Header.length_encode]

/-- The body of a message is what stands behind its first 16 bytes. -/
theorem drop_bytes (m : Message) : m.bytes.drop 16 = m.body :=
  List.drop_left' (Envelope.Header.length_encode _)

/-- A finished message is its bytes with the length written into them. -/
theorem finish_eq (m : Message) : m.finish = writeLength m.bytes := by
  have front : ([] : Bytes).length = 0 := rfl
  have same (n : UInt32) : (Bytes.ofU32 16).length = (Bytes.ofU32 n).length := by simp
  rw [writeLength, length_bytes]
  simp only [finish, bytes, stamped, Envelope.Header.encode, List.append_assoc]
  exact (overwrite_append front (same _) _).symm

/-- **A step in place is the step.** -/
theorem Aligned.bytes_apply {m : Message} (h : m.Aligned) (step : Step) :
    (m.apply step).bytes = write m.bytes step := by
  cases step with
  | append data => exact h.bytes_append data
  | appendAttribute type data => exact h.bytes_append _
  | setSeq seq => exact m.bytes_withSeq seq
  | setPort port => exact m.bytes_withPort port

/-- **Writing in place gives the bytes of the message,** at every step. -/
theorem Aligned.bytes_build {m : Message} (h : m.Aligned) (steps : List Step) :
    (m.build steps).Aligned ∧ (m.build steps).bytes = steps.foldl write m.bytes := by
  induction steps generalizing m with
  | nil => exact ⟨h, rfl⟩
  | cons step steps ih =>
    rw [List.foldl_cons, ← h.bytes_apply step]
    exact ih (h.apply step)

/-! ### The normal form -/

/-- A message with nothing in it is a header alone. -/
theorem bytes_blank (kind flags : UInt16) : ({ kind, flags } : Message).bytes = blank kind flags :=
  List.append_nil _

/-- The bytes of an aligned message are a multiple of four, for the header is one. -/
theorem Aligned.four_dvd_length_bytes {m : Message} (h : m.Aligned) : 4 ∣ m.bytes.length := by
  rw [length_bytes]
  exact Nat.dvd_add ⟨4, rfl⟩ h

/-- **An appended piece goes behind all that is there,** padded, and the header stays as it
is. -/
theorem Aligned.write_bytes {m : Message} (h : m.Aligned) {step : Step} {piece : Bytes}
    (appends : step.piece? = some piece) :
    (write m.bytes step).take 16 = m.bytes.take 16 ∧
      (write m.bytes step).drop 16 = m.bytes.drop 16 ++ padded piece := by
  have appended : (m.apply step).bytes = m.bytes ++ padded piece := by
    cases step with
    | append data | appendAttribute type data =>
      cases appends
      exact (List.append_assoc ..).symm
    | setSeq seq | setPort port => cases appends
  have header : 16 ≤ m.bytes.length := by
    rw [length_bytes]
    exact Nat.le_add_right ..
  rw [← h.bytes_apply step, appended]
  exact ⟨List.take_append_of_le_length header, List.drop_append_of_le_length header⟩

/-- What the bytes of a message are that was put together in some steps, and of the draft that
the same steps write. -/
structure NormalForm (kind flags : UInt16) (steps : List Step) (m : Message) (draft : Bytes) :
    Prop where
  bytes : m.bytes = draft
  finish : m.finish = writeLength draft
  dvd : 4 ∣ draft.length
  header : 16 ≤ draft.length
  /-- Behind the header are the padded pieces, in order. -/
  body : draft.drop 16 = Step.row steps
  /-- A piece leaves the header alone and goes behind all that is there. -/
  piece : ∀ step piece, step.piece? = some piece →
    (write draft step).take 16 = draft.take 16 ∧
      (write draft step).drop 16 = draft.drop 16 ++ padded piece
  /-- To set the number, or the port, leaves all else alone. -/
  seq : ∀ seq k, k < 8 ∨ 12 ≤ k → (write draft (.setSeq seq))[k]? = draft[k]?
  port : ∀ port k, k < 12 ∨ 16 ≤ k → (write draft (.setPort port))[k]? = draft[k]?
  /-- The finished message is one envelope, with the number and the port that were set last. -/
  envelope : m.finish.length < 2 ^ 32 → ∃ length : UInt32, length.toNat = m.finish.length ∧
    Envelope.split m.finish = ([⟨⟨length, kind, flags, Step.lastSeq 0 steps,
      Step.lastPort 0 steps⟩, Step.row steps⟩], [])
  /-- It does not matter how the sets stand among the pieces. -/
  order : ∀ others, others.filterMap Step.piece? = steps.filterMap Step.piece? →
    Step.lastSeq 0 others = Step.lastSeq 0 steps →
    Step.lastPort 0 others = Step.lastPort 0 steps →
      (build { kind, flags } others).finish = m.finish
  /-- A run of attributes is read back from the part of the payload that it has filled. -/
  attributes : ∀ before as later, steps = before ++ Step.attributes as ++ later →
    (∀ a ∈ as, a.2.length ≤ 65531) →
      Attribute.all (Bytes.slice (Step.row steps) (Step.row before).length
          (Step.row (Step.attributes as)).length) =
        as.map fun a => ⟨a.1 &&& 0x3fff, a.2⟩

/-- **The normal form of a message.** Put together in any steps, its bytes are those that are
got by writing in place, and a multiple of four: a header and the padded pieces in order.
A piece leaves the header alone, and setting the number or the port leaves all else alone.
A finished message is read as one envelope, which is all of it, with its length, the number
and the port that were set last, and just those pieces; so it does not matter how the sets
stand among the pieces. Of a run of attributes whose data fits the length field each is read
back from the part of the payload that the run has filled. -/
theorem build_normal_form (kind flags : UInt16) (steps : List Step) :
    NormalForm kind flags steps (build { kind, flags } steps)
      (steps.foldl write (blank kind flags)) := by
  let m := build { kind, flags } steps
  have made : m = _ := build_eq _ steps
  obtain ⟨aligned, bytes⟩ := Aligned.bytes_build (m := { kind, flags }) ⟨0, rfl⟩ steps
  rw [bytes_blank] at bytes
  have body : m.body = Step.row steps := by
    rw [made]
    exact List.nil_append _
  have words (n : UInt32) : (Bytes.ofU32 n).length = 4 := Bytes.length_ofU32 n
  have header : 16 ≤ (build { kind, flags } steps).bytes.length := by
    rw [length_bytes]
    exact Nat.le_add_right ..
  -- From here on the draft is the bytes of the message.
  rw [← bytes]
  constructor
  case bytes => rfl
  case finish => exact m.finish_eq
  case dvd => exact aligned.four_dvd_length_bytes
  case header => exact header
  case body => exact m.drop_bytes.trans body
  case piece => exact fun step piece appends => aligned.write_bytes appends
  case seq =>
    exact fun seq k beside =>
      getElem?_overwrite_of_not_mem (by rw [words]; omega) (by rwa [words])
  case port =>
    exact fun port k beside =>
      getElem?_overwrite_of_not_mem (by rw [words]; omega) (by rwa [words])
  case envelope =>
    intro fits
    -- The envelope is all there is: behind it there are no bytes, and those split into nothing.
    have whole := split_finish_append aligned fits []
    rw [List.append_nil, Envelope.split_nil] at whole
    refine ⟨m.envelope.header.length, ?_, ?_⟩
    · rw [toNat_length_envelope fits, length_finish]
    · rw [whole, Message.envelope, ← body]
      simp only [show build _ steps = m from rfl, made]
  case order =>
    intro others pieces seq port
    rw [build_eq, build_eq]
    simp only [seq, port, Step.row, pieces]
  case attributes =>
    rintro before as later rfl short
    rw [Step.slice_row, Step.row_attributes, Attribute.all_flatMap_encode as short]

/-- The hypotheses of `build_normal_form` can be met: a number and a port are set between a
piece and two attributes that need padding, the number twice; and the same message is got with
the sets in front. -/
theorem build_normal_form_mixed :
    let as : List (UInt16 × Bytes) := [(0x8001, [5]), (2, [6, 7, 8, 9, 10])]
    let before : List Step := [.setSeq 9, .append [1, 2, 3], .setPort 7]
    let later : List Step := [.setSeq 42]
    let steps := before ++ Step.attributes as ++ later
    let others : List Step := [.setPort 7, .setSeq 42, .append [1, 2, 3]] ++ Step.attributes as
    let m := build { kind := 20, flags := 1 } steps
    let row : Bytes := [1, 2, 3, 0, 5, 0, 1, 0x80, 5, 0, 0, 0, 9, 0, 2, 0, 6, 7, 8, 9, 10, 0, 0, 0]
    m.finish.length < 2 ^ 32 ∧
      Envelope.split m.finish = ([⟨⟨40, 20, 1, 42, 7⟩, row⟩], []) ∧
      (build { kind := 20, flags := 1 } others).finish = m.finish ∧
      (∀ a ∈ as, a.2.length ≤ 65531) ∧
      Attribute.all (Bytes.slice row 4 20) = [⟨1, [5]⟩, ⟨2, [6, 7, 8, 9, 10]⟩] := by
  intro as before later steps others m row
  have fits : m.finish.length < 2 ^ 32 := by decide
  have short : ∀ a ∈ as, a.2.length ≤ 65531 := by decide
  have form := build_normal_form 20 1 steps
  obtain ⟨length, hlength, split⟩ := form.envelope fits
  have forty : length = 40 := UInt32.toNat_inj.1 (hlength.trans (by decide))
  subst forty
  exact ⟨fits, split, form.order others rfl rfl rfl, short,
    form.attributes before as later rfl short⟩

end Message
end TcpCensus
