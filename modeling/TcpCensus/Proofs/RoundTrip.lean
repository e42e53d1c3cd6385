/-
# Reading a dump undoes writing it

A dump is written socket by socket: each is a message of a record and the
attributes behind it, and the messages stand in a datagram one behind the other.
Writer and reader share nothing but the layout of the records. The writer pads
each piece as it goes and states the length of the whole; the reader finds every
item by its own length.

* `Entry.samples`: what an entry says, told from its fields alone.
* `Entry.samples_envelope`: the reader finds the same in the entry's envelope.
* `read_entries`: so reading a written dump gives the samples of its entries, in
  order; an end mark behind them completes it; and to a caller that waits for
  another number it is nothing at all.
-/

import TcpCensus.Proofs.Decoding
import TcpCensus.Proofs.Messages

namespace TcpCensus
namespace Dump

/-! ### Entries -/

/-- A socket of a dump, as it is written. -/
structure Entry where
  kind : UInt16
  flags : UInt16
  record : DiagRecord
  /-- The attributes behind the record: the type of each, with its flags, and the data. -/
  attributes : List (UInt16 × Bytes)

namespace Entry

/-- The message that an entry is written as, in answer to a request. -/
def message (e : Entry) (seq : UInt32) : Message :=
  e.attributes.foldl (fun m a => m.appendAttribute a.1 a.2)
    ((({ kind := e.kind, flags := e.flags } : Message).withSeq seq).append e.record.encode)

/-- The data of the statistics attributes: those whose type is 2, flags apart. -/
def statistics (e : Entry) : List Bytes :=
  (e.attributes.filter fun a => a.1 &&& 0x3fff = 2).map Prod.snd

/-- What an entry says: a sample for each statistics attribute, where the record is of
one of the two families. -/
def samples (e : Entry) : List Sample :=
  if e.record.family = 2 then e.statistics.map (.ofRecord .inet e.record)
  else if e.record.family = 10 then e.statistics.map (.ofRecord .inet6 e.record)
  else []

/-- An entry that can be written: its kind has no meaning of its own, and the length of
each attribute and of the whole message fits its field. -/
structure Writable (e : Entry) (seq : UInt32) : Prop where
  kind : e.kind ∉ [Envelope.noop, Envelope.error, Envelope.done]
  data : ∀ a ∈ e.attributes, a.2.length ≤ 65531
  total : (e.message seq).finish.length < 2 ^ 32

/-- The record is a multiple of four bytes long. -/
theorem padded_encode (record : DiagRecord) : padded record.encode = record.encode := by
  have none : padLength record.encode.length = 0 := by
    rw [DiagRecord.length_encode]
    decide
  rw [padded, none, List.replicate_zero, List.append_nil]

/-- The pieces that an entry is put together from. -/
def pieces (e : Entry) : List Bytes :=
  e.record.encode ::
    e.attributes.map fun a => (Attribute.Header.new a.1 a.2.length).encode ++ a.2

/-- An attribute is appended like any piece. -/
theorem message_eq_foldl (e : Entry) (seq : UInt32) :
    e.message seq = e.pieces.foldl Message.append
      (({ kind := e.kind, flags := e.flags } : Message).withSeq seq) := by
  rw [pieces, List.foldl_cons, List.foldl_map]
  rfl

/-- The message of an entry: the record, and the attributes behind it. -/
theorem message_eq (e : Entry) (seq : UInt32) :
    e.message seq =
      { kind := e.kind, flags := e.flags, seq,
        body := e.record.encode ++ e.attributes.flatMap fun a => Attribute.encode a.1 a.2 } := by
  rw [message_eq_foldl, Message.foldl_append_eq, pieces, List.flatMap_cons, padded_encode,
    List.flatMap_map]
  rfl

/-- The message of an entry is aligned, for each of its pieces is padded. -/
theorem aligned_message (e : Entry) (seq : UInt32) : (e.message seq).Aligned := by
  rw [message_eq_foldl]
  exact Message.Aligned.foldl_append ⟨0, rfl⟩ e.pieces

/-- An entry is written with its kind. -/
theorem kind_envelope (e : Entry) (seq : UInt32) :
    (e.message seq).envelope.header.kind = e.kind := by
  rw [message_eq]
  rfl

/-- An entry is written with the number of the request that it answers. -/
theorem seq_envelope (e : Entry) (seq : UInt32) : (e.message seq).envelope.header.seq = seq := by
  rw [message_eq]
  rfl

/-- The payload of an entry is its record and its attributes. -/
theorem payload_envelope (e : Entry) (seq : UInt32) :
    (e.message seq).envelope.payload =
      e.record.encode ++ e.attributes.flatMap fun a => Attribute.encode a.1 a.2 := by
  rw [message_eq]
  rfl

/-- The payload of an entry is no shorter than a record. -/
theorem size_le_length_payload (e : Entry) (seq : UInt32) :
    DiagRecord.size ≤ (e.message seq).envelope.payload.length := by
  rw [payload_envelope, List.length_append, DiagRecord.length_encode]
  exact Nat.le_add_right ..

/-- The record is found at the front of the payload. -/
theorem read_payload (e : Entry) (seq : UInt32) :
    DiagRecord.read (e.message seq).envelope.payload = e.record := by
  rw [payload_envelope, DiagRecord.read_encode_append]

/-- The attributes are found behind the record. -/
theorem all_payload {e : Entry} (data : ∀ a ∈ e.attributes, a.2.length ≤ 65531) (seq : UInt32) :
    Attribute.all ((e.message seq).envelope.payload.drop DiagRecord.size) =
      e.attributes.map fun a => ⟨a.1 &&& 0x3fff, a.2⟩ := by
  have front : e.record.encode.length = DiagRecord.size := DiagRecord.length_encode _
  rw [payload_envelope, ← front, List.drop_left, Attribute.all_flatMap_encode _ data]

/-- An entry is taken for a record of its family. -/
theorem family?_envelope {e : Entry} {seq : UInt32} (h : e.Writable seq) :
    (e.message seq).envelope.family? =
      if e.record.family = 2 then some .inet
      else if e.record.family = 10 then some .inet6 else none := by
  have long := e.size_le_length_payload seq
  have first : (e.message seq).envelope.payload.head? = some e.record.family := by
    rw [DiagRecord.head?_eq_family long, read_payload]
  have plain : ¬ (e.kind ∈ [Envelope.noop, Envelope.error, Envelope.done] ∨
      (e.message seq).envelope.payload.length < DiagRecord.size) := by
    rintro (hkind | hshort)
    · exact h.kind hkind
    · omega
  rw [Envelope.family?, kind_envelope, if_neg plain, first]
  simp only [Option.some.injEq]

/-- **The reader finds what the entry says** in the entry's envelope. -/
theorem samples_envelope {e : Entry} {seq : UInt32} (h : e.Writable seq) :
    (e.message seq).envelope.samples = e.samples := by
  have found (family : Family) :
      ((Attribute.all ((e.message seq).envelope.payload.drop DiagRecord.size)).filter
          (·.kind = 2)).map (fun a => Sample.ofRecord family e.record a.data) =
        e.statistics.map (.ofRecord family e.record) := by
    rw [all_payload h.data, List.filter_map, List.map_map, statistics, List.map_map]
    rfl
  rw [Envelope.samples, family?_envelope h, read_payload, samples]
  by_cases h2 : e.record.family = 2
  · rw [if_pos h2, if_pos h2]
    exact found .inet
  · rw [if_neg h2, if_neg h2]
    by_cases h10 : e.record.family = 10
    · rw [if_pos h10, if_pos h10]
      exact found .inet6
    · rw [if_neg h10, if_neg h10]

/-- An entry does not end the dump. -/
theorem ends_envelope {e : Entry} {seq : UInt32} (h : e.Writable seq) :
    (e.message seq).envelope.ends = false := by
  have plain := h.kind
  simp only [List.mem_cons, List.not_mem_nil, or_false, not_or] at plain
  rw [Envelope.ends, kind_envelope, decide_eq_false_iff_not]
  rintro (hdone | ⟨herror, -⟩)
  · exact plain.2.2 hdone
  · exact plain.2.1 herror

end Entry

/-! ### The end mark -/

/-- The end mark of a dump, with anything appended to it. -/
def endMark (seq : UInt32) (flags : UInt16) (pieces : List Bytes) : Message :=
  pieces.foldl Message.append (({ kind := Envelope.done, flags } : Message).withSeq seq)

section EndMark

variable (seq : UInt32) (flags : UInt16) (pieces : List Bytes)

/-- An end mark has its pieces in it, padded, and nothing else. -/
theorem endMark_eq :
    endMark seq flags pieces =
      { kind := Envelope.done, flags, seq, body := pieces.flatMap padded } :=
  Message.foldl_append_eq pieces _

/-- An end mark is aligned, for each of its pieces is padded. -/
theorem aligned_endMark : (endMark seq flags pieces).Aligned :=
  Message.Aligned.foldl_append ⟨0, rfl⟩ pieces

/-- An end mark is of the kind that ends a dump. -/
theorem kind_endMark : (endMark seq flags pieces).envelope.header.kind = Envelope.done := by
  rw [endMark_eq]
  rfl

/-- An end mark has the number of the request whose dump it ends. -/
theorem seq_endMark : (endMark seq flags pieces).envelope.header.seq = seq := by
  rw [endMark_eq]
  rfl

/-- An end mark is an answer to its own request. -/
theorem own_endMark :
    own seq [(endMark seq flags pieces).envelope] = [(endMark seq flags pieces).envelope] :=
  List.filter_eq_self.2 fun x hx => by
    simpa [List.mem_singleton.1 hx] using seq_endMark seq flags pieces

/-- An end mark ends a dump. -/
theorem ends_endMark : (endMark seq flags pieces).envelope.ends = true := by
  rw [Envelope.ends, decide_eq_true_eq]
  exact .inl (kind_endMark seq flags pieces)

/-- The end mark brings no sample, whatever is appended to it. -/
theorem samples_endMark : samples seq [(endMark seq flags pieces).envelope] = [] := by
  have last : (!(endMark seq flags pieces).envelope.ends) = false := by
    rw [ends_endMark]
    rfl
  rw [samples, own_endMark, List.takeWhile_cons, last]
  rfl

/-- The end mark completes a dump. -/
theorem verdict_endMark : verdict seq [(endMark seq flags pieces).envelope] = .ok .complete := by
  rw [verdict, own_endMark, List.find?_cons_of_pos (ends_endMark seq flags pieces)]
  exact if_pos (kind_endMark seq flags pieces)

end EndMark

/-! ### Written dumps -/

variable {seq : UInt32} {entries : List Entry}

/-- The envelopes of the entries of a dump. -/
def envelopes (seq : UInt32) (entries : List Entry) : List Envelope :=
  entries.map fun e => (e.message seq).envelope

/-- A written dump is read as the envelopes of its entries, and whatever messages
follow it as theirs. -/
theorem split_entries_append (writable : ∀ e ∈ entries, e.Writable seq) (ms : List Message)
    (h : ∀ m ∈ ms, m.Aligned ∧ m.finish.length < 2 ^ 32) :
    Envelope.split
        ((entries.flatMap fun e => (e.message seq).finish) ++ ms.flatMap Message.finish) =
      (envelopes seq entries ++ ms.map Message.envelope, []) := by
  have hsplit := Message.split_flatMap_finish (entries.map (·.message seq) ++ ms) fun m hm => by
    rcases List.mem_append.1 hm with hentry | hmore
    · obtain ⟨e, he, rfl⟩ := List.mem_map.1 hentry
      exact ⟨e.aligned_message seq, (writable e he).total⟩
    · exact h m hmore
  rw [List.flatMap_append, List.flatMap_map, List.map_append, List.map_map] at hsplit
  exact hsplit

/-- All entries of a dump answer its request. -/
theorem seq_of_mem_envelopes : ∀ x ∈ envelopes seq entries, x.header.seq = seq := by
  intro x hx
  obtain ⟨e, -, rfl⟩ := List.mem_map.1 hx
  exact e.seq_envelope seq

/-- The envelopes of some entries are all answers to one request. -/
theorem own_envelopes (seq : UInt32) (entries : List Entry) :
    own seq (envelopes seq entries) = envelopes seq entries :=
  List.filter_eq_self.2 fun x hx => by
    rw [decide_eq_true_eq]
    exact seq_of_mem_envelopes x hx

/-- No entry that can be written ends a dump. -/
theorem ends_of_mem_envelopes (writable : ∀ e ∈ entries, e.Writable seq) :
    ∀ x ∈ own seq (envelopes seq entries), x.ends = false := by
  intro x hx
  rw [own_envelopes] at hx
  obtain ⟨e, he, rfl⟩ := List.mem_map.1 hx
  exact Entry.ends_envelope (writable e he)

/-- **Envelopes of entries bring the samples that the entries say,** in order. -/
theorem samples_envelopes (writable : ∀ e ∈ entries, e.Writable seq) :
    samples seq (envelopes seq entries) = entries.flatMap Entry.samples := by
  have whole : (own seq (envelopes seq entries)).takeWhile (!·.ends) = envelopes seq entries := by
    rw [own_envelopes, List.takeWhile_eq_self_iff]
    intro x hx
    rw [ends_of_mem_envelopes writable x (by rwa [own_envelopes])]
    rfl
  rw [samples, whole, envelopes, List.flatMap_map]
  exact List.flatMap_congr fun e he => Entry.samples_envelope (writable e he)

/-- **Nothing in a row that answers another request is read.** -/
theorem effect_absorb_of_foreign {es : List Envelope} (h : ∀ e ∈ es, e.header.seq ≠ seq)
    (p : Pool Sample) : (absorb seq p es).effect = (.ok .more, p) := by
  have hown : own seq es = [] :=
    List.filter_eq_nil_iff.2 fun e he => by simpa using h e he
  rw [effect_absorb, samples, verdict, hown]
  rfl

/-- Behind the entries of a dump, envelopes without samples decide how it stands. -/
theorem read_of_split {datagram : Bytes} {tail : List Envelope} {p : Pool Sample}
    (writable : ∀ e ∈ entries, e.Writable seq)
    (hsplit : Envelope.split datagram = (envelopes seq entries ++ tail, []))
    (quiet : samples seq tail = []) (granted : p.Takes (entries.flatMap Entry.samples)) :
    (read seq p datagram).result = verdict seq tail ∧
      (read seq p datagram).pool.store.toList =
        p.store.toList ++ entries.flatMap Entry.samples := by
  have hopen := ends_of_mem_envelopes writable
  have hsamples : samples seq (envelopes seq entries ++ tail) = entries.flatMap Entry.samples := by
    rw [samples_append_of_open hopen, samples_envelopes writable, quiet, List.append_nil]
  have effect : (read seq p datagram).effect =
      (verdict seq tail, (p.appendAll (entries.flatMap Entry.samples)).2) := by
    have hread := effect_absorb_of_takes (hsamples.symm ▸ granted)
    rw [verdict_append_of_open hopen, hsamples] at hread
    rw [effect_read, hsplit, hread]
  refine ⟨congrArg Prod.fst effect, ?_⟩
  have hpool : (read seq p datagram).pool = (p.appendAll (entries.flatMap Entry.samples)).2 :=
    congrArg Prod.snd effect
  rw [hpool, Pool.toList_appendAll_of_takes granted]

/-- **Reading undoes writing.** A dump is written under a number, entry by entry. Its
reader gets a sample for each statistics attribute of each entry of the two families,
in order and nothing else, and the dump goes on; with an end mark behind it the dump
is complete, with the same samples. A reader that waits for another number gets
nothing from either. -/
theorem read_entries (seq : UInt32) (entries : List Entry)
    (writable : ∀ e ∈ entries, e.Writable seq) (flags : UInt16) (pieces : List Bytes)
    (fits : (endMark seq flags pieces).finish.length < 2 ^ 32) (p : Pool Sample)
    (granted : p.Takes (entries.flatMap Entry.samples)) :
    let dump := entries.flatMap fun e => (e.message seq).finish
    let ended := dump ++ (endMark seq flags pieces).finish
    ((read seq p dump).result = .ok .more ∧
        (read seq p dump).pool.store.toList = p.store.toList ++ entries.flatMap Entry.samples) ∧
      ((read seq p ended).result = .ok .complete ∧
        (read seq p ended).pool.store.toList = p.store.toList ++ entries.flatMap Entry.samples) ∧
      ∀ other, other ≠ seq → ∀ datagram ∈ [dump, ended],
        (read other p datagram).result = .ok .more ∧ (read other p datagram).pool = p := by
  intro dump ended
  have hdump : Envelope.split dump = (envelopes seq entries ++ [], []) := by
    have h := split_entries_append writable [] fun m hm => absurd hm List.not_mem_nil
    rwa [List.flatMap_nil, List.append_nil] at h
  have hended : Envelope.split ended =
      (envelopes seq entries ++ [(endMark seq flags pieces).envelope], []) := by
    have h := split_entries_append writable [endMark seq flags pieces] fun m hm => by
      rw [List.mem_singleton.1 hm]
      exact ⟨aligned_endMark seq flags pieces, fits⟩
    rwa [List.flatMap_singleton] at h
  refine ⟨read_of_split writable hdump rfl granted, ?_, ?_⟩
  · rw [← verdict_endMark seq flags pieces]
    exact read_of_split writable hended (samples_endMark seq flags pieces) granted
  · intro other hother datagram hdatagram
    have foreign : ∀ x ∈ (Envelope.split datagram).1, x.header.seq ≠ other := by
      intro x hx
      have numbered : x.header.seq = seq := by
        rcases List.mem_pair.1 hdatagram with rfl | rfl
        · rw [hdump, List.append_nil] at hx
          exact seq_of_mem_envelopes x hx
        · rw [hended] at hx
          rcases List.mem_append.1 hx with hentry | hlast
          · exact seq_of_mem_envelopes x hentry
          · rw [List.mem_singleton.1 hlast]
            exact seq_endMark seq flags pieces
      rw [numbered]
      exact hother.symm
    have effect := (effect_read other p datagram).trans (effect_absorb_of_foreign foreign p)
    exact ⟨congrArg Prod.fst effect, congrArg Prod.snd effect⟩

/-- The hypotheses of `read_entries` can be met: a socket with a flagged statistics
attribute between two others, a record of no known family, and a socket whose
statistics are empty. -/
theorem read_entries_three :
    let id : SocketId := { SocketId.any with sourcePort := 443 }
    let entries : List Entry :=
      [⟨20, 2, ⟨2, 1, 0, 0, id, 0, 0, 0, 0, 0⟩, [(1, [9]), (0x8002, [1, 2, 3, 4, 5]), (4, [])]⟩,
        ⟨20, 2, ⟨5, 1, 0, 0, id, 0, 0, 0, 0, 0⟩, [(2, [6])]⟩,
        ⟨0, 0, ⟨10, 1, 0, 0, id, 0, 0, 0, 0, 0⟩, [(2, [])]⟩]
    let pool : Pool Sample := ⟨.empty, .generous⟩
    let ended := (entries.flatMap fun e => (e.message 7).finish) ++ (endMark 7 2 [[0, 0, 0]]).finish
    (∀ e ∈ entries, e.Writable 7) ∧ (endMark 7 2 [[0, 0, 0]]).finish.length < 2 ^ 32 ∧
      pool.Takes (entries.flatMap Entry.samples) ∧ (read 7 pool ended).result = .ok .complete ∧
      (read 7 pool ended).pool.store.toList.map (·.info.payload) = [[1, 2, 3, 4, 5], []] ∧
      (8 : UInt32) ≠ 7 ∧ (read 8 pool ended).pool = pool := by
  intro id entries pool ended
  have writable : ∀ e ∈ entries, e.Writable 7 := by
    have checked : (entries.all fun e => e.kind ∉ [Envelope.noop, Envelope.error, Envelope.done] ∧
        (e.attributes.all fun a => a.2.length ≤ 65531) ∧
        (e.message 7).finish.length < 2 ^ 32) = true := by cbv
    simp only [List.all_eq_true, decide_eq_true_eq] at checked
    exact fun e he => ⟨(checked e he).1, (checked e he).2.1, (checked e he).2.2⟩
  have fits : (endMark 7 2 [[0, 0, 0]]).finish.length < 2 ^ 32 := by decide
  have granted : pool.Takes (entries.flatMap Entry.samples) :=
    Pool.takes_of_unfailing Allocator.unfailing_generous (by cbv)
  obtain ⟨-, ⟨hcomplete, hstore⟩, hforeign⟩ := read_entries 7 entries writable 2 _ fits pool granted
  have apart : (8 : UInt32) ≠ 7 := by decide
  refine ⟨writable, fits, granted, hcomplete, ?_, apart, ?_⟩
  · rw [hstore]
    cbv
  · exact (hforeign 8 apart ended (List.mem_cons_of_mem _ List.mem_cons_self)).2

end Dump
end TcpCensus
