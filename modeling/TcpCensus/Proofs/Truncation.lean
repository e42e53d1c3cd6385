/-
# Datagrams that are cut short

A receive gives at most as many bytes as its buffer has room for, so a long datagram
may arrive without its end. The cut can fall anywhere: into a header, a payload, an
attribute, some padding. The envelope it falls into is lost as a whole, with all that
stands behind it, because a reader takes no envelope that is longer than what is there;
what stands before it is read as it would have been.

* `Envelope.split_take_prefix`: of a cut datagram a first part of the envelopes is read.
* `Dump.read_cut`: so a cut loses samples, and perhaps the end of the dump, from the end
  on. It never makes up a sample, an end or an error.
-/

import TcpCensus.Proofs.Readers
import TcpCensus.Proofs.Receiving

namespace TcpCensus

/-- **Of a cut datagram a first part of the envelopes is read.** -/
theorem Envelope.split_take_prefix (d : Bytes) (n : Nat) :
    (split (d.take n)).1 <+: (split d).1 := by
  have items := (framing.map_item_parts_take d n).map fun i => (⟨i.1, i.2⟩ : Envelope)
  rw [List.map_map, List.map_map] at items
  rw [split_eq_parts, split_eq_parts]
  exact items

namespace Dump

/-- Reading a row keeps what was in the store and puts samples behind it. -/
theorem prefix_toList_absorb (seq : UInt32) (p : Pool Sample) (es : List Envelope) :
    p.store.toList <+: (absorb seq p es).effect.2.store.toList := by
  obtain ⟨kept, -, hlist⟩ := p.exists_toList_appendAll (samples seq es)
  rw [snd_effect_absorb, hlist]
  exact List.prefix_append ..

/-- **The first part of a row comes to what the row comes to,** unless it leaves the dump
open; and its samples are the first samples of the row. -/
theorem effect_absorb_extend (seq : UInt32) (p : Pool Sample) {es fs : List Envelope}
    (h : es <+: fs) :
    ((absorb seq p es).effect.1 = .ok .more ∨
      (absorb seq p fs).effect = (absorb seq p es).effect) ∧
    (absorb seq p es).effect.2.store.toList <+: (absorb seq p fs).effect.2.store.toList := by
  obtain ⟨more, rfl⟩ := h
  rw [effect_absorb_append]
  match (absorb seq p es).effect with
  | (.error e, p) => exact ⟨.inr rfl, List.prefix_refl _⟩
  | (.ok .complete, p) => exact ⟨.inr rfl, List.prefix_refl _⟩
  | (.ok .more, p) => exact ⟨.inl rfl, prefix_toList_absorb seq p more⟩

/-- **A cut only loses a tail.** Of the first bytes of a datagram, however many, a first
part of its envelopes is read, and a first part of its samples is put behind what the
store held. If they end the dump or fail already, the whole datagram ends it or fails in
the same way and leaves the same store. This is so whatever growth is refused. -/
theorem read_cut (seq : UInt32) (p : Pool Sample) (datagram : Bytes) (n : Nat) :
    let cut := read seq p (datagram.take n)
    let whole := read seq p datagram
    (Envelope.split (datagram.take n)).1 <+: (Envelope.split datagram).1 ∧
      (∃ kept lost, cut.pool.store.toList = p.store.toList ++ kept ∧
        whole.pool.store.toList = p.store.toList ++ (kept ++ lost)) ∧
      (cut.result = .ok .more ∨ whole.result = cut.result ∧ whole.pool = cut.pool) := by
  intro cut whole
  have row := Envelope.split_take_prefix datagram n
  have hcut : cut.effect = _ := effect_read seq p (datagram.take n)
  have hwhole : whole.effect = _ := effect_read seq p datagram
  obtain ⟨ended, stored⟩ := effect_absorb_extend seq p row
  have held := prefix_toList_absorb seq p (Envelope.split (datagram.take n)).1
  rw [← hcut, ← hwhole] at ended stored
  rw [← hcut] at held
  refine ⟨row, ?_, ?_⟩
  · obtain ⟨kept, hkept⟩ := held
    obtain ⟨lost, hlost⟩ := stored
    refine ⟨kept, lost, hkept.symm, ?_⟩
    rw [← List.append_assoc, hkept]
    exact hlost.symm
  · rcases ended with more | same
    · exact .inl more
    · exact .inr ⟨congrArg Prod.fst same, congrArg Prod.snd same⟩

/-- A datagram of a socket and the end mark, cut between the two: the sample is there, the
end of the dump is lost. -/
example :
    let socket : Message :=
      (({ kind := Envelope.diagByFamily, flags := 2, seq := 7 } : Message).append
        (DiagRecord.encode ⟨2, 1, 0, 0, .any, 0, 0, 0, 0, 0⟩)).appendAttribute 2 [10, 20, 30]
    let mark : Message := { kind := Envelope.done, flags := 2, seq := 7 }
    let datagram := socket.finish ++ mark.finish
    let pool : Pool Sample := ⟨.empty, .generous⟩
    ((read 7 pool (datagram.take 100)).result, (read 7 pool datagram).result) =
      (.ok .more, .ok .complete) := by
  cbv

end Dump
end TcpCensus
