/-
# What a sample keeps of its record

A record of a socket has more in it than a sample is to tell: its timers and queues, what
stands behind an address that does not fill its field, what a newer kernel knows of the
statistics. A sample keeps the family, the two ports, the bytes in which the two addresses
stand, and the readable part of the statistics. Two samples are equal just where all of these
are, so that nothing of them is lost, and nothing else is let through.

What a sample shows of its addresses does not hang on the rest of a field either, also where
a sample has something there (`Endpoint.address_eq_iff`).

* `Sample.shows_ofRecord`: what stands where in a sample, and that the rest is zeros.
* `Sample.ofRecord_eq_iff`: which records and payloads make the same sample.
* `Sample.keeps_meaning`: both, and what can be seen of samples.
-/

import TcpCensus.Proofs.Statistics
import TcpCensus.Sample

namespace TcpCensus

/-! ### Addresses in their fields -/

/-- The bytes of a field in which an address of the family stands. -/
def Family.significant (family : Family) (field : Octets 16) : Bytes :=
  field.bytes.take family.addressLength

/-- An address has as many bytes as its family gives it. -/
theorem Family.length_significant (family : Family) (field : Octets 16) :
    (family.significant field).length = family.addressLength := by
  rw [significant, List.length_take, field.length_eq, Nat.min_eq_left family.addressLength_le]

namespace Endpoint

variable {e e' : Endpoint} {family family' : Family}

/-- **An address is its family and its significant bytes,** whatever stands behind them. -/
theorem address_eq_iff : e.address family = e'.address family' ↔
    family = family' ∧ family.significant e.field = family.significant e'.field := by
  cases family with
  | inet =>
    cases family' with
    | inet =>
      have length (x : Octets 16) : 4 ≤ x.bytes.length := by rw [x.length_eq]; decide
      simp only [address, Address.v4.injEq, ← Octets.bytes_inj, true_and,
        Octets.bytes_ofBytes_of_le (length _), Family.significant, Family.addressLength]
    | inet6 => simp only [address, reduceCtorEq, false_and]
  | inet6 =>
    cases family' with
    | inet => simp only [address, reduceCtorEq, false_and]
    | inet6 =>
      have whole (x : Octets 16) : x.bytes.take 16 = x.bytes :=
        List.take_of_length_le x.length_eq.le
      simp only [address, Address.v6.injEq, ← Octets.bytes_inj, true_and, Family.significant,
        Family.addressLength, whole]

/-- A socket is told by its address and its port. -/
theorem socketAddress_eq_iff : e.socketAddress family = e'.socketAddress family' ↔
    e.address family = e'.address family' ∧ e.port = e'.port := by
  rw [socketAddress, socketAddress, SocketAddress.mk.injEq]

end Endpoint

/-! ### Samples of records -/

/-- The port of the near end stands in bytes 4 and 5 of a record. -/
theorem DiagRecord.u16BE_encode_four (r : DiagRecord) :
    Bytes.u16BE r.encode 4 = r.id.sourcePort := by
  have back := congrArg (·.id.sourcePort) (read_encode_append r [])
  rwa [List.append_nil] at back

/-- The port of the far end stands in bytes 6 and 7 of a record. -/
theorem DiagRecord.u16BE_encode_six (r : DiagRecord) :
    Bytes.u16BE r.encode 6 = r.id.targetPort := by
  have back := congrArg (·.id.targetPort) (read_encode_append r [])
  rwa [List.append_nil] at back

/-- Two records agree in what a sample of the family keeps of them. -/
structure DiagRecord.Agree (r : DiagRecord) (family : Family) (r' : DiagRecord) : Prop where
  sourcePort : r.id.sourcePort = r'.id.sourcePort
  targetPort : r.id.targetPort = r'.id.targetPort
  source : family.significant r.id.source = family.significant r'.id.source
  target : family.significant r.id.target = family.significant r'.id.target

namespace Sample

variable (family : Family)

/-- A clipped field is the address with zeros behind it. -/
theorem bytes_clipped (field : Octets 16) : (clipped family field).bytes =
    family.significant field ++ List.replicate (16 - family.addressLength) 0 := by
  have length := family.length_significant field
  have short : (family.significant field).length ≤ 16 := length.trans_le family.addressLength_le
  calc (clipped family field).bytes
      = (family.significant field).take 16 ++
          List.replicate (16 - (family.significant field).length) 0 := Octets.bytes_ofBytes ..
    _ = _ := by rw [List.take_of_length_le short, length]

/-- To clip a field leaves the address in it as it is. -/
theorem significant_clipped (field : Octets 16) :
    family.significant (clipped family field) = family.significant field := by
  rw [Family.significant, bytes_clipped, List.take_left' (family.length_significant field)]

/-- Clipped fields are the same just where the addresses in them are. -/
theorem clipped_eq_iff {x y : Octets 16} :
    clipped family x = clipped family y ↔ family.significant x = family.significant y := by
  rw [← Octets.bytes_inj, bytes_clipped, bytes_clipped, List.append_left_inj]

/-- What a sample shows of a record of the family and of the data of its statistics
attribute. -/
structure Shows (s : Sample) (r : DiagRecord) (info : Bytes) : Prop where
  family_eq : s.family = family
  /-- The ports are in bytes 4 to 7 of the record, most significant byte first. -/
  localPort : s.localEnd.port = Bytes.u16BE r.encode 4
  remotePort : s.remoteEnd.port = Bytes.u16BE r.encode 6
  localField : s.localEnd.field.bytes =
    family.significant r.id.source ++ List.replicate (16 - family.addressLength) 0
  remoteField : s.remoteEnd.field.bytes =
    family.significant r.id.target ++ List.replicate (16 - family.addressLength) 0
  reported : s.info.reportedLength = min info.length 248
  sent : s.info.octets.bytes.take s.info.reportedLength = info.take 248
  unsent : s.info.octets.bytes.drop s.info.reportedLength =
    List.replicate (248 - s.info.reportedLength) 0

variable {r r' : DiagRecord} {info info' : Bytes} {family' : Family}

/-- **What a sample shows of a record, and nothing behind it.** -/
theorem shows_ofRecord (r : DiagRecord) (info : Bytes) :
    (ofRecord family r info).Shows family r info where
  family_eq := rfl
  localPort := r.u16BE_encode_four.symm
  remotePort := r.u16BE_encode_six.symm
  localField := bytes_clipped family r.id.source
  remoteField := bytes_clipped family r.id.target
  reported := InfoBlock.reportedLength_ofPayload info
  sent := InfoBlock.take_octets (.ofPayload info)
  unsent := InfoBlock.drop_octets (.ofPayload info)

/-- **Samples are equal just where all that they keep is.** -/
theorem ofRecord_eq_iff : ofRecord family r info = ofRecord family' r' info' ↔
    family = family' ∧ r.Agree family r' ∧ info.take 248 = info'.take 248 := by
  simp only [ofRecord, mk.injEq, Endpoint.mk.injEq, InfoBlock.ofPayload, InfoBlock.mk.injEq,
    InfoBlock.size]
  constructor
  · rintro ⟨rfl, ⟨source, sourcePort⟩, ⟨target, targetPort⟩, sent⟩
    exact ⟨rfl, ⟨sourcePort, targetPort, (clipped_eq_iff family).1 source,
      (clipped_eq_iff family).1 target⟩, sent⟩
  · rintro ⟨rfl, agree, sent⟩
    exact ⟨rfl, ⟨(clipped_eq_iff family).2 agree.source, agree.sourcePort⟩,
      ⟨(clipped_eq_iff family).2 agree.target, agree.targetPort⟩, sent⟩

/-- The near socket of a sample is told by its address and its port. -/
theorem localSocket_eq_iff {s s' : Sample} : s.localSocket = s'.localSocket ↔
    s.localAddress = s'.localAddress ∧ s.localEnd.port = s'.localEnd.port :=
  Endpoint.socketAddress_eq_iff

/-- The far socket of a sample is told by its address and its port. -/
theorem remoteSocket_eq_iff {s s' : Sample} : s.remoteSocket = s'.remoteSocket ↔
    s.remoteAddress = s'.remoteAddress ∧ s.remoteEnd.port = s'.remoteEnd.port :=
  Endpoint.socketAddress_eq_iff

/-- Addresses in clipped fields are those in the fields themselves. -/
theorem address_clipped_eq_iff {x y : Octets 16} {port port' : UInt16} :
    Endpoint.address ⟨clipped family x, port⟩ family =
        Endpoint.address ⟨clipped family' y, port'⟩ family' ↔
      family = family' ∧ family.significant x = family.significant y := by
  rw [Endpoint.address_eq_iff]
  refine and_congr_right ?_
  rintro rfl
  rw [significant_clipped, significant_clipped]

/-- **What can be seen of a sample of a record is all of it.** -/
theorem ofRecord_eq_iff_seen : ofRecord family r info = ofRecord family' r' info' ↔
    (ofRecord family r info).localSocket = (ofRecord family' r' info').localSocket ∧
      (ofRecord family r info).remoteSocket = (ofRecord family' r' info').remoteSocket ∧
      (ofRecord family r info).info = (ofRecord family' r' info').info := by
  constructor
  · intro h
    rw [h]
    exact ⟨rfl, rfl, rfl⟩
  · rintro ⟨near, far, stats⟩
    obtain ⟨address, sourcePort⟩ := localSocket_eq_iff.1 near
    obtain ⟨address', targetPort⟩ := remoteSocket_eq_iff.1 far
    obtain ⟨hfamily, source⟩ := (address_clipped_eq_iff family).1 address
    obtain ⟨-, target⟩ := (address_clipped_eq_iff family).1 address'
    have sent : info.take 248 = info'.take 248 := congrArg InfoBlock.payload stats
    exact (ofRecord_eq_iff family).2 ⟨hfamily, ⟨sourcePort, targetPort, source, target⟩, sent⟩

/-- **A sample keeps its part of a record, all of that, and no more.** Which records and
payloads make the same sample; what the sample of a record is, with zeros behind an address
and behind what was sent; what the addresses of any sample hang on, whatever stands behind
them in their fields; and that a sample of a record is told by its two ends and its
statistics. -/
theorem keeps_meaning :
    (∀ (family family' : Family) (r r' : DiagRecord) (info info' : Bytes),
      ofRecord family r info = ofRecord family' r' info' ↔
        family = family' ∧ r.Agree family r' ∧ info.take 248 = info'.take 248) ∧
    (∀ (family : Family) (r : DiagRecord) (info : Bytes),
      (ofRecord family r info).Shows family r info) ∧
    (∀ s s' : Sample,
      (s.localAddress = s'.localAddress ↔ s.family = s'.family ∧
        s.family.significant s.localEnd.field = s.family.significant s'.localEnd.field) ∧
      (s.remoteAddress = s'.remoteAddress ↔ s.family = s'.family ∧
        s.family.significant s.remoteEnd.field = s.family.significant s'.remoteEnd.field) ∧
      (s.localSocket = s'.localSocket ↔
        s.localAddress = s'.localAddress ∧ s.localEnd.port = s'.localEnd.port) ∧
      (s.remoteSocket = s'.remoteSocket ↔
        s.remoteAddress = s'.remoteAddress ∧ s.remoteEnd.port = s'.remoteEnd.port)) ∧
    ∀ (family family' : Family) (r r' : DiagRecord) (info info' : Bytes),
      let s := ofRecord family r info
      let s' := ofRecord family' r' info'
      s = s' ↔ s.localSocket = s'.localSocket ∧ s.remoteSocket = s'.remoteSocket ∧
        s.info = s'.info := by
  refine ⟨fun _ _ _ _ _ _ => ofRecord_eq_iff _, shows_ofRecord, fun s s' => ?_,
    fun _ _ _ _ _ _ => ofRecord_eq_iff_seen _⟩
  exact ⟨Endpoint.address_eq_iff, Endpoint.address_eq_iff, localSocket_eq_iff,
    remoteSocket_eq_iff⟩

end Sample
end TcpCensus
