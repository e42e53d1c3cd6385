/-
# The statistics of a TCP connection

The statistics block is a record of 59 words of one, two, four and eight bytes,
248 bytes in all. Each word starts where the one before it ends, so the fields
cover the block without a gap; `TcpInfo.entries` lists them with their widths in
that order. A field past the end of a short block reads as zero, and one that the
end cuts reads the low bytes that are there.
-/

import TcpCensus.Duration
import TcpCensus.TcpInfo.Block
import TcpCensus.TcpState

namespace TcpCensus

/-- The statistics of a TCP connection. -/
structure TcpInfo where
  state : UInt8
  caState : UInt8
  retransmits : UInt8
  probes : UInt8
  backoff : UInt8
  options : UInt8
  /-- The send scale in the low nibble, the receive scale in the high one. -/
  wscale : UInt8
  /-- Bit 0: the delivery rate is limited by the application. Bits 1 and 2: why fast open failed. -/
  flags : UInt8
  /-- Retransmission timeout, microseconds. -/
  rto : UInt32
  /-- Delayed acknowledgement timeout, microseconds. -/
  ato : UInt32
  sndMss : UInt32
  rcvMss : UInt32
  unacked : UInt32
  sacked : UInt32
  lost : UInt32
  retrans : UInt32
  fackets : UInt32
  /-- Milliseconds since, as the three that follow. -/
  lastDataSent : UInt32
  lastAckSent : UInt32
  lastDataRecv : UInt32
  lastAckRecv : UInt32
  pmtu : UInt32
  rcvSsthresh : UInt32
  /-- Smoothed round-trip time, microseconds. -/
  rtt : UInt32
  /-- Its variance, microseconds. -/
  rttvar : UInt32
  sndSsthresh : UInt32
  /-- Congestion window, segments. -/
  sndCwnd : UInt32
  advmss : UInt32
  reordering : UInt32
  rcvRtt : UInt32
  rcvSpace : UInt32
  totalRetrans : UInt32
  /-- Bytes per second. -/
  pacingRate : UInt64
  maxPacingRate : UInt64
  bytesAcked : UInt64
  bytesReceived : UInt64
  segsOut : UInt32
  segsIn : UInt32
  notsentBytes : UInt32
  /-- Least round-trip time, microseconds. -/
  minRtt : UInt32
  dataSegsIn : UInt32
  dataSegsOut : UInt32
  /-- Bytes per second. -/
  deliveryRate : UInt64
  /-- Microseconds spent sending. -/
  busyTime : UInt64
  /-- Microseconds held back by the receive window. -/
  rwndLimited : UInt64
  /-- Microseconds held back by the send buffer. -/
  sndbufLimited : UInt64
  delivered : UInt32
  deliveredCe : UInt32
  bytesSent : UInt64
  bytesRetrans : UInt64
  dsackDups : UInt32
  reordSeen : UInt32
  rcvOoopack : UInt32
  sndWnd : UInt32
  rcvWnd : UInt32
  rehash : UInt32
  totalRto : UInt16
  totalRtoRecoveries : UInt16
  /-- Milliseconds spent recovering from timeouts. -/
  totalRtoTime : UInt32
  deriving DecidableEq, Repr

namespace TcpInfo

/-- The statistics at the front of these bytes. -/
def read (bs : Bytes) : TcpInfo where
  state := Bytes.u8 bs 0
  caState := Bytes.u8 bs 1
  retransmits := Bytes.u8 bs 2
  probes := Bytes.u8 bs 3
  backoff := Bytes.u8 bs 4
  options := Bytes.u8 bs 5
  wscale := Bytes.u8 bs 6
  flags := Bytes.u8 bs 7
  rto := Bytes.u32 bs 8
  ato := Bytes.u32 bs 12
  sndMss := Bytes.u32 bs 16
  rcvMss := Bytes.u32 bs 20
  unacked := Bytes.u32 bs 24
  sacked := Bytes.u32 bs 28
  lost := Bytes.u32 bs 32
  retrans := Bytes.u32 bs 36
  fackets := Bytes.u32 bs 40
  lastDataSent := Bytes.u32 bs 44
  lastAckSent := Bytes.u32 bs 48
  lastDataRecv := Bytes.u32 bs 52
  lastAckRecv := Bytes.u32 bs 56
  pmtu := Bytes.u32 bs 60
  rcvSsthresh := Bytes.u32 bs 64
  rtt := Bytes.u32 bs 68
  rttvar := Bytes.u32 bs 72
  sndSsthresh := Bytes.u32 bs 76
  sndCwnd := Bytes.u32 bs 80
  advmss := Bytes.u32 bs 84
  reordering := Bytes.u32 bs 88
  rcvRtt := Bytes.u32 bs 92
  rcvSpace := Bytes.u32 bs 96
  totalRetrans := Bytes.u32 bs 100
  pacingRate := Bytes.u64 bs 104
  maxPacingRate := Bytes.u64 bs 112
  bytesAcked := Bytes.u64 bs 120
  bytesReceived := Bytes.u64 bs 128
  segsOut := Bytes.u32 bs 136
  segsIn := Bytes.u32 bs 140
  notsentBytes := Bytes.u32 bs 144
  minRtt := Bytes.u32 bs 148
  dataSegsIn := Bytes.u32 bs 152
  dataSegsOut := Bytes.u32 bs 156
  deliveryRate := Bytes.u64 bs 160
  busyTime := Bytes.u64 bs 168
  rwndLimited := Bytes.u64 bs 176
  sndbufLimited := Bytes.u64 bs 184
  delivered := Bytes.u32 bs 192
  deliveredCe := Bytes.u32 bs 196
  bytesSent := Bytes.u64 bs 200
  bytesRetrans := Bytes.u64 bs 208
  dsackDups := Bytes.u32 bs 216
  reordSeen := Bytes.u32 bs 220
  rcvOoopack := Bytes.u32 bs 224
  sndWnd := Bytes.u32 bs 228
  rcvWnd := Bytes.u32 bs 232
  rehash := Bytes.u32 bs 236
  totalRto := Bytes.u16 bs 240
  totalRtoRecoveries := Bytes.u16 bs 242
  totalRtoTime := Bytes.u32 bs 244

/-- The statistics in a block: what the whole of it reads as. -/
def ofBlock (b : InfoBlock) : TcpInfo := read b.octets.bytes

/-- A field: its name in serialized data, its width in bytes, and its value. -/
structure Entry where
  name : String
  width : Nat
  value : Nat

/-- The fields in the order of the block. -/
def entries (t : TcpInfo) : List Entry :=
  [ ⟨"state", 1, t.state.toNat⟩,
    ⟨"ca_state", 1, t.caState.toNat⟩,
    ⟨"retransmits", 1, t.retransmits.toNat⟩,
    ⟨"probes", 1, t.probes.toNat⟩,
    ⟨"backoff", 1, t.backoff.toNat⟩,
    ⟨"options", 1, t.options.toNat⟩,
    ⟨"wscale", 1, t.wscale.toNat⟩,
    ⟨"flags", 1, t.flags.toNat⟩,
    ⟨"rto", 4, t.rto.toNat⟩,
    ⟨"ato", 4, t.ato.toNat⟩,
    ⟨"snd_mss", 4, t.sndMss.toNat⟩,
    ⟨"rcv_mss", 4, t.rcvMss.toNat⟩,
    ⟨"unacked", 4, t.unacked.toNat⟩,
    ⟨"sacked", 4, t.sacked.toNat⟩,
    ⟨"lost", 4, t.lost.toNat⟩,
    ⟨"retrans", 4, t.retrans.toNat⟩,
    ⟨"fackets", 4, t.fackets.toNat⟩,
    ⟨"last_data_sent", 4, t.lastDataSent.toNat⟩,
    ⟨"last_ack_sent", 4, t.lastAckSent.toNat⟩,
    ⟨"last_data_recv", 4, t.lastDataRecv.toNat⟩,
    ⟨"last_ack_recv", 4, t.lastAckRecv.toNat⟩,
    ⟨"pmtu", 4, t.pmtu.toNat⟩,
    ⟨"rcv_ssthresh", 4, t.rcvSsthresh.toNat⟩,
    ⟨"rtt", 4, t.rtt.toNat⟩,
    ⟨"rttvar", 4, t.rttvar.toNat⟩,
    ⟨"snd_ssthresh", 4, t.sndSsthresh.toNat⟩,
    ⟨"snd_cwnd", 4, t.sndCwnd.toNat⟩,
    ⟨"advmss", 4, t.advmss.toNat⟩,
    ⟨"reordering", 4, t.reordering.toNat⟩,
    ⟨"rcv_rtt", 4, t.rcvRtt.toNat⟩,
    ⟨"rcv_space", 4, t.rcvSpace.toNat⟩,
    ⟨"total_retrans", 4, t.totalRetrans.toNat⟩,
    ⟨"pacing_rate", 8, t.pacingRate.toNat⟩,
    ⟨"max_pacing_rate", 8, t.maxPacingRate.toNat⟩,
    ⟨"bytes_acked", 8, t.bytesAcked.toNat⟩,
    ⟨"bytes_received", 8, t.bytesReceived.toNat⟩,
    ⟨"segs_out", 4, t.segsOut.toNat⟩,
    ⟨"segs_in", 4, t.segsIn.toNat⟩,
    ⟨"notsent_bytes", 4, t.notsentBytes.toNat⟩,
    ⟨"min_rtt", 4, t.minRtt.toNat⟩,
    ⟨"data_segs_in", 4, t.dataSegsIn.toNat⟩,
    ⟨"data_segs_out", 4, t.dataSegsOut.toNat⟩,
    ⟨"delivery_rate", 8, t.deliveryRate.toNat⟩,
    ⟨"busy_time", 8, t.busyTime.toNat⟩,
    ⟨"rwnd_limited", 8, t.rwndLimited.toNat⟩,
    ⟨"sndbuf_limited", 8, t.sndbufLimited.toNat⟩,
    ⟨"delivered", 4, t.delivered.toNat⟩,
    ⟨"delivered_ce", 4, t.deliveredCe.toNat⟩,
    ⟨"bytes_sent", 8, t.bytesSent.toNat⟩,
    ⟨"bytes_retrans", 8, t.bytesRetrans.toNat⟩,
    ⟨"dsack_dups", 4, t.dsackDups.toNat⟩,
    ⟨"reord_seen", 4, t.reordSeen.toNat⟩,
    ⟨"rcv_ooopack", 4, t.rcvOoopack.toNat⟩,
    ⟨"snd_wnd", 4, t.sndWnd.toNat⟩,
    ⟨"rcv_wnd", 4, t.rcvWnd.toNat⟩,
    ⟨"rehash", 4, t.rehash.toNat⟩,
    ⟨"total_rto", 2, t.totalRto.toNat⟩,
    ⟨"total_rto_recoveries", 2, t.totalRtoRecoveries.toNat⟩,
    ⟨"total_rto_time", 4, t.totalRtoTime.toNat⟩ ]

/-- **The fields fill the block.** -/
theorem sum_width_entries (t : TcpInfo) :
    t.entries.foldr (fun e n => e.width + n) 0 = InfoBlock.size := by
  simp [entries, InfoBlock.size]

/-! ### Derived quantities -/

/-- The state of the connection, as the block has it. -/
def tcpState (t : TcpInfo) : TcpState := .ofCode t.state

/-- The smoothed round-trip time. -/
def roundTrip (t : TcpInfo) : Duration := .ofMicroseconds t.rtt.toNat

/-- The variance of the round-trip time. -/
def roundTripVariance (t : TcpInfo) : Duration := .ofMicroseconds t.rttvar.toNat

/-- The least round-trip time seen. -/
def leastRoundTrip (t : TcpInfo) : Duration := .ofMicroseconds t.minRtt.toNat

/-- Bits per second for bytes per second, at most the largest word. -/
def bitRate (bytesPerSecond : UInt64) : UInt64 :=
  .ofNat (min (8 * bytesPerSecond.toNat) (UInt64.size - 1))

/-- The delivery rate in bits per second. -/
def deliveryBitRate (t : TcpInfo) : UInt64 := bitRate t.deliveryRate

/-- The pacing rate in bits per second. -/
def pacingBitRate (t : TcpInfo) : UInt64 := bitRate t.pacingRate

/-- The window scale of the sending side. -/
def sendScale (t : TcpInfo) : UInt8 := t.wscale &&& 0xf

/-- The window scale of the receiving side. -/
def receiveScale (t : TcpInfo) : UInt8 := t.wscale >>> 4

/-- Whether the application limits the delivery rate. -/
def isAppLimited (t : TcpInfo) : Bool := t.flags &&& 1 = 1

end TcpInfo
end TcpCensus
