/-
# Notes

What is worth telling a user while a census runs. A note is its facts; how it is
worded, how urgent it is and which part it comes from are one function each, and
`Verbosity` chooses the notes that are shown.
-/

import TcpCensus.Sample

namespace TcpCensus

/-- How urgent a note is. -/
inductive Level
  | trace
  | debug
  | info
  deriving DecidableEq, Repr

/-- The part of the program a note comes from. -/
inductive Part
  /-- Decoding a datagram. -/
  | decoder
  /-- Driving a sampling call. -/
  | session
  /-- The command line. -/
  | commandLine
  deriving DecidableEq, Repr

/-- Something worth telling. -/
inductive Note
  /-- The dump request is out. -/
  | requestSent (family : Family) (seq : UInt32)
  /-- A datagram came in, of so many bytes by its sender's account. -/
  | datagramReceived (bytes : Nat)
  /-- A call came to its end with so many samples, after so long. -/
  | callComplete (family : Family) (samples : Nat) (elapsed : Duration)
  /-- The session is given up. -/
  | sessionClosed
  /-- An envelope answers another request. -/
  | foreignEnvelope (got want : UInt32)
  /-- The last envelope does not fit the datagram. -/
  | cutEnvelope (bytes : Nat)
  /-- A payload is too short for a record. -/
  | shortRecord (length : Nat)
  /-- A record is of no family that is sampled. -/
  | unknownFamily (code : UInt8)
  /-- A round found so many connections of a family, and its call took so long. -/
  | familySampled (family : Family) (samples : Nat) (elapsed : Duration)
  /-- One connection of a round. -/
  | connection (sample : Sample)
  /-- The user asked for an end. -/
  | interrupted
  deriving DecidableEq

namespace Note

/-- How urgent a note is. -/
def level : Note → Level
  | .requestSent .. | .callComplete .. | .sessionClosed | .connection _ => .debug
  | .datagramReceived _ | .foreignEnvelope .. | .cutEnvelope _ | .shortRecord _
  | .unknownFamily _ => .trace
  | .familySampled .. | .interrupted => .info

/-- Where a note comes from. -/
def part : Note → Part
  | .requestSent .. | .datagramReceived _ | .callComplete .. | .sessionClosed => .session
  | .foreignEnvelope .. | .cutEnvelope _ | .shortRecord _ | .unknownFamily _ => .decoder
  | .familySampled .. | .connection _ | .interrupted => .commandLine

/-- The wording of a note: what happened, then its facts by name. -/
def text : Note → String
  | .requestSent family seq =>
    s!"sent sock_diag dump request family={family.name} seq={seq.toNat}"
  | .datagramReceived bytes => s!"received datagram bytes={bytes}"
  | .callComplete family samples elapsed =>
    s!"sampling call complete family={family.name} samples={samples} elapsed={elapsed.text}"
  | .sessionClosed => "closing sock_diag session"
  | .foreignEnvelope got want =>
    s!"skipping envelope from another request got={got.toNat} want={want.toNat}"
  | .cutEnvelope bytes => s!"dropping truncated envelope at end of datagram bytes={bytes}"
  | .shortRecord length => s!"skipping short inet_diag record len={length}"
  | .unknownFamily code => s!"skipping record of unknown family family={code.toNat}"
  | .familySampled family samples elapsed =>
    s!"sampled established connections family={family.name} " ++
      s!"samples={samples} elapsed={elapsed.text}"
  | .connection sample =>
    let info := sample.tcpInfo
    s!"connection local={sample.localSocket.text} " ++
      s!"remote={sample.remoteSocket.text} rtt={info.roundTrip.text} cwnd={info.sndCwnd.toNat}"
  | .interrupted => "interrupted"

end Note

/-! ### Lines of the log -/

/-- The name of a level. -/
def Level.name : Level → String
  | .trace => "TRACE"
  | .debug => "DEBUG"
  | .info => "INFO"

/-- A number for each level, higher for the more urgent. -/
def Level.rank : Level → Nat
  | .trace => 0
  | .debug => 1
  | .info => 2

/-- The name of a part in the log. -/
def Part.name : Part → String
  | .decoder => "tcpdiag::sockdiag::codec"
  | .session => "tcpdiag::sockdiag::session"
  | .commandLine => "sockdiag"

/-- A note as a line of the log, less the time of day that a line begins with. -/
def Note.line (n : Note) : String := s!"{n.level.name} {n.part.name}: {n.text}"

/-- Which notes are shown. -/
structure Verbosity where
  /-- The least level shown of the command line's own notes. -/
  commandLine : Level
  /-- The least level shown of the notes of the other parts, if any are. -/
  others : Option Level
  deriving DecidableEq, Repr

namespace Verbosity

/-- The choice of notes: with `verbose` every part tells its debugging notes;
otherwise the command line informs, and the other parts are silent unless they
are traced. -/
def choose (verbose traced : Bool) : Verbosity :=
  if verbose then ⟨.debug, some .debug⟩
  else ⟨.info, if traced then some .trace else none⟩

/-- Whether a note is shown. -/
def shows (v : Verbosity) (n : Note) : Bool :=
  match n.part, v.others with
  | .commandLine, _ => v.commandLine.rank ≤ n.level.rank
  | _, some least => least.rank ≤ n.level.rank
  | _, none => false

/-- The log that the chosen notes make. -/
def log (v : Verbosity) (notes : List Note) : List String := (notes.filter v.shows).map Note.line

end Verbosity
end TcpCensus
