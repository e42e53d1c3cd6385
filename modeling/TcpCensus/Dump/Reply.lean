/-
# What an envelope tells the caller

A caller waits for the replies to one request, known by its sequence number.
An envelope that belongs to another request tells it nothing, whatever its kind.
Of its own envelopes, one ends the dump, one reports an error, and one brings the
record of a socket, which gives a sample for each statistics attribute.
-/

import TcpCensus.Attribute
import TcpCensus.Diag.DumpRequest
import TcpCensus.Envelope
import TcpCensus.Envelope.Acknowledgement
import TcpCensus.Note

namespace TcpCensus

/-- What an envelope tells a caller. -/
inductive Reply
  /-- It belongs to another request. -/
  | foreign (seq : UInt32)
  /-- The dump is complete. -/
  | finished
  /-- The request failed. -/
  | failed (error : Error)
  /-- Nothing, or that the request was taken. -/
  | nothing
  /-- It is too short to hold a record. -/
  | short (length : Nat)
  /-- Its record is of no family that is sampled. -/
  | unknownFamily (code : UInt8)
  /-- A socket, with a sample for each of its statistics attributes. -/
  | socket (samples : List Sample)
  deriving DecidableEq

namespace Reply

/-- The error an error envelope reports, if it reports one. A payload too short
for its record is an error of its own. -/
def ofError (payload : Bytes) : Reply :=
  match Acknowledgement.decode payload with
  | .ok a => if a.isSuccess then .nothing else .failed (.ofCode a.code)
  | .error _ => .failed .noData

/-- The samples of a record: one for each statistics attribute behind it. -/
def samplesOf (family : Family) (record : DiagRecord) (attributes : Bytes) : List Sample :=
  ((Attribute.all attributes).filter (·.kind = Extension.info.attributeKind)).map fun a =>
    .ofRecord family record a.data

/-- What the payload of a dump envelope holds. -/
def ofRecord (payload : Bytes) : Reply :=
  match DiagRecord.decode payload with
  | .error _ => .short payload.length
  | .ok record =>
    match Family.ofCode? record.family with
    | none => .unknownFamily record.family
    | some family => .socket (samplesOf family record (payload.drop DiagRecord.size))

/-- What an envelope tells the caller that waits for the replies to `seq`. An
envelope of a kind without a meaning of its own is taken for a record. -/
def ofEnvelope (seq : UInt32) (e : Envelope) : Reply :=
  if e.header.seq ≠ seq then .foreign e.header.seq
  else if e.header.kind = Envelope.done then .finished
  else if e.header.kind = Envelope.error then ofError e.payload
  else if e.header.kind = Envelope.noop then .nothing
  else ofRecord e.payload

/-- The note a reply leaves for a caller that waits for the replies to `seq`. -/
def notes (seq : UInt32) : Reply → List Note
  | .foreign got => [.foreignEnvelope got seq]
  | .short length => [.shortRecord length]
  | .unknownFamily code => [.unknownFamily code]
  | _ => []

end Reply
end TcpCensus
