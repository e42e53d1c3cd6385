/-
# Samples

A sample is one observation of one connection: the two endpoints and the
statistics block. An endpoint keeps its address in a field of 16 bytes, of which
the first bytes count, as many as the family's addresses have.
-/

import TcpCensus.Address
import TcpCensus.Diag.DiagRecord
import TcpCensus.Family
import TcpCensus.TcpInfo

namespace TcpCensus

/-- One end of a connection. -/
structure Endpoint where
  /-- The address, at the front of its field. -/
  field : Octets 16
  port : UInt16
  deriving DecidableEq

namespace Endpoint

/-- The address in the field, which is as long as the family says. -/
def address (e : Endpoint) : Family → Address
  | .inet => .v4 (.ofBytes 4 e.field.bytes)
  | .inet6 => .v6 e.field

/-- The address and the port. -/
def socketAddress (e : Endpoint) (family : Family) : SocketAddress := ⟨e.address family, e.port⟩

end Endpoint

/-- One observation of a connection. -/
structure Sample where
  family : Family
  localEnd : Endpoint
  remoteEnd : Endpoint
  info : InfoBlock
  deriving DecidableEq

namespace Sample

/-- The field that holds the first bytes of another, as many as an address of
the family has, and zeros behind them. -/
def clipped (family : Family) (field : Octets 16) : Octets 16 :=
  .ofBytes 16 (field.bytes.take family.addressLength)

/-- The sample for a record of a dump and the data of its statistics attribute. -/
def ofRecord (family : Family) (record : DiagRecord) (info : Bytes) : Sample where
  family
  localEnd := ⟨clipped family record.id.source, record.id.sourcePort⟩
  remoteEnd := ⟨clipped family record.id.target, record.id.targetPort⟩
  info := .ofPayload info

/-- The local address. -/
def localAddress (s : Sample) : Address := s.localEnd.address s.family

/-- The remote address. -/
def remoteAddress (s : Sample) : Address := s.remoteEnd.address s.family

/-- The local address and port. -/
def localSocket (s : Sample) : SocketAddress := s.localEnd.socketAddress s.family

/-- The remote address and port. -/
def remoteSocket (s : Sample) : SocketAddress := s.remoteEnd.socketAddress s.family

/-- The statistics. -/
def tcpInfo (s : Sample) : TcpInfo := .ofBlock s.info

end Sample
end TcpCensus
