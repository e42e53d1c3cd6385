/-
# A socket

A socket has a port of its own, a timeout for its receives, and the datagrams
the kernel has sent it. Receiving takes the oldest; when there is none, the
timeout expires, unless it is the one that never does (`hangs`).
-/

import TcpCensus.Socket.Kernel
import TcpCensus.Socket.ReceiveBuffer
import TcpCensus.Socket.Timeout

namespace TcpCensus

/-- A socket. -/
structure Socket where
  /-- The port the kernel has assigned. -/
  port : UInt32
  timeout : Timeval
  /-- The datagrams that wait to be received, oldest first. -/
  waiting : List Bytes := []
  deriving DecidableEq, Repr

namespace Socket

/-- The timeout of a socket for which none is given. -/
def defaultTimeout : Duration := .second

/-- Open a socket, to which the kernel assigns a port if it has a descriptor
left for it. -/
def connect (timeout : Duration) (port : UInt32) (descriptors : Bool) : Except Error Socket :=
  if descriptors then .ok { port, timeout := .ofDuration timeout }
  else .error (.io (.system Errno.tooManyFiles))

/-- Send a message. -/
def send (s : Socket) (message : Bytes) : Except Error Unit × Socket :=
  if Bytes.covers message (Kernel.longestMessage + 1) then
    (.error (.io (.system Errno.messageTooLong)), s)
  else (.ok (), { s with waiting := s.waiting ++ Kernel.answers s.port message })

/-- Whether a receive never comes back, unless something is sent to the socket. -/
def hangs (s : Socket) : Bool := s.waiting.isEmpty && s.timeout = .forever

/-- Receive a datagram into a buffer, where the receive comes back. -/
def receive (s : Socket) (buffer : ReceiveBuffer) : Except Error Nat × ReceiveBuffer × Socket :=
  match s.waiting with
  | [] =>
    let (outcome, buffer) := buffer.receive 0 (.error (.io (.system Errno.wouldBlock)))
    (outcome, buffer, s)
  | datagram :: waiting =>
    let (outcome, buffer) := buffer.receive 0 (.ok datagram)
    (outcome, buffer, { s with waiting })

end Socket
end TcpCensus
