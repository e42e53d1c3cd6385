/-
# The link to the kernel

A session talks to the kernel over a link: it sends requests and receives
datagrams into a buffer. A link is given by what happens on it, in order, so
that a run over it is a function of its script and its refusals.

* A receive takes the next datagram or failure of the script. When the script is
  at its end the kernel is silent, and a receive gives up.
* A send takes the next refusal, and succeeds when there is none. A send that goes out
  brings up the refusals that are kept for behind it, so that any send of a run can be the
  one that is refused. What there is to receive does not matter to it.

`script_send`: a send leaves the script as it was. `script_lt_of_receive`: a receive that
succeeds uses up a part of the script, which is why every loop over a link ends.
-/

import TcpCensus.Bytes
import TcpCensus.Duration
import TcpCensus.Error

namespace TcpCensus

/-- Something that happens while a receive waits. -/
inductive Link.Event
  /-- A datagram takes the place of what the buffer held; so many bytes are
  reported for it. -/
  | datagram (bytes : Bytes) (reported : Nat)
  /-- A receive reports so many bytes and leaves the buffer as it was. -/
  | unchanged (reported : Nat)
  /-- A receive fails and leaves the buffer as it was. -/
  | failure (cause : Error)
  /-- The user asks for an end while a receive waits, which then goes on. -/
  | interrupt
  deriving DecidableEq, Repr

/-- A send that was tried: the message, and why it was refused, if it was. -/
structure Link.Attempt where
  message : Bytes
  refusal : Option Error
  deriving DecidableEq, Repr

/-- A link to the kernel. -/
structure Link where
  /-- The port that requests are sent from. -/
  port : UInt32 := 0
  /-- What is still to be received. -/
  script : List Link.Event := []
  /-- Why the coming sends are refused, one after the other. -/
  refusals : List Error := []
  /-- The refusals behind each coming send that goes out, up to the next that does. -/
  later : List (List Error) := []
  /-- The sends tried so far. -/
  attempts : List Link.Attempt := []
  /-- The number of receives so far, failed ones included. -/
  receives : Nat := 0
  /-- Whether the user has asked for an end. -/
  interrupted : Bool := false
  /-- How long the call with a given number takes by the clock. -/
  took : UInt32 → Duration := fun _ => .zero

namespace Link

/-- The messages that were sent. -/
def sent (l : Link) : List Bytes :=
  (l.attempts.filter (·.refusal.isNone)).map (·.message)

/-- Record a send that was tried. -/
def tried (l : Link) (message : Bytes) (refusal : Option Error) : Link :=
  { l with attempts := l.attempts ++ [⟨message, refusal⟩] }

/-- The link behind a send that went out: the refusals kept for then come up. -/
def sentOut (l : Link) : Link := { l with refusals := l.later.headD [], later := l.later.tail }

/-- Send a message. -/
def send (l : Link) (message : Bytes) : Except Error Unit × Link :=
  match l.refusals with
  | cause :: causes => (.error cause, { l with refusals := causes }.tried message (some cause))
  | [] => (.ok (), l.sentOut.tried message none)

/-- What a receive came to. -/
structure Receipt where
  /-- The number of bytes reported. -/
  outcome : Except Error Nat
  /-- What the buffer holds afterwards. -/
  buffer : Bytes
  link : Link

/-- The failure of a receive on a silent link. -/
def silence : Error := .io (.ofKind .wouldBlock)

/-- Receive with these events still to happen. -/
def receiveFrom (l : Link) (buffer : Bytes) : List Event → Receipt
  | [] => ⟨.error silence, buffer, { l with script := [] }⟩
  | .datagram bytes reported :: events => ⟨.ok reported, bytes, { l with script := events }⟩
  | .unchanged reported :: events => ⟨.ok reported, buffer, { l with script := events }⟩
  | .failure cause :: events => ⟨.error cause, buffer, { l with script := events }⟩
  | .interrupt :: events => receiveFrom { l with interrupted := true } buffer events

/-- Receive a datagram into a buffer. -/
def receive (l : Link) (buffer : Bytes) : Receipt :=
  receiveFrom { l with receives := l.receives + 1 } buffer l.script

/-- A send leaves what there is to receive as it was. -/
@[simp] theorem script_send (l : Link) (message : Bytes) :
    (l.send message).2.script = l.script := by
  unfold send
  split <;> rfl

/-- A receive that brings a datagram has taken it from the events. -/
theorem script_lt_of_receiveFrom {events : List Event} {l : Link} {buffer : Bytes} {n : Nat}
    (h : (l.receiveFrom buffer events).outcome = .ok n) :
    (l.receiveFrom buffer events).link.script.length < events.length := by
  induction events generalizing l with
  | nil => cases h
  | cons event events ih =>
    cases event with
    | datagram bytes reported => exact Nat.lt_succ_self _
    | unchanged reported => exact Nat.lt_succ_self _
    | failure cause => cases h
    | interrupt => exact Nat.lt_succ_of_lt (ih h)

/-- A receive that succeeds uses up a part of the script, so a row of them ends. -/
theorem script_lt_of_receive {l : Link} {buffer : Bytes} {n : Nat}
    (h : (l.receive buffer).outcome = .ok n) :
    (l.receive buffer).link.script.length < l.script.length :=
  script_lt_of_receiveFrom h

end Link
end TcpCensus
