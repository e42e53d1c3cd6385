/-
# States of a TCP connection

The state numbers of the kernel. A request selects states by a mask with one bit
for each; a number the kernel does not use reads as unknown.
-/

namespace TcpCensus

/-- A state of a TCP connection. -/
inductive TcpState
  | unknown
  | established
  | synSent
  | synReceived
  | finWait1
  | finWait2
  | timeWait
  | close
  | closeWait
  | lastAck
  | listen
  | closing
  | newSynReceived
  deriving DecidableEq, Repr

namespace TcpState

/-- All states, in the order of their numbers. -/
def all : List TcpState :=
  [.unknown, .established, .synSent, .synReceived, .finWait1, .finWait2, .timeWait, .close,
    .closeWait, .lastAck, .listen, .closing, .newSynReceived]

/-- The kernel's number for a state. -/
def code : TcpState → UInt8
  | .unknown => 0
  | .established => 1
  | .synSent => 2
  | .synReceived => 3
  | .finWait1 => 4
  | .finWait2 => 5
  | .timeWait => 6
  | .close => 7
  | .closeWait => 8
  | .lastAck => 9
  | .listen => 10
  | .closing => 11
  | .newSynReceived => 12

/-- The state with a given number. -/
def ofCode (n : UInt8) : TcpState := (all[n.toNat]?).getD .unknown

/-- The bit that selects a state. -/
def mask (s : TcpState) : UInt32 := 1 <<< s.code.toUInt32

/-- The name in serialized data. -/
def tag : TcpState → String
  | .unknown => "Unknown"
  | .established => "Established"
  | .synSent => "SynSent"
  | .synReceived => "SynRecv"
  | .finWait1 => "FinWait1"
  | .finWait2 => "FinWait2"
  | .timeWait => "TimeWait"
  | .close => "Close"
  | .closeWait => "CloseWait"
  | .lastAck => "LastAck"
  | .listen => "Listen"
  | .closing => "Closing"
  | .newSynReceived => "NewSynRecv"

/-- A state is read back from its number. -/
theorem ofCode_code (s : TcpState) : ofCode s.code = s := by cases s <;> rfl

end TcpState
end TcpCensus
