/-
# What can go wrong

An error is its cause: the channel to the kernel failed, the kernel refused the
request, the sample store could not grow, or a fixed record was cut short. The
wording of each is in one place, `Error.message`.
-/

import TcpCensus.Errno

namespace TcpCensus

/-! ### Failures of the channel -/

/-- The kinds of failure an input or output operation can have. -/
inductive IoKind
  | notFound
  | permissionDenied
  | connectionRefused
  | connectionReset
  | connectionAborted
  | notConnected
  | addressInUse
  | addressNotAvailable
  | brokenPipe
  | alreadyExists
  | wouldBlock
  | invalidInput
  | invalidData
  | timedOut
  | writeZero
  | interrupted
  | unsupported
  | unexpectedEnd
  | outOfMemory
  | other
  deriving DecidableEq, Repr

/-- The text of a kind that has nothing more to tell. -/
def IoKind.text : IoKind → String
  | .notFound => "entity not found"
  | .permissionDenied => "permission denied"
  | .connectionRefused => "connection refused"
  | .connectionReset => "connection reset"
  | .connectionAborted => "connection aborted"
  | .notConnected => "not connected"
  | .addressInUse => "address in use"
  | .addressNotAvailable => "address not available"
  | .brokenPipe => "broken pipe"
  | .alreadyExists => "entity already exists"
  | .wouldBlock => "operation would block"
  | .invalidInput => "invalid input parameter"
  | .invalidData => "invalid data"
  | .timedOut => "timed out"
  | .writeZero => "write zero"
  | .interrupted => "operation interrupted"
  | .unsupported => "unsupported"
  | .unexpectedEnd => "unexpected end of file"
  | .outOfMemory => "out of memory"
  | .other => "other error"

/-- A failed input or output operation. -/
inductive IoError
  /-- The operating system gave an error number. -/
  | system (code : Errno)
  /-- Only the kind is known. -/
  | ofKind (kind : IoKind)
  /-- The kind, and a text of its own. -/
  | described (kind : IoKind) (text : String)
  deriving DecidableEq, Repr

namespace IoError

/-- The text of a failed operation. -/
def message : IoError → String
  | .system code => code.describe
  | .ofKind kind => kind.text
  | .described _ text => text

/-- The error number, where the operating system gave one. -/
def errno? : IoError → Option Errno
  | .system code => some code
  | _ => none

/-- Whether the operation gave up waiting: it would have blocked, or it timed out. -/
def isTimeout : IoError → Bool
  | .system code => code = Errno.wouldBlock || code = Errno.timedOut
  | .ofKind kind | .described kind _ => kind = .wouldBlock || kind = .timedOut

end IoError

/-! ### Errors of a sampling call -/

/-- Why a census, or a step of it, failed. -/
inductive Error
  /-- Opening, configuring, sending or receiving failed. -/
  | io (cause : IoError)
  /-- The kernel answered with an error envelope. -/
  | kernel (errno : Errno) (text : String)
  /-- The store could not grow to the capacity requested. -/
  | outOfMemory (requested : Nat)
  /-- A fixed record of `expected` bytes had only `actual`. -/
  | truncated (expected actual : Nat)
  deriving DecidableEq, Repr

namespace Error

/-- The wording of an error. -/
def message : Error → String
  | .io cause => s!"I/O error: {cause.message}"
  | .kernel errno text => s!"kernel error: {text} (errno {errno.toInt})"
  | .outOfMemory requested => s!"out of memory: cannot grow sample store to {requested} samples"
  | .truncated expected actual =>
    s!"message truncated: expected {expected} bytes, got {actual}"

/-- The kernel's error for a code as an error envelope carries it, negated. -/
def ofCode (code : Int32) : Error :=
  let errno := Errno.ofNegated code
  .kernel errno errno.describe

/-- The error for an error envelope too short to carry a code. -/
def noData : Error := ofCode (-Errno.noData)

/-- The error number behind an error, if there is one. -/
def errno? : Error → Option Errno
  | .io cause => cause.errno?
  | .kernel errno _ => some errno
  | _ => none

/-- Whether the caller lacked a permission. -/
def isPermissionDenied (e : Error) : Bool :=
  e.errno? = some Errno.notPermitted || e.errno? = some Errno.accessDenied

/-- Whether something was not found. -/
def isNotFound (e : Error) : Bool := e.errno? = some Errno.noEntry

/-- Whether a receive gave up because its timeout expired. -/
def isTimeout : Error → Bool
  | .io cause => cause.isTimeout
  | _ => false

/-- Whether the sample store failed to grow. -/
def isOutOfMemory : Error → Bool
  | .outOfMemory _ => true
  | _ => false

/-- **An error envelope too short for a code stands for "no data available".** -/
theorem errno?_noData : noData.errno? = some Errno.noData := by decide

end Error
end TcpCensus
