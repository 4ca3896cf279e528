/-!
# Faults of a device

Why a read from a device fails.
-/

namespace Accelerometer

inductive FaultKind
  | timedOut
  | interrupted
  | brokenPipe
  | wouldBlock
  | unexpectedEnd
  | permissionDenied
  | notConnected
  | connectionReset
  | connectionAborted
  | connectionRefused
  | notFound
  | alreadyExists
  | invalidInput
  | invalidData
  | writeZero
  | unsupported
  | outOfMemory
  | other
  deriving DecidableEq, Repr

def FaultKind.description : FaultKind → String
  | .timedOut => "timed out"
  | .interrupted => "operation interrupted"
  | .brokenPipe => "broken pipe"
  | .wouldBlock => "operation would block"
  | .unexpectedEnd => "unexpected end of file"
  | .permissionDenied => "permission denied"
  | .notConnected => "not connected"
  | .connectionReset => "connection reset"
  | .connectionAborted => "connection aborted"
  | .connectionRefused => "connection refused"
  | .notFound => "entity not found"
  | .alreadyExists => "entity already exists"
  | .invalidInput => "invalid input parameter"
  | .invalidData => "invalid data"
  | .writeZero => "write zero"
  | .unsupported => "unsupported"
  | .outOfMemory => "out of memory"
  | .other => "other error"

structure Fault where
  kind : FaultKind
  detail : Option String
  deriving DecidableEq, Repr

def Fault.message (fault : Fault) : String :=
  fault.detail.getD fault.kind.description

end Accelerometer
