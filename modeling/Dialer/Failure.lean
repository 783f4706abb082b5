/-!
# Failures of input and output, and of attempts

An `IoFailure` is what a socket or a stream reports. A `AttemptFailure` is why one attempt to
connect came to nothing; `IoFailure.reason` sorts the reports into reasons.
-/

namespace Dialer

/-- The kinds of failure a socket or stream reports. -/
inductive IoKind
  | notFound
  | permissionDenied
  | connectionRefused
  | connectionReset
  | hostUnreachable
  | networkUnreachable
  | connectionAborted
  | notConnected
  | addressInUse
  | addressNotAvailable
  | networkDown
  | brokenPipe
  | alreadyExists
  | wouldBlock
  | invalidInput
  | invalidData
  | timedOut
  | writeZero
  | interrupted
  | unsupported
  | unexpectedEnd
  | outOfMemory
  | other
deriving DecidableEq, Repr

namespace IoKind

/-- What a kind of failure is called when nothing more is known. -/
def description : IoKind → String
  | notFound => "entity not found"
  | permissionDenied => "permission denied"
  | connectionRefused => "connection refused"
  | connectionReset => "connection reset"
  | hostUnreachable => "host unreachable"
  | networkUnreachable => "network unreachable"
  | connectionAborted => "connection aborted"
  | notConnected => "not connected"
  | addressInUse => "address in use"
  | addressNotAvailable => "address not available"
  | networkDown => "network down"
  | brokenPipe => "broken pipe"
  | alreadyExists => "entity already exists"
  | wouldBlock => "operation would block"
  | invalidInput => "invalid input parameter"
  | invalidData => "invalid data"
  | timedOut => "timed out"
  | writeZero => "write zero"
  | interrupted => "operation interrupted"
  | unsupported => "unsupported"
  | unexpectedEnd => "unexpected end of file"
  | outOfMemory => "out of memory"
  | other => "other error"

end IoKind

/-- A failure reported by a socket or stream. -/
structure IoFailure where
  kind : IoKind
  /-- A text of its own, if the reporter gave one. -/
  detail : Option String := none
deriving DecidableEq, Repr

namespace IoFailure

/-- The text of a failure: its own, else that of its kind. -/
def message (f : IoFailure) : String := f.detail.getD f.kind.description

end IoFailure

/-- Why one attempt did not produce a connection. -/
inductive AttemptFailure
  | refused
  | timedOut
  | unreachable
  /-- The security handshake failed. -/
  | handshake (text : String)
  /-- Any other failure of input or output. -/
  | io (text : String)
  /-- The attempt lost, or never began. -/
  | cancelled
deriving DecidableEq, Repr

namespace AttemptFailure

/-- The text of a reason. -/
def message : AttemptFailure → String
  | refused => "connection refused"
  | timedOut => "timed out"
  | unreachable => "unreachable"
  | handshake text => "handshake failed: " ++ text
  | io text => "I/O error: " ++ text
  | cancelled => "cancelled"

end AttemptFailure

/-- **The reason a reported failure amounts to.** A missing route and a local address that is not
there both make the peer unreachable. -/
def IoFailure.reason (f : IoFailure) : AttemptFailure :=
  match f.kind with
  | .connectionRefused => .refused
  | .timedOut => .timedOut
  | .hostUnreachable | .networkUnreachable | .addressNotAvailable => .unreachable
  | _ => .io f.message

end Dialer
