/-!
# Transport protocols and protocol stacks

A `Protocol` is what an endpoint may ask for, a `Stack` is what a candidate is attempted over. Each
stack speaks exactly one protocol (`Stack.allowedBy_iff`).
-/

namespace Dialer

/-- A transport protocol an endpoint may be restricted to. -/
inductive Protocol
  | tcp
  | udp
  | tls
deriving DecidableEq, Repr

namespace Protocol

/-- The name of a protocol. -/
def name : Protocol → String
  | tcp => "tcp"
  | udp => "udp"
  | tls => "tls"

end Protocol

/-- A combination of protocols that can carry a connection. -/
inductive Stack
  | tcp
  /-- TLS over TCP. -/
  | tls
  | udp
deriving DecidableEq, Repr

namespace Stack

/-- The name of a stack. -/
def name : Stack → String
  | tcp => "tcp"
  | tls => "tls/tcp"
  | udp => "udp"

/-- The protocol a stack speaks to its peer. -/
def protocol : Stack → Protocol
  | tcp => .tcp
  | tls => .tls
  | udp => .udp

/-- Whether everything sent arrives. -/
def reliable : Stack → Bool
  | tcp | tls => true
  | udp => false

/-- Whether what arrives keeps its order. -/
def ordered : Stack → Bool
  | tcp | tls => true
  | udp => false

/-- Whether one connection carries several streams; no stack does. -/
def multistreaming : Stack → Bool
  | _ => false

/-- Whether the stack encrypts. -/
def secure : Stack → Bool
  | tls => true
  | tcp | udp => false

/-- Whether an endpoint with the hint may be attempted over the stack. -/
def allowedBy (hint : Option Protocol) (stack : Stack) : Bool :=
  hint.all (stack.protocol == ·)

theorem allowedBy_iff {hint : Option Protocol} {stack : Stack} :
    stack.allowedBy hint = true ↔ ∀ p ∈ hint, stack.protocol = p := by
  cases hint <;> simp [allowedBy]

end Stack

end Dialer
