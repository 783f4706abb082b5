import Dialer.Address.Socket
import Dialer.Stack

/-!
# Candidates

A `Candidate` is one concrete attempt that can be made: a remote socket address, the stack to speak
over, and perhaps a local side to leave from.
-/

namespace Dialer

/-- The local side of a candidate. -/
structure LocalSide where
  /-- The address to bind before connecting; port 0 stands for any. -/
  address : SocketAddress
  /-- The interface the address belongs to, if known. -/
  interface : Option String := none
  /-- Whether traffic over that interface costs money. -/
  expensive : Bool := false
deriving DecidableEq

/-- One concrete attempt. -/
structure Candidate where
  address : SocketAddress
  stack : Stack
  /-- The hostname the address was resolved from. -/
  host : Option String := none
  localSide : Option LocalSide := none
deriving DecidableEq

namespace Candidate

/-- Whether the candidate leaves over an interface that costs money. -/
def expensive (c : Candidate) : Bool := c.localSide.any (·.expensive)

/-- **The text of a candidate:** the address and stack, then the interface it leaves by or, if that
is not known, the address it leaves from. -/
def text (c : Candidate) : String :=
  let way :=
    match c.localSide with
    | none => ""
    | some side =>
      match side.interface with
      | some name => " via " ++ name
      | none => " from " ++ side.address.text
  c.address.text ++ " over " ++ c.stack.name ++ way

end Candidate

end Dialer
