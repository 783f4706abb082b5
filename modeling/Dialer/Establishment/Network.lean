import Dialer.Candidate
import Dialer.Race.Basic
import Dialer.Security.Parameters
import Dialer.Security.ServerName

/-!
# What becomes of attempts on a network

A `Network` knows the addresses at which someone accepts streams. `Network.behaviour` is what an
attempt on it comes to: what is wrong with the candidate itself shows first, and only then whether
anyone answers. Who accepts streams here speaks no TLS, so an encrypted attempt that gets that far
waits for an answer in vain.
-/

namespace Dialer

/-- A network with hosts that accept streams. -/
structure Network where
  /-- The addresses at which streams are accepted. -/
  listeners : List SocketAddress := []
deriving DecidableEq

/-- The name the server of a candidate is verified under: the one that was set, else the
candidate's hostname, else its address. -/
def SecurityParameters.nameFor (security : SecurityParameters) (c : Candidate) : String :=
  (security.serverName <|> c.host).getD c.address.ip.text

/-- Why an encrypted attempt cannot even begin, if so. -/
def SecurityParameters.handshakeFault? (security : SecurityParameters) (c : Candidate) :
    Option AttemptFailure :=
  let name := security.nameFor c
  if security.disabled then some (.handshake "TLS requested but security is disabled")
  else if ServerName.valid name then none
  else some (.handshake ("invalid server name '" ++ name ++ "': invalid dns name"))

/-- What the system says of an address of a family that cannot be used. -/
def AttemptFailure.wrongFamily : AttemptFailure :=
  .io "Address family not supported by protocol (os error 97)"

/-- Why a stream cannot be opened between the two addresses of a candidate, if so. Both have to be
of one family. -/
def Candidate.streamFamilyFault? (c : Candidate) : Option AttemptFailure :=
  match c.localSide with
  | none => none
  | some side =>
    if side.address.ip.isV6 = c.address.ip.isV6 then none
    else if side.address.ip.isV6 then some .wrongFamily
    else some (.io "Invalid argument (os error 22)")

/-- Why datagrams cannot be sent between the two addresses of a candidate, if so. Local addresses of
IPv6 serve for both families; of IPv4 only the one that stands for no address in particular can be
used at all. -/
def Candidate.datagramFamilyFault? (c : Candidate) : Option AttemptFailure :=
  if c.address.ip.isV6 && c.localSide.any (·.address.ip == .unspecified false) then
    some .wrongFamily
  else none

namespace Network

/-- Whether a host is on the network. -/
def reaches (n : Network) (ip : Ip) : Bool := n.listeners.any (·.ip == ip)

/-- Why no stream can be opened for a candidate, if so. -/
def streamFault? (n : Network) (c : Candidate) : Option AttemptFailure :=
  match c.streamFamilyFault? with
  | some reason => some reason
  | none =>
    if n.listeners.contains c.address then none
    else if n.reaches c.address.ip then some .refused
    else some .unreachable

/-- Why no datagrams can be sent for a candidate, if so. -/
def datagramFault? (n : Network) (c : Candidate) : Option AttemptFailure :=
  match c.datagramFamilyFault? with
  | some reason => some reason
  | none => if n.reaches c.address.ip then none else some .unreachable

/-- What an attempt comes to that succeeds at once unless something is wrong. -/
def atOnce (fault : Option AttemptFailure) : Race.Behaviour :=
  .ends 0 ((fault.map .fails).getD (.connects none))

/-- **What an attempt comes to.** -/
def behaviour (n : Network) (security : SecurityParameters) (c : Candidate) : Race.Behaviour :=
  match c.stack with
  | .tcp => atOnce (n.streamFault? c)
  | .udp => atOnce (n.datagramFault? c)
  | .tls =>
    match security.handshakeFault? c <|> n.streamFault? c with
    | some reason => .ends 0 (.fails reason)
    | none => .hangs

/-- What the attempts of several candidates come to; security parameters that cannot be used spoil
all of them. -/
def behaviours (n : Network) (security : SecurityParameters) :
    Except SecurityFault (List Candidate → List Race.Behaviour) :=
  security.tls?.map fun _ candidates => candidates.map (n.behaviour security)

end Network

end Dialer
