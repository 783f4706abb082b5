import Dialer.Connection.Carrier

/-!
# Sockets for datagrams

Where a connection carries datagrams, every send is one datagram and every receive takes one, cut
off at the size asked for. There is no end of the stream: an empty datagram is as good as any. That
the peer is gone shows only in the call after the one that reached nobody.
-/

namespace Dialer

/-- **The socket of a connection,** with what is on its way to the peer and from it. -/
structure Socket where
  toPeer : List Bytes := []
  fromPeer : List Bytes := []
  peerPresent : Bool := true
  /-- Whether the peer has read a datagram and so knows where to write. -/
  peerKnows : Bool := false
  /-- What the next call on the socket will report. -/
  pending : Option IoFailure := none
  /-- While set, there is no room for a datagram to leave. -/
  congested : Bool := false
  closed : Bool := false
deriving DecidableEq, Repr

namespace Socket

/-- What a socket reports when a datagram has come back. -/
def bounce : IoFailure := ⟨.connectionRefused, some "Connection refused (os error 111)"⟩

/-- Send one datagram. That nobody is there to take it shows only later. -/
def write (s : Socket) (data : Bytes) : WriteResult × Socket :=
  match s.pending with
  | some failure => (.failed failure, { s with pending := none })
  | none =>
    if s.congested then (.blocked data, s)
    else if s.peerPresent then (.done, { s with toPeer := s.toPeer ++ [data] })
    else (.done, { s with pending := some bounce })

/-- Receive one datagram, if there is one. -/
def read (s : Socket) (max : Nat) : ReadResult × Socket :=
  match s.pending with
  | some failure => (.failed failure, { s with pending := none })
  | none =>
    match s.fromPeer with
    | [] => (.blocked, s)
    | data :: rest => (.data (data.take max), { s with fromPeer := rest })

end Socket

/-- There is nothing to shut down on a socket. -/
instance : Carrier Socket where
  write := Socket.write
  read := Socket.read
  shutdown s := (true, s)
  release s := { s with closed := true }
  writable s _ := s.pending.isSome || !s.congested
  readable s := s.pending.isSome || !s.fromPeer.isEmpty
  shutdownHangs _ := false
  endsEmpty := false

namespace Socket

/-! ### The peer -/

/-- Let the peer read a datagram, if one has come. -/
def peerRead? (s : Socket) : Option (Bytes × Socket) :=
  match s.peerPresent, s.toPeer with
  | true, data :: rest => some (data, { s with toPeer := rest, peerKnows := true })
  | _, _ => none

/-- Let the peer write a datagram, if it knows where to. It is lost if the socket is closed. -/
def peerWrite (s : Socket) (data : Bytes) : Socket :=
  if s.peerPresent && s.peerKnows && !s.closed then { s with fromPeer := s.fromPeer ++ [data] }
  else s

/-- Let the peer go away. -/
def peerDrop (s : Socket) : Socket := { s with peerPresent := false }

end Socket

end Dialer
