import Dialer.Address.Ip
import Dialer.Stack

/-!
# Endpoints

A `RemoteEndpoint` says where to connect, a `LocalEndpoint` what the near side of a connection has
to be. Every field may be missing. The port of a remote endpoint may come from a service name.
-/

namespace Dialer

/-- The port of a well-known service; letter case in its name does not matter. -/
def servicePort? (service : String) : Option UInt16 :=
  match service.toLower with
  | "http" => some 80
  | "https" => some 443
  | "ssh" => some 22
  | "dns" | "domain" => some 53
  | "smtp" => some 25
  | "imap" => some 143
  | "imaps" => some 993
  | _ => none

/-- Where to connect. -/
structure RemoteEndpoint where
  hostname : Option String := none
  address : Option Ip := none
  port : Option UInt16 := none
  /-- A service whose port is used if no port is given. -/
  service : Option String := none
  /-- The only protocol the endpoint may be attempted with. -/
  protocol : Option Protocol := none
deriving DecidableEq

namespace RemoteEndpoint

/-- The port to connect to: the endpoint's own, else that of its service. -/
def effectivePort (e : RemoteEndpoint) : Option UInt16 :=
  e.port <|> e.service.bind servicePort?

/-- The host as messages name it. -/
def hostLabel (e : RemoteEndpoint) : String :=
  match e.hostname, e.address with
  | some name, _ => name
  | none, some ip => ip.text
  | none, none => "<unspecified>"

/-- **The text of a remote endpoint:** the host and, if known, the port; a host with a colon in it
stands in brackets before a port. -/
def text (e : RemoteEndpoint) : String :=
  let host := e.hostLabel
  match e.effectivePort with
  | some port =>
    let shown := if host.toList.contains ':' then "[" ++ host ++ "]" else host
    shown ++ ":" ++ Numeral.write 10 port.toNat
  | none => host

end RemoteEndpoint

/-- What the near side of a connection has to be. -/
structure LocalEndpoint where
  /-- The name of the interface to use. -/
  interface : Option String := none
  address : Option Ip := none
  port : Option UInt16 := none
deriving DecidableEq

end Dialer
