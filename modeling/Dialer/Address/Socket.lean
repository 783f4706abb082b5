import Dialer.Address.Ip

/-!
# Socket addresses

An address with a port, and for IPv6 the number of the zone it is meant in. The text forms are
`192.0.2.1:80`, `[2001:db8::1]:80` and `[fe80::1%2]:80`; zone 0 is not written.
-/

namespace Dialer

/-- An address with a port. -/
structure SocketAddress where
  ip : Ip
  port : UInt16
  /-- The zone of an IPv6 address, 0 if none is meant. -/
  zone : UInt32 := 0
deriving DecidableEq

namespace SocketAddress

/-- Whether the address belongs to the IPv6 family. -/
def isV6 (a : SocketAddress) : Bool := a.ip.isV6

/-- **The text of a socket address.** -/
def text (a : SocketAddress) : String :=
  let port := Numeral.write 10 a.port.toNat
  match a.ip with
  | .v4 _ => a.ip.text ++ ":" ++ port
  | .v6 _ =>
    let zone := if a.zone = 0 then "" else "%" ++ Numeral.write 10 a.zone.toNat
    "[" ++ a.ip.text ++ zone ++ "]:" ++ port

/-- A port: any number of decimal digits, below 65536. -/
def portShape : Numeral.Shape := ⟨10, none, true, 65536⟩

/-- A zone number: any number of decimal digits, below 2³². -/
def zoneShape : Numeral.Shape := ⟨10, none, true, 4294967296⟩

/-- Read a colon and a port. -/
def readPort (text : List Char) : Option (UInt16 × List Char) := do
  let (port, rest) ← Numeral.read portShape (← Numeral.expect ':' text)
  return (port.toUInt16, rest)

/-- Read a percent sign and a zone number; without one the zone is 0 and nothing is consumed. -/
def readZone (text : List Char) : UInt32 × List Char :=
  match Numeral.expect '%' text >>= Numeral.read zoneShape with
  | some (zone, rest) => (zone.toUInt32, rest)
  | none => (0, text)

/-- Read a socket address of either family. -/
def read (text : List Char) : Option (SocketAddress × List Char) :=
  let quad := do
    let (octets, rest) ← Ip.readQuad text
    let (port, rest) ← readPort rest
    return (⟨.v4 octets, port, 0⟩, rest)
  let bracketed := do
    let (ip, rest) ← Ip.readV6 (← Numeral.expect '[' text)
    let (zone, rest) := readZone rest
    let (port, rest) ← readPort (← Numeral.expect ']' rest)
    return (⟨ip, port, zone⟩, rest)
  quad <|> bracketed

/-- **The socket address a text is the whole of.** -/
def parse? (text : String) : Option SocketAddress :=
  match read text.toList with
  | some (a, []) => some a
  | _ => none

end SocketAddress

end Dialer
