import Dialer.Address.Socket

/-!
# Host tables

A `HostTable` maps hostnames to addresses. Names are the same if they differ only in the case of
ASCII letters and in points at their end; a later entry for a name replaces an earlier one.
-/

namespace Dialer

/-- Hostnames, in canonical form, with their addresses; later entries come first. -/
structure HostTable where
  entries : List (String × List Ip) := []
deriving DecidableEq

namespace HostTable

/-- The canonical form of a hostname: without points at its end, and in lower case. -/
def canonical (host : String) : String :=
  String.ofList ((host.toList.reverse.dropWhile (· = '.')).reverse.map Char.toLower)

/-- Give a hostname its addresses. -/
def insert (table : HostTable) (host : String) (addresses : List Ip) : HostTable :=
  ⟨(canonical host, addresses) :: table.entries⟩

/-- Enter several hosts in order. -/
def ofList (hosts : List (String × List Ip)) : HostTable :=
  hosts.foldl (fun table (host, addresses) => table.insert host addresses) {}

/-- The addresses of a hostname, if it has an entry. -/
def lookup? (table : HostTable) (host : String) : Option (List Ip) :=
  table.entries.lookup (canonical host)

end HostTable

/-- Which address families a name service is asked for. -/
inductive FamilyChoice
  | both
  | ipv4Only
  | ipv6Only
deriving DecidableEq, Repr

/-- How names are looked up where the host table of the system is not the only source. -/
structure NameServiceConfig where
  /-- The servers to ask; none means those the system is set up with. -/
  servers : List SocketAddress := []
  families : FamilyChoice := .both
  /-- Whether the system's host file is consulted first. -/
  hostFile : Bool := true
  /-- The time limit of one query in milliseconds. -/
  timeout : Nat := 3000
deriving DecidableEq

/-- Whether the system's own settings decide whom to ask. -/
def NameServiceConfig.usesSystem (config : NameServiceConfig) : Bool := config.servers.isEmpty

end Dialer
