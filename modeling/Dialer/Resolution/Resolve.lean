import Dialer.Candidate
import Dialer.Distinct
import Dialer.Endpoint
import Dialer.Resolution.HostTable
import Dialer.Resolution.Interleave

/-!
# From endpoints to candidates

`RemoteEndpoint.addresses` finds the addresses of one endpoint, `RemoteEndpoint.candidates`
combines them with the stacks the endpoint allows, and `resolveEndpoints` does so for several
endpoints: what one endpoint offers is not lost because another fails, and of two candidates with
the same socket address and stack the first stays.
-/

namespace Dialer

/-- Why an endpoint has no addresses, or no candidates. -/
inductive ResolutionCause
  | noPort
  | noHost
  | hostNotFound
  | noUsableAddress
  | noMatchingStack
  /-- A cause in words, in particular several in one. -/
  | described (text : String)
deriving DecidableEq, Repr

/-- The text of a cause. -/
def ResolutionCause.message : ResolutionCause → String
  | noPort => "no port or service specified"
  | noHost => "no hostname or address specified"
  | hostNotFound => "host not found"
  | noUsableAddress => "no usable addresses"
  | noMatchingStack => "no endpoint matches a usable protocol stack"
  | described text => text

/-- A failure to resolve a host. -/
structure ResolutionFailure where
  /-- The host as messages name it. -/
  host : String
  cause : ResolutionCause
deriving DecidableEq, Repr

namespace ResolutionFailure

/-- The text of a failure. -/
def message (f : ResolutionFailure) : String :=
  "Failed to resolve '" ++ f.host ++ "': " ++ f.cause.message

/-- Several failures as one, hosts and causes in order. -/
def join (failures : List ResolutionFailure) : ResolutionFailure where
  host := ", ".intercalate (failures.map (·.host))
  cause := .described ("; ".intercalate (failures.map (·.cause.message)))

end ResolutionFailure

/-- Look a hostname up. -/
def HostTable.resolve (table : HostTable) (host : String) : Except ResolutionFailure (List Ip) :=
  match table.lookup? host with
  | some addresses => .ok addresses
  | none => .error ⟨host, .hostNotFound⟩

namespace RemoteEndpoint

/-- The addresses an endpoint names, before they are put in order: its own address, else what its
hostname spells out, else what the table has for it. -/
def namedAddresses (table : HostTable) (e : RemoteEndpoint) : Except ResolutionFailure (List Ip) :=
  match e.address, e.hostname with
  | some ip, _ => .ok [ip]
  | none, some name =>
    match Ip.parse? name with
    | some ip => .ok [ip]
    | none => table.resolve name
  | none, none => .error ⟨e.hostLabel, .noHost⟩

/-- **The socket addresses of an endpoint** in the order they are to be tried. -/
def addresses (table : HostTable) (e : RemoteEndpoint) :
    Except ResolutionFailure (List SocketAddress) :=
  match e.effectivePort with
  | none => .error ⟨e.hostLabel, .noPort⟩
  | some port =>
    match e.namedAddresses table with
    | .error failure => .error failure
    | .ok ips =>
      let ordered := interleave ips
      if ordered.isEmpty then .error ⟨e.hostLabel, .noUsableAddress⟩
      else .ok (ordered.map fun ip => ⟨ip, port, 0⟩)

/-- The hostname candidates are labelled with; a hostname that spells out an address is none. -/
def candidateHost (e : RemoteEndpoint) : Option String :=
  e.hostname.filter fun name => (Ip.parse? name).isNone

/-- **The candidates of an endpoint,** stack by stack. There are none if its protocol hint excludes
every stack. -/
def candidates (table : HostTable) (acceptable : List Stack) (e : RemoteEndpoint) :
    Except ResolutionFailure (List Candidate) :=
  match e.addresses table with
  | .error failure => .error failure
  | .ok found =>
    .ok ((acceptable.filter (·.allowedBy e.protocol)).flatMap fun stack =>
      found.map fun address => { address, stack, host := e.candidateHost })

end RemoteEndpoint

/-- What decides whether two candidates are the same attempt. -/
def Candidate.target (c : Candidate) : SocketAddress × Stack := (c.address, c.stack)

/-- The successes and the failures among results, each in order. -/
def separate {ε α : Type} : List (Except ε α) → List α × List ε
  | [] => ([], [])
  | .ok a :: rest => (a :: (separate rest).1, (separate rest).2)
  | .error e :: rest => ((separate rest).1, e :: (separate rest).2)

/-- **The candidates of several endpoints.** It is an error if there are none, and then the failures
of the endpoints are reported, or that no stack fits if none failed. -/
def resolveEndpoints (table : HostTable) (acceptable : List Stack)
    (endpoints : List RemoteEndpoint) : Except ResolutionFailure (List Candidate) :=
  let (found, failures) := separate (endpoints.map (·.candidates table acceptable))
  match firstOfEach Candidate.target found.flatten, failures with
  | [], [] => .error ⟨", ".intercalate (endpoints.map (·.hostLabel)), .noMatchingStack⟩
  | [], [failure] => .error failure
  | [], failures => .error (.join failures)
  | candidates, _ => .ok candidates

end Dialer
