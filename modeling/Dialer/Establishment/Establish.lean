import Dialer.Establishment.Candidates
import Dialer.Race.Run

/-!
# Establishing a connection

`Preconnection.establish` computes the candidates of a preconnection and races them. What becomes of
the attempts is given as a function of the candidates, or as the fault in the security parameters
that keeps attempts from being made. The time limit of the preconnection, if it has one, takes the
place of the race's own.
-/

namespace Dialer

/-- What is known of a connection when it is established. -/
structure Establishment where
  /-- The endpoint the winning candidate came from. -/
  remote : RemoteEndpoint
  candidate : Candidate
  localAddress : Option SocketAddress
  properties : Properties
  report : Race.Report
deriving DecidableEq

/-- Whether an endpoint is one that a candidate may have come from: the port is its own, and so is
the address, or else the hostname is the candidate's or spells the address out. -/
def RemoteEndpoint.matchesCandidate (e : RemoteEndpoint) (c : Candidate) : Bool :=
  e.effectivePort == some c.address.port &&
    (e.address == some c.address.ip ||
      e.hostname.any fun name =>
        c.host == some name || Ip.parse? name == some c.address.ip)

/-- **The endpoint a candidate came from:** the first it may have come from, else one made of its
address and port. -/
def originOf (endpoints : List RemoteEndpoint) (c : Candidate) : RemoteEndpoint :=
  (endpoints.find? (·.matchesCandidate c)).getD
    { address := some c.address.ip, port := some c.address.port }

/-- What came of an attempt to establish a connection. -/
structure EstablishmentResult where
  outcome : Except EstablishmentFailure Establishment
  /-- How long the race took. -/
  elapsed : Race.Instant := 0
  /-- The attempts that were started. -/
  attempts : List (Candidate × Race.Attempt) := []
  /-- The source of interfaces afterwards. -/
  source : Source

namespace Preconnection

/-- The timing of the race for a preconnection. -/
def raceConfig (p : Preconnection) (config : Race.Config) : Race.Config :=
  match p.properties.timeout with
  | some limit => { config with deadline := limit }
  | none => config

/-- **Establish a connection.** -/
def establish (table : HostTable) (source : Source) (config : Race.Config)
    (given : Except SecurityFault (List Candidate → List Race.Behaviour)) (p : Preconnection) :
    EstablishmentResult :=
  match p.candidates table source, given with
  | (.error e, source), _ => { outcome := .error e, source }
  | (.ok _, source), .error fault => { outcome := .error (.security fault), source }
  | (.ok candidates, source), .ok behaviours =>
    let result := Race.race (p.raceConfig config) candidates (behaviours candidates)
    { outcome := result.outcome.map fun win =>
        { remote := originOf p.remotes win.candidate
          candidate := win.candidate
          localAddress := win.localAddress
          properties := p.properties
          report := win.report }
      elapsed := result.elapsed
      attempts := result.attempts
      source }

end Preconnection

end Dialer
