import Dialer.Establishment.Binding
import Dialer.Preconnection

/-!
# The candidates of a preconnection

`Preconnection.candidates` runs the stages before any attempt is made: check the preconnection,
select stacks, resolve the remote endpoints, read the interfaces if there are local endpoints, bind,
and put costly candidates last. The first stage that fails decides the error, and the interfaces
are read only if all stages before have succeeded.
-/

namespace Dialer

namespace Preconnection

/-- Whether the preconnection can be established at all. -/
def validate (p : Preconnection) : Except EstablishmentFailure Unit :=
  if p.remotes.isEmpty then .error (.invalidParameters .noRemoteEndpoint) else .ok ()

/-- The stacks that are wanted, best first. -/
def wantedStacks (p : Preconnection) : List Stack :=
  p.properties.acceptableStacks p.security.enabled

/-- The stacks to attempt; there has to be one. -/
def acceptableStacks (p : Preconnection) : Except EstablishmentFailure (List Stack) :=
  match p.wantedStacks with
  | [] => .error (.invalidParameters (.noStack p.properties p.security.enabled))
  | found => .ok found

/-- **Resolve every remote endpoint.** -/
def resolve (table : HostTable) (p : Preconnection) :
    Except EstablishmentFailure (List Candidate) := do
  p.validate
  let acceptable ← p.acceptableStacks
  match resolveEndpoints table acceptable p.remotes with
  | .error failure => .error (.resolution failure)
  | .ok found => .ok found

/-- The interfaces to bind with. A source that cannot be read stands for no interfaces, unless a
local endpoint names one. -/
def interfacesFor (p : Preconnection) (reading : Except MonitorError (List Interface)) :
    Except EstablishmentFailure (List Interface) :=
  match reading with
  | .ok interfaces => .ok interfaces
  | .error e =>
    if p.locals.any (·.interface.isSome) then
      .error (.invalidParameters (.unreadableInterfaces e))
    else .ok []

/-- **The candidates in the order they are to be attempted,** and the source after them. -/
def candidates (table : HostTable) (source : Source) (p : Preconnection) :
    Except EstablishmentFailure (List Candidate) × Source :=
  match p.resolve table with
  | .error e => (.error e, source)
  | .ok resolved =>
    if p.locals.isEmpty then (.ok (costlyLast resolved), source)
    else
      let (reading, source) := source.read
      (do
        let interfaces ← p.interfacesFor reading
        let bound ← bindLocals resolved p.locals interfaces
        return costlyLast bound, source)

end Preconnection

end Dialer
