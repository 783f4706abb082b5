import Dialer.Endpoint
import Dialer.Establishment.Failure

/-!
# Binding candidates to local endpoints

Where a preconnection constrains the local side, each candidate is tried once for every local
endpoint it is compatible with. `bindLocals` makes these copies; `costlyLast` then moves the ones
that cost money behind the others of the same stack.
-/

namespace Dialer

/-- The interface and address a local endpoint chooses for one address family, before the family is
checked. A named interface has to have the address; without one it offers its own. -/
def LocalEndpoint.choose (l : LocalEndpoint) (interfaces : List Interface) (ipv6 : Bool) :
    Option (Ip × Option Interface) :=
  match l.interface, l.address with
  | some name, address =>
    match interfaces.find? (·.name == name) with
    | none => none
    | some i =>
      match address with
      | some ip => if i.addresses.contains ip then some (ip, some i) else none
      | none => (i.source? ipv6).map fun ip => (ip, some i)
  | none, some ip => some (ip, interfaces.find? (·.addresses.contains ip))
  | none, none => some (Ip.unspecified ipv6, none)

/-- **The binding a local endpoint gives to a remote address,** if they are compatible. -/
def LocalEndpoint.binding? (l : LocalEndpoint) (interfaces : List Interface)
    (remote : SocketAddress) : Option LocalSide :=
  match l.choose interfaces remote.isV6 with
  | none => none
  | some (ip, i) =>
    if ip.isV6 = remote.isV6 then
      some
        { address := ⟨ip, l.port.getD 0, 0⟩
          interface := i.map (·.name)
          expensive := i.any (·.expensive) }
    else none

/-- The copies of a candidate, one for each compatible local endpoint. -/
def Candidate.bindTo (c : Candidate) (locals : List LocalEndpoint) (interfaces : List Interface) :
    List Candidate :=
  locals.filterMap fun l =>
    (l.binding? interfaces c.address).map fun b => { c with localSide := some b }

/-- The first interface name that a local endpoint refers to and that does not exist. -/
def unknownInterface? (locals : List LocalEndpoint) (interfaces : List Interface) :
    Option String :=
  (locals.filterMap (·.interface)).find? fun name => !interfaces.any (·.name == name)

/-- **Bind candidates to local endpoints,** candidate by candidate. Without local endpoints nothing
is bound. -/
def bindLocals (candidates : List Candidate) (locals : List LocalEndpoint)
    (interfaces : List Interface) : Except EstablishmentFailure (List Candidate) :=
  if locals.isEmpty then .ok candidates
  else
    match unknownInterface? locals interfaces with
    | some name => .error (.invalidParameters (.unknownInterface name))
    | none =>
      let bound := candidates.flatMap (·.bindTo locals interfaces)
      if bound.isEmpty && !candidates.isEmpty then
        .error (.invalidParameters .incompatibleLocals)
      else .ok bound

/-- **Costly candidates last within their stack.** Stacks come in the order of their first
candidate; otherwise the order stays. -/
def costlyLast (candidates : List Candidate) : List Candidate :=
  (firstOfEach id (candidates.map (·.stack))).flatMap fun stack =>
    let group := candidates.filter (·.stack == stack)
    group.filter (!·.expensive) ++ group.filter (·.expensive)

theorem mem_costlyLast {candidates : List Candidate} {c : Candidate} :
    c ∈ costlyLast candidates ↔ c ∈ candidates := by
  simp only [costlyLast, List.mem_flatMap, List.mem_append, List.mem_filter, beq_iff_eq]
  constructor
  · rintro ⟨_, _, h | h⟩ <;> exact h.1.1
  · intro h
    refine ⟨c.stack, mem_firstOfEach_id.mpr (List.mem_map_of_mem h), ?_⟩
    cases c.expensive <;> simp [h]

end Dialer
