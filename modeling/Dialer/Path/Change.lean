import Dialer.Path.Interface

/-!
# Snapshots of the network, and what changes between them

A `Snapshot` holds the interfaces and the default route at one moment. `Snapshot.changes` lists
what happened between two of them: removals, modifications, additions, each by ascending index, and
last a change of the default route. If an index is repeated in a snapshot its last entry counts;
`Snapshot.table` is the list of those entries in ascending order.
-/

namespace Dialer

/-- Where traffic goes that no other route takes. -/
structure Route where
  /-- The index of the interface it leaves by. -/
  index : Nat
  name : String
deriving DecidableEq, Repr

/-- The text of a route. -/
def Route.text (r : Route) : String := r.name ++ " (#" ++ Numeral.write 10 r.index ++ ")"

/-- The network at one moment. -/
structure Snapshot where
  interfaces : List Interface := []
  route : Option Route := none
deriving DecidableEq

/-- Something that happened to the network. -/
inductive Change
  | removed (interface : Interface)
  | modified (old new : Interface)
  | added (interface : Interface)
  /-- The default route became another one. -/
  | rerouted (old new : Option Route)
deriving DecidableEq

namespace Change

/-- The kind of a change. -/
inductive Kind
  | removed
  | modified
  | added
  | rerouted
deriving DecidableEq, Repr

/-- The word for a kind of change. -/
def Kind.name : Kind → String
  | removed => "removed"
  | modified => "modified"
  | added => "added"
  | rerouted => "path-changed"

/-- What kind of change it is. -/
def kind : Change → Kind
  | removed _ => .removed
  | modified _ _ => .modified
  | added _ => .added
  | rerouted _ _ => .rerouted

/-- The index of the interface concerned; a change of route concerns none. -/
def index? : Change → Option Nat
  | removed i | added i => some i.index
  | modified _ new => some new.index
  | rerouted _ _ => none

/-- What became of the default route, in words. -/
def routeText : Option Route → Option Route → String
  | some old, some new => "default route moved from " ++ old.text ++ " to " ++ new.text
  | none, some new => "default route available via " ++ new.text
  | some old, none => "default route via " ++ old.text ++ " lost"
  | none, none => ""

/-- The text of a change. -/
def text : Change → String
  | removed i => "removed " ++ i.text
  | modified _ new => "modified " ++ new.text
  | added i => "added " ++ i.text
  | rerouted old new => "path changed: " ++ routeText old new

end Change

namespace Snapshot

/-- Put an interface into a list sorted by index, in place of one with the same index. -/
def insert (i : Interface) : List Interface → List Interface
  | [] => [i]
  | j :: rest =>
    if i.index < j.index then i :: j :: rest
    else if i.index = j.index then i :: rest
    else j :: insert i rest

/-- **The entries that count, in ascending order of their index.** -/
def table (interfaces : List Interface) : List Interface :=
  interfaces.foldl (fun sorted i => insert i sorted) []

/-- The entry with an index. -/
def withIndex? (interfaces : List Interface) (index : Nat) : Option Interface :=
  interfaces.find? (·.index == index)

/-- What happened to the interfaces: removals, modifications and additions, in this order. -/
def interfaceChanges (old new : List Interface) : List Change :=
  let before := table old
  let after := table new
  let removed := before.filter fun o => (withIndex? after o.index).isNone
  let modified := before.filterMap fun o =>
    (withIndex? after o.index).bind fun n => if n.alike o then none else some (o, n)
  let added := after.filter fun n => (withIndex? before n.index).isNone
  removed.map .removed ++ modified.map (fun (o, n) => .modified o n) ++ added.map .added

/-- What happened to the default route. -/
def routeChanges (old new : Option Route) : List Change :=
  if old = new then [] else [.rerouted old new]

/-- **Everything that happened between two snapshots.** -/
def changes (old new : Snapshot) : List Change :=
  interfaceChanges old.interfaces new.interfaces ++ routeChanges old.route new.route

/-- The interface the default route leaves by. -/
def routeInterface? (s : Snapshot) : Option Interface :=
  s.route.bind fun r => withIndex? s.interfaces r.index

end Snapshot

end Dialer
