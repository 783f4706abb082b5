import Dialer.Path.Change

/-!
# Where snapshots come from

A `Source` reports the interfaces and the default route of a network that its owner can change, and
keeps the subscriptions of those who want to be told of changes. Its next read can be made to fail
once.

* `Source.read`, `Source.snapshot`: what a reader gets, and the source afterwards.
* `Edit`: what the owner can do to the network.
-/

namespace Dialer

/-- Why the network could not be observed. -/
inductive MonitorError
  /-- There is no way to find out about interfaces. -/
  | init (text : String)
  /-- A watch is active already. -/
  | alreadyWatching
  /-- The system failed. -/
  | platform (text : String)
deriving DecidableEq, Repr

/-- The text of an error. -/
def MonitorError.message : MonitorError → String
  | init text => "Failed to initialize path monitor: " ++ text
  | alreadyWatching => "Path monitor is already watching for changes"
  | platform text => "Platform error: " ++ text

/-- A network that can be read. -/
structure Source where
  interfaces : List Interface := []
  route : Option Route := none
  /-- The text the next read fails with, if it does. -/
  failure : Option String := none
  /-- Whether it can tell of changes. -/
  tells : Bool := true
  /-- The numbers of the live subscriptions, in the order they were made. -/
  subscriptions : List Nat := []
  /-- The number of the next subscription. -/
  nextSubscription : Nat := 0
  /-- How often the interfaces have been read. -/
  reads : Nat := 0
deriving DecidableEq

/-- A change to the network. -/
inductive Edit
  /-- Put an interface in place of one with its index, or at the end. -/
  | upsert (interface : Interface)
  /-- Take every interface with an index away. -/
  | remove (index : Nat)
  /-- Replace all interfaces. -/
  | set (interfaces : List Interface)
  /-- Replace the default route. -/
  | route (route : Option Route)
deriving DecidableEq

namespace Source

/-- Replace the first interface with the same index, or append. -/
def upsert (i : Interface) : List Interface → List Interface
  | [] => [i]
  | j :: rest => if j.index = i.index then i :: rest else j :: upsert i rest

/-- Change the network. -/
def edit (s : Source) : Edit → Source
  | .upsert i => { s with interfaces := upsert i s.interfaces }
  | .remove index => { s with interfaces := s.interfaces.filter (·.index != index) }
  | .set interfaces => { s with interfaces }
  | .route route => { s with route }

/-- Make the next read fail. -/
def failNext (s : Source) (text : String) : Source := { s with failure := some text }

/-- **Read the interfaces.** A failure that was asked for is used up. -/
def read (s : Source) : Except MonitorError (List Interface) × Source :=
  let after := { s with failure := none, reads := s.reads + 1 }
  match s.failure with
  | some text => (.error (.platform text), after)
  | none => (.ok s.interfaces, after)

/-- Read the interfaces and the default route. -/
def snapshot (s : Source) : Except MonitorError Snapshot × Source :=
  match s.read with
  | (.error e, s) => (.error e, s)
  | (.ok interfaces, s) => (.ok ⟨interfaces, s.route⟩, s)

/-- Subscribe to changes, if the source can tell of them. Returns the number of the subscription. -/
def subscribe? (s : Source) : Option (Nat × Source) :=
  if s.tells then
    some (s.nextSubscription, { s with
      subscriptions := s.subscriptions ++ [s.nextSubscription]
      nextSubscription := s.nextSubscription + 1 })
  else none

/-- End a subscription. -/
def unsubscribe (s : Source) (number : Nat) : Source :=
  { s with subscriptions := s.subscriptions.filter (· != number) }

theorem read_network (s : Source) :
    s.read.2.interfaces = s.interfaces ∧ s.read.2.route = s.route ∧
      s.read.2.subscriptions = s.subscriptions := by
  unfold read; split <;> simp

theorem reads_read (s : Source) : s.read.2.reads = s.reads + 1 := by
  unfold read; split <;> rfl

end Source

end Dialer
