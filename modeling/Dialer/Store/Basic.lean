import Dialer.Connection.Basic
import Dialer.Path.Monitor
import Dialer.Preconnection
import Dialer.Store.Fault

/-!
# Stores

A `Store` owns the objects that callers know by handles. Each kind of object has a table of its
own. A watch belongs to its monitor and a peer may still read what a connection has sent, so
monitors and connections live on when their handles are gone: they are kept in the order they were
entered, and the tables hold their places in that order.

The network changes while callers do something else: `Store.edit`, `Store.observe` and
`Store.deliver?` are what happens to a monitor from that side.
-/

namespace Dialer

/-- A watch on a monitor that was entered. -/
structure WatchRef where
  /-- The place of the monitor. -/
  monitor : Nat
  watch : Nat
deriving DecidableEq, Repr

/-- **The objects callers know by handles.** -/
structure Store where
  monitors : HandleTable Nat := {}
  watchers : HandleTable WatchRef := {}
  preconnections : HandleTable Preconnection := {}
  endpoints : HandleTable RemoteEndpoint := {}
  connections : HandleTable Nat := {}
  /-- Every monitor that was entered. -/
  allMonitors : List Monitor := []
  /-- Every connection that was entered. -/
  allConnections : List StreamConnection := []
  arrays : Listings := {}
  /-- Why the last call that failed did, unless that was cleared. -/
  lastFault : Option CallFault := none

namespace Store

/-! ### Objects -/

/-- The object a handle stands for in a table, or the fault of the handle. -/
def lookup {α : Type} (table : HandleTable α) (kind : HandleKind) (h : Handle) :
    Except CallFault α :=
  match table.get? h with
  | some a => .ok a
  | none => .error (.invalidHandle kind h)

/-- The place a handle stands for, and what was entered there. -/
def placed {α : Type} (table : HandleTable Nat) (all : List α) (kind : HandleKind) (h : Handle) :
    Except CallFault (Nat × α) := do
  let place ← lookup table kind h
  match all[place]? with
  | some a => return (place, a)
  | none => throw (.invalidHandle kind h)

/-- The monitor a handle stands for, and its place. -/
def monitor (r : Store) (h : Handle) : Except CallFault (Nat × Monitor) :=
  placed r.monitors r.allMonitors .pathMonitor h

/-- The connection a handle stands for, and its place. -/
def connection (r : Store) (h : Handle) : Except CallFault (Nat × StreamConnection) :=
  placed r.connections r.allConnections .connection h

/-- Change the monitor at a place. -/
def onMonitor (r : Store) (place : Nat) (f : Monitor → Monitor) : Store :=
  { r with allMonitors := r.allMonitors.modify place f }

/-- Change the connection at a place. -/
def onConnection (r : Store) (place : Nat) (f : StreamConnection → StreamConnection) :
    Store :=
  { r with allConnections := r.allConnections.modify place f }

/-- End a watch. -/
def stopWatch (r : Store) (w : WatchRef) : Store := r.onMonitor w.monitor (·.stop w.watch)

/-! ### What the network does -/

/-- Change the network that the monitor at a place reads. -/
def edit (r : Store) (place : Nat) (e : Edit) : Store :=
  r.onMonitor place fun m => { m with source := m.source.edit e }

/-- Make the next reading of the network fail. -/
def failNext (r : Store) (place : Nat) (text : String) : Store :=
  r.onMonitor place fun m => { m with source := m.source.failNext text }

/-- Let the watch on a monitor take a snapshot. -/
def observe (r : Store) (place : Nat) : Store := r.onMonitor place (·.observe)

/-- **Deliver the next change** that a monitor has found to the watch on it. -/
def deliver? (r : Store) (place : Nat) : Option ((WatchRef × ChangeView) × Store) := do
  let m ← r.allMonitors[place]?
  let ((watch, change), m) ← m.deliver?
  return ((⟨place, watch⟩, change.view), r.onMonitor place fun _ => m)

end Store

end Dialer
