import Dialer.Path.Ranking
import Dialer.Path.Source

/-!
# Watching a network

A `Monitor` reads a source and lets at most one watch at a time follow its changes. A watch
begins with a first snapshot; every later one is compared with the one before, and the differences
are delivered one by one. A snapshot that fails changes nothing. When a watch ends, whatever was
still to be delivered is dropped with it, also if it ends between two deliveries.

* `Monitor.list`, `Monitor.defaultInterface`, `Monitor.bestInterface`: read the source once.
* `Monitor.start`, `Monitor.stop`, `Monitor.endWatch`: begin and end a watch.
* `Monitor.observe`: the watch takes a snapshot.
* `Monitor.deliver?`: the next difference is delivered.
-/

namespace Dialer

/-- How a monitor finds out about changes. -/
structure WatchSettings where
  /-- Milliseconds between snapshots when no one tells of a change. -/
  pollInterval : Nat := 1000
  /-- Whether the source is asked to tell of changes. -/
  notifications : Bool := true
deriving DecidableEq, Repr

/-- The poll interval in use; shorter ones than 50 milliseconds are not. -/
def WatchSettings.effectiveInterval (config : WatchSettings) : Nat := max config.pollInterval 50

/-- A watch that has not ended. -/
structure Watch where
  id : Nat
  /-- The last snapshot that succeeded. -/
  previous : Snapshot
  /-- The number of its subscription at the source. -/
  subscription : Option Nat
  /-- The changes still to be delivered. -/
  pending : List Change := []
deriving DecidableEq

/-- **A source, and the watch that follows it.** -/
structure Monitor where
  source : Source
  config : WatchSettings := {}
  watch : Option Watch := none
  nextId : Nat := 0
deriving DecidableEq

namespace Monitor

/-- Whether a watch is active. -/
def watching (m : Monitor) : Bool := m.watch.isSome

/-- Whether the watch with an identity is active. -/
def active (m : Monitor) (id : Nat) : Bool := m.watch.any (·.id == id)

/-- Read the interfaces. -/
def list (m : Monitor) : Except MonitorError (List Interface) × Monitor :=
  let (reading, source) := m.source.read
  (reading, { m with source })

/-- The interface the default route leaves by. -/
def defaultInterface (m : Monitor) : Except MonitorError (Option Interface) × Monitor :=
  let (reading, source) := m.source.snapshot
  (reading.map (·.routeInterface?), { m with source })

/-- The best interface there is by a ranking. -/
def bestInterface (m : Monitor) (prefs : PathRanking) :
    Except MonitorError (Option Interface) × Monitor :=
  let (reading, m) := m.list
  (reading.map prefs.choose?, m)

/-- **Begin a watch.** Returns its identity. It needs a first snapshot, and no other watch may be
active. A source that does not tell of changes is watched all the same. The system always has a thread
for the watch: left out is the failure for want of one, after which no watch is active, the source is
not subscribed to and the identity is used up. -/
def start (m : Monitor) : Except MonitorError Nat × Monitor :=
  if m.watching then (.error .alreadyWatching, m)
  else
    match m.source.snapshot with
    | (.error e, source) => (.error e, { m with source })
    | (.ok previous, source) =>
      let (subscription, source) :=
        match m.config.notifications, source.subscribe? with
        | true, some (number, source) => (some number, source)
        | _, _ => (none, source)
      (.ok m.nextId,
        { m with
          source
          watch := some { id := m.nextId, previous, subscription }
          nextId := m.nextId + 1 })

/-- End the active watch, if there is one. -/
def endWatch (m : Monitor) : Monitor :=
  match m.watch with
  | none => m
  | some w =>
    { m with
      watch := none
      source := (w.subscription.map m.source.unsubscribe).getD m.source }

/-- End the watch with an identity; if another one is active, or none, nothing happens. -/
def stop (m : Monitor) (id : Nat) : Monitor := if m.active id then m.endWatch else m

/-- **Take a snapshot** and note what has changed since the last that succeeded. -/
def observe (m : Monitor) : Monitor :=
  match m.watch with
  | none => m
  | some w =>
    match m.source.snapshot with
    | (.error _, source) => { m with source }
    | (.ok current, source) =>
      { m with
        source
        watch := some
          { w with previous := current, pending := w.pending ++ w.previous.changes current } }

/-- **Deliver the next change.** Returns it with the identity of the watch it belongs to. -/
def deliver? (m : Monitor) : Option ((Nat × Change) × Monitor) :=
  match m.watch with
  | none => none
  | some w =>
    match w.pending with
    | [] => none
    | change :: rest =>
      some ((w.id, change), { m with watch := some { w with pending := rest } })

end Monitor

end Dialer
