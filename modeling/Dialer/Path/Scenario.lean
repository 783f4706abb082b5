import Dialer.Path.Loop

/-!
# Watch scenarios

A scenario is a sequence of operations on a monitor and on the network it reads. Watches have names
and listeners: a listener is called with each change, or keeps the changes in a queue. After an edit
of the network a monitor that is told of changes takes a snapshot at once; several edits in one go
give two, so that one of them may fail.
-/

namespace Dialer.WatchScenario

/-- One operation. -/
inductive Operation
  | list
  | defaultInterface
  | select (prefs : PathRanking)
  /-- Watch with a function that is called with each change. If a kind is given, it panics over
  changes of that kind; if a number is given, it ends its own watch in the call of that number. -/
  | start (name : String) (panicOn : Option Change.Kind) (stopAt : Option Nat)
  /-- Watch with a queue. -/
  | subscribe (name : String)
  /-- Take the next change from a queue. -/
  | tryNext (name : String)
  /-- Take all changes from a queue. -/
  | drain (name : String)
  | stop (name : String)
  | dropWatcher (name : String)
  | stopWatching
  | dropMonitor
  | failNext (text : String)
  | edit (edit : Edit)
  | batch (edits : List Edit)
  /-- Let the poll interval pass. -/
  | tick
deriving DecidableEq

/-- What an operation comes to. -/
inductive Answer
  | done
  | interfaces (found : List Interface)
  | interface (found : Option Interface)
  | change (found : Option Change)
  | changes (found : List Change)
  | failed (error : MonitorError)
  | notWatching
  | noMonitor
deriving DecidableEq

/-- What becomes of delivered changes. -/
inductive Listener
  /-- They were passed to a function, so many of them so far. -/
  | calls (panicOn : Option Change.Kind) (stopAt : Option Nat) (count : Nat)
  /-- They wait in a queue. -/
  | queue (waiting : List Change)
deriving DecidableEq

/-- Hand a change to a listener. -/
def Listener.hear : Callback Listener
  | calls panicOn stopAt count, change =>
    (calls panicOn stopAt (count + 1),
      { panicked := panicOn = some change.kind, stopped := stopAt = some (count + 1) })
  | queue waiting, change => (queue (waiting ++ [change]), {})

/-- A monitor with the listeners of its watches. -/
structure State where
  monitor : Monitor
  monitorDropped : Bool := false
  /-- The watch behind each name; the first entry of a name counts. -/
  watchers : List (String × Nat) := []
  /-- The last watch with a queue behind each name. -/
  queues : List (String × Nat) := []
  listeners : List (Nat × Listener) := []
  /-- The changes functions were called with since the last operation, last first. -/
  called : List Change := []
deriving DecidableEq

/-- What can be seen after an operation. -/
structure Step where
  answer : Answer
  /-- The changes functions were called with. -/
  called : List Change
  watching : Option Bool
  /-- Whether the watch behind each name is active. -/
  active : List (String × Bool)
  subscribers : Nat
deriving DecidableEq

namespace State

/-- Enter a listener in place of the one a watch has. -/
def setListener (s : State) (id : Nat) (listener : Listener) : State :=
  { s with listeners := (id, listener) :: s.listeners.filter (·.1 != id) }

/-- The active watch with its listener. -/
def loop? (s : State) : Option (Nat × WatchLoop Listener) := do
  let w ← s.monitor.watch
  let listener ← s.listeners.lookup w.id
  return (w.id, { monitor := s.monitor, listener })

/-- **Let the active watch take a snapshot** and tell its listener what has changed. -/
def observe (s : State) : State :=
  match s.loop? with
  | none => s
  | some (id, loop) =>
    let loop := loop.round Listener.hear { network := s.monitor.source }
    let called := match loop.listener with
      | .calls _ _ _ => loop.heard.reverse
      | .queue _ => []
    { s.setListener id loop.listener with monitor := loop.monitor, called := called ++ s.called }

/-- Whether the source tells the active watch of changes. -/
def told (s : State) : Bool := s.monitor.watch.any (·.subscription.isSome)

/-- Edit the network. -/
def edit (s : State) (edits : List Edit) : State :=
  { s with monitor :=
      { s.monitor with source := edits.foldl Source.edit s.monitor.source } }

/-- Begin a watch with a listener, under a name. -/
def watch (s : State) (name : String) (listener : Listener) : Except MonitorError Nat × State :=
  match s.monitor.start with
  | (.error e, monitor) => (.error e, { s with monitor })
  | (.ok id, monitor) =>
    -- A watcher that had the name is let go; its watch has ended already.
    let s := { s with monitor, watchers := (name, id) :: s.watchers.filter (·.1 != name) }
    (.ok id, s.setListener id listener)

/-- The queue behind a name. -/
def queue? (s : State) (name : String) : Option (Nat × List Change) :=
  match s.queues.lookup name with
  | none => none
  | some id =>
    match s.listeners.lookup id with
    | some (.queue waiting) => some (id, waiting)
    | _ => none

/-- An operation that needs the monitor. -/
def withMonitor (s : State) (operation : State → Answer × State) : Answer × State :=
  if s.monitorDropped then (.noMonitor, s) else operation s

/-- An operation that needs an active watch. -/
def withWatch (s : State) (operation : State → State) : Answer × State :=
  if s.monitor.watching then (.done, operation s) else (.notWatching, s)

/-- End the watch behind a name, if there is one. -/
def stop (s : State) (name : String) : State :=
  match s.watchers.lookup name with
  | none => s
  | some id => { s with monitor := s.monitor.stop id }

/-- End the watch on the monitor, if there is one. -/
def endWatch (s : State) : State := { s with monitor := s.monitor.endWatch }

/-- The answer to a reading of the source. -/
def answer {α : Type} (s : State) (reading : Except MonitorError α × Monitor)
    (found : α → Answer) : Answer × State :=
  let s := { s with monitor := reading.2 }
  match reading.1 with
  | .error e => (.failed e, s)
  | .ok a => (found a, s)

/-- **Carry out one operation.** -/
def perform (s : State) : Operation → Answer × State
  | .list => s.withMonitor fun s => s.answer s.monitor.list .interfaces
  | .defaultInterface => s.withMonitor fun s => s.answer s.monitor.defaultInterface .interface
  | .select prefs => s.withMonitor fun s => s.answer (s.monitor.bestInterface prefs) .interface
  | .start name panicOn stopAt =>
    s.withMonitor fun s =>
      match s.watch name (.calls panicOn stopAt 0) with
      | (.error e, s) => (.failed e, s)
      | (.ok _, s) => (.done, s)
  | .subscribe name =>
    s.withMonitor fun s =>
      match s.watch name (.queue []) with
      | (.error e, s) => (.failed e, s)
      | (.ok id, s) => (.done, { s with queues := (name, id) :: s.queues.filter (·.1 != name) })
  | .tryNext name =>
    match s.queue? name with
    | some (id, change :: rest) => (.change (some change), s.setListener id (.queue rest))
    | _ => (.change none, s)
  | .drain name =>
    match s.queue? name with
    | some (id, waiting) => (.changes waiting, s.setListener id (.queue []))
    | none => (.changes [], s)
  | .stop name => (.done, s.stop name)
  | .dropWatcher name =>
    (.done, { s.stop name with watchers := s.watchers.filter (·.1 != name) })
  | .stopWatching => (.done, s.endWatch)
  | .dropMonitor => (.done, { s.endWatch with monitorDropped := true })
  | .failNext text =>
    (.done, { s with monitor := { s.monitor with source := s.monitor.source.failNext text } })
  | .edit e =>
    let s := s.edit [e]
    (.done, if s.told then s.observe else s)
  | .batch edits =>
    s.withWatch fun s =>
      let s := s.edit edits
      if s.told then
        let s := s.observe
        if 2 ≤ edits.length then s.observe else s
      else s
  | .tick => s.withWatch observe

/-- What can be seen of the monitor. -/
def look (s : State) (answer : Answer) : Step where
  answer := answer
  called := s.called.reverse
  watching := if s.monitorDropped then none else some s.monitor.watching
  active := s.watchers.map fun (name, id) => (name, s.monitor.active id)
  subscribers := s.monitor.source.subscriptions.length

end State

/-- **Carry out operations in order.** Returns what could be seen after each, and the end. -/
def run (s : State) : List Operation → List Step × State
  | [] => ([], s)
  | operation :: rest =>
    let (answer, s) := { s with called := [] }.perform operation
    let (steps, final) := run s rest
    (s.look answer :: steps, final)

end Dialer.WatchScenario
