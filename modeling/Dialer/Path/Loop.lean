import Dialer.Path.Monitor

/-!
# How a watch goes round

Between two snapshots a watch waits: until it is woken, or until the poll interval has passed.
However often it was woken in the meantime, it takes one snapshot, and calls its listener with each
change before it waits again. A listener that panics is called with the next change all the same;
one that stops the watch is not called again.

* `WatchLoop.round`: what the watch does from one time of waiting to the next.
* `WatchLoop.heard`: what its listener was called with.
-/

namespace Dialer

/-- What a waiting watch can be told. -/
inductive Signal
  | wake
  | stop
deriving DecidableEq, Repr

/-- How a call of a listener ended. -/
structure CallReturn where
  panicked : Bool := false
  /-- The watch was stopped during the call. -/
  stopped : Bool := false
deriving DecidableEq, Repr

/-- A function that is called with changes and keeps a state of its own. -/
abbrev Callback (σ : Type) := σ → Change → σ × CallReturn

/-- **A watch with its listener.** -/
structure WatchLoop (σ : Type) where
  monitor : Monitor
  /-- The state of the listener. -/
  listener : σ
  /-- The calls of the listener, in order. -/
  calls : List (Change × CallReturn) := []

/-- What a watch meets with when it has waited. -/
structure Round where
  /-- What it was told while it waited; nothing if the poll interval passed. -/
  signals : List Signal := []
  /-- The network as it is then. -/
  network : Source

/-- A monitor whose network has become another one. -/
def Monitor.withNetwork (m : Monitor) (network : Source) : Monitor := { m with source := network }

/-- What the snapshot of a round comes to. -/
def Round.reading (r : Round) : Except MonitorError Snapshot := r.network.snapshot.1

namespace WatchLoop

variable {σ : Type}

/-- What the listener was called with. -/
def heard (l : WatchLoop σ) : List Change := l.calls.map Prod.fst

/-- Call the listener with a change. That it panics is noted and has no further consequence. -/
def call (callback : Callback σ) (l : WatchLoop σ) (change : Change) : WatchLoop σ :=
  let (listener, ret) := callback l.listener change
  { monitor := if ret.stopped then l.monitor.endWatch else l.monitor
    listener
    calls := l.calls ++ [(change, ret)] }

/-- Call the listener with changes until none is left to deliver, at most `fuel` of them. -/
def deliverFor (callback : Callback σ) : (fuel : Nat) → WatchLoop σ → WatchLoop σ
  | 0, l => l
  | fuel + 1, l =>
    match l.monitor.deliver? with
    | none => l
    | some ((_, change), monitor) =>
      deliverFor callback fuel (call callback { l with monitor } change)

/-- Call the listener with all changes there are. -/
def deliver (callback : Callback σ) (l : WatchLoop σ) : WatchLoop σ :=
  deliverFor callback ((l.monitor.watch.map (·.pending.length)).getD 0) l

/-- **Wait, take a snapshot and deliver what has changed.** All signals that have come are heeded
together: one of them to stop ends the watch, and otherwise they count for one. -/
def round (callback : Callback σ) (l : WatchLoop σ) (r : Round) : WatchLoop σ :=
  if r.signals.contains .stop then
    { l with monitor := (l.monitor.withNetwork r.network).endWatch }
  else deliver callback { l with monitor := (l.monitor.withNetwork r.network).observe }

/-- Go round and round. -/
def run (callback : Callback σ) (l : WatchLoop σ) (rounds : List Round) : WatchLoop σ :=
  rounds.foldl (round callback) l

end WatchLoop

end Dialer
