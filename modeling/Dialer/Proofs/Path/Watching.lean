import Dialer.Path.Loop
import Dialer.Proofs.Path.Replay

/-!
# A watch misses nothing

As long as a watch is not stopped, its listener hears of the changes between each snapshot that
succeeds and the one before it, and of nothing else (`WatchLoop.run_of_watching`). So a map that
follows what is heard is a map of the last snapshot, and neither failed snapshots nor panics make a
difference: `WatchLoop.hears_everything`.
-/

namespace Dialer

/-- The snapshots that succeed. -/
def readings (rounds : List Round) : List Snapshot := rounds.filterMap (·.reading.toOption)

theorem readings_cons_of_error {r : Round} {rounds : List Round} {e : MonitorError}
    (h : r.reading = .error e) : readings (r :: rounds) = readings rounds := by
  simp [readings, h, Except.toOption]

theorem readings_cons_of_ok {r : Round} {rounds : List Round} {current : Snapshot}
    (h : r.reading = .ok current) : readings (r :: rounds) = current :: readings rounds := by
  simp [readings, h, Except.toOption]

theorem readings_append (before after : List Round) :
    readings (before ++ after) = readings before ++ readings after :=
  List.filterMap_append

/-- The changes from one snapshot to the next, all through. -/
def Snapshot.history (s : Snapshot) : List Snapshot → List Change
  | [] => []
  | next :: rest => s.changes next ++ history next rest

namespace Snapshot

variable {map : InterfaceMap}

theorem history_append (s : Snapshot) (before after : List Snapshot) :
    s.history (before ++ after) = s.history before ++ (before.getLastD s).history after := by
  induction before generalizing s with
  | nil => rfl
  | cons next before ih =>
    rw [List.cons_append, history, history, ih, List.append_assoc, List.getLastD_cons]

/-- A history can be replayed over a map of the first snapshot, and gives one of the last. -/
theorem replay?_history (s : Snapshot) (snapshots : List Snapshot)
    (hmap : ∀ index, SameEntry (map index) (lastAt? s.interfaces index)) :
    ∃ after, replay? map (s.history snapshots) = some after ∧
      ∀ index, SameEntry (after index) (lastAt? (snapshots.getLastD s).interfaces index) := by
  induction snapshots generalizing s map with
  | nil => exact ⟨map, rfl, hmap⟩
  | cons next snapshots ih =>
    obtain ⟨mid, hreplay, hmid⟩ := replay?_changes s next hmap
    obtain ⟨after, hrest, hafter⟩ := ih next hmid
    rw [List.getLastD_cons]
    exact ⟨after, by rw [history, replay?_append, hreplay]; exact hrest, hafter⟩

end Snapshot

namespace Monitor

variable {m : Monitor} {w : Watch} {network after : Source}

theorem watch_endWatch (m : Monitor) : m.endWatch.watch = none := by
  unfold endWatch
  split
  · assumption
  · rfl

theorem watching_eq_false (h : m.watch = none) : m.watching = false := by
  rw [watching, h]
  rfl

theorem observe_of_none (h : m.watch = none) : m.observe = m := by
  simp only [observe, h]

theorem observe_of_error (hw : m.watch = some w) {e : MonitorError}
    (hs : m.source.snapshot = (.error e, after)) : m.observe = m.withNetwork after := by
  simp only [observe, withNetwork, hw, hs]

theorem observe_of_ok (hw : m.watch = some w) {current : Snapshot}
    (hs : m.source.snapshot = (.ok current, after)) :
    m.observe.watch = some { w with
      previous := current
      pending := w.pending ++ w.previous.changes current } := by
  simp only [observe, hw, hs]

end Monitor

namespace WatchLoop

open Monitor (watch_endWatch watching_eq_false)

variable {σ : Type} {callback : Callback σ} {l : WatchLoop σ} {w : Watch} {r : Round}
  {rounds : List Round}

/-! ### Delivery -/

theorem heard_call (change : Change) : (l.call callback change).heard = l.heard ++ [change] := by
  simp [heard, call]

theorem watch_call_of_stopped {change : Change}
    (h : (callback l.listener change).2.stopped = true) :
    (l.call callback change).monitor.watch = none := by
  unfold call
  dsimp only
  rw [if_pos h]
  exact watch_endWatch _

theorem monitor_call {change : Change} (h : (callback l.listener change).2.stopped = false) :
    (l.call callback change).monitor = l.monitor := by
  unfold call
  dsimp only
  rw [h]
  rfl

theorem deliverFor_of_none (h : l.monitor.watch = none) (fuel : Nat) :
    l.deliverFor callback fuel = l := by
  cases fuel with
  | zero => rfl
  | succ fuel => simp only [deliverFor, Monitor.deliver?, h]

/-- A watch that is not stopped delivers all it has. -/
theorem deliverFor_of_watching : ∀ (changes : List Change) (l : WatchLoop σ),
    l.monitor.watch = some { w with pending := changes } →
    (l.deliverFor callback changes.length).monitor.watching = true →
    (l.deliverFor callback changes.length).monitor.watch = some { w with pending := [] } ∧
      (l.deliverFor callback changes.length).heard = l.heard ++ changes
  | [], l, hl, _ => ⟨hl, (List.append_nil _).symm⟩
  | change :: changes, l, hl, hwatching => by
    obtain ⟨rest, hrest, hstep⟩ : ∃ rest : WatchLoop σ,
        rest.monitor.watch = some { w with pending := changes } ∧ rest.heard = l.heard ∧
          l.deliverFor callback (change :: changes).length =
            (rest.call callback change).deliverFor callback changes.length :=
      ⟨{ l with monitor := { l.monitor with watch := some { w with pending := changes } } }, rfl,
        rfl, by simp only [List.length_cons, deliverFor, Monitor.deliver?, hl]⟩
    obtain ⟨hheard, hstep⟩ := hstep
    rw [hstep] at hwatching ⊢
    rcases hs : (callback rest.listener change).2.stopped with _ | _
    · have hwatch := (congrArg Monitor.watch (monitor_call hs)).trans hrest
      obtain ⟨hw, hall⟩ := deliverFor_of_watching changes _ hwatch hwatching
      refine ⟨hw, hall.trans ?_⟩
      rw [heard_call, hheard, List.append_assoc]
      rfl
    · have hnone := watch_call_of_stopped hs
      rw [deliverFor_of_none hnone, watching_eq_false hnone] at hwatching
      cases hwatching

/-! ### Rounds -/

/-- The same watch with another network. -/
def withNetwork (l : WatchLoop σ) (network : Source) : WatchLoop σ :=
  { l with monitor := l.monitor.withNetwork network }

/-- A watch that has ended stays so. -/
theorem watch_round_of_none (h : l.monitor.watch = none) :
    (l.round callback r).monitor.watch = none := by
  unfold round
  split_ifs
  · exact watch_endWatch _
  · have hnone : (l.monitor.withNetwork r.network).observe.watch = none := by
      rw [Monitor.observe_of_none (m := l.monitor.withNetwork r.network) h]
      exact h
    rw [deliver, deliverFor_of_none hnone]
    exact hnone

theorem watch_run_of_none (h : l.monitor.watch = none) :
    (l.run callback rounds).monitor.watch = none := by
  induction rounds generalizing l with
  | nil => exact h
  | cons r rounds ih => exact ih (watch_round_of_none h)

/-- A watch that goes on in the end has gone on all the time. -/
theorem watching_of_run (h : (l.run callback rounds).monitor.watching = true) :
    l.monitor.watching = true := by
  rcases hw : l.monitor.watch with _ | w
  · rw [watching_eq_false (watch_run_of_none hw)] at h
    cases h
  · rw [Monitor.watching, hw]
    rfl

theorem notMem_stop_of_watching (h : (l.round callback r).monitor.watching = true) :
    r.signals.contains .stop = false := by
  by_contra hstop
  rw [Bool.not_eq_false] at hstop
  rw [round, if_pos hstop, watching_eq_false (watch_endWatch _)] at h
  cases h

section Round

variable (hw : l.monitor.watch = some w) (hpending : w.pending = [])
  (hwatching : (l.round callback r).monitor.watching = true)
include hw hpending hwatching

/-- A snapshot that fails changes nothing. -/
theorem round_of_error {e : MonitorError} (hr : r.reading = .error e) :
    l.round callback r = l.withNetwork r.network.snapshot.2 := by
  have hsnap : (l.monitor.withNetwork r.network).source.snapshot =
      (.error e, r.network.snapshot.2) := Prod.ext hr rfl
  have hobserve := Monitor.observe_of_error (m := l.monitor.withNetwork r.network) hw hsnap
  rw [round, notMem_stop_of_watching hwatching, hobserve]
  change deliverFor callback ((l.monitor.watch.map (·.pending.length)).getD 0) _ = _
  rw [hw, Option.map_some, hpending]
  rfl

/-- After a snapshot that succeeds the listener has heard what has changed. -/
theorem round_of_ok {current : Snapshot} (hr : r.reading = .ok current) :
    (l.round callback r).monitor.watch = some { w with previous := current } ∧
      (l.round callback r).heard = l.heard ++ w.previous.changes current := by
  have hsnap : (l.monitor.withNetwork r.network).source.snapshot =
      (.ok current, r.network.snapshot.2) := Prod.ext hr rfl
  have hobserve := Monitor.observe_of_ok (m := l.monitor.withNetwork r.network) hw hsnap
  rw [hpending, List.nil_append] at hobserve
  have hround : l.round callback r = deliverFor callback (w.previous.changes current).length
      { l with monitor := (l.monitor.withNetwork r.network).observe } := by
    rw [round, notMem_stop_of_watching hwatching]
    simp only [Bool.false_eq_true, if_false, deliver, hobserve, Option.map_some, Option.getD_some]
  rw [hround] at hwatching ⊢
  obtain ⟨hwatch, hheard⟩ :=
    deliverFor_of_watching (w := { w with previous := current }) _ _ hobserve hwatching
  exact ⟨hwatch.trans (by rw [← hpending]), hheard⟩

end Round

/-! ### Runs -/

/-- **What a watch has heard** that is not stopped: the changes from each snapshot that succeeded to
the next. -/
theorem run_of_watching (hw : l.monitor.watch = some w) (hpending : w.pending = [])
    (hwatching : (l.run callback rounds).monitor.watching = true) :
    (l.run callback rounds).heard = l.heard ++ w.previous.history (readings rounds) := by
  induction rounds generalizing l w with
  | nil => exact (List.append_nil _).symm
  | cons r rounds ih =>
    have hround : (l.round callback r).monitor.watching = true := watching_of_run hwatching
    rcases hr : r.reading with e | current
    · have heq := round_of_error hw hpending hround hr
      have hwatch : (l.round callback r).monitor.watch = some w := heq ▸ hw
      have hheard : (l.round callback r).heard = l.heard := by rw [heq]; rfl
      rw [readings_cons_of_error hr, ← hheard]
      exact ih hwatch hpending hwatching
    · obtain ⟨hwatch, hheard⟩ := round_of_ok hw hpending hround hr
      rw [readings_cons_of_ok hr, Snapshot.history, ← List.append_assoc, ← hheard]
      exact ih hwatch hpending hwatching

/-- Without the snapshots that fail a watch goes on in the same way, whatever network it began
with. -/
theorem run_filter (hw : l.monitor.watch = some w) (hpending : w.pending = [])
    (hwatching : (l.run callback rounds).monitor.watching = true) (network : Source) :
    ∃ after, (l.withNetwork network).run callback (rounds.filter (·.reading.isOk)) =
      (l.run callback rounds).withNetwork after := by
  induction rounds generalizing l w network with
  | nil => exact ⟨network, rfl⟩
  | cons r rounds ih =>
    have hround : (l.round callback r).monitor.watching = true := watching_of_run hwatching
    rcases hr : r.reading with e | current
    · have hfilter : (r :: rounds).filter (·.reading.isOk) = rounds.filter (·.reading.isOk) := by
        simp [hr, Except.isOk, Except.toBool]
      have heq := round_of_error hw hpending hround hr
      have hwatch : (l.round callback r).monitor.watch = some w := heq ▸ hw
      have hsame : l.withNetwork network = (l.round callback r).withNetwork network := by
        rw [heq]
        rfl
      rw [hfilter, hsame]
      exact ih hwatch hpending hwatching network
    · have hfilter : (r :: rounds).filter (·.reading.isOk) =
          r :: rounds.filter (·.reading.isOk) := by
        simp [hr, Except.isOk, Except.toBool]
      obtain ⟨hwatch, -⟩ := round_of_ok hw hpending hround hr
      rw [hfilter]
      -- The round finds its own network, whatever there was before.
      exact ih hwatch hpending hwatching (l.round callback r).monitor.source

/-! ### Panics -/

/-- The same listener, but one that never panics. -/
def calm (callback : Callback σ) : Callback σ := fun state change =>
  ((callback state change).1, { (callback state change).2 with panicked := false })

/-- Forget which calls panicked. -/
def forget (l : WatchLoop σ) : WatchLoop σ :=
  { l with calls := l.calls.map fun (change, ret) => (change, { ret with panicked := false }) }

theorem heard_forget (l : WatchLoop σ) : l.forget.heard = l.heard := by
  simp [heard, forget, Function.comp_def]

theorem call_calm (change : Change) :
    l.forget.call (calm callback) change = (l.call callback change).forget := by
  unfold call forget calm
  dsimp only
  rw [List.map_append]
  rfl

theorem deliverFor_calm (fuel : Nat) :
    l.forget.deliverFor (calm callback) fuel = (l.deliverFor callback fuel).forget := by
  induction fuel generalizing l with
  | zero => rfl
  | succ fuel ih =>
    unfold deliverFor
    rcases hd : l.monitor.deliver? with _ | ⟨⟨id, change⟩, monitor⟩
    · have hd' : l.forget.monitor.deliver? = none := hd
      rw [hd']
    · have hd' : l.forget.monitor.deliver? = some ((id, change), monitor) := hd
      rw [hd']
      dsimp only
      rw [← ih, ← call_calm]
      rfl

theorem round_calm : l.forget.round (calm callback) r = (l.round callback r).forget := by
  unfold round
  split_ifs
  · rfl
  · exact deliverFor_calm (l := { l with monitor := (l.monitor.withNetwork r.network).observe }) _

/-- A listener that does not panic hears the same. -/
theorem run_calm : l.forget.run (calm callback) rounds = (l.run callback rounds).forget := by
  induction rounds generalizing l with
  | nil => rfl
  | cons r rounds ih =>
    change (l.forget.round (calm callback) r).run (calm callback) rounds = _
    rw [round_calm]
    exact ih

/-! ### What is heard -/

theorem run_append (before after : List Round) :
    l.run callback (before ++ after) = (l.run callback before).run callback after :=
  List.foldl_append

/-- **What is heard in one round** of the default route. -/
theorem exists_heard_round (hw : l.monitor.watch = some w) (hpending : w.pending = [])
    {before after : List Round}
    (hwatching : (l.run callback (before ++ r :: after)).monitor.watching = true) :
    ∃ new, (l.run callback (before ++ [r])).heard = (l.run callback before).heard ++ new ∧
      (l.run callback (before ++ [r])).heard <+: (l.run callback (before ++ r :: after)).heard ∧
      new.filter (·.kind = .rerouted) = match r.reading with
        | .ok current => Snapshot.routeChanges ((readings before).getLastD w.previous).route
            current.route
        | .error _ => [] := by
  have hsplit : before ++ r :: after = (before ++ [r]) ++ after := by simp
  have hupto : (l.run callback (before ++ [r])).monitor.watching = true := by
    rw [hsplit, run_append] at hwatching
    exact watching_of_run hwatching
  have hbefore : (l.run callback before).monitor.watching = true := by
    rw [run_append] at hupto
    exact watching_of_run hupto
  have hheard := run_of_watching hw hpending hbefore
  have hnew : (l.run callback (before ++ [r])).heard = (l.run callback before).heard ++
      ((readings before).getLastD w.previous).history (readings [r]) := by
    rw [run_of_watching hw hpending hupto, hheard, readings_append, Snapshot.history_append,
      List.append_assoc]
  refine ⟨_, hnew, ?_, ?_⟩
  · rw [run_of_watching hw hpending hupto, run_of_watching hw hpending hwatching, hsplit,
      readings_append _ after, Snapshot.history_append _ (readings (before ++ [r])),
      ← List.append_assoc]
    exact List.prefix_append _ _
  · rcases hr : r.reading with e | current
    · rw [readings_cons_of_error hr]
      rfl
    · have hone : readings [r] = [current] := readings_cons_of_ok hr
      rw [hone, Snapshot.history, Snapshot.history, List.append_nil]
      exact Snapshot.filter_rerouted_changes _ _

/-- A watch that has begun has the snapshot it began with, and nothing to deliver. -/
theorem exists_watch_of_start {m begun : Monitor} {id : Nat} (h : m.start = (.ok id, begun)) :
    ∃ w, begun.watch = some w ∧ w.pending = [] ∧ m.source.snapshot.1 = .ok w.previous := by
  unfold Monitor.start at h
  split_ifs at h
  · cases h
  rcases hs : m.source.snapshot with ⟨e | previous, source⟩
  · rw [hs] at h
    cases h
  · rw [hs] at h
    obtain ⟨-, rfl⟩ := Prod.mk.inj h
    exact ⟨_, rfl, rfl, rfl⟩

theorem forget_of_nil (h : l.calls = []) : l.forget = l := by
  obtain ⟨monitor, listener, calls⟩ := l
  cases h
  rfl

/-- **A watch misses nothing** while it is not stopped. What its listener has heard can be replayed
over the snapshot it began with and gives the last that succeeded; it hears of the default route
after those snapshots that have another one than the last that succeeded; and it hears the same
without the snapshots that fail, and if it does not panic. -/
theorem hears_everything {m : Monitor} {id : Nat} (hstart : m.start = (.ok id, l.monitor))
    (hnew : l.calls = []) (hwatching : (l.run callback rounds).monitor.watching = true) :
    ∃ baseline, m.source.snapshot.1 = .ok baseline ∧
      (∃ map, replay? (Snapshot.lastAt? baseline.interfaces) (l.run callback rounds).heard =
          some map ∧ ∀ index, SameEntry (map index)
            (Snapshot.lastAt? ((readings rounds).getLastD baseline).interfaces index)) ∧
      (∀ before r after, rounds = before ++ r :: after → ∃ new,
        (l.run callback (before ++ [r])).heard = (l.run callback before).heard ++ new ∧
          (l.run callback (before ++ [r])).heard <+: (l.run callback rounds).heard ∧
          new.filter (·.kind = .rerouted) = match r.reading with
            | .ok current =>
              if ((readings before).getLastD baseline).route = current.route then []
              else [.rerouted ((readings before).getLastD baseline).route current.route]
            | .error _ => []) ∧
      (l.run callback (rounds.filter (·.reading.isOk))).heard = (l.run callback rounds).heard ∧
      (l.run (calm callback) rounds).heard = (l.run callback rounds).heard := by
  obtain ⟨w, hw, hpending, hbaseline⟩ := exists_watch_of_start hstart
  have hheard : (l.run callback rounds).heard = w.previous.history (readings rounds) := by
    rw [run_of_watching hw hpending hwatching, heard, hnew]
    rfl
  refine ⟨w.previous, hbaseline, ?_, ?_, ?_, ?_⟩
  · rw [hheard]
    exact Snapshot.replay?_history _ _ fun index => .refl _
  · rintro before r after rfl
    exact exists_heard_round hw hpending hwatching
  · obtain ⟨after, hrun⟩ := run_filter hw hpending hwatching l.monitor.source
    have hsame := congrArg heard hrun
    exact hsame
  · have hcalm : (l.run (calm callback) rounds) = (l.run callback rounds).forget := by
      rw [← run_calm, forget_of_nil hnew]
    rw [hcalm, heard_forget]

/-- A card that reports its addresses in either order. -/
def card (turned : Bool) (status : Interface.Status) : Interface where
  index := 1
  name := "eth0"
  addresses := [.unspecified turned, .unspecified !turned]
  status := status

def tunnel : Interface := { index := 2, name := "tun0", status := .up, kind := .virtual }

/-- The watch of a network with only the card. Its listener counts what it hears. -/
def atCard : WatchLoop Nat where
  monitor := (Monitor.start { source := { interfaces := [card false .up] } }).2
  listener := 0

/-- The listener does not get over an interface that is added. -/
def panicky : Callback Nat := fun count change => (count + 1, { panicked := change.kind = .added })

/-- The addresses of the card turn round while the tunnel comes; the card goes down when the tunnel
leaves again. In between a snapshot fails. -/
def episode : List Round :=
  [{ signals := [.wake, .wake]
     network := { interfaces := [tunnel, card true .up], route := some ⟨2, "tun0"⟩ } },
   { signals := [.wake], network := { failure := some "transient" } },
   { network := { interfaces := [card false .down], route := some ⟨2, "tun0"⟩ } }]

theorem hears_everything_episode :
    (atCard.run panicky episode).monitor.watching = true ∧
      (atCard.run panicky episode).calls.map (·.2.panicked) = [true, false, false, false] ∧
      (atCard.run panicky episode).heard = [.added tunnel, .rerouted none (some ⟨2, "tun0"⟩),
        .removed tunnel, .modified (card true .up) (card false .down)] ∧
      ∃ map, replay? (Snapshot.lastAt? [card false .up]) (atCard.run panicky episode).heard =
        some map ∧ ∀ index, SameEntry (map index) (Snapshot.lastAt? [card false .down] index) := by
  have hwatching : (atCard.run panicky episode).monitor.watching = true := by rfl
  obtain ⟨baseline, hbaseline, hreplay, -⟩ :=
    hears_everything (m := { source := { interfaces := [card false .up] } }) rfl rfl hwatching
  cases hbaseline
  exact ⟨hwatching, by rfl, by rfl, hreplay⟩

end WatchLoop

end Dialer
