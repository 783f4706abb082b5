import Dialer.Proofs.Path.Tenancy
import Dialer.Store.Basic

/-!
# One watch at a time

A `Lookout` is a network with the monitors that share it, and a log of what has happened to their
watches. Callers begin and stop watches, stop whatever watch a monitor has, and drop monitors, from
outside or from inside a call of a listener; in between the network changes in any way, watches take
snapshots and listeners are called. The log alone says which watches are going on: those that have
begun and that nothing has stopped since (`Lookout.ongoing`).

* `Lookout.Sound`, `Lookout.Sound.step`: the monitors and the subscriptions agree with the log.
* `Lookout.start_of_tenant`, `Lookout.start_of_error`, `Lookout.exists_start_of_ok`: what becomes of
  a watch that is to begin.
-/

namespace Dialer

/-! ### Monitors that share a source -/

/-- A monitor without the source it reads. -/
structure Post where
  config : WatchSettings := {}
  watch : Option Watch := none
  nextId : Nat := 0
deriving DecidableEq

/-- The monitor that reads a source. -/
def Post.over (p : Post) (network : Source) : Monitor where
  source := network
  config := p.config
  watch := p.watch
  nextId := p.nextId

/-- The watch that is active, and its subscription. -/
def Post.tenant? (p : Post) : Option (Nat × Option Nat) :=
  p.watch.map fun w => (w.id, w.subscription)

/-- What a monitor is without its source. -/
def Monitor.post (m : Monitor) : Post where
  config := m.config
  watch := m.watch
  nextId := m.nextId

namespace Lookout

/-- Something that has happened to a watch, or to one that was to begin. -/
inductive Entry
  /-- The watch has begun, with a subscription or without. -/
  | begun (w : WatchRef) (subscription : Option Nat)
  | refused (place : Nat) (error : MonitorError)
  /-- The watch was stopped through its watcher. -/
  | stopped (w : WatchRef)
  /-- Whatever watch a monitor had was stopped. -/
  | cleared (place : Nat)
  /-- The listener of the watch was called. -/
  | heard (w : WatchRef) (change : Change)
deriving DecidableEq

/-- What a caller wants. -/
inductive Request
  | start (place : Nat)
  /-- Stop a watch through its watcher, or let go of the watcher. -/
  | stop (w : WatchRef)
  /-- Stop whatever watch a monitor has. -/
  | clear (place : Nat)
  /-- Drop a monitor. -/
  | drop (place : Nat)
deriving DecidableEq

/-- Where a caller is. -/
inductive Caller
  | outside
  /-- Inside a call of the listener of a watch. -/
  | inside (w : WatchRef)
deriving DecidableEq

/-- One thing that happens. What is impossible does nothing. -/
inductive Event
  | call (caller : Caller) (request : Request)
  /-- The network becomes another one, and may fail or not tell of changes any more; subscriptions
  stay. -/
  | network (next : Source)
  /-- The watch on a monitor takes a snapshot, when its listener has heard of the last one. -/
  | observe (place : Nat)
  /-- The listener of the watch on a monitor is called with the next change. -/
  | deliver (place : Nat)
  /-- The listener of a watch returns. -/
  | returned (w : WatchRef)
deriving DecidableEq

end Lookout

/-- **A network with the monitors that share it.** -/
structure Lookout where
  network : Source
  posts : List Post
  /-- The places of the monitors that were dropped. -/
  dropped : List Nat := []
  /-- The watches whose listeners are being called. -/
  calling : List WatchRef := []
  /-- What has happened, last first. -/
  log : List Lookout.Entry := []
deriving DecidableEq

namespace Lookout

/-- A network no one has subscribed to, with monitors that do not watch it yet. -/
def opened (network : Source) (settings : List WatchSettings) : Lookout where
  network := { network with subscriptions := [] }
  posts := settings.map fun config => { config }

/-! ### What happens -/

/-- The monitor at a place. -/
def monitor? (s : Lookout) (place : Nat) : Option Monitor :=
  s.posts[place]?.map (·.over s.network)

/-- The monitor at a place, if it was not dropped. -/
def usable? (s : Lookout) (place : Nat) : Option Monitor :=
  if place ∈ s.dropped then none else s.monitor? place

/-- Whether a watch is active. -/
def active (s : Lookout) (w : WatchRef) : Bool := (s.monitor? w.monitor).any (·.active w.watch)

/-- The lookout after something has happened to the monitor at a place. -/
def put (s : Lookout) (place : Nat) (m : Monitor) : Lookout :=
  { s with network := m.source, posts := s.posts.set place m.post }

/-- Write something down. -/
def note (s : Lookout) (e : Entry) : Lookout := { s with log := e :: s.log }

/-- The watches that have begun, according to a log. -/
def begun : List Entry → List WatchRef
  | [] => []
  | .begun w _ :: log => w :: begun log
  | _ :: log => begun log

/-- **The watches that are going on,** according to a log, with their subscriptions. -/
def ongoing : List Entry → List (WatchRef × Option Nat)
  | [] => []
  | .begun w subscription :: log => (w, subscription) :: ongoing log
  | .stopped w :: log => (ongoing log).filter (·.1 ≠ w)
  | .cleared place :: log => (ongoing log).filter (·.1.monitor ≠ place)
  | _ :: log => ongoing log

/-- What the listener of a watch was called with, last first. -/
def heardBy (s : Lookout) (w : WatchRef) : List Change :=
  s.log.filterMap fun
    | .heard v change => if v = w then some change else none
    | _ => none

/-- Begin a watch. -/
def start (s : Lookout) (place : Nat) : Lookout :=
  match s.usable? place with
  | none => s
  | some m =>
    match m.start with
    | (.error e, m) => (s.put place m).note (.refused place e)
    | (.ok watch, m) => (s.put place m).note (.begun ⟨place, watch⟩ (m.tenant?.bind Prod.snd))

/-- Stop a watch that has begun. -/
def stop (s : Lookout) (w : WatchRef) : Lookout :=
  match s.monitor? w.monitor with
  | none => s
  | some m =>
    if w ∈ begun s.log then (s.put w.monitor (m.stop w.watch)).note (.stopped w) else s

/-- Stop the watch on a monitor. -/
def clear (s : Lookout) (place : Nat) : Lookout :=
  match s.usable? place with
  | none => s
  | some m => (s.put place m.endWatch).note (.cleared place)

/-- Do what a caller wants. -/
def perform (s : Lookout) : Request → Lookout
  | .start place => s.start place
  | .stop w => s.stop w
  | .clear place => s.clear place
  | .drop place => { s.clear place with dropped := place :: s.dropped }

/-- Whether there is such a caller. -/
def hasCaller (s : Lookout) : Caller → Bool
  | .outside => true
  | .inside w => w ∈ s.calling

/-- Whether a watch is through with what it has found. -/
def waiting (s : Lookout) (place : Nat) (w : Watch) : Bool :=
  w.pending.isEmpty && ⟨place, w.id⟩ ∉ s.calling

/-- Let the watch on a monitor take a snapshot. -/
def observe (s : Lookout) (place : Nat) : Lookout :=
  match s.monitor? place with
  | none => s
  | some m => if m.watch.any (s.waiting place) then s.put place m.observe else s

/-- Call the listener of the watch on a monitor with the next change. -/
def deliver (s : Lookout) (place : Nat) : Lookout :=
  match (s.monitor? place).bind (·.deliver?) with
  | none => s
  | some ((watch, change), m) =>
    if ⟨place, watch⟩ ∈ s.calling then s
    else
      { (s.put place m).note (.heard ⟨place, watch⟩ change) with
        calling := ⟨place, watch⟩ :: s.calling }

/-- **One event.** -/
def step (s : Lookout) : Event → Lookout
  | .call caller request => if s.hasCaller caller then s.perform request else s
  | .network next => { s with network := s.network.become next }
  | .observe place => s.observe place
  | .deliver place => s.deliver place
  | .returned w => { s with calling := s.calling.filter (· ≠ w) }

/-- Events in order. -/
def run (s : Lookout) (events : List Event) : Lookout := events.foldl step s

variable {s t : Lookout} {m after : Monitor} {place : Nat} {v w : WatchRef} {e : Entry}

/-! ### Tenants -/

/-- The watch that is active at a place, and its subscription. -/
def tenant? (s : Lookout) (place : Nat) : Option (Nat × Option Nat) :=
  s.posts[place]?.bind (·.tenant?)

/-- The number of the next watch at a place. -/
def nextId (s : Lookout) (place : Nat) : Nat := (s.posts[place]?.map (·.nextId)).getD 0

theorem lt_length_of_monitor? (hm : s.monitor? place = some m) : place < s.posts.length := by
  obtain ⟨p, hp, -⟩ := Option.map_eq_some_iff.mp hm
  exact (List.getElem?_eq_some_iff.mp hp).1

theorem tenant?_of_monitor? (hm : s.monitor? place = some m) : s.tenant? place = m.tenant? := by
  obtain ⟨p, hp, rfl⟩ := Option.map_eq_some_iff.mp hm
  rw [tenant?, hp]
  rfl

theorem nextId_of_monitor? (hm : s.monitor? place = some m) : s.nextId place = m.nextId := by
  obtain ⟨p, hp, rfl⟩ := Option.map_eq_some_iff.mp hm
  rw [nextId, hp]
  rfl

theorem source_of_monitor? (hm : s.monitor? place = some m) : m.source = s.network := by
  obtain ⟨p, -, rfl⟩ := Option.map_eq_some_iff.mp hm
  rfl

theorem monitor?_of_usable? (hm : s.usable? place = some m) : s.monitor? place = some m := by
  unfold usable? at hm
  split at hm
  · cases hm
  · exact hm

theorem active_iff_tenant? :
    s.active w = true ↔ ∃ n, s.tenant? w.monitor = some (w.watch, n) := by
  rcases hm : s.monitor? w.monitor with _ | m
  · have hp : s.posts[w.monitor]? = none := Option.map_eq_none_iff.mp hm
    simp [active, hm, tenant?, hp]
  · rw [active, hm, tenant?_of_monitor? hm]
    exact Monitor.active_iff

theorem put_self (hm : s.monitor? place = some m) : s.put place m = s := by
  obtain ⟨p, hp, rfl⟩ := Option.map_eq_some_iff.mp hm
  obtain ⟨hlt, rfl⟩ := List.getElem?_eq_some_iff.mp hp
  have hset : s.posts.set place (s.posts[place].over s.network).post = s.posts :=
    List.set_getElem_self hlt
  rw [put, hset]
  rfl

theorem tenant?_put (hm : s.monitor? place = some m) (q : Nat) :
    (s.put place after).tenant? q = if q = place then after.tenant? else s.tenant? q := by
  rw [tenant?, put, List.getElem?_set]
  by_cases hq : q = place
  · subst hq
    simp [lt_length_of_monitor? hm]
    rfl
  · simp [hq, Ne.symm hq, tenant?]

theorem nextId_put (hm : s.monitor? place = some m) (q : Nat) :
    (s.put place after).nextId q = if q = place then after.nextId else s.nextId q := by
  rw [nextId, put, List.getElem?_set]
  by_cases hq : q = place
  · subst hq
    simp [lt_length_of_monitor? hm]
    rfl
  · simp [hq, Ne.symm hq, nextId]

/-! ### Logs -/

/-- An entry that makes no difference to which watches are going on. -/
def Quiet (e : Entry) : Prop :=
  ∀ log, ongoing (e :: log) = ongoing log ∧ begun (e :: log) = begun log

/-! ### The monitors agree with the log -/

/-- **The monitors and the subscriptions of a network are as the log says.** -/
structure Sound (s : Lookout) : Prop where
  /-- The watches that are active are going on. -/
  mem_ongoing : ∀ w n, (w, n) ∈ ongoing s.log ↔ s.tenant? w.monitor = some (w.watch, n)
  /-- At most one watch is going on at a place. -/
  places : ((ongoing s.log).map (·.1.monitor)).Nodup
  /-- The live subscriptions are those of the watches that are going on. -/
  subscriptions : s.network.subscriptions = ((ongoing s.log).filterMap Prod.snd).reverse
  numbers : ∀ x ∈ ongoing s.log, ∀ y ∈ ongoing s.log, ∀ n, x.2 = some n → y.2 = some n → x = y
  numbers_lt : ∀ x ∈ ongoing s.log, ∀ n, x.2 = some n → n < s.network.nextSubscription
  begun_lt : ∀ w ∈ begun s.log, w.watch < s.nextId w.monitor

theorem sound_opened (network : Source) (settings : List WatchSettings) :
    (opened network settings).Sound where
  mem_ongoing w n := by
    have hnone : (opened network settings).tenant? w.monitor = none := by
      rw [tenant?, opened, List.getElem?_map]
      cases settings[w.monitor]? <;> rfl
    rw [hnone]
    simp [opened, ongoing]
  places := .nil
  subscriptions := rfl
  numbers x hx := nomatch hx
  numbers_lt x hx := nomatch hx
  begun_lt w hw := nomatch hw

namespace Sound

variable (h : s.Sound)
include h

theorem eq_of_monitor_eq {x y : WatchRef × Option Nat} (hx : x ∈ ongoing s.log)
    (hy : y ∈ ongoing s.log) (hxy : x.1.monitor = y.1.monitor) : x = y :=
  List.inj_on_of_nodup_map h.places hx hy hxy

theorem active_iff : s.active w = true ↔ ∃ n, (w, n) ∈ ongoing s.log := by
  simp only [active_iff_tenant?, h.mem_ongoing]

/-- What changes neither tenants nor subscriptions keeps everything in agreement. -/
theorem of_same (htenant : ∀ q, t.tenant? q = s.tenant? q) (hnext : ∀ q, t.nextId q = s.nextId q)
    (hsubs : t.network.subscriptions = s.network.subscriptions)
    (hnumber : t.network.nextSubscription = s.network.nextSubscription)
    (hongoing : ongoing t.log = ongoing s.log) (hbegun : begun t.log = begun s.log) : t.Sound where
  mem_ongoing w n := by rw [hongoing, htenant, h.mem_ongoing]
  places := hongoing ▸ h.places
  subscriptions := by rw [hongoing, hsubs, h.subscriptions]
  numbers := hongoing ▸ h.numbers
  numbers_lt := by rw [hongoing, hnumber]; exact h.numbers_lt
  begun_lt w hw := by rw [hnext]; exact h.begun_lt w (hbegun ▸ hw)

theorem put_of_same (hm : s.monitor? place = some m) (hsame : after.SameTenant m) :
    (s.put place after).Sound := by
  have hsource := source_of_monitor? hm ▸ hsame.source
  refine h.of_same (fun q => ?_) (fun q => ?_) hsource.subscriptions hsource.nextSubscription
    rfl rfl
  · rw [tenant?_put hm, hsame.tenant, ← tenant?_of_monitor? hm]
    split <;> simp [*]
  · rw [nextId_put hm, hsame.nextId, ← nextId_of_monitor? hm]
    split <;> simp [*]

theorem note_of_quiet (hquiet : Quiet e) : (s.note e).Sound :=
  h.of_same (fun _ => rfl) (fun _ => rfl) rfl rfl (hquiet _).1 (hquiet _).2

/-- The other watches at a place are none at all. -/
theorem filter_place_of_vacant (hm : s.monitor? place = some m) (hfree : m.tenant? = none) :
    (ongoing s.log).filter (·.1.monitor ≠ place) = ongoing s.log := by
  refine List.filter_eq_self.mpr fun x hx => ?_
  have hx : s.tenant? x.1.monitor = some (x.1.watch, x.2) := (h.mem_ongoing x.1 x.2).mp hx
  refine decide_eq_true fun hplace => ?_
  rw [hplace, tenant?_of_monitor? hm, hfree] at hx
  cases hx

/-- Where a watch is going on, the others at its place are those that are not it. -/
theorem filter_watch (hw : s.active w = true) :
    (ongoing s.log).filter (·.1 ≠ w) = (ongoing s.log).filter (·.1.monitor ≠ w.monitor) := by
  obtain ⟨n, hn⟩ := h.active_iff.mp hw
  refine List.filter_congr fun x hx => decide_eq_decide.mpr (not_congr ⟨fun hx => by rw [hx], ?_⟩)
  intro hplace
  rw [h.eq_of_monitor_eq hx hn hplace]

theorem filter_watch_of_not_active (hw : s.active w = false) :
    (ongoing s.log).filter (·.1 ≠ w) = ongoing s.log := by
  refine List.filter_eq_self.mpr fun x hx => decide_eq_true ?_
  rintro rfl
  rw [h.active_iff.mpr ⟨_, hx⟩] at hw
  cases hw

/-- Without the watch at a place its subscription is left out. -/
theorem filterMap_filter_place {n : Option Nat} (hw : (w, n) ∈ ongoing s.log) :
    ((ongoing s.log).filter (·.1.monitor ≠ w.monitor)).filterMap Prod.snd =
      ((ongoing s.log).filterMap Prod.snd).filter fun k => n ≠ some k := by
  rw [List.filterMap_filter, List.filter_filterMap]
  refine List.filterMap_congr fun x hx => ?_
  rcases hk : x.2 with _ | k
  · simp
  by_cases hplace : x.1.monitor = w.monitor
  · have hxw := h.eq_of_monitor_eq hx hw hplace
    subst hxw
    obtain rfl : n = some k := hk
    simp [Option.filter]
  · have hn : n ≠ some k := fun hn => hplace (congrArg (·.1.monitor) (h.numbers x hx _ hw k hk hn))
    simp [hplace, hn, Option.filter]

/-- **A watch ends,** whichever is going on at a place. -/
theorem end_at (hm : s.monitor? place = some m)
    (hongoing : ongoing (e :: s.log) = (ongoing s.log).filter (·.1.monitor ≠ place))
    (hbegun : begun (e :: s.log) = begun s.log) : ((s.put place m.endWatch).note e).Sound := by
  have hsub : ∀ x ∈ ongoing (e :: s.log), x ∈ ongoing s.log := by
    rw [hongoing]
    exact fun x => List.mem_of_mem_filter
  constructor
  case mem_ongoing =>
    intro w n
    change (w, n) ∈ ongoing (e :: s.log) ↔ (s.put place m.endWatch).tenant? w.monitor = _
    rw [hongoing, tenant?_put hm, List.mem_filter, h.mem_ongoing, Monitor.tenant?_endWatch]
    split <;> simp [*]
  case places =>
    change ((ongoing (e :: s.log)).map (·.1.monitor)).Nodup
    rw [hongoing]
    exact h.places.sublist (List.filter_sublist.map _)
  case subscriptions =>
    change m.endWatch.source.subscriptions = ((ongoing (e :: s.log)).filterMap Prod.snd).reverse
    rw [hongoing]
    rcases ht : m.tenant? with _ | ⟨id, n⟩
    · rw [h.filter_place_of_vacant hm ht, Monitor.endWatch_of_tenant?_eq_none ht,
        source_of_monitor? hm, h.subscriptions]
    · have hw : ((⟨place, id⟩ : WatchRef), n) ∈ ongoing s.log :=
        (h.mem_ongoing _ _).mpr ((tenant?_of_monitor? hm).trans ht)
      rw [h.filterMap_filter_place hw, Monitor.subscriptions_endWatch ht, source_of_monitor? hm,
        h.subscriptions, List.filter_reverse]
  case numbers => exact fun x hx y hy => h.numbers x (hsub x hx) y (hsub y hy)
  case numbers_lt =>
    change ∀ x ∈ ongoing (e :: s.log), ∀ n, x.2 = some n → n < m.endWatch.source.nextSubscription
    rw [Monitor.nextSubscription_endWatch, source_of_monitor? hm]
    exact fun x hx => h.numbers_lt x (hsub x hx)
  case begun_lt =>
    change ∀ w ∈ begun (e :: s.log), w.watch < (s.put place m.endWatch).nextId w.monitor
    rw [hbegun]
    intro w hw
    rw [nextId_put hm, Monitor.nextId_endWatch, ← nextId_of_monitor? hm]
    split
    · rename_i hplace
      exact hplace ▸ h.begun_lt w hw
    · exact h.begun_lt w hw

/-- Where no watch is going on, the log has none. -/
theorem notMem_place_of_vacant (hm : s.monitor? place = some m) (hfree : m.tenant? = none) :
    ∀ x ∈ ongoing s.log, x.1.monitor ≠ place := by
  rw [← h.filter_place_of_vacant hm hfree]
  exact fun x hx => of_decide_eq_true (List.mem_filter.mp hx).2

/-- A subscription that is new is none of those of the watches that are going on. -/
theorem ne_of_nextSubscription {n : Option Nat}
    (hn : ∀ k, n = some k → k = s.network.nextSubscription) {x : WatchRef × Option Nat}
    (hx : x ∈ ongoing s.log) {k : Nat} (hk : x.2 = some k) : n ≠ some k := fun hnk => by
  have hlt := h.numbers_lt x hx k hk
  rw [hn k hnk] at hlt
  exact Nat.lt_irrefl _ hlt

/-- **A watch begins** where none is going on. -/
theorem begin_at (hm : s.monitor? place = some m) (hfree : m.tenant? = none) {n : Option Nat}
    (htenant : after.tenant? = some (m.nextId, n)) (hnext : after.nextId = m.nextId + 1)
    (hsubs : after.source.subscriptions = m.source.subscriptions ++ n.toList)
    (hn : ∀ k, n = some k → k = m.source.nextSubscription)
    (hcount : after.source.nextSubscription = m.source.nextSubscription + n.toList.length) :
    ((s.put place after).note (.begun ⟨place, m.nextId⟩ n)).Sound := by
  have hvacant := h.notMem_place_of_vacant hm hfree
  rw [source_of_monitor? hm] at hsubs hn hcount
  constructor
  case mem_ongoing =>
    intro w k
    change (w, k) ∈ (⟨place, m.nextId⟩, n) :: ongoing s.log ↔
      (s.put place after).tenant? w.monitor = _
    rw [tenant?_put hm, List.mem_cons, htenant]
    by_cases hplace : w.monitor = place
    · rw [if_pos hplace]
      have hout : (w, k) ∉ ongoing s.log := fun hw => hvacant _ hw hplace
      obtain ⟨p, id⟩ := w
      obtain rfl : p = place := hplace
      simp [hout, eq_comm]
    · rw [if_neg hplace, h.mem_ongoing]
      have hne : (w, k) ≠ (⟨place, m.nextId⟩, n) := fun heq =>
        hplace (congrArg (·.1.monitor) heq)
      simp [hne]
  case places =>
    refine List.nodup_cons.mpr ⟨fun hmem => ?_, h.places⟩
    obtain ⟨x, hx, hplace⟩ := List.mem_map.mp hmem
    exact hvacant x hx hplace
  case subscriptions =>
    change after.source.subscriptions = _
    rw [hsubs, h.subscriptions]
    cases n <;> simp [note, put, ongoing]
  case numbers =>
    rintro x hx y hy k hxk hyk
    rcases List.mem_cons.mp hx with rfl | hx <;> rcases List.mem_cons.mp hy with rfl | hy
    · rfl
    · exact absurd hxk (h.ne_of_nextSubscription hn hy hyk)
    · exact absurd hyk (h.ne_of_nextSubscription hn hx hxk)
    · exact h.numbers x hx y hy k hxk hyk
  case numbers_lt =>
    intro x hx k hk
    change k < after.source.nextSubscription
    rw [hcount]
    rcases List.mem_cons.mp hx with rfl | hx
    · obtain rfl : n = some k := hk
      rw [← hn k rfl]
      exact Nat.lt_succ_self k
    · exact Nat.lt_add_right _ (h.numbers_lt x hx k hk)
  case begun_lt =>
    intro w hw
    change w.watch < (s.put place after).nextId w.monitor
    rw [nextId_put hm, hnext]
    rcases List.mem_cons.mp hw with rfl | hw
    · rw [if_pos rfl]
      exact Nat.lt_succ_self _
    · have hlt := h.begun_lt w hw
      split
      · rename_i hplace
        rw [hplace, nextId_of_monitor? hm] at hlt
        omega
      · exact hlt

end Sound

/-! ### What becomes of calls -/

/-- No other watch begins while one is active. -/
theorem start_of_tenant (hm : s.usable? place = some m) (ht : m.tenant?.isSome = true) :
    s.start place = s.note (.refused place .alreadyWatching) := by
  simp only [start, hm, Monitor.start_of_tenant ht]
  rw [put_self (monitor?_of_usable? hm)]

/-- A watch that cannot take its first snapshot leaves nothing behind. -/
theorem start_of_error (hm : s.usable? place = some m) (ht : m.tenant? = none)
    {error : MonitorError} {network : Source} (hs : s.network.snapshot = (.error error, network)) :
    s.start place = { s with network }.note (.refused place error) := by
  have hmonitor := monitor?_of_usable? hm
  rw [← source_of_monitor? hmonitor] at hs
  simp only [start, hm, Monitor.start_of_error ht hs]
  change ({ s.put place m with network } : Lookout).note _ = _
  rw [put_self hmonitor]

/-- Otherwise a new watch begins. -/
theorem exists_start_of_ok (hm : s.usable? place = some m) (ht : m.tenant? = none)
    {baseline : Snapshot} {network : Source} (hs : s.network.snapshot = (.ok baseline, network)) :
    ∃ begun n, s.start place = (s.put place begun).note (.begun ⟨place, m.nextId⟩ n) ∧
      begun.SameManner m ∧ begun.tenant? = some (m.nextId, n) ∧ begun.nextId = m.nextId + 1 ∧
      begun.source.subscriptions = s.network.subscriptions ++ n.toList ∧
      n = (if m.config.notifications && network.tells then some s.network.nextSubscription
        else none) ∧
      begun.source.nextSubscription = s.network.nextSubscription + n.toList.length := by
  have hmonitor := monitor?_of_usable? hm
  rw [← source_of_monitor? hmonitor] at hs ⊢
  obtain ⟨begun, n, hstart, htenant, hrest⟩ := Monitor.exists_start_of_ok ht hs
  have hmanner := m.sameManner_start
  rw [hstart] at hmanner
  refine ⟨begun, n, ?_, hmanner, htenant, hrest⟩
  simp only [start, hm, hstart, htenant, Option.bind_some]

/-- To stop a watch that is not active only leaves a note. -/
theorem stop_of_not_active (hw : s.active w = false) (hbegun : w ∈ begun s.log)
    (hm : s.monitor? w.monitor = some m) : s.stop w = s.note (.stopped w) := by
  have hm' : m.active w.watch = false := by rwa [active, hm] at hw
  simp only [stop, hm, if_pos hbegun, Monitor.stop_of_not_active hm', put_self hm]

namespace Sound

variable (h : s.Sound)
include h

theorem start (place : Nat) : (s.start place).Sound := by
  rcases hm : s.usable? place with _ | m
  · simpa only [Lookout.start, hm] using h
  have hmonitor := monitor?_of_usable? hm
  rcases ht : m.tenant? with _ | tenant
  · rcases hs : s.network.snapshot with ⟨error | baseline, network⟩
    · rw [start_of_error hm ht hs]
      have hsame := Source.sameSubscriptions_of_snapshot hs
      exact h.of_same (fun _ => rfl) (fun _ => rfl) hsame.subscriptions hsame.nextSubscription
        rfl rfl
    · obtain ⟨begun, n, hstart, -, htenant, hnext, hsubs, hn, hcount⟩ := exists_start_of_ok hm ht hs
      rw [← source_of_monitor? hmonitor] at hsubs hn hcount
      rw [hstart]
      refine h.begin_at hmonitor ht htenant hnext hsubs (fun k hk => ?_) hcount
      rw [hn] at hk
      split at hk <;> cases hk
      rfl
  · rw [start_of_tenant hm (ht ▸ rfl)]
    exact h.note_of_quiet fun _ => ⟨rfl, rfl⟩

theorem stop (w : WatchRef) : (s.stop w).Sound := by
  unfold Lookout.stop
  split
  · exact h
  · rename_i m hm
    split
    · rename_i hbegun
      rcases hw : s.active w with _ | _
      · have hstop := stop_of_not_active hw hbegun hm
        simp only [Lookout.stop, hm, if_pos hbegun] at hstop
        rw [hstop]
        exact h.of_same (fun _ => rfl) (fun _ => rfl) rfl rfl (h.filter_watch_of_not_active hw) rfl
      · have hm' : m.active w.watch = true := by rwa [active, hm] at hw
        rw [Monitor.stop, if_pos hm']
        exact h.end_at hm (h.filter_watch hw) rfl
    · exact h

theorem clear (place : Nat) : (s.clear place).Sound := by
  unfold Lookout.clear
  split
  · exact h
  · rename_i m hm
    exact h.end_at (monitor?_of_usable? hm) rfl rfl

theorem perform (request : Request) : (s.perform request).Sound := by
  cases request with
  | start place => exact h.start place
  | stop w => exact h.stop w
  | clear place => exact h.clear place
  | drop place =>
    exact (h.clear place).of_same (fun _ => rfl) (fun _ => rfl) rfl rfl rfl rfl

theorem observe (place : Nat) : (s.observe place).Sound := by
  unfold Lookout.observe
  split
  · exact h
  · rename_i m hm
    split
    · exact h.put_of_same hm (Monitor.sameTenant_observe m)
    · exact h

theorem deliver (place : Nat) : (s.deliver place).Sound := by
  unfold Lookout.deliver
  split
  · exact h
  · rename_i watch change after hd
    obtain ⟨m, hm, hd⟩ := Option.bind_eq_some_iff.mp hd
    split
    · exact h
    · have hput := h.put_of_same hm (Monitor.sameTenant_of_deliver? hd).1
      exact hput.of_same (fun _ => rfl) (fun _ => rfl) rfl rfl rfl rfl

/-- **Every event keeps the monitors and the log in agreement.** -/
theorem step (event : Event) : (s.step event).Sound := by
  cases event with
  | call caller request =>
    change (if s.hasCaller caller then s.perform request else s).Sound
    split
    · exact h.perform request
    · exact h
  | network next => exact h.of_same (fun _ => rfl) (fun _ => rfl) rfl rfl rfl rfl
  | observe place => exact h.observe place
  | deliver place => exact h.deliver place
  | returned w => exact h.of_same (fun _ => rfl) (fun _ => rfl) rfl rfl rfl rfl

theorem run (events : List Event) : (s.run events).Sound := by
  induction events generalizing s with
  | nil => exact h
  | cons event events ih => exact ih (h.step event)

end Sound

end Lookout

end Dialer
