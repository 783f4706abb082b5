import Dialer.Proofs.Store.Acceptance
import Dialer.Proofs.Store.Roster

/-!
# Watches that are ended from outside

A watch can be reached through two handles, that of its monitor and that of its watcher. A `Vigil` is
a store in use with a log of what callbacks were called with. Calls come from anywhere, also from
inside a callback; in between networks change, watches take snapshots and callbacks are called.

* `Vigil.silent_of_notMem`: nothing is heard from a monitor whose handle has gone.
* `Vigil.farewell_run`: what callers can rely on when they destroy a monitor or release everything.
-/

namespace Dialer

namespace Store

/-- One thing that happens to a store in use. -/
inductive Happening
  | call (around : Surroundings) (call : Call)
  /-- Someone else makes a call. -/
  | callElsewhere (around : Surroundings) (call : Call)
  /-- The network that the monitor at a place reads becomes another one. -/
  | network (place : Nat) (next : Source)
  /-- The watch on the monitor at a place takes a snapshot. -/
  | observe (place : Nat)
  /-- The callback of the watch on the monitor at a place is called with the next change. -/
  | deliver (place : Nat)
  /-- Something happens to the connection at a place. -/
  | peer (place : Nat) (change : StreamConnection → StreamConnection)

namespace Happening

/-- What happens to the store. -/
def event : Happening → Event
  | call around c => .call around c
  | callElsewhere around c => .callElsewhere around c
  | network place next => .network place fun m => { m with source := m.source.become next }
  | observe place => .network place (·.observe)
  | deliver place => .network place fun m => (m.deliver?.map Prod.snd).getD m
  | peer place change => .peer place change

/-- The call that is made, if one is. -/
def call? (e : Happening) : Option Call := e.event.call?

/-- What a callback is called with, if one is. -/
def heard? (r : Store) : Happening → Option (WatchRef × ChangeView)
  | deliver place => (r.deliver? place).map Prod.fst
  | _ => none

/-- A monitor that is entered has its source for itself. -/
def Tidy (e : Happening) : Prop := ∀ m ∈ (e.call?.bind fun
  | .enterMonitor m => some m
  | _ => none), m.Kept

instance (e : Happening) : Decidable e.Tidy := inferInstanceAs (Decidable (∀ m ∈ _, _))

/-- Whether the handle of a watch is released. -/
def releases (e : Happening) (u : Handle) : Bool :=
  e.call?.any fun c => c.watcherDeed.releases u

theorem releases_deed (e : Happening) (r : Store) (u : Handle) :
    (e.event.deed r .watcher).releases u = e.releases u := by
  rw [releases, call?, Event.deed]
  cases e.event.call? <;> rfl

end Happening

theorem undergo_deliver {r r' : Store} {place : Nat} {x : WatchRef × ChangeView}
    (hd : r.deliver? place = some (x, r')) :
    (r.undergo (Happening.deliver place).event).2 = r' := by
  simp only [deliver?, Option.bind_eq_bind, Option.bind_eq_some_iff] at hd
  obtain ⟨m, hm, ⟨⟨id, change⟩, after⟩, hafter, heq⟩ := hd
  cases heq
  refine onMonitor_congr fun m' hm' => ?_
  rw [hm] at hm'
  cases hm'
  rw [hafter]
  rfl

theorem deliver?_of_idle {r : Store} {place : Nat} {m : Monitor}
    (hm : r.allMonitors[place]? = some m) (hidle : m.Idle) : r.deliver? place = none := by
  have hnone : m.deliver? = none := by rw [Monitor.deliver?, hidle.watch]
  simp [deliver?, hm, hnone]

theorem monitor_of_heard? {r : Store} {e : Happening} {x : WatchRef × ChangeView}
    (hx : e.heard? r = some x) : ∃ place, e = .deliver place ∧ x.1.monitor = place := by
  cases e with
  | deliver place =>
    obtain ⟨⟨x, r'⟩, hd, rfl⟩ := Option.map_eq_some_iff.mp hx
    simp only [deliver?, Option.bind_eq_bind, Option.bind_eq_some_iff] at hd
    obtain ⟨m, -, ⟨⟨id, change⟩, after⟩, -, heq⟩ := hd
    cases heq
    exact ⟨place, rfl, rfl⟩
  | _ => cases hx

end Store

/-- **A store in use,** with a log. -/
structure Vigil extends Custody where
  /-- What callbacks were called with, last first. -/
  heard : List (WatchRef × ChangeView) := []
  /-- The handles that were given out for watches, last first. -/
  given : List Handle := []

namespace Vigil

variable {v : Vigil} {e : Store.Happening} {place : Nat} {u h : Handle} {w : WatchRef}

open Store (Happening)

/-- The handle that is given out for a watch, if one is. -/
def gives? (v : Vigil) (e : Happening) : Option Handle :=
  (e.event.deed v.store .watcher).product? (v.store.undergo e.event).1

/-- **One happening.** -/
def step (v : Vigil) (e : Happening) : Vigil :=
  if e.Tidy then
    { v.toCustody.step e.event with
      heard := (e.heard? v.store).toList ++ v.heard
      given := (v.gives? e).toList ++ v.given }
  else v

/-- Happenings in order. -/
def run (v : Vigil) (later : List Happening) : Vigil := later.foldl step v

/-- What callbacks were called with by the watches on a monitor. -/
def heardFrom (v : Vigil) (place : Nat) : List (WatchRef × ChangeView) :=
  v.heard.filter (·.1.monitor = place)

/-- The books of a store are right, and its monitors are tended. -/
structure Right (v : Vigil) : Prop where
  custody : v.toCustody.Right
  tended : v.store.roster.Tended

theorem right_empty : Right {} where
  custody := Custody.right_empty
  tended := Roster.tended_empty

/-- **Whatever happens is some steps.** -/
theorem leads_step (v : Vigil) (e : Happening) :
    v.store.roster.Leads (v.step e).store.roster := by
  unfold step
  split
  case isFalse => exact .refl
  case isTrue htidy =>
    cases e with
    | call around c =>
      change v.store.roster.Leads (v.store.perform around c).2.roster
      rw [Store.roster_perform]
      exact Store.leads_carryOut _ _ _ fun m hc => htidy m (by subst hc; rfl)
    | callElsewhere around c =>
      change v.store.roster.Leads (v.store.perform around c).2.roster
      rw [Store.roster_perform]
      exact Store.leads_carryOut _ _ _ fun m hc => htidy m (by subst hc; rfl)
    | network place next => exact Store.leads_onMonitor fun m _ => m.turn_become next
    | observe place => exact Store.leads_onMonitor fun m _ => m.turn_observe
    | deliver place => exact Store.leads_onMonitor fun m _ => m.turn_deliver
    | peer place change => exact .refl

theorem Right.step (hv : v.Right) (e : Happening) : (v.step e).Right where
  custody := by
    unfold Vigil.step
    split
    · exact hv.custody.step e.event
    · exact hv.custody
  tended := (v.leads_step e).tended hv.tended

theorem right_run (hv : v.Right) (later : List Happening) : (v.run later).Right := by
  induction later generalizing v with
  | nil => exact hv
  | cons e later ih => exact ih (hv.step e)

/-! ### Silence -/

/-- **Nothing is heard from a monitor any more,** and no subscription of it is left, whatever is to
come. -/
def Silent (v : Vigil) (place : Nat) : Prop :=
  ∀ later, (v.run later).heardFrom place = v.heardFrom place ∧
    ∃ m, (v.run later).store.allMonitors[place]? = some m ∧ m.Idle

theorem heardFrom_step (hv : v.Right) (hplace : place < v.store.roster.all.length)
    (hn : place ∉ v.store.roster.named) (e : Happening) :
    (v.step e).heardFrom place = v.heardFrom place := by
  unfold step
  split
  case isFalse => rfl
  case isTrue =>
    change ((e.heard? v.store).toList ++ v.heard).filter (·.1.monitor = place) = _
    rcases hx : e.heard? v.store with _ | x
    · rfl
    · obtain ⟨q, rfl, hq⟩ := Store.monitor_of_heard? hx
      have hne : x.1.monitor ≠ place := by
        rintro rfl
        obtain ⟨m, hm, hidle⟩ := hv.tended.exists_idle hplace hn
        rw [← hq, Happening.heard?, Store.deliver?_of_idle hm hidle] at hx
        cases hx
      simp [hne, heardFrom]

/-- **A monitor whose handle has gone is silent.** -/
theorem silent_of_notMem (hv : v.Right) (hplace : place < v.store.roster.all.length)
    (hn : place ∉ v.store.roster.named) : v.Silent place := by
  intro later
  induction later generalizing v with
  | nil => exact ⟨rfl, hv.tended.exists_idle hplace hn⟩
  | cons e later ih =>
    obtain ⟨hplace', hn'⟩ := (v.leads_step e).notMem_named hplace hn
    obtain ⟨hheard, hidle⟩ := ih (hv.step e) hplace' hn'
    exact ⟨hheard.trans (heardFrom_step hv hplace hn e), hidle⟩

/-! ### Calls that end watches -/

theorem exists_perform (r : Store) (around : Surroundings) (c : Store.Call) :
    ∃ fault, (r.perform around c).2 = { (r.carryOut around c).2 with lastFault := fault } := by
  unfold Store.perform
  split
  · next he => exact ⟨_, by rw [he]⟩
  · next he => exact ⟨_, by rw [he]⟩

theorem tidy_of_call? {c : Store.Call} (hc : e.call? = some c) (hm : ∀ m, c ≠ .enterMonitor m) :
    e.Tidy := by
  intro m hmem
  obtain ⟨c', hc', hm'⟩ := Option.bind_eq_some_iff.mp hmem
  rw [hc] at hc'
  cases hc'
  split at hm'
  · exact absurd rfl (hm _)
  · cases hm'

theorem exists_step_call {c : Store.Call} (hc : e.call? = some c)
    (hm : ∀ m, c ≠ .enterMonitor m) (v : Vigil) :
    ∃ around fault, (v.step e).store =
      { (v.store.carryOut around c).2 with lastFault := fault } := by
  rw [step, if_pos (tidy_of_call? hc hm)]
  cases e with
  | call around c' =>
    cases hc
    obtain ⟨fault, hf⟩ := exists_perform v.store around c
    exact ⟨around, fault, hf⟩
  | callElsewhere around c' =>
    cases hc
    obtain ⟨fault, hf⟩ := exists_perform v.store around c
    refine ⟨around, v.store.lastFault, ?_⟩
    change ({ (v.store.perform around c).2 with lastFault := v.store.lastFault } : Store) = _
    rw [hf]
  | _ => cases hc

theorem store_destroy (hc : e.call? = some (.destroyMonitor h))
    (hg : v.store.monitors.get? h = some place) :
    ∃ fault, (v.step e).store =
      { { v.store with monitors := v.store.monitors.without h }.onMonitor place (·.endWatch) with
        lastFault := fault } := by
  obtain ⟨around, fault, hs⟩ := exists_step_call hc nofun v
  refine ⟨fault, hs.trans ?_⟩
  rw [Store.carryOut, Store.destroyMonitor_of_some hg]

/-- **To destroy a monitor silences it.** -/
theorem silent_destroy (hv : v.Right) (hc : e.call? = some (.destroyMonitor h))
    (hg : v.store.monitors.get? h = some place) : (v.step e).Silent place := by
  have hlt := hv.tended.lt_length place (Store.mem_objects hg)
  obtain ⟨fault, hs⟩ := store_destroy hc hg
  refine silent_of_notMem (hv.step e) ?_ ?_
  · rw [hs]
    exact (List.length_modify _ _ _).symm ▸ hlt
  · rw [hs]
    have hnodup := (HandleTable.objects_without hg).nodup_iff.mp hv.tended.nodup
    exact (List.nodup_cons.mp hnodup).1

/-- **To release everything silences all monitors.** -/
theorem silent_shutDown (hv : v.Right) (hc : e.call? = some .shutDown)
    (hplace : place < v.store.allMonitors.length) : (v.step e).Silent place := by
  obtain ⟨around, fault, hs⟩ := exists_step_call hc nofun v
  refine silent_of_notMem (hv.step e) ?_ ?_
  · exact Nat.lt_of_lt_of_le hplace (Roster.Leads.length_le (v.leads_step e))
  · rw [hs]
    change place ∉ v.store.shutDown.monitors.objects
    have hclear : v.store.shutDown.monitors.objects = [] := HandleTable.objects_clear _
    rw [hclear]
    exact List.not_mem_nil

/-! ### Handles of watches -/

theorem get?_step (hg : v.store.watchers.get? u = some w) (hr : e.releases u = false) :
    (v.step e).store.watchers.get? u = some w := by
  unfold step
  split
  case isFalse => exact hg
  case isTrue =>
    have hdone := (Store.carried_undergo v.store e.event).done .watcher
    have hkept := hdone.get?_of_kept hg (e.releases_deed v.store u ▸ hr)
    rwa [Store.deed_revise_of_place ⟨by decide, by decide⟩] at hkept

theorem get?_run (hg : v.store.watchers.get? u = some w) {later : List Happening}
    (hr : ∀ e ∈ later, e.releases u = false) : (v.run later).store.watchers.get? u = some w := by
  induction later generalizing v with
  | nil => exact hg
  | cons e later ih =>
    exact ih (get?_step hg (hr e List.mem_cons_self)) fun e' he' =>
      hr e' (List.mem_cons_of_mem _ he')

theorem given_step (htidy : e.Tidy) : (v.step e).given = (v.gives? e).toList ++ v.given := by
  rw [step, if_pos htidy]

theorem held_step (htidy : e.Tidy) : (v.step e).held .watcher =
    (e.event.deed v.store .watcher).held (v.store.undergo e.event).1 (v.held .watcher) := by
  rw [step, if_pos htidy]
  rfl

theorem count_given_le_step (v : Vigil) (e : Happening) (u : Handle) :
    v.given.count u ≤ (v.step e).given.count u := by
  by_cases htidy : e.Tidy
  · rw [given_step htidy]
    exact (List.sublist_append_right _ _).count_le u
  · exact Nat.le_of_eq (by rw [step, if_neg htidy])

theorem count_given_le_run (v : Vigil) (later : List Happening) (u : Handle) :
    v.given.count u ≤ (v.run later).given.count u := by
  induction later generalizing v with
  | nil => exact Nat.le_refl _
  | cons e later ih => exact Nat.le_trans (v.count_given_le_step e u) (ih (v.step e))

theorem notMem_held_step (hu : u ∉ v.held .watcher)
    (hgiven : (v.step e).given.count u = v.given.count u) : u ∉ (v.step e).held .watcher := by
  by_cases htidy : e.Tidy
  · rw [held_step htidy]
    intro hmem
    rcases Deed.mem_of_mem_held hmem with hmem | hnew
    · exact hu hmem
    · have hgives : v.gives? e = some u := hnew
      simp [given_step htidy, hgives] at hgiven
  · rwa [step, if_neg htidy]

/-- **A handle that is not held** is not held before it is given out. -/
theorem notMem_held_run (hu : u ∉ v.held .watcher) {later : List Happening}
    (hgiven : (v.run later).given.count u = v.given.count u) : u ∉ (v.run later).held .watcher := by
  induction later generalizing v with
  | nil => exact hu
  | cons e later ih =>
    have hstep := v.count_given_le_step e u
    have hrun := (v.step e).count_given_le_run later u
    change ((v.step e).run later).given.count u = _ at hgiven
    exact ih (notMem_held_step hu (by omega)) (by omega)

/-- The handle is accepted as that of a watch, and only taken out. -/
def TakesOut (v : Vigil) (u : Handle) : Prop :=
  ∀ around, v.store.perform around (.unwatch u) =
    (.ok .nothing, { v.store with watchers := v.store.watchers.without u })

/-- The handle is rejected as that of a watch. -/
def Rejects (v : Vigil) (u : Handle) : Prop :=
  ∀ around, v.store.perform around (.unwatch u) =
    (.error (.invalidHandle .watcher u),
      { v.store with lastFault := some (.invalidHandle .watcher u) })

theorem takesOut_of_idle {m : Monitor} (hg : v.store.watchers.get? u = some w)
    (hm : v.store.allMonitors[w.monitor]? = some m) (hidle : m.Idle) : v.TakesOut u := by
  intro around
  have hstop : { v.store with watchers := v.store.watchers.without u }.stopWatch w =
      { v.store with watchers := v.store.watchers.without u } := by
    refine Store.onMonitor_self fun m' hm' => ?_
    rw [hm] at hm'
    cases hm'
    exact Monitor.stop_of_not_active (by rw [Monitor.active, hidle.watch]; rfl)
  rw [Store.perform, Store.carryOut, Store.unwatch_of_some hg, hstop]

theorem rejects_of_notMem (hv : v.Right) (hu : Key.asRead u ∉ v.held .watcher) : v.Rejects u := by
  intro around
  have hnone : v.store.watchers.get? u = none := by
    have hlive := (hv.custody.heldBy .watcher).live u
    exact Option.not_isSome_iff_eq_none.mp fun hsome => hu (hlive.mp hsome)
  rw [Store.perform, Store.carryOut, Store.unwatch, Store.taken_of_none hnone]
  rfl

/-- **Once it is released, a handle is rejected** until it is given out again. -/
theorem rejects_of_releases (hv : v.Right) (htidy : e.Tidy) (hr : e.releases u = true)
    {again : List Happening}
    (hgiven : ((v.step e).run again).given.count (Key.asRead u) =
      (v.step e).given.count (Key.asRead u)) : ((v.step e).run again).Rejects u := by
  refine rejects_of_notMem (right_run (hv.step e) again) (notMem_held_run ?_ hgiven)
  have hdone := (Store.carried_undergo v.store e.event).done .watcher
  have hnone := hdone.get?_of_released (h := u) ((e.releases_deed v.store u).trans hr)
  have hlive := ((hv.step e).custody.heldBy .watcher).live u
  rw [step, if_pos htidy] at hlive ⊢
  intro hmem
  have hsome := hlive.mpr hmem
  change ((v.store.undergo e.event).2.table .watcher).get? u |>.isSome at hsome
  rw [hnone] at hsome
  cases hsome

/-! ### What callers can rely on -/

/-- **What callers can rely on** when they destroy a monitor or release everything, whatever is to
come. -/
structure Farewell (v : Vigil) : Prop where
  /-- A monitor that is destroyed is silent from then on. -/
  destroyed : ∀ e h place, e.call? = some (.destroyMonitor h) →
    v.store.monitors.get? h = some place → (v.step e).Silent place
  /-- The handle of a watch that ended so is accepted by the first call that stops it, which does
  nothing but take the handle out, and by none afterwards until it is given out again. -/
  once : ∀ e h place u w, e.call? = some (.destroyMonitor h) →
    v.store.monitors.get? h = some place → v.store.watchers.get? u = some w → w.monitor = place →
    ∀ later, (∀ e' ∈ later, e'.releases u = false) →
      ((v.step e).run later).TakesOut u ∧
      ∀ stop, stop.call? = some (.unwatch u) → ∀ again,
        let stopped := ((v.step e).run later).step stop
        (stopped.run again).given.count (Key.asRead u) = stopped.given.count (Key.asRead u) →
          (stopped.run again).Rejects u
  /-- When everything is released, all monitors are silent from then on. -/
  released : ∀ e, e.call? = some .shutDown →
    ∀ place < v.store.allMonitors.length, (v.step e).Silent place
  /-- After that every handle is rejected as that of a watch until it is given out again. -/
  never : ∀ e u, e.call? = some .shutDown → ∀ again,
    ((v.step e).run again).given.count (Key.asRead u) = (v.step e).given.count (Key.asRead u) →
      ((v.step e).run again).Rejects u

theorem releases_destroyMonitor (hc : e.call? = some (.destroyMonitor h)) (u : Handle) :
    e.releases u = false := by
  rw [Happening.releases, hc]
  rfl

theorem Right.farewell (hv : v.Right) : v.Farewell where
  destroyed _ _ _ hc hg := silent_destroy hv hc hg
  once e h place u w hc hg hw hplace later hlater := by
    have hwatch := get?_run (get?_step hw (releases_destroyMonitor hc u)) hlater
    obtain ⟨-, m, hm, hidle⟩ := silent_destroy hv hc hg later
    refine ⟨takesOut_of_idle hwatch (hplace ▸ hm) hidle, fun stop hstop again hgiven => ?_⟩
    refine rejects_of_releases (right_run (hv.step e) later) (tidy_of_call? hstop nofun) ?_ hgiven
    rw [Happening.releases, hstop]
    exact decide_eq_true rfl
  released _ hc _ hplace := silent_shutDown hv hc hplace
  never e u hc again hgiven := by
    refine rejects_of_releases hv (tidy_of_call? hc nofun) ?_ hgiven
    rw [Happening.releases, hc]
    rfl

/-- **To destroy a monitor or to release everything silences watches for good,** at every moment, and
a handle that is left over from a watch stops no other one. -/
theorem farewell_run (before : List Happening) : (({} : Vigil).run before).Farewell :=
  (right_run right_empty before).farewell

end Vigil

end Dialer
