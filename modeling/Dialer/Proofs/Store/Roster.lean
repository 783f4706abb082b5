import Dialer.Proofs.Path.Tenancy
import Dialer.Proofs.Store.Custody
import Dialer.Proofs.Store.Setback
import Mathlib.Data.List.Perm.Subperm
import Mathlib.Logic.Relation

/-!
# The monitors of a store

A `Roster` is what calls can see of the monitors of a store: the monitors that were entered, and the
places that handles stand for. A call takes a few steps of three sorts on it: a monitor turns, a
monitor is entered under a new handle, or handles go whose monitors are idle. Only a monitor that a
handle stands for can begin a watch, so a monitor without a handle is idle for good.

* `Monitor.Turn`: what can become of a monitor.
* `Roster.Step`, `Store.leads_carryOut`: every call is some steps.
* `Roster.Tended`, `Roster.Leads.tended`: what every step keeps.
* `Roster.Leads.notMem_named`: a monitor whose handle has gone never has one again.
-/

namespace Dialer

/-! ### What can become of a monitor -/

namespace Monitor

variable {m after : Monitor} {named : Prop}

/-- A monitor whose source has no subscription but that of its watch. -/
def Kept (m : Monitor) : Prop := m.source.subscriptions = (m.tenant?.bind Prod.snd).toList

instance (m : Monitor) : Decidable m.Kept := inferInstanceAs (Decidable (_ = _))

/-- No watch is active, and no subscription is left. -/
structure Idle (m : Monitor) : Prop where
  watch : m.watch = none
  subscriptions : m.source.subscriptions = []

/-- **What can become of a monitor.** A watch begins only if a handle stands for the monitor. -/
inductive Turn (named : Prop) (m : Monitor) : Monitor → Prop
  | same {after : Monitor} (h : after.SameTenant m) : Turn named m after
  | begun {after : Monitor} {id : Nat} {subscription : Option Nat} (hnamed : named)
      (hfree : m.tenant? = none) (htenant : after.tenant? = some (id, subscription))
      (hsubs : after.source.subscriptions = m.source.subscriptions ++ subscription.toList) :
      Turn named m after
  | ended : Turn named m m.endWatch

theorem Kept.idle (h : m.Kept) (ht : m.tenant? = none) : m.Idle where
  watch := tenant?_eq_none_iff.mp ht
  subscriptions := by rw [h, ht]; rfl

theorem Kept.turn (h : m.Kept) (hturn : m.Turn named after) : after.Kept := by
  cases hturn with
  | same hsame => rw [Kept, hsame.source.subscriptions, hsame.tenant, h]
  | begun _ hfree htenant hsubs => rw [Kept, hsubs, h, hfree, htenant]; rfl
  | ended =>
    rw [Kept, tenant?_endWatch]
    rcases ht : m.tenant? with _ | ⟨id, subscription⟩
    · rw [endWatch_of_tenant?_eq_none ht, h, ht]
    · rw [subscriptions_endWatch ht, h, ht]
      cases subscription <;> simp

/-- A monitor no handle stands for begins no watch. -/
theorem Turn.tenant?_eq_none (hturn : m.Turn named after) (hnamed : ¬ named)
    (ht : m.tenant? = none) : after.tenant? = none := by
  cases hturn with
  | same hsame => rw [hsame.tenant, ht]
  | begun hmem => exact absurd hmem hnamed
  | ended => exact tenant?_endWatch m

theorem turn_start (hnamed : named) (m : Monitor) : m.Turn named m.start.2 := by
  rcases ht : m.tenant? with _ | tenant
  · rcases hs : m.source.snapshot with ⟨e | baseline, network⟩
    · rw [start_of_error ht hs]
      exact .same ⟨rfl, rfl, Source.sameSubscriptions_of_snapshot hs⟩
    · obtain ⟨begun, n, hstart, htenant, -, hsubs, -⟩ := exists_start_of_ok ht hs
      rw [hstart]
      exact .begun hnamed ht htenant hsubs
  · rw [start_of_tenant (ht ▸ rfl)]
    exact .same (.refl m)

theorem turn_stop (m : Monitor) (id : Nat) : m.Turn named (m.stop id) := by
  unfold stop
  split
  · exact .ended
  · exact .same (.refl m)

theorem turn_become (m : Monitor) (next : Source) :
    m.Turn named { m with source := m.source.become next } :=
  .same ⟨rfl, rfl, m.source.sameSubscriptions_become next⟩

theorem turn_observe (m : Monitor) : m.Turn named m.observe := .same m.sameTenant_observe

theorem turn_deliver (m : Monitor) : m.Turn named ((m.deliver?.map Prod.snd).getD m) := by
  rcases hd : m.deliver? with _ | ⟨⟨id, change⟩, after⟩
  · exact .same (.refl m)
  · exact .same (sameTenant_of_deliver? hd).1

theorem turn_list (m : Monitor) : m.Turn named m.list.2 :=
  .same ⟨rfl, rfl, m.source.read_network.2.2, by
    unfold list Source.read
    cases m.source.failure <;> rfl⟩

end Monitor

/-! ### Rosters -/

/-- **The monitors of a store,** and which of them handles stand for. -/
structure Roster where
  /-- The places handles stand for. -/
  named : List Nat
  /-- Every monitor that was entered. -/
  all : List Monitor

/-- The monitors of a store. -/
def Store.roster (r : Store) : Roster := ⟨r.monitors.objects, r.allMonitors⟩

namespace Roster

variable {r r' r'' : Roster} {place : Nat} {m : Monitor}

/-- **What a step does to the monitors.** -/
inductive Step : Roster → Roster → Prop
  /-- A monitor turns. -/
  | turn {named : List Nat} {all : List Monitor} (place : Nat) (f : Monitor → Monitor)
      (h : ∀ m, all[place]? = some m → m.Turn (place ∈ named) (f m)) :
      Step ⟨named, all⟩ ⟨named, all.modify place f⟩
  /-- A monitor is entered under a new handle. -/
  | enter {named named' : List Nat} {all : List Monitor} {m : Monitor} (hkept : m.Kept)
      (hnamed : named'.Perm (all.length :: named)) : Step ⟨named, all⟩ ⟨named', all ++ [m]⟩
  /-- Handles of idle monitors go. -/
  | retire {named named' : List Nat} {all : List Monitor} (hnamed : named'.Subperm named)
      (hidle : ∀ place ∈ named, place ∉ named' → ∀ m, all[place]? = some m → m.tenant? = none) :
      Step ⟨named, all⟩ ⟨named', all⟩

/-- One roster becomes another in some steps. -/
abbrev Leads : Roster → Roster → Prop := Relation.ReflTransGen Step

/-- **What holds of the monitors of a store:** no two handles stand for one monitor, monitors without
a handle are idle, and each has its source for itself. -/
structure Tended (r : Roster) : Prop where
  nodup : r.named.Nodup
  lt_length : ∀ place ∈ r.named, place < r.all.length
  kept : ∀ m ∈ r.all, m.Kept
  idle : ∀ place m, r.all[place]? = some m → place ∉ r.named → m.tenant? = none

theorem tended_empty : Tended ⟨[], []⟩ where
  nodup := .nil
  lt_length _ h := nomatch h
  kept _ h := nomatch h
  idle place m h := by cases h

section Tended

variable {named named' : List Nat} {all : List Monitor}

theorem Tended.turn (h : Tended ⟨named, all⟩) {f : Monitor → Monitor}
    (hturn : ∀ m, all[place]? = some m → m.Turn (place ∈ named) (f m)) :
    Tended ⟨named, all.modify place f⟩ where
  nodup := h.nodup
  lt_length q hq := (List.length_modify f _ place).symm ▸ h.lt_length q hq
  kept m hm := by
    obtain ⟨q, hq, rfl⟩ := List.getElem_of_mem hm
    rw [List.getElem_modify]
    rw [List.length_modify] at hq
    split
    · rename_i hplace
      subst hplace
      exact (h.kept _ (List.getElem_mem hq)).turn (hturn _ (List.getElem?_eq_getElem hq))
    · exact h.kept _ (List.getElem_mem hq)
  idle q m hm hq := by
    simp only [List.getElem?_modify] at hm
    obtain ⟨m', hm', rfl⟩ := Option.map_eq_some_iff.mp hm
    have hidle := h.idle q m' hm' hq
    split
    · rename_i hplace
      subst hplace
      exact (hturn m' hm').tenant?_eq_none hq hidle
    · exact hidle

theorem Tended.enter (h : Tended ⟨named, all⟩) (hkept : m.Kept)
    (hnamed : named'.Perm (all.length :: named)) : Tended ⟨named', all ++ [m]⟩ where
  nodup := by
    refine hnamed.nodup_iff.mpr (List.nodup_cons.mpr ⟨fun hmem => ?_, h.nodup⟩)
    exact Nat.lt_irrefl _ (h.lt_length _ hmem)
  lt_length q hq := by
    change q < (all ++ [m]).length
    rw [List.length_append]
    rcases List.mem_cons.mp (hnamed.mem_iff.mp hq) with rfl | hq
    · exact Nat.lt_succ_self _
    · exact Nat.lt_succ_of_lt (h.lt_length q hq)
  kept m' hm := by
    rcases List.mem_append.mp hm with hm | hm
    · exact h.kept m' hm
    · exact List.mem_singleton.mp hm ▸ hkept
  idle q m' hm hq := by
    have hnot : q ≠ all.length ∧ q ∉ named := by
      simpa [hnamed.mem_iff] using hq
    have hlt : q < all.length := by
      have hlt := (List.getElem?_eq_some_iff.mp hm).1
      simp only [List.length_append, List.length_singleton] at hlt
      omega
    rw [List.getElem?_append_left hlt] at hm
    exact h.idle q m' hm hnot.2

theorem Tended.retire (h : Tended ⟨named, all⟩) (hnamed : named'.Subperm named)
    (hidle : ∀ place ∈ named, place ∉ named' → ∀ m, all[place]? = some m → m.tenant? = none) :
    Tended ⟨named', all⟩ where
  nodup := by
    obtain ⟨left, hperm, hsublist⟩ := hnamed
    exact hperm.nodup_iff.mp (h.nodup.sublist hsublist)
  lt_length q hq := h.lt_length q (hnamed.subset hq)
  kept := h.kept
  idle q m hm hq := by
    by_cases hold : q ∈ named
    · exact hidle q hold hq m hm
    · exact h.idle q m hm hold

end Tended

theorem Step.tended (hs : r.Step r') (h : r.Tended) : r'.Tended := by
  cases hs with
  | turn place f hturn => exact h.turn hturn
  | enter hkept hnamed => exact h.enter hkept hnamed
  | retire hnamed hidle => exact h.retire hnamed hidle

/-- **Every step keeps the monitors tended.** -/
theorem Leads.tended (hl : r.Leads r') (h : r.Tended) : r'.Tended := by
  induction hl with
  | refl => exact h
  | tail _ hs ih => exact hs.tended ih

theorem Step.length_le (hs : r.Step r') : r.all.length ≤ r'.all.length := by
  cases hs <;> simp

theorem Leads.length_le (hl : r.Leads r') : r.all.length ≤ r'.all.length := by
  induction hl with
  | refl => exact Nat.le_refl _
  | tail _ hs ih => exact Nat.le_trans ih hs.length_le

/-- **A monitor whose handle has gone** never has one again. -/
theorem Leads.notMem_named (hl : r.Leads r') (hplace : place < r.all.length)
    (h : place ∉ r.named) : place < r'.all.length ∧ place ∉ r'.named := by
  induction hl with
  | refl => exact ⟨hplace, h⟩
  | tail _ hs ih =>
    refine ⟨Nat.lt_of_lt_of_le ih.1 hs.length_le, ?_⟩
    cases hs with
    | turn => exact ih.2
    | enter _ hnamed =>
      rw [hnamed.mem_iff, List.mem_cons, not_or]
      exact ⟨Nat.ne_of_lt ih.1, ih.2⟩
    | retire hnamed => exact fun hmem => ih.2 (List.Subperm.subset hnamed hmem)

/-- A monitor without a handle is idle. -/
theorem Tended.exists_idle (h : r.Tended) (hplace : place < r.all.length) (hn : place ∉ r.named) :
    ∃ m, r.all[place]? = some m ∧ m.Idle := by
  have hm := List.getElem?_eq_getElem hplace
  exact ⟨_, hm, (h.kept _ (List.getElem_mem hplace)).idle (h.idle place _ hm hn)⟩

end Roster

/-! ### What calls do to the monitors -/

namespace Store

variable {r r' : Store} {place : Nat} {h : Handle} {m after : Monitor} {call : Call}

theorem leads_onMonitor {f : Monitor → Monitor}
    (hf : ∀ m, r.allMonitors[place]? = some m → m.Turn (place ∈ r.monitors.objects) (f m)) :
    r.roster.Leads (r.onMonitor place f).roster :=
  .single (.turn place f hf)

theorem onMonitor_congr {f g : Monitor → Monitor}
    (hfg : ∀ m, r.allMonitors[place]? = some m → f m = g m) :
    r.onMonitor place f = r.onMonitor place g := by
  have hmodify : r.allMonitors.modify place f = r.allMonitors.modify place g := by
    refine List.ext_getElem? fun q => ?_
    simp only [List.getElem?_modify]
    rcases hq : r.allMonitors[q]? with _ | m
    · rfl
    · by_cases hplace : place = q
      · subst hplace
        simp [hfg m hq]
      · simp [hplace]
  rw [onMonitor, onMonitor, hmodify]

theorem onMonitor_self {f : Monitor → Monitor}
    (hf : ∀ m, r.allMonitors[place]? = some m → f m = m) : r.onMonitor place f = r := by
  rw [onMonitor_congr (g := id) hf, onMonitor, List.modify_id]

theorem onMonitor_onMonitor (r : Store) (place : Nat) (f g : Monitor → Monitor) :
    (r.onMonitor place f).onMonitor place g = r.onMonitor place fun m => g (f m) := by
  simp only [onMonitor, List.modify_modify_eq]
  rfl

/-- What a handle stands for is among the objects. -/
theorem mem_objects (hg : r.monitors.get? h = some place) : place ∈ r.monitors.objects :=
  (HandleTable.objects_without hg).mem_iff.mpr List.mem_cons_self

/-- The monitor a handle stands for turns. -/
theorem leads_of_monitor (hm : r.monitor h = .ok (place, m))
    (hturn : m.Turn (place ∈ r.monitors.objects) after) :
    r.roster.Leads (r.onMonitor place fun _ => after).roster := by
  refine leads_onMonitor fun m' hm' => ?_
  rw [(exists_of_monitor hm).2] at hm'
  cases hm'
  exact hturn

/-! #### Many monitors at once -/

/-- No watch is active on the monitor at a place. -/
def IdleAt (r : Store) (place : Nat) : Prop :=
  ∀ m, r.allMonitors[place]? = some m → m.tenant? = none

theorem idleAt_endWatch_self (r : Store) (place : Nat) :
    (r.onMonitor place (·.endWatch)).IdleAt place := by
  intro m hm
  simp only [onMonitor, List.getElem?_modify, if_true, Option.map_eq_map] at hm
  obtain ⟨m', -, rfl⟩ := Option.map_eq_some_iff.mp hm
  exact Monitor.tenant?_endWatch m'

theorem IdleAt.endWatch (hi : r.IdleAt place) (q : Nat) :
    (r.onMonitor q (·.endWatch)).IdleAt place := by
  intro m hm
  simp only [onMonitor, List.getElem?_modify, Option.map_eq_map] at hm
  obtain ⟨m', hm', rfl⟩ := Option.map_eq_some_iff.mp hm
  split
  · exact Monitor.tenant?_endWatch m'
  · exact hi m' hm'

/-- All watches on some monitors end. -/
theorem endWatches (places : List Nat) (r : Store) :
    let ended := places.foldl (fun r place => r.onMonitor place (·.endWatch)) r
    r.roster.Leads ended.roster ∧ (∀ place ∈ places, ended.IdleAt place) ∧
      (∀ place, r.IdleAt place → ended.IdleAt place) := by
  induction places generalizing r with
  | nil => exact ⟨.refl, nofun, fun _ hi => hi⟩
  | cons p places ih =>
    obtain ⟨hleads, hidle, hstay⟩ := ih (r.onMonitor p (·.endWatch))
    refine ⟨(leads_onMonitor fun m _ => .ended).trans hleads, fun place hplace => ?_,
      fun place hi => hstay place (hi.endWatch p)⟩
    rcases List.mem_cons.mp hplace with rfl | hplace
    · exact hstay _ (r.idleAt_endWatch_self _)
    · exact hidle place hplace

theorem leads_stopWatches (watches : List WatchRef) (r : Store) :
    r.roster.Leads (watches.foldl stopWatch r).roster := by
  induction watches generalizing r with
  | nil => exact .refl
  | cons w watches ih =>
    exact Relation.ReflTransGen.trans (leads_onMonitor fun m _ => m.turn_stop w.watch)
      (ih (r.stopWatch w))

theorem roster_abortAll (r : Store) : r.abortAll.roster = r.roster := by
  unfold abortAll
  generalize r.connections.objects = places
  induction places generalizing r with
  | nil => rfl
  | cons p places ih => exact ih _

/-- When everything is released all watches end, and then all handles go. -/
theorem leads_shutDown (r : Store) : r.roster.Leads r.shutDown.roster := by
  let stopped := r.abortAll.stopAll
  obtain ⟨hended, hidle, -⟩ := endWatches stopped.monitors.objects stopped
  have hnamed : stopped.endAll.monitors = stopped.monitors :=
    (sameTables_endAll stopped).table .pathMonitor
  have hclear : r.shutDown.roster = ⟨[], stopped.endAll.allMonitors⟩ := by
    change (⟨stopped.endAll.monitors.clear.objects, stopped.endAll.allMonitors⟩ : Roster) = _
    rw [HandleTable.objects_clear]
  rw [hclear, ← roster_abortAll r]
  refine ((leads_stopWatches _ r.abortAll).trans hended).tail (.retire (List.nil_subperm) ?_)
  intro place hplace _
  exact hidle place (hnamed ▸ hplace)

/-! #### One call -/

theorem leads_enterMonitor (around : Surroundings) (hkept : m.Kept) :
    r.roster.Leads (r.carryOut around (.enterMonitor m)).2.roster := by
  obtain he | ⟨h, t, hi, he⟩ := entered_cases r.monitors around r.allMonitors.length <;>
    rw [carryOut, he]
  · exact .refl
  · exact .single (.enter hkept (HandleTable.objects_insert hi))

theorem taken_of_some {α : Type} {t : HandleTable α} {a : α} (ha : t.get? h = some a)
    (kind : HandleKind) : taken t kind h = .ok (a, t.without h) := by
  obtain ⟨k, hk, hslot⟩ := HandleTable.get?_eq_some.mp ha
  simp only [taken, HandleTable.without, HandleTable.take?, hk, HandleTable.find?_eq_some.mpr hslot,
    Option.map_some, Option.getD_some]

/-- To destroy a monitor ends its watch and takes its handle out. -/
theorem destroyMonitor_of_some (hg : r.monitors.get? h = some place) :
    r.settle (r.destroyMonitor h) =
      (.ok .nothing,
        { r with monitors := r.monitors.without h }.onMonitor place (·.endWatch)) := by
  rw [destroyMonitor, taken_of_some hg]
  rfl

/-- To stop a watch takes its handle out. -/
theorem unwatch_of_some {w : WatchRef} (hg : r.watchers.get? h = some w) :
    r.settle (r.unwatch h) =
      (.ok .nothing, { r with watchers := r.watchers.without h }.stopWatch w) := by
  rw [unwatch, taken_of_some hg]
  rfl

theorem leads_destroyMonitor (r : Store) (h : Handle) :
    r.roster.Leads (r.settle (r.destroyMonitor h)).2.roster := by
  rcases hg : r.monitors.get? h with _ | place
  · rw [destroyMonitor, taken_of_none hg]
    exact .refl
  · rw [destroyMonitor_of_some hg]
    have hperm := HandleTable.objects_without hg
    have hended : r.roster.Leads (r.onMonitor place (·.endWatch)).roster :=
      leads_onMonitor fun m _ => .ended
    refine hended.tail (.retire ?_ ?_)
    · exact (List.sublist_cons_self _ _).subperm.trans hperm.symm.subperm
    · intro q hq hnot
      obtain rfl : q = place := (List.mem_cons.mp (hperm.mem_iff.mp hq)).resolve_right hnot
      exact r.idleAt_endWatch_self q

theorem leads_unwatch (r : Store) (h : Handle) :
    r.roster.Leads (r.settle (r.unwatch h)).2.roster := by
  rcases hg : r.watchers.get? h with _ | w
  · rw [unwatch, taken_of_none hg]
    exact .refl
  · rw [unwatch_of_some hg]
    exact leads_onMonitor fun m _ => m.turn_stop w.watch

theorem leads_listInterfaces (r : Store) (h : Handle) (hasArray hasCount : Bool) :
    r.roster.Leads (r.listInterfaces h hasArray hasCount).2.roster := by
  unfold listInterfaces
  split
  · exact .refl
  · split
    · exact .refl
    · rename_i place m hm
      have hturn : m.Turn (place ∈ r.monitors.objects) m.list.2 := m.turn_list
      split <;> rename_i hl <;> rw [hl] at hturn <;> exact leads_of_monitor hm hturn

theorem leads_watch (r : Store) (around : Surroundings) (h : Handle) (hasCallback : Bool) :
    r.roster.Leads (r.watch around h hasCallback).2.roster := by
  unfold watch
  split
  · exact .refl
  · split
    · exact .refl
    · rename_i place m hm
      have hturn := m.turn_start (mem_objects (exists_of_monitor hm).1)
      split <;> rename_i hs <;> rw [hs] at hturn
      · exact leads_of_monitor hm hturn
      · rename_i watch begun
        have hbegun := leads_of_monitor hm hturn
        obtain he | ⟨h, t, hi, he⟩ := entered_cases r.watchers around ⟨place, watch⟩ <;> rw [he]
        · -- The watch has begun and is ended again.
          let began := r.onMonitor place fun _ => begun
          have hstop : began.roster.Leads (began.onMonitor place (·.stop watch)).roster :=
            leads_onMonitor fun m _ => m.turn_stop watch
          rw [onMonitor_onMonitor] at hstop
          exact hbegun.trans hstop
        · exact hbegun

theorem roster_freeConnection (r : Store) (h : Handle) :
    (r.settle (r.freeConnection h)).2.roster = r.roster := by
  rw [freeConnection]
  obtain ⟨he, -⟩ | ⟨place, he⟩ := taken_cases r.connections .connection h <;> rw [he] <;> rfl

theorem roster_initiate (r : Store) (around : Surroundings) (h : Handle) :
    (r.initiate around h).2.roster = r.roster := by
  unfold initiate
  split
  · rfl
  · split
    · rfl
    · exact of_entered (P := (·.roster = r.roster)) rfl fun _ => rfl

/-- **Every call is some steps,** if a monitor it enters has its source for itself. -/
theorem leads_carryOut (r : Store) (around : Surroundings) (call : Call)
    (hkept : ∀ m, call = .enterMonitor m → m.Kept) :
    r.roster.Leads (r.carryOut around call).2.roster := by
  have hsame {r' : Store} (h : r'.roster = r.roster) : r.roster.Leads r'.roster := h ▸ .refl
  have hasks (ha : call.Asks) := carryOut_of_asks ha r around
  let P : Store → Prop := fun r' => r.roster.Leads r'.roster
  have hr : P r := .refl
  cases call with
  | enterMonitor m => exact leads_enterMonitor around (hkept m rfl)
  | destroyMonitor h => exact leads_destroyMonitor r h
  | listInterfaces h hasArray hasCount => exact leads_listInterfaces r h hasArray hasCount
  | watch h hasCallback => exact leads_watch r around h hasCallback
  | unwatch h => exact leads_unwatch r h
  | shutDown => exact leads_shutDown r
  | startUp | clearError => exact .refl
  | setHostname | setService | setAddress | setPort =>
    exact of_setting hr (fun _ => hr) rfl around
  | createEndpoint | createPreconnection => exact of_entered hr fun _ => hr
  | freeEndpoint | freePreconnection => exact of_taken hr fun _ => hr
  | freeConnection h => exact hsame (roster_freeConnection r h)
  | addRemote h endpoint => exact of_addRemote hr (fun _ => hr) h endpoint
  | setSecurityDisabled => exact of_onPreconnection (P := P) (fun _ => hr) _ _
  | initiate h => exact hsame (roster_initiate r around h)
  | send | receive | close =>
    obtain ⟨fault, he⟩ | ⟨h, wanted, -, he⟩ := hasks trivial
    · exact hsame (by rw [he])
    · rw [he]
      exact of_request hr (fun _ _ => hr) h wanted
  | phase h =>
    rw [carryOut]
    split <;> exact .refl
  | freeArray base count =>
    rw [carryOut, freeArray]
    split <;> exact .refl

theorem roster_perform (r : Store) (around : Surroundings) (call : Call) :
    (r.perform around call).2.roster = (r.carryOut around call).2.roster := by
  unfold perform
  split
  · next he => rw [he]; rfl
  · next he => rw [he]

end Store

end Dialer
