import Dialer.Proofs.Path.Lookout

/-!
# Watches that follow one another

A watch that has ended never comes back: its listener is not called again, whatever watches begin on
its monitor later, and its watcher can stop none of them. Every active watch has a subscription if
its source could tell of changes when it began, and there are no other subscriptions.

* `Lookout.Sound.hasEnded_run`: a watch that has ended stays so.
* `Lookout.Sound.length_subscriptions`, `Lookout.Sound.length_subscriptions_of_told`: how many
  subscriptions there are.
* `Lookout.exclusive_run`: what callers can rely on at every moment.
-/

namespace Dialer

namespace Lookout

variable {s t : Lookout} {m after : Monitor} {place : Nat} {v w : WatchRef} {e : Entry}

/-! ### Watches that have ended -/

/-- Whether a watch has begun and is not active any more. -/
def HasEnded (s : Lookout) (w : WatchRef) : Prop := w ∈ begun s.log ∧ s.active w = false

/-- What may be written down next: a watch begins that has not begun before, and only listeners of
active watches are called. -/
def Fits (s : Lookout) : Entry → Prop
  | .begun w _ => w ∉ begun s.log
  | .heard w _ => s.active w = true
  | _ => True

/-- At most one entry is written down, and it fits. -/
def WritesAtMostOne (s t : Lookout) : Prop :=
  t.log = s.log ∨ ∃ e, t.log = e :: s.log ∧ s.Fits e

theorem begun_subset_cons (e : Entry) (log : List Entry) : begun log ⊆ begun (e :: log) := by
  cases e <;> simp [begun]

theorem mem_ongoing_cons {log : List Entry} {x : WatchRef × Option Nat}
    (hx : x ∈ ongoing (e :: log)) : x ∈ ongoing log ∨ e = .begun x.1 x.2 := by
  cases e with
  | begun w n =>
    rcases List.mem_cons.mp hx with rfl | hx
    · exact .inr rfl
    · exact .inl hx
  | refused place error => exact .inl hx
  | stopped w => exact .inl (List.mem_of_mem_filter hx)
  | cleared place => exact .inl (List.mem_of_mem_filter hx)
  | heard w change => exact .inl hx

/-- A new watch has not begun before. -/
theorem Sound.notMem_begun (h : s.Sound) (hm : s.monitor? place = some m) :
    ⟨place, m.nextId⟩ ∉ begun s.log := fun hmem => by
  have hlt := h.begun_lt _ hmem
  rw [nextId_of_monitor? hm] at hlt
  exact Nat.lt_irrefl _ hlt

theorem log_start (h : s.Sound) (place : Nat) :
    s.WritesAtMostOne (s.start place) := by
  rcases hm : s.usable? place with _ | m
  · exact .inl (by simp only [start, hm])
  rcases ht : m.tenant? with _ | tenant
  · rcases hs : s.network.snapshot with ⟨error | baseline, network⟩
    · rw [start_of_error hm ht hs]
      exact .inr ⟨_, rfl, trivial⟩
    · obtain ⟨begun, n, hstart, -⟩ := exists_start_of_ok hm ht hs
      rw [hstart]
      exact .inr ⟨_, rfl, h.notMem_begun (monitor?_of_usable? hm)⟩
  · rw [start_of_tenant hm (ht ▸ rfl)]
    exact .inr ⟨_, rfl, trivial⟩

theorem log_stop (s : Lookout) (w : WatchRef) :
    s.WritesAtMostOne (s.stop w) := by
  unfold stop
  split
  · exact .inl rfl
  · split
    · exact .inr ⟨_, rfl, trivial⟩
    · exact .inl rfl

theorem log_clear (s : Lookout) (place : Nat) :
    s.WritesAtMostOne (s.clear place) := by
  unfold clear
  split
  · exact .inl rfl
  · exact .inr ⟨_, rfl, trivial⟩

theorem log_observe (s : Lookout) (place : Nat) : (s.observe place).log = s.log := by
  unfold observe
  split
  · rfl
  · split <;> rfl

theorem active_of_deliver? {id : Nat} {change : Change} (hm : s.monitor? place = some m)
    (hd : m.deliver? = some ((id, change), after)) : s.active ⟨place, id⟩ = true := by
  rw [active, hm]
  exact (Monitor.sameTenant_of_deliver? hd).2

theorem log_deliver (s : Lookout) (place : Nat) :
    s.WritesAtMostOne (s.deliver place) := by
  unfold deliver
  split
  · exact .inl rfl
  · rename_i watch change after hd
    obtain ⟨m, hm, hd⟩ := Option.bind_eq_some_iff.mp hd
    split
    · exact .inl rfl
    · exact .inr ⟨_, rfl, active_of_deliver? hm hd⟩

/-- **What an event writes down.** -/
theorem log_step (h : s.Sound) (event : Event) :
    s.WritesAtMostOne (s.step event) := by
  cases event with
  | call caller request =>
    rw [step]
    split
    · cases request with
      | start place => exact log_start h place
      | stop w => exact log_stop s w
      | clear place => exact log_clear s place
      | drop place => exact log_clear s place
    · exact .inl rfl
  | network next => exact .inl rfl
  | observe place => exact .inl (log_observe s place)
  | deliver place => exact log_deliver s place
  | returned w => exact .inl rfl

theorem calling_start (s : Lookout) (place : Nat) : (s.start place).calling = s.calling := by
  unfold start
  split
  · rfl
  · split <;> rfl

theorem calling_stop (s : Lookout) (w : WatchRef) : (s.stop w).calling = s.calling := by
  unfold stop
  split
  · rfl
  · split <;> rfl

theorem calling_clear (s : Lookout) (place : Nat) : (s.clear place).calling = s.calling := by
  unfold clear
  split <;> rfl

/-- Only listeners of active watches are called anew. -/
theorem active_of_mem_calling {event : Event} (hw : w ∈ (s.step event).calling) :
    w ∈ s.calling ∨ s.active w = true := by
  cases event with
  | call caller request =>
    rw [step] at hw
    split at hw
    · cases request with
      | start place => exact .inl (calling_start s place ▸ hw)
      | stop w => exact .inl (calling_stop s w ▸ hw)
      | clear place => exact .inl (calling_clear s place ▸ hw)
      | drop place => exact .inl (calling_clear s place ▸ hw)
    · exact .inl hw
  | network next => exact .inl hw
  | observe place =>
    rw [step, observe] at hw
    split at hw
    · exact .inl hw
    · split at hw <;> exact .inl hw
  | deliver place =>
    rw [step, deliver] at hw
    split at hw
    · exact .inl hw
    · rename_i hd
      obtain ⟨m, hm, hd⟩ := Option.bind_eq_some_iff.mp hd
      split at hw
      · exact .inl hw
      · rcases List.mem_cons.mp hw with rfl | hw
        · exact .inr (active_of_deliver? hm hd)
        · exact .inl hw
  | returned w => exact .inl (List.mem_of_mem_filter hw)

/-- **A watch that has ended** stays so, its listener is not called again, and once the call in
which it was ended has returned, it is in none. -/
theorem Sound.hasEnded_step (h : s.Sound) (hw : s.HasEnded w) (event : Event) :
    (s.step event).HasEnded w ∧ (s.step event).heardBy w = s.heardBy w ∧
      (w ∉ s.calling → w ∉ (s.step event).calling) := by
  have hcalling : w ∉ s.calling → w ∉ (s.step event).calling := fun hout hin => by
    rcases active_of_mem_calling hin with hin | hin
    · exact hout hin
    · rw [hw.2] at hin
      cases hin
  have hafter := h.step event
  have hidle : ∀ n, (w, n) ∉ ongoing s.log := fun n hn => by
    have hactive := h.active_iff.mpr ⟨n, hn⟩
    rw [hw.2] at hactive
    cases hactive
  have hended : ∀ log, (s.step event).log = log → w ∈ begun log → (∀ n, (w, n) ∉ ongoing log) →
      (s.step event).HasEnded w := fun log hlog hbegun hnone =>
    ⟨hlog ▸ hbegun, Bool.eq_false_iff.mpr fun hactive => by
      obtain ⟨n, hn⟩ := hafter.active_iff.mp hactive
      exact hnone n (hlog ▸ hn)⟩
  rcases log_step h event with hlog | ⟨e, hlog, hfits⟩
  · exact ⟨hended _ hlog hw.1 hidle, by rw [heardBy, heardBy, hlog], hcalling⟩
  · refine ⟨hended _ hlog (begun_subset_cons e _ hw.1) fun n hn => ?_, ?_, hcalling⟩
    · rcases mem_ongoing_cons hn with hn | rfl
      · exact hidle n hn
      · exact hfits hw.1
    · rw [heardBy, heardBy, hlog, List.filterMap_cons]
      cases e with
      | heard v change =>
        have hne : v ≠ w := by
          rintro rfl
          rw [Fits, hw.2] at hfits
          cases hfits
        simp [hne]
      | _ => rfl

theorem Sound.hasEnded_run (h : s.Sound) (hw : s.HasEnded w) (events : List Event) :
    (s.run events).HasEnded w ∧ (s.run events).heardBy w = s.heardBy w ∧
      (w ∉ s.calling → w ∉ (s.run events).calling) := by
  induction events generalizing s with
  | nil => exact ⟨hw, rfl, id⟩
  | cons event events ih =>
    obtain ⟨hended, hheard, hcalling⟩ := h.hasEnded_step hw event
    obtain ⟨hended', hheard', hcalling'⟩ := ih (h.step event) hended
    exact ⟨hended', hheard'.trans hheard, hcalling' ∘ hcalling⟩

/-! ### Counting watches -/

/-- The watches that are active, with their subscriptions. -/
def standing (s : Lookout) : List (WatchRef × Option Nat) :=
  (List.range s.posts.length).filterMap fun place =>
    (s.tenant? place).map fun (id, n) => (⟨place, id⟩, n)

theorem mem_standing_iff {n : Option Nat} :
    (w, n) ∈ s.standing ↔ s.tenant? w.monitor = some (w.watch, n) := by
  simp only [standing, List.mem_filterMap, List.mem_range, Option.map_eq_some_iff]
  constructor
  · rintro ⟨place, -, x, hx, heq⟩
    cases heq
    exact hx
  · intro ht
    obtain ⟨p, hp, -⟩ := Option.bind_eq_some_iff.mp ht
    exact ⟨w.monitor, (List.getElem?_eq_some_iff.mp hp).1, _, ht, rfl⟩

theorem nodup_standing (s : Lookout) : s.standing.Nodup := by
  refine List.nodup_range.filterMap fun p q x hp hq => ?_
  obtain ⟨_, -, rfl⟩ := Option.map_eq_some_iff.mp hp
  obtain ⟨_, -, heq⟩ := Option.map_eq_some_iff.mp hq
  exact (congrArg (·.1.monitor) heq).symm

/-- **The watches that are going on are those that are active.** -/
theorem Sound.ongoing_perm (h : s.Sound) : (ongoing s.log).Perm s.standing :=
  (List.perm_ext_iff_of_nodup h.places.of_map s.nodup_standing).mpr fun (w, n) => by
    rw [h.mem_ongoing, mem_standing_iff]

/-- There is one live subscription for each active watch that has one. -/
theorem Sound.length_subscriptions (h : s.Sound) :
    s.network.subscriptions.length = s.standing.countP (·.2.isSome) := by
  rw [h.subscriptions, List.length_reverse, List.length_filterMap_eq_countP,
    h.ongoing_perm.countP_eq]

/-! ### Watches that are told of changes -/

/-- **Every watch is told of changes:** the source can tell of them, all monitors want to be told,
and the watches that are going on have subscriptions. -/
structure Told (s : Lookout) : Prop where
  tells : s.network.tells = true
  notifications : ∀ p ∈ s.posts, p.config.notifications = true
  subscribed : ∀ x ∈ ongoing s.log, x.2.isSome = true

namespace Told

variable (ht : s.Told)
include ht

theorem put (hm : s.monitor? place = some m) (hmanner : after.SameManner m) :
    (s.put place after).Told where
  tells := by
    change after.source.tells = true
    rw [hmanner.tells, source_of_monitor? hm, ht.tells]
  notifications p hp := by
    rcases List.mem_or_eq_of_mem_set hp with hp | rfl
    · exact ht.notifications p hp
    · obtain ⟨q, hq, rfl⟩ := Option.map_eq_some_iff.mp hm
      change after.config.notifications = true
      rw [hmanner.config]
      exact ht.notifications q (List.mem_of_getElem? hq)
  subscribed := ht.subscribed

theorem note (he : ∀ w n, e = .begun w n → n.isSome = true) : (s.note e).Told where
  tells := ht.tells
  notifications := ht.notifications
  subscribed x hx := by
    rcases mem_ongoing_cons hx with hx | hx
    · exact ht.subscribed x hx
    · exact he _ _ hx

theorem note_refused (place : Nat) (error : MonitorError) : (s.note (.refused place error)).Told :=
  ht.note nofun

theorem start (place : Nat) : (s.start place).Told := by
  rcases hm : s.usable? place with _ | m
  · simpa only [Lookout.start, hm] using ht
  have hmonitor := monitor?_of_usable? hm
  rcases htenant : m.tenant? with _ | tenant
  · rcases hs : s.network.snapshot with ⟨error | baseline, network⟩
    · have htold : ({ s with network } : Lookout).Told :=
        ⟨(Source.tells_of_snapshot hs).trans ht.tells, ht.notifications, ht.subscribed⟩
      rw [start_of_error hm htenant hs]
      exact htold.note_refused place error
    · obtain ⟨begun, n, hstart, hmanner, -, -, -, hn, -⟩ := exists_start_of_ok hm htenant hs
      have hwanted : m.config.notifications = true := by
        obtain ⟨p, hp, rfl⟩ := Option.map_eq_some_iff.mp hmonitor
        exact ht.notifications p (List.mem_of_getElem? hp)
      have htells : network.tells = true := (Source.tells_of_snapshot hs).trans ht.tells
      rw [hstart]
      refine (ht.put hmonitor hmanner).note fun w k hk => ?_
      cases hk
      rw [hn, hwanted, htells]
      rfl
  · rw [start_of_tenant hm (htenant ▸ rfl)]
    exact ht.note_refused place .alreadyWatching

theorem stop (w : WatchRef) : (s.stop w).Told := by
  unfold Lookout.stop
  split
  · exact ht
  · rename_i m hm
    split
    · refine (ht.put hm ?_).note nofun
      unfold Monitor.stop
      split
      · exact m.sameManner_endWatch
      · exact ⟨rfl, rfl⟩
    · exact ht

theorem clear (place : Nat) : (s.clear place).Told := by
  unfold Lookout.clear
  split
  · exact ht
  · rename_i m hm
    exact (ht.put (monitor?_of_usable? hm) m.sameManner_endWatch).note nofun

theorem perform (request : Request) : (s.perform request).Told := by
  cases request with
  | start place => exact ht.start place
  | stop w => exact ht.stop w
  | clear place => exact ht.clear place
  | drop place =>
    have htold := ht.clear place
    exact ⟨htold.tells, htold.notifications, htold.subscribed⟩

theorem observe (place : Nat) : (s.observe place).Told := by
  unfold Lookout.observe
  split
  · exact ht
  · rename_i m hm
    split
    · exact ht.put hm m.sameManner_observe
    · exact ht

theorem deliver (place : Nat) : (s.deliver place).Told := by
  unfold Lookout.deliver
  split
  · exact ht
  · rename_i watch change after hd
    obtain ⟨m, hm, hd⟩ := Option.bind_eq_some_iff.mp hd
    split
    · exact ht
    · have htold := (ht.put hm (Monitor.sameManner_of_deliver? hd)).note
        (e := .heard ⟨place, watch⟩ change) nofun
      exact ⟨htold.tells, htold.notifications, htold.subscribed⟩

/-- Every watch is told of changes as long as the source can tell of them. -/
theorem step (event : Event) (hevent : ∀ next, event = .network next → next.tells = true) :
    (s.step event).Told := by
  cases event with
  | call caller request =>
    change (if s.hasCaller caller then s.perform request else s).Told
    split
    · exact ht.perform request
    · exact ht
  | network next => exact ⟨hevent next rfl, ht.notifications, ht.subscribed⟩
  | observe place => exact ht.observe place
  | deliver place => exact ht.deliver place
  | returned w => exact ⟨ht.tells, ht.notifications, ht.subscribed⟩

theorem run {events : List Event} (hevents : ∀ next, .network next ∈ events → next.tells = true) :
    (s.run events).Told := by
  induction events generalizing s with
  | nil => exact ht
  | cons event events ih =>
    exact ih (ht.step event fun next hnext => hevents next (hnext ▸ List.mem_cons_self))
      fun next hnext => hevents next (List.mem_cons_of_mem _ hnext)

end Told

theorem told_opened {network : Source} {settings : List WatchSettings}
    (htells : network.tells = true) (hwanted : ∀ config ∈ settings, config.notifications = true) :
    (opened network settings).Told where
  tells := htells
  notifications p hp := by
    obtain ⟨config, hconfig, rfl⟩ := List.mem_map.mp hp
    exact hwanted config hconfig
  subscribed x hx := nomatch hx

theorem Sound.length_subscriptions_of_told (h : s.Sound) (ht : s.Told) :
    s.network.subscriptions.length = s.standing.length := by
  rw [h.length_subscriptions, List.countP_eq_length]
  exact fun x hx => ht.subscribed x (h.ongoing_perm.mem_iff.mpr hx)

/-! ### What callers can rely on -/

/-- **What callers can rely on** at a moment, whatever is to come. -/
structure Exclusive (s : Lookout) : Prop where
  /-- A watch is active from when it begins until something ends it. -/
  active_iff : ∀ w, s.active w = true ↔ ∃ n, (w, n) ∈ ongoing s.log
  /-- At most one watch of a monitor is active. -/
  alone : ∀ v w, s.active v = true → s.active w = true → v.monitor = w.monitor → v = w
  /-- While one is active, no other can begin. -/
  start_taken : ∀ w m, s.usable? w.monitor = some m → s.active w = true →
    s.perform (.start w.monitor) = s.note (.refused w.monitor .alreadyWatching)
  /-- Otherwise, if the first snapshot fails, there is still no watch, and no subscription either. -/
  start_failing : ∀ place m, s.usable? place = some m →
    (∀ w, w.monitor = place → s.active w = false) →
    ∀ error network, s.network.snapshot = (.error error, network) →
      error ≠ .alreadyWatching ∧ network.SameSubscriptions s.network ∧
        s.perform (.start place) = { s with network }.note (.refused place error)
  /-- If it succeeds, a watch begins that has not begun before, with a subscription if the monitor
  wants to be told of changes and the source can tell of them. -/
  start_new : ∀ place m, s.usable? place = some m →
    (∀ w, w.monitor = place → s.active w = false) →
    ∀ baseline network, s.network.snapshot = (.ok baseline, network) →
      ∃ w n, w.monitor = place ∧ w ∉ begun s.log ∧
        (s.perform (.start place)).active w = true ∧
        (s.perform (.start place)).log = .begun w n :: s.log ∧
        n.isSome = (m.config.notifications && network.tells) ∧
        (s.perform (.start place)).network.subscriptions = s.network.subscriptions ++ n.toList
  /-- A watcher ends its own watch and no other. -/
  stop_own : ∀ w ∈ begun s.log, (s.perform (.stop w)).HasEnded w ∧
    ∀ v, v ≠ w → (s.perform (.stop w)).active v = s.active v
  /-- To stop a watch that has ended only leaves a note. -/
  stop_ended : ∀ w, s.HasEnded w → s.perform (.stop w) = s.note (.stopped w)
  /-- To stop the watch on a monitor, or to drop the monitor, ends the watch there and no other. -/
  clear_own : ∀ place m, s.usable? place = some m → ∀ request ∈ [.clear place, .drop place], ∀ w,
    (s.perform request).active w = (s.active w && w.monitor != place)
  /-- A watch that has ended stays so, its listener is not called again, and once the call in which
  it was ended has returned it is in none. -/
  silent : ∀ w, s.HasEnded w → ∀ events, (s.run events).HasEnded w ∧
    (s.run events).heardBy w = s.heardBy w ∧ (w ∉ s.calling → w ∉ (s.run events).calling)
  /-- There is one live subscription for each active watch that was given one when it began. -/
  subscriptions : s.network.subscriptions.length = s.standing.countP (·.2.isSome)

/-- Where no watch is active there is no tenant. -/
theorem tenant?_of_vacant (hm : s.usable? place = some m)
    (hfree : ∀ w, w.monitor = place → s.active w = false) : m.tenant? = none := by
  rcases ht : m.tenant? with _ | ⟨id, n⟩
  · rfl
  · have hactive : s.active ⟨place, id⟩ = true :=
      active_iff_tenant?.mpr ⟨n, (tenant?_of_monitor? (monitor?_of_usable? hm)).trans ht⟩
    rw [hfree _ rfl] at hactive
    cases hactive

namespace Sound

variable (h : s.Sound)
include h

/-- A watch that has begun is on some monitor. -/
theorem exists_monitor (hw : w ∈ begun s.log) : ∃ m, s.monitor? w.monitor = some m := by
  have hlt := h.begun_lt w hw
  rw [nextId] at hlt
  rcases hp : s.posts[w.monitor]? with _ | p
  · rw [hp] at hlt
    exact absurd hlt (Nat.not_lt_zero _)
  · exact ⟨p.over s.network, by rw [monitor?, hp, Option.map_some]⟩

theorem log_stop (hw : w ∈ begun s.log) : (s.stop w).log = .stopped w :: s.log := by
  obtain ⟨m, hm⟩ := h.exists_monitor hw
  simp only [Lookout.stop, hm, if_pos hw]
  rfl

theorem active_stop (hw : w ∈ begun s.log) (v : WatchRef) :
    (s.stop w).active v = (s.active v && v != w) := by
  rw [Bool.eq_iff_iff, (h.stop w).active_iff, h.log_stop hw, Bool.and_eq_true, h.active_iff]
  simp only [ongoing, List.mem_filter, decide_eq_true_eq, exists_and_right, bne_iff_ne]

theorem active_clear (hm : s.usable? place = some m) (w : WatchRef) :
    (s.clear place).active w = (s.active w && w.monitor != place) := by
  have hlog : (s.clear place).log = .cleared place :: s.log := by
    simp only [Lookout.clear, hm]
    rfl
  rw [Bool.eq_iff_iff, (h.clear place).active_iff, hlog, Bool.and_eq_true, h.active_iff]
  simp only [ongoing, List.mem_filter, decide_eq_true_eq, exists_and_right, bne_iff_ne]

theorem exclusive : s.Exclusive where
  active_iff _ := h.active_iff
  alone v w hv hw hplace := by
    obtain ⟨n, hn⟩ := h.active_iff.mp hv
    obtain ⟨k, hk⟩ := h.active_iff.mp hw
    exact congrArg Prod.fst (h.eq_of_monitor_eq hn hk hplace)
  start_taken w m hm hw := by
    obtain ⟨n, hn⟩ := active_iff_tenant?.mp hw
    rw [tenant?_of_monitor? (monitor?_of_usable? hm)] at hn
    exact start_of_tenant hm (hn ▸ rfl)
  start_failing place m hm hfree error network hs :=
    ⟨Source.error_of_snapshot hs, Source.sameSubscriptions_of_snapshot hs,
      start_of_error hm (tenant?_of_vacant hm hfree) hs⟩
  start_new place m hm hfree baseline network hs := by
    have hmonitor := monitor?_of_usable? hm
    obtain ⟨begun, n, hstart, -, htenant, -, hsubs, hn, -⟩ :=
      exists_start_of_ok hm (tenant?_of_vacant hm hfree) hs
    refine ⟨⟨place, m.nextId⟩, n, rfl, h.notMem_begun hmonitor, ?_, ?_, ?_, ?_⟩
    · rw [Lookout.perform, (h.start place).active_iff, hstart]
      exact ⟨n, List.mem_cons_self⟩
    · rw [Lookout.perform, hstart]
      rfl
    · rw [hn]
      split <;> simp [*]
    · rw [Lookout.perform, hstart]
      exact hsubs
  stop_own w hw := by
    refine ⟨⟨?_, ?_⟩, fun v hv => ?_⟩
    · rw [Lookout.perform, h.log_stop hw]
      exact begun_subset_cons _ _ hw
    · rw [Lookout.perform, h.active_stop hw]
      simp
    · rw [Lookout.perform, h.active_stop hw]
      simp [hv]
  stop_ended w hw := by
    obtain ⟨m, hm⟩ := h.exists_monitor hw.1
    exact stop_of_not_active hw.2 hw.1 hm
  clear_own place m hm request hrequest w := by
    rcases List.mem_pair.mp hrequest with rfl | rfl <;> exact h.active_clear hm w
  silent _ hw := h.hasEnded_run hw
  subscriptions := h.length_subscriptions

end Sound

/-- **There is one watch at a time.** At every moment callers can rely on `Exclusive`. If the source
can always tell of changes and all monitors want to be told of them, there are as many subscriptions
as active watches. -/
theorem exclusive_run (network : Source) (settings : List WatchSettings) (events : List Event) :
    ((opened network settings).run events).Exclusive ∧
      (network.tells = true → (∀ config ∈ settings, config.notifications = true) →
        (∀ next, .network next ∈ events → next.tells = true) →
          ((opened network settings).run events).network.subscriptions.length =
            ((opened network settings).run events).standing.length) := by
  have hsound := (sound_opened network settings).run events
  exact ⟨hsound.exclusive, fun htells hwanted hevents =>
    hsound.length_subscriptions_of_told ((told_opened htells hwanted).run hevents)⟩

/-- Interfaces that come and go, in a network that two monitors share. -/
def cable : Interface := { index := 1, name := "eth0", status := .up }

def radio : Interface := { index := 2, name := "wlan0", status := .up, kind := .wifi }

/-- Both monitors watch. Two changes are found at once; in the call with the first of them the
listener stops its watch and begins a new one. Its old watcher is let go later, the first snapshot of
a third watch fails, and its monitor is dropped. -/
def shift : List Event :=
  [.call .outside (.start 0), .call .outside (.start 1), .network { interfaces := [radio] },
    .observe 0, .deliver 0, .call (.inside ⟨0, 0⟩) (.stop ⟨0, 0⟩),
    .call (.inside ⟨0, 0⟩) (.start 0), .deliver 0, .returned ⟨0, 0⟩, .call .outside (.stop ⟨0, 0⟩),
    .call .outside (.clear 1), .network { interfaces := [radio], failure := some "transient" },
    .call .outside (.start 1), .call .outside (.drop 1)]

theorem exclusive_run_shift :
    let s := (opened { interfaces := [cable] } [{}, {}]).run shift
    s.Exclusive ∧ s.active ⟨0, 1⟩ = true ∧ s.HasEnded ⟨0, 0⟩ ∧
      s.heardBy ⟨0, 0⟩ = [.removed cable] ∧ .refused 1 (.platform "transient") ∈ s.log ∧
      s.network.subscriptions.length = s.standing.length ∧ s.standing.length = 1 := by
  obtain ⟨hexclusive, hlength⟩ := exclusive_run { interfaces := [cable] } [{}, {}] shift
  refine ⟨hexclusive, by decide, ⟨by decide, by decide⟩, by decide, by decide, ?_, by decide⟩
  refine hlength rfl (by decide) fun next hnext => ?_
  simp only [shift, List.mem_cons, Event.network.injEq, reduceCtorEq, false_or, List.not_mem_nil,
    or_false] at hnext
  rcases hnext with rfl | rfl <;> rfl

/-- A source that cannot tell of changes is watched all the same, though the monitor wants to be told
of them. -/
theorem standing_of_mute :
    let s := (opened { tells := false } [{ notifications := true }]).run [.call .outside (.start 0)]
    s.active ⟨0, 0⟩ = true ∧ s.standing.length = 1 ∧ s.network.subscriptions.length = 0 := by
  decide

end Lookout

end Dialer
