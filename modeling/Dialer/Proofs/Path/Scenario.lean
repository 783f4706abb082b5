import Dialer.Path.Scenario
import Dialer.Proofs.Path.Succession

/-!
# Watch scenarios come to events

A round of a watch is a snapshot, and then for each change a call of the listener, which may stop
the watch, and its return (`Lookout.Leads.round`). So what becomes of the monitor of a scenario is
what becomes, by some events, of the first monitor of a lookout
(`WatchScenario.State.followedBy_run`), and what holds of every lookout holds of it.
-/

namespace Dialer

namespace Source

variable {s t : Source}

theorem become_of_sameSubscriptions (h : t.SameSubscriptions s) : s.become t = t := by
  rw [become, ← h.subscriptions, ← h.nextSubscription]

theorem SameSubscriptions.trans {u : Source} (h : u.SameSubscriptions t)
    (ht : t.SameSubscriptions s) : u.SameSubscriptions s :=
  ⟨h.subscriptions.trans ht.subscriptions, h.nextSubscription.trans ht.nextSubscription⟩

theorem sameSubscriptions_read (s : Source) : s.read.2.SameSubscriptions s := by
  unfold read
  split <;> exact ⟨rfl, rfl⟩

theorem sameSubscriptions_edits (edits : List Edit) (s : Source) :
    (edits.foldl Source.edit s).SameSubscriptions s := by
  induction edits generalizing s with
  | nil => exact .refl s
  | cons e edits ih =>
    have hone : (s.edit e).SameSubscriptions s := by cases e <;> exact ⟨rfl, rfl⟩
    exact (ih (s.edit e)).trans hone

end Source

namespace Lookout

variable {k l : Lookout} {m after : Monitor} {d : Bool} {id : Nat} {change : Change}

theorem mem_begun_of_mem_ongoing {log : List Entry} {x : WatchRef × Option Nat}
    (hx : x ∈ ongoing log) : x.1 ∈ begun log := by
  induction log with
  | nil => cases hx
  | cons e log ih =>
    rcases mem_ongoing_cons hx with hx | rfl
    · exact begun_subset_cons e log (ih hx)
    · exact List.mem_cons_self

theorem monitor?_put {place : Nat} (hm : k.monitor? place = some m) :
    (k.put place after).monitor? place = some after := by
  have hlt := lt_length_of_monitor? hm
  simp only [monitor?, put, List.getElem?_set_self hlt]
  rfl

/-- **What shows of the first monitor of a lookout:** the monitor, whether it was dropped, and the
watches whose listeners are being called. -/
structure Shows (l : Lookout) (m : Monitor) (d : Bool) (calling : List WatchRef) : Prop where
  sound : l.Sound
  monitor : l.monitor? 0 = some m
  dropped : d = decide (0 ∈ l.dropped)
  calling : l.calling = calling

namespace Shows

variable {calling : List WatchRef} {caller : Caller}

/-- What is put in place of the first monitor shows. -/
theorem put (hk : k.Shows m d calling) {event : Event}
    (hstep : ∃ log, k.step event = { k.put 0 after with log }) :
    (k.step event).Shows after d calling := by
  have hsound := hk.sound.step event
  obtain ⟨log, hlog⟩ := hstep
  rw [hlog] at hsound ⊢
  exact ⟨hsound, monitor?_put hk.monitor, hk.dropped, hk.calling⟩

theorem usable (hk : k.Shows m false calling) : k.usable? 0 = some m := by
  have hnot : 0 ∉ k.dropped := by simpa using hk.dropped.symm
  rw [usable?, if_neg hnot, hk.monitor]

theorem start (hk : k.Shows m false calling) :
    (k.step (.call .outside (.start 0))).Shows m.start.2 false calling := by
  refine hk.put ?_
  change ∃ log, k.start 0 = _
  simp only [Lookout.start, hk.usable]
  rcases m.start with ⟨e | id, begun⟩ <;> exact ⟨_, rfl⟩

theorem clear (hk : k.Shows m false calling) :
    (k.step (.call .outside (.clear 0))).Shows m.endWatch false calling := by
  refine hk.put ?_
  change ∃ log, k.clear 0 = _
  rw [Lookout.clear, hk.usable]
  exact ⟨_, rfl⟩

theorem drop (hk : k.Shows m false calling) :
    (k.step (.call .outside (.drop 0))).Shows m.endWatch true calling where
  sound := hk.sound.step _
  monitor := hk.clear.monitor
  dropped := (decide_eq_true List.mem_cons_self).symm
  calling := hk.clear.calling

theorem network (hk : k.Shows m d calling) {next : Source}
    (hsame : next.SameSubscriptions m.source) :
    (k.step (.network next)).Shows (m.withNetwork next) d calling where
  sound := hk.sound.step _
  monitor := by
    rw [source_of_monitor? hk.monitor] at hsame
    obtain ⟨p, hp, rfl⟩ := Option.map_eq_some_iff.mp hk.monitor
    change k.posts[0]?.map (·.over (k.network.become next)) = _
    rw [hp, Source.become_of_sameSubscriptions hsame]
    rfl
  dropped := hk.dropped
  calling := hk.calling

/-- The watch that is active has begun. -/
theorem mem_begun (hk : k.Shows m d calling) (hactive : m.active id = true) :
    ⟨0, id⟩ ∈ begun k.log := by
  have hongoing : ∃ n, ((⟨0, id⟩ : WatchRef), n) ∈ ongoing k.log :=
    hk.sound.active_iff.mp (by rw [Lookout.active, hk.monitor]; exact hactive)
  obtain ⟨n, hn⟩ := hongoing
  exact mem_begun_of_mem_ongoing hn

/-- A watch is stopped through its watcher. -/
theorem stop (hk : k.Shows m d calling) (hactive : m.active id = true)
    (hcaller : k.hasCaller caller = true) :
    (k.step (.call caller (.stop ⟨0, id⟩))).Shows (m.stop id) d calling := by
  refine hk.put ?_
  rw [step, if_pos hcaller]
  change ∃ log, k.stop ⟨0, id⟩ = _
  simp only [Lookout.stop, hk.monitor, if_pos (hk.mem_begun hactive)]
  exact ⟨_, rfl⟩

theorem observe (hk : k.Shows m d []) (hp : ∀ w, m.watch = some w → w.pending = []) :
    (k.step (.observe 0)).Shows m.observe d [] := by
  refine hk.put ?_
  change ∃ log, k.observe 0 = _
  rcases hw : m.watch with _ | w
  · have hnone : m.watch.any (k.waiting 0) ≠ true := by simp [hw]
    simp only [Lookout.observe, hk.monitor, if_neg hnone, Monitor.observe_of_none hw]
    exact ⟨_, (put_self hk.monitor).symm⟩
  · have hwaits : m.watch.any (k.waiting 0) = true := by
      simp [hw, waiting, hp w hw, hk.calling]
    simp only [Lookout.observe, hk.monitor, if_pos hwaits]
    exact ⟨_, rfl⟩

/-- The listener of the watch is called with a change. -/
theorem deliver (hk : k.Shows m d []) (hd : m.deliver? = some ((id, change), after)) :
    (k.step (.deliver 0)).Shows after d [⟨0, id⟩] := by
  have hsound := hk.sound.step (.deliver 0)
  have hstep : k.step (.deliver 0) =
      { (k.put 0 after).note (.heard ⟨0, id⟩ change) with calling := [⟨0, id⟩] } := by
    change k.deliver 0 = _
    simp only [Lookout.deliver, hk.monitor, Option.bind_some, hd, hk.calling, List.not_mem_nil,
      if_false]
  rw [hstep] at hsound ⊢
  exact ⟨hsound, monitor?_put hk.monitor, hk.dropped, rfl⟩

theorem returned {w : WatchRef} (hk : k.Shows m d [w]) : (k.step (.returned w)).Shows m d [] where
  sound := hk.sound.step _
  monitor := hk.monitor
  dropped := hk.dropped
  calling := by simp [step, hk.calling]

end Shows

/-! ### Rounds -/

/-- Some events lead a lookout to a moment at which this is its first monitor and no listener is being
called. -/
def Leads (l : Lookout) (m : Monitor) (d : Bool) : Prop := ∃ events, (l.run events).Shows m d []

theorem Leads.trans_run (hl : l.Leads m d) {d' : Bool}
    (h : ∀ k : Lookout, k.Shows m d [] → k.Leads after d') : l.Leads after d' := by
  obtain ⟨events, hk⟩ := hl
  obtain ⟨later, hlater⟩ := h _ hk
  exact ⟨events ++ later, by rwa [run, List.foldl_append]⟩

/-- One more event. -/
theorem Leads.step (hl : l.Leads m d) {d' : Bool} (event : Event)
    (h : ∀ k : Lookout, k.Shows m d [] → (k.step event).Shows after d' []) : l.Leads after d' :=
  hl.trans_run fun k hk => ⟨[event], h k hk⟩

section Loop

variable {σ : Type} {callback : Callback σ} {w : WatchLoop σ}

/-- **A call of a listener** is its beginning, the stop of its own watch if it comes to that, and
its end. -/
theorem Leads.call (hl : l.Leads m d) (hd : m.deliver? = some ((id, change), after))
    (w : WatchLoop σ) :
    l.Leads (WatchLoop.call callback { w with monitor := after } change).monitor d := by
  refine hl.trans_run fun k hk => ?_
  have hcalled := hk.deliver hd
  have hactive : after.active id = true := by
    obtain ⟨hsame, hactive⟩ := Monitor.sameTenant_of_deliver? hd
    rw [Monitor.active_iff] at hactive ⊢
    rwa [hsame.tenant]
  rcases hs : (callback w.listener change).2.stopped with _ | _
  · have hgoes : (WatchLoop.call callback { w with monitor := after } change).monitor = after :=
      WatchLoop.monitor_call hs
    rw [hgoes]
    exact ⟨[.deliver 0, .returned ⟨0, id⟩], hcalled.returned⟩
  · have hinside : (k.step (.deliver 0)).hasCaller (.inside ⟨0, id⟩) = true := by
      simp [hasCaller, hcalled.calling]
    have hstopped := hcalled.stop hactive hinside
    have hends : (WatchLoop.call callback { w with monitor := after } change).monitor =
        after.stop id := by
      simp [WatchLoop.call, hs, Monitor.stop, hactive]
    rw [hends]
    exact ⟨[.deliver 0, .call (.inside ⟨0, id⟩) (.stop ⟨0, id⟩), .returned ⟨0, id⟩],
      hstopped.returned⟩

theorem Leads.deliverFor (fuel : Nat) (hl : l.Leads w.monitor d) :
    l.Leads (w.deliverFor callback fuel).monitor d := by
  induction fuel generalizing w with
  | zero => exact hl
  | succ fuel ih =>
    unfold WatchLoop.deliverFor
    rcases hd : w.monitor.deliver? with _ | ⟨⟨id, change⟩, after⟩
    · exact hl
    · exact ih (hl.call hd w)

/-- **A round comes to some events,** if nothing is left from the round before. -/
theorem Leads.round (hl : l.Leads w.monitor d)
    (hp : ∀ v, w.monitor.watch = some v → v.pending = []) :
    l.Leads (w.round callback { network := w.monitor.source }).monitor d :=
  Leads.deliverFor _ (hl.step (.observe 0) fun _ hk => hk.observe hp)

end Loop

end Lookout

/-! ### What is left between operations -/

/-- A round leaves nothing to be delivered. -/
theorem WatchLoop.pending_round {σ : Type} {callback : Callback σ} (l : WatchLoop σ) (r : Round)
    {v : Watch} (hv : (l.round callback r).monitor.watch = some v) : v.pending = [] := by
  unfold round at hv
  split_ifs at hv
  · rw [Monitor.watch_endWatch] at hv
    cases hv
  · unfold deliver at hv
    generalize { l with monitor := (l.monitor.withNetwork r.network).observe } = found at hv
    rcases hw : found.monitor.watch with _ | w
    · rw [deliverFor_of_none hw, hw] at hv
      cases hv
    · rw [hw] at hv
      have hwatching : (found.deliverFor callback w.pending.length).monitor.watching = true := by
        change (found.deliverFor callback w.pending.length).monitor.watch = _ at hv
        rw [Monitor.watching, hv]
        rfl
      have hnone := (deliverFor_of_watching w.pending found hw hwatching).1
      change (found.deliverFor callback w.pending.length).monitor.watch = _ at hv
      rw [hnone] at hv
      cases hv
      rfl

namespace Monitor

variable {m : Monitor}

theorem pending_start (hp : ∀ w, m.watch = some w → w.pending = []) :
    ∀ w, m.start.2.watch = some w → w.pending = [] := by
  unfold start
  split
  · exact hp
  · split
    · exact hp
    · rintro w hw
      obtain rfl := Option.some.inj hw
      rfl

end Monitor

namespace WatchScenario.State

open Lookout (Leads)

variable {l : Lookout} {s t : State}

/-- **A lookout follows a scenario:** some events lead to its monitor. Between operations nothing is
left to be delivered, and a monitor that was dropped has no watch. -/
structure FollowedBy (s : State) (l : Lookout) : Prop where
  leads : l.Leads s.monitor s.monitorDropped
  settled : ∀ w, s.monitor.watch = some w → w.pending = []
  idle : s.monitorDropped = true → s.monitor.watch = none

namespace FollowedBy

/-- Names, listeners and queues are the scenario's own. -/
theorem congr (h : s.FollowedBy l) (hm : t.monitor = s.monitor)
    (hd : t.monitorDropped = s.monitorDropped) : t.FollowedBy l :=
  ⟨hm ▸ hd ▸ h.leads, hm ▸ h.settled, hm ▸ hd ▸ h.idle⟩

theorem network (h : s.FollowedBy l) {next : Source}
    (hsame : next.SameSubscriptions s.monitor.source) :
    FollowedBy { s with monitor := s.monitor.withNetwork next } l :=
  ⟨h.leads.step (.network next) fun _ hk => hk.network hsame, h.settled, h.idle⟩

theorem edit (h : s.FollowedBy l) (edits : List Edit) : (s.edit edits).FollowedBy l :=
  h.network (Source.sameSubscriptions_edits edits _)

theorem endWatch (h : s.FollowedBy l) : s.endWatch.FollowedBy l := by
  have hnone := Monitor.watch_endWatch s.monitor
  refine ⟨?_, by simp [State.endWatch, hnone], fun _ => hnone⟩
  change l.Leads s.monitor.endWatch s.monitorDropped
  rcases hd : s.monitorDropped with _ | _
  · exact (hd ▸ h.leads).step (.call .outside (.clear 0)) fun _ hk => hk.clear
  · have hself := Monitor.endWatch_of_tenant?_eq_none
      (Monitor.tenant?_eq_none_iff.mpr (h.idle hd))
    rw [hself, ← hd]
    exact h.leads

theorem stop (h : s.FollowedBy l) (name : String) : (s.stop name).FollowedBy l := by
  unfold State.stop
  split
  · exact h
  · rename_i id _
    rcases hactive : s.monitor.active id with _ | _
    · exact h.congr (Monitor.stop_of_not_active hactive) rfl
    · have hnone : (s.monitor.stop id).watch = none := by
        rw [Monitor.stop, if_pos hactive]
        exact Monitor.watch_endWatch _
      refine ⟨?_, by simp [hnone], fun _ => hnone⟩
      exact h.leads.step (.call .outside (.stop ⟨0, id⟩)) fun _ hk => hk.stop hactive rfl

theorem drop (h : s.FollowedBy l) : FollowedBy { s.endWatch with monitorDropped := true } l := by
  have hend := h.endWatch
  refine ⟨?_, hend.settled, fun _ => Monitor.watch_endWatch _⟩
  change l.Leads s.monitor.endWatch true
  rcases hd : s.monitorDropped with _ | _
  · exact (hd ▸ h.leads).step (.call .outside (.drop 0)) fun _ hk => hk.drop
  · exact hd ▸ hend.leads

theorem observe (h : s.FollowedBy l) : s.observe.FollowedBy l := by
  unfold State.observe
  rcases hloop : s.loop? with _ | ⟨id, loop⟩
  · exact h
  obtain ⟨w, hw, hrest⟩ := Option.bind_eq_some_iff.mp hloop
  obtain ⟨listener, -, heq⟩ := Option.bind_eq_some_iff.mp hrest
  cases heq
  refine ⟨?_, fun v hv => WatchLoop.pending_round _ _ hv, fun hd => ?_⟩
  · exact Leads.round h.leads h.settled
  · rw [h.idle hd] at hw
    cases hw

theorem watch (h : s.FollowedBy l) (hd : s.monitorDropped = false) (name : String)
    (listener : Listener) : (s.watch name listener).2.FollowedBy l := by
  have hstart : FollowedBy { s with monitor := s.monitor.start.2 } l := by
    refine ⟨?_, Monitor.pending_start h.settled, fun hdropped => ?_⟩
    · change l.Leads s.monitor.start.2 s.monitorDropped
      rw [hd]
      exact (hd ▸ h.leads).step (.call .outside (.start 0)) fun _ hk => hk.start
    · rw [hd] at hdropped
      cases hdropped
  unfold State.watch
  rcases hm : s.monitor.start with ⟨e | id, begun⟩ <;> rw [hm] at hstart
  · exact hstart
  · exact hstart.congr rfl rfl

theorem withMonitor (h : s.FollowedBy l) {operation : State → Answer × State}
    (ho : s.monitorDropped = false → (operation s).2.FollowedBy l) :
    (s.withMonitor operation).2.FollowedBy l := by
  unfold State.withMonitor
  rcases hd : s.monitorDropped with _ | _
  · exact ho hd
  · exact h

theorem withWatch (h : s.FollowedBy l) {operation : State → State}
    (ho : (operation s).FollowedBy l) : (s.withWatch operation).2.FollowedBy l := by
  unfold State.withWatch
  split_ifs
  · exact ho
  · exact h

theorem answer {α : Type} (h : s.FollowedBy l) {reading : Except MonitorError α × Monitor}
    (found : α → Answer) {next : Source} (hsame : next.SameSubscriptions s.monitor.source)
    (hm : reading.2 = s.monitor.withNetwork next) : (s.answer reading found).2.FollowedBy l := by
  have hnext := h.network hsame
  rw [← hm] at hnext
  unfold State.answer
  rcases reading.1 with e | a <;> exact hnext

/-- **An operation comes to some events.** -/
theorem perform (h : s.FollowedBy l) (operation : Operation) :
    (s.perform operation).2.FollowedBy l := by
  have hread := Source.sameSubscriptions_read s.monitor.source
  cases operation with
  | list | select => exact h.withMonitor fun _ => h.answer _ hread rfl
  | defaultInterface =>
    exact h.withMonitor fun _ => h.answer _ (Source.sameSubscriptions_snapshot _) rfl
  | start name panicOn stopAt =>
    refine h.withMonitor fun hd => ?_
    have hwatch := h.watch hd name (.calls panicOn stopAt 0)
    split <;> rename_i heq <;> rw [heq] at hwatch <;> exact hwatch
  | subscribe name =>
    refine h.withMonitor fun hd => ?_
    have hwatch := h.watch hd name (.queue [])
    split <;> rename_i heq <;> rw [heq] at hwatch
    · exact hwatch
    · exact hwatch.congr rfl rfl
  | tryNext name =>
    unfold State.perform
    dsimp only
    split <;> exact h.congr rfl rfl
  | drain name =>
    unfold State.perform
    dsimp only
    split <;> exact h.congr rfl rfl
  | stop name => exact h.stop name
  | dropWatcher name => exact (h.stop name).congr rfl rfl
  | stopWatching => exact h.endWatch
  | dropMonitor => exact h.drop
  | failNext text => exact h.network ⟨rfl, rfl⟩
  | edit e =>
    unfold State.perform
    dsimp only
    split_ifs
    · exact (h.edit [e]).observe
    · exact h.edit [e]
  | batch edits =>
    refine h.withWatch ?_
    dsimp only
    split_ifs
    · exact (h.edit edits).observe.observe
    · exact (h.edit edits).observe
    · exact h.edit edits
  | tick => exact h.withWatch h.observe

end FollowedBy

/-- **A scenario comes to some events.** -/
theorem followedBy_run (h : s.FollowedBy l) (operations : List Operation) :
    (run s operations).2.FollowedBy l := by
  induction operations generalizing s with
  | nil => exact h
  | cons operation rest ih =>
    have hfresh : FollowedBy { s with called := [] } l := h.congr rfl rfl
    exact ih (hfresh.perform operation)

/-- A scenario begins with a network that no one has subscribed to. -/
theorem followedBy_opened (network : Source) (config : WatchSettings)
    (hnone : network.subscriptions = []) :
    FollowedBy { monitor := { source := network, config } } (Lookout.opened network [config]) where
  leads := by
    refine ⟨[], Lookout.sound_opened _ _, ?_, rfl, rfl⟩
    have hopened : { network with subscriptions := [] } = network := by rw [← hnone]
    simp [Lookout.opened, Lookout.monitor?, Lookout.run, Post.over, hopened]
  settled := nofun
  idle := nofun

end WatchScenario.State

end Dialer
