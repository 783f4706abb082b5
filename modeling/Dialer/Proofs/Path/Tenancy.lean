import Dialer.Proofs.Path.Watching

/-!
# Who watches

The watch that is active on a monitor, with its subscription at the source, is the tenant of the
monitor. A watch that begins finds no tenant and becomes one, a watch that ends leaves none, and
nothing else makes a difference: snapshots and deliveries leave the tenant and all subscriptions as
they are.

* `Monitor.start_of_tenant`, `Monitor.start_of_error`, `Monitor.exists_start_of_ok`: what becomes of
  a watch that is to begin.
* `Monitor.tenant?_endWatch`, `Monitor.subscriptions_endWatch`: what a watch leaves behind.
-/

namespace Dialer

/-! ### Subscriptions -/

/-- A source with the subscriptions of another one. -/
structure Source.SameSubscriptions (s t : Source) : Prop where
  subscriptions : s.subscriptions = t.subscriptions
  nextSubscription : s.nextSubscription = t.nextSubscription

namespace Source

variable {s t : Source}

/-- Another network, with the subscriptions there are. -/
def become (s next : Source) : Source :=
  { next with subscriptions := s.subscriptions, nextSubscription := s.nextSubscription }

theorem sameSubscriptions_become (s next : Source) : (s.become next).SameSubscriptions s :=
  ⟨rfl, rfl⟩

theorem SameSubscriptions.refl (s : Source) : s.SameSubscriptions s := ⟨rfl, rfl⟩

theorem sameSubscriptions_snapshot (s : Source) : s.snapshot.2.SameSubscriptions s := by
  unfold snapshot read
  split <;> rename_i h <;> split at h <;> cases h <;> exact ⟨rfl, rfl⟩

theorem sameSubscriptions_of_snapshot {reading : Except MonitorError Snapshot}
    (h : s.snapshot = (reading, t)) : t.SameSubscriptions s := by
  have hsame := sameSubscriptions_snapshot s
  rwa [h] at hsame

theorem tells_of_snapshot {reading : Except MonitorError Snapshot}
    (h : s.snapshot = (reading, t)) : t.tells = s.tells := by
  unfold snapshot read at h
  split at h <;> rename_i hread <;> split at hread <;> cases hread <;> cases h <;> rfl

/-- A source fails with a text of its own. -/
theorem error_of_snapshot {e : MonitorError} (h : s.snapshot = (.error e, t)) :
    e ≠ .alreadyWatching := by
  unfold snapshot read at h
  split at h <;> rename_i hread <;> split at hread <;> cases hread <;> cases h
  exact nofun

end Source

namespace Monitor

variable {m after : Monitor} {id : Nat} {subscription : Option Nat} {network : Source}

/-- A monitor that finds out about changes in the manner of another one. -/
structure SameManner (m n : Monitor) : Prop where
  config : m.config = n.config
  tells : m.source.tells = n.source.tells

/-! ### Tenants -/

/-- The watch that is active, and its subscription. -/
def tenant? (m : Monitor) : Option (Nat × Option Nat) := m.watch.map fun w => (w.id, w.subscription)

theorem tenant?_eq_some_iff :
    m.tenant? = some (id, subscription) ↔
      ∃ w, m.watch = some w ∧ w.id = id ∧ w.subscription = subscription := by
  simp [tenant?]

theorem tenant?_eq_none_iff : m.tenant? = none ↔ m.watch = none := Option.map_eq_none_iff

theorem watching_eq_isSome (m : Monitor) : m.watching = m.tenant?.isSome :=
  (Option.isSome_map).symm

theorem active_iff : m.active id = true ↔ ∃ subscription, m.tenant? = some (id, subscription) := by
  unfold active tenant?
  cases m.watch <;> simp

/-! ### Ends -/

theorem tenant?_endWatch (m : Monitor) : m.endWatch.tenant? = none :=
  tenant?_eq_none_iff.mpr (watch_endWatch m)

theorem nextId_endWatch (m : Monitor) : m.endWatch.nextId = m.nextId := by
  unfold endWatch
  split <;> rfl

theorem nextSubscription_endWatch (m : Monitor) :
    m.endWatch.source.nextSubscription = m.source.nextSubscription := by
  unfold endWatch
  split
  · rfl
  · rename_i w _
    cases w.subscription <;> rfl

theorem sameManner_endWatch (m : Monitor) : m.endWatch.SameManner m := by
  unfold endWatch
  split
  · exact ⟨rfl, rfl⟩
  · rename_i w _
    cases w.subscription <;> exact ⟨rfl, rfl⟩

theorem endWatch_of_tenant?_eq_none (h : m.tenant? = none) : m.endWatch = m := by
  rw [tenant?_eq_none_iff] at h
  simp only [endWatch, h]

/-- A watch that ends takes its subscription with it. -/
theorem subscriptions_endWatch (h : m.tenant? = some (id, subscription)) :
    m.endWatch.source.subscriptions =
      m.source.subscriptions.filter fun n => subscription ≠ some n := by
  obtain ⟨w, hw, -, rfl⟩ := tenant?_eq_some_iff.mp h
  simp only [endWatch, hw]
  cases hs : w.subscription with
  | none => simp
  | some n => simp [Source.unsubscribe, bne, eq_comm, Bool.beq_eq_decide_eq]

theorem stop_of_not_active (h : m.active id = false) : m.stop id = m := by
  rw [stop, h]
  rfl

/-! ### Beginnings -/

/-- While a watch is active no other one can begin. -/
theorem start_of_tenant (h : m.tenant?.isSome = true) :
    m.start = (.error .alreadyWatching, m) := by
  rw [← watching_eq_isSome] at h
  rw [start, if_pos h]

theorem start_of_error (h : m.tenant? = none) {e : MonitorError}
    (hs : m.source.snapshot = (.error e, network)) : m.start = (.error e, m.withNetwork network) := by
  rw [start, watching_eq_isSome, h, hs]
  rfl

/-- **A watch that begins** with its first snapshot is a new one, and if it is to be told of changes
by a source that can tell, it has a new subscription. -/
theorem exists_start_of_ok (h : m.tenant? = none) {baseline : Snapshot}
    (hs : m.source.snapshot = (.ok baseline, network)) :
    ∃ begun subscription, m.start = (.ok m.nextId, begun) ∧
      begun.tenant? = some (m.nextId, subscription) ∧ begun.nextId = m.nextId + 1 ∧
      begun.source.subscriptions = m.source.subscriptions ++ subscription.toList ∧
      subscription = (if m.config.notifications && network.tells then
        some m.source.nextSubscription else none) ∧
      begun.source.nextSubscription = m.source.nextSubscription + subscription.toList.length := by
  have hsame := Source.sameSubscriptions_of_snapshot hs
  have hfree : ¬ m.watching = true := by
    rw [watching_eq_isSome, h]
    exact nofun
  rw [start, if_neg hfree, hs]
  refine ⟨_, _, rfl, rfl, rfl, ?_⟩
  unfold Source.subscribe?
  cases m.config.notifications <;> cases network.tells <;>
    simp [hsame.subscriptions, hsame.nextSubscription]

theorem sameManner_start (m : Monitor) : m.start.2.SameManner m := by
  unfold start
  split
  · exact ⟨rfl, rfl⟩
  · rcases hs : m.source.snapshot with ⟨e | baseline, network⟩
    · exact ⟨rfl, Source.tells_of_snapshot hs⟩
    · refine ⟨rfl, Eq.trans ?_ (Source.tells_of_snapshot hs)⟩
      unfold Source.subscribe?
      cases m.config.notifications <;> cases h : network.tells <;> simp [h]

/-! ### Snapshots and deliveries -/

/-- A monitor with the tenant and the subscriptions of another one. -/
structure SameTenant (m n : Monitor) : Prop where
  tenant : m.tenant? = n.tenant?
  nextId : m.nextId = n.nextId
  source : m.source.SameSubscriptions n.source

theorem SameTenant.refl (m : Monitor) : m.SameTenant m := ⟨rfl, rfl, .refl _⟩

theorem sameTenant_observe (m : Monitor) : m.observe.SameTenant m := by
  unfold observe
  split
  · exact .refl m
  · rename_i w hw
    split <;> rename_i hs <;>
      exact ⟨by simp [tenant?, hw], rfl, Source.sameSubscriptions_of_snapshot hs⟩

theorem sameManner_observe (m : Monitor) : m.observe.SameManner m := by
  unfold observe
  split
  · exact ⟨rfl, rfl⟩
  · split <;> rename_i hs <;> exact ⟨rfl, Source.tells_of_snapshot hs⟩

/-- What is delivered belongs to the tenant. -/
theorem sameTenant_of_deliver? {change : Change} (h : m.deliver? = some ((id, change), after)) :
    after.SameTenant m ∧ m.active id = true := by
  unfold deliver? at h
  split at h
  · cases h
  · rename_i w hw
    split at h <;> cases h
    exact ⟨⟨by simp [tenant?, hw], rfl, .refl _⟩, by simp [active, hw]⟩

theorem sameManner_of_deliver? {change : Change} (h : m.deliver? = some ((id, change), after)) :
    after.SameManner m := by
  unfold deliver? at h
  split at h
  · cases h
  · split at h <;> cases h
    exact ⟨rfl, rfl⟩

end Monitor

end Dialer
