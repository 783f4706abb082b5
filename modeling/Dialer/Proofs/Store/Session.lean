import Dialer.Proofs.Store.Stale

/-!
# Sessions

Callers make calls on a store, one of them or several, while the network changes and peers read and
write, all in any order; each of these is a `Store.Event`. A `Session` is a store with the ledgers of
the handles it has given out. Handles are released by the call that frees the object, and all of them
when everything is released.

* `Session.right_run`: the ledgers are right at every moment of a session.
* `Session.get?_run`: what a handle stands for stays what it is, up to what calls make of it that are
  given that very handle.
* `Session.handles_reliable`: handles are new when they are given out, stand for one object until they
  are released, and for none ever after.
-/

namespace Dialer

/-- One thing that happens to a store. -/
inductive Store.Event
  | call (around : Surroundings) (call : Store.Call)
  /-- Someone else makes a call. -/
  | callElsewhere (around : Surroundings) (call : Store.Call)
  /-- Something happens to the monitor at a place. -/
  | network (place : Nat) (change : Monitor → Monitor)
  /-- Something happens to the connection at a place. -/
  | peer (place : Nat) (change : StreamConnection → StreamConnection)

/-- The call an event is, if it is one. -/
def Store.Event.call? : Event → Option Call
  | call _ c | callElsewhere _ c => some c
  | network _ _ | peer _ _ => none

/-- What an event is to do to the objects of a kind. -/
def Store.Event.deed (r : Store) (e : Event) (kind : HandleKind) : Deed kind.Content :=
  match e.call? with
  | some c => c.deed r kind
  | none => .nothing

namespace Store

/-- What a handle stands for in the eyes of calls. Monitors and connections are known by their
places. -/
def object? (r : Store) : (kind : HandleKind) → Handle → Option kind.Content
  | .pathMonitor, h => (r.monitor h).toOption.map Prod.fst
  | .watcher, h => r.watchers.get? h
  | .preconnection, h => r.preconnections.get? h
  | .remoteEndpoint, h => r.endpoints.get? h
  | .connection, h => (r.connection h).toOption.map Prod.fst

/-- What happens to a store, and the handle that is returned, if one is. -/
def undergo (r : Store) : Event → Option Handle × Store
  | .call around c =>
    let (answer, r) := r.perform around c
    (newHandle? answer, r)
  | .callElsewhere around c =>
    let (answer, r) := r.performElsewhere around c
    (newHandle? answer, r)
  | .network place change => (none, r.onMonitor place change)
  | .peer place change => (none, r.onConnection place change)

end Store

/-- **A store, and the handles it has given out.** -/
structure Session where
  store : Store := {}
  ledger : HandleKind → Ledger := fun _ => {}

namespace Session

/-- **One event.** -/
def step (s : Session) (e : Store.Event) : Session :=
  let (new, store) := s.store.undergo e
  { store, ledger := fun kind => (s.ledger kind).after (e.deed s.store kind) new }

/-- Events in order. -/
def run (s : Session) (events : List Store.Event) : Session := events.foldl step s

/-- No slot of any table was used more often than generations can be told apart. -/
def Sparing (s : Session) : Prop := ∀ kind, (s.ledger kind).Sparing

/-- What events make of the object of a handle. -/
def revise (s : Session) (kind : HandleKind) (h : Handle) (a : kind.Content) :
    List Store.Event → kind.Content
  | [] => a
  | e :: rest => (s.step e).revise kind h ((e.deed s.store kind).revise h a) rest

end Session

/-! ### One event -/

namespace Store

variable {r r' : Store} {kind : HandleKind} {h : Handle}

theorem sameTables_perform (r : Store) (around : Surroundings) (c : Call) :
    newHandle? (r.perform around c).1 = newHandle? (r.carryOut around c).1 ∧
      (r.carryOut around c).2.SameTables (r.perform around c).2 := by
  unfold perform
  split
  · next he => rw [he]; exact ⟨rfl, fun kind => by cases kind <;> rfl, rfl, rfl⟩
  · next he => rw [he]; exact ⟨rfl, .refl _⟩

theorem sameTables_performElsewhere (r : Store) (around : Surroundings) (c : Call) :
    (r.perform around c).2.SameTables (r.performElsewhere around c).2 :=
  ⟨fun kind => by cases kind <;> rfl, rfl, rfl⟩

/-- **Every event does its deed on every table.** -/
theorem carried_undergo (r : Store) (e : Event) :
    r.Carried (e.deed r) (r.undergo e).1 (r.undergo e).2 := by
  have hcall (around : Surroundings) (c : Call) :
      r.Carried (c.deed r) (newHandle? (r.perform around c).1) (r.perform around c).2 := by
    obtain ⟨hnew, hsame⟩ := sameTables_perform r around c
    rw [hnew]
    exact (carried_carryOut r around c).sameTables hsame
  have hnothing {r' : Store} (hs : r.SameTables r') : r.Carried (fun _ => .nothing) none r' :=
    ⟨fun kind => hs.table kind ▸ .nothing _, Nat.le_of_eq hs.monitors.symm,
      Nat.le_of_eq hs.connections.symm⟩
  cases e with
  | call around c => exact hcall around c
  | callElsewhere around c =>
    exact (hcall around c).sameTables (sameTables_performElsewhere r around c)
  | network place change => exact hnothing (sameTables_onMonitor r place change)
  | peer place change => exact hnothing (sameTables_onConnection r place change)

/-- Objects of these kinds are not changed by calls that are given their handles. What happens to
them happens in the lists they were entered into. -/
theorem deed_revise_of_place (hk : kind ≠ .preconnection ∧ kind ≠ .remoteEndpoint) (e : Event)
    (a : kind.Content) : (e.deed r kind).revise h a = a := by
  unfold Event.deed
  split
  · next c _ =>
    cases kind with
    | preconnection => exact absurd rfl hk.1
    | remoteEndpoint => exact absurd rfl hk.2
    | pathMonitor | watcher | connection => cases c <;> rfl
  · rfl

/-- **A call that is not given a handle leaves the object of the handle alone.** -/
theorem deed_revise_of_not_given {e : Event}
    (hg : ∀ c ∈ e.call?, ∀ g ∈ c.given, g.1 = kind → Key.ofHandle? g.2 ≠ Key.ofHandle? h)
    (a : kind.Content) : (e.deed r kind).revise h a = a := by
  by_cases hk : kind ≠ .preconnection ∧ kind ≠ .remoteEndpoint
  · exact deed_revise_of_place hk e a
  unfold Event.deed
  split
  case h_2 => rfl
  case h_1 c hc =>
    have hg := hg c hc
    cases kind with
    | pathMonitor | watcher | connection => exact absurd ⟨by decide, by decide⟩ hk
    | remoteEndpoint =>
      cases hs : c.setting? with
      | none => cases c <;> first | rfl | cases hs
      | some setting =>
        obtain ⟨changed, checked⟩ := setting
        have hne := hg _ (given_of_setting? hs ▸ List.mem_singleton_self _) rfl
        have hd : c.deed r .remoteEndpoint = .checked changed checked := endpointDeed_of_setting? hs
        rw [hd]
        cases checked with
        | ok f => exact if_neg hne
        | error => rfl
    | preconnection =>
      cases c with
      | addRemote changed endpoint =>
        have hne := hg (.preconnection, changed) (by simp [Call.given]) rfl
        cases he : r.endpoints.get? endpoint with
        | some e => rw [Call.deed, preconnectionDeed_of_some he]; exact if_neg hne
        | none => rw [Call.deed, preconnectionDeed_of_none he]; rfl
      | setSecurityDisabled changed =>
        exact if_neg (hg (.preconnection, changed) (by simp [Call.given]) rfl)
      | _ => rfl

/-- Everything in the tables is there. -/
def Sound (r : Store) : Prop := ∀ kind h a, (r.table kind).get? h = some a → r.Holds kind a

theorem object?_eq (hr : r.Sound) (kind : HandleKind) (h : Handle) :
    r.object? kind h = (r.table kind).get? h := by
  have hplaced {β : Type} (t : HandleTable Nat) (all : List β) (kind : HandleKind)
      (hlt : ∀ place, t.get? h = some place → place < all.length) :
      (placed t all kind h).toOption.map Prod.fst = t.get? h := by
    cases hg : t.get? h with
    | none => rw [placed_of_none hg]; rfl
    | some place => rw [placed_of_some hg (List.getElem?_eq_getElem (hlt place hg))]; rfl
  cases kind with
  | pathMonitor =>
    rw [object?, monitor]
    exact hplaced _ _ _ fun place => hr .pathMonitor h place
  | connection =>
    rw [object?, connection]
    exact hplaced _ _ _ fun place => hr .connection h place
  | watcher | preconnection | remoteEndpoint => rfl

theorem Carried.holds {deed : (kind : HandleKind) → Deed kind.Content} {new : Option Handle}
    (hc : r.Carried deed new r') (a : kind.Content) (ha : r.Holds kind a) : r'.Holds kind a := by
  cases kind with
  | pathMonitor | watcher => exact Nat.lt_of_lt_of_le ha hc.monitors
  | connection => exact Nat.lt_of_lt_of_le ha hc.connections
  | preconnection | remoteEndpoint => trivial

theorem sound_undergo (hr : r.Sound) (e : Event) : (r.undergo e).2.Sound := by
  have hc := carried_undergo r e
  intro kind
  refine (hc.done kind).forall_get? (fun h a ha => hc.holds a (hr kind h a ha)) (fun a ha => ha)
    fun h a ha => ?_
  by_cases hk : kind ≠ .preconnection ∧ kind ≠ .remoteEndpoint
  · rwa [deed_revise_of_place hk]
  · cases kind with
    | preconnection | remoteEndpoint => trivial
    | pathMonitor | watcher | connection => exact absurd ⟨by decide, by decide⟩ hk

end Store

/-! ### Whole sessions -/

namespace Session

variable {s : Session} {kind : HandleKind} {h : Handle} {e : Store.Event}

/-- The ledgers of a session are right about its tables. -/
structure Right (s : Session) : Prop where
  accounts : ∀ kind, (s.ledger kind).Accounts (s.store.table kind)
  sound : s.store.Sound

theorem right_empty : Right {} where
  accounts kind := by cases kind <;> exact Ledger.accounts_empty
  sound kind h a ha := by
    have hn : (Store.table {} kind).get? h = none := by
      cases kind <;> (simp only [Store.table, HandleTable.get?]; cases Key.ofHandle? h <;> rfl)
    simp [hn] at ha

theorem Sparing.of_step (hs : (s.step e).Sparing) : s.Sparing := fun kind => (hs kind).of_after

theorem Sparing.of_run {events : List Store.Event} (hs : (s.run events).Sparing) : s.Sparing := by
  induction events generalizing s with
  | nil => exact hs
  | cons e rest ih => exact (ih hs).of_step

theorem Right.step (hr : s.Right) (hs : (s.step e).Sparing) : (s.step e).Right where
  accounts kind := (hr.accounts kind).done ((Store.carried_undergo s.store e).done kind) (hs kind)
  sound := Store.sound_undergo hr.sound e

/-- **The ledgers stay right.** -/
theorem right_run {events : List Store.Event} (hr : s.Right) (hs : (s.run events).Sparing) :
    (s.run events).Right := by
  induction events generalizing s with
  | nil => exact hr
  | cons e rest ih => exact ih (hr.step (Sparing.of_run hs)) hs

theorem released_subset_run (s : Session) (events : List Store.Event) (kind : HandleKind) :
    (s.ledger kind).released ⊆ ((s.run events).ledger kind).released := by
  induction events generalizing s with
  | nil => exact List.Subset.refl _
  | cons e rest ih => exact List.Subset.trans (Ledger.released_subset_after _ _ _) (ih (s.step e))

/-- **What a handle stands for stays,** for as long as the handle is not released. -/
theorem get?_run {events : List Store.Event} {a : kind.Content}
    (ha : (s.store.table kind).get? h = some a) (hi : h ∈ (s.ledger kind).issued)
    (hr : h ∉ ((s.run events).ledger kind).released) :
    ((s.run events).store.table kind).get? h = some (s.revise kind h a events) := by
  induction events generalizing s a with
  | nil => exact ha
  | cons e rest ih =>
    have hr' : h ∉ ((s.step e).ledger kind).released := fun hm =>
      hr (released_subset_run (s.step e) rest kind hm)
    have ha' := ((Store.carried_undergo s.store e).done kind).get?_of_some ha hi hr'
    exact ih ha' (Ledger.issued_subset_after _ _ _ hi) hr

/-- A monitor, a watch or a connection is the same one ever after. -/
theorem revise_of_place (hk : kind ≠ .preconnection ∧ kind ≠ .remoteEndpoint) (s : Session)
    (h : Handle) (a : kind.Content) (events : List Store.Event) : s.revise kind h a events = a := by
  induction events generalizing s with
  | nil => rfl
  | cons e rest ih => rw [revise, Store.deed_revise_of_place hk]; exact ih _

theorem revise_of_not_given {events : List Store.Event}
    (hg : ∀ e ∈ events, ∀ c ∈ e.call?, ∀ g ∈ c.given,
      g.1 = kind → Key.ofHandle? g.2 ≠ Key.ofHandle? h)
    (s : Session) (a : kind.Content) : s.revise kind h a events = a := by
  induction events generalizing s with
  | nil => rfl
  | cons e rest ih =>
    rw [revise, Store.deed_revise_of_not_given (hg e List.mem_cons_self)]
    exact ih (fun e he => hg e (List.mem_cons_of_mem _ he)) _

/-- **A handle that is not released** stands for what it stood for, as revised since. -/
theorem object?_run {events : List Store.Event} (hs : s.Right) (hsp : (s.run events).Sparing)
    (hi : h ∈ (s.ledger kind).issued) (hr : h ∉ ((s.run events).ledger kind).released) :
    ∃ a, s.store.object? kind h = some a ∧
      (s.run events).store.object? kind h = some (s.revise kind h a events) := by
  have hlive : h ∉ (s.ledger kind).released := fun hm => hr (released_subset_run s events kind hm)
  obtain ⟨a, ha⟩ := Option.isSome_iff_exists.1 (((hs.accounts kind).live h hi).1 hlive)
  refine ⟨a, by rw [Store.object?_eq hs.sound, ha], ?_⟩
  rw [Store.object?_eq (right_run hs hsp).sound]
  exact get?_run ha hi hr

theorem get?_of_released (hs : s.Right) (hr : h ∈ (s.ledger kind).released) :
    (s.store.table kind).get? h = none := by
  have hi := (hs.accounts kind).released hr
  simpa using mt ((hs.accounts kind).live h hi).2 (not_not_intro hr)

/-- **What callers can rely on** at the end of a session that went on from an earlier moment, for the
handles of one kind. -/
structure Reliable (s : Session) (events : List Store.Event) (kind : HandleKind) : Prop where
  /-- A handle is not 0. -/
  ne_zero : ∀ h ∈ ((s.run events).ledger kind).issued, h ≠ 0
  /-- A handle is not given out twice. -/
  nodup : ((s.run events).ledger kind).issued.Nodup
  /-- A handle that was not released stands for the object it stood for at the earlier moment, with
  what the calls since then have made of it. -/
  same_object : ∀ h ∈ (s.ledger kind).issued, h ∉ ((s.run events).ledger kind).released →
    ∃ a, s.store.object? kind h = some a ∧
      (s.run events).store.object? kind h = some (s.revise kind h a events)
  /-- A monitor, a watch or a connection is the very same one. -/
  same_place : kind ≠ .preconnection ∧ kind ≠ .remoteEndpoint →
    ∀ h ∈ (s.ledger kind).issued, h ∉ ((s.run events).ledger kind).released →
      (s.run events).store.object? kind h = s.store.object? kind h
  /-- An endpoint or a preconnection changes only by calls that are given its handle. -/
  untouched : ∀ h ∈ (s.ledger kind).issued, h ∉ ((s.run events).ledger kind).released →
    (∀ e ∈ events, ∀ c ∈ e.call?, ∀ g ∈ c.given,
      g.1 = kind → Key.ofHandle? g.2 ≠ Key.ofHandle? h) →
    (s.run events).store.object? kind h = s.store.object? kind h
  /-- Every call that is given a handle that was released fails and changes nothing but the fault that
  is kept. The fault is that of another argument if there is one, else that of an invalid handle. -/
  dead : ∀ h ∈ ((s.run events).ledger kind).released,
    ∀ (around : Surroundings) (c : Store.Call), (kind, h) ∈ c.given →
      ∃ fault, (s.run events).store.perform around c =
          (.error fault, { (s.run events).store with lastFault := some fault }) ∧
        (c.argumentFault? = some fault ∨ c.argumentFault? = none ∧ fault.status = -2)

/-- **Handles are reliable** in every session that is sparing with generations. -/
theorem handles_reliable (before after : List Store.Event)
    (hs : ((run {} before).run after).Sparing) (kind : HandleKind) :
    Reliable (run {} before) after kind := by
  have hbefore : (run {} before).Right := right_run right_empty hs.of_run
  have hafter : ((run {} before).run after).Right := right_run hbefore hs
  constructor
  case ne_zero => exact fun h => (hafter.accounts kind).ne_zero
  case nodup => exact (hafter.accounts kind).nodup
  case same_object => exact fun h hi hr => object?_run hbefore hs hi hr
  case same_place =>
    intro hk h hi hr
    obtain ⟨a, ha, ha'⟩ := object?_run hbefore hs hi hr
    rw [ha', ha, revise_of_place hk]
  case untouched =>
    intro h hi hr hg
    obtain ⟨a, ha, ha'⟩ := object?_run hbefore hs hi hr
    rw [ha', ha, revise_of_not_given hg]
  case dead =>
    intro h hr around c hg
    obtain ⟨fault, hp, hf⟩ := Store.perform_of_stale hg (get?_of_released hafter hr) around
    refine ⟨fault, hp, hf.imp_right fun ⟨hn, g, _, hfault⟩ => ⟨hn, ?_⟩⟩
    rw [hfault]
    rfl

/-- One slot is used three times, and its handles are three. -/
theorem handles_reliable_three :
    let first : Handle := 0x100000001
    let before : List Store.Event :=
      [.call {} .createEndpoint, .call {} (.setPort first 443), .call {} (.freeEndpoint first)]
    let after : List Store.Event :=
      [.call {} .createEndpoint, .call {} .shutDown, .call {} .createEndpoint]
    let ledger := ((run {} before).run after).ledger .remoteEndpoint
    ((run {} before).run after).Sparing ∧
      ledger.issued = [0x500000001, 0x300000001, first] ∧
      first ∈ ledger.released ∧ 0x300000001 ∈ ledger.released ∧
      0x500000001 ∉ ledger.released ∧ Reliable (run {} before) after .remoteEndpoint := by
  intro first before after ledger
  have hs : ((run {} before).run after).Sparing := fun kind =>
    Ledger.sparing_of_length (by cases kind <;> decide)
  exact ⟨hs, by decide, by decide, by decide, by decide, handles_reliable before after hs _⟩

/-- A text that is missing shows before the handle that was released. -/
theorem released_handle_missingText :
    let h : Handle := 0x100000001
    let s := run {} [.call {} .createEndpoint, .call {} (.freeEndpoint h)]
    h ∈ (s.ledger .remoteEndpoint).released ∧
      (.remoteEndpoint, h) ∈ (Store.Call.setHostname h none).given ∧
      ∃ fault, (s.store.perform {} (.setHostname h none)).1 = .error fault ∧ fault.status ≠ -2 := by
  intro h s
  exact ⟨by decide, by decide, .missingText .hostname, by decide, by decide⟩

end Session

end Dialer
