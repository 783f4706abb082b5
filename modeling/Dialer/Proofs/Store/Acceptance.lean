import Dialer.Proofs.Store.Custody

/-!
# Which handles calls accept

Callers can pass any value for a handle. A call goes by what it is read as: if that is a handle that
is held, for the kind of object the call wants, there is an object behind it and nothing is said
about the handle (`Store.carryOut_of_live`). If it is not, be it because nothing was ever given out
under it or because it was released, the call fails and changes nothing.

* `Custody.handles_accepted`: so it is at every moment, for every call.
-/

namespace Dialer

/-! ### What is said about arguments and handles -/

/-- Faults with this number are about handles. -/
theorem CallFault.status_eq_iff {f : CallFault} :
    f.status = -2 ↔ ∃ kind h, f = .invalidHandle kind h := by
  unfold status
  split <;> simp

/-- A text that is read and then looked at is reported as an argument. -/
theorem TextArgument.status_of_read {what : TextArgument} {text : Option Bytes} {α : Type}
    {f : String → Except CallFault α} {fault : CallFault}
    (hf : ∀ s, f s = .error fault → fault.status = -1)
    (hr : (what.read text >>= f) = .error fault) : fault.status = -1 := by
  unfold read at hr
  split at hr
  · cases hr; rfl
  · split at hr
    · exact hf _ hr
    · cases hr; rfl

namespace Store

variable {r : Store} {call : Call} {fault : CallFault} {kind : HandleKind} {h : Handle}

/-- What can be wrong with the argument of a call that configures an endpoint is no handle. -/
theorem status_of_setting (hs : call.setting? = some (h, .error fault)) : fault.status = -1 := by
  cases call with
  | setPort => cases hs
  | setHostname _ text =>
    refine TextArgument.status_of_read ?_ (Prod.mk.inj (Option.some.inj hs)).2
    intro hostname hf
    by_cases he : hostname.isEmpty
    · simp only [he, if_true] at hf
      cases hf
      rfl
    · simp only [he] at hf
      cases hf
  | setService _ text =>
    refine TextArgument.status_of_read ?_ (Prod.mk.inj (Option.some.inj hs)).2
    intro service hf
    cases hf
  | setAddress _ text =>
    refine TextArgument.status_of_read ?_ (Prod.mk.inj (Option.some.inj hs)).2
    intro address hf
    split at hf <;> cases hf
    rfl
  | _ => cases hs

/-- **What is wrong with an argument** is reported as that. -/
theorem status_of_argumentFault (hf : call.argumentFault? = some fault) : fault.status = -1 := by
  unfold Call.argumentFault? at hf
  split at hf
  · next h' fault' hs =>
    cases hf
    exact status_of_setting hs
  · cases hf
  · split at hf
    case h_5 => cases hf
    all_goals
      split at hf <;> cases hf
      rfl

/-! ### Handles with an object behind them -/

/-- What a handle has a place for is there. -/
theorem exists_placed {β : Type} {t : HandleTable Nat} {all : List β}
    (hlt : ∀ place, t.get? h = some place → place < all.length) (hs : (t.get? h).isSome)
    (kind : HandleKind) : ∃ p, placed t all kind h = .ok p := by
  obtain ⟨place, hp⟩ := Option.isSome_iff_exists.1 hs
  exact ⟨_, placed_of_some hp (List.getElem?_eq_getElem (hlt place hp)) kind⟩

theorem exists_monitor (hr : r.Sound) (hs : (r.monitors.get? h).isSome) :
    ∃ p, r.monitor h = .ok p :=
  exists_placed (hr .pathMonitor h) hs _

theorem exists_connection (hr : r.Sound) (hs : (r.connections.get? h).isSome) :
    ∃ p, r.connection h = .ok p :=
  exists_placed (hr .connection h) hs _

theorem exists_taken {α : Type} {t : HandleTable α} (hs : (t.get? h).isSome) (kind : HandleKind) :
    ∃ found, taken t kind h = .ok found := by
  unfold taken
  cases ht : t.take? h with
  | none => simp [HandleTable.take?_eq_none.1 ht] at hs
  | some found => exact ⟨found, rfl⟩

theorem answer_perform (r : Store) (around : Surroundings) (call : Call) :
    (r.perform around call).1 = (r.carryOut around call).1 := by
  unfold perform
  split <;> next he => rw [he]

/-- An answer that says nothing about handles. -/
def PastHandles (answer : Except CallFault Value) : Prop :=
  ∀ kind h, answer ≠ .error (.invalidHandle kind h)

theorem pastHandles_ok (v : Value) : PastHandles (.ok v) := by
  intro kind h he
  cases he

theorem pastHandles_error (hf : fault.status ≠ -2) : PastHandles (.error fault) := by
  rintro kind h he
  cases he
  exact hf rfl

theorem pastHandles_entered {α : Type} {t : HandleTable α} (around : Surroundings) (a : α)
    (f : Handle × HandleTable α → Handle × Store) :
    PastHandles (r.settleNew ((entered t around a).map f)).1 := by
  obtain he | ⟨h, t', -, he⟩ := entered_cases t around a <;> rw [he]
  · exact pastHandles_error (by decide)
  · exact pastHandles_ok _

theorem pastHandles_onPreconnection (hs : (r.preconnections.get? h).isSome)
    (f : Preconnection → Preconnection) :
    PastHandles (r.settle (r.onPreconnection h f)).1 := by
  obtain ⟨p, hp⟩ := Option.isSome_iff_exists.1 hs
  rw [onPreconnection, lookup_of_some hp]
  exact pastHandles_ok _

theorem pastHandles_setting {checked : Except CallFault (RemoteEndpoint → RemoteEndpoint)}
    (hc : call.setting? = some (h, checked)) (hs : (r.endpoints.get? h).isSome)
    (around : Surroundings) : PastHandles (r.carryOut around call).1 := by
  rw [carryOut_setting hc]
  cases checked with
  | error fault =>
    have hstatus := status_of_setting hc
    exact pastHandles_error (by rw [hstatus]; decide)
  | ok f =>
    obtain ⟨e, he⟩ := Option.isSome_iff_exists.1 hs
    have hb : (Except.ok f >>= r.onEndpoint h) = r.onEndpoint h f := rfl
    rw [hb, onEndpoint, lookup_of_some he]
    exact pastHandles_ok _

theorem pastHandles_request (hr : r.Sound) (hs : (r.connections.get? h).isSome)
    (wanted : Request) : PastHandles (r.request h wanted).1 := by
  obtain ⟨p, hp⟩ := exists_connection hr hs
  rw [request, hp]
  dsimp only
  split
  · exact pastHandles_ok _
  · split
    · exact pastHandles_ok _
    · exact pastHandles_ok _
    · intro kind h he
      cases he

theorem pastHandles_initiate (hs : (r.preconnections.get? h).isSome) (around : Surroundings) :
    PastHandles (r.initiate around h).1 := by
  obtain ⟨p, hp⟩ := Option.isSome_iff_exists.1 hs
  rw [initiate, lookup_of_some hp]
  dsimp only
  split
  · intro kind h he
    cases he
  · exact pastHandles_entered around _ _

theorem pastHandles_listInterfaces (hr : r.Sound) (hs : (r.monitors.get? h).isSome)
    (hasArray hasCount : Bool) : PastHandles (r.listInterfaces h hasArray hasCount).1 := by
  obtain ⟨p, hp⟩ := exists_monitor hr hs
  rw [listInterfaces, hp]
  split
  · intro kind h he
    cases he
  · dsimp only
    split
    · intro kind h he
      cases he
    · exact pastHandles_ok _

theorem pastHandles_watch (hr : r.Sound) (hs : (r.monitors.get? h).isSome)
    (around : Surroundings) (hasCallback : Bool) :
    PastHandles (r.watch around h hasCallback).1 := by
  obtain ⟨p, hp⟩ := exists_monitor hr hs
  rw [watch, hp]
  split
  · intro kind h he
    cases he
  · dsimp only
    split
    · intro kind h he
      cases he
    · exact pastHandles_entered around _ _

theorem pastHandles_addRemote {preconnection endpoint : Handle}
    (hp : (r.preconnections.get? preconnection).isSome) (he : (r.endpoints.get? endpoint).isSome) :
    PastHandles (r.settle (r.addRemote preconnection endpoint)).1 := by
  obtain ⟨e, he⟩ := Option.isSome_iff_exists.1 he
  have hb : (Except.ok e >>= fun e => r.onPreconnection preconnection (·.addRemote e)) =
    r.onPreconnection preconnection (·.addRemote e) := rfl
  rw [addRemote, lookup_of_some he, hb]
  exact pastHandles_onPreconnection hp _

/-- **With an object behind every handle,** nothing is said about handles. -/
theorem carryOut_of_live (hr : r.Sound)
    (hl : ∀ g ∈ call.given, ((r.table g.1).get? g.2).isSome) (around : Surroundings) :
    PastHandles (r.carryOut around call).1 := by
  cases call with
  | startUp | shutDown | clearError => exact pastHandles_ok _
  | createEndpoint | createPreconnection | enterMonitor => exact pastHandles_entered around _ _
  | freeArray base count =>
    simp only [carryOut, freeArray]
    split <;>
    · intro kind h he
      cases he
  | setHostname h | setService h | setAddress h | setPort h =>
    exact pastHandles_setting rfl (hl (.remoteEndpoint, h) (by simp [Call.given])) around
  | setSecurityDisabled h =>
    exact pastHandles_onPreconnection (hl (.preconnection, h) (by simp [Call.given])) _
  | addRemote preconnection endpoint =>
    exact pastHandles_addRemote (hl (.preconnection, preconnection) (by simp [Call.given]))
      (hl (.remoteEndpoint, endpoint) (by simp [Call.given]))
  | initiate h => exact pastHandles_initiate (hl (.preconnection, h) (by simp [Call.given])) around
  | listInterfaces h hasArray hasCount =>
    exact pastHandles_listInterfaces hr (hl (.pathMonitor, h) (by simp [Call.given])) _ _
  | watch h hasCallback =>
    exact pastHandles_watch hr (hl (.pathMonitor, h) (by simp [Call.given])) around _
  | freeEndpoint h =>
    have hs : (r.endpoints.get? h).isSome := hl (.remoteEndpoint, h) (by simp [Call.given])
    obtain ⟨found, hf⟩ := exists_taken hs .remoteEndpoint
    rw [carryOut, hf]
    exact pastHandles_ok _
  | freePreconnection h =>
    have hs : (r.preconnections.get? h).isSome := hl (.preconnection, h) (by simp [Call.given])
    obtain ⟨found, hf⟩ := exists_taken hs .preconnection
    rw [carryOut, hf]
    exact pastHandles_ok _
  | freeConnection h =>
    have hs : (r.connections.get? h).isSome := hl (.connection, h) (by simp [Call.given])
    obtain ⟨found, hf⟩ := exists_taken hs .connection
    rw [carryOut, freeConnection, hf]
    exact pastHandles_ok _
  | destroyMonitor h =>
    have hs : (r.monitors.get? h).isSome := hl (.pathMonitor, h) (by simp [Call.given])
    obtain ⟨found, hf⟩ := exists_taken hs .pathMonitor
    rw [carryOut, destroyMonitor, hf]
    exact pastHandles_ok _
  | unwatch h =>
    have hs : (r.watchers.get? h).isSome := hl (.watcher, h) (by simp [Call.given])
    obtain ⟨found, hf⟩ := exists_taken hs .watcher
    rw [carryOut, unwatch, hf]
    exact pastHandles_ok _
  | close h => exact pastHandles_request hr (hl (.connection, h) (by simp [Call.given])) _
  | send h buffer length =>
    have hs : (r.connections.get? h).isSome := hl (.connection, h) (by simp [Call.given])
    cases buffer with
    | some data => exact pastHandles_request hr hs _
    | none =>
      rw [carryOut]
      split
      · exact pastHandles_request hr hs _
      · intro kind h he
        cases he
  | receive h hasBuffer capacity =>
    have hs : (r.connections.get? h).isSome := hl (.connection, h) (by simp [Call.given])
    rw [carryOut]
    split
    · intro kind h he
      cases he
    · exact pastHandles_request hr hs _
  | phase h =>
    have hs : (r.connections.get? h).isSome := hl (.connection, h) (by simp [Call.given])
    obtain ⟨p, hp⟩ := exists_connection hr hs
    rw [carryOut, hp]
    exact pastHandles_ok _

end Store

namespace Custody

/-- **What callers can rely on** when they pass any values for handles. -/
structure Guarded (s : Custody) (around : Surroundings) (c : Store.Call) : Prop where
  /-- What is held is read as it is, and is not 0. -/
  read : ∀ kind, ∀ h ∈ s.held kind, Key.asRead h = h ∧ h ≠ 0
  /-- Nothing is held that 0 is read as. -/
  zero : ∀ kind, Key.asRead 0 ∉ s.held kind
  /-- A call that is given a value that is not read as a handle held for the kind it is given for
  fails and changes nothing but the fault that is kept. It says so of the handle, unless another
  argument is wrong in itself. -/
  refused : ∀ g ∈ c.given, Key.asRead g.2 ∉ s.held g.1 →
    ∃ fault, s.store.perform around c = (.error fault, { s.store with lastFault := some fault }) ∧
      fault.status = if c.argumentFault? = none then -2 else -1
  /-- A call that is given none such says nothing about handles. -/
  accepted : (∀ g ∈ c.given, Key.asRead g.2 ∈ s.held g.1) →
    ∀ fault, (s.store.perform around c).1 = .error fault → fault.status ≠ -2

/-- **Values are accepted as handles** if what they are read as is held for the kind that is wanted,
and only then. -/
theorem handles_accepted (events : List Store.Event) (around : Surroundings) (c : Store.Call) :
    (run {} events).Guarded around c := by
  have hright : (run {} events).Right := right_run right_empty events
  constructor
  case read =>
    intro kind h hh
    have hread := (hright.heldBy kind).asRead h hh
    refine ⟨hread, ?_⟩
    rintro rfl
    exact absurd hread (by decide)
  case zero => exact fun kind => (hright.heldBy kind).zero_notMem
  case refused =>
    intro g hg hh
    have hnone : ((run {} events).store.table g.1).get? g.2 = none := by
      rw [← (hright.heldBy g.1).live] at hh
      simpa using hh
    obtain ⟨fault, hp, hf⟩ := Store.perform_of_stale hg hnone around
    refine ⟨fault, hp, ?_⟩
    rcases hf with hf | ⟨hf, g', -, rfl⟩
    · rw [if_neg (by simp [hf]), Store.status_of_argumentFault hf]
    · rw [if_pos hf]
      rfl
  case accepted =>
    intro hl fault hp hstatus
    obtain ⟨kind, h, rfl⟩ := CallFault.status_eq_iff.1 hstatus
    have hpast := Store.carryOut_of_live hright.sound
      (fun g hg => ((hright.heldBy g.1).live g.2).2 (hl g hg)) around
    exact hpast kind h ((Store.answer_perform _ around c).symm.trans hp)

/-- The value 0 is not noticed where a text is missing; the value 1 is accepted for an endpoint it was
not given out for; and the handle of an endpoint frees a preconnection. -/
theorem accepted_unheld :
    let endpoint : Handle := 0x100000001
    let s := run {} [.call {} .createEndpoint, .call {} .createPreconnection]
    (∃ fault, (s.store.perform {} (.setHostname 0 none)).1 = .error fault ∧ fault.status ≠ -2) ∧
      s.held .remoteEndpoint = [endpoint] ∧
      (s.store.perform {} (.setPort 1 80)).1 = .ok .nothing ∧
      (s.store.perform {} (.freePreconnection endpoint)).1 = .ok .nothing := by
  intro endpoint s
  exact ⟨⟨.missingText .hostname, by decide, by decide⟩, by decide, by decide, by decide⟩

end Custody

end Dialer
