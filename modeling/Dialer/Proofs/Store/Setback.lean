import Dialer.Proofs.Store.Calls

/-!
# Calls that fail

A call that fails leaves the store as it was, but for three cases: the network of a monitor was read
in vain, a watch had begun when there turned out to be no room for its handle, or a connection has
dealt with a request and refused it. A `Store.Setback` is what a call that fails makes of a store.

* `Store.setback_carryOut`: whatever fails is a setback.
* `Store.Setback.sameTables`: a setback leaves what handles stand for as it is.
-/

namespace Dialer.Store

/-- What a call wants of a connection, if nothing is wrong with its arguments. -/
def Call.request? : Call → Option (Handle × Request)
  | send h (some data) length => some (h, .send (data.take length))
  | send h none 0 => some (h, .send [])
  | receive h true (capacity + 1) => some (h, .receive (capacity + 1))
  | close h => some (h, .close)
  | _ => none

/-- Whether a call asks something of a connection. -/
def Call.Asks : Call → Prop
  | send _ _ _ | receive _ _ _ | close _ => True
  | _ => False

/-- A connection after a request, with the reply if there is one. -/
def asked (c : StreamConnection) (wanted : Request) : Option Reply × StreamConnection :=
  let (id, c) := c.issue wanted
  (c.settle.reply? id, c.settle.cancel id)

/-- **What a call that fails makes of a store.** -/
inductive Setback (r : Store) : Call → CallFault → Store → Prop
  | untouched (call : Call) (fault : CallFault) : Setback r call fault r
  /-- The network could not be read. -/
  | unread {h : Handle} {place : Nat} {m after : Monitor} {e : MonitorError}
    (hm : r.monitor h = .ok (place, m)) (hl : m.list = (.error e, after)) :
    Setback r (.listInterfaces h true true) (.monitor e) (r.onMonitor place fun _ => after)
  /-- A watch could not begin. -/
  | unwatched {h : Handle} {place : Nat} {m after : Monitor} {e : MonitorError}
    (hm : r.monitor h = .ok (place, m)) (hs : m.start = (.error e, after)) :
    Setback r (.watch h true) (.monitor e) (r.onMonitor place fun _ => after)
  /-- A watch has begun and ended. -/
  | unentered {h : Handle} {place id : Nat} {m after : Monitor}
    (hm : r.monitor h = .ok (place, m)) (hs : m.start = (.ok id, after)) :
    Setback r (.watch h true) .tableFull (r.onMonitor place fun _ => after.stop id)
  /-- A connection has refused what was wanted. -/
  | refused {call : Call} {h : Handle} {wanted : Request} {place : Nat} {c after : StreamConnection}
    {e : CallError} (hw : call.request? = some (h, wanted)) (hc : r.connection h = .ok (place, c))
    (ha : asked c wanted = (some (.refused e), after)) :
    Setback r call (.connection e) (r.onConnection place fun _ => after)

variable {r r' : Store} {call : Call} {fault : CallFault} {h : Handle} {around : Surroundings}

/-! ### Calls that ask something of a connection -/

/-- **A call that asks** something of a connection makes a request, or is refused for its arguments. -/
theorem carryOut_of_asks (ha : call.Asks) (r : Store) (around : Surroundings) :
    (∃ fault, r.carryOut around call = (.error fault, r)) ∨
      ∃ h wanted, call.request? = some (h, wanted) ∧
        r.carryOut around call = r.request h wanted := by
  cases call with
  | close h => exact .inr ⟨h, .close, rfl, rfl⟩
  | send h buffer length =>
    cases buffer with
    | some data => exact .inr ⟨h, .send (data.take length), rfl, rfl⟩
    | none =>
      cases length with
      | zero => exact .inr ⟨h, .send [], rfl, rfl⟩
      | succ length => exact .inl ⟨.missingBytes, rfl⟩
  | receive h hasBuffer capacity =>
    cases hasBuffer with
    | false => exact .inl ⟨.connection .emptyBuffer, rfl⟩
    | true =>
      cases capacity with
      | zero => exact .inl ⟨.connection .emptyBuffer, rfl⟩
      | succ capacity => exact .inr ⟨h, .receive (capacity + 1), rfl, rfl⟩
  | _ => exact ha.elim

/-- A request has room for a byte at least. -/
theorem Call.wanted_ne {wanted : Request} (hw : call.request? = some (h, wanted)) :
    wanted ≠ .receive 0 := by
  unfold request? at hw
  split at hw <;> cases hw <;> simp

/-! ### The steps calls are made of -/

theorem setback_settle {result : Except CallFault Store}
    (hf : (r.settle result).1 = .error fault) : Setback r call fault (r.settle result).2 := by
  cases result with
  | ok => cases hf
  | error => exact .untouched call fault

theorem setback_settleNew {result : Except CallFault (Handle × Store)}
    (hf : (r.settleNew result).1 = .error fault) : Setback r call fault (r.settleNew result).2 := by
  cases result with
  | ok => cases hf
  | error => exact .untouched call fault

theorem setback_initiate (hf : (r.initiate around h).1 = .error fault) :
    Setback r (.initiate h) fault (r.initiate around h).2 := by
  unfold initiate at hf ⊢
  split
  · exact .untouched _ _
  · rename_i p hp
    rw [hp] at hf
    dsimp only at hf ⊢
    split
    · exact .untouched _ _
    · rename_i winner hwon
      rw [hwon] at hf
      exact setback_settleNew hf

theorem setback_request {wanted : Request} (hw : call.request? = some (h, wanted))
    (hf : (r.request h wanted).1 = .error fault) :
    Setback r call fault (r.request h wanted).2 := by
  unfold request at hf ⊢
  rcases hc : r.connection h with fault' | ⟨place, c⟩ <;> rw [hc] at hf
  · exact .untouched _ _
  · dsimp only at hf ⊢
    rcases hreply : (c.issue wanted).2.settle.reply? (c.issue wanted).1 with _ | reply <;>
      rw [hreply] at hf
    · cases hf
    · cases reply with
      | done => cases hf
      | received => cases hf
      | refused e =>
        cases hf
        exact .refused hw hc (by simp only [asked, hreply])

theorem setback_listInterfaces {hasArray hasCount : Bool}
    (hf : (r.listInterfaces h hasArray hasCount).1 = .error fault) :
    Setback r (.listInterfaces h hasArray hasCount) fault
      (r.listInterfaces h hasArray hasCount).2 := by
  unfold listInterfaces at hf ⊢
  cases hasArray with
  | false => exact .untouched _ _
  | true =>
    cases hasCount with
    | false => exact .untouched _ _
    | true =>
      rcases hm : r.monitor h with fault' | ⟨place, m⟩ <;> simp only [hm] at hf ⊢
      · exact .untouched _ _
      · rcases hl : m.list with ⟨e | found, after⟩ <;> simp only [hl] at hf ⊢
        · cases hf
          exact .unread hm hl
        · cases hf

theorem setback_watch {hasCallback : Bool} (hf : (r.watch around h hasCallback).1 = .error fault) :
    Setback r (.watch h hasCallback) fault (r.watch around h hasCallback).2 := by
  unfold watch at hf ⊢
  cases hasCallback with
  | false => exact .untouched _ _
  | true =>
    rcases hm : r.monitor h with fault' | ⟨place, m⟩ <;> simp only [hm] at hf ⊢
    · exact .untouched _ _
    · rcases hs : m.start with ⟨e | id, after⟩ <;> simp only [hs] at hf ⊢
      · cases hf
        exact .unwatched hm hs
      · obtain he | ⟨g, t, -, he⟩ := entered_cases r.watchers around ⟨place, id⟩ <;>
          rw [he] at hf ⊢ <;> cases hf
        exact .unentered hm hs

/-! ### Every failure is a setback -/

/-- **What a call that fails makes of a store.** -/
theorem setback_carryOut (hf : (r.carryOut around call).1 = .error fault) :
    Setback r call fault (r.carryOut around call).2 := by
  have hasks (ha : call.Asks) := carryOut_of_asks ha r around
  cases call with
  | startUp | shutDown | clearError => cases hf
  | createEndpoint | createPreconnection | enterMonitor => exact setback_settleNew hf
  | initiate h => exact setback_initiate hf
  | listInterfaces h hasArray hasCount => exact setback_listInterfaces hf
  | watch h hasCallback => exact setback_watch hf
  | send | receive | close =>
    obtain ⟨fault', he⟩ | ⟨h, wanted, hw, he⟩ := hasks trivial <;> rw [he] at hf ⊢
    · exact .untouched _ _
    · exact setback_request hw hf
  | phase h =>
    rw [carryOut] at hf ⊢
    rcases hc : r.connection h with fault' | ⟨place, c⟩ <;> rw [hc] at hf
    · exact .untouched _ _
    · cases hf
  | _ => exact setback_settle hf

/-- **What handles stand for** stays as it is. -/
theorem Setback.sameTables (hs : Setback r call fault r') : r.SameTables r' := by
  cases hs with
  | untouched => exact .refl r
  | unread | unwatched | unentered => exact sameTables_onMonitor _ _ _
  | refused => exact sameTables_onConnection _ _ _

end Dialer.Store
