import Dialer.Proofs.Store.Calls

/-!
# Calls that are given a handle with nothing behind it

A call first looks at its arguments that are not handles, `Store.Call.argumentFault?`, and then at
the handles it is given, `Store.Call.given`. If one of them has nothing behind it, the call fails
either way, and it leaves the store as it was but for the fault that is kept.

* `Store.perform_of_stale`: which fault such a call comes to.
-/

namespace Dialer

namespace Store.Call

/-- The handles a call is given, each for an object of a kind. -/
def given : Call → List (HandleKind × Handle)
  | freeEndpoint h | setHostname h _ | setService h _ | setAddress h _ | setPort h _ =>
    [(.remoteEndpoint, h)]
  | freePreconnection h | setSecurityDisabled h _ | initiate h => [(.preconnection, h)]
  | addRemote h endpoint => [(.preconnection, h), (.remoteEndpoint, endpoint)]
  | send h _ _ | receive h _ _ | close h | phase h | freeConnection h => [(.connection, h)]
  | destroyMonitor h | listInterfaces h _ _ | watch h _ => [(.pathMonitor, h)]
  | unwatch h => [(.watcher, h)]
  | startUp | shutDown | clearError | createEndpoint | createPreconnection | enterMonitor _
  | freeArray _ _ => []

/-- What is wrong with the arguments of a call that are not handles. -/
def argumentFault? (call : Call) : Option CallFault :=
  match call.setting? with
  | some (_, .error fault) => some fault
  | some (_, .ok _) => none
  | none =>
    match call with
    | send _ buffer length => if buffer = none ∧ length ≠ 0 then some .missingBytes else none
    | receive _ hasBuffer capacity =>
      if hasBuffer ∧ capacity ≠ 0 then none else some (.connection .emptyBuffer)
    | listInterfaces _ hasArray hasCount =>
      if hasArray ∧ hasCount then none else some .missingOutput
    | watch _ hasCallback => if hasCallback then none else some .missingCallback
    | _ => none

end Store.Call

namespace Store

variable {r : Store} {call : Call} {fault : CallFault} {kind : HandleKind} {h : Handle}

/-! ### Arguments -/

/-- **What is wrong with an argument shows first,** whatever the handles are. -/
theorem carryOut_of_argumentFault (hf : call.argumentFault? = some fault) (around : Surroundings) :
    r.carryOut around call = (.error fault, r) := by
  cases hs : call.setting? with
  | some setting =>
    obtain ⟨h, checked⟩ := setting
    rw [carryOut_setting hs]
    cases checked with
    | error => simp only [Call.argumentFault?, hs, Option.some.injEq] at hf; rw [hf]; rfl
    | ok => simp [Call.argumentFault?, hs] at hf
  | none =>
    simp only [Call.argumentFault?, hs] at hf
    split at hf
    case h_1 h buffer length =>
      split at hf <;> cases hf
      next hb => rw [hb.1, carryOut, if_neg hb.2]
    case h_2 h hasBuffer capacity =>
      split at hf <;> cases hf
      next hb => rw [carryOut, if_pos (by simpa [or_iff_not_imp_left] using hb)]
    case h_3 h hasArray hasCount =>
      split at hf <;> cases hf
      next hb => rw [carryOut, listInterfaces, if_pos (by cases hasArray <;> simp_all)]
    case h_4 h hasCallback =>
      split at hf <;> cases hf
      next hb => rw [carryOut, watch, if_pos (by simpa using hb)]
    case h_5 => cases hf

/-! ### Handles -/

theorem taken_of_none {α : Type} {t : HandleTable α} (hn : t.get? h = none) (kind : HandleKind) :
    taken t kind h = .error (.invalidHandle kind h) := by
  rw [taken, HandleTable.take?_eq_none.2 hn]

theorem request_of_none (hn : r.connections.get? h = none) (wanted : Request) :
    r.request h wanted = (.error (.invalidHandle .connection h), r) := by
  rw [request, connection, placed_of_none hn]

theorem settle_setting_of_none (hn : r.endpoints.get? h = none)
    (f : RemoteEndpoint → RemoteEndpoint) :
    r.settle (.ok f >>= r.onEndpoint h) = (.error (.invalidHandle .remoteEndpoint h), r) := by
  have hr : (Except.ok f >>= r.onEndpoint h) = r.onEndpoint h f := rfl
  rw [hr, onEndpoint, lookup_of_none hn]
  rfl

theorem settle_onPreconnection_of_none (hn : r.preconnections.get? h = none)
    (f : Preconnection → Preconnection) :
    r.settle (r.onPreconnection h f) = (.error (.invalidHandle .preconnection h), r) := by
  rw [onPreconnection, lookup_of_none hn]
  rfl

theorem given_of_setting? {checked : Except CallFault (RemoteEndpoint → RemoteEndpoint)}
    (hs : call.setting? = some (h, checked)) : call.given = [(.remoteEndpoint, h)] := by
  cases call <;> cases hs <;> rfl

theorem carryOut_of_stale_one (hf : call.argumentFault? = none) (hg : call.given = [(kind, h)])
    (hn : (r.table kind).get? h = none) (around : Surroundings) :
    r.carryOut around call = (.error (.invalidHandle kind h), r) := by
  cases hs : call.setting? with
  | some setting =>
    obtain ⟨h, checked⟩ := setting
    cases checked with
    | error => simp [Call.argumentFault?, hs] at hf
    | ok f =>
      cases (given_of_setting? hs).symm.trans hg
      rw [carryOut_setting hs]
      exact settle_setting_of_none hn f
  | none =>
    cases call with
    | startUp | shutDown | clearError | createEndpoint | createPreconnection | enterMonitor
    | freeArray | addRemote => cases hg
    | setHostname | setService | setAddress | setPort => cases hs
    | freeEndpoint => cases hg; rw [carryOut, taken_of_none (t := r.endpoints) hn]; rfl
    | freePreconnection => cases hg; rw [carryOut, taken_of_none (t := r.preconnections) hn]; rfl
    | freeConnection =>
      cases hg
      rw [carryOut, freeConnection, taken_of_none (t := r.connections) hn]
      rfl
    | destroyMonitor =>
      cases hg
      rw [carryOut, destroyMonitor, taken_of_none (t := r.monitors) hn]
      rfl
    | unwatch => cases hg; rw [carryOut, unwatch, taken_of_none (t := r.watchers) hn]; rfl
    | setSecurityDisabled => cases hg; exact settle_onPreconnection_of_none hn _
    | initiate => cases hg; rw [carryOut, initiate, lookup_of_none (t := r.preconnections) hn]
    | close => cases hg; exact request_of_none hn .close
    | phase =>
      cases hg
      simp only [carryOut, connection, placed_of_none (t := r.connections) hn]
    | send _ buffer length =>
      cases hg
      cases buffer with
      | some data => exact request_of_none hn (.send (data.take length))
      | none =>
        have hlength : length = 0 := by simpa [Call.argumentFault?, hs] using hf
        rw [carryOut, if_pos hlength]
        exact request_of_none hn _
    | receive _ hasBuffer capacity =>
      cases hg
      have hroom : hasBuffer ∧ capacity ≠ 0 := by simpa [Call.argumentFault?, hs] using hf
      rw [carryOut, if_neg (by simpa using hroom)]
      exact request_of_none hn _
    | listInterfaces _ hasArray hasCount =>
      cases hg
      have houtput : hasArray ∧ hasCount := by simpa [Call.argumentFault?, hs] using hf
      rw [carryOut, listInterfaces, if_neg (by simpa using houtput), monitor,
        placed_of_none (t := r.monitors) hn]
    | watch _ hasCallback =>
      cases hg
      have hcallback : hasCallback := by simpa [Call.argumentFault?, hs] using hf
      rw [carryOut, watch, if_neg (by simpa using hcallback), monitor,
        placed_of_none (t := r.monitors) hn]

/-- An endpoint is looked for before the preconnection it is to be added to. -/
theorem addRemote_of_stale {preconnection endpoint : Handle}
    (hg : (kind, h) ∈ (Call.addRemote preconnection endpoint).given)
    (hn : (r.table kind).get? h = none) :
    ∃ g ∈ (Call.addRemote preconnection endpoint).given,
      r.settle (r.addRemote preconnection endpoint) = (.error (.invalidHandle g.1 g.2), r) := by
  rw [addRemote]
  cases he : r.endpoints.get? endpoint with
  | none =>
    exact ⟨(.remoteEndpoint, endpoint), by simp [Call.given], by rw [lookup_of_none he]; rfl⟩
  | some e =>
    have hp : (kind, h) = (.preconnection, preconnection) := by
      simp only [Call.given, List.mem_cons, List.not_mem_nil, or_false] at hg
      exact hg.resolve_right fun hg => by cases hg; simp [table, he] at hn
    cases hp
    exact ⟨(.preconnection, h), by simp [Call.given],
      by rw [lookup_of_some he]; exact settle_onPreconnection_of_none hn _⟩

/-- **With nothing behind a handle** and nothing wrong with other arguments, a call names that handle
or another it was given, and leaves all as it is. -/
theorem carryOut_of_stale (hf : call.argumentFault? = none) (hg : (kind, h) ∈ call.given)
    (hn : (r.table kind).get? h = none) (around : Surroundings) :
    ∃ g ∈ call.given, r.carryOut around call = (.error (.invalidHandle g.1 g.2), r) := by
  cases call with
  | addRemote => exact addRemote_of_stale hg hn
  | startUp | shutDown | clearError | createEndpoint | createPreconnection | enterMonitor
  | freeArray => cases hg
  | _ =>
    cases List.mem_singleton.1 hg
    exact ⟨_, hg, carryOut_of_stale_one hf rfl hn around⟩

/-- **A call that is given a handle with nothing behind it fails,** and leaves the store as it is but
for the fault that is kept: that of another argument, if there is one, else that of a handle. -/
theorem perform_of_stale (hg : (kind, h) ∈ call.given) (hn : (r.table kind).get? h = none)
    (around : Surroundings) :
    ∃ fault, r.perform around call = (.error fault, { r with lastFault := some fault }) ∧
      (call.argumentFault? = some fault ∨
        call.argumentFault? = none ∧ ∃ g ∈ call.given, fault = .invalidHandle g.1 g.2) := by
  cases hf : call.argumentFault? with
  | some fault =>
    exact ⟨fault, by rw [perform, carryOut_of_argumentFault hf], .inl rfl⟩
  | none =>
    obtain ⟨g, hmem, hc⟩ := carryOut_of_stale hf hg hn around
    exact ⟨.invalidHandle g.1 g.2, by rw [perform, hc], .inr ⟨rfl, g, hmem, rfl⟩⟩

end Store

end Dialer
