import Dialer.Proofs.Store.Ledger
import Dialer.Store.Call

/-!
# What calls do to the tables of a store

A store has one table for each kind of object. `Store.Call.deed` is what a call is to do to the
objects of a kind; the calls that configure an endpoint are one family, `Store.Call.setting?`.

* `Store.carried_carryOut`: every call does its deed on every table, and nothing else to them.
* `Store.carryOut_setting`: a call of that family checks its argument, then changes the endpoint.
-/

namespace Dialer

/-- What a table has for a handle. Monitors and connections are known by their places. -/
@[reducible]
def HandleKind.Content : HandleKind → Type
  | pathMonitor | connection => Nat
  | watcher => WatchRef
  | preconnection => Preconnection
  | remoteEndpoint => RemoteEndpoint

/-- The handle a call has returned, if it has. -/
def Store.newHandle? : Except CallFault Store.Value → Option Handle
  | .ok (.handle h) => some h
  | _ => none

/-! ### What calls are to do -/

/-- A change of the object of a handle, if the arguments are right. -/
def Deed.checked {α : Type} (h : Handle) (f : Except CallFault (α → α)) : Deed α :=
  match f with
  | .ok f => .change h f
  | .error _ => .nothing

namespace Store.Call

/-- For a call that configures an endpoint: the handle, and what is to become of the endpoint or what
is wrong with the argument. -/
def setting? : Call → Option (Handle × Except CallFault (RemoteEndpoint → RemoteEndpoint))
  | setHostname h text => some (h, do
    let hostname ← TextArgument.hostname.read text
    if hostname.isEmpty then throw .emptyHostname
    return fun e => { e with hostname := some hostname })
  | setService h text => some (h, do
    let service ← TextArgument.service.read text
    return fun e => { e with service := some service })
  | setAddress h text => some (h, do
    let address ← TextArgument.address.read text
    match Ip.parse? address with
    | some ip => return fun e => { e with address := some ip }
    | none => throw (.invalidAddress address))
  | setPort h port => some (h, .ok fun e => { e with port := some port })
  | _ => none

/-- What a call is to do to endpoints. -/
def endpointDeed : Call → Deed RemoteEndpoint
  | createEndpoint => .enter
  | freeEndpoint h => .release h
  | shutDown => .releaseAll
  | call =>
    match call.setting? with
    | some (h, checked) => .checked h checked
    | none => .nothing

/-- What a call is to do to the preconnections of a store. -/
def preconnectionDeed (r : Store) : Call → Deed Preconnection
  | createPreconnection => .enter
  | freePreconnection h => .release h
  | addRemote h endpoint =>
    match r.endpoints.get? endpoint with
    | some e => .change h (·.addRemote e)
    | none => .nothing
  | setSecurityDisabled h disabled => .change h fun p => { p with security := { disabled } }
  | shutDown => .releaseAll
  | _ => .nothing

/-- What a call is to do to connections. One may fail to come about. -/
def connectionDeed : Call → Deed Nat
  | initiate _ => .enter
  | freeConnection h => .release h
  | shutDown => .releaseAll
  | _ => .nothing

/-- What a call is to do to monitors. -/
def monitorDeed : Call → Deed Nat
  | enterMonitor _ => .enter
  | destroyMonitor h => .release h
  | shutDown => .releaseAll
  | _ => .nothing

/-- What a call is to do to watchers. -/
def watcherDeed : Call → Deed WatchRef
  | watch _ _ => .enter
  | unwatch h => .release h
  | shutDown => .releaseAll
  | _ => .nothing

/-- **What a call is to do to the objects of a kind.** -/
def deed (r : Store) (call : Call) : (kind : HandleKind) → Deed kind.Content
  | .pathMonitor => call.monitorDeed
  | .watcher => call.watcherDeed
  | .preconnection => call.preconnectionDeed r
  | .remoteEndpoint => call.endpointDeed
  | .connection => call.connectionDeed

/-- The kind of the objects a call enters, changes or releases, if it is one. -/
def concerns? (call : Call) : Option HandleKind := call.product? <|> call.subject?

end Store.Call

namespace Store

/-! ### Tables -/

/-- The table of a kind. -/
def table (r : Store) : (kind : HandleKind) → HandleTable kind.Content
  | .pathMonitor => r.monitors
  | .watcher => r.watchers
  | .preconnection => r.preconnections
  | .remoteEndpoint => r.endpoints
  | .connection => r.connections

/-- What a table has is there: the monitor or the connection at a place was entered. -/
def Holds (r : Store) : (kind : HandleKind) → kind.Content → Prop
  | .pathMonitor, place => place < r.allMonitors.length
  | .watcher, w => w.monitor < r.allMonitors.length
  | .connection, place => place < r.allConnections.length
  | .preconnection, _ | .remoteEndpoint, _ => True

/-- A store that differs from another in what it keeps beside the tables. -/
structure SameTables (r r' : Store) : Prop where
  table : ∀ kind, r'.table kind = r.table kind
  monitors : r'.allMonitors.length = r.allMonitors.length
  connections : r'.allConnections.length = r.allConnections.length

theorem SameTables.refl (r : Store) : r.SameTables r := ⟨fun _ => rfl, rfl, rfl⟩

theorem SameTables.trans {r r' r'' : Store} (h : r.SameTables r') (h' : r'.SameTables r'') :
    r.SameTables r'' :=
  ⟨fun kind => (h'.table kind).trans (h.table kind), h'.monitors.trans h.monitors,
    h'.connections.trans h.connections⟩

theorem sameTables_onMonitor (r : Store) (place : Nat) (f : Monitor → Monitor) :
    r.SameTables (r.onMonitor place f) :=
  ⟨fun kind => by cases kind <;> rfl, List.length_modify _ _ _, rfl⟩

theorem sameTables_onConnection (r : Store) (place : Nat)
    (f : StreamConnection → StreamConnection) : r.SameTables (r.onConnection place f) :=
  ⟨fun kind => by cases kind <;> rfl, rfl, List.length_modify _ _ _⟩

theorem sameTables_foldl {β : Type} {f : Store → β → Store}
    (hf : ∀ (r : Store) (b : β), r.SameTables (f r b)) (bs : List β) (r : Store) :
    r.SameTables (bs.foldl f r) := by
  induction bs generalizing r with
  | nil => exact .refl r
  | cons b bs ih => exact (hf r b).trans (ih _)

/-! ### Carrying a deed out -/

/-- **A deed on every table,** one for each kind. The lists of what was entered get no shorter. -/
structure Carried (r : Store) (deed : (kind : HandleKind) → Deed kind.Content)
    (new : Option Handle) (r' : Store) : Prop where
  done : ∀ kind, (deed kind).Done (r'.Holds kind) (r.table kind) new (r'.table kind)
  monitors : r.allMonitors.length ≤ r'.allMonitors.length
  connections : r.allConnections.length ≤ r'.allConnections.length

/-- A call with an answer and a store afterwards does its deed on every table. -/
def CarriedOut (r : Store) (call : Call) (result : Except CallFault Value × Store) : Prop :=
  r.Carried (call.deed r) (newHandle? result.1) result.2

variable {r r' r'' : Store} {call : Call} {answer : Except CallFault Value} {h : Handle}

theorem SameTables.holds_iff (hs : r.SameTables r') (kind : HandleKind) (a : kind.Content) :
    r'.Holds kind a ↔ r.Holds kind a := by
  cases kind <;> simp only [Holds, hs.monitors, hs.connections]

theorem Carried.sameTables {deed : (kind : HandleKind) → Deed kind.Content}
    {new : Option Handle} (hc : r.Carried deed new r') (hs : r'.SameTables r'') :
    r.Carried deed new r'' where
  done kind := by
    have hd := hc.done kind
    rw [hs.table, show r''.Holds kind = r'.Holds kind from funext fun a =>
      propext (hs.holds_iff kind a)]
    exact hd
  monitors := hs.monitors ▸ hc.monitors
  connections := hs.connections ▸ hc.connections

theorem deed_eq_nothing {kind other : HandleKind} (hc : call.concerns? = some kind)
    (hne : other ≠ kind) (r : Store) : call.deed r other = .nothing := by
  cases call <;> cases hc <;> cases other <;> first | rfl | exact absurd rfl hne

/-- A call that concerns one kind changes the table of that kind only. -/
theorem carried_of_concerns {kind : HandleKind} (hc : call.concerns? = some kind)
    (hd : (call.deed r kind).Done (r'.Holds kind) (r.table kind) (newHandle? answer)
      (r'.table kind))
    (ht : ∀ other, other ≠ kind → r'.table other = r.table other)
    (hm : r.allMonitors.length ≤ r'.allMonitors.length)
    (hl : r.allConnections.length ≤ r'.allConnections.length) : r.CarriedOut call (answer, r') where
  done other := by
    by_cases he : other = kind
    · subst he; exact hd
    · rw [deed_eq_nothing hc he, ht other he]
      exact .nothing _
  monitors := hm
  connections := hl

/-- A call that is to do nothing, and changes no table. -/
theorem carried_of_sameTables {result : Except CallFault Value × Store}
    (hn : ∀ kind, call.deed r kind = .nothing) (hs : r.SameTables result.2) :
    r.CarriedOut call result where
  done kind := by rw [hn, hs.table]; exact .nothing _
  monitors := Nat.le_of_eq hs.monitors.symm
  connections := Nat.le_of_eq hs.connections.symm

theorem carried_endpoints {t : HandleTable RemoteEndpoint}
    (hc : call.concerns? = some .remoteEndpoint)
    (hd : call.endpointDeed.Done (fun _ => True) r.endpoints (newHandle? answer) t) :
    r.CarriedOut call (answer, { r with endpoints := t }) :=
  carried_of_concerns hc hd
    (fun other hne => by cases other <;> first | rfl | exact absurd rfl hne)
    (Nat.le_refl _) (Nat.le_refl _)

theorem carried_preconnections {t : HandleTable Preconnection}
    (hc : call.concerns? = some .preconnection)
    (hd : (call.preconnectionDeed r).Done (fun _ => True) r.preconnections (newHandle? answer) t) :
    r.CarriedOut call (answer, { r with preconnections := t }) :=
  carried_of_concerns hc hd
    (fun other hne => by cases other <;> first | rfl | exact absurd rfl hne)
    (Nat.le_refl _) (Nat.le_refl _)

theorem carried_connections {t : HandleTable Nat} {all : List StreamConnection}
    (hc : call.concerns? = some .connection)
    (hd : call.connectionDeed.Done (· < all.length) r.connections (newHandle? answer) t)
    (hl : r.allConnections.length ≤ all.length) :
    r.CarriedOut call (answer, { r with connections := t, allConnections := all }) :=
  carried_of_concerns hc hd
    (fun other hne => by cases other <;> first | rfl | exact absurd rfl hne) (Nat.le_refl _) hl

theorem carried_monitors {t : HandleTable Nat} {all : List Monitor}
    (hc : call.concerns? = some .pathMonitor)
    (hd : call.monitorDeed.Done (· < all.length) r.monitors (newHandle? answer) t)
    (hl : r.allMonitors.length ≤ all.length) :
    r.CarriedOut call (answer, { r with monitors := t, allMonitors := all }) :=
  carried_of_concerns hc hd
    (fun other hne => by cases other <;> first | rfl | exact absurd rfl hne) hl (Nat.le_refl _)

theorem carried_watchers {t : HandleTable WatchRef} {all : List Monitor}
    (hc : call.concerns? = some .watcher)
    (hd : call.watcherDeed.Done (·.monitor < all.length) r.watchers (newHandle? answer) t)
    (hl : r.allMonitors.length ≤ all.length) :
    r.CarriedOut call (answer, { r with watchers := t, allMonitors := all }) :=
  carried_of_concerns hc hd
    (fun other hne => by cases other <;> first | rfl | exact absurd rfl hne) hl (Nat.le_refl _)

/-! ### The steps calls are made of -/

theorem entered_cases {α : Type} (t : HandleTable α) (around : Surroundings) (a : α) :
    entered t around a = .error .tableFull ∨
      ∃ h t', t.insert? around.pick a = some (h, t') ∧ entered t around a = .ok (h, t') := by
  unfold entered
  cases hi : t.insert? around.pick a with
  | none => exact .inl rfl
  | some found => exact .inr ⟨found.1, found.2, rfl, rfl⟩

theorem taken_cases {α : Type} (t : HandleTable α) (kind : HandleKind) (h : Handle) :
    (taken t kind h = .error (.invalidHandle kind h) ∧ t.without h = t) ∨
      ∃ a, taken t kind h = .ok (a, t.without h) := by
  unfold taken
  cases ht : t.take? h with
  | none => exact .inl ⟨rfl, HandleTable.without_of_take?_eq_none ht⟩
  | some found => exact .inr ⟨found.1, by rw [HandleTable.without_of_take? ht]⟩

theorem lookup_of_none {α : Type} {t : HandleTable α} (hn : t.get? h = none) (kind : HandleKind) :
    lookup t kind h = .error (.invalidHandle kind h) := by
  rw [lookup, hn]

theorem lookup_of_some {α : Type} {t : HandleTable α} {a : α} (ha : t.get? h = some a)
    (kind : HandleKind) : lookup t kind h = .ok a := by
  rw [lookup, ha]

theorem placed_of_none {β : Type} {t : HandleTable Nat} (hn : t.get? h = none) (all : List β)
    (kind : HandleKind) : placed t all kind h = .error (.invalidHandle kind h) := by
  rw [placed, lookup_of_none hn]
  rfl

theorem placed_of_some {β : Type} {t : HandleTable Nat} {all : List β} {place : Nat} {b : β}
    (hp : t.get? h = some place) (hb : all[place]? = some b) (kind : HandleKind) :
    placed t all kind h = .ok (place, b) := by
  rw [placed, lookup_of_some hp]
  simp only [bind, Except.bind, hb]
  rfl

/-- A place that was found is the one in the table, and something was entered there. -/
theorem of_placed {β : Type} {t : HandleTable Nat} {all : List β} {kind : HandleKind}
    {place : Nat} {b : β} (hp : placed t all kind h = .ok (place, b)) :
    t.get? h = some place ∧ all[place]? = some b := by
  unfold placed at hp
  cases hg : t.get? h with
  | none => rw [lookup_of_none hg] at hp; cases hp
  | some p =>
    rw [lookup_of_some hg] at hp
    simp only [bind, Except.bind] at hp
    split at hp
    · next hb =>
      cases hp
      exact ⟨rfl, hb⟩
    · cases hp

theorem lt_of_placed {β : Type} {t : HandleTable Nat} {all : List β} {kind : HandleKind}
    {place : Nat} {b : β} (hp : placed t all kind h = .ok (place, b)) : place < all.length :=
  (List.getElem?_eq_some_iff.1 (of_placed hp).2).1

theorem exists_of_monitor {place : Nat} {m : Monitor} (hm : r.monitor h = .ok (place, m)) :
    r.monitors.get? h = some place ∧ r.allMonitors[place]? = some m :=
  of_placed hm

theorem exists_of_connection {place : Nat} {c : StreamConnection}
    (hc : r.connection h = .ok (place, c)) :
    r.connections.get? h = some place ∧ r.allConnections[place]? = some c :=
  of_placed hc

/-- A change of an endpoint shows in its table; with no endpoint, there is no change. -/
theorem settle_onEndpoint (r : Store) (h : Handle) (f : RemoteEndpoint → RemoteEndpoint) :
    ∃ answer, r.settle (r.onEndpoint h f) =
      (answer, { r with endpoints := r.endpoints.update h f }) := by
  unfold onEndpoint
  cases hg : r.endpoints.get? h with
  | none => rw [lookup_of_none hg, HandleTable.update_of_none hg]; exact ⟨_, rfl⟩
  | some e => rw [lookup_of_some hg]; exact ⟨_, rfl⟩

theorem settle_onPreconnection (r : Store) (h : Handle) (f : Preconnection → Preconnection) :
    ∃ answer, r.settle (r.onPreconnection h f) =
      (answer, { r with preconnections := r.preconnections.update h f }) := by
  unfold onPreconnection
  cases hg : r.preconnections.get? h with
  | none => rw [lookup_of_none hg, HandleTable.update_of_none hg]; exact ⟨_, rfl⟩
  | some p => rw [lookup_of_some hg]; exact ⟨_, rfl⟩

/-- A call that configures an endpoint checks its argument, then changes the endpoint. -/
theorem carryOut_setting {checked : Except CallFault (RemoteEndpoint → RemoteEndpoint)}
    (hs : call.setting? = some (h, checked)) (around : Surroundings) :
    r.carryOut around call = r.settle (checked >>= r.onEndpoint h) := by
  cases call <;> cases hs
  case setPort => rfl
  case setHostname text =>
    simp only [carryOut, setHostname]
    cases TextArgument.hostname.read text with
    | error => rfl
    | ok hostname =>
      by_cases he : hostname.isEmpty <;> simp [he, bind, Except.bind] <;> rfl
  case setService text =>
    simp only [carryOut, setService]
    cases TextArgument.service.read text <;> rfl
  case setAddress text =>
    simp only [carryOut, setAddress]
    cases TextArgument.address.read text with
    | error => rfl
    | ok address => cases hp : Ip.parse? address <;> simp [hp, bind, Except.bind] <;> rfl

/-! #### What holds before and after -/

section Motive

variable {P : Store → Prop}

/-- What is entered in a table leaves what holds before and after. -/
theorem of_entered (hr : P r) {α : Type} {t : HandleTable α} {around : Surroundings} {a : α}
    {f : Handle × HandleTable α → Handle × Store} (hf : ∀ x, P (f x).2) :
    P (r.settleNew ((entered t around a).map f)).2 := by
  obtain he | ⟨g, t', -, he⟩ := entered_cases t around a <;> rw [he]
  · exact hr
  · exact hf (g, t')

/-- So does what is taken out. -/
theorem of_taken (hr : P r) {α : Type} {t : HandleTable α} {kind : HandleKind}
    {f : α × HandleTable α → Store} (hf : ∀ x, P (f x)) :
    P (r.settle ((taken t kind h).map f)).2 := by
  rcases taken t kind h with fault | x
  · exact hr
  · exact hf x

theorem of_setting (hr : P r) (hf : ∀ endpoints, P { r with endpoints })
    {checked : Except CallFault (RemoteEndpoint → RemoteEndpoint)}
    (hs : call.setting? = some (h, checked)) (around : Surroundings) :
    P (r.carryOut around call).2 := by
  rw [carryOut_setting hs]
  cases checked with
  | error fault => exact hr
  | ok f =>
    obtain ⟨answer, ha⟩ := settle_onEndpoint r h f
    change P (r.settle (r.onEndpoint h f)).2
    rw [ha]
    exact hf _

theorem of_onPreconnection (hf : ∀ preconnections, P { r with preconnections }) (h : Handle)
    (f : Preconnection → Preconnection) : P (r.settle (r.onPreconnection h f)).2 := by
  obtain ⟨answer, ha⟩ := settle_onPreconnection r h f
  rw [ha]
  exact hf _

theorem of_addRemote (hr : P r) (hf : ∀ preconnections, P { r with preconnections })
    (h endpoint : Handle) : P (r.settle (r.addRemote h endpoint)).2 := by
  rw [addRemote]
  rcases he : r.endpoints.get? endpoint with _ | e
  · rw [lookup_of_none he]
    exact hr
  · rw [lookup_of_some he]
    exact of_onPreconnection hf h _

theorem of_request (hr : P r) (hf : ∀ place f, P (r.onConnection place f)) (h : Handle)
    (wanted : Request) : P (r.request h wanted).2 := by
  unfold request
  split
  · exact hr
  · dsimp only
    split
    · exact hf _ _
    · split <;> exact hf _ _

end Motive

/-! ### Every call does its deed -/

theorem concerns?_of_setting? {checked : Except CallFault (RemoteEndpoint → RemoteEndpoint)}
    (hs : call.setting? = some (h, checked)) : call.concerns? = some .remoteEndpoint := by
  cases call <;> cases hs <;> rfl

theorem endpointDeed_of_setting? {checked : Except CallFault (RemoteEndpoint → RemoteEndpoint)}
    (hs : call.setting? = some (h, checked)) : call.endpointDeed = .checked h checked := by
  cases call <;> cases hs <;> rfl

theorem preconnectionDeed_addRemote (r : Store) (h endpoint : Handle) :
    Call.preconnectionDeed r (.addRemote h endpoint) =
      match r.endpoints.get? endpoint with
      | some e => .change h (·.addRemote e)
      | none => .nothing := rfl

theorem preconnectionDeed_of_some {endpoint : Handle} {e : RemoteEndpoint}
    (he : r.endpoints.get? endpoint = some e) (h : Handle) :
    Call.preconnectionDeed r (.addRemote h endpoint) = .change h (·.addRemote e) := by
  rw [preconnectionDeed_addRemote, he]

theorem preconnectionDeed_of_none {endpoint : Handle} (he : r.endpoints.get? endpoint = none)
    (h : Handle) : Call.preconnectionDeed r (.addRemote h endpoint) = .nothing := by
  rw [preconnectionDeed_addRemote, he]

theorem carried_setting {checked : Except CallFault (RemoteEndpoint → RemoteEndpoint)}
    (hs : call.setting? = some (h, checked)) (around : Surroundings) :
    r.CarriedOut call (r.carryOut around call) := by
  rw [carryOut_setting hs]
  have hc := concerns?_of_setting? hs
  cases checked with
  | error fault =>
    have hd : call.endpointDeed = .nothing := endpointDeed_of_setting? hs
    exact carried_endpoints hc (hd ▸ .nothing _)
  | ok f =>
    have hd : call.endpointDeed = .change h f := endpointDeed_of_setting? hs
    have hr : (Except.ok f >>= r.onEndpoint h) = r.onEndpoint h f := rfl
    obtain ⟨answer, ha⟩ := settle_onEndpoint r h f
    rw [hr, ha]
    exact carried_endpoints hc (hd ▸ .changed h f _)

theorem carried_createEndpoint (r : Store) (around : Surroundings) :
    r.CarriedOut .createEndpoint (r.carryOut around .createEndpoint) := by
  obtain he | ⟨h, t, hi, he⟩ := entered_cases r.endpoints around {} <;> rw [carryOut, he]
  · exact carried_endpoints rfl .refused
  · exact carried_endpoints rfl (.entered trivial hi)

theorem carried_createPreconnection (r : Store) (around : Surroundings) :
    r.CarriedOut .createPreconnection (r.carryOut around .createPreconnection) := by
  obtain he | ⟨h, t, hi, he⟩ := entered_cases r.preconnections around {} <;> rw [carryOut, he]
  · exact carried_preconnections rfl .refused
  · exact carried_preconnections rfl (.entered trivial hi)

theorem carried_enterMonitor (r : Store) (around : Surroundings) (m : Monitor) :
    r.CarriedOut (.enterMonitor m) (r.carryOut around (.enterMonitor m)) := by
  obtain he | ⟨h, t, hi, he⟩ := entered_cases r.monitors around r.allMonitors.length <;>
    rw [carryOut, he]
  · exact carried_monitors rfl .refused (Nat.le_refl _)
  · exact carried_monitors rfl (.entered (by simp) hi) (by simp)

theorem carried_initiate (r : Store) (around : Surroundings) (h : Handle) :
    r.CarriedOut (.initiate h) (r.initiate around h) := by
  unfold initiate
  split
  · exact carried_connections rfl .refused (Nat.le_refl _)
  · split
    · exact carried_connections rfl .refused (Nat.le_refl _)
    · obtain he | ⟨h, t, hi, he⟩ := entered_cases r.connections around r.allConnections.length <;>
        rw [he]
      · exact carried_connections rfl .refused (Nat.le_refl _)
      · exact carried_connections rfl (.entered (by simp) hi) (by simp)

theorem carried_watch (r : Store) (around : Surroundings) (h : Handle) (hasCallback : Bool) :
    r.CarriedOut (.watch h hasCallback) (r.watch around h hasCallback) := by
  have hrefused (place : Nat) (f : Monitor → Monitor) (fault : CallFault) :
      r.CarriedOut (.watch h hasCallback) (.error fault, r.onMonitor place f) :=
    carried_watchers rfl .refused (by simp)
  unfold watch
  split
  · exact carried_watchers rfl .refused (Nat.le_refl _)
  · split
    · exact carried_watchers rfl .refused (Nat.le_refl _)
    · next place m hm =>
      split
      · exact hrefused _ _ _
      · next watch started _ =>
        obtain he | ⟨h, t, hi, he⟩ := entered_cases r.watchers around ⟨place, watch⟩ <;> rw [he]
        · exact hrefused _ _ _
        · have hplace := lt_of_placed hm
          have hlength := (sameTables_onMonitor r place fun _ => started).monitors
          exact carried_watchers rfl (.entered (hlength.symm ▸ hplace) hi) (Nat.le_of_eq hlength.symm)

theorem carried_request (hn : ∀ kind, call.deed r kind = .nothing) (h : Handle)
    (wanted : Request) : r.CarriedOut call (r.request h wanted) := by
  refine carried_of_sameTables hn ?_
  unfold request
  split
  · exact .refl r
  · simp only
    split
    · exact sameTables_onConnection _ _ _
    · split <;> exact sameTables_onConnection _ _ _

theorem carried_listInterfaces (r : Store) (h : Handle) (hasArray hasCount : Bool) :
    r.CarriedOut (.listInterfaces h hasArray hasCount) (r.listInterfaces h hasArray hasCount) := by
  refine carried_of_sameTables (fun kind => by cases kind <;> rfl) ?_
  unfold listInterfaces
  split
  · exact .refl r
  · split
    · exact .refl r
    · split
      · exact sameTables_onMonitor _ _ _
      · exact (sameTables_onMonitor _ _ _).trans ⟨fun kind => by cases kind <;> rfl, rfl, rfl⟩

theorem carried_freeEndpoint (r : Store) (around : Surroundings) (h : Handle) :
    r.CarriedOut (.freeEndpoint h) (r.carryOut around (.freeEndpoint h)) := by
  obtain ⟨he, ht⟩ | ⟨e, he⟩ := taken_cases r.endpoints .remoteEndpoint h <;> rw [carryOut, he]
  · exact carried_endpoints rfl (Deed.Done.missed ht _)
  · exact carried_endpoints rfl (.released h _)

theorem carried_freePreconnection (r : Store) (around : Surroundings) (h : Handle) :
    r.CarriedOut (.freePreconnection h) (r.carryOut around (.freePreconnection h)) := by
  obtain ⟨he, ht⟩ | ⟨p, he⟩ := taken_cases r.preconnections .preconnection h <;> rw [carryOut, he]
  · exact carried_preconnections rfl (Deed.Done.missed ht _)
  · exact carried_preconnections rfl (.released h _)

/-- A connection that is taken out is aborted, which changes no table. -/
theorem carried_freeConnection (r : Store) (h : Handle) :
    r.CarriedOut (.freeConnection h) (r.settle (r.freeConnection h)) := by
  unfold freeConnection
  obtain ⟨he, ht⟩ | ⟨place, he⟩ := taken_cases r.connections .connection h <;> rw [he]
  · exact carried_connections rfl (Deed.Done.missed ht _) (Nat.le_refl _)
  · exact (carried_connections rfl (.released h _) (Nat.le_refl _)).sameTables
      (sameTables_onConnection _ _ _)

theorem carried_destroyMonitor (r : Store) (h : Handle) :
    r.CarriedOut (.destroyMonitor h) (r.settle (r.destroyMonitor h)) := by
  unfold destroyMonitor
  obtain ⟨he, ht⟩ | ⟨place, he⟩ := taken_cases r.monitors .pathMonitor h <;> rw [he]
  · exact carried_monitors rfl (Deed.Done.missed ht _) (Nat.le_refl _)
  · exact (carried_monitors rfl (.released h _) (Nat.le_refl _)).sameTables
      (sameTables_onMonitor _ _ _)

theorem carried_unwatch (r : Store) (h : Handle) :
    r.CarriedOut (.unwatch h) (r.settle (r.unwatch h)) := by
  unfold unwatch
  obtain ⟨he, ht⟩ | ⟨w, he⟩ := taken_cases r.watchers .watcher h <;> rw [he]
  · exact carried_watchers rfl (Deed.Done.missed ht _) (Nat.le_refl _)
  · exact (carried_watchers rfl (.released h _) (Nat.le_refl _)).sameTables
      (sameTables_onMonitor _ _ _)

theorem carried_addRemote (r : Store) (h endpoint : Handle) :
    r.CarriedOut (.addRemote h endpoint) (r.settle (r.addRemote h endpoint)) := by
  unfold addRemote
  cases he : r.endpoints.get? endpoint with
  | none =>
    rw [lookup_of_none he]
    exact carried_preconnections rfl (preconnectionDeed_of_none he h ▸ .nothing _)
  | some e =>
    have hr : (Except.ok e >>= fun e => r.onPreconnection h (·.addRemote e)) =
      r.onPreconnection h (·.addRemote e) := rfl
    obtain ⟨answer, ha⟩ := settle_onPreconnection r h (·.addRemote e)
    rw [lookup_of_some he, hr, ha]
    exact carried_preconnections rfl (preconnectionDeed_of_some he h ▸ .changed h _ _)

theorem sameTables_abortAll (r : Store) : r.SameTables r.abortAll :=
  sameTables_foldl (fun r place => sameTables_onConnection r place _) _ r

theorem sameTables_stopAll (r : Store) : r.SameTables r.stopAll :=
  sameTables_foldl (fun r (w : WatchRef) => sameTables_onMonitor r w.monitor _) _ r

theorem sameTables_endAll (r : Store) : r.SameTables r.endAll :=
  sameTables_foldl (fun r place => sameTables_onMonitor r place _) _ r

/-- Connections are aborted and watches end before the tables are cleared, which changes none. -/
theorem carried_shutDown (r : Store) : r.CarriedOut .shutDown (.ok .nothing, r.shutDown) := by
  have hsame : r.SameTables r.abortAll.stopAll.endAll :=
    ((sameTables_abortAll r).trans (sameTables_stopAll _)).trans (sameTables_endAll _)
  constructor
  case done =>
    intro kind
    have hclear : r.shutDown.table kind = (r.table kind).clear := by
      rw [← hsame.table]
      cases kind <;> rfl
    rw [hclear]
    cases kind <;> exact .releasedAll _
  case monitors => exact Nat.le_of_eq hsame.monitors.symm
  case connections => exact Nat.le_of_eq hsame.connections.symm

/-- **Every call does its deed on every table.** -/
theorem carried_carryOut (r : Store) (around : Surroundings) (call : Call) :
    r.CarriedOut call (r.carryOut around call) := by
  cases call with
  | setHostname | setService | setAddress | setPort => exact carried_setting rfl around
  | createEndpoint => exact carried_createEndpoint r around
  | createPreconnection => exact carried_createPreconnection r around
  | enterMonitor m => exact carried_enterMonitor r around m
  | initiate h => exact carried_initiate r around h
  | watch h hasCallback => exact carried_watch r around h hasCallback
  | freeEndpoint h => exact carried_freeEndpoint r around h
  | freePreconnection h => exact carried_freePreconnection r around h
  | freeConnection h => exact carried_freeConnection r h
  | destroyMonitor h => exact carried_destroyMonitor r h
  | unwatch h => exact carried_unwatch r h
  | shutDown => exact carried_shutDown r
  | addRemote h endpoint => exact carried_addRemote r h endpoint
  | setSecurityDisabled h disabled =>
    obtain ⟨answer, ha⟩ :=
      settle_onPreconnection r h fun p => { p with security := { disabled } }
    rw [carryOut, ha]
    exact carried_preconnections rfl (.changed h _ _)
  | listInterfaces h hasArray hasCount => exact carried_listInterfaces r h hasArray hasCount
  | send h buffer length =>
    cases buffer with
    | none =>
      rw [carryOut]
      split
      · exact carried_request (fun kind => by cases kind <;> rfl) h _
      · exact carried_of_sameTables (fun kind => by cases kind <;> rfl) (.refl r)
    | some data => exact carried_request (fun kind => by cases kind <;> rfl) h _
  | receive h hasBuffer capacity =>
    rw [carryOut]
    split
    · exact carried_of_sameTables (fun kind => by cases kind <;> rfl) (.refl r)
    · exact carried_request (fun kind => by cases kind <;> rfl) h _
  | close h => exact carried_request (fun kind => by cases kind <;> rfl) h _
  | phase h =>
    simp only [carryOut]
    split <;> exact carried_of_sameTables (fun kind => by cases kind <;> rfl) (.refl r)
  | startUp => exact carried_of_sameTables (fun kind => by cases kind <;> rfl) (.refl r)
  | clearError =>
    exact carried_of_sameTables (fun kind => by cases kind <;> rfl)
      ⟨fun kind => by cases kind <;> rfl, rfl, rfl⟩
  | freeArray base count =>
    simp only [carryOut, freeArray]
    split <;> exact carried_of_sameTables (fun kind => by cases kind <;> rfl)
      ⟨fun kind => by cases kind <;> rfl, rfl, rfl⟩

end Store

end Dialer
