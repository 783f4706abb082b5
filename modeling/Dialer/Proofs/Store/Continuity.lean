import Dialer.Proofs.Connection.Room
import Dialer.Proofs.Store.Setback

/-!
# What calls never change

Two things hold of a store whatever calls are made on it. Its tables are never larger than handles
can tell slots apart, so no handle is 0 (`Store.Bounded`). And its connections are only asked for
what they can give, so none of them complains that there is no room (`Store.Roomy`).

* `Store.bounded_carryOut`, `Store.roomy_carryOut`: calls keep both.
* `Store.lastFault_perform`: the fault that is kept gives way to the next one and to nothing else.
-/

namespace Dialer

/-! ### Tables of bounded size -/

namespace HandleTable

variable {α : Type} {t t' : HandleTable α} {h : Handle}

/-- The handle of an object that was entered is not 0. -/
theorem ne_zero_of_insert? (hb : t.slots.length ≤ capacity) {pick : Nat} {a : α}
    (hi : t.insert? pick a = some (h, t')) : h ≠ 0 := by
  obtain ⟨k, rfl, he⟩ := insert?_eq_some hi
  have hbound := he.bound hb
  have hplace := he.place_lt
  have hcapacity : capacity = 4294967294 := rfl
  have hlow : k.handle.toNat % UInt32.size = k.place + 1 := by
    rw [Key.handle, UInt64.toNat_ofNat', UInt32.size]
    omega
  intro hzero
  rw [hzero] at hlow
  exact absurd hlow (by simp)

theorem exists_insert_of_done {fresh : α → Prop} {d : Deed α}
    (hd : d.Done fresh t (some h) t') (he : d = .enter) :
    ∃ pick a, t.insert? pick a = some (h, t') := by
  subst he
  cases hd with
  | entered _ hi => exact ⟨_, _, hi⟩

theorem bounded_done {fresh : α → Prop} {d : Deed α} {new : Option Handle}
    (hd : d.Done fresh t new t') (hb : t.slots.length ≤ capacity) : t'.slots.length ≤ capacity := by
  cases hd with
  | nothing | refused => exact hb
  | entered _ hi =>
    obtain ⟨k, -, he⟩ := insert?_eq_some hi
    exact he.bound hb
  | changed h f => rwa [length_slots_update]
  | released h => rwa [length_slots_without]
  | releasedAll => simpa [clear] using hb

end HandleTable

namespace Store

variable {r r' r'' : Store} {call : Call} {fault : CallFault} {h : Handle} {around : Surroundings}

/-- **No table is larger** than handles can tell slots apart. -/
def Bounded (r : Store) : Prop := ∀ kind, (r.table kind).slots.length ≤ HandleTable.capacity

theorem bounded_empty : Bounded {} := fun kind => by cases kind <;> exact Nat.zero_le _

theorem Bounded.sameTables (hb : r.Bounded) (hs : r.SameTables r') : r'.Bounded :=
  fun kind => hs.table kind ▸ hb kind

theorem bounded_carryOut (hb : r.Bounded) (around : Surroundings) (call : Call) :
    (r.carryOut around call).2.Bounded :=
  fun kind => HandleTable.bounded_done ((carried_carryOut r around call).done kind) (hb kind)

/-! ### What calls are answered -/

/-- A value that is neither a handle nor missing. -/
def Value.Plain : Value → Prop
  | .handle _ | .blocked => False
  | _ => True

/-- **What a call is answered:** that it fails, a plain value, the handle of something that is entered,
or what a request to a connection is answered. -/
inductive Answered (r : Store) (around : Surroundings) (call : Call) : Prop
  | fails {fault : CallFault} (hv : (r.carryOut around call).1 = .error fault)
  | plain {value : Value} (hv : (r.carryOut around call).1 = .ok value) (hp : value.Plain)
  | enters {kind : HandleKind} {h : Handle} (hv : (r.carryOut around call).1 = .ok (.handle h))
    (hd : call.deed r kind = .enter)
  | asks {h : Handle} {wanted : Request} (hw : call.request? = some (h, wanted))
    (hc : r.carryOut around call = r.request h wanted)

theorem answered_settle {result : Except CallFault Store}
    (hc : r.carryOut around call = r.settle result) : r.Answered around call := by
  cases result with
  | error fault => exact .fails (congrArg Prod.fst hc)
  | ok after => exact .plain (congrArg Prod.fst hc) trivial

theorem answered_settleNew {result : Except CallFault (Handle × Store)} {k : HandleKind}
    (hc : (r.carryOut around call).1 = (r'.settleNew result).1) (hd : call.deed r k = .enter) :
    r.Answered around call := by
  cases result with
  | error fault => exact .fails hc
  | ok x => exact .enters hc hd

theorem answered_initiate (r : Store) (around : Surroundings) (h : Handle) :
    r.Answered around (.initiate h) := by
  have hcarry : r.carryOut around (.initiate h) = r.initiate around h := rfl
  unfold initiate at hcarry
  split at hcarry
  · exact .fails (congrArg Prod.fst hcarry)
  · split at hcarry
    · exact .fails (congrArg Prod.fst hcarry)
    · exact answered_settleNew (k := .connection) (congrArg Prod.fst hcarry) rfl

theorem answered_watch (r : Store) (around : Surroundings) (h : Handle) (hasCallback : Bool) :
    r.Answered around (.watch h hasCallback) := by
  have hcarry : r.carryOut around (.watch h hasCallback) = r.watch around h hasCallback := rfl
  unfold watch at hcarry
  split at hcarry
  · exact .fails (congrArg Prod.fst hcarry)
  · split at hcarry
    · exact .fails (congrArg Prod.fst hcarry)
    · split at hcarry
      · exact .fails (congrArg Prod.fst hcarry)
      · exact answered_settleNew (k := .watcher) (congrArg Prod.fst hcarry) rfl

theorem answered_listInterfaces (r : Store) (around : Surroundings) (h : Handle)
    (hasArray hasCount : Bool) : r.Answered around (.listInterfaces h hasArray hasCount) := by
  have hcarry : r.carryOut around (.listInterfaces h hasArray hasCount) =
    r.listInterfaces h hasArray hasCount := rfl
  unfold listInterfaces at hcarry
  split at hcarry
  · exact .fails (congrArg Prod.fst hcarry)
  · split at hcarry
    · exact .fails (congrArg Prod.fst hcarry)
    · split at hcarry
      · exact .fails (congrArg Prod.fst hcarry)
      · exact .plain (congrArg Prod.fst hcarry) trivial

/-- **Every call is answered** in one of these ways. -/
theorem answered_carryOut (r : Store) (around : Surroundings) (call : Call) :
    r.Answered around call := by
  have hasks (ha : call.Asks) := carryOut_of_asks ha r around
  cases call with
  | startUp | shutDown | clearError => exact .plain rfl trivial
  | createEndpoint => exact answered_settleNew (k := .remoteEndpoint) rfl rfl
  | createPreconnection => exact answered_settleNew (k := .preconnection) rfl rfl
  | enterMonitor => exact answered_settleNew (k := .pathMonitor) rfl rfl
  | initiate h => exact answered_initiate r around h
  | watch h hasCallback => exact answered_watch r around h hasCallback
  | listInterfaces h hasArray hasCount => exact answered_listInterfaces r around h hasArray hasCount
  | send | receive | close =>
    obtain ⟨fault, he⟩ | ⟨h, wanted, hw, he⟩ := hasks trivial
    · exact .fails (congrArg Prod.fst he)
    · exact .asks hw he
  | phase h =>
    rcases hc : r.connection h with fault | ⟨place, c⟩
    · exact .fails (by rw [carryOut, hc])
    · have hv : (r.carryOut around (.phase h)).1 = .ok (.phase c.life.phase) := by
        rw [carryOut, hc]
      exact .plain hv trivial
  | _ => exact answered_settle rfl

theorem answer_request_ne (wanted : Request) {g : Handle} :
    (r.request h wanted).1 ≠ .ok (.handle g) := by
  unfold request
  split
  · nofun
  · dsimp only
    split
    · nofun
    · split <;> nofun

/-- A handle is returned if something is entered, and by no other call. -/
theorem exists_enter_of_handle (hv : (r.carryOut around call).1 = .ok (.handle h)) :
    ∃ kind, call.deed r kind = .enter := by
  cases r.answered_carryOut around call with
  | fails he => cases hv.symm.trans he
  | plain he hp =>
    cases hv.symm.trans he
    exact hp.elim
  | enters he hd => exact ⟨_, hd⟩
  | asks hw hc => exact absurd (hc ▸ hv) (answer_request_ne _)

/-- **No handle is 0.** -/
theorem handle_ne_zero (hb : r.Bounded) (hv : (r.carryOut around call).1 = .ok (.handle h)) :
    h ≠ 0 := by
  obtain ⟨kind, hd⟩ := exists_enter_of_handle hv
  have hdone := (carried_carryOut r around call).done kind
  have hnew : newHandle? (r.carryOut around call).1 = some h := by rw [hv]; rfl
  rw [hnew] at hdone
  obtain ⟨pick, a, hi⟩ := HandleTable.exists_insert_of_done hdone hd
  exact HandleTable.ne_zero_of_insert? (hb kind) hi

/-! ### Connections that are asked for what they can give -/

/-- **No connection complains** that there is no room to receive anything into. -/
def Roomy (r : Store) : Prop := ∀ c ∈ r.allConnections, c.Roomy

theorem roomy_empty : Roomy {} := fun _ hc => absurd hc List.not_mem_nil

/-- What a call leaves of a store, whatever else it does: the fault that is kept, and that connections
do not complain. -/
structure Continues (r r' : Store) : Prop where
  lastFault : r'.lastFault = r.lastFault
  roomy : r.Roomy → r'.Roomy

theorem Continues.refl (r : Store) : r.Continues r := ⟨rfl, id⟩

theorem Continues.trans (h : r.Continues r') (h' : r'.Continues r'') : r.Continues r'' :=
  ⟨h'.lastFault.trans h.lastFault, fun hr => h'.roomy (h.roomy hr)⟩

/-- A store that differs in something else. -/
theorem continues_of_eq (hf : r'.lastFault = r.lastFault)
    (hc : r'.allConnections = r.allConnections) : r.Continues r' :=
  ⟨hf, fun hr c hmem => hr c (hc ▸ hmem)⟩

theorem continues_onMonitor (r : Store) (place : Nat) (f : Monitor → Monitor) :
    r.Continues (r.onMonitor place f) := continues_of_eq rfl rfl

theorem continues_onConnection {place : Nat} {f : StreamConnection → StreamConnection}
    (hf : ∀ c, r.allConnections[place]? = some c → c.Roomy → (f c).Roomy) :
    r.Continues (r.onConnection place f) where
  lastFault := rfl
  roomy hr c hmem := by
    obtain ⟨p, hp⟩ := List.getElem?_of_mem hmem
    rw [onConnection, List.getElem?_modify] at hp
    obtain ⟨before, hbefore, rfl⟩ := Option.map_eq_some_iff.mp hp
    have hroomy := hr before (List.mem_of_getElem? hbefore)
    split
    · rename_i he
      subst he
      exact hf before hbefore hroomy
    · exact hroomy

theorem continues_foldl {β : Type} {f : Store → β → Store}
    (hf : ∀ (r : Store) (b : β), r.Continues (f r b)) (bs : List β) (r : Store) :
    r.Continues (bs.foldl f r) := by
  induction bs generalizing r with
  | nil => exact .refl r
  | cons b bs ih => exact (hf r b).trans (ih _)

theorem continues_abort (r : Store) (place : Nat) :
    r.Continues (r.onConnection place (·.abort.settle)) :=
  continues_onConnection fun _ _ hc => hc.abort.settle

/-! #### The steps calls are made of -/

theorem continues_settle {result : Except CallFault Store}
    (hf : ∀ r', result = .ok r' → r.Continues r') : r.Continues (r.settle result).2 := by
  cases result with
  | error => exact .refl r
  | ok r' => exact hf r' rfl

theorem continues_initiate (r : Store) (around : Surroundings) (h : Handle) :
    r.Continues (r.initiate around h).2 := by
  unfold initiate
  split
  · exact .refl r
  · split
    · exact .refl r
    · refine of_entered (.refl r) fun x => ⟨rfl, fun hr c hmem => ?_⟩
      rcases List.mem_append.mp hmem with hmem | hmem
      · exact hr c hmem
      · cases List.mem_singleton.mp hmem
        exact Connection.roomy_ofCapacity _

/-- A connection that is asked for what it can give does not complain. -/
theorem continues_request {wanted : Request} (hw : wanted ≠ .receive 0) (r : Store) (h : Handle) :
    r.Continues (r.request h wanted).2 := by
  unfold request
  rcases hc : r.connection h with fault | ⟨place, c⟩
  · exact .refl r
  · have hsettled (hr : c.Roomy) : (c.issue wanted).2.settle.Roomy := (hr.issue hw).settle
    have hplace := (exists_of_connection hc).2
    have hcancelled : r.Continues
        (r.onConnection place fun _ => (c.issue wanted).2.settle.cancel (c.issue wanted).1) :=
      continues_onConnection fun before hbefore hr => by
        cases hplace.symm.trans hbefore
        exact (hsettled hr).cancel _
    dsimp only
    split
    · refine continues_onConnection fun before hbefore hr => ?_
      cases hplace.symm.trans hbefore
      exact hsettled hr
    · split <;> exact hcancelled

theorem continues_watch (r : Store) (around : Surroundings) (h : Handle) (hasCallback : Bool) :
    r.Continues (r.watch around h hasCallback).2 := by
  unfold watch
  split
  · exact .refl r
  · split
    · exact .refl r
    · rename_i place m hm
      split
      · exact continues_onMonitor _ _ _
      · rename_i watch begun _
        obtain he | ⟨g, t, -, he⟩ := entered_cases r.watchers around ⟨place, watch⟩ <;> rw [he]
        · exact continues_onMonitor _ _ _
        · exact continues_of_eq rfl rfl

theorem continues_listInterfaces (r : Store) (h : Handle) (hasArray hasCount : Bool) :
    r.Continues (r.listInterfaces h hasArray hasCount).2 := by
  unfold listInterfaces
  split
  · exact .refl r
  · split
    · exact .refl r
    · split <;> exact continues_of_eq rfl rfl

theorem continues_shutDown (r : Store) : r.Continues r.shutDown := by
  have haborted : r.Continues r.abortAll := continues_foldl continues_abort _ r
  have hstopped : r.abortAll.Continues r.abortAll.stopAll :=
    continues_foldl (fun r (w : WatchRef) => continues_onMonitor r w.monitor _) _ _
  have hended : r.abortAll.stopAll.Continues r.abortAll.stopAll.endAll :=
    continues_foldl (fun r place => continues_onMonitor r place _) _ _
  exact ((haborted.trans hstopped).trans hended).trans (continues_of_eq rfl rfl)

/-- **What every call leaves of a store.** -/
theorem continues_carryOut (r : Store) (around : Surroundings) (hne : call ≠ .clearError) :
    r.Continues (r.carryOut around call).2 := by
  have hasks (ha : call.Asks) := carryOut_of_asks ha r around
  cases call with
  | clearError => exact absurd rfl hne
  | startUp => exact .refl r
  | shutDown => exact continues_shutDown r
  | createEndpoint | createPreconnection | enterMonitor =>
    exact of_entered (.refl r) fun _ => continues_of_eq rfl rfl
  | setHostname | setService | setAddress | setPort =>
    exact of_setting (.refl r) (fun _ => continues_of_eq rfl rfl) rfl around
  | setSecurityDisabled => exact of_onPreconnection (fun _ => continues_of_eq rfl rfl) _ _
  | addRemote => exact of_addRemote (.refl r) (fun _ => continues_of_eq rfl rfl) _ _
  | freeEndpoint | freePreconnection =>
    exact of_taken (.refl r) fun _ => continues_of_eq rfl rfl
  | freeConnection h =>
    refine continues_settle fun r' hr => ?_
    unfold freeConnection at hr
    obtain ⟨he, -⟩ | ⟨place, he⟩ := taken_cases r.connections .connection h <;> rw [he] at hr <;>
      cases hr
    have htaken : r.Continues { r with connections := r.connections.without h } :=
      continues_of_eq rfl rfl
    exact htaken.trans (continues_abort _ place)
  | destroyMonitor h =>
    refine continues_settle fun r' hr => ?_
    unfold destroyMonitor at hr
    obtain ⟨he, -⟩ | ⟨place, he⟩ := taken_cases r.monitors .pathMonitor h <;> rw [he] at hr <;>
      cases hr
    exact continues_of_eq rfl rfl
  | unwatch h =>
    refine continues_settle fun r' hr => ?_
    unfold unwatch at hr
    obtain ⟨he, -⟩ | ⟨w, he⟩ := taken_cases r.watchers .watcher h <;> rw [he] at hr <;> cases hr
    exact continues_of_eq rfl rfl
  | initiate h => exact continues_initiate r around h
  | watch h hasCallback => exact continues_watch r around h hasCallback
  | listInterfaces h hasArray hasCount => exact continues_listInterfaces r h hasArray hasCount
  | freeArray base count =>
    refine continues_settle fun r' hr => ?_
    unfold freeArray at hr
    split at hr <;> cases hr
    exact continues_of_eq rfl rfl
  | send | receive | close =>
    obtain ⟨fault, he⟩ | ⟨h, wanted, hw, he⟩ := hasks trivial <;> rw [he]
    · exact .refl r
    · exact continues_request (Call.wanted_ne hw) r h
  | phase h =>
    rw [carryOut]
    split <;> exact .refl r

theorem roomy_carryOut (hr : r.Roomy) (around : Surroundings) (call : Call) :
    (r.carryOut around call).2.Roomy := by
  by_cases hne : call = .clearError
  · subst hne
    exact hr
  · exact (continues_carryOut r around hne).roomy hr

/-- **The fault that is kept** gives way to the next one, unless it is cleared. -/
theorem lastFault_perform (r : Store) (around : Surroundings) (call : Call) :
    (r.perform around call).2.lastFault =
      match (r.carryOut around call).1 with
      | .error fault => some fault
      | .ok _ => if call = .clearError then none else r.lastFault := by
  unfold perform
  rcases hc : r.carryOut around call with ⟨fault | value, after⟩
  · rfl
  · by_cases hne : call = .clearError
    · subst hne
      cases hc
      rfl
    · have hkept := (continues_carryOut r around hne).lastFault
      rw [hc] at hkept
      dsimp only at hkept ⊢
      rw [if_neg hne, hkept]

end Store

end Dialer
