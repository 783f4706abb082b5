import Dialer.Proofs.Path.Scenario
import Dialer.Proofs.Store.Reporting
import Dialer.Proofs.Store.Vigil

/-!
# Call scenarios come to happenings

An operation of a scenario is a call, or something that happens to a monitor or to a connection, with
the calls that listeners make in between. So the store of a scenario is one that a vigil comes to by
some happenings (`CallScenario.State.vigil_run`), what holds of every vigil and of every session holds
of it, and a call of a scenario is one of an entry point (`CallScenario.State.call_of_perform`).
-/

namespace Dialer

namespace Store

variable {r r' r'' : Store}

/-- A store after some happenings. -/
def after (r : Store) (later : List Happening) : Store :=
  later.foldl (fun r e => (r.undergo e.event).2) r

/-- Some happenings, in which monitors are entered with sources of their own, lead from a store to
another one. -/
def Reaches (r r' : Store) : Prop := ∃ later, (∀ e ∈ later, e.Tidy) ∧ r.after later = r'

namespace Reaches

theorem refl (r : Store) : r.Reaches r := ⟨[], nofun, rfl⟩

theorem trans (h : r.Reaches r') (h' : r'.Reaches r'') : r.Reaches r'' := by
  obtain ⟨later, htidy, rfl⟩ := h
  obtain ⟨again, htidy', rfl⟩ := h'
  exact ⟨later ++ again, List.forall_mem_append.mpr ⟨htidy, htidy'⟩, List.foldl_append⟩

theorem of_undergo (e : Happening) (htidy : e.Tidy) (he : (r.undergo e.event).2 = r') :
    r.Reaches r' :=
  ⟨[e], List.forall_mem_singleton.mpr htidy, he⟩

theorem onConnection (r : Store) (place : Nat) (f : StreamConnection → StreamConnection) :
    r.Reaches (r.onConnection place f) := of_undergo (.peer place f) nofun rfl

/-- What changes in the network of a monitor is not its subscriptions. -/
theorem network (r : Store) (place : Nat) (f : Source → Source)
    (hf : ∀ s, (f s).SameSubscriptions s) :
    r.Reaches (r.onMonitor place fun m => { m with source := f m.source }) := by
  rcases hm : r.allMonitors[place]? with _ | m
  · have hself : (r.onMonitor place fun m => { m with source := f m.source }) = r :=
      onMonitor_self fun m hm' => by rw [hm] at hm'; cases hm'
    rw [hself]
    exact refl r
  · refine of_undergo (.network place (f m.source)) nofun (onMonitor_congr fun m' hm' => ?_)
    rw [hm] at hm'
    cases hm'
    rw [Source.become_of_sameSubscriptions (hf m.source)]

theorem edit (r : Store) (place : Nat) (e : Edit) : r.Reaches (r.edit place e) :=
  network r place (·.edit e) fun s => Source.sameSubscriptions_edits [e] s

theorem edits (r : Store) (place : Nat) (edits : List Edit) :
    r.Reaches (edits.foldl (fun r e => r.edit place e) r) := by
  induction edits generalizing r with
  | nil => exact refl r
  | cons e edits ih => exact (edit r place e).trans (ih _)

theorem failNext (r : Store) (place : Nat) (text : String) : r.Reaches (r.failNext place text) :=
  network r place (·.failNext text) fun _ => ⟨rfl, rfl⟩

theorem observe (r : Store) (place : Nat) : r.Reaches (r.observe place) :=
  of_undergo (.observe place) nofun rfl

theorem deliver {place : Nat} {x : WatchRef × ChangeView} (hd : r.deliver? place = some (x, r')) :
    r.Reaches r' :=
  of_undergo (.deliver place) nofun (undergo_deliver hd)

end Reaches

end Store

theorem Vigil.store_run (v : Vigil) {later : List Store.Happening} (htidy : ∀ e ∈ later, e.Tidy) :
    (v.run later).store = v.store.after later := by
  induction later generalizing v with
  | nil => rfl
  | cons e later ih =>
    have hstep : (v.step e).store = (v.store.undergo e.event).2 := by
      rw [step, if_pos (htidy e List.mem_cons_self)]
      rfl
    have hrest := ih (v.step e) fun e' he' => htidy e' (List.mem_cons_of_mem _ he')
    rw [hstep] at hrest
    exact hrest

namespace CallScenario

open Store (Reaches Happening)

/-- A monitor that an operation enters has its source for itself. -/
def Operation.Tidy : Operation → Prop
  | .call c _ => (Happening.call {} c).Tidy
  | .callOn _ made _ => ∀ h, (Happening.call {} (made h)).Tidy
  | .enterMonitor _ source => (Happening.call {} (.enterMonitor { source })).Tidy
  | _ => True

theorem bind_eq_ok {ε α β : Type} {x : Except ε α} {f : α → Except ε β} {b : β}
    (h : (x >>= f) = .ok b) : ∃ a, x = .ok a ∧ f a = .ok b := by
  cases x with
  | error e => cases h
  | ok a => exact ⟨a, rfl, h⟩

namespace State

variable {s t : State} {written : HandleKind → String} {c : Store.Call}

/-! ### Calls -/

theorem reaches_perform (s : State) (written : HandleKind → String)
    (hc : (Happening.call {} c).Tidy) : s.store.Reaches (s.perform written c).2.store :=
  .of_undergo (.call { network := s.network } c) hc rfl

theorem store_bind (s : State) (c : Store.Call) (name : Option String)
    (answer : Except CallFault Store.Value) : (s.bind c name answer).store = s.store := by
  unfold bind
  split <;> rfl

theorem reaches_bind_perform (s : State) (written : HandleKind → String)
    (hc : (Happening.call {} c).Tidy) (name : Option String) :
    let (answer, t) := s.perform written c
    s.store.Reaches (t.bind c name answer).store := by
  dsimp only
  rw [store_bind]
  exact reaches_perform s written hc

theorem reaches_performOn {h : Ref} {call : Handle → Store.Call} {name : Option String}
    {made : Store.Call × Except CallFault Store.Value × State}
    (hc : ∀ h, (Happening.call {} (call h)).Tidy) (ho : s.performOn h call name = .ok made) :
    s.store.Reaches made.2.2.store := by
  unfold performOn at ho
  dsimp only at ho
  split at ho <;> obtain ⟨handle, -, hdone⟩ := bind_eq_ok ho <;> cases hdone
  · exact reaches_bind_perform s _ (hc handle) name
  · exact reaches_bind_perform s _ (hc handle) name

/-! ### Listeners -/

theorem reaches_hear (s : State) (w : WatchRef) (change : ChangeView) :
    s.store.Reaches (s.hear w change).store := by
  unfold hear
  split
  · exact .refl _
  · dsimp only
    split_ifs
    · exact .of_undergo (.callElsewhere {} (.unwatch _)) nofun rfl
    · exact .refl _

theorem reaches_deliverFor (place fuel : Nat) (s : State) :
    s.store.Reaches (deliverFor place fuel s).store := by
  induction fuel generalizing s with
  | zero => exact .refl _
  | succ fuel ih =>
    rw [deliverFor]
    split
    · exact .refl _
    · rename_i w change store hd
      have hheard := reaches_hear { s with store } w change
      exact ((Reaches.deliver hd).trans hheard).trans (ih _)

theorem reaches_observe (s : State) (place : Nat) :
    s.store.Reaches (s.observe place).store :=
  (Reaches.observe s.store place).trans
    (reaches_deliverFor place _ { s with store := s.store.observe place })

theorem reaches_edit (s : State) (monitor : String) (edits : List Edit) :
    s.store.Reaches (s.edit monitor edits).store := by
  unfold edit
  split
  · exact .refl _
  · rename_i place _
    have honce := (Reaches.edits s.store place edits).trans
      (reaches_observe { s with store := edits.foldl (fun r e => r.edit place e) s.store } place)
    dsimp only
    split_ifs
    · exact honce.trans (reaches_observe _ place)
    · exact honce

/-! ### Peers -/

theorem reaches_onPeer (s : State) (peer : String) (operation : ConnectionScenario.Operation) :
    s.store.Reaches (s.onPeer peer operation).2.store := by
  unfold onPeer
  split
  · exact .refl _
  · split
    · exact .refl _
    · exact .onConnection _ _ _

theorem reaches_peerRead (s : State) (peer : String) (exactly : Nat) :
    s.store.Reaches (s.peerRead peer exactly).2.store := by
  have hread := reaches_onPeer s peer (.peerRead exactly)
  unfold peerRead
  dsimp only
  split
  · exact .refl _
  · split_ifs
    · exact .refl _
    · exact .refl _
    · split <;> rename_i heq <;> rw [heq] at hread <;> exact hread

/-! ### Whole scenarios -/

/-- **An operation comes to some happenings.** -/
theorem reaches_act {operation : Operation} {answer : Answer} (htidy : operation.Tidy)
    (ha : s.act operation = .ok (answer, t)) : s.store.Reaches t.store := by
  cases operation with
  | version | errorElsewhere | subscribers | stoppedInside | listen =>
    cases ha
    exact .refl _
  | call c name =>
    have hc : (Happening.call {} c).Tidy := htidy
    cases ha
    exact reaches_bind_perform s _ hc name
  | callOn h call name =>
    obtain ⟨made, hmade, hdone⟩ := bind_eq_ok ha
    cases hdone
    exact reaches_performOn htidy hmade
  | addRemote p e =>
    obtain ⟨preconnection, -, hrest⟩ := bind_eq_ok ha
    obtain ⟨endpoint, -, hdone⟩ := bind_eq_ok hrest
    cases hdone
    exact reaches_perform s _ nofun
  | setPortOf h listener =>
    obtain ⟨made, hmade, hdone⟩ := bind_eq_ok ha
    cases hdone
    have hc : ∀ port h, (Happening.call {} (.setPort h port)).Tidy := fun _ _ => nofun
    exact reaches_performOn (hc _) hmade
  | enterMonitor name source =>
    have hc : (Happening.call {} (.enterMonitor { source })).Tidy := htidy
    cases ha
    exact reaches_bind_perform s _ hc (some name)
  | watch h name stopInside hasCallback =>
    obtain ⟨⟨made, answer, u⟩, hmade, hdone⟩ := bind_eq_ok ha
    have hc : ∀ h, (Happening.call {} (.watch h hasCallback)).Tidy := fun _ => nofun
    have hreach := reaches_performOn hc hmade
    dsimp only at hdone
    split at hdone
    · split at hdone <;> cases hdone <;> exact hreach
    · cases hdone
      exact hreach
  | list h name hasArray hasCount =>
    obtain ⟨⟨made, answer, u⟩, hmade, hdone⟩ := bind_eq_ok ha
    have hc : ∀ h, (Happening.call {} (.listInterfaces h hasArray hasCount)).Tidy :=
      fun _ => nofun
    have hreach := reaches_performOn hc hmade
    dsimp only at hdone
    split at hdone <;> cases hdone <;> exact hreach
  | free array count =>
    cases ha
    exact reaches_perform s _ nofun
  | failNext monitor text =>
    unfold act at ha
    dsimp only at ha
    split at ha <;> cases ha
    · exact .refl _
    · exact .failNext _ _ _
  | edit monitor edits =>
    cases ha
    exact reaches_edit s monitor edits
  | accept name =>
    unfold act at ha
    dsimp only at ha
    split at ha <;> cases ha <;> exact .refl _
  | peerWrite peer data =>
    obtain rfl := congrArg Prod.snd (Except.ok.inj ha)
    exact reaches_onPeer s peer (.peerWrite data)
  | peerRead peer exactly =>
    obtain rfl := congrArg Prod.snd (Except.ok.inj ha)
    exact reaches_peerRead s peer exactly
  | peerDrop peer =>
    obtain rfl := congrArg Prod.snd (Except.ok.inj ha)
    exact reaches_onPeer s peer .peerDrop

theorem reaches_run {operations : List Operation} {steps : List Step}
    (htidy : ∀ operation ∈ operations, operation.Tidy)
    (hr : run s operations = .ok (steps, t)) : s.store.Reaches t.store := by
  induction operations generalizing s steps with
  | nil =>
    cases hr
    exact .refl _
  | cons operation rest ih =>
    obtain ⟨⟨answer, u⟩, hact, hrest⟩ := bind_eq_ok hr
    obtain ⟨⟨later, final⟩, hlater, hdone⟩ := bind_eq_ok hrest
    cases hdone
    have hone := reaches_act (htidy operation List.mem_cons_self) hact
    exact hone.trans (ih (fun o ho => htidy o (List.mem_cons_of_mem _ ho)) hlater)

/-- **The store of a scenario is that of a vigil.** -/
theorem vigil_run {operations : List Operation} {steps : List Step}
    (htidy : ∀ operation ∈ operations, operation.Tidy)
    (hr : run s operations = .ok (steps, t)) (v : Vigil) (hv : v.store = s.store) :
    ∃ later, (v.run later).store = t.store := by
  obtain ⟨later, hlater, hafter⟩ := reaches_run htidy hr
  refine ⟨later, ?_⟩
  rw [v.store_run hlater, hv, hafter]

/-! ### Entry points -/

/-- **A call of a scenario is a call of an entry point,** of a host that lacks nothing for it: it
reports the answer, and the text that is kept is that of the fault that the store keeps. -/
theorem call_of_perform {b : Boundary} {host : Host} (hs : b.store = s.store)
    (hk : b.message = b.store.lastFault.map (·.message {})) (hl : host.lack? c = none)
    (haround : host.toSurroundings = { network := s.network }) :
    let (report, after) := b.call host c
    let (answer, t) := s.perform written c
    report = (match answer with
      | .ok value => c.done value
      | .error fault => c.refused fault.status) ∧
    after.message = t.store.lastFault.map (·.message {}) := by
  have hmessage := Boundary.message_call hl hk
  rw [hs, haround] at hmessage
  refine ⟨?_, hmessage⟩
  unfold Store.carryOutAt
  rw [hl, hs, haround]
  rcases s.store.carryOut { network := s.network } c with ⟨fault | value, r⟩ <;> rfl

end State

end CallScenario

end Dialer
