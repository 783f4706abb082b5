import Dialer.Proofs.Store.Refusal

/-!
# How failures are reported

A caller learns that a call has failed from what is handed back, and why from the text that is kept.
The two go together: `Boundary.Fails` says what a caller takes for a failure, and
`Boundary.refusal?` why the call was refused.

* `Boundary.fails_iff`: a caller takes for a failure what was refused, and nothing else.
* `Boundary.reporting_run`: how every call reports at every moment, with any arguments and whatever
  the host lacks, also if it has to wait before it returns.
-/

namespace Dialer

/-! ### What is handed back -/

/-- A report that is taken for a failure by itself. -/
def Report.Bad : Report → Prop
  | number value => value < 0
  | handle h => h = 0
  | nothing | text _ | waiting => False

theorem Store.Call.bad_refused {c : Store.Call} {status : Int} (hs : status < 0)
    (hreturns : c ≠ .shutDown ∧ c ≠ .clearError ∧ ∀ base count, c ≠ .freeArray base count) :
    (c.refused status).Bad := by
  cases c with
  | shutDown => exact absurd rfl hreturns.1
  | clearError => exact absurd rfl hreturns.2.1
  | freeArray base count => exact absurd rfl (hreturns.2.2 base count)
  | createEndpoint | createPreconnection | initiate | enterMonitor | watch => exact rfl
  | _ => exact hs

theorem Store.Call.not_bad_done {c : Store.Call} {value : Store.Value}
    (hv : ∀ h, value = .handle h → h ≠ 0) : ¬ (c.done value).Bad := by
  cases value with
  | handle h => exact hv h rfl
  | phase p => exact Int.not_lt.mpr (Int.natCast_nonneg _)
  | received data => exact Int.not_lt.mpr (Int.natCast_nonneg _)
  | array => exact Int.lt_irrefl 0
  | blocked => exact id
  | nothing =>
    cases c with
    | shutDown | clearError | freeArray => exact id
    | _ => exact Int.lt_irrefl 0

theorem Store.Call.refused_ne_waiting (c : Store.Call) (status : Int) :
    c.refused status ≠ .waiting := by
  cases c <;> nofun

theorem Store.Call.eq_blocked_of_done {c : Store.Call} {value : Store.Value}
    (hw : c.done value = .waiting) : value = .blocked := by
  cases value with
  | blocked => rfl
  | nothing => cases c <;> cases hw
  | _ => cases hw

theorem Store.Call.eq_of_refused {c : Store.Call} {status value : Int}
    (hc : c.refused status = .number value) : value = status := by
  cases c <;> cases hc <;> rfl

namespace Boundary

variable {b : Boundary} {host : Host} {entry : EntryPoint} {c : Store.Call} {refusal : Refusal}
  {turn : Turn}

/-- The call that is made. -/
def Turn.call? : Turn → Option Store.Call
  | .enter _ (.call c) => some c
  | _ => none

/-- **What a caller takes for a failure:** a negative number, the handle 0, or an array that is not
empty and not freed. -/
def Fails (b : Boundary) (turn : Turn) : Prop :=
  (b.turn turn).1.Bad ∨
    ∃ base count, turn.call? = some (.freeArray base count) ∧ base ≠ 0 ∧ count ≠ 0 ∧
      (b.turn turn).2.store.arrays = b.store.arrays

/-- Why a call is refused, if it is. -/
def refusedCall? (b : Boundary) (host : Host) (c : Store.Call) : Option Refusal :=
  match (b.store.carryOutAt host c).1 with
  | .error refusal => some refusal
  | .ok _ => none

/-- Why an entry point is refused, if it is. -/
def refusedEntry? (b : Boundary) (host : Host) : EntryPoint → Option Refusal
  | .call c => b.refusedCall? host c
  | .createMonitor =>
    match host.openMonitor with
    | .error e => some (.fault (.monitor e))
    | .ok m => b.refusedCall? host (.enterMonitor m)
  | .version | .lastMessage => none

/-- Why the call that waits is refused in the end, if it is. -/
def refusedWait? (b : Boundary) : Option Refusal :=
  match b.waiting.bind b.store.resume? with
  | some (.error fault, _) => some (.fault fault)
  | _ => none

/-- **Why a caller is refused what it wants,** if it is. -/
def refusal? (b : Boundary) : Turn → Option Refusal
  | .enter host entry => b.refusedEntry? host entry
  | .goOn => b.refusedWait?

theorem exists_of_call? (h : turn.call? = some c) : ∃ host, turn = .enter host (.call c) := by
  rcases turn with ⟨host, _ | _ | _ | _⟩ | _ <;> cases h
  exact ⟨host, rfl⟩

/-! #### Calls -/

theorem error_of_refusedCall? (hf : b.refusedCall? host c = some refusal) :
    (b.store.carryOutAt host c).1 = .error refusal := by
  unfold refusedCall? at hf
  split at hf <;> cases hf
  assumption

theorem exists_ok_of_refusedCall? (hf : b.refusedCall? host c = none) :
    ∃ value, (b.store.carryOutAt host c).1 = .ok value := by
  unfold refusedCall? at hf
  split at hf <;> cases hf
  rename_i value hv
  exact ⟨value, hv⟩

/-- **A call that is refused** keeps the text of its refusal. -/
theorem call_of_refused (hf : b.refusedCall? host c = some refusal) :
    b.call host c =
      (c.refused refusal.status,
        { b with store := (b.store.carryOutAt host c).2, message := some refusal.text }) := by
  have he := error_of_refusedCall? hf
  unfold call
  rcases hc : b.store.carryOutAt host c with ⟨answer, after⟩
  rw [hc] at he
  cases he
  dsimp only [conclude]
  rw [if_neg (c.refused_ne_waiting _)]
  rfl

theorem exists_call_of_done (hf : b.refusedCall? host c = none) :
    ∃ value, (b.store.carryOutAt host c).1 = .ok value ∧
      b.call host c =
        (c.done value,
          { store := (b.store.carryOutAt host c).2
            message := if c = .clearError then none else b.message
            places := b.places.fill c value
            waiting := if c.done value = .waiting then b.store.wait? c else b.waiting }) := by
  obtain ⟨value, hv⟩ := exists_ok_of_refusedCall? hf
  refine ⟨value, hv, ?_⟩
  unfold call
  rcases hc : b.store.carryOutAt host c with ⟨answer, after⟩
  rw [hc] at hv
  cases hv
  dsimp only [conclude]
  split <;> rfl

theorem of_refused_freeArray {base count : Nat}
    (hf : b.refusedCall? host (.freeArray base count) = some refusal) :
    base ≠ 0 ∧ count ≠ 0 ∧
      (b.call host (.freeArray base count)).2.store.arrays = b.store.arrays := by
  have he : b.refusedCall? host (.freeArray base count) = some refusal := hf
  rw [call_of_refused hf]
  unfold refusedCall? at he
  unfold Store.carryOutAt at he ⊢
  simp only [Host.lack?, Store.carryOut, Store.freeArray] at he ⊢
  rcases hfree : b.store.arrays.free base count with fault | after
  · obtain ⟨hb, hc⟩ := Listings.of_free_error hfree
    refine ⟨hb, hc, ?_⟩
    cases fault <;> rfl
  · rw [hfree] at he
    cases he

theorem arrays_ne_of_freed {base count : Nat} (hb : base ≠ 0) (hc : count ≠ 0)
    (hf : b.refusedCall? host (.freeArray base count) = none) :
    (b.call host (.freeArray base count)).2.store.arrays ≠ b.store.arrays := by
  obtain ⟨value, hv, hcall⟩ := exists_call_of_done hf
  rw [hcall]
  unfold Store.carryOutAt at hv ⊢
  simp only [Host.lack?, Store.carryOut, Store.freeArray] at hv ⊢
  rcases hfree : b.store.arrays.free base count with fault | after
  · rw [hfree] at hv
    cases fault <;> cases hv
  · exact Listings.ne_of_free hb hc hfree

theorem refusedCall?_of_always (hc : c = .shutDown ∨ c = .clearError) :
    b.refusedCall? host c = none := by
  rcases hc with rfl | rfl <;> rfl

/-- **A caller takes a call for a failure** if it was refused, and only then. -/
theorem call_fails_iff (hb : b.store.Bounded) :
    ((b.call host c).1.Bad ∨ ∃ base count, c = .freeArray base count ∧ base ≠ 0 ∧ count ≠ 0 ∧
        (b.call host c).2.store.arrays = b.store.arrays) ↔ (b.refusedCall? host c).isSome := by
  rcases hf : b.refusedCall? host c with _ | refusal
  · obtain ⟨value, hv, hcall⟩ := exists_call_of_done hf
    refine ⟨?_, nofun⟩
    rintro (hbad | ⟨base, count, rfl, hbase, hcount, hsame⟩)
    · rw [hcall] at hbad
      refine absurd hbad (Store.Call.not_bad_done fun h he => ?_)
      subst he
      have hdone := Store.carryOut_of_carryOutAt hv
      exact Store.handle_ne_zero hb (congrArg Prod.fst hdone)
    · exact absurd hsame (arrays_ne_of_freed hbase hcount hf)
  · refine ⟨fun _ => rfl, fun _ => ?_⟩
    by_cases hfree : ∃ base count, c = .freeArray base count
    · obtain ⟨base, count, rfl⟩ := hfree
      exact .inr ⟨base, count, rfl, of_refused_freeArray hf⟩
    · have halways : ¬ (c = .shutDown ∨ c = .clearError) := fun hc => by
        rw [refusedCall?_of_always hc] at hf
        cases hf
      left
      rw [call_of_refused hf]
      exact Store.Call.bad_refused refusal.status_neg ⟨fun hc => halways (.inl hc),
        fun hc => halways (.inr hc), fun base count hc => hfree ⟨base, count, hc⟩⟩

theorem store_call_of_status (hr : b.store.Roomy) (hf : b.refusedCall? host c = some refusal)
    (hs : refusal.status = -1 ∨ refusal.status = -2) : (b.call host c).2.store = b.store := by
  rw [call_of_refused hf]
  rcases Store.setback_of_carryOutAt (error_of_refusedCall? hf) with hsame | ⟨fault, rfl, hback⟩
  · exact hsame
  · exact hback.eq_of_status hr hs

/-- **A call that does not return** waits for a reply that is not there. -/
theorem exists_wait_of_call (hw : (b.call host c).1 = .waiting) :
    ∃ w, (b.call host c).2.waiting = some w ∧ (b.call host c).2.store.resume? w = none := by
  rcases hf : b.refusedCall? host c with _ | refusal
  · obtain ⟨value, hv, hcall⟩ := exists_call_of_done hf
    rw [hcall] at hw
    have hwaits : c.done value = .waiting := hw
    cases Store.Call.eq_blocked_of_done hwaits
    have hdone := Store.carryOut_of_carryOutAt hv
    obtain ⟨w, hwait, hnone⟩ := Store.exists_wait_of_blocked (congrArg Prod.fst hdone)
    rw [hdone] at hnone
    rw [hcall, if_pos hwaits]
    exact ⟨w, hwait, hnone⟩
  · rw [call_of_refused hf] at hw
    exact absurd hw (c.refused_ne_waiting _)

/-! #### Calls that have waited -/

/-- **What becomes of a call that waits:** it goes on waiting, or its reply is there and it returns. -/
inductive Resumes (b : Boundary) : Report × Boundary → Prop
  | idle (hw : b.waiting = none) : Resumes b (.nothing, b)
  | waits {w : Store.Wait} (hw : b.waiting = some w) (hr : b.store.resume? w = none) :
    Resumes b (.waiting, b)
  | refused {w : Store.Wait} {fault : CallFault} {store : Store} (hw : b.waiting = some w)
    (hr : b.store.resume? w = some (.error fault, store)) :
    Resumes b (w.call.refused fault.status,
      { b with store, waiting := none, message := some (Refusal.fault fault).text })
  | done {w : Store.Wait} {value : Store.Value} {store : Store} (hw : b.waiting = some w)
    (hr : b.store.resume? w = some (.ok value, store)) :
    Resumes b (w.call.done value,
      { b with store, waiting := none, places := b.places.fill w.call value })

theorem resumes_goOn (b : Boundary) : b.Resumes b.goOn := by
  unfold goOn
  rcases hw : b.waiting with _ | w
  · exact .idle hw
  · rcases hr : b.store.resume? w with _ | ⟨fault | value, store⟩ <;> dsimp only <;> rw [hr]
    · exact .waits hw hr
    · exact .refused hw hr
    · have hdone := Resumes.done hw hr
      dsimp only [conclude, Except.mapError]
      rwa [if_neg w.returns.2.1]

theorem goOn_of_refused (hf : b.refusedWait? = some refusal) :
    ∃ w fault store, b.store.resume? w = some (.error fault, store) ∧ refusal = .fault fault ∧
      b.goOn = (w.call.refused refusal.status,
        { b with store, waiting := none, message := some refusal.text }) := by
  unfold refusedWait? at hf
  have hgoOn := b.resumes_goOn
  revert hgoOn
  generalize b.goOn = told
  rintro (hw | ⟨hw, hr⟩ | ⟨hw, hr⟩ | ⟨hw, hr⟩) <;> rw [hw] at hf
  · cases hf
  · rw [Option.bind_some, hr] at hf
    cases hf
  · rw [Option.bind_some, hr] at hf
    cases hf
    exact ⟨_, _, _, hr, rfl, rfl⟩
  · rw [Option.bind_some, hr] at hf
    cases hf

theorem goOn_of_done (hf : b.refusedWait? = none) :
    ¬ b.goOn.1.Bad ∧ b.goOn.2.message = b.message := by
  unfold refusedWait? at hf
  have hgoOn := b.resumes_goOn
  revert hgoOn
  generalize b.goOn = told
  rintro (hw | ⟨hw, hr⟩ | ⟨hw, hr⟩ | ⟨hw, hr⟩)
  · exact ⟨id, rfl⟩
  · exact ⟨id, rfl⟩
  · rw [hw, Option.bind_some, hr] at hf
    cases hf
  · refine ⟨Store.Call.not_bad_done fun h he => ?_, rfl⟩
    subst he
    exact (Store.plain_of_resume? hr).elim

theorem exists_wait_of_goOn (hw : b.goOn.1 = .waiting) :
    ∃ w, b.goOn.2.waiting = some w ∧ b.goOn.2.store.resume? w = none := by
  have hgoOn := b.resumes_goOn
  revert hw hgoOn
  generalize b.goOn = told
  rintro hw (- | ⟨hwait, hr⟩ | - | ⟨-, hr⟩)
  · cases hw
  · exact ⟨_, hwait, hr⟩
  · exact absurd hw (Store.Call.refused_ne_waiting _ _)
  · cases Store.Call.eq_blocked_of_done hw
    exact (Store.plain_of_resume? hr).elim

/-! #### Whatever gives a caller something back -/

/-- **What becomes of a turn,** with the reason if what is wanted is refused: a call is made, a monitor
cannot be opened, a text is asked for, or a call that has waited may return. -/
inductive Leads (b : Boundary) (turn : Turn) : Option Refusal → Report × Boundary → Prop
  | call {host : Host} {c : Store.Call} {o : Option Refusal}
    (hc : turn.call? = some c ∨ turn.call? = none ∧ ∃ m, c = .enterMonitor m) (hne : turn ≠ .goOn)
    (ho : b.refusedCall? host c = o) : Leads b turn o (b.call host c)
  | unopened {e : MonitorError} (hc : turn.call? = none) (hne : turn ≠ .goOn) :
    Leads b turn (some (.fault (.monitor e))) (.handle 0, b.refuse (.fault (.monitor e)))
  | text {t : Option String} (hc : turn.call? = none) : Leads b turn none (.text t, b)
  | goOn {o : Option Refusal} (ht : turn = .goOn) (ho : b.refusedWait? = o) : Leads b turn o b.goOn

theorem leads_turn (b : Boundary) (turn : Turn) : b.Leads turn (b.refusal? turn) (b.turn turn) := by
  cases turn with
  | goOn => exact .goOn rfl rfl
  | enter host entry =>
    have hne : Turn.enter host entry ≠ .goOn := by rintro ⟨⟩
    rw [refusal?, refusedEntry?.eq_def, Boundary.turn, enter.eq_def]
    cases entry with
    | call c => exact .call (.inl rfl) hne rfl
    | version | lastMessage => exact .text rfl
    | createMonitor =>
      rcases host.openMonitor with e | m
      · exact .unopened rfl hne
      · exact .call (.inr ⟨rfl, m, rfl⟩) hne rfl

/-- **A caller takes for a failure** what was refused, and nothing else. -/
theorem fails_iff (hb : b.store.Bounded) : b.Fails turn ↔ (b.refusal? turn).isSome := by
  have hl := b.leads_turn turn
  unfold Fails
  generalize b.refusal? turn = o at hl ⊢
  generalize b.turn turn = told at hl ⊢
  cases hl with
  | call hc _ ho =>
    rw [← ho, ← call_fails_iff hb]
    rcases hc with hc | ⟨hc, m, rfl⟩ <;> simp only [hc, Option.some.injEq, reduceCtorEq]
  | unopened hc => simp [hc, Report.Bad]
  | text hc => simp [hc, Report.Bad]
  | goOn ht ho =>
    subst ht
    cases o with
    | none => simp [Turn.call?, (goOn_of_done ho).1]
    | some refusal =>
      obtain ⟨w, fault, store, -, -, hgoOn⟩ := goOn_of_refused ho
      rw [hgoOn]
      simp [Store.Call.bad_refused refusal.status_neg w.returns]

theorem refusal?_message (kept : Option String) :
    { b with message := kept }.refusal? turn = b.refusal? turn := by
  rcases turn with ⟨host, _ | _ | _ | _⟩ | _ <;> rfl

/-- **What is refused leaves its text,** and nothing in the places for results. -/
theorem exists_turn_of_refusal (hf : b.refusal? turn = some refusal) :
    ∃ store waiting, (b.turn turn).2 = { b with store, waiting, message := some refusal.text } ∧
      (turn ≠ .goOn → waiting = b.waiting) := by
  have hl := b.leads_turn turn
  rw [hf] at hl
  generalize b.turn turn = told at hl ⊢
  cases hl with
  | call _ _ ho => exact ⟨_, b.waiting, congrArg Prod.snd (call_of_refused ho), fun _ => rfl⟩
  | unopened => exact ⟨b.store, b.waiting, rfl, fun _ => rfl⟩
  | goOn ht ho =>
    obtain ⟨w, fault, store, -, -, hgoOn⟩ := goOn_of_refused ho
    exact ⟨store, none, congrArg Prod.snd hgoOn, fun hne => absurd ht hne⟩

/-- **What is not refused** leaves the text that was kept, unless it is to clear it. -/
theorem message_turn_of_done (hf : b.refusal? turn = none) :
    (b.turn turn).2.message = if turn.call? = some .clearError then none else b.message := by
  have hl := b.leads_turn turn
  rw [hf] at hl
  generalize b.turn turn = told at hl ⊢
  cases hl with
  | call hc _ ho =>
    obtain ⟨value, -, hcall⟩ := exists_call_of_done ho
    rw [hcall]
    rcases hc with hc | ⟨hc, m, rfl⟩ <;> simp only [hc, Option.some.injEq, reduceCtorEq]
  | text hc => simp only [hc, reduceCtorEq, if_false]
  | goOn ht ho =>
    subst ht
    exact (goOn_of_done ho).2

theorem eq_status_of_number (hf : b.refusal? turn = some refusal) {value : Int}
    (hv : (b.turn turn).1 = .number value) : value = refusal.status := by
  have hl := b.leads_turn turn
  rw [hf] at hl
  generalize b.turn turn = told at hl hv
  cases hl with
  | call _ _ ho =>
    rw [call_of_refused ho] at hv
    exact Store.Call.eq_of_refused hv
  | unopened => cases hv
  | goOn _ ho =>
    obtain ⟨w, fault, store, -, -, hgoOn⟩ := goOn_of_refused ho
    rw [hgoOn] at hv
    exact Store.Call.eq_of_refused hv

/-- **What finds fault with an argument or a handle** leaves the store as it is, and does so at once. -/
theorem store_turn_of_status (hr : b.store.Roomy) (hf : b.refusal? turn = some refusal)
    (hs : refusal.status = -1 ∨ refusal.status = -2) :
    turn ≠ .goOn ∧ (b.turn turn).2.store = b.store := by
  have hl := b.leads_turn turn
  rw [hf] at hl
  generalize b.turn turn = told at hl ⊢
  cases hl with
  | call _ hne ho => exact ⟨hne, store_call_of_status hr ho hs⟩
  | unopened _ hne => exact ⟨hne, rfl⟩
  | goOn _ ho =>
    obtain ⟨w, fault, store, hresume, rfl, -⟩ := goOn_of_refused ho
    obtain ⟨c, reply, hc, hreply, he, -⟩ := Store.resume?_eq_some hresume
    cases reply <;> cases he
    cases CallFault.eq_emptyBuffer hs
    exact absurd hreply ((hr c (List.mem_of_getElem? hc)).reply?_ne _)

/-- **What does not return** waits for a reply that is not there. -/
theorem exists_wait_of_turn (hw : (b.turn turn).1 = .waiting) :
    ∃ w, (b.turn turn).2.waiting = some w ∧ (b.turn turn).2.store.resume? w = none := by
  have hl := b.leads_turn turn
  generalize b.refusal? turn = o at hl
  generalize b.turn turn = told at hl hw ⊢
  cases hl with
  | call => exact exists_wait_of_call hw
  | unopened | text => cases hw
  | goOn => exact exists_wait_of_goOn hw

theorem store_call_of_listInterfaces {h : Handle} {hasArray hasCount : Bool}
    (hf : b.refusedCall? host (.listInterfaces h hasArray hasCount) = some refusal) :
    let after := (b.call host (.listInterfaces h hasArray hasCount)).2.store
    after = b.store ∨ ∃ place, after = b.store.onMonitor place fun m =>
      { m with source := { m.source with failure := none, reads := m.source.reads + 1 } } := by
  intro after
  have hafter : after = (b.store.carryOutAt host (.listInterfaces h hasArray hasCount)).2 :=
    congrArg (·.2.store) (call_of_refused hf)
  rw [hafter]
  rcases Store.setback_of_carryOutAt (error_of_refusedCall? hf) with hsame | ⟨fault, -, hback⟩
  · exact .inl hsame
  · exact hback.of_listInterfaces

/-- Where nothing is lacking, the text that is kept is that of the fault that the store keeps. -/
theorem message_call (hl : host.lack? c = none)
    (hk : b.message = b.store.lastFault.map (·.message {})) :
    (b.call host c).2.message =
      (b.store.perform host.toSurroundings c).2.lastFault.map (·.message {}) := by
  have hmessage : (b.call host c).2.message =
      (b.conclude c (b.store.carryOutAt host c)).2.message := by
    unfold call
    dsimp only
    split <;> rfl
  rw [hmessage, Store.lastFault_perform]
  unfold Store.carryOutAt
  rw [hl]
  rcases b.store.carryOut host.toSurroundings c with ⟨fault | value, after⟩
  · rfl
  · dsimp only [conclude]
    split
    · rfl
    · exact hk

/-! ### Whole histories -/

/-- One thing that happens to a store that callers share. -/
inductive Event
  /-- The caller calls an entry point. One that waits calls nothing. -/
  | enter (host : Host) (entry : EntryPoint)
  /-- The call that waits returns, if it has its reply. -/
  | goOn
  /-- Another caller calls an entry point. -/
  | enterElsewhere (host : Host) (entry : EntryPoint)
  /-- A call of another caller returns, if it has its reply. -/
  | goOnElsewhere (w : Store.Wait)
  /-- Something happens to the monitor at a place. -/
  | network (place : Nat) (change : Monitor → Monitor)
  /-- Something happens on the wire of the connection at a place. -/
  | wire (place : Nat) (change : Wire → Wire)
  /-- A call on the connection at a place may go on. -/
  | poll (place : Nat) (branch : Branch) (id : Nat)

/-- **One event.** Every caller has a text of its own. -/
def step (b : Boundary) : Event → Boundary
  | .enter host entry => if b.waiting.isSome then b else (b.enter host entry).2
  | .goOn => b.goOn.2
  | .enterElsewhere host entry => { b with store := (b.enter host entry).2.store }
  | .goOnElsewhere w => { b with store := ((b.store.resume? w).map (·.2)).getD b.store }
  | .network place change => { b with store := b.store.onMonitor place change }
  | .wire place change =>
    { b with store := b.store.onConnection place fun c => { c with wire := change c.wire } }
  | .poll place branch id => { b with store := b.store.onConnection place (·.poll branch id) }

/-- Events in order. -/
def run (b : Boundary) (events : List Event) : Boundary := events.foldl step b

/-- What holds of the store at every moment. -/
structure Sane (b : Boundary) : Prop where
  bounded : b.store.Bounded
  roomy : b.store.Roomy

theorem sane_empty : Sane {} := ⟨Store.bounded_empty, Store.roomy_empty⟩

theorem Sane.of_store {a : Boundary} (hb : b.Sane) (h : a.store = b.store) : a.Sane :=
  ⟨h ▸ hb.bounded, h ▸ hb.roomy⟩

theorem Sane.continues {a : Boundary} (hb : b.Sane) (ht : b.store.SameTables a.store)
    (hc : b.store.Continues a.store) : a.Sane :=
  ⟨hb.bounded.sameTables ht, hc.roomy hb.roomy⟩

theorem Sane.call (hb : b.Sane) (host : Host) (c : Store.Call) : (b.call host c).2.Sane := by
  have hstore : (b.call host c).2.store = (b.store.carryOutAt host c).2 := by
    rcases hf : b.refusedCall? host c with _ | refusal
    · obtain ⟨value, -, hcall⟩ := exists_call_of_done hf
      rw [hcall]
    · rw [call_of_refused hf]
  rcases Store.carryOutAt_cases b.store host c with hsame | hcarried
  · exact hb.of_store (hstore.trans hsame)
  · constructor <;> rw [hstore, hcarried]
    · exact Store.bounded_carryOut hb.bounded _ c
    · exact Store.roomy_carryOut hb.roomy _ c

theorem Sane.enter (hb : b.Sane) (host : Host) (entry : EntryPoint) :
    (b.enter host entry).2.Sane := by
  cases entry with
  | call c => exact hb.call host c
  | createMonitor =>
    rw [Boundary.enter]
    rcases host.openMonitor with e | m
    · exact hb.of_store rfl
    · exact hb.call host _
  | version | lastMessage => exact hb

theorem Sane.resume {a : Boundary} {w : Store.Wait} {answer : Except CallFault Store.Value}
    (hb : b.Sane) (hr : b.store.resume? w = some (answer, a.store)) : a.Sane := by
  obtain ⟨-, -, -, -, -, hstore⟩ := Store.resume?_eq_some hr
  refine hb.continues ?_ ?_ <;> rw [hstore]
  · exact Store.sameTables_onConnection _ _ _
  · exact Store.continues_onConnection fun c _ hc => hc.cancel _

theorem Sane.goOn (hb : b.Sane) : b.goOn.2.Sane := by
  have hgoOn := b.resumes_goOn
  revert hgoOn
  generalize b.goOn = told
  rintro (- | - | ⟨-, hr⟩ | ⟨-, hr⟩)
  · exact hb
  · exact hb
  · exact hb.resume hr
  · exact hb.resume hr

theorem Sane.step (hb : b.Sane) (e : Event) : (b.step e).Sane := by
  cases e with
  | enter host entry =>
    rw [Boundary.step]
    split
    · exact hb
    · exact hb.enter host entry
  | goOn => exact hb.goOn
  | enterElsewhere host entry => exact (hb.enter host entry).of_store rfl
  | goOnElsewhere w =>
    rw [Boundary.step]
    rcases hr : b.store.resume? w with _ | ⟨answer, store⟩
    · exact hb
    · exact hb.resume hr
  | network place change =>
    exact hb.continues (Store.sameTables_onMonitor _ _ _) (Store.continues_onMonitor _ _ _)
  | wire place change =>
    exact hb.continues (Store.sameTables_onConnection _ _ _)
      (Store.continues_onConnection fun c _ hc => hc.onWire _)
  | poll place branch id =>
    exact hb.continues (Store.sameTables_onConnection _ _ _)
      (Store.continues_onConnection fun c _ hc => hc.goes (Connection.goes_poll _ _ c))

theorem sane_run (hb : b.Sane) (events : List Event) : (b.run events).Sane := by
  induction events generalizing b with
  | nil => exact hb
  | cons e rest ih => exact ih (hb.step e)

/-- While a call waits, the text that is kept is none of others' business. -/
theorem step_of_waiting {w : Store.Wait} (hw : b.waiting = some w) {e : Event} (he : e ≠ .goOn) :
    (b.step e).waiting = some w ∧ (b.step e).message = b.message := by
  cases e with
  | goOn => exact absurd rfl he
  | enter host entry =>
    rw [step, if_pos (by rw [hw]; rfl)]
    exact ⟨hw, rfl⟩
  | enterElsewhere | goOnElsewhere | network | wire | poll => exact ⟨hw, rfl⟩

theorem run_of_waiting {w : Store.Wait} (hw : b.waiting = some w) {later : List Event}
    (hl : ∀ e ∈ later, e ≠ .goOn) :
    (b.run later).waiting = some w ∧ (b.run later).message = b.message := by
  induction later generalizing b with
  | nil => exact ⟨hw, rfl⟩
  | cons e later ih =>
    obtain ⟨hwaiting, hmessage⟩ := step_of_waiting hw (hl e List.mem_cons_self)
    obtain ⟨hrest, hkept⟩ := ih hwaiting fun e' he' => hl e' (List.mem_cons_of_mem _ he')
    exact ⟨hrest, hkept.trans hmessage⟩

/-- **How a caller is told** what has come of a call. -/
structure Reporting (b : Boundary) (turn : Turn) : Prop where
  /-- It looks like a failure if and only if a text is put in place of whatever was kept. -/
  replaces : b.Fails turn ↔
    ∃ text, ∀ kept, ({ b with message := kept }.turn turn).2.message = some text
  /-- That text has no zero character in it. -/
  clean : b.Fails turn → ∀ text, (b.turn turn).2.message = some text → '\x00' ∉ text.toList
  /-- Otherwise the text that was kept stays, unless it is to be cleared. -/
  keeps : ¬ b.Fails turn → turn.call? ≠ some .clearError → (b.turn turn).2.message = b.message
  /-- What looks like a failure was refused for a reason, and the other way round. -/
  reason : b.Fails turn ↔ (b.refusal? turn).isSome
  /-- If a number is handed back it tells the reason. -/
  number : ∀ refusal value, b.refusal? turn = some refusal →
    (b.turn turn).1 = .number value → value = refusal.status
  /-- Nothing but the text changes if the reason is an argument or a handle, and there is no waiting
  for such a refusal. -/
  rejected : ∀ refusal, b.refusal? turn = some refusal →
    refusal.status = -1 ∨ refusal.status = -2 →
    turn ≠ .goOn ∧ (b.turn turn).2 = { b with message := some refusal.text }
  /-- A listing that fails has at most read the network in vain. Neither an object nor an array, nor a
  watch, nor a place for results is another one. -/
  unread : ∀ h hasArray hasCount refusal, turn.call? = some (.listInterfaces h hasArray hasCount) →
    b.refusal? turn = some refusal →
    ∃ store, (b.turn turn).2 = { b with store, message := some refusal.text } ∧
      (store = b.store ∨ ∃ place, store = b.store.onMonitor place fun m =>
        { m with source := { m.source with failure := none, reads := m.source.reads + 1 } })
  /-- A call that does not return waits for a reply that is not there. -/
  waits : (b.turn turn).1 = .waiting →
    ∃ w, (b.turn turn).2.waiting = some w ∧ (b.turn turn).2.store.resume? w = none

theorem Sane.reporting (hb : b.Sane) (turn : Turn) : b.Reporting turn := by
  have hreason : b.Fails turn ↔ (b.refusal? turn).isSome := fails_iff hb.bounded
  constructor
  case reason => exact hreason
  case number => exact fun refusal value hf hv => eq_status_of_number hf hv
  case waits => exact exists_wait_of_turn
  case replaces =>
    rw [hreason]
    rcases hf : b.refusal? turn with _ | refusal
    · refine ⟨nofun, fun ⟨text, htext⟩ => ?_⟩
      -- With nothing kept before, nothing is kept now.
      have hnone := message_turn_of_done ((refusal?_message none).trans hf)
      have hsome := htext none
      rw [hnone] at hsome
      split at hsome <;> cases hsome
    · refine ⟨fun _ => ⟨refusal.text, fun kept => ?_⟩, fun _ => rfl⟩
      obtain ⟨store, waiting, hafter, -⟩ :=
        exists_turn_of_refusal ((refusal?_message kept).trans hf)
      rw [hafter]
  case clean =>
    intro hfails text htext
    obtain ⟨refusal, hf⟩ := Option.isSome_iff_exists.1 (hreason.1 hfails)
    obtain ⟨store, waiting, hafter, -⟩ := exists_turn_of_refusal hf
    rw [hafter] at htext
    cases htext
    exact refusal.zero_notMem_text
  case keeps =>
    intro hfails hne
    have hf : b.refusal? turn = none :=
      Option.not_isSome_iff_eq_none.1 fun hsome => hfails (hreason.2 hsome)
    rw [message_turn_of_done hf, if_neg hne]
  case rejected =>
    intro refusal hf hs
    obtain ⟨hne, hsame⟩ := store_turn_of_status hb.roomy hf hs
    obtain ⟨store, waiting, hafter, hwaiting⟩ := exists_turn_of_refusal hf
    refine ⟨hne, ?_⟩
    rw [hafter] at hsame ⊢
    cases hsame
    cases hwaiting hne
    rfl
  case unread =>
    intro h hasArray hasCount refusal hcall hf
    obtain ⟨host, rfl⟩ := exists_of_call? hcall
    have hread := store_call_of_listInterfaces hf
    refine ⟨_, congrArg Prod.snd (call_of_refused hf), ?_⟩
    rwa [call_of_refused hf] at hread

/-- **What callers can rely on** when something fails. -/
structure Reports (b : Boundary) : Prop where
  /-- Whatever gives them something back says if it has failed, and why. -/
  turn : ∀ turn, b.Reporting turn
  /-- While a call waits, the text that is kept stays. -/
  patient : ∀ w later, b.waiting = some w → (∀ e ∈ later, e ≠ .goOn) →
    (b.run later).waiting = some w ∧ (b.run later).message = b.message

/-- **Every call reports** what it could not do, and only that, at every moment, with any arguments,
whatever the host lacks and however long it has to wait. -/
theorem reporting_run (events : List Event) : (run {} events).Reports where
  turn turn := (sane_run sane_empty events).reporting turn
  patient _ _ hw hl := run_of_waiting hw hl

/-- A handle that stands for nothing shows before a runtime that cannot be started. -/
example :
    let bare : Host := { runtimeFault := some "no threads left" }
    let b := run {} [.enter bare (.call .startUp)]
    b.message = some "failed to start runtime: no threads left" ∧
      (b.enter bare (.call (.close 1))).1 = .number (-2) ∧
      (b.enter bare (.call (.close 1))).2.message = some "invalid connection handle 0x1" := by
  decide

/-- A receive waits until the other side has written something. -/
example :
    let held : Store :=
      { connections := ((HandleTable.insert? {} 0 0).map (·.2)).getD {}
        allConnections := [.ofCapacity 8] }
    let b := run { store := held } [.enter {} (.call (.receive 4294967297 true 4))]
    let written (w : Wire) : Wire := { w with incoming := (w.incoming.put [7, 8]).2 }
    b.goOn.1 = .waiting ∧
      (b.run [.wire 0 written, .poll 0 .transfer 0]).goOn.1 = .number 2 ∧
      (b.run [.wire 0 written, .poll 0 .transfer 0]).goOn.2.places.buffer = [7, 8] := by
  decide

end Boundary

end Dialer
