import Dialer.Proofs.Store.Continuity
import Dialer.Proofs.Store.Roster
import Dialer.Store.Boundary

/-!
# Calls that are refused, and calls that wait

Where a call needs something the host lacks it is refused, but what is wrong with its arguments and
its handles shows first. And a call on a connection has no answer until there is a reply to its
request.

* `Store.Setback.eq_of_status`: what finds fault with an argument or a handle changes nothing.
* `Store.carryOutAt_of_precheck`: it does so whatever the host lacks.
* `Store.request_eq`: a request that is answered at once is one that has waited and goes on.
-/

namespace Dialer

/-! ### What is said of a refusal -/

theorem Refusal.status_neg (refusal : Refusal) : refusal.status < 0 := by
  cases refusal with
  | fault f => exact f.status_neg
  | runtime => exact (by decide : (-11 : Int) < 0)

theorem Refusal.zero_notMem_text (refusal : Refusal) : '\x00' ∉ refusal.text.toList := by
  cases refusal <;> exact zero_notMem_withoutZeros _

namespace CallFault

theorem status_monitor_ne (e : MonitorError) :
    ¬ ((monitor e).status = -1 ∨ (monitor e).status = -2) := by
  cases e <;> simp [status]

theorem eq_emptyBuffer {e : CallError}
    (hs : (connection e).status = -1 ∨ (connection e).status = -2) : e = .emptyBuffer := by
  cases e <;> first | rfl | exact absurd hs (by simp [status])

end CallFault

/-! ### Arrays -/

theorem Listings.ne_of_free {arrays after : Listings} {base count : Nat} (hb : base ≠ 0)
    (hc : count ≠ 0) (hf : arrays.free base count = .ok after) : after ≠ arrays := by
  rintro rfl
  rw [free, if_neg (by simp [hb, hc])] at hf
  split at hf
  · cases hf
  · rename_i array hfound
    split at hf
    · have hlive : after.live.filter (·.base != base) = after.live :=
        congrArg Listings.live (Except.ok.inj hf)
      have hbase : array.base = base := by simpa using List.find?_some hfound
      have hmem := List.mem_of_find?_eq_some hfound
      rw [← hlive] at hmem
      simp [hbase] at hmem
    · cases hf

theorem Listings.of_free_error {arrays : Listings} {base count : Nat} {fault : Listings.Fault}
    (hf : arrays.free base count = .error fault) : base ≠ 0 ∧ count ≠ 0 := by
  by_contra hzero
  rw [free, if_pos (by omega)] at hf
  cases hf

theorem Monitor.eq_of_list_error {m after : Monitor} {e : MonitorError}
    (hl : m.list = (.error e, after)) :
    after = { m with source := { m.source with failure := none, reads := m.source.reads + 1 } } := by
  unfold list Source.read at hl
  rcases hf : m.source.failure with _ | text <;> simp only [hf] at hl <;> cases hl
  rfl

namespace Store

variable {r r' : Store} {call : Call} {fault : CallFault} {refusal : Refusal} {host : Host}
  {h : Handle}

/-! ### What a call leaves when it is refused -/

/-- **What finds fault with an argument or a handle** changes nothing. -/
theorem Setback.eq_of_status (hs : Setback r call fault r') (hr : r.Roomy)
    (hf : fault.status = -1 ∨ fault.status = -2) : r' = r := by
  cases hs with
  | untouched => rfl
  | unread | unwatched => exact absurd hf (CallFault.status_monitor_ne _)
  | unentered => exact absurd hf (by decide)
  | @refused _ h wanted place c after e hw hc ha =>
    cases CallFault.eq_emptyBuffer hf
    have hroomy := hr c (List.mem_of_getElem? (exists_of_connection hc).2)
    have hsettled := (hroomy.issue (Call.wanted_ne hw)).settle
    exact absurd (congrArg Prod.fst ha) (hsettled.reply?_ne _)

/-- A listing that fails has read the network of its monitor in vain, or not at all. -/
theorem Setback.of_listInterfaces {hasArray hasCount : Bool}
    (hs : Setback r (.listInterfaces h hasArray hasCount) fault r') :
    r' = r ∨ ∃ place, r' = r.onMonitor place fun m =>
      { m with source := { m.source with failure := none, reads := m.source.reads + 1 } } := by
  cases hs with
  | untouched => exact .inl rfl
  | @unread _ place m after e hm hl =>
    refine .inr ⟨place, onMonitor_congr fun m' hm' => ?_⟩
    cases (exists_of_monitor hm).2.symm.trans hm'
    exact (Monitor.eq_of_list_error hl)
  | refused hw => cases hw

theorem request_of_precheck (hf : (r.connection h >>= fun _ => pure ()) = .error fault)
    (wanted : Request) : r.request h wanted = (.error fault, r) := by
  rcases hc : r.connection h with fault' | c <;> rw [hc] at hf <;> cases hf
  rw [request, hc]

/-- **What is wrong with arguments and handles shows first,** whatever the host lacks. -/
theorem carryOut_of_precheck (hf : r.precheck call = .error fault) (around : Surroundings) :
    r.carryOut around call = (.error fault, r) := by
  cases call with
  | initiate h =>
    rcases hl : lookup r.preconnections .preconnection h with fault' | p
    · rw [precheck, hl] at hf
      cases hf
      rw [carryOut, initiate, hl]
    · rw [precheck, hl] at hf
      cases hf
  | close h => exact request_of_precheck hf .close
  | send h buffer length =>
    cases buffer with
    | some data => exact request_of_precheck hf (.send (data.take length))
    | none =>
      cases length with
      | zero => exact request_of_precheck hf (.send [])
      | succ length => cases hf; rfl
  | receive h hasBuffer capacity =>
    cases hasBuffer with
    | false => cases hf; rfl
    | true =>
      cases capacity with
      | zero => cases hf; rfl
      | succ capacity => exact request_of_precheck hf (.receive (capacity + 1))
  | _ => cases hf

theorem carryOutAt_of_precheck (hf : r.precheck call = .error fault) (host : Host) :
    r.carryOutAt host call = (.error (.fault fault), r) := by
  unfold carryOutAt
  split
  · rw [hf]
  · rw [carryOut_of_precheck hf]

theorem carryOut_of_carryOutAt {value : Value} (hv : (r.carryOutAt host call).1 = .ok value) :
    r.carryOut host.toSurroundings call = (.ok value, (r.carryOutAt host call).2) := by
  unfold carryOutAt at hv ⊢
  rcases hl : host.lack? call with _ | refusal <;> simp only [hl] at hv ⊢
  · rcases hc : r.carryOut host.toSurroundings call with ⟨fault | value', after⟩ <;>
      simp only [hc] at hv ⊢ <;> cases hv
    rfl
  · rcases ha : r.precheck call with fault | _ <;> simp only [ha] at hv <;> cases hv

theorem setback_of_carryOutAt (hf : (r.carryOutAt host call).1 = .error refusal) :
    (r.carryOutAt host call).2 = r ∨
      ∃ fault, refusal = .fault fault ∧ Setback r call fault (r.carryOutAt host call).2 := by
  unfold carryOutAt at hf ⊢
  rcases hl : host.lack? call with _ | lack <;> simp only [hl] at hf ⊢
  · rcases hc : r.carryOut host.toSurroundings call with ⟨fault | value, after⟩ <;>
      simp only [hc] at hf ⊢ <;> cases hf
    have hs : (r.carryOut host.toSurroundings call).1 = .error fault := by rw [hc]
    have hback := setback_carryOut hs
    rw [hc] at hback
    exact .inr ⟨fault, rfl, hback⟩
  · rcases r.precheck call with fault | _ <;> exact .inl rfl

theorem carryOutAt_cases (r : Store) (host : Host) (call : Call) :
    (r.carryOutAt host call).2 = r ∨
      (r.carryOutAt host call).2 = (r.carryOut host.toSurroundings call).2 := by
  unfold carryOutAt
  rcases hl : host.lack? call with _ | lack
  · rcases hc : r.carryOut host.toSurroundings call with ⟨fault | value, after⟩ <;> exact .inr rfl
  · rcases r.precheck call with fault | _ <;> exact .inl rfl

/-! ### Calls that wait -/

variable {w : Wait} {c : StreamConnection} {place : Nat} {answer : Except CallFault Value}

theorem Wait.returns (w : Wait) : w.call ≠ .shutDown ∧ w.call ≠ .clearError ∧
    ∀ base count, w.call ≠ .freeArray base count := by
  have hwaits := w.waits
  refine ⟨?_, ?_, fun base count => ?_⟩ <;>
  · intro hcall
    rw [hcall] at hwaits
    cases hwaits

theorem resume?_eq_some (hr : r.resume? w = some (answer, r')) :
    ∃ c reply, r.allConnections[w.place]? = some c ∧ c.reply? w.id = some reply ∧
      answer = outcome reply ∧ r' = r.onConnection w.place (·.cancel w.id) := by
  obtain ⟨reply, hreply, he⟩ := Option.map_eq_some_iff.mp hr
  obtain ⟨c, hc, hreply⟩ := Option.bind_eq_some_iff.mp hreply
  cases he
  exact ⟨c, reply, hc, hreply, rfl, rfl⟩

/-- There is no waiting for a handle, or for more waiting. -/
theorem plain_of_resume? {value : Value} (hr : r.resume? w = some (.ok value, r')) :
    value.Plain := by
  obtain ⟨_, reply, -, -, ho, -⟩ := resume?_eq_some hr
  cases reply <;> cases ho <;> trivial

/-- **A request that is answered at once** is one that has waited and goes on. -/
theorem request_eq (hc : r.connection h = .ok (place, c)) (wanted : Request)
    (hp : w.place = place) (hid : w.id = c.nextId) :
    let asked := r.onConnection place fun _ => (c.issue wanted).2.settle
    r.request h wanted = (asked.resume? w).getD (.ok .blocked, asked) := by
  intro asked
  subst hp
  have hsettled : asked.allConnections[w.place]? = some (c.issue wanted).2.settle := by
    simp only [asked, onConnection, List.getElem?_modify_eq, (exists_of_connection hc).2]
    rfl
  have hcancel (id : Nat) : asked.onConnection w.place (·.cancel id) =
      r.onConnection w.place fun _ => (c.issue wanted).2.settle.cancel id := by
    simp only [asked, onConnection, List.modify_modify_eq]
    rfl
  simp only [request, hc, resume?, hsettled, hid, Option.bind_some,
    Connection.fst_issue c wanted, hcancel]
  rcases (c.issue wanted).2.settle.reply? c.nextId with _ | _ | _ | _ <;> rfl

theorem exists_wait?_eq (ha : call.awaits? = some h) (hc : r.connection h = .ok (place, c)) :
    ∃ hwaits, r.wait? call = some ⟨call, hwaits, place, c.nextId⟩ := by
  refine ⟨by rw [ha]; rfl, ?_⟩
  unfold wait?
  split
  · rename_i hnone
    cases ha.symm.trans hnone
  · rename_i g hsome
    cases ha.symm.trans hsome
    rw [hc]

theorem exists_wait_of_request {wanted : Request} (ha : call.awaits? = some h)
    (hv : (r.request h wanted).1 = .ok .blocked) :
    ∃ w, r.wait? call = some w ∧ (r.request h wanted).2.resume? w = none := by
  rcases hc : r.connection h with fault | ⟨place, c⟩
  · rw [request, hc] at hv
    cases hv
  · obtain ⟨hwaits, hwait⟩ := exists_wait?_eq ha hc
    refine ⟨_, hwait, ?_⟩
    have hrequest := request_eq (w := ⟨call, hwaits, place, c.nextId⟩) hc wanted rfl rfl
    dsimp only at hrequest
    rw [hrequest] at hv ⊢
    rcases hr : (r.onConnection place fun _ => (c.issue wanted).2.settle).resume?
      ⟨call, hwaits, place, c.nextId⟩ with _ | ⟨answer, after⟩
    · exact hr
    · rw [hr] at hv
      exact (plain_of_resume? (hr.trans (congrArg some (Prod.ext hv rfl)))).elim

theorem Call.awaits?_of_request? {wanted : Request} (hw : call.request? = some (h, wanted)) :
    call.awaits? = some h := by
  unfold request? at hw
  split at hw <;> cases hw <;> rfl

/-- **A call without an answer** waits for a reply that is not there. -/
theorem exists_wait_of_blocked {around : Surroundings}
    (hv : (r.carryOut around call).1 = .ok .blocked) :
    ∃ w, r.wait? call = some w ∧ (r.carryOut around call).2.resume? w = none := by
  cases r.answered_carryOut around call with
  | fails he | enters he => cases hv.symm.trans he
  | plain he hp =>
    cases hv.symm.trans he
    exact hp.elim
  | asks hw hc =>
    rw [hc] at hv ⊢
    exact exists_wait_of_request (Call.awaits?_of_request? hw) hv

end Store

end Dialer
