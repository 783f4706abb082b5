import Dialer.Proofs.Connection.History
import Mathlib.Data.List.Nodup

/-!
# Rest

After an operation every call goes on until it is done or has to wait. A connection at which no call
can go on is `Connection.Resting`: there nothing but another operation changes anything. Calls
come to rest in whatever order they go on, since each time one of them has less left to do
(`Connection.work_poll_lt`).

* `History.Round`: an operation, and then calls go on until none can.
* `History.Rounds`: rounds one after another.
-/

namespace Dialer

/-! ### What a wire that is ready does -/

namespace Wire

variable {w v : Wire} {data left : Bytes}

theorem put_eq_blocked (h : w.put data = (.blocked left, v)) :
    left = [] ∨ w.outgoing.closed = false ∧ left.length = data.length - w.outgoing.room := by
  have hput : (w.put data).1 = .blocked left := by rw [h]
  unfold put at hput
  split_ifs at hput with hclosed
  dsimp only at hput
  split_ifs at hput
  · exact Or.inl (eq_nil_of_flush hput)
  · cases hput
    exact Or.inr ⟨by simpa using hclosed, List.length_drop⟩

theorem write_eq_blocked (hne : data ≠ []) (h : w.write data = (.blocked left, v)) :
    left = [] ∨ w.outgoing.closed = false ∧ left.length = data.length - w.outgoing.room := by
  unfold write at h
  rw [if_neg (by simpa using hne)] at h
  rcases hf : w.fault? .write with _ | ⟨failure, u⟩
  · simp only [hf] at h
    exact put_eq_blocked h
  · simp only [hf] at h
    split_ifs at h
    · rw [← (fault?_eq_some hf).1]
      exact put_eq_blocked h
    · cases h

/-- If it could go on, some bytes were written. -/
theorem length_lt_of_write (hw : w.writable data = true) (h : w.write data = (.blocked left, v)) :
    left.length < data.length := by
  rcases data with _ | ⟨byte, data⟩
  · have hflush : w.flush = (.blocked left, v) := h
    have hends : w.flushHangs = false := by simpa [writable] using hw
    unfold flush at hflush
    rw [hends, if_neg Bool.false_ne_true] at hflush
    split at hflush <;> cases hflush
  · rcases write_eq_blocked (List.cons_ne_nil _ _) h with rfl | ⟨hopen, hlength⟩
    · exact Nat.succ_pos _
    · have hroom : 0 < w.outgoing.room := by simpa [writable, hopen] using hw
      rw [hlength, List.length_cons]
      omega

theorem read_ne_blocked {max : Nat} (hr : w.readable = true) : (w.read max).1 ≠ .blocked := by
  unfold read
  split
  · nofun
  · split
    · nofun
    · rename_i htake
      unfold Pipe.take? at htake
      split_ifs at htake with hempty hopen
      rw [readable, hempty] at hr
      simp [hopen] at hr

end Wire

namespace Connection

variable {b c : StreamConnection} {id : Nat} {stage : Stage}

/-- **No call can go on.** -/
def Resting (c : StreamConnection) : Prop := c.nextReady? = none

instance (c : StreamConnection) : Decidable c.Resting :=
  inferInstanceAs (Decidable (c.nextReady? = none))

theorem exists_call (hs : c.stage? id = some stage) : ⟨id, stage⟩ ∈ c.calls := by
  obtain ⟨call, hcall, rfl⟩ := Option.map_eq_some_iff.mp hs
  have hid : call.id = id := by simpa using List.find?_some hcall
  exact hid ▸ List.mem_of_find?_eq_some hcall

theorem Resting.ready (h : c.Resting) (hs : c.stage? id = some stage) :
    c.ready ⟨id, stage⟩ = false := by
  have hnone := List.find?_eq_none.mp (Option.map_eq_none_iff.mp h) _ (exists_call hs)
  simpa using hnone

theorem poll_eq_self_of_ready {branch : Branch} (hs : c.stage? id = some stage)
    (h : c.ready ⟨id, stage⟩ = false) : c.poll branch id = c := by
  unfold poll
  rw [hs]
  cases stage <;> simp_all [Connection.ready]

/-- **At rest nothing goes on.** -/
theorem Resting.poll (h : c.Resting) (branch : Branch) (id : Nat) : c.poll branch id = c := by
  rcases hs : c.stage? id with _ | stage
  · exact poll_eq_self (by rw [hs]; nofun)
  · exact poll_eq_self_of_ready hs (h.ready hs)

/-! ### Coming to rest -/

/-- The identities of the calls. -/
def ids (c : StreamConnection) : List Nat := c.calls.map (·.id)

theorem ids_setStage : (c.setStage id stage).ids = c.ids := by
  unfold ids setStage
  rw [List.map_map]
  refine List.map_congr_left fun call _ => ?_
  dsimp only [Function.comp_apply]
  split_ifs <;> rfl

theorem work_le {calls : List Call} {f : Call → Call}
    (hle : ∀ call ∈ calls, Call.work (f call) ≤ Call.work call) :
    (calls.map f).foldr (fun call total => Call.work call + total) 0 ≤
      calls.foldr (fun call total => Call.work call + total) 0 := by
  induction calls with
  | nil => exact Nat.le_refl 0
  | cons call calls ih =>
    exact Nat.add_le_add (hle call List.mem_cons_self)
      (ih fun other hmem => hle other (List.mem_cons_of_mem _ hmem))

theorem work_lt {calls : List Call} {f : Call → Call}
    (hle : ∀ call ∈ calls, Call.work (f call) ≤ Call.work call) {moved : Call}
    (hmem : moved ∈ calls) (hlt : Call.work (f moved) < Call.work moved) :
    (calls.map f).foldr (fun call total => Call.work call + total) 0 <
      calls.foldr (fun call total => Call.work call + total) 0 := by
  induction calls with
  | nil => cases hmem
  | cons call calls ih =>
    have hrest : ∀ other ∈ calls, Call.work (f other) ≤ Call.work other :=
      fun other hmem => hle other (List.mem_cons_of_mem _ hmem)
    rcases List.mem_cons.mp hmem with rfl | hmem
    · exact Nat.add_lt_add_of_lt_of_le hlt (work_le hrest)
    · exact Nat.add_lt_add_of_le_of_lt (hle call List.mem_cons_self) (ih hrest hmem)

/-- A call comes to a stage with less left to do. -/
theorem work_setStage_lt (hc : c.ids.Nodup) {old : Stage} (hs : c.stage? id = some old)
    (hlt : Call.work ⟨id, stage⟩ < Call.work ⟨id, old⟩) : (c.setStage id stage).work < c.work := by
  have hcall := exists_call hs
  have honly : ∀ call ∈ c.calls, call.id = id → call = ⟨id, old⟩ := fun call hmem hid =>
    List.inj_on_of_nodup_map hc hmem hcall hid
  refine Connection.work_lt (fun call hmem => ?_) hcall ?_
  · split_ifs with hid
    · rw [honly call hmem hid]
      exact Nat.le_of_lt hlt
    · exact Nat.le_refl _
  · simpa using hlt

/-- **A call has moved on** to a stage with less left to do, and no other call has. -/
def Advances (c : StreamConnection) (id : Nat) (b : StreamConnection) : Prop :=
  ∃ old new, c.stage? id = some old ∧ b.calls = (c.setStage id new).calls ∧
    Call.work ⟨id, new⟩ < Call.work ⟨id, old⟩

theorem Advances.ids (h : Advances c id b) : b.ids = c.ids := by
  obtain ⟨old, new, -, hcalls, -⟩ := h
  rw [Connection.ids, hcalls]
  exact ids_setStage

theorem Advances.work_lt (h : Advances c id b) (hc : c.ids.Nodup) : b.work < c.work := by
  obtain ⟨old, new, hs, hcalls, hlt⟩ := h
  rw [work, hcalls]
  exact work_setStage_lt hc hs hlt

section

variable (hs : c.stage? id = some stage)

include hs

theorem advances_reply {r : Reply} (hb : b.calls = c.calls)
    (hpos : 0 < Call.work ⟨id, stage⟩) : Advances c id (b.reply id r) :=
  ⟨stage, .replied r, hs, by rw [reply, setStage, leave, hb, setStage], hpos⟩

theorem advances_setStage {new : Stage} (hb : b.calls = c.calls)
    (hlt : Call.work ⟨id, new⟩ < Call.work ⟨id, stage⟩) : Advances c id (b.setStage id new) :=
  ⟨stage, new, hs, by rw [setStage, hb, setStage], hlt⟩

theorem advances_closeWriter (hb : b.calls = c.calls) (hlt : 1 < Call.work ⟨id, stage⟩) :
    Advances c id (b.closeWriter id) :=
  advances_setStage (b := { (b.leave id).dropWriter with
      readers := (b.leave id).dropWriter.readers ++ [id] }) hs
    ((still_dropWriter (b.leave id)).calls.trans hb) hlt

theorem advances_stopSend (hb : b.calls = c.calls) (hpos : 0 < Call.work ⟨id, stage⟩) :
    Advances c id (b.stopSend id) :=
  advances_reply hs ((still_dropWriter b).calls.trans hb) hpos

theorem advances_stopReceive (hb : b.calls = c.calls) (hpos : 0 < Call.work ⟨id, stage⟩) :
    Advances c id (b.stopReceive id) :=
  advances_reply hs ((still_dropReader b).calls.trans hb) hpos

theorem advances_pollWrite {rest : Bytes} (hpos : 0 < Call.work ⟨id, stage⟩)
    (hlt : c.signalled = false → ∀ left wire, c.wire.write rest = (.blocked left, wire) →
      left.length + 1 < Call.work ⟨id, stage⟩) : Advances c id (c.pollWrite id rest) := by
  unfold pollWrite
  rcases hw : Carrier.write c.wire rest with ⟨_ | left | f, wire⟩
  · exact advances_reply hs rfl hpos
  · dsimp only
    split_ifs with hsig
    · exact advances_stopSend hs rfl hpos
    · exact advances_setStage hs rfl (hlt (by simpa using hsig) left wire hw)
  · exact advances_reply hs rfl hpos

theorem advances_pollRead {max : Nat} (hpos : 0 < Call.work ⟨id, stage⟩)
    (hlt : c.signalled = false → (c.wire.read max).1 = .blocked → 1 < Call.work ⟨id, stage⟩) :
    Advances c id (c.pollRead id max) := by
  unfold pollRead
  rcases hw : Carrier.read c.wire max with ⟨bytes | _ | f, wire⟩
  · exact advances_reply hs rfl hpos
  · dsimp only
    split_ifs with hsig
    · exact advances_stopReceive hs rfl hpos
    · exact advances_setStage hs rfl (hlt (by simpa using hsig) (congrArg Prod.fst hw))
  · exact advances_reply hs rfl hpos

end

theorem advances_sendQueued {data : Bytes} {branch : Branch}
    (hs : c.stage? id = some (.sendQueued data)) (h : c.ready ⟨id, .sendQueued data⟩ = true) :
    Advances c id (c.poll branch id) := by
  have hready : c.signalled = true ∨ c.holdsWriter id = true := by simpa [ready] using h
  unfold poll
  rw [hs]
  dsimp only
  split_ifs with hsig hh hw
  · exact advances_reply hs rfl (Nat.succ_pos _)
  · simp_all
  · exact advances_reply hs rfl (Nat.succ_pos _)
  · exact advances_setStage hs rfl (Nat.lt_succ_self _)

theorem advances_sendHolding {data : Bytes} {branch : Branch}
    (hs : c.stage? id = some (.sendHolding data)) : Advances c id (c.poll branch id) := by
  unfold poll
  rw [hs]
  dsimp only
  split_ifs
  · exact advances_stopSend hs rfl (Nat.succ_pos _)
  · refine advances_pollWrite hs (Nat.succ_pos _) fun _ left wire hwrite => ?_
    have hle : left.length ≤ data.length :=
      (LawfulCarrier.suffix_of_write (w := c.wire) hwrite).length_le
    exact Nat.succ_lt_succ (Nat.lt_succ_of_le hle)

theorem advances_sending {rest : Bytes} {branch : Branch}
    (hs : c.stage? id = some (.sending rest)) (h : c.ready ⟨id, .sending rest⟩ = true) :
    Advances c id (c.poll branch id) := by
  have hready : c.signalled = true ∨ c.wire.writable rest = true := by simpa [ready] using h
  unfold poll
  rw [hs]
  dsimp only
  split_ifs with hsig hw
  · exact advances_stopSend hs rfl (Nat.succ_pos _)
  · simp_all
  · refine advances_pollWrite hs (Nat.succ_pos _) fun _ left wire hwrite => ?_
    exact Nat.succ_lt_succ (Wire.length_lt_of_write (by simpa using hw) hwrite)

theorem advances_receiveQueued {max : Nat} {branch : Branch}
    (hs : c.stage? id = some (.receiveQueued max)) (h : c.ready ⟨id, .receiveQueued max⟩ = true) :
    Advances c id (c.poll branch id) := by
  have hready : c.signalled = true ∨ c.holdsReader id = true := by simpa [ready] using h
  unfold poll
  rw [hs]
  dsimp only
  split_ifs with hsig hh hr
  · exact advances_reply hs rfl (Nat.succ_pos _)
  · simp_all
  · exact advances_reply hs rfl (Nat.succ_pos _)
  · exact advances_setStage hs rfl (Nat.lt_succ_self _)

theorem advances_receiveHolding {max : Nat} {branch : Branch}
    (hs : c.stage? id = some (.receiveHolding max)) : Advances c id (c.poll branch id) := by
  unfold poll
  rw [hs]
  dsimp only
  split_ifs
  · exact advances_stopReceive hs rfl (Nat.succ_pos _)
  · exact advances_pollRead hs (Nat.succ_pos _) fun _ _ => Nat.one_lt_two

theorem advances_receiving {max : Nat} {branch : Branch}
    (hs : c.stage? id = some (.receiving max)) (h : c.ready ⟨id, .receiving max⟩ = true) :
    Advances c id (c.poll branch id) := by
  have hready : c.signalled = true ∨ c.wire.readable = true := by simpa [ready] using h
  unfold poll
  rw [hs]
  dsimp only
  split_ifs with hsig hr
  · exact advances_stopReceive hs rfl (Nat.succ_pos _)
  · simp_all
  · refine advances_pollRead hs (Nat.succ_pos _) fun _ hblocked => ?_
    exact absurd hblocked (Wire.read_ne_blocked (by simpa using hr))

theorem advances_pollShutdown (hs : c.stage? id = some stage) (hone : 1 < Call.work ⟨id, stage⟩)
    (htwo : c.wire.shutdownHangs = true → 2 < Call.work ⟨id, stage⟩) :
    Advances c id (c.pollShutdown id) := by
  unfold pollShutdown
  rcases hw : Carrier.shutdown c.wire with ⟨_ | _, wire⟩
  · refine advances_setStage hs rfl (htwo ?_)
    rw [Wire.carrier_shutdown] at hw
    unfold Wire.shutdown at hw
    dsimp only at hw
    split_ifs at hw with hhang
    · exact hhang
    · split at hw <;> cases hw
  · exact advances_closeWriter hs rfl hone

/-- **Every call that can go on does.** -/
theorem advances_poll (branch : Branch) (hs : c.stage? id = some stage)
    (h : c.ready ⟨id, stage⟩ = true) : Advances c id (c.poll branch id) := by
  cases stage with
  | sendQueued data => exact advances_sendQueued hs h
  | sendHolding data => exact advances_sendHolding hs
  | sending rest => exact advances_sending hs h
  | receiveQueued max => exact advances_receiveQueued hs h
  | receiveHolding max => exact advances_receiveHolding hs
  | receiving max => exact advances_receiving hs h
  | closeQueued graceful =>
    have hholds : c.holdsWriter id = true := h
    unfold poll
    rw [hs]
    dsimp only
    split_ifs with hh hg
    · simp [hholds] at hh
    · exact advances_pollShutdown hs (by simp [Call.work]) fun _ => by simp [Call.work]
    · exact advances_closeWriter hs rfl (by simp [Call.work])
  | shuttingDown =>
    have hends : c.wire.shutdownHangs = false := by simpa [ready] using h
    unfold poll
    rw [hs]
    dsimp only
    rw [if_neg (by simp [hends])]
    exact advances_pollShutdown hs (by simp [Call.work]) fun hhang => by simp [hends] at hhang
  | closingReader =>
    have hholds : c.holdsReader id = true := h
    unfold poll
    rw [hs]
    dsimp only
    rw [if_neg (by simp [hholds])]
    exact advances_reply hs (still_dropReader c).calls (by simp [Call.work])
  | replied r => cases h

theorem stage?_of_mem (hc : c.ids.Nodup) {call : Call} (hmem : call ∈ c.calls) :
    c.stage? call.id = some call.stage := by
  rcases hfind : c.calls.find? (·.id == call.id) with _ | other
  · exact absurd (List.find?_eq_none.mp hfind call hmem) (by simp)
  · have hid : other.id = call.id := by simpa using List.find?_some hfind
    have heq := List.inj_on_of_nodup_map hc (List.mem_of_find?_eq_some hfind) hmem hid
    rw [stage?, hfind, Option.map_some, heq]

/-- **A call that goes on has less left to do.** -/
theorem exists_advances (hc : c.ids.Nodup) (hn : c.nextReady? = some id) (branch : Branch) :
    Advances c id (c.poll branch id) := by
  obtain ⟨call, hfind, rfl⟩ := Option.map_eq_some_iff.mp hn
  exact advances_poll branch (stage?_of_mem hc (List.mem_of_find?_eq_some hfind))
    (List.find?_some hfind)

theorem resting_settleFor (hc : c.ids.Nodup) {fuel : Nat} (hle : c.work ≤ fuel) :
    (c.settleFor fuel).Resting := by
  induction fuel generalizing c with
  | zero =>
    by_contra hne
    obtain ⟨id, hn⟩ := Option.ne_none_iff_exists'.mp hne
    have hlt := (exists_advances hc hn .signal).work_lt hc
    omega
  | succ fuel ih =>
    unfold settleFor
    split
    · assumption
    · rename_i id hn
      have hadv := exists_advances hc hn .signal
      have hlt := hadv.work_lt hc
      exact ih (hadv.ids ▸ hc) (by omega)

/-- **Letting calls go on comes to rest.** -/
theorem resting_settle (hc : c.ids.Nodup) : c.settle.Resting :=
  resting_settleFor hc (Nat.le_refl _)

/-! ### Identities -/

theorem ids_poll (branch : Branch) (id : Nat) (c : StreamConnection) :
    (c.poll branch id).ids = c.ids := by
  rcases hs : c.stage? id with _ | stage
  · rw [poll_eq_self (by rw [hs]; nofun)]
  · by_cases h : c.ready ⟨id, stage⟩ = true
    · exact (advances_poll branch hs h).ids
    · rw [poll_eq_self_of_ready hs (by simpa using h)]

theorem nodup_ids_enter (hc : c.ids.Nodup) (hnone : c.stage? c.nextId = none) :
    (c.enter stage).ids.Nodup := by
  have hnew : c.nextId ∉ c.ids := by
    intro hmem
    obtain ⟨call, hcall, hid⟩ := List.mem_map.mp hmem
    have hs := stage?_of_mem hc hcall
    rw [hid, hnone] at hs
    cases hs
  have hids : (c.enter stage).ids = c.ids ++ [c.nextId] := List.map_append
  rw [hids]
  exact hc.append (List.nodup_singleton _) (by simpa using hnew)

end Connection

/-! ### Rounds -/

namespace History

variable {h g : History}

/-- **No two calls have one identity.** -/
def Distinct (h : History) : Prop := h.connection.ids.Nodup

theorem distinct_start (capacity : Nat) : (start capacity).Distinct := List.nodup_nil

theorem Distinct.step (hd : h.Distinct) (hc : h.connection.Coherent) (event : Event) :
    (h.step event).Distinct := by
  cases event using Event.operation_or_outside with
  | issue request =>
    obtain ⟨new, -, hcalls⟩ :=
      (Connection.issued_issue h.connection request).exists_begins
    have hids : (h.connection.issue request).2.ids = (h.connection.enter new).ids :=
      congrArg (List.map Call.id) hcalls
    rw [Distinct, step_issue, hids]
    exact Connection.nodup_ids_enter hd (hc.fresh _ (Nat.le_refl _))
  | poll branch id =>
    rw [Distinct, step_poll, Connection.ids_poll]
    exact hd
  | cancel id => exact hd.sublist (List.filter_sublist.map _)
  | abort =>
    have hids : h.connection.abort.ids = h.connection.ids :=
      congrArg (List.map Call.id) (Connection.still_abort h.connection).calls
    exact (hids ▸ hd : h.connection.abort.ids.Nodup)
  | outside event he =>
    obtain ⟨wire, taken, given, heq⟩ := h.exists_step_outside he
    rw [heq]
    exact hd

/-- Calls go on in some order. -/
def goOn (h : History) (polls : List (Branch × Nat)) : History :=
  h.run (polls.map fun (branch, id) => .poll branch id)

/-- What a call that goes on preserves. -/
theorem goOn_induction {P : History → Prop}
    (hpoll : ∀ h branch id, P h → P (h.step (.poll branch id))) (hP : P h)
    (polls : List (Branch × Nat)) : P (h.goOn polls) := by
  induction polls generalizing h with
  | nil => exact hP
  | cons p polls ih => exact ih (hpoll h p.1 p.2 hP)

theorem exists_goOn (h : History) (fuel : Nat) :
    ∃ polls, (h.goOn polls).connection = h.connection.settleFor fuel := by
  induction fuel generalizing h with
  | zero => exact ⟨[], rfl⟩
  | succ fuel ih =>
    unfold Connection.settleFor
    split
    · exact ⟨[], rfl⟩
    · rename_i id hn
      obtain ⟨polls, hpolls⟩ := ih (h.step (.poll .signal id))
      exact ⟨(.signal, id) :: polls, hpolls⟩

/-- An operation, after which calls go on in some order. -/
def round (h : History) (event : Event) (polls : List (Branch × Nat)) : History :=
  (h.step event).goOn polls

/-- **An operation, after which calls go on until none can.** -/
def Round (event : Event) (h g : History) : Prop :=
  ∃ polls, g = h.round event polls ∧ g.connection.Resting

/-- **Rounds one after another.** -/
inductive Rounds (h : History) : History → Prop
  | refl : Rounds h h
  | next {g k : History} {event : Event} (hg : Rounds h g) (hk : Round event g k) : Rounds h k

theorem Rounds.round (hr : Rounds h g) (event : Event) (polls : List (Branch × Nat))
    (hrest : (g.round event polls).connection.Resting) : Rounds h (g.round event polls) :=
  hr.next ⟨polls, rfl, hrest⟩

/-- **Whatever is done, calls come to rest.** -/
theorem exists_round (ht : h.Tracked) (hd : h.Distinct) (event : Event) :
    ∃ g, Round event h g := by
  obtain ⟨polls, hpolls⟩ := exists_goOn (h.step event) (h.step event).connection.work
  refine ⟨_, polls, rfl, ?_⟩
  rw [round, hpolls]
  exact Connection.resting_settle (hd.step ht.coherent event)

namespace Round

variable {event : Event} (hr : Round event h g)

include hr

theorem resting : g.connection.Resting := hr.choose_spec.2

theorem tracked (ht : h.Tracked) : g.Tracked := by
  obtain ⟨polls, rfl, -⟩ := hr
  exact goOn_induction (P := fun k => k.Tracked) (fun _ branch id ht => ht.step (.poll branch id))
    (ht.step event) polls

theorem distinct (ht : h.Tracked) (hd : h.Distinct) : g.Distinct := by
  obtain ⟨polls, rfl, -⟩ := hr
  refine goOn_induction (fun k branch id (hk : k.Distinct) => ?_) (hd.step ht.coherent event) polls
  rw [Distinct, step_poll, Connection.ids_poll]
  exact hk

end Round

namespace Rounds

variable {capacity : Nat}

theorem tracked (hr : Rounds (start capacity) h) : h.Tracked ∧ h.Distinct := by
  induction hr with
  | refl => exact ⟨tracked_start capacity, distinct_start capacity⟩
  | next _ hk ih => exact ⟨hk.tracked ih.1, hk.distinct ih.1 ih.2⟩

theorem resting (hr : Rounds (start capacity) h) : h.connection.Resting := by
  cases hr with
  | refl => rfl
  | next _ hk => exact hk.resting

end Rounds

end History

end Dialer
