import Dialer.Proofs.Connection.Halves

/-!
# Whether a close shuts the session down

A close asks for the writing half to be shut down, but first it has to wait for that half. A send
that holds it, be it in the middle of writing or about to begin, may heed the signal meanwhile and
drop it (`Stage.cutShort`). Then nothing is left to shut down, and the close is done all the same.

* `History.graceful_run`: a close that is done has asked for the shutdown exactly if no send was cut
  short on the way. Where calls have come to rest before the close, this means that no send was in
  the middle of writing (`History.passes_iff_sending`).
-/

namespace Dialer

open CallRecord (mem_newReply)

/-! ### The shutdown a wire was asked for -/

namespace Wire

variable {w v : Wire} {call : WireCall} {failure : IoFailure} {data : Bytes}

theorem shutdownAsked_fault? (h : w.fault? call = some (failure, v)) :
    v.shutdownAsked = w.shutdownAsked := by
  obtain ⟨f, -, hf⟩ := Option.map_eq_some_iff.mp h
  cases hf
  rfl

theorem shutdownAsked_flush (w : Wire) : w.flush.2.shutdownAsked = w.shutdownAsked := by
  unfold flush
  split_ifs
  · rfl
  · split
    · rename_i hf
      exact shutdownAsked_fault? hf
    · rfl

theorem shutdownAsked_put (w : Wire) (data : Bytes) :
    (w.put data).2.shutdownAsked = w.shutdownAsked := by
  unfold put
  split_ifs
  · rfl
  · dsimp only
    split_ifs
    · exact shutdownAsked_flush _
    · rfl

theorem shutdownAsked_write {result : WriteResult} (h : w.write data = (result, v)) :
    v.shutdownAsked = w.shutdownAsked := by
  obtain rfl : (w.write data).2 = v := by rw [h]
  unfold write
  split_ifs
  · exact shutdownAsked_flush w
  · split
    · rename_i failure u hf
      have hu := shutdownAsked_fault? hf
      split_ifs
      · exact (shutdownAsked_put u data).trans hu
      · exact hu
    · exact shutdownAsked_put w data

theorem shutdownAsked_read {max : Nat} {result : ReadResult} (h : w.read max = (result, v)) :
    v.shutdownAsked = w.shutdownAsked := by
  obtain rfl : (w.read max).2 = v := by rw [h]
  unfold read
  split
  · rename_i hf
    exact shutdownAsked_fault? hf
  · split <;> rfl

theorem shutdownAsked_shutdown {ended : Bool} (h : w.shutdown = (ended, v)) :
    v.shutdownAsked = true := by
  obtain rfl : w.shutdown.2 = v := by rw [h]
  unfold shutdown
  dsimp only
  split_ifs
  · rfl
  · split
    · rename_i hf
      exact shutdownAsked_fault? hf
    · rfl

end Wire

namespace Stage

/-- Whether a call at the stage is a send that holds the writing half. -/
def sends : Stage → Bool
  | sendHolding _ | sending _ => true
  | _ => false

variable {old new : Stage}

theorem writes_of_sends (h : old.sends = true) : old.writes = true := by
  cases old <;> first | rfl | cases h

theorem midway_of_sends (h : old.sends = true) : old.midway = true := by
  cases old <;> first | rfl | cases h

/-- **Whether a send is cut short:** it holds the writing half, and heeds the signal. -/
def cutShort (old new : Stage) : Bool := old.sends && new == .replied (.refused .closed)

theorem cutShort_iff :
    cutShort old new = true ↔ old.sends = true ∧ new = .replied (.refused .closed) := by
  simp [cutShort]

@[simp]
theorem cutShort_self (stage : Stage) : cutShort stage stage = false := by
  cases stage <;> rfl

/-- Nobody else lets go of the writing half, but closes. -/
theorem cutShort_iff_letsGo (hc : old.closes = false) :
    cutShort old new = true ↔ letsGo writes old new = true := by
  rw [cutShort_iff]
  constructor
  · rintro ⟨hsends, rfl⟩
    simp [letsGo, writes_of_sends hsends, midway_of_sends hsends]
  · intro h
    simp only [letsGo, hc, Bool.false_and, Bool.false_or, Bool.and_eq_true, beq_iff_eq] at h
    obtain ⟨hwrites, hmidway, rfl⟩ := h
    refine ⟨?_, rfl⟩
    cases old with
    | sendHolding data => rfl
    | sending rest => rfl
    | sendQueued data => cases hmidway
    | closeQueued graceful => cases hc
    | shuttingDown => cases hc
    | _ => cases hwrites

end Stage

namespace Connection

variable {b c : StreamConnection} {id j : Nat} {old new stage : Stage}

theorem shutdownAsked_dropWriter (c : StreamConnection) :
    c.dropWriter.wire.shutdownAsked = c.wire.shutdownAsked := by
  rw [dropWriter_eq]
  cases c.hasReader <;> rfl

theorem shutdownAsked_dropReader (c : StreamConnection) :
    c.dropReader.wire.shutdownAsked = c.wire.shutdownAsked := by
  rw [dropReader_eq]
  cases c.hasWriter <;> rfl

theorem shutdownAsked_closeWriter (c : StreamConnection) (id : Nat) :
    (c.closeWriter id).wire.shutdownAsked = c.wire.shutdownAsked :=
  shutdownAsked_dropWriter (c.leave id)

/-- Nobody but a close that goes on with the writing half asks for the shutdown. -/
theorem Goes.shutdownAsked (h : Goes c id b) (hs : ¬ c.ShutsDown id) :
    b.wire.shutdownAsked = c.wire.shutdownAsked := by
  cases h with
  | @sendStopped rest wire _ _ hw =>
    have hdrop : (stopSend { c with wire } id).wire.shutdownAsked = wire.shutdownAsked :=
      shutdownAsked_dropWriter { c with wire }
    rcases hw with rfl | ⟨left, hw⟩
    · exact hdrop
    · exact hdrop.trans (Wire.shutdownAsked_write hw)
  | @receiveStopped max wire _ _ hw =>
    have hdrop : (stopReceive { c with wire } id).wire.shutdownAsked = wire.shutdownAsked :=
      shutdownAsked_dropReader { c with wire }
    rcases hw with rfl | hw
    · exact hdrop
    · exact hdrop.trans (Wire.shutdownAsked_read hw)
  | sent _ hw => exact Wire.shutdownAsked_write hw
  | sentInPart _ hw => exact Wire.shutdownAsked_write hw
  | sendFailed _ hw => exact Wire.shutdownAsked_write hw
  | received _ hw => exact Wire.shutdownAsked_read hw
  | receiveWaits _ hw => exact Wire.shutdownAsked_read hw
  | receiveFailed _ hw => exact Wire.shutdownAsked_read hw
  | shutDown h => exact absurd h hs
  | shutdownHangs h => exact absurd h hs
  | shutdownSkipped => exact shutdownAsked_closeWriter c id
  | closed => exact shutdownAsked_dropReader c
  | _ => rfl

/-! ### Once the writing half is gone -/

/-- **The writing half is gone,** and no call is midway through using it. -/
structure Parted (c : StreamConnection) : Prop where
  writer : c.hasWriter = false
  midway : ∀ id stage, c.stage? id = some stage → stage.writes = true → stage.midway = false

namespace Parted

variable (hp : c.Parted)

include hp

theorem not_shutsDown : ¬ c.ShutsDown id := by
  rintro (⟨-, -, hhas⟩ | hs)
  · rw [hp.writer] at hhas
    cases hhas
  · cases hp.midway id _ hs rfl

theorem goes (hg : Goes c id b) : b.Parted := by
  rcases hg.moves with rfl | ⟨old, new, hm⟩
  · exact hp
  · refine ⟨by rw [hm.writer, hp.writer, Bool.false_and], fun j stage hs hwrites => ?_⟩
    rw [hm.stages] at hs
    rcases eq_or_ne j id with rfl | hj
    · rw [Function.update_self] at hs
      cases hs
      rcases hm.uses hwrites with hhas | ⟨hold, hmidway⟩
      · rw [hp.writer] at hhas
        cases hhas
      · rw [hp.midway j old hm.stage hold] at hmidway
        cases hmidway
    · rw [Function.update_of_ne hj] at hs
      exact hp.midway j stage hs hwrites

theorem undergoes {event : Event} (hc : c.Coherent) (hu : Undergoes c event b) : b.Parted where
  writer := Bool.eq_false_iff.mpr fun hb => by
    have hhas := hu.hasWriter hb
    rw [hp.writer] at hhas
    cases hhas
  midway id stage hs hwrites := by
    rcases hu.quiet hc id stage hs with hold | ⟨-, r, rfl⟩
    · exact hp.midway id stage hold hwrites
    · cases hwrites

end Parted

/-! ### While a close is waiting for the writing half -/

/-- **A close is at a stage** where it waits for the writing half or holds it. It is the only one,
and the half is there. -/
structure Attends (c : StreamConnection) (id : Nat) (stage : Stage) : Prop where
  coherent : c.Coherent
  close : c.stage? id = some stage
  writes : stage.writes = true
  writer : c.hasWriter = true
  only : ∀ j, c.Closes j → j = id

namespace Attends

variable (ha : c.Attends id stage)

include ha

theorem mem_writers : id ∈ c.writers :=
  (ha.coherent.writers.mem id).mpr ⟨stage, ha.close, ha.writes⟩

theorem goes (hg : Goes c j b) (hj : j ≠ id) :
    b.wire.shutdownAsked = c.wire.shutdownAsked ∧
      (b = c ∨ ∃ old new, Moves c j old new b ∧
        (Stage.cutShort old new = false ∧ b.Attends id stage ∨
          Stage.cutShort old new = true ∧ b.Parted)) := by
  have hcloses : ¬ c.Closes j := fun h => hj (ha.only j h)
  refine ⟨hg.shutdownAsked fun h => hcloses h.closes, ?_⟩
  refine hg.moves.imp_right fun ⟨old, new, hm⟩ => ⟨old, new, hm, ?_⟩
  have hold : old.closes = false := by
    by_contra h
    exact hcloses ⟨old, hm.stage, by simpa using h⟩
  have hclose : b.stage? id = some stage := (hg.stage?_of_ne (Ne.symm hj)).trans ha.close
  have hb := ha.coherent.goes hg
  rcases hcut : Stage.cutShort old new with _ | _
  · have hlets : Stage.letsGo Stage.writes old new = false := by
      rw [← Bool.not_eq_true, ← Stage.cutShort_iff_letsGo hold, hcut]
      exact Bool.false_ne_true
    refine Or.inl ⟨rfl, hb, hclose, ha.writes, by rw [hm.writer, ha.writer, hlets]; rfl, ?_⟩
    rintro i ⟨other, hs, hc⟩
    rw [hm.stages] at hs
    rcases eq_or_ne i j with rfl | hi
    · rw [Function.update_self] at hs
      cases hs
      exact ha.only i ⟨old, hm.stage, hm.closes hc⟩
    · rw [Function.update_of_ne hi] at hs
      exact ha.only i ⟨other, hs, hc⟩
  · have hlets := (Stage.cutShort_iff_letsGo hold).mp hcut
    obtain ⟨hsends, rfl⟩ := Stage.cutShort_iff.mp hcut
    refine Or.inr ⟨rfl, by rw [hm.writer, hlets]; exact Bool.and_false _,
      fun i other hs hwrites => ?_⟩
    rw [hm.stages] at hs
    rcases eq_or_ne i j with rfl | hi
    · rw [Function.update_self] at hs
      cases hs
      cases hwrites
    · rw [Function.update_of_ne hi] at hs
      have hhead := ha.coherent.writers.first j _ hm.stage (Stage.writes_of_sends hsends)
        (Stage.midway_of_sends hsends)
      exact Bool.eq_false_iff.mpr fun hmidway =>
        hi (ha.coherent.writers.eq_of_midway hs hwrites hmidway hhead)

theorem undergoes {event : Event} (hu : Undergoes c event b) (hb : b.Coherent)
    (hne : event ≠ .cancel id) : b.Attends id stage := by
  refine ⟨hb, ?_, ha.writes, ?_, fun j hj => ?_⟩
  · cases hu with
    | refused => exact ha.coherent.stage?_enter_of_some ha.close
    | @cancelled j =>
      have hid : id ≠ j := by
        rintro rfl
        exact hne rfl
      rw [stage?_cancel, Function.update_of_ne hid, ha.close]
    | aborted => rw [stage?_congr (still_abort c).calls, ha.close]
    | still => exact ha.close
  · cases hu with
    | aborted =>
      by_cases hclosed : c.life.phase = .closed
      · rw [abort, if_pos hclosed, ha.writer]
      · have hwriters := List.ne_nil_of_mem ha.mem_writers
        simp [hasWriter_abort hclosed, ha.writer, hwriters]
    | _ => exact ha.writer
  · obtain ⟨other, hs, hc⟩ := hj
    rcases hu.quiet ha.coherent j other hs with hold | ⟨-, r, rfl⟩
    · exact ha.only j ⟨other, hold, hc⟩
    · cases hc

/-- The close shuts the half down, or begins to. -/
theorem pollShutdown (hs : c.ShutsDown id) :
    (c.pollShutdown id).wire.shutdownAsked = true ∧
      ((c.pollShutdown id).Attends id .shuttingDown ∨ (c.pollShutdown id).Parted) := by
  have hhead := ha.coherent.head?_of_shutsDown hs
  have hb := ha.coherent.goes (goes_pollShutdown hs)
  have hother : ∀ j, j ≠ id → (c.pollShutdown id).stage? j = c.stage? j := fun j hj =>
    (goes_pollShutdown hs).stage?_of_ne hj
  unfold Connection.pollShutdown at hb hother ⊢
  rcases hw : Carrier.shutdown c.wire with ⟨_ | _, wire⟩
  · rw [hw] at hb hother
    refine ⟨Wire.shutdownAsked_shutdown hw, Or.inl ⟨hb, ?_, rfl, ha.writer, fun j hj => ?_⟩⟩
    · exact stage?_self (stage?_setStage rfl ha.close)
    · by_contra hne
      obtain ⟨other, hs, hc⟩ := hj
      exact hne (ha.only j ⟨other, (hother j hne).symm.trans hs, hc⟩)
  · rw [hw] at hother
    have hasked : ({ c with wire }.closeWriter id).wire.shutdownAsked = true :=
      (shutdownAsked_closeWriter _ id).trans (Wire.shutdownAsked_shutdown hw)
    refine ⟨hasked, Or.inr ⟨?_, fun j other hs hwrites => ?_⟩⟩
    · simp [closeWriter, dropWriter_eq, setStage]
    · rcases eq_or_ne j id with rfl | hj
      · have hself := stage?_self (stage?_closeWriter (b := { c with wire }) rfl ha.close)
        cases hs.symm.trans hself
        cases hwrites
      · have hold : c.stage? j = some other := (hother j hj).symm.trans hs
        exact Bool.eq_false_iff.mpr fun hmidway =>
          hj (ha.coherent.writers.eq_of_midway hold hwrites hmidway hhead)

end Attends

end Connection

/-! ### Along a history -/

namespace History

variable {h : History} {id : Nat} {event : Event}

/-- Whether the shutdown of the session was asked for. -/
def asked (h : History) : Bool := h.connection.wire.shutdownAsked

theorem asked_step (hpoll : ∀ branch id, event ≠ .poll branch id) :
    (h.step event).asked = h.asked := by
  cases event with
  | issue request =>
    have hi := Connection.issued_issue h.connection request
    rw [step_issue, asked, hi.wire, asked]
  | poll branch id => exact absurd rfl (hpoll branch id)
  | abort =>
    change h.connection.abort.wire.shutdownAsked = h.connection.wire.shutdownAsked
    unfold Connection.abort
    dsimp only
    split_ifs <;>
      simp only [Connection.shutdownAsked_dropReader,
        Connection.shutdownAsked_dropWriter]
  | peerWrite data =>
    rw [step_peerWrite]
    split_ifs <;> rfl
  | peerRead max =>
    rcases step_peerRead h max with heq | ⟨bytes, outgoing, -, heq⟩ <;> rw [heq]
    rfl
  | _ => rfl

/-- A call was given up before it had its reply. -/
structure GivenUp (h : History) (id : Nat) : Prop where
  stage : h.connection.stage? id = none
  issued : id < h.connection.nextId
  replies : ∀ r, (id, r) ∉ h.replies

theorem GivenUp.step (ht : h.Tracked) (hg : h.GivenUp id) (event : Event) :
    (h.step event).GivenUp id := by
  cases event using Event.operation_or_outside with
  | issue request =>
    have hi := Connection.issued_issue h.connection request
    obtain ⟨new, -, hs⟩ := hi.eq_update ht.coherent
    have hid : id ≠ h.connection.nextId := Nat.ne_of_lt hg.issued
    rw [step_issue]
    refine ⟨by rw [hs, Function.update_of_ne hid, hg.stage], ?_, fun r hmem => ?_⟩
    · rw [hi.nextId]
      exact Nat.lt_succ_of_lt hg.issued
    · rcases List.mem_append.mp hmem with hmem | hmem
      · exact hg.replies r hmem
      · exact hid (mem_newReply.mp hmem).1
  | poll branch j =>
    rcases eq_or_ne j id with rfl | hj
    · rw [step_poll_eq_self (Connection.poll_eq_self (by rw [hg.stage]; nofun))]
      exact hg
    · have hgoes := Connection.goes_poll branch j h.connection
      refine ⟨(hgoes.stage?_of_ne (Ne.symm hj)).trans hg.stage, hgoes.nextId ▸ hg.issued,
        fun r hmem => ?_⟩
      rcases List.mem_append.mp hmem with hmem | hmem
      · exact hg.replies r hmem
      · exact hj (mem_newReply.mp hmem).1.symm
  | cancel j =>
    refine ⟨?_, hg.issued, hg.replies⟩
    change (h.connection.cancel j).stage? id = none
    rw [Connection.stage?_cancel]
    rcases eq_or_ne id j with rfl | hj
    · exact Function.update_self ..
    · rw [Function.update_of_ne hj, hg.stage]
  | abort =>
    have hstill := Connection.still_abort h.connection
    refine ⟨?_, hstill.nextId ▸ hg.issued, hg.replies⟩
    exact (congrFun (Connection.stage?_congr hstill.calls) id).trans hg.stage
  | outside event he =>
    obtain ⟨wire, taken, given, heq⟩ := h.exists_step_outside he
    rw [heq]
    exact ⟨hg.stage, hg.issued, hg.replies⟩

theorem GivenUp.run (ht : h.Tracked) (hg : h.GivenUp id) (events : List Event) :
    (h.run events).GivenUp id :=
  (run_induction (P := fun h => h.Tracked ∧ h.GivenUp id)
    (fun _ event hk => ⟨hk.1.step event, hk.2.step hk.1 event⟩) ⟨ht, hg⟩ events).2

theorem not_moved_of_parted {g : History} (hp : h.connection.Parted) :
    ¬ Moved Stage.cutShort h g := by
  rintro ⟨j, old, new, hold, -, hcut⟩
  obtain ⟨hsends, rfl⟩ := Stage.cutShort_iff.mp hcut
  have hmidway := hp.midway j old hold (Stage.writes_of_sends hsends)
  rw [Stage.midway_of_sends hsends] at hmidway
  cases hmidway

theorem parted_run (ht : h.Tracked) (ha : h.Answered) (hr : h.connection.Refuses)
    (hp : h.connection.Parted) (events : List Event) :
    (h.run events).asked = h.asked ∧ ¬ Passes Stage.cutShort h events := by
  induction events generalizing h with
  | nil => exact ⟨rfl, passes_nil⟩
  | cons event events ih =>
    have hstep : (h.step event).asked = h.asked ∧ (h.step event).connection.Parted := by
      rcases event.exists_poll_or with ⟨branch, id, rfl⟩ | hne
      · have hg := Connection.goes_poll branch id h.connection
        exact ⟨hg.shutdownAsked hp.not_shutsDown, hp.goes hg⟩
      · exact ⟨asked_step hne, hp.undergoes ht.coherent (undergoes_step hr hne)⟩
    have hrstep := refuses_step ht ha hr event
    obtain ⟨hasked, hpasses⟩ := ih (ht.step event) (ha.step ht event) hrstep hstep.2
    refine ⟨hasked.trans hstep.1, ?_⟩
    rw [passes_cons, not_or]
    exact ⟨not_moved_of_parted hp, hpasses⟩

/-- **A close in good order is waiting** for the writing half, or has asked for the shutdown and
waits for that. -/
def Waits (h : History) (id : Nat) : Prop :=
  ∃ stage, h.connection.Attends id stage ∧
    (stage = .closeQueued true ∧ h.asked = false ∨ stage = .shuttingDown ∧ h.asked = true)

namespace Waits

variable (hw : h.Waits id)

include hw

theorem not_sends {old : Stage} (hold : h.connection.stage? id = some old) :
    old.sends = false := by
  obtain ⟨stage, hatt, hstage⟩ := hw
  rw [hatt.close] at hold
  cases hold
  rcases hstage with ⟨rfl, -⟩ | ⟨rfl, -⟩ <;> rfl

theorem unanswered (ha : h.Answered) (r : Reply) : (id, r) ∉ h.replies := by
  intro hmem
  obtain ⟨stage, hatt, hstage⟩ := hw
  obtain ⟨r', rfl⟩ := ha id r hmem stage hatt.close
  rcases hstage with ⟨h, -⟩ | ⟨h, -⟩ <;> cases h

theorem givenUp (ht : h.Tracked) (ha : h.Answered) : (h.step (.cancel id)).GivenUp id := by
  have hnone := hw.unanswered ha
  obtain ⟨stage, hatt, -⟩ := hw
  refine ⟨?_, ht.coherent.lt_nextId hatt.close, hnone⟩
  exact Connection.stage?_self Connection.stage?_cancel

theorem poll_self (branch : Branch) : ¬ Moved Stage.cutShort h (h.step (.poll branch id)) ∧
    ((h.step (.poll branch id)).Waits id ∨
      (h.step (.poll branch id)).connection.Parted ∧ (h.step (.poll branch id)).asked = true) := by
  constructor
  · rintro ⟨j, old, new, hold, hnew, hcut⟩
    obtain ⟨hsends, rfl⟩ := Stage.cutShort_iff.mp hcut
    rcases eq_or_ne j id with rfl | hj
    · rw [hw.not_sends hold] at hsends
      cases hsends
    · have hg := Connection.goes_poll branch id h.connection
      have hsame := (hg.stage?_of_ne hj).trans hold
      cases hsame.symm.trans hnew
      cases hsends
  · have hself : ∀ {stage}, h.connection.Attends id stage → h.connection.ShutsDown id →
        h.connection.poll branch id = h.connection.pollShutdown id →
        (h.step (.poll branch id)).Waits id ∨ (h.step (.poll branch id)).connection.Parted ∧
          (h.step (.poll branch id)).asked = true := by
      intro stage hatt hshuts heq
      obtain ⟨hasked, hnext⟩ := hatt.pollShutdown hshuts
      rw [← heq] at hasked hnext
      exact hnext.imp (fun hnext => ⟨_, hnext, Or.inr ⟨rfl, hasked⟩⟩) fun hnext => ⟨hnext, hasked⟩
    obtain ⟨stage, hatt, hstage⟩ := hw
    rcases hstage with ⟨rfl, hasked⟩ | ⟨rfl, hasked⟩
    · by_cases hh : h.connection.holdsWriter id = true
      · refine hself hatt (Or.inl ⟨hatt.close, hh, hatt.writer⟩) ?_
        simp [Connection.poll, hatt.close, hh, hatt.writer]
      · have heq : h.connection.poll branch id = h.connection := by
          simp [Connection.poll, hatt.close, hh]
        rw [step_poll_eq_self heq]
        exact Or.inl ⟨_, hatt, Or.inl ⟨rfl, hasked⟩⟩
    · by_cases hh : h.connection.wire.shutdownHangs = true
      · have heq : h.connection.poll branch id = h.connection := by
          simp [Connection.poll, hatt.close, hh]
        rw [step_poll_eq_self heq]
        exact Or.inl ⟨_, hatt, Or.inr ⟨rfl, hasked⟩⟩
      · refine hself hatt (Or.inr hatt.close) ?_
        simp [Connection.poll, hatt.close, hh]

/-- Another call goes on. A send that is cut short takes the writing half away before the close has
asked for anything. -/
theorem poll_other (branch : Branch) {j : Nat} (hj : j ≠ id) :
    ¬ Moved Stage.cutShort h (h.step (.poll branch j)) ∧ (h.step (.poll branch j)).Waits id ∨
      Moved Stage.cutShort h (h.step (.poll branch j)) ∧
        (h.step (.poll branch j)).connection.Parted ∧ (h.step (.poll branch j)).asked = false := by
  obtain ⟨stage, hatt, hstage⟩ := hw
  have hg := Connection.goes_poll branch j h.connection
  obtain ⟨hasked, heq | ⟨old, new, hm, hnext⟩⟩ := hatt.goes hg hj
  · rw [step_poll_eq_self heq]
    exact Or.inl ⟨not_moved Stage.cutShort_self (.refl _), stage, hatt, hstage⟩
  · have hasked : (h.step (.poll branch j)).asked = h.asked := hasked
    rw [moved_poll Stage.cutShort_self hm, hasked]
    rcases hnext with ⟨hcut, hnext⟩ | ⟨hcut, hparted⟩
    · refine Or.inl ⟨by rw [hcut]; exact Bool.false_ne_true, stage, hnext, ?_⟩
      rwa [hasked]
    · refine Or.inr ⟨hcut, hparted, ?_⟩
      rcases hstage with ⟨-, hasked⟩ | ⟨rfl, -⟩
      · exact hasked
      · -- The close holds the half already, so no send is in the middle of writing.
        obtain ⟨hsends, -⟩ := Stage.cutShort_iff.mp hcut
        have hhead := hatt.coherent.writers.first id _ hatt.close rfl rfl
        exact absurd (hatt.coherent.writers.eq_of_midway hm.stage (Stage.writes_of_sends hsends)
          (Stage.midway_of_sends hsends) hhead) hj

end Waits

/-- **Until the close is done** it has asked for the shutdown, or a send is cut short. -/
theorem waits_run (ht : h.Tracked) (ha : h.Answered) (hr : h.connection.Refuses) (hw : h.Waits id)
    (events : List Event) : (∀ r, (id, r) ∉ (h.run events).replies) ∨
      ((h.run events).asked = true ↔ ¬ Passes Stage.cutShort h events) := by
  induction events generalizing h with
  | nil => exact Or.inl (hw.unanswered ha)
  | cons event events ih =>
    have htstep := ht.step event
    have hastep := ha.step ht event
    have hrstep := refuses_step ht ha hr event
    -- Nothing has happened to the half yet.
    have hwaits : ¬ Moved Stage.cutShort h (h.step event) → (h.step event).Waits id →
        (∀ r, (id, r) ∉ (h.run (event :: events)).replies) ∨
          ((h.run (event :: events)).asked = true ↔
            ¬ Passes Stage.cutShort h (event :: events)) := by
      intro hmoved hnext
      rw [passes_cons, or_iff_right hmoved]
      exact ih htstep hastep hrstep hnext
    rcases event.exists_poll_or with ⟨branch, j, rfl⟩ | hne
    · rcases eq_or_ne j id with rfl | hj
      · obtain ⟨hmoved, hnext | ⟨hparted, hasked⟩⟩ := hw.poll_self branch
        · exact hwaits hmoved hnext
        · obtain ⟨hend, hpasses⟩ := parted_run htstep hastep hrstep hparted events
          refine Or.inr (iff_of_true (hend.trans hasked) ?_)
          rw [passes_cons, not_or]
          exact ⟨hmoved, hpasses⟩
      · rcases hw.poll_other branch hj with ⟨hmoved, hnext⟩ | ⟨hmoved, hparted, hasked⟩
        · exact hwaits hmoved hnext
        · obtain ⟨hend, -⟩ := parted_run htstep hastep hrstep hparted events
          have hlost : (h.run (.poll branch j :: events)).asked = false := hend.trans hasked
          rw [hlost]
          exact Or.inr (iff_of_false Bool.false_ne_true (not_not_intro (.now hmoved)))
    · by_cases hcancel : event = .cancel id
      · subst hcancel
        exact Or.inl ((hw.givenUp ht ha).run htstep events).replies
      · have hu := undergoes_step hr hne
        refine hwaits (not_moved Stage.cutShort_self (hu.quiet ht.coherent)) ?_
        obtain ⟨stage, hatt, hstage⟩ := hw
        refine ⟨stage, hatt.undergoes hu htstep.coherent hcancel, ?_⟩
        rwa [asked_step hne]

/-! ### Closing -/

end History

/-- **Whether a close made now would be let in,** and would have to shut the session down. -/
def Connection.Closable (c : StreamConnection) : Prop :=
  c.life.closingLocally = false ∧ (c.life.phase = .established ∨ c.life.phase = .closing)

theorem Connection.Closable.beginClose? {c : StreamConnection} (hc : c.Closable) :
    c.life.beginClose? =
      some (true, { c.life with closingLocally := true, phase := .closing }) := by
  obtain ⟨hunclosed, hphase⟩ := hc
  rcases hphase with h | h <;> simp [Life.beginClose?, hunclosed, h]

namespace History

variable {h : History} {event : Event}

theorem open_run (capacity : Nat) (events : List Event)
    (hc : ((start capacity).run events).connection.life.closingLocally = false) :
    ((start capacity).run events).connection.Open ∧
      ((start capacity).run events).asked = false := by
  refine (run_induction (P := fun h => (h.Tracked ∧ h.Answered) ∧
    (h.connection.life.closingLocally = false → h.connection.Open ∧ h.asked = false))
    (fun h event ⟨⟨ht, ha⟩, hopen⟩ => ⟨⟨ht.step event, ha.step ht event⟩, fun hstep => ?_⟩)
    ⟨⟨tracked_start capacity, CallRecord.Answered.start _⟩, fun _ => ?_⟩ events).2 hc
  · have hunclosed : h.connection.life.closingLocally = false := by
      by_contra hclosing
      rw [Bool.not_eq_false] at hclosing
      have hturn := (turn_step ht ha event).closingLocally hclosing
      rw [CallRecord.chronicle, hstep] at hturn
      cases hturn
    obtain ⟨ho, hasked⟩ := hopen hunclosed
    have hclose : event ≠ .issue .close := by
      rintro rfl
      have hi := Connection.issued_issue h.connection .close
      rw [step_issue] at hstep
      dsimp only at hstep
      generalize (h.connection.issue .close).2 = b at hi hstep
      cases hi with
      | closeRefused hnone =>
        rcases Life.beginClose?_eq_none.mp hnone with hclosed | hclosing
        · exact ho.phase hclosed
        · exact absurd hclosing (by simp [hunclosed])
      | close hbegin => exact absurd (Life.beginClose?_eq_some hbegin).2.1 (by simpa using hstep)
    have habort : event ≠ .abort := by
      rintro rfl
      change h.connection.abort.life.closingLocally = false at hstep
      rw [Connection.life_abort, if_neg ho.phase] at hstep
      cases hstep
    refine ⟨ho.step hclose habort, ?_⟩
    rcases event.exists_poll_or with ⟨branch, id, rfl⟩ | hne
    · have hg := Connection.goes_poll branch id h.connection
      exact (hg.shutdownAsked fun hs => ho.transfers id hs.closes).trans hasked
    · exact (asked_step hne).trans hasked
  · exact ⟨Connection.open_ofCapacity capacity, rfl⟩

theorem waits_issue (ho : h.connection.Open) (hasked : h.asked = false)
    (hc : h.connection.Closable) : (h.step (.issue .close)).Waits h.connection.nextId ∧
      (h.step (.issue .close)).connection.Refuses := by
  have hnone : h.connection.stage? h.connection.nextId = none := ho.coherent.fresh _ (Nat.le_refl _)
  have heq : (h.step (.issue .close)).connection =
      { h.connection.enter (.closeQueued true) with
        life := { h.connection.life with closingLocally := true, phase := .closing }
        signalled := true
        writers := h.connection.writers ++ [h.connection.nextId] } := by
    simp [step_issue, Connection.issue, hc.beginClose?]
  have hs : (h.step (.issue .close)).connection.stage? =
      Function.update h.connection.stage? h.connection.nextId (some (.closeQueued true)) := by
    rw [heq]
    exact Connection.stage?_enter hnone
  have hcoherent : (h.step (.issue .close)).connection.Coherent :=
    ho.coherent.issued (Connection.issued_issue h.connection .close)
  constructor
  · refine ⟨_, ⟨hcoherent, Connection.stage?_self hs, rfl, ?_, fun j hj => ?_⟩,
      Or.inl ⟨rfl, ?_⟩⟩
    · rw [heq]
      exact ho.writer
    · obtain ⟨stage, hst, hcloses⟩ := hj
      by_contra hne
      rw [hs, Function.update_of_ne hne] at hst
      exact ho.transfers j ⟨stage, hst, hcloses⟩
    · exact (asked_step fun _ _ heq => by cases heq).trans hasked
  · rw [heq]
    exact ⟨Nat.one_lt_two, Life.beginClose?_eq_none.mpr (Or.inr rfl)⟩

/-- Once the signal is raised no send begins to write, so one that is cut short was writing
before. -/
theorem exists_sending_of_passes (hw : h.connection.Winding) {polls : List (Branch × Nat)}
    (hp : Passes Stage.cutShort h (polls.map fun (branch, id) => .poll branch id)) :
    ∃ id rest, h.connection.stage? id = some (.sending rest) := by
  induction polls generalizing h with
  | nil => exact absurd hp passes_nil
  | cons p polls ih =>
    rcases passes_cons.mp hp with ⟨id, old, new, hold, -, hcut⟩ | hlater
    · obtain ⟨hsends, -⟩ := Stage.cutShort_iff.mp hcut
      have hunheld := hw.unheld id old hold
      cases old with
      | sending rest => exact ⟨id, rest, hold⟩
      | sendHolding data => cases hunheld
      | _ => cases hsends
    · obtain ⟨id, rest, hs⟩ := ih (hw.poll p.1 p.2) hlater
      have hs : (h.connection.poll p.1 p.2).stage? id = some (.sending rest) := hs
      rcases hw.yields_poll p.1 p.2 with heq | ⟨old, new, hy⟩
      · exact ⟨id, rest, heq ▸ hs⟩
      · exact ⟨id, rest, (hy.stage?_of_ends hs (by rcases hy.ends <;> nofun)).2⟩

/-- A send that is in the middle of writing then cannot come to rest but by being cut short. -/
theorem passes_of_sending (hw : h.connection.Winding) {polls : List (Branch × Nat)}
    (hrest : (h.goOn polls).connection.Resting) {id : Nat} {rest : Bytes}
    (hs : h.connection.stage? id = some (.sending rest)) :
    Passes Stage.cutShort h (polls.map fun (branch, id) => .poll branch id) := by
  induction polls generalizing h with
  | nil => rcases hw.stage_of_resting hrest hs with ⟨r, heq⟩ | heq <;> cases heq
  | cons p polls ih =>
    rcases hw.yields_poll p.1 p.2 with heq | ⟨old, new, hy⟩
    · have hsame : (h.connection.poll p.1 p.2).stage? id = some (.sending rest) := by rw [heq, hs]
      exact .later (ih (hw.poll p.1 p.2) hrest hsame)
    · rcases eq_or_ne id p.2 with rfl | hid
      · refine .now ⟨p.2, old, new, hy.stage, Connection.stage?_self hy.stages, ?_⟩
        have hold := hy.stage
        rw [hs] at hold
        cases hold
        rcases hy.ends with _ | hcloses | hcloses
        · rfl
        · cases hcloses
        · cases hcloses
      · refine .later (ih (hw.poll p.1 p.2) hrest ?_)
        exact (congrFun hy.stages id).trans ((Function.update_of_ne hid ..).trans hs)

/-- Where calls are at rest before a close and after it, the sends that are cut short are those that
were in the middle of writing. -/
theorem passes_iff_sending (ho : h.connection.Open) (hrest : h.connection.Resting)
    {polls : List (Branch × Nat)}
    (hend : ((h.step (.issue .close)).goOn polls).connection.Resting) :
    Passes Stage.cutShort (h.step (.issue .close)) (polls.map fun (branch, id) => .poll branch id) ↔
      ∃ id rest, h.connection.stage? id = some (.sending rest) := by
  have hw : (h.step (.issue .close)).connection.Winding := (ho.issue_close hrest).1
  obtain ⟨new, hbegins, hs⟩ :=
    (Connection.issued_issue h.connection .close).eq_update ho.coherent
  have hs : (h.step (.issue .close)).connection.stage? = _ := hs
  constructor
  · intro hp
    obtain ⟨id, rest, hsending⟩ := exists_sending_of_passes hw hp
    refine ⟨id, rest, ?_⟩
    rcases eq_or_ne id h.connection.nextId with rfl | hid
    · rw [Connection.stage?_self hs] at hsending
      cases hsending
      cases hbegins
    · rwa [hs, Function.update_of_ne hid] at hsending
  · rintro ⟨id, rest, hsending⟩
    have hid : id ≠ h.connection.nextId := Nat.ne_of_lt (ho.coherent.lt_nextId hsending)
    exact passes_of_sending hw hend (by rw [hs, Function.update_of_ne hid, hsending])

theorem run_append (h : History) (events later : List Event) :
    h.run (events ++ later) = (h.run events).run later := List.foldl_append

theorem Rounds.exists_run {g : History} (hr : Rounds h g) : ∃ events, g = h.run events := by
  induction hr with
  | refl => exact ⟨[], rfl⟩
  | @next g k event _ hk ih =>
    obtain ⟨events, rfl⟩ := ih
    obtain ⟨polls, rfl, -⟩ := hk
    refine ⟨events ++ event :: polls.map fun (branch, id) => .poll branch id, ?_⟩
    rw [run_append]
    rfl

theorem asked_iff_of_done {capacity : Nat} (before after : List Event)
    (hc : ((start capacity).run before).connection.Closable)
    (hdone : (((start capacity).run before).connection.nextId, .done) ∈
      ((((start capacity).run before).step (.issue .close)).run after).replies) :
    ((((start capacity).run before).step (.issue .close)).run after).asked = true ↔
      ¬ Passes Stage.cutShort (((start capacity).run before).step (.issue .close)) after := by
  obtain ⟨ht, ha⟩ := tracked_run (tracked_start capacity) (CallRecord.Answered.start _) before
  obtain ⟨ho, hasked⟩ := open_run capacity before hc.1
  obtain ⟨hw, hr⟩ := waits_issue ho hasked hc
  rcases waits_run (ht.step _) (ha.step ht _) hr hw after with hnone | hiff
  · exact absurd hdone (hnone .done)
  · exact hiff

/-- **A close that is done has asked for the shutdown unless a send was cut short.** If calls are at
rest before the close and after it, this means unless a send was in the middle of writing. -/
theorem graceful_run (capacity : Nat) :
    (∀ before after, ((start capacity).run before).connection.Closable →
      (((start capacity).run before).connection.nextId, .done) ∈
        ((((start capacity).run before).step (.issue .close)).run after).replies →
      (((((start capacity).run before).step (.issue .close)).run after).asked = true ↔
        ¬ Passes Stage.cutShort (((start capacity).run before).step (.issue .close)) after)) ∧
    ∀ h g, Rounds (start capacity) h → Round (.issue .close) h g → h.connection.Closable →
      (h.connection.nextId, .done) ∈ g.replies →
      (g.asked = true ↔ ∀ id rest, h.connection.stage? id ≠ some (.sending rest)) := by
  refine ⟨asked_iff_of_done, fun h g hh hg hc hdone => ?_⟩
  obtain ⟨before, rfl⟩ := hh.exists_run
  obtain ⟨ho, -⟩ := open_run capacity before hc.1
  have hrest := hh.resting
  obtain ⟨polls, rfl, hend⟩ := hg
  have hiff := asked_iff_of_done before (polls.map fun (branch, id) => .poll branch id) hc
  rw [passes_iff_sending ho hrest hend] at hiff
  rw [round, goOn, hiff hdone]
  simp

/-- A receive waits. -/
def receiving : List Event := [.issue (.receive 8), .poll .transfer 0, .poll .transfer 0]

/-- A close ends it, and shuts the session down. -/
theorem graceful_run_receiving : ∃ g, Rounds (start 4) ((start 4).run receiving) ∧
    Round (.issue .close) ((start 4).run receiving) g ∧ (1, .done) ∈ g.replies ∧ g.asked = true ∧
      ¬ Passes Stage.cutShort (((start 4).run receiving).step (.issue .close))
        [.poll .signal 0, .poll .signal 1, .poll .signal 1] := by
  have hrounds : Rounds (start 4) ((start 4).run receiving) :=
    Rounds.refl.round (.issue (.receive 8)) [(.transfer, 0), (.transfer, 0)] (by rfl)
  have hround : Round (.issue .close) ((start 4).run receiving)
      (((start 4).run receiving).round (.issue .close)
        [(.signal, 0), (.signal, 1), (.signal, 1)]) := ⟨_, rfl, rfl⟩
  have hclosable : ((start 4).run receiving).connection.Closable := ⟨rfl, Or.inl rfl⟩
  have hdone : (1, .done) ∈ (((start 4).run receiving).round (.issue .close)
      [(.signal, 0), (.signal, 1), (.signal, 1)]).replies := by decide
  have hasked := ((graceful_run 4).2 _ _ hrounds hround hclosable hdone).mpr fun id rest hs => by
    have hcall : ⟨id, .sending rest⟩ ∈ [(⟨0, .receiving 8⟩ : Call)] :=
      Connection.exists_call hs
    cases List.mem_singleton.mp hcall
  exact ⟨_, hrounds, hround, hdone, hasked,
    ((graceful_run 4).1 receiving _ hclosable hdone).mp hasked⟩

/-- A send is in the middle of writing. A close ends it as well, but then the session goes without
having been shut down. -/
theorem graceful_run_sending : ¬ ∀ (capacity : Nat) (before after : List Event),
    ((start capacity).run before).connection.Closable →
      (((start capacity).run before).connection.nextId, .done) ∈
        ((((start capacity).run before).step (.issue .close)).run after).replies →
      ((((start capacity).run before).step (.issue .close)).run after).asked = true := by
  intro h
  have hasked := h 4 [.issue (.send [1, 2, 3, 4, 5, 6]), .poll .transfer 0, .poll .transfer 0]
    [.poll .signal 0, .poll .signal 1, .poll .signal 1] ⟨rfl, Or.inl rfl⟩ (by decide)
  exact absurd hasked (by decide)

end History

end Dialer
