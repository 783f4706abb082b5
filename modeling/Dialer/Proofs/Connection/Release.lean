import Dialer.Proofs.Connection.Winding

/-!
# Closing releases the session

A connection that winds down carries nothing more, and where calls come to rest every send and
receive that was waiting has ended with `CallError.closed`.

Shutting the writing half down may hang, and a close waits for that and heeds no signal. What an
abort at such a moment, or giving the close up, leaves behind is named by `History.DuringShutdown`.
Apart from that a connection at rest is closed exactly if its session was dropped
(`History.released_rounds`).
-/

namespace Dialer

namespace Life

variable {l : Life} {max : Nat}

theorem phase_of_refuseSend? (h : l.refuseSend? = none) : l.phase = .established := by
  unfold refuseSend? at h
  split at h
  · assumption
  all_goals cases h

theorem phase_of_refuseReceive? (h : l.refuseReceive? max = none) : l.phase = .established := by
  unfold refuseReceive? at h
  split_ifs at h
  all_goals
    split at h
    · assumption
    all_goals cases h

end Life

/-! ### Winding down at rest -/

namespace Connection

variable {b c : StreamConnection} {id : Nat} {stage : Stage} {request : Request} {event : Event}

theorem Issued.refused (hi : Issued c request b) (hphase : c.life.phase ≠ .established)
    (hclose : c.life.beginClose? = none) : ∃ r, b = c.enter (.replied r) := by
  cases hi with
  | sendRefused => exact ⟨_, rfl⟩
  | receiveRefused => exact ⟨_, rfl⟩
  | closeRefused => exact ⟨_, rfl⟩
  | send h => exact absurd (Life.phase_of_refuseSend? h) hphase
  | receive h => exact absurd (Life.phase_of_refuseReceive? h) hphase
  | close h =>
    rw [hclose] at h
    cases h

namespace Winding

/-- **All that is left at rest** are replies and a close that waits for the shutdown to end. -/
theorem stage_of_resting (hw : c.Winding) (hr : c.Resting) (hs : c.stage? id = some stage) :
    (∃ r, stage = .replied r) ∨ stage = .shuttingDown := by
  have hready := hr.ready hs
  have hclose : ∀ {j other}, c.stage? j = some other → other.closes = true →
      stage.closes = true → j = id := fun hj ho hc => hw.single _ _ ⟨_, hj, ho⟩ ⟨_, hs, hc⟩
  cases stage with
  | replied r => exact Or.inl ⟨r, rfl⟩
  | shuttingDown => exact Or.inr rfl
  | closeQueued graceful =>
    -- Whoever stands before the close is a close as well, or could go on.
    obtain ⟨j, other, hne, hj, hwrites⟩ := hw.coherent.writers.exists_before hs rfl
      (by simpa [Connection.ready, holdsWriter] using hready)
    have hother := hr.ready hj
    cases other with
    | sendQueued | sendHolding | sending => simp [Connection.ready, hw.signalled] at hother
    | closeQueued | shuttingDown => exact absurd (hclose hj rfl rfl) hne
    | _ => cases hwrites
  | closingReader =>
    obtain ⟨j, other, hne, hj, hreads⟩ := hw.coherent.readers.exists_before hs rfl
      (by simpa [Connection.ready, holdsReader] using hready)
    have hother := hr.ready hj
    cases other with
    | receiveQueued | receiveHolding | receiving =>
      simp [Connection.ready, hw.signalled] at hother
    | closingReader => exact absurd (hclose hj rfl rfl) hne
    | _ => cases hreads
  | _ => simp [Connection.ready, hw.signalled] at hready

theorem shuttingDown_of_closes (hw : c.Winding) (hr : c.Resting) (hc : c.Closes id) :
    c.stage? id = some .shuttingDown := by
  obtain ⟨stage, hs, hcloses⟩ := hc
  rcases hw.stage_of_resting hr hs with ⟨r, rfl⟩ | rfl
  · cases hcloses
  · exact hs

theorem closes_of_mem_writers (hw : c.Winding) (hr : c.Resting) (hmem : id ∈ c.writers) :
    c.Closes id := by
  obtain ⟨stage, hs, hwrites⟩ := (hw.coherent.writers.mem id).mp hmem
  rcases hw.stage_of_resting hr hs with ⟨r, rfl⟩ | rfl
  · cases hwrites
  · exact ⟨_, hs, rfl⟩

theorem readers_eq_nil (hw : c.Winding) (hr : c.Resting) : c.readers = [] := by
  refine List.eq_nil_iff_forall_not_mem.mpr fun id hmem => ?_
  obtain ⟨stage, hs, hreads⟩ := (hw.coherent.readers.mem id).mp hmem
  rcases hw.stage_of_resting hr hs with ⟨r, rfl⟩ | rfl <;> cases hreads

/-- **Every call that is made now is refused.** -/
theorem issued (hw : c.Winding) (hi : Issued c request b) : ∃ r, b = c.enter (.replied r) :=
  hi.refused hw.refuses.2 (Life.beginClose?_eq_none.mpr (Or.inr hw.closing))

end Winding

namespace Coherent

variable (hc : c.Coherent)

include hc

theorem stage?_of_enter {new : Stage} (hs : (c.enter new).stage? id = some stage)
    (hne : stage ≠ new) : c.stage? id = some stage := by
  have hstages : (c.enter new).stage? = _ := stage?_enter (hc.fresh _ (Nat.le_refl _))
  rcases eq_or_ne id c.nextId with rfl | hid
  · rw [stage?_self hstages] at hs
    exact absurd (Option.some.inj hs).symm hne
  · rwa [hstages, Function.update_of_ne hid] at hs

theorem stage?_enter_of_some {new : Stage} (hs : c.stage? id = some stage) :
    (c.enter new).stage? id = some stage := by
  have hid : id ≠ c.nextId := Nat.ne_of_lt (hc.lt_nextId hs)
  rwa [stage?_enter (hc.fresh _ (Nat.le_refl _)), Function.update_of_ne hid]

theorem closes_enter {r : Reply} : (c.enter (.replied r)).Closes id ↔ c.Closes id := by
  constructor
  · rintro ⟨stage, hs, hcloses⟩
    exact ⟨stage, hc.stage?_of_enter hs (by rintro rfl; cases hcloses), hcloses⟩
  · rintro ⟨stage, hs, hcloses⟩
    exact ⟨stage, hc.stage?_enter_of_some hs, hcloses⟩

end Coherent

/-- **What an operation does to a connection that refuses calls,** letting calls go on apart. -/
inductive Undergoes (c : StreamConnection) : Event → StreamConnection → Prop
  | refused {request : Request} {r : Reply} : Undergoes c (.issue request) (c.enter (.replied r))
  | cancelled {id : Nat} : Undergoes c (.cancel id) (c.cancel id)
  | aborted : Undergoes c .abort c.abort
  /-- Nothing, but to the wire. -/
  | still {event : Event} {wire : Wire} (ha : event ≠ .abort) (hc : ∀ id, event ≠ .cancel id) :
    Undergoes c event { c with wire }

theorem undergoes {h : History}
    (hrefuse : ∀ {request b}, Issued h.connection request b →
      ∃ r, b = h.connection.enter (.replied r))
    (hpoll : ∀ branch id, event = .poll branch id →
      h.connection.poll branch id = h.connection) :
    Undergoes h.connection event (h.step event).connection := by
  cases event using Event.operation_or_outside with
  | issue request =>
    obtain ⟨r, heq⟩ := hrefuse (issued_issue h.connection request)
    rw [History.step_issue, heq]
    exact .refused
  | poll branch id =>
    rw [History.step_poll, hpoll branch id rfl]
    exact .still nofun nofun
  | cancel id => exact .cancelled
  | abort => exact .aborted
  | outside event he =>
    obtain ⟨wire, taken, given, heq⟩ := h.exists_step_outside he
    rw [heq]
    exact .still (by rintro rfl; cases he) (by rintro _ rfl; cases he)

theorem Winding.undergoes {h : History} (hw : h.connection.Winding) (hr : h.connection.Resting)
    (event : Event) : Undergoes h.connection event (h.step event).connection :=
  Connection.undergoes hw.issued fun branch id _ => hr.poll branch id

namespace Winding

variable (hw : c.Winding)

include hw

theorem refuse {r : Reply} (hb : (c.enter (.replied r)).Coherent) :
    (c.enter (.replied r)).Winding := by
  have hnone : c.stage? c.nextId = none := hw.coherent.fresh _ (Nat.le_refl _)
  have hstages : (c.enter (.replied r)).stage? = _ := stage?_enter hnone
  have hold : ∀ {id stage}, (c.enter (.replied r)).stage? id = some stage →
      stage ≠ .replied r → c.stage? id = some stage :=
    fun hs hne => hw.coherent.stage?_of_enter hs hne
  have hcloses : ∀ {id}, (c.enter (.replied r)).Closes id ↔ c.Closes id :=
    hw.coherent.closes_enter
  exact {
    coherent := hb
    unheld := fun id stage hs => by
      by_cases heq : stage = .replied r
      · rw [heq]
        rfl
      · exact hw.unheld id stage (hold hs heq)
    sending := fun id rest hs => hw.sending id rest (hold hs nofun)
    receiving := fun id max hs => hw.receiving id max (hold hs nofun)
    shuttingDown := fun id hs => hw.shuttingDown id (hold hs nofun)
    closingReader := fun id hs => hw.closingReader id (hold hs nofun)
    writers := (hstages ▸ hw.writers.frame (hw.coherent.writers.not_mem (by rw [hnone]; nofun)) :
      Drains c.hasWriter c.writers _)
    readers := (hstages ▸ hw.readers.frame (hw.coherent.readers.not_mem (by rw [hnone]; nofun)) :
      Drains c.hasReader c.readers _)
    single := fun i j hi hj => hw.single i j (hcloses.mp hi) (hcloses.mp hj)
    signalled := hw.signalled
    closing := hw.closing
    refuses := hw.refuses
    ended := hw.ended.imp_right (Or.imp_left (Exists.imp fun _ => hcloses.mpr))
    reader := hw.reader }

theorem abort : c.abort.Winding := by
  by_cases hclosed : c.life.phase = .closed
  · rwa [Connection.abort, if_pos hclosed]
  · exact hw.toPoised.abort hclosed

variable (hr : c.Resting)

include hr

theorem onWire (wire : Wire) : Winding { c with wire } where
  coherent := hw.coherent.congr rfl rfl rfl rfl
  unheld := hw.unheld
  sending id rest hs := by rcases hw.stage_of_resting hr hs with ⟨r, h⟩ | h <;> cases h
  receiving id max hs := by rcases hw.stage_of_resting hr hs with ⟨r, h⟩ | h <;> cases h
  shuttingDown := hw.shuttingDown
  closingReader := hw.closingReader
  writers := hw.writers
  readers := hw.readers
  single := hw.single
  signalled := hw.signalled
  closing := hw.closing
  refuses := hw.refuses
  ended := hw.ended
  reader := hw.reader

/-- Giving a call up at rest: only the close that waits for the shutdown can be missed, and its half
is there still. -/
theorem cancel (id : Nat) : (c.cancel id).Winding := by
  have hstages : (c.cancel id).stage? = Function.update c.stage? id none := stage?_cancel
  have hold : ∀ {j stage}, (c.cancel id).stage? j = some stage →
      j ≠ id ∧ c.stage? j = some stage := by
    intro j stage hs
    rcases eq_or_ne j id with rfl | hj
    · rw [stage?_self hstages] at hs
      cases hs
    · exact ⟨hj, by rwa [hstages, Function.update_of_ne hj] at hs⟩
  have hmem : ∀ {j}, j ∈ (c.cancel id).writers → j ∈ c.writers ∧ j ≠ id := by
    intro j hj
    simpa [Connection.cancel, leave] using hj
  have hreaders : (c.cancel id).readers = [] := by
    simp [Connection.cancel, leave, hw.readers_eq_nil hr]
  exact {
    coherent := hw.coherent.cancel id
    unheld := fun j stage hs => hw.unheld j stage (hold hs).2
    sending := fun j rest hs => hw.sending j rest (hold hs).2
    receiving := fun j max hs => hw.receiving j max (hold hs).2
    shuttingDown := fun j hs => hw.shuttingDown j (hold hs).2
    closingReader := fun j hs => hw.closingReader j (hold hs).2
    writers := by
      intro _ j hj
      obtain ⟨hj, hne⟩ := hmem (List.mem_of_mem_head? hj)
      have hs := hw.shuttingDown_of_closes hr (hw.closes_of_mem_writers hr hj)
      exact ⟨_, by rw [hstages, Function.update_of_ne hne, hs], rfl⟩
    readers := by
      rw [hreaders]
      intro _ j hj
      cases hj
    single := by
      rintro i j ⟨s, hi, hsi⟩ ⟨t, hj, htj⟩
      exact hw.single i j ⟨s, (hold hi).2, hsi⟩ ⟨t, (hold hj).2, htj⟩
    signalled := hw.signalled
    closing := hw.closing
    refuses := hw.refuses
    ended := by
      rcases hw.ended with hclosed | ⟨j, hj⟩ | ⟨hhas, hnil⟩
      · exact Or.inl hclosed
      · have hs := hw.shuttingDown_of_closes hr hj
        rcases eq_or_ne j id with rfl | hne
        · refine Or.inr (Or.inr ⟨hw.shuttingDown j hs, ?_⟩)
          refine List.eq_nil_iff_forall_not_mem.mpr fun i hi => ?_
          obtain ⟨hi, hne⟩ := hmem hi
          exact hne (hw.single i j (hw.closes_of_mem_writers hr hi) hj)
        · exact Or.inr (Or.inl ⟨j, _, by rw [hstages, Function.update_of_ne hne, hs], rfl⟩)
      · refine Or.inr (Or.inr ⟨hhas, List.eq_nil_iff_forall_not_mem.mpr fun i hi => ?_⟩)
        rw [hnil] at hmem
        exact absurd (hmem hi).1 List.not_mem_nil
    reader := fun hclosed hhas => absurd (hw.readers_eq_nil hr) (hw.reader hclosed hhas) }

/-- **Whatever is done, the connection keeps winding down.** -/
theorem of_undergoes (hu : Undergoes c event b) (hb : b.Coherent) : b.Winding := by
  cases hu with
  | refused => exact hw.refuse hb
  | cancelled => exact hw.cancel hr _
  | aborted => exact hw.abort
  | still => exact hw.onWire hr _

end Winding

namespace Undergoes

variable (hu : Undergoes c event b)

include hu

theorem phase_eq_closed (hc : c.life.phase = .closed) : b.life.phase = .closed := by
  cases hu with
  | aborted =>
    rw [life_abort, if_pos hc]
    exact hc
  | _ => exact hc

theorem life_of_ne (hne : event ≠ .abort) : b.life = c.life := by
  cases hu with
  | aborted => exact absurd rfl hne
  | _ => rfl

theorem hasWriter (hb : b.hasWriter = true) : c.hasWriter = true := by
  cases hu with
  | aborted =>
    by_cases hclosed : c.life.phase = .closed
    · rwa [abort, if_pos hclosed] at hb
    · rw [hasWriter_abort hclosed, Bool.and_eq_true] at hb
      exact hb.1
  | _ => exact hb

theorem closes (hcoherent : c.Coherent) (hc : c.Closes id) (hne : event ≠ .cancel id) :
    b.Closes id := by
  cases hu with
  | refused => exact hcoherent.closes_enter.mpr hc
  | @cancelled j =>
    obtain ⟨stage, hs, hcloses⟩ := hc
    have hid : id ≠ j := by
      rintro rfl
      exact hne rfl
    exact ⟨stage, by rwa [stage?_cancel, Function.update_of_ne hid], hcloses⟩
  | aborted =>
    rw [Closes, stage?_congr (still_abort c).calls]
    exact hc
  | still => exact hc

end Undergoes

/-! ### Staying open -/

namespace Open

variable (ho : c.Open)

include ho

theorem update {new : Option Stage} (hb : b.Coherent)
    (hs : b.stage? = Function.update c.stage? id new)
    (hnew : ∀ stage, new = some stage → stage.closes = false)
    (hsignal : b.signalled = c.signalled) (hwriter : b.hasWriter = c.hasWriter)
    (hreader : b.hasReader = c.hasReader)
    (hclosing : b.life.closingLocally = c.life.closingLocally) (hphase : b.life.phase ≠ .closed) :
    b.Open where
  coherent := hb
  signalled := hsignal.trans ho.signalled
  writer := hwriter.trans ho.writer
  reader := hreader.trans ho.reader
  unclosed := hclosing.trans ho.unclosed
  phase := hphase
  transfers := by
    rintro j ⟨stage, hst, hcloses⟩
    rcases eq_or_ne j id with rfl | hj
    · rw [stage?_self hs] at hst
      rw [hnew stage hst] at hcloses
      cases hcloses
    · rw [hs, Function.update_of_ne hj] at hst
      exact ho.transfers j ⟨stage, hst, hcloses⟩

theorem issued (hi : Issued c request b) (hne : request ≠ .close) : b.Open := by
  obtain ⟨new, hbegins, hs⟩ := hi.eq_update ho.coherent
  have hb := ho.coherent.issued hi
  have hnew : ∀ stage, some new = some stage → stage.closes = false := by
    rintro stage ⟨⟩
    cases hbegins <;> first | rfl | exact absurd rfl hne
  cases hi with
  | closeRefused => exact absurd rfl hne
  | close => exact absurd rfl hne
  | _ => exact ho.update hb hs hnew rfl rfl rfl rfl ho.phase

theorem phase_fail : c.life.fail.phase ≠ .closed := by
  rcases c.life.phase_fail with h | h <;> rw [h]
  · exact ho.phase
  · nofun

theorem phase_endOfStream : c.life.endOfStream.phase ≠ .closed := by
  rcases c.life.phase_endOfStream with h | h <;> rw [h]
  · exact ho.phase
  · nofun

theorem goes (hg : Goes c id b) : b.Open := by
  have hb := ho.coherent.goes hg
  have hsignal : c.signalled ≠ true := by simp [ho.signalled]
  cases hg with
  | stays => exact ho
  | sendWoken _ hwhy => exact absurd (hwhy.resolve_right (by simp [ho.writer])) hsignal
  | receiveWoken _ hwhy => exact absurd (hwhy.resolve_right (by simp [ho.reader])) hsignal
  | sendTakes hs =>
    exact ho.update hb (stage?_setStage rfl hs) (by rintro _ ⟨⟩; rfl) rfl rfl rfl rfl ho.phase
  | receiveTakes hs =>
    exact ho.update hb (stage?_setStage rfl hs) (by rintro _ ⟨⟩; rfl) rfl rfl rfl rfl ho.phase
  | sendStopped _ hwhy => exact absurd hwhy hsignal
  | receiveStopped _ hwhy => exact absurd hwhy hsignal
  | sent hs =>
    obtain ⟨old, hold, -⟩ := hs.exists_stage
    exact ho.update hb (stage?_reply rfl hold) (by rintro _ ⟨⟩; rfl) rfl rfl rfl rfl ho.phase
  | sentInPart hs =>
    obtain ⟨old, hold, -⟩ := hs.exists_stage
    exact ho.update hb (stage?_setStage rfl hold) (by rintro _ ⟨⟩; rfl) rfl rfl rfl rfl ho.phase
  | sendFailed hs =>
    obtain ⟨old, hold, -⟩ := hs.exists_stage
    exact ho.update hb (stage?_reply rfl hold) (by rintro _ ⟨⟩; rfl) rfl rfl rfl
      (Life.closingLocally_fail _) ho.phase_fail
  | @received max bytes wire hs =>
    obtain ⟨old, hold, -⟩ := hs.exists_stage
    refine ho.update hb (stage?_reply rfl hold) (by rintro _ ⟨⟩; rfl) rfl rfl rfl ?_ ?_
    · cases bytes <;> rfl
    · cases bytes
      · exact ho.phase_endOfStream
      · exact ho.phase
  | receiveWaits hs =>
    obtain ⟨old, hold, -⟩ := hs.exists_stage
    exact ho.update hb (stage?_setStage rfl hold) (by rintro _ ⟨⟩; rfl) rfl rfl rfl rfl ho.phase
  | receiveFailed hs =>
    obtain ⟨old, hold, -⟩ := hs.exists_stage
    exact ho.update hb (stage?_reply rfl hold) (by rintro _ ⟨⟩; rfl) rfl rfl rfl
      (Life.closingLocally_fail _) ho.phase_fail
  | shutDown hs => exact absurd hs.closes (ho.transfers id)
  | shutdownHangs hs => exact absurd hs.closes (ho.transfers id)
  | shutdownSkipped h => exact absurd ⟨_, h, rfl⟩ (ho.transfers id)
  | closed h => exact absurd ⟨_, h, rfl⟩ (ho.transfers id)

theorem poll (branch : Branch) (id : Nat) : (c.poll branch id).Open :=
  ho.goes (goes_poll branch id c)

theorem onWire (wire : Wire) : Open { c with wire } :=
  ⟨ho.coherent.congr rfl rfl rfl rfl, ho.signalled, ho.writer, ho.reader, ho.unclosed, ho.phase,
    ho.transfers⟩

end Open

theorem Open.step {h : History} (ho : h.connection.Open) (hclose : event ≠ .issue .close)
    (habort : event ≠ .abort) : (h.step event).connection.Open := by
  cases event using Event.operation_or_outside with
  | issue request =>
    have hne : request ≠ .close := by
      rintro rfl
      exact hclose rfl
    rw [History.step_issue]
    exact ho.issued (issued_issue h.connection request) hne
  | poll branch id => exact ho.poll branch id
  | cancel id =>
    exact ho.update (ho.coherent.cancel id) stage?_cancel nofun rfl rfl rfl rfl ho.phase
  | abort => exact absurd rfl habort
  | outside event he =>
    obtain ⟨wire, taken, given, heq⟩ := h.exists_step_outside he
    rw [heq]
    exact ho.onWire wire

theorem Open.issue_close (ho : c.Open) (hr : c.Resting) :
    (c.issue .close).2.Winding ∧ (c.issue .close).2.Closes c.nextId ∧
      (c.issue .close).2.life.phase ≠ .closed := by
  have hi := issued_issue c .close
  generalize (c.issue .close).2 = b at hi
  cases hi with
  | closeRefused h =>
    rcases Life.beginClose?_eq_none.mp h with h | h
    · exact absurd h ho.phase
    · simp [ho.unclosed] at h
  | @close graceful life h =>
    refine ⟨ho.close hr h, ⟨.closeQueued graceful, ?_, rfl⟩, ?_⟩
    · exact stage?_self (stage?_enter (ho.coherent.fresh _ (Nat.le_refl _)))
    · rcases (Life.beginClose?_eq_some h).2.2.2 with hp | ⟨hp, -⟩
      · exact fun hclosed => by cases hp.symm.trans hclosed
      · exact fun hclosed => by cases hp.symm.trans hclosed

theorem Winding.not_open (hw : c.Winding) : ¬ c.Open := fun ho => by
  have hsignal := hw.signalled
  rw [ho.signalled] at hsignal
  cases hsignal

/-! ### Properties that last while calls go on -/

/-- The connection is closed, or a close is under way. -/
def Ending (c : StreamConnection) : Prop := c.life.phase = .closed ∨ ∃ id, c.Closes id

theorem Ending.at_rest (he : c.Ending) (hw : c.Winding) (hr : c.Resting) :
    c.life.phase = .closed ∨ ∃ id, c.stage? id = some .shuttingDown :=
  he.imp_right (Exists.imp fun _ => hw.shuttingDown_of_closes hr)

namespace Yields

variable {old new : Stage} (hy : Yields c id old new b)

include hy

/-- On a closed connection a writing half that is left has someone who drops it. -/
theorem writers_of_closed (hw : c.Winding)
    (hc : c.life.phase = .closed → c.hasWriter = true → c.writers ≠ [])
    (hclosed : b.life.phase = .closed) (hhas : b.hasWriter = true) : b.writers ≠ [] := by
  have hold := hy.hasWriter hhas
  refine hy.writers_ne_nil hhas (hc ?_ hold)
  have hlife := hy.life
  split_ifs at hlife with heq
  · rw [hw.closingReader id (heq ▸ hy.stage)] at hold
    cases hold
  · exact hlife ▸ hclosed

theorem ending (hc : c.Ending) : b.Ending := by
  rcases hc with hclosed | ⟨j, hj⟩
  · exact Or.inl (hy.phase_eq_closed hclosed)
  · exact (hy.closes_or_closed hj).elim (fun h => Or.inr ⟨j, h⟩) Or.inl

/-- The close that ends a connection has dropped the writing half before. -/
theorem hasWriter_of_closed (hw : c.Winding)
    (hc : c.life.phase = .closed → c.hasWriter = false) (hclosed : b.life.phase = .closed) :
    b.hasWriter = false := by
  refine Bool.eq_false_iff.mpr fun hhas => ?_
  have hold := hy.hasWriter hhas
  have hlife := hy.life
  split_ifs at hlife with heq
  · rw [hw.closingReader id (heq ▸ hy.stage)] at hold
    cases hold
  · rw [hc (hlife ▸ hclosed)] at hold
    cases hold

theorem refused {j : Nat}
    (hc : ∃ stage, c.stage? j = some stage ∧
      (stage.transfers = true ∨ stage = .replied (.refused .closed))) :
    ∃ stage, b.stage? j = some stage ∧
      (stage.transfers = true ∨ stage = .replied (.refused .closed)) := by
  obtain ⟨stage, hs, hstage⟩ := hc
  rcases eq_or_ne j id with rfl | hj
  · have hself := stage?_self hy.stages
    rw [hy.stage] at hs
    cases hs
    rcases hy.ends with ht | hcloses | hcloses | _
    · exact ⟨_, hself, Or.inr rfl⟩
    · rcases hstage with ht | rfl
      · simp [Stage.transfers_of_closes hcloses] at ht
      · cases hcloses
    · rcases hstage with ht | rfl
      · simp [Stage.transfers_of_closes hcloses] at ht
      · cases hcloses
    · rcases hstage with ht | h
      · cases ht
      · cases h
  · exact ⟨stage, by rwa [hy.stages, Function.update_of_ne hj], hstage⟩

end Yields

end Connection

/-! ### Rounds -/

namespace History

variable {h g : History} {capacity id : Nat} {event : Event}

/-- **While a close was waiting for the shutdown to end,** something was done. -/
def DuringShutdown (capacity id : Nat) (event : Event) (h : History) : Prop :=
  ∃ g k, Rounds (start capacity) g ∧ g.connection.stage? id = some .shuttingDown ∧
    Round event g k ∧ Rounds k h

theorem DuringShutdown.next {later : Event} (hd : DuringShutdown capacity id event h)
    (hr : Round later h g) : DuringShutdown capacity id event g := by
  obtain ⟨k, l, hk, hs, hround, hl⟩ := hd
  exact ⟨k, l, hk, hs, hround, hl.next hr⟩

/-- What lasts while calls go on on a connection that winds down. -/
theorem winding_goOn {P : StreamConnection → Prop}
    (hP : ∀ {c b id old new}, c.Winding → Connection.Yields c id old new b → P c → P b)
    (hw : h.connection.Winding) (h0 : P h.connection) (polls : List (Branch × Nat)) :
    (h.goOn polls).connection.Winding ∧ P (h.goOn polls).connection := by
  refine goOn_induction (P := fun h => h.connection.Winding ∧ P h.connection)
    (fun k branch id ⟨hk, hPk⟩ => ?_) ⟨hw, h0⟩ polls
  refine ⟨hk.poll branch id, ?_⟩
  rcases hk.yields_poll branch id with heq | ⟨old, new, hy⟩
  · rw [step_poll, heq]
    exact hPk
  · exact hP hk hy hPk

theorem open_goOn (ho : h.connection.Open) (polls : List (Branch × Nat)) :
    (h.goOn polls).connection.Open :=
  goOn_induction (P := fun h => h.connection.Open) (fun _ branch id hk => hk.poll branch id) ho
    polls

/-- What an operation and what follows make of a connection that winds down. -/
theorem Round.winding {P : StreamConnection → Prop} (hr : Round event h g) (ht : h.Tracked)
    (hw : h.connection.Winding) (hrest : h.connection.Resting)
    (h0 : ∀ {b}, Connection.Undergoes h.connection event b → P b)
    (hP : ∀ {c b id old new}, c.Winding → Connection.Yields c id old new b → P c → P b) :
    g.connection.Winding ∧ P g.connection := by
  obtain ⟨polls, rfl, -⟩ := hr
  have hu := hw.undergoes hrest event
  exact winding_goOn hP (hw.of_undergoes hrest hu (ht.step event).coherent) (h0 hu) polls

/-- **An open connection stays open in a round,** unless it is closed or aborted. -/
theorem Round.open (hr : Round event h g) (ho : h.connection.Open)
    (hclose : event ≠ .issue .close) (habort : event ≠ .abort) : g.connection.Open := by
  obtain ⟨polls, rfl, -⟩ := hr
  exact open_goOn (ho.step hclose habort) polls

theorem Round.abort {P : StreamConnection → Prop} (hr : Round .abort h g)
    (hp : h.connection.Poised) (hne : h.connection.life.phase ≠ .closed)
    (h0 : P h.connection.abort)
    (hP : ∀ {c b id old new}, c.Winding → Connection.Yields c id old new b → P c → P b) :
    g.connection.Winding ∧ P g.connection := by
  obtain ⟨polls, rfl, -⟩ := hr
  exact winding_goOn hP (hp.abort hne) h0 polls

theorem Round.close {P : StreamConnection → Prop} (hr : Round (.issue .close) h g)
    (ho : h.connection.Open) (hrest : h.connection.Resting)
    (h0 : P (h.connection.issue .close).2)
    (hP : ∀ {c b id old new}, c.Winding → Connection.Yields c id old new b → P c → P b) :
    g.connection.Winding ∧ P g.connection := by
  obtain ⟨polls, rfl, -⟩ := hr
  have hstep := step_issue h .close
  refine winding_goOn hP ?_ ?_ polls
  · rw [hstep]
    exact (ho.issue_close hrest).1
  · rw [hstep]
    exact h0

/-- **What holds wherever calls have come to rest.** -/
structure AtRest (capacity : Nat) (h : History) : Prop where
  rounds : Rounds (start capacity) h
  life : h.connection.Open ∨ h.connection.Winding
  /-- A writing half is left behind by an abort only, while a close shuts it down. -/
  kept : h.connection.life.phase = .closed → h.connection.hasWriter = true →
    ∃ id, DuringShutdown capacity id .abort h
  /-- A connection that winds down is closed in the end, if the close is not given up. -/
  ended : h.connection.Winding → h.connection.life.phase = .closed ∨
    (∃ id, h.connection.stage? id = some .shuttingDown) ∨
      ∃ id, DuringShutdown capacity id (.cancel id) h

theorem atRest_start (capacity : Nat) : (start capacity).AtRest capacity where
  rounds := .refl
  life := Or.inl (Connection.open_ofCapacity capacity)
  kept := nofun
  ended hw := absurd hw.signalled nofun

namespace AtRest

variable (ha : h.AtRest capacity)

include ha

theorem resting : h.connection.Resting := ha.rounds.resting

theorem tracked : h.Tracked := ha.rounds.tracked.1

theorem life_round (hr : Round event h g) : g.connection.Open ∨ g.connection.Winding := by
  have htrue : ∀ {c b : StreamConnection} {id old new}, c.Winding →
      Connection.Yields c id old new b → True → True := fun _ _ _ => trivial
  rcases ha.life with ho | hw
  · by_cases hclose : event = .issue .close
    · subst hclose
      exact Or.inr (hr.close ho ha.resting trivial htrue).1
    · by_cases habort : event = .abort
      · subst habort
        exact Or.inr (hr.abort (ho.poised ha.resting) ho.phase trivial htrue).1
      · exact Or.inl (hr.open ho hclose habort)
  · exact Or.inr (hr.winding ha.tracked hw ha.resting (fun _ => trivial) htrue).1

theorem poised : h.connection.Poised :=
  ha.life.elim (fun ho => ho.poised ha.resting) (·.toPoised)

/-- An abort leaves the writing half behind only to a close that shuts it down. -/
theorem exists_shuttingDown (hr : Round .abort h g)
    (hne : h.connection.life.phase ≠ .closed) (hclosed : g.connection.life.phase = .closed)
    (hhas : g.connection.hasWriter = true) :
    ∃ id, h.connection.stage? id = some .shuttingDown := by
  have hround := hr.abort (P := fun c => (c.life.phase = .closed → c.hasWriter = true →
      c.writers ≠ []) ∧ ∀ id, c.Closes id → h.connection.Closes id) ha.poised hne
    ⟨fun _ hhas => ?_, fun id hid => ?_⟩ fun hw hy hc =>
      ⟨hy.writers_of_closed hw hc.1, fun id hid => hc.2 id (hy.closes hid)⟩
  · obtain ⟨hw, hwriters, hcloses⟩ := hround
    obtain ⟨id, hid⟩ := List.exists_mem_of_ne_nil _ (hwriters hclosed hhas)
    have hid := hcloses id (hw.closes_of_mem_writers hr.resting hid)
    rcases ha.life with ho | hw
    · exact absurd hid (ho.transfers id)
    · exact ⟨id, hw.shuttingDown_of_closes ha.resting hid⟩
  · rw [Connection.hasWriter_abort hne, Bool.and_eq_true] at hhas
    rw [(Connection.still_abort h.connection).writers]
    simpa using hhas.2
  · rwa [Connection.Closes,
      Connection.stage?_congr (Connection.still_abort h.connection).calls] at hid

theorem duringShutdown (hr : Round event h g) (hs : h.connection.stage? id = some .shuttingDown) :
    DuringShutdown capacity id event g :=
  ⟨h, g, ha.rounds, hs, hr, .refl⟩

theorem kept_round (hr : Round event h g) (hclosed : g.connection.life.phase = .closed)
    (hhas : g.connection.hasWriter = true) :
    ∃ id, DuringShutdown capacity id .abort g := by
  by_cases hold : h.connection.life.phase = .closed
  · have hw : h.connection.Winding := ha.life.resolve_left fun ho => ho.phase hold
    have hhas := (hr.winding (P := fun c => c.hasWriter = true → h.connection.hasWriter = true)
      ha.tracked hw ha.resting (fun hu => hu.hasWriter)
      fun _ hy hc hb => hc (hy.hasWriter hb)).2 hhas
    obtain ⟨id, hd⟩ := ha.kept hold hhas
    exact ⟨id, hd.next hr⟩
  by_cases habort : event = .abort
  · subst habort
    obtain ⟨id, hs⟩ := ha.exists_shuttingDown hr hold hclosed hhas
    exact ⟨id, ha.duringShutdown hr hs⟩
  -- The connection was closed by a close that had dropped the writing half.
  have hdropped : g.connection.hasWriter = false := by
    rcases ha.life with ho | hw
    · by_cases hclose : event = .issue .close
      · subst hclose
        obtain ⟨-, -, hphase⟩ := ho.issue_close ha.resting
        exact (hr.close (P := fun c => c.life.phase = .closed → c.hasWriter = false) ho ha.resting
          (fun h => absurd h hphase) fun hw hy hc => hy.hasWriter_of_closed hw hc).2 hclosed
      · exact absurd hclosed (hr.open ho hclose habort).phase
    · exact (hr.winding (P := fun c => c.life.phase = .closed → c.hasWriter = false) ha.tracked hw
        ha.resting (fun hu hb => absurd (hu.life_of_ne habort ▸ hb) hold)
        fun hw hy hc => hy.hasWriter_of_closed hw hc).2 hclosed
  rw [hdropped] at hhas
  cases hhas

theorem ended_round (hr : Round event h g) (hw : g.connection.Winding) :
    g.connection.life.phase = .closed ∨
      (∃ id, g.connection.stage? id = some .shuttingDown) ∨
        ∃ id, DuringShutdown capacity id (.cancel id) g := by
  have hends : g.connection.Winding ∧ g.connection.Ending → g.connection.life.phase = .closed ∨
      (∃ id, g.connection.stage? id = some .shuttingDown) ∨
        ∃ id, DuringShutdown capacity id (.cancel id) g := fun h =>
    (h.2.at_rest h.1 hr.resting).imp_right Or.inl
  rcases ha.life with ho | hwinding
  · by_cases hclose : event = .issue .close
    · subst hclose
      exact hends (hr.close ho ha.resting (Or.inr ⟨_, (ho.issue_close ha.resting).2.1⟩)
        fun _ hy => hy.ending)
    by_cases habort : event = .abort
    · subst habort
      refine hends (hr.abort (ho.poised ha.resting) ho.phase (Or.inl ?_) fun _ hy => hy.ending)
      rw [Connection.life_abort, if_neg ho.phase]
      rfl
    · exact absurd (hr.open ho hclose habort) hw.not_open
  · have hwind := hr.winding (P := Connection.Ending) ha.tracked hwinding ha.resting
    rcases ha.ended hwinding with hclosed | ⟨id, hs⟩ | ⟨id, hd⟩
    · exact hends (hwind (fun hu => Or.inl (hu.phase_eq_closed hclosed)) fun _ hy => hy.ending)
    · by_cases hcancel : event = .cancel id
      · exact Or.inr (Or.inr ⟨id, ha.duringShutdown (hcancel ▸ hr) hs⟩)
      · exact hends (hwind (fun hu => Or.inr ⟨id, hu.closes hwinding.coherent ⟨_, hs, rfl⟩ hcancel⟩)
          fun _ hy => hy.ending)
    · exact Or.inr (Or.inr ⟨id, hd.next hr⟩)

/-- **A round ends at rest again.** -/
theorem round (hr : Round event h g) : g.AtRest capacity where
  rounds := ha.rounds.next hr
  life := ha.life_round hr
  kept := ha.kept_round hr
  ended := ha.ended_round hr

end AtRest

theorem atRest_rounds (hr : Rounds (start capacity) h) : h.AtRest capacity := by
  induction hr with
  | refl => exact atRest_start capacity
  | next _ hk ih => exact ih.round hk

/-! ### Closing and aborting -/

/-- **A close or abort has ended** the sends and receives that were waiting. -/
structure Released (capacity : Nat) (event : Event) (h g : History) : Prop where
  /-- Each of them has got `closed` as its reply. -/
  refused : ∀ id stage, h.connection.stage? id = some stage → stage.transfers = true →
    (id, .refused .closed) ∈ g.replies
  /-- Nothing is left waiting but a close whose shutdown hangs. -/
  ended : ∀ id stage, g.connection.stage? id = some stage →
    (∃ r, stage = .replied r) ∨
      stage = .shuttingDown ∧ g.connection.wire.shutdownHangs = true
  aborted : event = .abort → g.connection.life.phase = .closed
  closed : g.connection.life.phase = .closed ∨
    (∃ id, g.connection.stage? id = some .shuttingDown) ∨
      ∃ id, DuringShutdown capacity id (.cancel id) g

namespace AtRest

variable (ha : h.AtRest capacity)

include ha

theorem winding_round (hr : Round event h g) (he : event = .issue .close ∨ event = .abort) :
    g.connection.Winding := by
  have htrue : ∀ {c b : StreamConnection} {id old new}, c.Winding →
      Connection.Yields c id old new b → True → True := fun _ _ _ => trivial
  rcases ha.life with ho | hw
  · rcases he with rfl | rfl
    · exact (hr.close ho ha.resting trivial htrue).1
    · exact (hr.abort (ho.poised ha.resting) ho.phase trivial htrue).1
  · exact (hr.winding ha.tracked hw ha.resting (fun _ => trivial) htrue).1

theorem refused_round (hr : Round event h g) (he : event = .issue .close ∨ event = .abort)
    {stage : Stage} (hs : h.connection.stage? id = some stage) (ht : stage.transfers = true) :
    g.connection.stage? id = some (.replied (.refused .closed)) := by
  have hround : g.connection.Winding ∧ ∃ stage, g.connection.stage? id = some stage ∧
      (stage.transfers = true ∨ stage = .replied (.refused .closed)) := by
    rcases ha.life with ho | hw
    · rcases he with rfl | rfl
      · refine hr.close ho ha.resting ⟨stage, ?_, Or.inl ht⟩ fun _ hy hc => hy.refused hc
        obtain ⟨new, -, hstages⟩ := (Connection.issued_issue h.connection .close).eq_update
          ho.coherent
        have hid : id ≠ h.connection.nextId := Nat.ne_of_lt (ho.coherent.lt_nextId hs)
        rwa [hstages, Function.update_of_ne hid]
      · refine hr.abort (ho.poised ha.resting) ho.phase ⟨stage, ?_, Or.inl ht⟩
          fun _ hy hc => hy.refused hc
        rwa [Connection.stage?_congr (Connection.still_abort h.connection).calls]
    · rcases hw.stage_of_resting ha.resting hs with ⟨r, rfl⟩ | rfl <;> cases ht
  obtain ⟨hw, other, hother, hends⟩ := hround
  have hrest := hr.resting
  rcases hends with ht | rfl
  · rcases hw.stage_of_resting hrest hother with ⟨r, rfl⟩ | rfl <;> cases ht
  · exact hother

theorem released (hr : Round event h g) (he : event = .issue .close ∨ event = .abort) :
    Released capacity event h g := by
  have hg := ha.round hr
  have hw := ha.winding_round hr he
  refine ⟨fun id stage hs ht => hg.tracked.recorded id _ (ha.refused_round hr he hs ht), ?_, ?_,
    hg.ended hw⟩
  · intro id stage hs
    refine (hw.stage_of_resting hg.resting hs).imp_right fun heq => ⟨heq, ?_⟩
    subst heq
    simpa [Connection.ready] using hg.resting.ready hs
  · rintro rfl
    by_cases hclosed : h.connection.life.phase = .closed
    · have hwinding : h.connection.Winding := ha.life.resolve_left fun ho => ho.phase hclosed
      exact (hr.winding (P := fun c => c.life.phase = .closed) ha.tracked hwinding ha.resting
        (fun hu => hu.phase_eq_closed hclosed) fun _ hy hc => hy.phase_eq_closed hc).2
    · refine (hr.abort (P := fun c => c.life.phase = .closed) ha.poised hclosed ?_
        fun _ hy hc => hy.phase_eq_closed hc).2
      rw [Connection.life_abort, if_neg hclosed]
      rfl

theorem phase_of_released (hreleased : h.connection.released = true) :
    h.connection.life.phase = .closed := by
  have hwriter : h.connection.hasWriter ≠ true := by
    rw [Connection.released, Bool.and_eq_true, Bool.not_eq_true'] at hreleased
    simp [hreleased.1]
  rcases ha.life with ho | hw
  · exact absurd ho.writer hwriter
  · rcases hw.ended with hclosed | ⟨id, hid⟩ | ⟨hhas, -⟩
    · exact hclosed
    · exact absurd (hw.shuttingDown id (hw.shuttingDown_of_closes ha.resting hid)) hwriter
    · exact absurd hhas hwriter

theorem released_of_phase (hclosed : h.connection.life.phase = .closed) :
    h.connection.released = true ∨ ∃ id, DuringShutdown capacity id .abort h := by
  have hw : h.connection.Winding := ha.life.resolve_left fun ho => ho.phase hclosed
  have hreader : h.connection.hasReader ≠ true := fun hhas =>
    hw.reader hclosed hhas (hw.readers_eq_nil ha.resting)
  by_cases hhas : h.connection.hasWriter = true
  · exact Or.inr (ha.kept hclosed hhas)
  · refine Or.inl ?_
    rw [Connection.released]
    simp [hhas, hreader]

end AtRest

/-- **Closing and aborting release the session** wherever calls have come to rest, and what is done
there always comes to rest again. -/
theorem released_rounds (hr : Rounds (start capacity) h) :
    (h.connection.released = true → h.connection.life.phase = .closed) ∧
      (h.connection.life.phase = .closed →
        h.connection.released = true ∨ ∃ id, DuringShutdown capacity id .abort h) ∧
      (∀ event, ∃ g, Round event h g) ∧
      ∀ event g, event = .issue .close ∨ event = .abort → Round event h g →
        Released capacity event h g := by
  have ha := atRest_rounds hr
  exact ⟨ha.phase_of_released, ha.released_of_phase, exists_round ha.tracked hr.tracked.2,
    fun event g he hg => ha.released hg he⟩

/-- A send that is blocked, a send behind it, and a receive without data. -/
def waiting : History :=
  (((start 4).round (.issue (.send [1, 2, 3, 4, 5, 6])) [(.transfer, 0), (.transfer, 0)]).round
    (.issue (.send [7])) []).round (.issue (.receive 8)) [(.transfer, 2), (.transfer, 2)]

theorem rounds_waiting : Rounds (start 4) waiting :=
  ((Rounds.refl.round _ _ (by rfl)).round _ _ (by rfl)).round _ _ (by rfl)

theorem released_rounds_waiting : ∃ g, Round (.issue .close) waiting g ∧
    Released 4 (.issue .close) waiting g ∧ g.connection.released = true := by
  have hround : Round (.issue .close) waiting (waiting.round (.issue .close)
      [(.transfer, 1), (.signal, 2), (.signal, 0), (.signal, 3), (.signal, 3)]) := ⟨_, rfl, rfl⟩
  exact ⟨_, hround, (released_rounds rounds_waiting).2.2.2 _ _ (Or.inl rfl) hround, rfl⟩

/-- A receive waits for data, and shutting down will hang. -/
def hanging : History :=
  ((start 4).round (.hangShutdown true) []).round (.issue (.receive 8))
    [(.transfer, 0), (.transfer, 0)]

theorem rounds_hanging : Rounds (start 4) hanging :=
  (Rounds.refl.round _ _ (by rfl)).round _ _ (by rfl)

/-- A close whose shutdown hangs ends the receive and leaves the connection closing. An abort then
leaves a half of the session there. -/
theorem released_rounds_hanging : ∃ g k, Rounds (start 4) hanging ∧
    Round (.issue .close) hanging g ∧ Round .abort g k ∧ (0, .refused .closed) ∈ g.replies ∧
      g.connection.life.phase = .closing ∧ k.connection.life.phase = .closed ∧
        k.connection.released = false :=
  ⟨hanging.round (.issue .close) [(.signal, 0), (.signal, 1)], _, rounds_hanging, ⟨_, rfl, rfl⟩,
    ⟨[], rfl, rfl⟩, by decide, rfl, rfl, rfl⟩

end History

end Dialer
