import Dialer.Proofs.Connection.Release

/-!
# What an abort leaves behind

An abort drops a half of the session at once if no call holds it or waits for it. A half that a call
uses is left to that call, and the call lets go of it if it heeds the signal (`Stage.letsGo`). A
call that could finish its transfer just as well may do that instead: then it ends as if there had
been no abort, and its half stays.

* `History.Passes`: somewhere along some events a call comes from one stage to another.
* `History.aborted_run`: a half is gone exactly if it was gone, or nobody used it, or a call has let
  go of it since. What is left when no call waits any more is left for good.
-/

namespace Dialer

/-! ### Letting go -/

namespace Stage

/-- **Whether a call lets go of a half** by coming from one stage to another: a close is done with
it, or a send or receive that was using it heeds the signal. -/
def letsGo (uses : Stage → Bool) (old new : Stage) : Bool :=
  uses old && (old.closes && !uses new || old.midway && new == .replied (.refused .closed))

variable {uses : Stage → Bool} {old new : Stage}

@[simp]
theorem letsGo_self (uses : Stage → Bool) (stage : Stage) : letsGo uses stage stage = false := by
  cases stage <;> simp [letsGo, closes, midway]

theorem letsGo_of_unused (hu : uses old = false) : letsGo uses old new = false := by
  simp [letsGo, hu]

/-- A send or receive that ends otherwise keeps what it holds. -/
theorem letsGo_of_ne (hc : old.closes = false) (hnew : new ≠ .replied (.refused .closed)) :
    letsGo uses old new = false := by
  simp [letsGo, hc, hnew]

end Stage

namespace Connection

variable {b c : StreamConnection} {id : Nat} {old new : Stage}

/-- **What a call that goes on does to the halves.** -/
structure Moves (c : StreamConnection) (id : Nat) (old new : Stage) (b : StreamConnection) :
    Prop where
  stage : c.stage? id = some old
  stages : b.stage? = Function.update c.stage? id (some new)
  writer : b.hasWriter = (c.hasWriter && !Stage.letsGo Stage.writes old new)
  reader : b.hasReader = (c.hasReader && !Stage.letsGo Stage.reads old new)
  /-- Who uses the writing half then was midway through using it, or finds it there. -/
  uses : new.writes = true → c.hasWriter = true ∨ old.writes = true ∧ old.midway = true
  closes : new.closes = true → old.closes = true

/-- A call that waits for its half and finds the signal raised, or the half gone. -/
theorem moves_woken (hs : c.stage? id = some old) (hm : old.midway = false)
    (hc : old.closes = false) :
    Moves c id old (.replied (.refused .closed)) (c.reply id (.refused .closed)) where
  stage := hs
  stages := stage?_reply rfl hs
  writer := by simp [reply, leave, setStage, Stage.letsGo, hm, hc]
  reader := by simp [reply, leave, setStage, Stage.letsGo, hm, hc]
  uses := nofun
  closes := nofun

/-- A send or receive that does not heed the signal. -/
theorem moves_of_transfers (hs : c.stage? id = some old) (ht : old.transfers = true)
    (hb : b.stage? = Function.update c.stage? id (some new))
    (hw : b.hasWriter = c.hasWriter) (hr : b.hasReader = c.hasReader)
    (hnew : new ≠ .replied (.refused .closed))
    (hcloses : new.closes = false)
    (huses : new.writes = true → c.hasWriter = true ∨ old.writes = true ∧ old.midway = true) :
    ∃ old new, Moves c id old new b := by
  have hc : old.closes = false := by cases old <;> first | rfl | cases ht
  have hlets : ∀ uses, Stage.letsGo uses old new = false := fun _ => Stage.letsGo_of_ne hc hnew
  exact ⟨old, new, hs, hb, by simp [hw, hlets], by simp [hr, hlets], huses, by simp [hcloses]⟩

theorem Sends.exists_transfers {rest : Bytes} (h : c.Sends id rest) :
    ∃ old, c.stage? id = some old ∧ old.transfers = true ∧ old.writes = true ∧
      old.midway = true := by
  rcases h with h | h <;> exact ⟨_, h, rfl, rfl, rfl⟩

theorem Receives.exists_transfers {max : Nat} (h : c.Receives id max) :
    ∃ old, c.stage? id = some old ∧ old.transfers = true := by
  rcases h with h | h <;> exact ⟨_, h, rfl⟩

/-- A send that holds the writing half heeds the signal. -/
theorem moves_sendStopped {wire : Wire} (hs : c.stage? id = some old) (hwrites : old.writes = true)
    (hm : old.midway = true) :
    Moves c id old (.replied (.refused .closed)) (stopSend { c with wire } id) where
  stage := hs
  stages := stage?_reply ((stage?_dropWriter (c := { c with wire })).trans rfl) hs
  writer := by
    have hlets : Stage.letsGo Stage.writes old (.replied (.refused .closed)) = true := by
      simp [Stage.letsGo, hwrites, hm]
    simp [stopSend, dropWriter_eq, reply, leave, setStage, hlets]
  reader := by
    have hlets : ∀ new, Stage.letsGo Stage.reads old new = false := fun _ =>
      Stage.letsGo_of_unused (Stage.reads_of_writes hwrites)
    simp [stopSend, dropWriter_eq, reply, leave, setStage, hlets]
  uses := nofun
  closes := nofun

theorem moves_receiveStopped {wire : Wire} (hs : c.stage? id = some old)
    (hreads : old.reads = true) (hm : old.midway = true) :
    Moves c id old (.replied (.refused .closed)) (stopReceive { c with wire } id) where
  stage := hs
  stages := stage?_reply ((stage?_dropReader (c := { c with wire })).trans rfl) hs
  writer := by
    have hlets : ∀ new, Stage.letsGo Stage.writes old new = false := fun _ =>
      Stage.letsGo_of_unused (Stage.writes_of_reads hreads)
    simp [stopReceive, dropReader_eq, reply, leave, setStage, hlets]
  reader := by
    have hlets : Stage.letsGo Stage.reads old (.replied (.refused .closed)) = true := by
      simp [Stage.letsGo, hreads, hm]
    simp [stopReceive, dropReader_eq, reply, leave, setStage, hlets]
  uses := nofun
  closes := nofun

/-- A close is done with the writing half. -/
theorem moves_closeWriter {wire : Wire} (hs : c.stage? id = some old) (hc : old.closes = true)
    (hw : old.writes = true) : Moves c id old .closingReader ({ c with wire }.closeWriter id) where
  stage := hs
  stages := stage?_closeWriter (b := { c with wire }) rfl hs
  writer := by
    have hlets : Stage.letsGo Stage.writes old .closingReader = true := by
      rw [Stage.letsGo, hw, hc]
      rfl
    simp [closeWriter, dropWriter_eq, setStage, hlets]
  reader := by
    have hlets : Stage.letsGo Stage.reads old .closingReader = false := by
      simp [Stage.letsGo, Stage.reads]
    simp [closeWriter, dropWriter_eq, setStage, leave, hlets]
  uses := nofun
  closes _ := hc

/-- A close has asked for the writing half to be shut down, and waits. -/
theorem moves_shuttingDown {wire : Wire} (hs : c.stage? id = some old) (hc : old.closes = true)
    (hw : old.writes = true) (hhas : c.hasWriter = true ∨ old.midway = true) :
    Moves c id old .shuttingDown ({ c with wire }.setStage id .shuttingDown) where
  stage := hs
  stages := stage?_setStage rfl hs
  writer := by
    have hlets : Stage.letsGo Stage.writes old .shuttingDown = false := by
      simp [Stage.letsGo, Stage.writes]
    simp [setStage, hlets]
  reader := by
    have hr : old.reads = false := Stage.reads_of_writes hw
    simp [setStage, Stage.letsGo_of_unused hr]
  uses _ := hhas.imp_right fun hm => ⟨hw, hm⟩
  closes _ := hc

theorem Goes.moves (h : Goes c id b) : b = c ∨ ∃ old new, Moves c id old new b := by
  cases h with
  | stays => exact Or.inl rfl
  | sendWoken hs => exact Or.inr ⟨_, _, moves_woken hs rfl rfl⟩
  | receiveWoken hs => exact Or.inr ⟨_, _, moves_woken hs rfl rfl⟩
  | sendTakes hs _ hw =>
    exact Or.inr (moves_of_transfers hs rfl (stage?_setStage rfl hs) rfl rfl nofun rfl
      fun _ => Or.inl hw)
  | receiveTakes hs =>
    exact Or.inr (moves_of_transfers hs rfl (stage?_setStage rfl hs) rfl rfl nofun rfl nofun)
  | @sendStopped rest wire hs =>
    obtain ⟨old, hold, hwrites, -, hm⟩ := hs.exists_stage
    exact Or.inr ⟨_, _, moves_sendStopped hold hwrites hm⟩
  | @receiveStopped max wire hs =>
    obtain ⟨old, hold, -, hreads, hm⟩ := hs.exists_stage
    exact Or.inr ⟨_, _, moves_receiveStopped hold hreads hm⟩
  | sent hs =>
    obtain ⟨old, hold, ht, -⟩ := hs.exists_transfers
    exact Or.inr (moves_of_transfers hold ht (stage?_reply rfl hold) rfl rfl nofun rfl nofun)
  | sentInPart hs =>
    obtain ⟨old, hold, ht, hwrites, hm⟩ := hs.exists_transfers
    exact Or.inr (moves_of_transfers hold ht (stage?_setStage rfl hold) rfl rfl nofun rfl
      fun _ => Or.inr ⟨hwrites, hm⟩)
  | sendFailed hs =>
    obtain ⟨old, hold, ht, -⟩ := hs.exists_transfers
    exact Or.inr (moves_of_transfers hold ht (stage?_reply rfl hold) rfl rfl nofun rfl nofun)
  | received hs =>
    obtain ⟨old, hold, ht⟩ := hs.exists_transfers
    exact Or.inr (moves_of_transfers hold ht (stage?_reply rfl hold) rfl rfl nofun rfl nofun)
  | receiveWaits hs =>
    obtain ⟨old, hold, ht⟩ := hs.exists_transfers
    exact Or.inr (moves_of_transfers hold ht (stage?_setStage rfl hold) rfl rfl nofun rfl nofun)
  | receiveFailed hs =>
    obtain ⟨old, hold, ht⟩ := hs.exists_transfers
    exact Or.inr (moves_of_transfers hold ht (stage?_reply rfl hold) rfl rfl nofun rfl nofun)
  | shutDown hs =>
    obtain ⟨old, hold, hc, hw⟩ := hs.exists_closes
    exact Or.inr ⟨_, _, moves_closeWriter hold hc hw⟩
  | shutdownHangs hs =>
    rcases hs with ⟨hs, -, hw⟩ | hs
    · exact Or.inr ⟨_, _, moves_shuttingDown hs rfl rfl (Or.inl hw)⟩
    · exact Or.inr ⟨_, _, moves_shuttingDown hs rfl rfl (Or.inr rfl)⟩
  | shutdownSkipped hs => exact Or.inr ⟨_, _, moves_closeWriter hs rfl rfl⟩
  | closed hs =>
    refine Or.inr ⟨_, _, hs, stage?_reply (b := { c.dropReader with
      life := c.dropReader.life.finish }) stage?_dropReader hs, ?_, ?_, nofun, nofun⟩
    · rw [dropReader_eq]
      exact (Bool.and_true _).symm
    · rw [dropReader_eq]
      exact (Bool.and_false _).symm

/-- Every call has its reply. -/
def Idle (c : StreamConnection) : Prop :=
  ∀ id stage, c.stage? id = some stage → ∃ r, stage = .replied r

theorem idle_of_calls (h : ∀ call ∈ c.calls, ∃ r, call.stage = .replied r) : c.Idle :=
  fun _ _ hs => h _ (exists_call hs)

/-- **No call goes on,** though some may be given up or refused. -/
def Quiet (c b : StreamConnection) : Prop :=
  ∀ id new, b.stage? id = some new → c.stage? id = some new ∨
    c.stage? id = none ∧ ∃ r, new = .replied r

theorem Quiet.refl (c : StreamConnection) : Quiet c c := fun _ _ hnew => Or.inl hnew

theorem Quiet.idle (h : Quiet c b) (hc : c.Idle) : b.Idle := by
  intro id new hnew
  rcases h id new hnew with hold | ⟨-, hr⟩
  · exact hc id new hold
  · exact hr

theorem Undergoes.quiet {event : Event} (hu : Undergoes c event b) (hc : c.Coherent) :
    Quiet c b := by
  intro id new hnew
  cases hu with
  | refused =>
    have hnone : c.stage? c.nextId = none := hc.fresh _ (Nat.le_refl _)
    rw [stage?_enter hnone] at hnew
    rcases eq_or_ne id c.nextId with rfl | hid
    · rw [Function.update_self] at hnew
      cases hnew
      exact Or.inr ⟨hnone, _, rfl⟩
    · rw [Function.update_of_ne hid] at hnew
      exact Or.inl hnew
  | @cancelled j =>
    rw [stage?_cancel] at hnew
    rcases eq_or_ne id j with rfl | hj
    · rw [Function.update_self] at hnew
      cases hnew
    · rw [Function.update_of_ne hj] at hnew
      exact Or.inl hnew
  | aborted =>
    rw [stage?_congr (still_abort c).calls] at hnew
    exact Or.inl hnew
  | still => exact Or.inl hnew

/-- **A connection that lets no call in any more.** -/
structure Refuses (c : StreamConnection) : Prop where
  rank : Phase.established.rank < c.life.phase.rank
  close : c.life.beginClose? = none

theorem Refuses.issued (hr : c.Refuses) {request : Request} (hi : Issued c request b) :
    ∃ r, b = c.enter (.replied r) := by
  refine hi.refused (fun hphase => ?_) hr.close
  have hrank := hr.rank
  rw [hphase] at hrank
  exact Nat.lt_irrefl _ hrank

theorem refuses_of_closed (hc : c.life.phase = .closed) : c.Refuses :=
  ⟨by rw [hc]; decide, Life.beginClose?_eq_none.mpr (Or.inl hc)⟩

end Connection

/-! ### Along a history -/

namespace History

variable {h g : History} {event : Event} {events : List Event} {moves : Stage → Stage → Bool}

/-- A call has come from one stage to another. -/
def Moved (moves : Stage → Stage → Bool) (h g : History) : Prop :=
  ∃ id old new, h.connection.stage? id = some old ∧ g.connection.stage? id = some new ∧
    moves old new = true

/-- **Somewhere along the events** a call comes from one stage to another. -/
inductive Passes (moves : Stage → Stage → Bool) : History → List Event → Prop
  | now {h : History} {event : Event} {events : List Event} (hm : Moved moves h (h.step event)) :
    Passes moves h (event :: events)
  | later {h : History} {event : Event} {events : List Event}
    (hp : Passes moves (h.step event) events) : Passes moves h (event :: events)

@[simp]
theorem passes_nil : ¬ Passes moves h [] := nofun

theorem passes_cons : Passes moves h (event :: events) ↔
    Moved moves h (h.step event) ∨ Passes moves (h.step event) events := by
  constructor
  · rintro (hm | hp)
    · exact Or.inl hm
    · exact Or.inr hp
  · rintro (hm | hp)
    · exact .now hm
    · exact .later hp

theorem not_moved (hself : ∀ stage, moves stage stage = false)
    (hq : Connection.Quiet h.connection g.connection) : ¬ Moved moves h g := by
  rintro ⟨id, old, new, hold, hnew, hm⟩
  rcases hq id new hnew with hsame | ⟨hnone, -⟩
  · rw [hold] at hsame
    cases hsame
    rw [hself old] at hm
    cases hm
  · rw [hold] at hnone
    cases hnone

/-- Where one call goes on, that one has moved or none. -/
theorem moved_poll {branch : Branch} {id : Nat} {old new : Stage}
    (hself : ∀ stage, moves stage stage = false)
    (hm : Connection.Moves h.connection id old new (h.connection.poll branch id)) :
    Moved moves h (h.step (.poll branch id)) ↔ moves old new = true := by
  constructor
  · rintro ⟨j, other, next, hold, hnew, hmoves⟩
    rw [step_poll, hm.stages] at hnew
    rcases eq_or_ne j id with rfl | hj
    · rw [Function.update_self] at hnew
      rw [hm.stage] at hold
      cases hold
      cases hnew
      exact hmoves
    · rw [Function.update_of_ne hj, hold] at hnew
      cases hnew
      rw [hself other] at hmoves
      cases hmoves
  · exact fun hmoves => ⟨id, old, new, hm.stage, Connection.stage?_self hm.stages, hmoves⟩

theorem refuses_step (ht : h.Tracked) (ha : h.Answered) (hr : h.connection.Refuses)
    (event : Event) : (h.step event).connection.Refuses where
  rank := Nat.lt_of_lt_of_le hr.rank (turn_step ht ha event).rank_le
  close := (turn_step ht ha event).beginClose?_eq_none hr.close

theorem undergoes_step (hr : h.connection.Refuses) (hpoll : ∀ branch id, event ≠ .poll branch id) :
    Connection.Undergoes h.connection event (h.step event).connection :=
  Connection.undergoes hr.issued fun branch id heq => absurd heq (hpoll branch id)

/-- **Which halves are gone after some events:** those that were gone, and those that a call has let
go of. -/
structure Sheds (h g : History) (writer reader : Prop) : Prop where
  writer : g.connection.hasWriter = false ↔ h.connection.hasWriter = false ∨ writer
  reader : g.connection.hasReader = false ↔ h.connection.hasReader = false ∨ reader

/-- On a closed connection nothing but a call that goes on touches the halves. -/
theorem halves_of_closed (hclosed : h.connection.life.phase = .closed)
    (hpoll : ∀ branch id, event ≠ .poll branch id) :
    (h.step event).connection.hasWriter = h.connection.hasWriter ∧
      (h.step event).connection.hasReader = h.connection.hasReader := by
  have hu := undergoes_step (Connection.refuses_of_closed hclosed) hpoll
  generalize (h.step event).connection = b at hu
  cases hu with
  | aborted =>
    have hsame : h.connection.abort = h.connection := if_pos hclosed
    rw [hsame]
    exact ⟨rfl, rfl⟩
  | _ => exact ⟨rfl, rfl⟩

theorem sheds_poll (h : History) (branch : Branch) (id : Nat) :
    Sheds h (h.step (.poll branch id))
      (Moved (Stage.letsGo Stage.writes) h (h.step (.poll branch id)))
      (Moved (Stage.letsGo Stage.reads) h (h.step (.poll branch id))) := by
  rcases (Connection.goes_poll branch id h.connection).moves with heq | ⟨old, new, hm⟩
  · have hmoved : ∀ uses, ¬ Moved (Stage.letsGo uses) h (h.step (.poll branch id)) := fun uses =>
      not_moved (Stage.letsGo_self uses) (by rw [step_poll, heq]; exact .refl _)
    rw [step_poll_eq_self heq] at hmoved ⊢
    exact ⟨by simp [hmoved], by simp [hmoved]⟩
  · have hw : (h.step (.poll branch id)).connection.hasWriter = _ := hm.writer
    have hr : (h.step (.poll branch id)).connection.hasReader = _ := hm.reader
    rw [moved_poll (Stage.letsGo_self _) hm, moved_poll (Stage.letsGo_self _) hm]
    refine ⟨?_, ?_⟩
    · rw [hw, Bool.and_eq_false_iff, Bool.not_eq_false']
    · rw [hr, Bool.and_eq_false_iff, Bool.not_eq_false']

theorem sheds_step (hc : h.connection.Coherent) (hclosed : h.connection.life.phase = .closed)
    (event : Event) :
    Sheds h (h.step event) (Moved (Stage.letsGo Stage.writes) h (h.step event))
      (Moved (Stage.letsGo Stage.reads) h (h.step event)) := by
  rcases event.exists_poll_or with ⟨branch, id, rfl⟩ | hne
  · exact sheds_poll h branch id
  · obtain ⟨hw, hr⟩ := halves_of_closed hclosed hne
    have hquiet := (undergoes_step (Connection.refuses_of_closed hclosed) hne).quiet hc
    have hmoved : ∀ uses, ¬ Moved (Stage.letsGo uses) h (h.step event) := fun uses =>
      not_moved (Stage.letsGo_self uses) hquiet
    exact ⟨by simp [hw, hmoved], by simp [hr, hmoved]⟩

theorem tracked_run (ht : h.Tracked) (ha : h.Answered) (events : List Event) :
    (h.run events).Tracked ∧ (h.run events).Answered :=
  run_induction (P := fun h => h.Tracked ∧ h.Answered)
    (fun _ event h => ⟨h.1.step event, h.2.step h.1 event⟩) ⟨ht, ha⟩ events

/-- A closed connection stays closed, and its calls let go of its halves. -/
theorem sheds_run (ht : h.Tracked) (ha : h.Answered) (hclosed : h.connection.life.phase = .closed)
    (events : List Event) : (h.run events).connection.life.phase = .closed ∧
      Sheds h (h.run events) (Passes (Stage.letsGo Stage.writes) h events)
        (Passes (Stage.letsGo Stage.reads) h events) := by
  induction events generalizing h with
  | nil => exact ⟨hclosed, ⟨by simp [run], by simp [run]⟩⟩
  | cons event events ih =>
    have hstays : (h.step event).connection.life.phase = .closed :=
      (turn_step ht ha event).phase_eq_closed hclosed
    have hstep := sheds_step ht.coherent hclosed event
    obtain ⟨hend, hrest⟩ := ih (ht.step event) (ha.step ht event) hstays
    refine ⟨hend, ⟨?_, ?_⟩⟩
    · rw [passes_cons, ← or_assoc, ← hstep.writer]
      exact hrest.writer
    · rw [passes_cons, ← or_assoc, ← hstep.reader]
      exact hrest.reader

/-- Once every call has its reply, a closed connection keeps the halves it has. -/
theorem halves_of_idle (ht : h.Tracked) (ha : h.Answered)
    (hclosed : h.connection.life.phase = .closed) (hidle : h.connection.Idle)
    (events : List Event) : (h.run events).connection.hasWriter = h.connection.hasWriter ∧
      (h.run events).connection.hasReader = h.connection.hasReader := by
  induction events generalizing h with
  | nil => exact ⟨rfl, rfl⟩
  | cons event events ih =>
    have hstep : (h.step event).connection.Idle ∧
        (h.step event).connection.hasWriter = h.connection.hasWriter ∧
          (h.step event).connection.hasReader = h.connection.hasReader := by
      rcases event.exists_poll_or with ⟨branch, id, rfl⟩ | hne
      · rw [step_poll, Connection.poll_eq_self (hidle id)]
        exact ⟨hidle, rfl, rfl⟩
      · have hu := undergoes_step (Connection.refuses_of_closed hclosed) hne
        exact ⟨(hu.quiet ht.coherent).idle hidle, halves_of_closed hclosed hne⟩
    have hstays : (h.step event).connection.life.phase = .closed :=
      (turn_step ht ha event).phase_eq_closed hclosed
    obtain ⟨hw, hr⟩ := ih (ht.step event) (ha.step ht event) hstays hstep.1
    exact ⟨hw.trans hstep.2.1, hr.trans hstep.2.2⟩

/-! ### Aborting -/

/-- **What becomes of the session** after an abort and some events. -/
structure Aborted (h g : History) (events : List Event) : Prop where
  closed : g.connection.life.phase = .closed
  /-- A half is gone if it was gone already, if no call held it or waited for it at the abort, or if
  a call has let go of it since. -/
  writer : g.connection.hasWriter = false ↔
    h.connection.hasWriter = false ∨ h.connection.writers = [] ∨
      (h.step .abort).Passes (Stage.letsGo Stage.writes) events
  reader : g.connection.hasReader = false ↔
    h.connection.hasReader = false ∨ h.connection.readers = [] ∨
      (h.step .abort).Passes (Stage.letsGo Stage.reads) events
  /-- Once no call is waiting, what is left of the session is never dropped. -/
  left : g.connection.Idle → ∀ later,
    (g.run later).connection.released = g.connection.released

/-- **An abort leaves it to waiting calls to drop the session,** and those that do not heed the
signal never do. -/
theorem aborted_run (capacity : Nat) (before after : List Event)
    (hne : ((start capacity).run before).connection.life.phase ≠ .closed) :
    Aborted ((start capacity).run before)
      ((((start capacity).run before).step .abort).run after) after := by
  obtain ⟨ht, ha⟩ := tracked_run (tracked_start capacity) (CallRecord.Answered.start _) before
  generalize (start capacity).run before = h at hne ht ha ⊢
  have hclosed : (h.step .abort).connection.life.phase = .closed := by
    change h.connection.abort.life.phase = .closed
    rw [Connection.life_abort, if_neg hne]
    rfl
  have hwriter : (h.step .abort).connection.hasWriter = _ := Connection.hasWriter_abort hne
  have hreader : (h.step .abort).connection.hasReader = _ := Connection.hasReader_abort hne
  obtain ⟨hend, hsheds⟩ := sheds_run (ht.step .abort) (ha.step ht .abort) hclosed after
  obtain ⟨htend, haend⟩ := tracked_run (ht.step .abort) (ha.step ht .abort) after
  refine ⟨hend, ?_, ?_, fun hidle later => ?_⟩
  · rw [hsheds.writer, hwriter, Bool.and_eq_false_iff, Bool.not_eq_false', List.isEmpty_iff,
      or_assoc]
  · rw [hsheds.reader, hreader, Bool.and_eq_false_iff, Bool.not_eq_false', List.isEmpty_iff,
      or_assoc]
  · obtain ⟨hw, hr⟩ := halves_of_idle htend haend hend hidle later
    rw [Connection.released, hw, hr, Connection.released]

/-- A send is in the middle of writing, and the peer has made room for the rest. -/
def roomMade : List Event :=
  [.issue (.send [1, 2, 3, 4, 5, 6]), .poll .transfer 0, .poll .transfer 0, .peerRead 4]

/-- If the send heeds the signal then, it drops the half it holds. -/
theorem aborted_run_signal : ∃ g, Aborted ((start 4).run roomMade) g [.poll .signal 0] ∧
    g.connection.Idle ∧ g.connection.released = true :=
  ⟨_, aborted_run 4 roomMade [.poll .signal 0] (by decide),
    Connection.idle_of_calls (List.forall_mem_singleton.mpr ⟨_, rfl⟩), rfl⟩

/-- If it writes the rest instead, every call has its reply and the session is still there. -/
theorem aborted_run_transfer : ¬ ∀ (capacity : Nat) (before after : List Event),
    ((start capacity).run before).connection.life.phase ≠ .closed →
      ((((start capacity).run before).step .abort).run after).connection.Idle →
        ((((start capacity).run before).step .abort).run after).connection.released = true := by
  intro h
  have hreleased := h 4 roomMade [.poll .transfer 0] (by decide)
    (Connection.idle_of_calls (List.forall_mem_singleton.mpr ⟨_, rfl⟩))
  exact absurd hreleased (by decide)

end History

end Dialer
