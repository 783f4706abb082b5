import Dialer.Proofs.Connection.Lifecycle
import Dialer.Proofs.Connection.Rest

/-!
# Winding a connection down

Until a connection begins to close here it is `Connection.Open`, and from then on
`Connection.Winding`: whoever stands first for a half that is still there drops it before the
next in the queue gets it. `Connection.Yields` says what a call does that goes on then, and
that the connection keeps winding down. It begins to where calls have come to rest, since then no
call could carry anything more (`Connection.Poised`).
-/

namespace Dialer

/-! ### Stages of calls that end -/

namespace Stage

/-- Whether a call at the stage is a send or receive under way. -/
def transfers : Stage → Bool
  | sendQueued _ | sendHolding _ | sending _ => true
  | receiveQueued _ | receiveHolding _ | receiving _ => true
  | closeQueued _ | shuttingDown | closingReader | replied _ => false

/-- Whether a call at the stage has taken its half and done nothing with it yet. -/
def holding : Stage → Bool
  | sendHolding _ | receiveHolding _ => true
  | _ => false

/-- Whether a call at the stage is a close under way. -/
def closes : Stage → Bool
  | closeQueued _ | shuttingDown | closingReader => true
  | _ => false

/-- Whether a call at the stage drops the half it stands first for, once the signal is raised and
the half carries nothing. -/
def drops : Stage → Bool
  | sending _ | receiving _ | closeQueued _ | shuttingDown | closingReader => true
  | _ => false

theorem transfers_of_closes {stage : Stage} (h : stage.closes = true) : stage.transfers = false := by
  cases stage <;> first | rfl | cases h

/-- **What becomes of a call once the signal is raised.** -/
inductive Ends : Stage → Stage → Prop
  | refused {old : Stage} (h : old.transfers = true) : Ends old (.replied (.refused .closed))
  | hangs {old : Stage} (h : old.closes = true) : Ends old .shuttingDown
  | halfway {old : Stage} (h : old.closes = true) : Ends old .closingReader
  | done : Ends .closingReader (.replied .done)

theorem Ends.closes {old new : Stage} (h : Ends old new) (hnew : new.closes = true) :
    old.closes = true := by
  cases h with
  | refused => cases hnew
  | hangs h => exact h
  | halfway h => exact h
  | done => cases hnew

/-- No call takes a half any more. -/
theorem Ends.unheld {old new : Stage} (h : Ends old new) : new.holding = false := by
  cases h <;> rfl

end Stage

/-! ### One half of the session -/

/-- **Whoever stands first for a half that is still there drops it.** -/
def Drains (has : Bool) (queue : List Nat) (stage? : Nat → Option Stage) : Prop :=
  has = true → ∀ id, queue.head? = some id → ∃ stage, stage? id = some stage ∧ stage.drops = true

namespace Drains

variable {has : Bool} {queue : List Nat} {stage? : Nat → Option Stage} {id : Nat} {stage : Stage}

theorem head?_filter (h : queue.head? ≠ some id) : (queue.filter (· != id)).head? = queue.head? := by
  rcases queue with _ | ⟨a, queue⟩
  · rfl
  · rw [List.filter_cons_of_pos (by simpa using h)]
    rfl

/-- A call leaves that does not stand first. -/
theorem leave (h : Drains has queue stage?) (hne : has = true → queue.head? ≠ some id)
    {new : Option Stage} :
    Drains has (queue.filter (· != id)) (Function.update stage? id new) := by
  intro hhas j hj
  rw [head?_filter (hne hhas)] at hj
  have hjid : j ≠ id := by
    rintro rfl
    exact hne hhas hj
  rw [Function.update_of_ne hjid]
  exact h hhas j hj

/-- A call that drops the half goes on with it, or joins the queue. -/
theorem update (h : Drains has queue stage?) (hd : stage.drops = true) :
    Drains has queue (Function.update stage? id (some stage)) := by
  intro hhas j hj
  rcases eq_or_ne j id with rfl | hne
  · exact ⟨stage, Function.update_self .., hd⟩
  · rw [Function.update_of_ne hne]
    exact h hhas j hj

theorem join (h : Drains has queue stage?) (hd : stage.drops = true) :
    Drains has (queue ++ [id]) (Function.update stage? id (some stage)) := by
  rcases queue with _ | ⟨a, queue⟩
  · intro _ j hj
    cases hj
    exact ⟨stage, Function.update_self .., hd⟩
  · exact h.update hd

/-- A call is entered that the queue does not hold. -/
theorem frame (h : Drains has queue stage?) (hid : id ∉ queue) {new : Option Stage} :
    Drains has queue (Function.update stage? id new) := by
  intro hhas j hj
  have hne : j ≠ id := by
    rintro rfl
    exact hid (List.mem_of_mem_head? hj)
  rw [Function.update_of_ne hne]
  exact h hhas j hj

end Drains

namespace Connection

variable {b c : StreamConnection} {id : Nat} {old new : Stage}

theorem dropWriter_eq (c : StreamConnection) : c.dropWriter = { c with
    hasWriter := false, wire := if c.hasReader then c.wire else c.wire.release } := by
  unfold dropWriter settleSession released
  cases c.hasReader <;> rfl

theorem dropReader_eq (c : StreamConnection) : c.dropReader = { c with
    hasReader := false, wire := if c.hasWriter then c.wire else c.wire.release } := by
  unfold dropReader settleSession released
  cases c.hasWriter <;> rfl

/-- A close under way. -/
def Closes (c : StreamConnection) (id : Nat) : Prop :=
  ∃ stage, c.stage? id = some stage ∧ stage.closes = true

theorem ShutsDown.exists_closes (h : c.ShutsDown id) :
    ∃ old, c.stage? id = some old ∧ old.closes = true ∧ old.writes = true := by
  rcases h with ⟨h, -⟩ | h <;> exact ⟨_, h, rfl, rfl⟩

theorem ShutsDown.closes (h : c.ShutsDown id) : c.Closes id := by
  obtain ⟨old, hold, hc, -⟩ := h.exists_closes
  exact ⟨old, hold, hc⟩

/-- **A connection that has not begun to close here.** -/
structure Open (c : StreamConnection) : Prop where
  coherent : c.Coherent
  signalled : c.signalled = false
  writer : c.hasWriter = true
  reader : c.hasReader = true
  unclosed : c.life.closingLocally = false
  phase : c.life.phase ≠ .closed
  transfers : ∀ id, ¬ c.Closes id

theorem open_ofCapacity (capacity : Nat) : Open (.ofCapacity capacity) :=
  ⟨coherent_start _, rfl, rfl, rfl, rfl, nofun, nofun⟩

/-- **A connection that carries nothing more** without an act of the peer. -/
structure Poised (c : StreamConnection) : Prop where
  coherent : c.Coherent
  unheld : ∀ id stage, c.stage? id = some stage → stage.holding = false
  sending : ∀ id rest, c.stage? id = some (.sending rest) →
    c.hasWriter = true ∧ c.wire.writable rest = false
  receiving : ∀ id max, c.stage? id = some (.receiving max) →
    c.hasReader = true ∧ c.wire.readable = false
  shuttingDown : ∀ id, c.stage? id = some .shuttingDown → c.hasWriter = true
  closingReader : ∀ id, c.stage? id = some .closingReader → c.hasWriter = false
  writers : Drains c.hasWriter c.writers c.stage?
  readers : Drains c.hasReader c.readers c.stage?
  single : ∀ i j, c.Closes i → c.Closes j → i = j

/-- **A connection that has begun to close here.** -/
structure Winding (c : StreamConnection) : Prop extends c.Poised where
  signalled : c.signalled = true
  closing : c.life.closingLocally = true
  refuses : c.life.phase ≠ .establishing ∧ c.life.phase ≠ .established
  /-- The connection is closed, or a close is under way, or one was given up in the end. -/
  ended : c.life.phase = .closed ∨ (∃ id, c.Closes id) ∨ c.hasWriter = true ∧ c.writers = []
  reader : c.life.phase = .closed → c.hasReader = true → c.readers ≠ []

/-! ### Going on once the signal is raised -/

/-- **What a call does that goes on once the signal is raised.** -/
structure Yields (c : StreamConnection) (id : Nat) (old new : Stage) (b : StreamConnection) :
    Prop where
  stage : c.stage? id = some old
  stages : b.stage? = Function.update c.stage? id (some new)
  ends : old.Ends new
  signalled : b.signalled = c.signalled
  life : b.life = if old = .closingReader then c.life.finish else c.life
  /-- A half is dropped by who stands first for it. Else that call leaves no half behind. -/
  writer : b.hasWriter = false ∧ c.writers.head? = some id ∨
    b.hasWriter = c.hasWriter ∧
      (c.hasWriter = true → c.writers.head? = some id → new = .shuttingDown)
  reader : b.hasReader = false ∧ c.readers.head? = some id ∨
    b.hasReader = c.hasReader ∧ (c.hasReader = true → c.readers.head? ≠ some id)
  writers : b.writers = if new = .shuttingDown then c.writers else c.writers.filter (· != id)
  readers : b.readers = c.readers.filter (· != id) ++ if new = .closingReader then [id] else []
  writable : b.hasWriter = true → ∀ rest, b.wire.writable rest = c.wire.writable rest
  readable : b.hasReader = true → b.wire.readable = c.wire.readable
  shuttingDown : new = .shuttingDown → b.hasWriter = true
  closingReader : new = .closingReader → b.hasWriter = false

namespace Coherent

theorem head?_writers_ne (h : c.Coherent) (hs : c.stage? id = some old)
    (hw : old.writes = false) : c.writers.head? ≠ some id := by
  intro hhead
  obtain ⟨stage, hst, hwrites⟩ := (h.writers.mem id).mp (List.mem_of_mem_head? hhead)
  rw [hs] at hst
  cases hst
  rw [hw] at hwrites
  cases hwrites

theorem head?_readers_ne (h : c.Coherent) (hs : c.stage? id = some old)
    (hr : old.reads = false) : c.readers.head? ≠ some id := by
  intro hhead
  obtain ⟨stage, hst, hreads⟩ := (h.readers.mem id).mp (List.mem_of_mem_head? hhead)
  rw [hs] at hst
  cases hst
  rw [hr] at hreads
  cases hreads

end Coherent

namespace Winding

variable (hw : c.Winding)

include hw

theorem yields_woken (hs : c.stage? id = some old) (ht : old.transfers = true)
    (hd : old.drops = false) :
    Yields c id old (.replied (.refused .closed)) (c.reply id (.refused .closed)) where
  stage := hs
  stages := stage?_reply rfl hs
  ends := .refused ht
  signalled := rfl
  life := by
    rw [if_neg (by rintro rfl; cases ht)]
    rfl
  writer := by
    refine Or.inr ⟨rfl, fun hhas hhead => ?_⟩
    obtain ⟨stage, hst, hdrops⟩ := hw.writers hhas id hhead
    rw [hs] at hst
    cases hst
    rw [hd] at hdrops
    cases hdrops
  reader := by
    refine Or.inr ⟨rfl, fun hhas hhead => ?_⟩
    obtain ⟨stage, hst, hdrops⟩ := hw.readers hhas id hhead
    rw [hs] at hst
    cases hst
    rw [hd] at hdrops
    cases hdrops
  writers := rfl
  readers := (List.append_nil _).symm
  writable _ _ := rfl
  readable _ := rfl
  shuttingDown := nofun
  closingReader := nofun

theorem yields_sendStopped {rest : Bytes} (hs : c.stage? id = some (.sending rest)) :
    Yields c id (.sending rest) (.replied (.refused .closed))
      (c.stopSend id) where
  stage := hs
  stages := stage?_reply stage?_dropWriter hs
  ends := .refused rfl
  signalled := by rw [stopSend, dropWriter_eq]; rfl
  life := life_dropWriter c
  writer := by
    rw [stopSend, dropWriter_eq]
    exact Or.inl ⟨rfl, hw.coherent.writers.first id _ hs rfl rfl⟩
  reader := by
    rw [stopSend, dropWriter_eq]
    exact Or.inr ⟨rfl, fun _ => hw.coherent.head?_readers_ne hs rfl⟩
  writers := by rw [stopSend, dropWriter_eq]; rfl
  readers := by rw [stopSend, dropWriter_eq]; exact (List.append_nil _).symm
  writable := by rw [stopSend, dropWriter_eq]; exact fun h => absurd h Bool.false_ne_true
  readable := by
    rw [stopSend, dropWriter_eq]
    intro hr
    have hr : c.hasReader = true := hr
    simp [reply, leave, setStage, hr]
  shuttingDown := nofun
  closingReader := nofun

theorem yields_receiveStopped {max : Nat} (hs : c.stage? id = some (.receiving max)) :
    Yields c id (.receiving max) (.replied (.refused .closed))
      (c.stopReceive id) where
  stage := hs
  stages := stage?_reply stage?_dropReader hs
  ends := .refused rfl
  signalled := by rw [stopReceive, dropReader_eq]; rfl
  life := life_dropReader c
  writer := by
    rw [stopReceive, dropReader_eq]
    exact Or.inr ⟨rfl, fun _ hhead => absurd hhead (hw.coherent.head?_writers_ne hs rfl)⟩
  reader := by
    rw [stopReceive, dropReader_eq]
    exact Or.inl ⟨rfl, hw.coherent.readers.first id _ hs rfl rfl⟩
  writers := by rw [stopReceive, dropReader_eq]; rfl
  readers := by rw [stopReceive, dropReader_eq]; exact (List.append_nil _).symm
  writable := by
    rw [stopReceive, dropReader_eq]
    intro hr
    have hr : c.hasWriter = true := hr
    simp [reply, leave, setStage, hr]
  readable := by rw [stopReceive, dropReader_eq]; exact fun h => absurd h Bool.false_ne_true
  shuttingDown := nofun
  closingReader := nofun

/-- A close drops the writing half. -/
theorem yields_closeWriter {wire : Wire} (hs : c.stage? id = some old) (hc : old.closes = true)
    (hwrites : old.writes = true) (hhead : c.writers.head? = some id)
    (hwire : wire.incoming = c.wire.incoming) :
    Yields c id old .closingReader ({ c with wire }.closeWriter id) := by
  have hreads : old.reads = false := Stage.reads_of_writes hwrites
  have hne : old ≠ .closingReader := by
    rintro rfl
    cases hwrites
  have hstages : ({ c with wire }.closeWriter id).stage? = _ :=
    stage?_closeWriter (b := { c with wire }) rfl hs
  have hlife : ({ c with wire }.closeWriter id).life = c.life := life_closeWriter _ _
  unfold closeWriter at hstages hlife ⊢
  rw [dropWriter_eq] at hstages hlife ⊢
  constructor
  · exact hs
  · exact hstages
  · exact .halfway hc
  · rfl
  · rw [hlife, if_neg hne]
  · exact Or.inl ⟨rfl, hhead⟩
  · exact Or.inr ⟨rfl, fun _ => hw.coherent.head?_readers_ne hs hreads⟩
  · rfl
  · rfl
  · exact fun h => absurd h Bool.false_ne_true
  · intro hr
    have hr : c.hasReader = true := hr
    simp [setStage, leave, hr, Wire.readable, hwire]
  · exact fun h => by cases h
  · exact fun _ => rfl

theorem yields_shutdownHangs {wire : Wire} (hs : c.ShutsDown id)
    (hshut : c.wire.shutdown = (false, wire)) :
    ∃ old, Yields c id old .shuttingDown ({ c with wire }.setStage id .shuttingDown) := by
  have hhead : c.writers.head? = some id := hw.coherent.head?_of_shutsDown hs
  have hwire : wire = { c.wire with shutdownAsked := true } := by
    unfold Wire.shutdown at hshut
    dsimp only at hshut
    split_ifs at hshut
    · exact (Prod.mk.inj hshut).2.symm
    · split at hshut <;> cases hshut
  have hhas : c.hasWriter = true := by
    rcases hs with ⟨-, -, h⟩ | h
    · exact h
    · exact hw.shuttingDown id h
  obtain ⟨old, hold, hcloses, hwrites⟩ := hs.exists_closes
  have hreads : old.reads = false := Stage.reads_of_writes hwrites
  subst hwire
  refine ⟨old, hold, stage?_setStage rfl hold, .hangs hcloses, rfl, ?_, Or.inr ⟨rfl, ?_⟩,
    Or.inr ⟨rfl, fun _ h => ?_⟩, rfl, ?_, fun _ _ => rfl, fun _ => rfl, fun _ => hhas, nofun⟩
  · rw [if_neg (by rintro rfl; cases hwrites)]
    rfl
  · exact fun _ _ => rfl
  · exact hw.coherent.head?_readers_ne hold hreads h
  · rw [hw.coherent.readers.filter_eq_self hold hreads]
    exact (List.append_nil _).symm

theorem yields_pollShutdown (hs : c.ShutsDown id) :
    ∃ old new, Yields c id old new (c.pollShutdown id) := by
  unfold pollShutdown
  rcases hshut : Carrier.shutdown c.wire with ⟨_ | _, wire⟩
  · obtain ⟨old, hy⟩ := hw.yields_shutdownHangs hs hshut
    exact ⟨old, _, hy⟩
  · have hhead : c.writers.head? = some id := hw.coherent.head?_of_shutsDown hs
    have hwire : wire.incoming = c.wire.incoming := (Wire.pipes_shutdown hshut).2
    rcases hs with ⟨hs, -⟩ | hs
    · exact ⟨_, _, hw.yields_closeWriter hs rfl rfl hhead hwire⟩
    · exact ⟨_, _, hw.yields_closeWriter hs rfl rfl hhead hwire⟩

theorem yields_closed (hs : c.stage? id = some .closingReader) (hh : c.holdsReader id = true) :
    Yields c id .closingReader (.replied .done)
      ({ c.dropReader with life := c.dropReader.life.finish }.reply id .done) where
  stage := hs
  stages := stage?_reply stage?_dropReader hs
  ends := .done
  signalled := by rw [dropReader_eq]; rfl
  life := congrArg Life.finish (life_dropReader c)
  writer := by
    rw [dropReader_eq]
    exact Or.inr ⟨rfl, fun _ hhead => absurd hhead (hw.coherent.head?_writers_ne hs rfl)⟩
  reader := by
    rw [dropReader_eq]
    exact Or.inl ⟨rfl, eq_of_beq hh⟩
  writers := by rw [dropReader_eq]; rfl
  readers := by rw [dropReader_eq]; exact (List.append_nil _).symm
  writable := by
    rw [dropReader_eq]
    intro hr
    have hr : c.hasWriter = true := hr
    simp [reply, leave, setStage, hr]
  readable := by rw [dropReader_eq]; exact fun h => absurd h Bool.false_ne_true
  shuttingDown := nofun
  closingReader := nofun

/-- **Going on is yielding.** -/
theorem yields_poll (branch : Branch) (id : Nat) :
    c.poll branch id = c ∨ ∃ old new, Yields c id old new (c.poll branch id) := by
  unfold poll
  split
  · exact Or.inl rfl
  · exact Or.inl rfl
  · rename_i data hs
    split_ifs with hsig hh hhas
    · exact Or.inr ⟨_, _, hw.yields_woken hs rfl rfl⟩
    · exact Or.inl rfl
    · exact Or.inr ⟨_, _, hw.yields_woken hs rfl rfl⟩
    · -- Whoever stands first for the writing half drops it, so no send gets it any more.
      obtain ⟨stage, hst, hd⟩ := hw.writers (by simpa using hhas) id (by simpa [holdsWriter] using hh)
      rw [hs] at hst
      cases hst
      cases hd
  · rename_i data hs
    cases hw.unheld id _ hs
  · rename_i rest hs
    have hblocked := (hw.sending id rest hs).2
    rw [if_pos (by simp [hw.signalled, hblocked])]
    exact Or.inr ⟨_, _, hw.yields_sendStopped hs⟩
  · rename_i max hs
    split_ifs with hsig hh hhas
    · exact Or.inr ⟨_, _, hw.yields_woken hs rfl rfl⟩
    · exact Or.inl rfl
    · exact Or.inr ⟨_, _, hw.yields_woken hs rfl rfl⟩
    · obtain ⟨stage, hst, hd⟩ := hw.readers (by simpa using hhas) id (by simpa [holdsReader] using hh)
      rw [hs] at hst
      cases hst
      cases hd
  · rename_i max hs
    cases hw.unheld id _ hs
  · rename_i max hs
    have hblocked := (hw.receiving id max hs).2
    rw [if_pos (by simp [hw.signalled, hblocked])]
    exact Or.inr ⟨_, _, hw.yields_receiveStopped hs⟩
  · rename_i graceful hs
    split_ifs with hh hg
    · exact Or.inl rfl
    · rw [Bool.and_eq_true] at hg
      rw [hg.1] at hs
      exact Or.inr (hw.yields_pollShutdown (Or.inl ⟨hs, by simpa using hh, hg.2⟩))
    · exact Or.inr ⟨_, _, hw.yields_closeWriter hs rfl rfl (by simpa [holdsWriter] using hh) rfl⟩
  · rename_i hs
    split_ifs with hhang
    · exact Or.inl rfl
    · exact Or.inr (hw.yields_pollShutdown (Or.inr hs))
  · rename_i hs
    split_ifs with hh
    · exact Or.inl rfl
    · exact Or.inr ⟨_, _, hw.yields_closed hs (by simpa using hh)⟩

end Winding

namespace Yields

variable (hy : Yields c id old new b)

include hy

theorem closes_of_ne {j : Nat} (hj : j ≠ id) : b.Closes j ↔ c.Closes j := by
  rw [Closes, hy.stages, Function.update_of_ne hj, Closes]

/-- No close comes about. -/
theorem closes {j : Nat} (hb : b.Closes j) : c.Closes j := by
  rcases eq_or_ne j id with rfl | hj
  · obtain ⟨stage, hst, hcloses⟩ := hb
    rw [stage?_self hy.stages] at hst
    cases hst
    exact ⟨old, hy.stage, hy.ends.closes hcloses⟩
  · exact (hy.closes_of_ne hj).mp hb

/-- A close goes on until the connection is closed. -/
theorem closes_or_closed {j : Nat} (hc : c.Closes j) : b.Closes j ∨ b.life.phase = .closed := by
  rcases eq_or_ne j id with rfl | hj
  · have hself := stage?_self hy.stages
    have hlife := hy.life
    obtain ⟨stage, hst, hcloses⟩ := hc
    rw [hy.stage] at hst
    cases hst
    rcases hy.ends with ht | _ | _
    · rw [Stage.transfers_of_closes hcloses] at ht
      cases ht
    · exact Or.inl ⟨_, hself, rfl⟩
    · exact Or.inl ⟨_, hself, rfl⟩
    · rw [hlife]
      exact Or.inr rfl
  · exact Or.inl ((hy.closes_of_ne hj).mpr hc)

theorem phase_eq_closed (hc : c.life.phase = .closed) : b.life.phase = .closed := by
  rw [hy.life]
  split_ifs
  · rfl
  · exact hc

/-- A half that is there was there. -/
theorem hasWriter (hb : b.hasWriter = true) : c.hasWriter = true := by
  rcases hy.writer with ⟨h, -⟩ | ⟨h, -⟩
  · rw [h] at hb
    cases hb
  · exact h ▸ hb

theorem hasReader (hb : b.hasReader = true) : c.hasReader = true := by
  rcases hy.reader with ⟨h, -⟩ | ⟨h, -⟩
  · rw [h] at hb
    cases hb
  · exact h ▸ hb

/-- The queue for a half that is still there does not run empty. -/
theorem writers_ne_nil (hb : b.hasWriter = true) (hc : c.writers ≠ []) : b.writers ≠ [] := by
  rw [hy.writers]
  split_ifs with hnew
  · exact hc
  · have hhead : c.writers.head? ≠ some id := by
      rcases hy.writer with ⟨h, -⟩ | ⟨-, h⟩
      · rw [h] at hb
        cases hb
      · exact fun hid => hnew (h (hy.hasWriter hb) hid)
    intro hnil
    have hfilter := Drains.head?_filter hhead
    rw [hnil] at hfilter
    exact hc (List.head?_eq_none_iff.mp hfilter.symm)

theorem readers_ne_nil (hb : b.hasReader = true) (hc : c.readers ≠ []) : b.readers ≠ [] := by
  have hhead : c.readers.head? ≠ some id := by
    rcases hy.reader with ⟨h, -⟩ | ⟨-, h⟩
    · rw [h] at hb
      cases hb
    · exact h (hy.hasReader hb)
  intro hnil
  have hfilter := Drains.head?_filter hhead
  rw [hy.readers, List.append_eq_nil_iff] at hnil
  rw [hnil.1] at hfilter
  exact hc (List.head?_eq_none_iff.mp hfilter.symm)

/-- What stands at a stage that no call comes to stood there before. -/
theorem stage?_of_ends {j : Nat} {stage : Stage} (hst : b.stage? j = some stage)
    (hne : new ≠ stage) : j ≠ id ∧ c.stage? j = some stage := by
  have hj : j ≠ id := by
    rintro rfl
    rw [stage?_self hy.stages] at hst
    exact hne (Option.some.inj hst)
  rw [hy.stages, Function.update_of_ne hj] at hst
  exact ⟨hj, hst⟩

/-- A call that uses the writing half midway keeps it. -/
theorem hasWriter_of_midway (hc : c.Coherent) {j : Nat} {stage : Stage}
    (hst : c.stage? j = some stage) (hj : j ≠ id) (hw : stage.writes = true)
    (hm : stage.midway = true) (hhas : c.hasWriter = true) : b.hasWriter = true := by
  rcases hy.writer with ⟨-, hhead⟩ | ⟨h, -⟩
  · exact absurd (hc.writers.eq_of_midway hst hw hm hhead) hj
  · exact h.trans hhas

theorem hasReader_of_midway (hc : c.Coherent) {j : Nat} {stage : Stage}
    (hst : c.stage? j = some stage) (hj : j ≠ id) (hr : stage.reads = true)
    (hm : stage.midway = true) (hhas : c.hasReader = true) : b.hasReader = true := by
  rcases hy.reader with ⟨-, hhead⟩ | ⟨h, -⟩
  · exact absurd (hc.readers.eq_of_midway hst hr hm hhead) hj
  · exact h.trans hhas

theorem drains_writers (hc : Drains c.hasWriter c.writers c.stage?) :
    Drains b.hasWriter b.writers b.stage? := by
  rw [hy.stages, hy.writers]
  rcases hy.writer with ⟨h, -⟩ | ⟨h, hhead⟩
  · rw [h]
    nofun
  · rw [h]
    split_ifs with hnew
    · exact hc.update (by rw [hnew]; rfl)
    · exact hc.leave fun hhas hid => hnew (hhead hhas hid)

theorem drains_readers (hc : Drains c.hasReader c.readers c.stage?) :
    Drains b.hasReader b.readers b.stage? := by
  rw [hy.stages, hy.readers]
  rcases hy.reader with ⟨h, -⟩ | ⟨h, hhead⟩
  · rw [h]
    nofun
  · rw [h]
    have hleave : Drains c.hasReader (c.readers.filter (· != id))
        (Function.update c.stage? id (some new)) := hc.leave hhead
    split_ifs with hnew
    · have hjoin : Drains c.hasReader (c.readers.filter (· != id) ++ [id])
          (Function.update (Function.update c.stage? id (some new)) id (some new)) :=
        hleave.join (by rw [hnew]; rfl)
      rwa [Function.update_idem] at hjoin
    · rwa [List.append_nil]

/-- **The connection keeps winding down.** -/
theorem winding (hw : c.Winding) (hb : b.Coherent) : b.Winding where
  coherent := hb
  signalled := hy.signalled.trans hw.signalled
  closing := by
    rw [hy.life]
    split_ifs <;> exact hw.closing
  refuses := by
    rw [hy.life]
    split_ifs
    · exact ⟨nofun, nofun⟩
    · exact hw.refuses
  unheld j stage hst := by
    rcases eq_or_ne j id with rfl | hj
    · rw [stage?_self hy.stages] at hst
      cases hst
      exact hy.ends.unheld
    · rw [hy.stages, Function.update_of_ne hj] at hst
      exact hw.unheld j stage hst
  sending j rest hst := by
    obtain ⟨hj, hst⟩ := hy.stage?_of_ends hst (by rcases hy.ends <;> nofun)
    obtain ⟨hhas, hblocked⟩ := hw.sending j rest hst
    have hhas := hy.hasWriter_of_midway hw.coherent hst hj rfl rfl hhas
    exact ⟨hhas, (hy.writable hhas rest).trans hblocked⟩
  receiving j max hst := by
    obtain ⟨hj, hst⟩ := hy.stage?_of_ends hst (by rcases hy.ends <;> nofun)
    obtain ⟨hhas, hblocked⟩ := hw.receiving j max hst
    have hhas := hy.hasReader_of_midway hw.coherent hst hj rfl rfl hhas
    exact ⟨hhas, (hy.readable hhas).trans hblocked⟩
  shuttingDown j hst := by
    by_cases hnew : new = .shuttingDown
    · exact hy.shuttingDown hnew
    · obtain ⟨hj, hst⟩ := hy.stage?_of_ends hst hnew
      exact hy.hasWriter_of_midway hw.coherent hst hj rfl rfl (hw.shuttingDown j hst)
  closingReader j hst := by
    by_cases hnew : new = .closingReader
    · exact hy.closingReader hnew
    · obtain ⟨-, hst⟩ := hy.stage?_of_ends hst hnew
      refine Bool.eq_false_iff.mpr fun hhas => ?_
      have hold := hy.hasWriter hhas
      rw [hw.closingReader j hst] at hold
      cases hold
  writers := hy.drains_writers hw.writers
  readers := hy.drains_readers hw.readers
  single i j hi hj := hw.single i j (hy.closes hi) (hy.closes hj)
  ended := by
    rcases hw.ended with hclosed | ⟨j, hj⟩ | ⟨hhas, hnil⟩
    · exact Or.inl (hy.phase_eq_closed hclosed)
    · exact (hy.closes_or_closed hj).elim (fun h => Or.inr (Or.inl ⟨j, h⟩)) Or.inl
    · have hkeep : b.hasWriter = c.hasWriter := by
        rcases hy.writer with ⟨-, hhead⟩ | ⟨h, -⟩
        · simp [hnil] at hhead
        · exact h
      refine Or.inr (Or.inr ⟨hkeep.trans hhas, ?_⟩)
      rw [hy.writers, hnil]
      split_ifs <;> rfl
  reader hclosed hhas := by
    refine hy.readers_ne_nil hhas ?_
    have hlife := hy.life
    split_ifs at hlife with hold
    · subst hold
      exact List.ne_nil_of_mem ((hw.coherent.readers.mem id).mpr ⟨_, hy.stage, rfl⟩)
    · exact hw.reader (hlife ▸ hclosed) (hy.hasReader hhas)

end Yields

theorem Winding.poll (hw : c.Winding) (branch : Branch) (id : Nat) :
    (c.poll branch id).Winding := by
  rcases hw.yields_poll branch id with heq | ⟨old, new, hy⟩
  · rwa [heq]
  · exact hy.winding hw (hw.coherent.poll branch id)

/-! ### Beginning to close -/

namespace Resting

variable (hr : c.Resting)

include hr

/-- Whoever has taken a half can go on. -/
theorem unheld {stage : Stage} (hs : c.stage? id = some stage) : stage.holding = false := by
  have hready := hr.ready hs
  cases stage with
  | sendHolding data => cases hready
  | receiveHolding max => cases hready
  | _ => rfl

theorem not_writable {rest : Bytes} (hs : c.stage? id = some (.sending rest)) :
    c.wire.writable rest = false := by
  have hready := hr.ready hs
  rw [Connection.ready, Bool.or_eq_false_iff] at hready
  exact hready.2

theorem not_readable {max : Nat} (hs : c.stage? id = some (.receiving max)) :
    c.wire.readable = false := by
  have hready := hr.ready hs
  rw [Connection.ready, Bool.or_eq_false_iff] at hready
  exact hready.2

/-- At rest whoever stands first for a half is midway through using it. -/
theorem drains_writers (hc : c.Coherent) : Drains c.hasWriter c.writers c.stage? := by
  intro _ id hhead
  obtain ⟨stage, hs, hwrites⟩ := (hc.writers.mem id).mp (List.mem_of_mem_head? hhead)
  refine ⟨stage, hs, ?_⟩
  have hready := hr.ready hs
  cases stage with
  | sendQueued data => simp [Connection.ready, holdsWriter, hhead] at hready
  | sendHolding data => cases hready
  | receiveQueued max => cases hwrites
  | receiveHolding max => cases hwrites
  | replied r => cases hwrites
  | _ => rfl

theorem drains_readers (hc : c.Coherent) : Drains c.hasReader c.readers c.stage? := by
  intro _ id hhead
  obtain ⟨stage, hs, hreads⟩ := (hc.readers.mem id).mp (List.mem_of_mem_head? hhead)
  refine ⟨stage, hs, ?_⟩
  have hready := hr.ready hs
  cases stage with
  | receiveQueued max => simp [Connection.ready, holdsReader, hhead] at hready
  | receiveHolding max => cases hready
  | sendQueued data => cases hreads
  | sendHolding data => cases hreads
  | replied r => cases hreads
  | _ => rfl

end Resting

theorem Open.poised (ho : c.Open) (hr : c.Resting) : c.Poised where
  coherent := ho.coherent
  unheld _ _ hs := hr.unheld hs
  sending _ _ hs := ⟨ho.writer, hr.not_writable hs⟩
  receiving _ _ hs := ⟨ho.reader, hr.not_readable hs⟩
  shuttingDown _ _ := ho.writer
  closingReader id hs := absurd ⟨_, hs, rfl⟩ (ho.transfers id)
  writers := hr.drains_writers ho.coherent
  readers := hr.drains_readers ho.coherent
  single i _ hi _ := absurd hi (ho.transfers i)

/-- A close begins. -/
theorem Open.close (ho : c.Open) (hr : c.Resting) {graceful : Bool} {life : Life}
    (hb : c.life.beginClose? = some (graceful, life)) : Winding
      { c.enter (.closeQueued graceful) with
        life, signalled := true, writers := c.writers ++ [c.nextId] } := by
  obtain ⟨-, hclosing, -, hphase⟩ := Life.beginClose?_eq_some hb
  have hp := ho.poised hr
  have hnone : c.stage? c.nextId = none := ho.coherent.fresh _ (Nat.le_refl _)
  have hstages : (c.enter (.closeQueued graceful)).stage? =
      Function.update c.stage? c.nextId (some (.closeQueued graceful)) := stage?_enter hnone
  have hold : ∀ {id stage}, (c.enter (.closeQueued graceful)).stage? id = some stage →
      stage ≠ .closeQueued graceful → c.stage? id = some stage := by
    intro id stage hs hne
    rcases eq_or_ne id c.nextId with rfl | hid
    · rw [stage?_self hstages] at hs
      exact absurd (Option.some.inj hs).symm hne
    · rwa [hstages, Function.update_of_ne hid] at hs
  have honly : ∀ {id}, (c.enter (.closeQueued graceful)).Closes id → id = c.nextId := by
    rintro id ⟨stage, hs, hcloses⟩
    by_contra hid
    rw [hstages, Function.update_of_ne hid] at hs
    exact ho.transfers id ⟨stage, hs, hcloses⟩
  have hnot : c.nextId ∉ c.readers := ho.coherent.readers.not_mem (by rw [hnone]; nofun)
  exact {
    coherent := ho.coherent.issued (.close hb)
    unheld := fun id stage hs => by
      by_cases heq : stage = .closeQueued graceful
      · rw [heq]
        rfl
      · exact hp.unheld id stage (hold hs heq)
    sending := fun id rest hs => hp.sending id rest (hold hs nofun)
    receiving := fun id max hs => hp.receiving id max (hold hs nofun)
    shuttingDown := fun _ _ => ho.writer
    closingReader := fun id hs => hp.closingReader id (hold hs nofun)
    writers := (hstages ▸ hp.writers.join rfl : Drains c.hasWriter (c.writers ++ [c.nextId]) _)
    readers := (hstages ▸ hp.readers.frame hnot : Drains c.hasReader c.readers _)
    single := fun i j hi hj => (honly hi).trans (honly hj).symm
    signalled := rfl
    closing := hclosing
    refuses := by rcases hphase with h | ⟨h, -⟩ <;> simp [h]
    ended := Or.inr (Or.inl ⟨c.nextId, _, stage?_self hstages, rfl⟩)
    reader := fun hclosed => by rcases hphase with h | ⟨h, -⟩ <;> simp [h] at hclosed }

/-! ### Aborting -/

section Abort

variable (hne : c.life.phase ≠ .closed)

include hne

theorem signalled_abort : c.abort.signalled = true := by
  unfold abort
  rw [if_neg hne]
  dsimp only
  split_ifs <;> simp only [dropWriter_eq, dropReader_eq]

theorem hasWriter_abort : c.abort.hasWriter = (c.hasWriter && !c.writers.isEmpty) := by
  unfold abort
  rw [if_neg hne]
  dsimp only
  split_ifs <;> simp_all [dropWriter_eq, dropReader_eq]

theorem hasReader_abort : c.abort.hasReader = (c.hasReader && !c.readers.isEmpty) := by
  unfold abort
  rw [if_neg hne]
  dsimp only
  split_ifs <;> simp_all [dropWriter_eq, dropReader_eq]

/-- The session is there as long as a half is. -/
theorem wire_abort_eq (h : c.abort.hasWriter = true ∨ c.abort.hasReader = true) :
    c.abort.wire = c.wire := by
  rw [hasWriter_abort hne, hasReader_abort hne] at h
  unfold abort
  rw [if_neg hne]
  dsimp only
  split_ifs <;> simp_all [dropWriter_eq, dropReader_eq]

theorem Poised.abort (hp : c.Poised) : c.abort.Winding := by
  have hstill := still_abort c
  have hstages : c.abort.stage? = c.stage? := stage?_congr hstill.calls
  have hlife := life_abort c
  rw [if_neg hne] at hlife
  have hwriter := hasWriter_abort hne
  have hreader := hasReader_abort hne
  have huses : ∀ {id stage}, c.stage? id = some stage → stage.writes = true →
      c.hasWriter = true → c.abort.hasWriter = true := by
    intro id stage hs hwrites hhas
    have hmem := (hp.coherent.writers.mem id).mpr ⟨stage, hs, hwrites⟩
    simp [hwriter, hhas, List.ne_nil_of_mem hmem]
  have hkeeps : ∀ {id stage}, c.stage? id = some stage → stage.reads = true →
      c.hasReader = true → c.abort.hasReader = true := by
    intro id stage hs hreads hhas
    have hmem := (hp.coherent.readers.mem id).mpr ⟨stage, hs, hreads⟩
    simp [hreader, hhas, List.ne_nil_of_mem hmem]
  constructor
  · constructor
    · exact hp.coherent.still hstill
    · intro id stage hs
      exact hp.unheld id stage (hstages ▸ hs)
    · intro id rest hs
      rw [hstages] at hs
      obtain ⟨hhas, hblocked⟩ := hp.sending id rest hs
      have hhas := huses hs rfl hhas
      exact ⟨hhas, by rw [wire_abort_eq hne (Or.inl hhas), hblocked]⟩
    · intro id max hs
      rw [hstages] at hs
      obtain ⟨hhas, hblocked⟩ := hp.receiving id max hs
      have hhas := hkeeps hs rfl hhas
      exact ⟨hhas, by rw [wire_abort_eq hne (Or.inr hhas), hblocked]⟩
    · intro id hs
      rw [hstages] at hs
      exact huses hs rfl (hp.shuttingDown id hs)
    · intro id hs
      rw [hstages] at hs
      rw [hwriter, hp.closingReader id hs, Bool.false_and]
    · intro hhas
      rw [hwriter, Bool.and_eq_true] at hhas
      rw [hstages, hstill.writers]
      exact hp.writers hhas.1
    · intro hhas
      rw [hreader, Bool.and_eq_true] at hhas
      rw [hstages, hstill.readers]
      exact hp.readers hhas.1
    · intro i j hi hj
      rw [Closes, hstages] at hi hj
      exact hp.single i j hi hj
  · exact signalled_abort hne
  · rw [hlife]; rfl
  · rw [hlife]; exact ⟨nofun, nofun⟩
  · rw [hlife]; exact Or.inl rfl
  · intro _ hhas
    rw [hreader, Bool.and_eq_true] at hhas
    rw [hstill.readers]
    simpa using hhas.2

end Abort

end Connection

end Dialer
