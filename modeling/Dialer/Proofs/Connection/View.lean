import Dialer.Connection.Basic
import Mathlib.Data.List.Basic
import Mathlib.Logic.Function.Basic

/-!
# Views of a connection

A connection looked at from outside its lists: `stage?` says how far each call has come, and the
queues and the carrier are fields. For each way to change a connection there is one lemma a view.
From these, two relations say once what the operations can do, whatever the carrier:

* `Connection.Issued`: making a call.
* `Connection.Goes`: letting a call go on.
-/

namespace Dialer

/-! ### Stages -/

namespace Stage

/-- Whether a call at the stage holds the writing half or waits for it. -/
def writes : Stage → Bool
  | sendQueued _ | sendHolding _ | sending _ | closeQueued _ | shuttingDown => true
  | receiveQueued _ | receiveHolding _ | receiving _ | closingReader | replied _ => false

/-- Whether a call at the stage holds the reading half or waits for it. -/
def reads : Stage → Bool
  | receiveQueued _ | receiveHolding _ | receiving _ | closingReader => true
  | sendQueued _ | sendHolding _ | sending _ | closeQueued _ | shuttingDown | replied _ => false

/-- Whether a call at the stage has taken its half and still holds it. -/
def midway : Stage → Bool
  | sendHolding _ | sending _ | shuttingDown | receiveHolding _ | receiving _ => true
  | sendQueued _ | closeQueued _ | receiveQueued _ | closingReader | replied _ => false

/-- No call uses both halves at once. -/
theorem reads_of_writes {stage : Stage} (h : stage.writes = true) : stage.reads = false := by
  cases stage <;> first | rfl | cases h

theorem writes_of_reads {stage : Stage} (h : stage.reads = true) : stage.writes = false := by
  cases stage <;> first | rfl | cases h

end Stage

/-! ### Admission -/

namespace Life

variable {l : Life} {max : Nat} {r : Reply}

theorem refuseSend?_eq_some (h : l.refuseSend? = some r) : ∃ e, r = .refused e := by
  unfold refuseSend? at h
  split at h <;> cases h <;> exact ⟨_, rfl⟩

theorem refuseReceive?_eq_some (h : l.refuseReceive? max = some r) :
    (∃ e, r = .refused e) ∨ r = .received [] ∧ 0 < max ∧ l.phase = .closing ∧
      l.remoteClosed = true ∧ l.closingLocally = false := by
  unfold refuseReceive? at h
  by_cases hmax : max = 0
  · rw [if_pos hmax] at h
    cases h
    exact Or.inl ⟨_, rfl⟩
  · rw [if_neg hmax] at h
    cases hp : l.phase <;> simp only [hp] at h
    case established => cases h
    case closing =>
      split_ifs at h with hends
      · rw [Bool.and_eq_true, Bool.not_eq_true'] at hends
        cases h
        exact Or.inr ⟨rfl, Nat.pos_of_ne_zero hmax, rfl, hends⟩
      · cases h
        exact Or.inl ⟨_, rfl⟩
    all_goals
      cases h
      exact Or.inl ⟨_, rfl⟩

theorem pos_of_refuseReceive? (h : l.refuseReceive? max = none) : 0 < max := by
  unfold refuseReceive? at h
  by_cases hmax : max = 0
  · rw [if_pos hmax] at h
    cases h
  · exact Nat.pos_of_ne_zero hmax

end Life

namespace Connection

variable {W : Type} {b c : Connection W} {id : Nat} {stage old : Stage}

/-! ### Views -/

theorem stage?_congr (h : b.calls = c.calls) : b.stage? = c.stage? := by
  funext j
  rw [stage?, h, stage?]

theorem stage?_self {new : Option Stage} (h : b.stage? = Function.update c.stage? id new) :
    b.stage? id = new := by
  rw [h, Function.update_self]

theorem stage?_setStage (hb : b.stage? = c.stage?) (h : c.stage? id = some old) :
    (b.setStage id stage).stage? = Function.update c.stage? id (some stage) := by
  rw [← hb] at h ⊢
  funext j
  have hcomp : ((fun call : Call => call.id == j) ∘
      fun call : Call => if call.id = id then { call with stage } else call) =
      fun call => call.id == j := by
    funext call
    simp only [Function.comp_apply]
    split_ifs <;> rfl
  simp only [stage?, setStage, List.find?_map, hcomp, Option.map_map]
  rcases hj : b.calls.find? (·.id == j) with _ | call
  · have hne : j ≠ id := by
      rintro rfl
      rw [stage?, hj] at h
      cases h
    simp [stage?, hne, hj]
  · have hid : call.id = j := by simpa using List.find?_some hj
    rcases eq_or_ne j id with rfl | hne
    · simp only [hj, Option.map_some, Function.comp_apply, if_pos hid, Function.update_self]
    · simp [stage?, hid, hne, hj]

theorem stage?_reply {r : Reply} (hb : b.stage? = c.stage?) (h : c.stage? id = some old) :
    (b.reply id r).stage? = Function.update c.stage? id (some (.replied r)) :=
  stage?_setStage (b := b.leave id) hb h

theorem stage?_enter (h : c.stage? c.nextId = none) :
    (c.enter stage).stage? = Function.update c.stage? c.nextId (some stage) := by
  funext j
  simp only [stage?, enter, List.find?_append]
  rcases eq_or_ne j c.nextId with rfl | hne
  · rw [stage?, Option.map_eq_none_iff] at h
    simp [h]
  · rw [Function.update_of_ne hne]
    simp [stage?, Ne.symm hne]

theorem stage?_cancel : (c.cancel id).stage? = Function.update c.stage? id none := by
  funext j
  simp only [stage?, cancel, leave, List.find?_filter]
  rcases eq_or_ne j id with rfl | hne
  · rw [Function.update_self, Option.map_eq_none_iff, List.find?_eq_none]
    simp
  · rw [Function.update_of_ne hne]
    congr 2
    funext call
    rcases eq_or_ne call.id j with rfl | h
    · simp [hne]
    · simp [h]

theorem mem_of_mem_leave {j : Nat} (h : j ∈ (c.leave id).writers) : j ∈ c.writers :=
  List.mem_of_mem_filter h

/-! ### Making calls -/

/-- **What making a call does.** It is refused, or it waits for its half. -/
inductive Issued (c : Connection W) : Request → Connection W → Prop
  | sendRefused {data : Bytes} {r : Reply} (h : c.life.refuseSend? = some r) :
    Issued c (.send data) (c.enter (.replied r))
  | receiveRefused {max : Nat} {r : Reply} (h : c.life.refuseReceive? max = some r) :
    Issued c (.receive max) (c.enter (.replied r))
  | closeRefused (h : c.life.beginClose? = none) :
    Issued c .close (c.enter (.replied (.refused .alreadyClosed)))
  | send {data : Bytes} (h : c.life.refuseSend? = none) :
    Issued c (.send data)
      { c.enter (.sendQueued data) with writers := c.writers ++ [c.nextId] }
  | receive {max : Nat} (h : c.life.refuseReceive? max = none) :
    Issued c (.receive max)
      { c.enter (.receiveQueued max) with readers := c.readers ++ [c.nextId] }
  | close {graceful : Bool} {life : Life} (h : c.life.beginClose? = some (graceful, life)) :
    Issued c .close
      { c.enter (.closeQueued graceful) with
        life, signalled := true, writers := c.writers ++ [c.nextId] }

theorem issued_issue (c : Connection W) (request : Request) :
    Issued c request (c.issue request).2 := by
  rcases request with data | max | _ <;> simp only [issue] <;> split <;> rename_i h
  · exact .sendRefused h
  · exact .send h
  · exact .receiveRefused h
  · exact .receive h
  · exact .closeRefused h
  · exact .close h

theorem fst_issue (c : Connection W) (request : Request) :
    (c.issue request).1 = c.nextId := by
  rcases request with data | max | _ <;> simp only [issue] <;> split <;> rfl

/-- The stages a call can begin at. -/
inductive Begins (l : Life) : Request → Stage → Prop
  | refused {request : Request} (e : CallError) : Begins l request (.replied (.refused e))
  /-- The peer was seen to have closed its side. -/
  | ended {max : Nat} (h : l.remoteClosed = true) :
    Begins l (.receive max) (.replied (.received []))
  | send {data : Bytes} : Begins l (.send data) (.sendQueued data)
  | receive {max : Nat} (h : 0 < max) : Begins l (.receive max) (.receiveQueued max)
  | close {graceful : Bool} : Begins l .close (.closeQueued graceful)

theorem Issued.exists_begins {request : Request} (h : Issued c request b) :
    ∃ new, Begins c.life request new ∧ b.calls = (c.enter new).calls := by
  cases h with
  | sendRefused h =>
    obtain ⟨e, rfl⟩ := Life.refuseSend?_eq_some h
    exact ⟨_, .refused e, rfl⟩
  | receiveRefused h =>
    rcases Life.refuseReceive?_eq_some h with ⟨e, rfl⟩ | ⟨rfl, -, -, hremote, -⟩
    · exact ⟨_, .refused e, rfl⟩
    · exact ⟨_, .ended hremote, rfl⟩
  | closeRefused => exact ⟨_, .refused _, rfl⟩
  | send => exact ⟨_, .send, rfl⟩
  | receive h => exact ⟨_, .receive (Life.pos_of_refuseReceive? h), rfl⟩
  | close => exact ⟨_, .close, rfl⟩

theorem Issued.wire {request : Request} (h : Issued c request b) : b.wire = c.wire := by
  cases h <;> rfl

theorem Issued.mem_writers {request : Request} (h : Issued c request b) {j : Nat}
    (hj : j ∈ b.writers) : j ∈ c.writers ∨ j = c.nextId := by
  cases h with
  | send => simpa using hj
  | close => simpa using hj
  | _ => exact Or.inl hj

theorem Issued.nextId {request : Request} (h : Issued c request b) : b.nextId = c.nextId + 1 := by
  cases h <;> rfl

/-! ### Holding a half -/

/-- A send that holds the writing half has some bytes left to write, or to flush. -/
def Sends (c : Connection W) (id : Nat) (rest : Bytes) : Prop :=
  c.stage? id = some (.sendHolding rest) ∨ c.stage? id = some (.sending rest)

/-- A receive that holds the reading half has room for some bytes. -/
def Receives (c : Connection W) (id max : Nat) : Prop :=
  c.stage? id = some (.receiveHolding max) ∨ c.stage? id = some (.receiving max)

/-- A close that can shut the writing half down. -/
def ShutsDown (c : Connection W) (id : Nat) : Prop :=
  c.stage? id = some (.closeQueued true) ∧ c.holdsWriter id = true ∧ c.hasWriter = true ∨
    c.stage? id = some .shuttingDown

theorem Sends.exists_stage {rest : Bytes} (h : c.Sends id rest) :
    ∃ old, c.stage? id = some old ∧ old.writes = true ∧ old.reads = false ∧ old.midway = true := by
  rcases h with h | h
  · exact ⟨_, h, rfl, rfl, rfl⟩
  · exact ⟨_, h, rfl, rfl, rfl⟩

theorem Receives.exists_stage {max : Nat} (h : c.Receives id max) :
    ∃ old, c.stage? id = some old ∧ old.writes = false ∧ old.reads = true ∧ old.midway = true := by
  rcases h with h | h
  · exact ⟨_, h, rfl, rfl, rfl⟩
  · exact ⟨_, h, rfl, rfl, rfl⟩

theorem ShutsDown.exists_stage (h : c.ShutsDown id) :
    ∃ old, c.stage? id = some old ∧ old.writes = true ∧ old.reads = false := by
  rcases h with ⟨h, -⟩ | h
  · exact ⟨_, h, rfl, rfl⟩
  · exact ⟨_, h, rfl, rfl⟩

/-! ### What moves nothing -/

/-- **No call moves.** The session may be let go of; halves, signal and phase may differ. -/
structure Still (c b : Connection W) : Prop where
  calls : b.calls = c.calls
  writers : b.writers = c.writers
  readers : b.readers = c.readers
  nextId : b.nextId = c.nextId
  remote : b.life.remoteClosed = c.life.remoteClosed

theorem Still.refl (c : Connection W) : Still c c := ⟨rfl, rfl, rfl, rfl, rfl⟩

theorem Still.trans {a : Connection W} (h : Still c b) (h' : Still b a) : Still c a :=
  ⟨h'.calls.trans h.calls, h'.writers.trans h.writers, h'.readers.trans h.readers,
    h'.nextId.trans h.nextId, h'.remote.trans h.remote⟩

variable [Carrier W]

theorem still_settleSession (c : Connection W) : Still c c.settleSession := by
  unfold settleSession
  split_ifs
  · exact ⟨rfl, rfl, rfl, rfl, rfl⟩
  · exact Still.refl c

theorem still_dropWriter (c : Connection W) : Still c c.dropWriter :=
  have h : Still c { c with hasWriter := false } := ⟨rfl, rfl, rfl, rfl, rfl⟩
  h.trans (still_settleSession _)

theorem still_dropReader (c : Connection W) : Still c c.dropReader :=
  have h : Still c { c with hasReader := false } := ⟨rfl, rfl, rfl, rfl, rfl⟩
  h.trans (still_settleSession _)

theorem still_abort (c : Connection W) : Still c c.abort := by
  unfold abort
  split_ifs
  · exact Still.refl c
  · have h : Still c { c with life := c.life.abort, signalled := true } :=
      ⟨rfl, rfl, rfl, rfl, rfl⟩
    dsimp only
    split_ifs
    · exact h.trans ((still_dropWriter _).trans (still_dropReader _))
    · exact h.trans (still_dropWriter _)
    · exact h.trans (still_dropReader _)
    · exact h

theorem stage?_dropWriter : c.dropWriter.stage? = c.stage? :=
  stage?_congr (still_dropWriter c).calls

theorem stage?_dropReader : c.dropReader.stage? = c.stage? :=
  stage?_congr (still_dropReader c).calls

theorem stage?_closeWriter (hb : b.stage? = c.stage?) (h : c.stage? id = some old) :
    (b.closeWriter id).stage? = Function.update c.stage? id (some .closingReader) := by
  have hdrop : (b.leave id).dropWriter.stage? = c.stage? := stage?_dropWriter.trans hb
  exact stage?_setStage (b := { (b.leave id).dropWriter with
    readers := (b.leave id).dropWriter.readers ++ [id] }) hdrop h

/-! ### Going on -/

/-- **What letting a call go on does.** -/
inductive Goes (c : Connection W) (id : Nat) : Connection W → Prop
  /-- Nothing. -/
  | stays : Goes c id c
  /-- A call that waits for its half ends. -/
  | sendWoken {data : Bytes} (hs : c.stage? id = some (.sendQueued data))
    (hwhy : c.signalled = true ∨ c.hasWriter = false) : Goes c id (c.reply id (.refused .closed))
  | receiveWoken {max : Nat} (hs : c.stage? id = some (.receiveQueued max))
    (hwhy : c.signalled = true ∨ c.hasReader = false) : Goes c id (c.reply id (.refused .closed))
  /-- A call takes its half. -/
  | sendTakes {data : Bytes} (hs : c.stage? id = some (.sendQueued data))
    (hh : c.holdsWriter id = true) (hw : c.hasWriter = true) :
    Goes c id (c.setStage id (.sendHolding data))
  | receiveTakes {max : Nat} (hs : c.stage? id = some (.receiveQueued max))
    (hh : c.holdsReader id = true) (hr : c.hasReader = true) :
    Goes c id (c.setStage id (.receiveHolding max))
  /-- A call that holds its half drops it and ends, be it before its transfer or since that has to
  wait. -/
  | sendStopped {rest : Bytes} {wire : W} (hs : c.Sends id rest) (hsig : c.signalled = true)
    (hw : wire = c.wire ∨ ∃ left, Carrier.write c.wire rest = (.blocked left, wire)) :
    Goes c id (stopSend { c with wire } id)
  | receiveStopped {max : Nat} {wire : W} (hs : c.Receives id max) (hsig : c.signalled = true)
    (hw : wire = c.wire ∨ Carrier.read c.wire max = (.blocked, wire)) :
    Goes c id (stopReceive { c with wire } id)
  /-- Bytes are written, all of them, or some, or there is a failure. -/
  | sent {rest : Bytes} {wire : W} (hs : c.Sends id rest)
    (hw : Carrier.write c.wire rest = (.done, wire)) : Goes c id ({ c with wire }.reply id .done)
  | sentInPart {rest left : Bytes} {wire : W} (hs : c.Sends id rest)
    (hw : Carrier.write c.wire rest = (.blocked left, wire)) (hsig : c.signalled = false) :
    Goes c id ({ c with wire }.setStage id (.sending left))
  | sendFailed {rest : Bytes} {wire : W} {f : IoFailure} (hs : c.Sends id rest)
    (hw : Carrier.write c.wire rest = (.failed f, wire)) :
    Goes c id ({ c with wire, life := c.life.fail }.reply id (.refused (.sendFailed f.message)))
  /-- Bytes are read, or there are none yet, or there is a failure. -/
  | received {max : Nat} {bytes : Bytes} {wire : W} (hs : c.Receives id max)
    (hw : Carrier.read c.wire max = (.data bytes, wire)) :
    Goes c id
      (reply { c with
        wire
        life := if Carrier.endsEmpty W && bytes.isEmpty then c.life.endOfStream else c.life } id
        (.received bytes))
  | receiveWaits {max : Nat} {wire : W} (hs : c.Receives id max)
    (hw : Carrier.read c.wire max = (.blocked, wire)) (hsig : c.signalled = false) :
    Goes c id ({ c with wire }.setStage id (.receiving max))
  | receiveFailed {max : Nat} {wire : W} {f : IoFailure} (hs : c.Receives id max)
    (hw : Carrier.read c.wire max = (.failed f, wire)) :
    Goes c id ({ c with wire, life := c.life.fail }.reply id (.refused (.receiveFailed f.message)))
  /-- The writing half is shut down for a close, or that hangs, or is left out. -/
  | shutDown {wire : W} (hs : c.ShutsDown id) (hw : Carrier.shutdown c.wire = (true, wire)) :
    Goes c id ({ c with wire }.closeWriter id)
  | shutdownHangs {wire : W} (hs : c.ShutsDown id)
    (hw : Carrier.shutdown c.wire = (false, wire)) :
    Goes c id ({ c with wire }.setStage id .shuttingDown)
  | shutdownSkipped {graceful : Bool} (hs : c.stage? id = some (.closeQueued graceful))
    (hh : c.holdsWriter id = true) (hwhy : graceful = false ∨ c.hasWriter = false) :
    Goes c id (c.closeWriter id)
  /-- A close is done. -/
  | closed (hs : c.stage? id = some .closingReader) (hh : c.holdsReader id = true) :
    Goes c id ({ c.dropReader with life := c.dropReader.life.finish }.reply id .done)

theorem Goes.nextId (h : Goes c id b) : b.nextId = c.nextId := by
  cases h with
  | @sendStopped rest wire => exact (still_dropWriter { c with wire }).nextId
  | @receiveStopped max wire => exact (still_dropReader { c with wire }).nextId
  | @shutDown wire => exact (still_dropWriter ({ c with wire }.leave id)).nextId
  | shutdownSkipped => exact (still_dropWriter (c.leave id)).nextId
  | closed => exact (still_dropReader c).nextId
  | _ => rfl

/-- No call joins the writers by going on. -/
theorem Goes.writers_subset (h : Goes c id b) : b.writers ⊆ c.writers := by
  intro j hj
  cases h with
  | stays => exact hj
  | sendTakes => exact hj
  | receiveTakes => exact hj
  | @sendStopped rest wire =>
    have hwriters := (still_dropWriter { c with wire }).writers
    exact hwriters ▸ mem_of_mem_leave hj
  | @receiveStopped max wire =>
    have hwriters := (still_dropReader { c with wire }).writers
    exact hwriters ▸ mem_of_mem_leave hj
  | sentInPart => exact hj
  | receiveWaits => exact hj
  | shutdownHangs => exact hj
  | @shutDown wire =>
    have hwriters := (still_dropWriter (leave { c with wire } id)).writers
    exact mem_of_mem_leave (hwriters ▸ hj : j ∈ (c.leave id).writers)
  | shutdownSkipped =>
    have hwriters := (still_dropWriter (c.leave id)).writers
    exact mem_of_mem_leave (hwriters ▸ hj : j ∈ (c.leave id).writers)
  | closed =>
    rw [← (still_dropReader c).writers]
    exact mem_of_mem_leave hj
  | _ => exact mem_of_mem_leave hj

theorem goes_pollWrite {rest : Bytes} (hs : c.Sends id rest) : Goes c id (c.pollWrite id rest) := by
  unfold pollWrite
  rcases hw : Carrier.write c.wire rest with ⟨_ | left | f, wire⟩
  · exact .sent hs hw
  · dsimp only
    split_ifs with hsig
    · exact .sendStopped hs hsig (Or.inr ⟨left, hw⟩)
    · exact .sentInPart hs hw (by simpa using hsig)
  · exact .sendFailed hs hw

theorem goes_pollRead {max : Nat} (hs : c.Receives id max) : Goes c id (c.pollRead id max) := by
  unfold pollRead
  rcases hw : Carrier.read c.wire max with ⟨bytes | _ | f, wire⟩
  · exact .received hs hw
  · dsimp only
    split_ifs with hsig
    · exact .receiveStopped hs hsig (Or.inr hw)
    · exact .receiveWaits hs hw (by simpa using hsig)
  · exact .receiveFailed hs hw

theorem goes_pollShutdown (hs : c.ShutsDown id) : Goes c id (c.pollShutdown id) := by
  unfold pollShutdown
  rcases hw : Carrier.shutdown c.wire with ⟨_ | _, wire⟩
  · exact .shutdownHangs hs hw
  · exact .shutDown hs hw

/-- A call that is done or forgotten stays so. -/
theorem poll_eq_self {branch : Branch}
    (h : ∀ stage, c.stage? id = some stage → ∃ r, stage = .replied r) : c.poll branch id = c := by
  unfold poll
  rcases hs : c.stage? id with _ | stage
  · rfl
  · obtain ⟨r, rfl⟩ := h stage hs
    rfl

theorem goes_poll (branch : Branch) (id : Nat) (c : Connection W) :
    Goes c id (c.poll branch id) := by
  unfold poll
  split
  · exact .stays
  · exact .stays
  · rename_i data hs
    split_ifs with hsig hh hw
    · rw [Bool.and_eq_true] at hsig
      exact .sendWoken hs (Or.inl hsig.1)
    · exact .stays
    · exact .sendWoken hs (Or.inr (by simpa using hw))
    · exact .sendTakes hs (by simpa using hh) (by simpa using hw)
  · rename_i data hs
    split_ifs with hsig
    · rw [Bool.and_eq_true] at hsig
      exact .sendStopped (Or.inl hs) hsig.1 (Or.inl rfl)
    · exact goes_pollWrite (Or.inl hs)
  · rename_i rest hs
    split_ifs with hsig hw
    · rw [Bool.and_eq_true] at hsig
      exact .sendStopped (Or.inr hs) hsig.1 (Or.inl rfl)
    · exact .stays
    · exact goes_pollWrite (Or.inr hs)
  · rename_i max hs
    split_ifs with hsig hh hr
    · rw [Bool.and_eq_true] at hsig
      exact .receiveWoken hs (Or.inl hsig.1)
    · exact .stays
    · exact .receiveWoken hs (Or.inr (by simpa using hr))
    · exact .receiveTakes hs (by simpa using hh) (by simpa using hr)
  · rename_i max hs
    split_ifs with hsig
    · rw [Bool.and_eq_true] at hsig
      exact .receiveStopped (Or.inl hs) hsig.1 (Or.inl rfl)
    · exact goes_pollRead (Or.inl hs)
  · rename_i max hs
    split_ifs with hsig hr
    · rw [Bool.and_eq_true] at hsig
      exact .receiveStopped (Or.inr hs) hsig.1 (Or.inl rfl)
    · exact .stays
    · exact goes_pollRead (Or.inr hs)
  · rename_i graceful hs
    split_ifs with hh hg
    · exact .stays
    · rw [Bool.and_eq_true] at hg
      rw [hg.1] at hs
      exact goes_pollShutdown (Or.inl ⟨hs, by simpa using hh, hg.2⟩)
    · rw [Bool.and_eq_true, not_and_or, Bool.not_eq_true, Bool.not_eq_true] at hg
      exact .shutdownSkipped hs (by simpa using hh) hg
  · rename_i hs
    split_ifs with hhang
    · exact .stays
    · exact goes_pollShutdown (Or.inr hs)
  · rename_i hs
    split_ifs with hh
    · exact .stays
    · exact .closed hs (by simpa using hh)

end Connection

end Dialer
