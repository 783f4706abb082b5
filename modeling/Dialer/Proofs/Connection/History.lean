import Dialer.Proofs.Connection.Coherence
import Dialer.Proofs.Connection.Transfer

/-!
# Histories of a connection

Calls are made on a connection, go on when the runtime lets them, and are given up, all in any
order. A `CallRecord` is a connection together with the calls made on it and the replies they got,
whatever carries its data. A `History` is the record of a stream connection whose peer writes, reads
and closes meanwhile; each thing that happens is an `Event`. The record of a datagram connection is
its own history (`DatagramEvent`).

* `CallRecord.Tracked`: a stage or reply of a call suits the call. This holds along every history.
-/

namespace Dialer

/-! ### What suits a call -/

/-- Whether a reply can be given to a call. -/
def Reply.Answers (request : Request) : Reply → Prop
  | .done => request = .close ∨ ∃ data, request = .send data
  | .received bytes => ∃ max, request = .receive max ∧ bytes.length ≤ max
  | .refused _ => True

/-- Whether a call can be at a stage. -/
def Stage.Suits (request : Request) : Stage → Prop
  | .sendQueued data | .sendHolding data => request = .send data
  | .sending rest => ∃ whole, request = .send whole ∧ rest <:+ whole
  | .receiveQueued max | .receiveHolding max | .receiving max => request = .receive max ∧ 0 < max
  | .closeQueued _ | .shuttingDown | .closingReader => request = .close
  | .replied r => r.Answers request

namespace Connection

variable {W : Type} {b c : Connection W} {id : Nat} {r : Reply} {request : Request}

theorem reply?_eq_some : c.reply? id = some r ↔ c.stage? id = some (.replied r) := by
  unfold reply?
  split
  · rename_i s hs; simp [hs]
  · rename_i hs
    exact ⟨nofun, fun h => absurd h (hs r)⟩

theorem Sends.suits {rest : Bytes} (h : c.Sends id rest)
    (hs : ∀ old, c.stage? id = some old → old.Suits request) :
    ∃ whole, request = .send whole ∧ rest <:+ whole := by
  rcases h with h | h
  · exact ⟨rest, hs _ h, List.suffix_refl _⟩
  · exact hs _ h

theorem Receives.suits {max : Nat} (h : c.Receives id max)
    (hs : ∀ old, c.stage? id = some old → old.Suits request) :
    request = .receive max ∧ 0 < max := by
  rcases h with h | h
  · exact hs _ h
  · exact hs _ h

theorem ShutsDown.suits (h : c.ShutsDown id)
    (hs : ∀ old, c.stage? id = some old → old.Suits request) : request = .close := by
  rcases h with ⟨h, -⟩ | h
  · exact hs _ h
  · exact hs _ h

theorem Begins.suits {l : Life} {stage : Stage} (h : Begins l request stage) :
    stage.Suits request := by
  cases h with
  | refused => trivial
  | ended => exact ⟨_, rfl, Nat.zero_le _⟩
  | send => rfl
  | receive h => exact ⟨rfl, h⟩
  | close => rfl

/-- **A call that is made changes no stage but its own.** -/
theorem Issued.eq_update (hc : c.Coherent) (h : Issued c request b) :
    ∃ new, Begins c.life request new ∧
      b.stage? = Function.update c.stage? c.nextId (some new) := by
  obtain ⟨new, hnew, hcalls⟩ := h.exists_begins
  exact ⟨new, hnew, (stage?_congr hcalls).trans (stage?_enter (hc.fresh _ (Nat.le_refl _)))⟩

variable [Carrier W] [LawfulCarrier W]

/-- **A call that goes on changes no stage but its own,** and that as suits it. -/
theorem Goes.eq_or_update (h : Goes c id b) : b = c ∨
    ∃ new : Stage, b.stage? = Function.update c.stage? id (some new) ∧
      ∀ request, (∀ old, c.stage? id = some old → old.Suits request) → new.Suits request := by
  have hrefused : ∀ e request, (Stage.replied (.refused e)).Suits request := fun _ _ => trivial
  cases h with
  | stays => exact Or.inl rfl
  | sendWoken h => exact Or.inr ⟨_, stage?_reply rfl h, fun _ _ => hrefused _ _⟩
  | receiveWoken h => exact Or.inr ⟨_, stage?_reply rfl h, fun _ _ => hrefused _ _⟩
  | @sendTakes data h =>
    exact Or.inr ⟨_, stage?_setStage rfl h, fun _ hs => hs (.sendQueued data) h⟩
  | @receiveTakes max h =>
    exact Or.inr ⟨_, stage?_setStage rfl h, fun _ hs => hs (.receiveQueued max) h⟩
  | sendStopped h =>
    obtain ⟨old, hold, -⟩ := h.exists_stage
    exact Or.inr ⟨_, stage?_reply stage?_dropWriter hold, fun _ _ => hrefused _ _⟩
  | receiveStopped h =>
    obtain ⟨old, hold, -⟩ := h.exists_stage
    exact Or.inr ⟨_, stage?_reply stage?_dropReader hold, fun _ _ => hrefused _ _⟩
  | sent h =>
    obtain ⟨old, hold, -⟩ := h.exists_stage
    refine Or.inr ⟨_, stage?_reply rfl hold, fun request hs => ?_⟩
    obtain ⟨whole, hwhole, -⟩ := h.suits hs
    exact Or.inr ⟨whole, hwhole⟩
  | @sentInPart rest left wire h hw =>
    obtain ⟨old, hold, -⟩ := h.exists_stage
    refine Or.inr ⟨_, stage?_setStage rfl hold, fun request hs => ?_⟩
    obtain ⟨whole, hwhole, hsuffix⟩ := h.suits hs
    exact ⟨whole, hwhole, (LawfulCarrier.suffix_of_write hw).trans hsuffix⟩
  | sendFailed h =>
    obtain ⟨old, hold, -⟩ := h.exists_stage
    exact Or.inr ⟨_, stage?_reply rfl hold, fun _ _ => hrefused _ _⟩
  | @received max bytes wire h hw =>
    obtain ⟨old, hold, -⟩ := h.exists_stage
    refine Or.inr ⟨_, stage?_reply rfl hold, fun request hs => ?_⟩
    exact ⟨max, (h.suits hs).1, LawfulCarrier.length_of_read hw⟩
  | receiveWaits h =>
    obtain ⟨old, hold, -⟩ := h.exists_stage
    exact Or.inr ⟨_, stage?_setStage rfl hold, fun request hs => h.suits hs⟩
  | receiveFailed h =>
    obtain ⟨old, hold, -⟩ := h.exists_stage
    exact Or.inr ⟨_, stage?_reply rfl hold, fun _ _ => hrefused _ _⟩
  | shutDown h =>
    obtain ⟨old, hold, -⟩ := h.exists_stage
    exact Or.inr ⟨_, stage?_closeWriter rfl hold, fun request hs => h.suits hs⟩
  | shutdownHangs h =>
    obtain ⟨old, hold, -⟩ := h.exists_stage
    exact Or.inr ⟨_, stage?_setStage rfl hold, fun request hs => h.suits hs⟩
  | @shutdownSkipped graceful h =>
    refine Or.inr ⟨_, stage?_closeWriter rfl h, fun request hs => ?_⟩
    exact hs (.closeQueued graceful) h
  | closed h =>
    exact Or.inr ⟨_, stage?_reply (b := { c.dropReader with
      life := c.dropReader.life.finish }) stage?_dropReader h, fun request hs => Or.inl (hs _ h)⟩

theorem Goes.stage?_of_ne (h : Goes c id b) {j : Nat} (hj : j ≠ id) : b.stage? j = c.stage? j := by
  rcases h.eq_or_update with rfl | ⟨new, heq, -⟩
  · rfl
  · rw [heq, Function.update_of_ne hj]

end Connection

/-! ### Records -/

/-- **A connection, the calls made on it and the replies they got.** -/
structure CallRecord (W : Type) where
  connection : Connection W
  /-- The calls in the order they were made in; a call's place is its identity. -/
  issued : List Request := []
  /-- The replies to calls, in the order they were given in. -/
  replies : List (Nat × Reply) := []

namespace CallRecord

section

variable {W : Type}

/-- The reply to a call that had none before. -/
def newReply (before after : Connection W) (id : Nat) : List (Nat × Reply) :=
  match before.reply? id, after.reply? id with
  | none, some r => [(id, r)]
  | _, _ => []

/-- A call is made. -/
def issue (l : CallRecord W) (request : Request) : CallRecord W :=
  let (id, connection) := l.connection.issue request
  { connection
    issued := l.issued ++ [request]
    replies := l.replies ++ newReply l.connection connection id }

/-- A call may go on. -/
def poll [Carrier W] (l : CallRecord W) (branch : Branch) (id : Nat) : CallRecord W :=
  let connection := l.connection.poll branch id
  { l with connection, replies := l.replies ++ newReply l.connection connection id }

/-- A call is given up. -/
def cancel (l : CallRecord W) (id : Nat) : CallRecord W :=
  { l with connection := l.connection.cancel id }

/-- The connection is aborted. -/
def abort [Carrier W] (l : CallRecord W) : CallRecord W :=
  { l with connection := l.connection.abort }

/-- Something happens to what carries the data. -/
def onWire (l : CallRecord W) (f : W → W) : CallRecord W :=
  { l with connection := { l.connection with wire := f l.connection.wire } }

/-- The record of a connection that has just been established. -/
def start (wire : W) : CallRecord W := { connection := { wire } }

end

variable {W : Type} {l : CallRecord W} {b c : Connection W} {id : Nat} {r : Reply}

/-! #### New replies -/

theorem mem_newReply {j : Nat} : (j, r) ∈ newReply c b id ↔
    j = id ∧ c.reply? id = none ∧ b.stage? id = some (.replied r) := by
  rw [← Connection.reply?_eq_some, newReply]
  rcases c.reply? id with _ | old
  · rcases b.reply? id with _ | new
    · simp
    · simp [eq_comm (a := r)]
  · simp

theorem newReply_self (c : Connection W) (id : Nat) : newReply c c id = [] := by
  unfold newReply
  rcases c.reply? id with _ | r <;> rfl

theorem newReply_of_replied (hnone : c.reply? id = none) (hb : b.stage? id = some (.replied r)) :
    newReply c b id = [(id, r)] := by
  rw [newReply, hnone, Connection.reply?_eq_some.mpr hb]

theorem newReply_of_waiting {stage : Stage} (hb : b.stage? id = some stage)
    (hstage : ∀ r, stage ≠ .replied r) : newReply c b id = [] := by
  refine List.eq_nil_iff_forall_not_mem.mpr fun ⟨j, r⟩ hmem => ?_
  obtain ⟨rfl, -, hr⟩ := mem_newReply.mp hmem
  rw [hb] at hr
  exact hstage r (Option.some.inj hr)

theorem length_newReply_le (c b : Connection W) (id : Nat) : (newReply c b id).length ≤ 1 := by
  unfold newReply
  split
  · exact Nat.le_refl 1
  · exact Nat.zero_le 1

/-! #### Stages and replies along a record -/

theorem issue_eq (l : CallRecord W) (request : Request) : l.issue request =
    { connection := (l.connection.issue request).2
      issued := l.issued ++ [request]
      replies := l.replies ++
        newReply l.connection (l.connection.issue request).2 l.connection.nextId } := by
  rw [← Connection.fst_issue l.connection request]
  rfl

/-- **Stages and replies suit the calls,** and no reply goes unseen. -/
structure Tracked (l : CallRecord W) : Prop where
  coherent : l.connection.Coherent
  nextId : l.connection.nextId = l.issued.length
  suits : ∀ id stage, l.connection.stage? id = some stage →
    ∃ request, l.issued[id]? = some request ∧ stage.Suits request
  answers : ∀ id r, (id, r) ∈ l.replies →
    ∃ request, l.issued[id]? = some request ∧ r.Answers request
  recorded : ∀ id r, l.connection.stage? id = some (.replied r) → (id, r) ∈ l.replies

namespace Tracked

theorem start (wire : W) : (start wire).Tracked where
  coherent := Connection.coherent_start wire
  nextId := rfl
  suits := nofun
  answers := nofun
  recorded := nofun

/-- Nothing but calls and replies matters. -/
theorem congr (ht : l.Tracked) {g : CallRecord W} (hc : g.connection.Coherent)
    (hs : g.connection.stage? = l.connection.stage?)
    (hn : g.connection.nextId = l.connection.nextId) (hi : g.issued = l.issued)
    (hr : g.replies = l.replies) : g.Tracked := by
  constructor
  · exact hc
  · rw [hn, hi]; exact ht.nextId
  · rw [hs, hi]; exact ht.suits
  · rw [hr, hi]; exact ht.answers
  · rw [hs, hr]; exact ht.recorded

/-- A call is made, or goes on, and gets a reply perhaps. -/
theorem update (ht : l.Tracked) {g : CallRecord W} {new : Stage} {request : Request}
    (hc : g.connection.Coherent) (hn : g.connection.nextId = g.issued.length)
    (hs : g.connection.stage? = Function.update l.connection.stage? id (some new))
    (hi : ∀ (j : Nat) other, l.issued[j]? = some other → g.issued[j]? = some other)
    (hid : g.issued[id]? = some request) (hnew : new.Suits request)
    (hr : g.replies = l.replies ++ newReply l.connection g.connection id)
    (hnone : l.connection.reply? id = none) : g.Tracked := by
  have hself : g.connection.stage? id = some new := by rw [hs, Function.update_self]
  constructor
  · exact hc
  · exact hn
  · intro j stage hst
    rcases eq_or_ne j id with rfl | hj
    · rw [hself] at hst
      cases hst
      exact ⟨request, hid, hnew⟩
    · rw [hs, Function.update_of_ne hj] at hst
      obtain ⟨other, hother, hsuits⟩ := ht.suits j stage hst
      exact ⟨other, hi j other hother, hsuits⟩
  · intro j r hmem
    rw [hr, List.mem_append, mem_newReply] at hmem
    rcases hmem with hmem | ⟨rfl, -, hst⟩
    · obtain ⟨other, hother, hans⟩ := ht.answers j r hmem
      exact ⟨other, hi j other hother, hans⟩
    · rw [hself] at hst
      cases hst
      exact ⟨request, hid, hnew⟩
  · intro j r hst
    rw [hr, List.mem_append, mem_newReply]
    rcases eq_or_ne j id with rfl | hj
    · exact Or.inr ⟨rfl, hnone, hst⟩
    · rw [hs, Function.update_of_ne hj] at hst
      exact Or.inl (ht.recorded j r hst)

theorem issue (ht : l.Tracked) (request : Request) : (l.issue request).Tracked := by
  have hi := Connection.issued_issue l.connection request
  obtain ⟨new, hbegins, hs⟩ := hi.eq_update ht.coherent
  have hfresh : l.connection.reply? l.connection.nextId = none := by
    rw [Connection.reply?, ht.coherent.fresh _ (Nat.le_refl _)]
  rw [issue_eq]
  refine ht.update (ht.coherent.issued hi) ?_ hs (fun j other hj => ?_) ?_ hbegins.suits rfl hfresh
  · rw [hi.nextId, ht.nextId, List.length_append, List.length_singleton]
  · obtain ⟨hlt, -⟩ := List.getElem?_eq_some_iff.mp hj
    rw [← hj]
    exact List.getElem?_append_left hlt
  · rw [ht.nextId]
    exact List.getElem?_concat_length

/-- The call at an identity that is known. -/
theorem exists_request (ht : l.Tracked) {stage : Stage} (hs : l.connection.stage? id = some stage) :
    ∃ request, l.issued[id]? = some request ∧
      ∀ old, l.connection.stage? id = some old → old.Suits request := by
  obtain ⟨request, hreq, hsuits⟩ := ht.suits id stage hs
  refine ⟨request, hreq, fun old hold => ?_⟩
  rw [hs] at hold
  cases hold
  exact hsuits

theorem cancel (ht : l.Tracked) (id : Nat) : (l.cancel id).Tracked := by
  have hs : (l.connection.cancel id).stage? = _ := Connection.stage?_cancel
  have hold : ∀ j stage, (l.connection.cancel id).stage? j = some stage →
      l.connection.stage? j = some stage := by
    intro j stage hst
    rw [hs] at hst
    rcases eq_or_ne j id with rfl | hj
    · rw [Function.update_self] at hst
      cases hst
    · rwa [Function.update_of_ne hj] at hst
  exact ⟨ht.coherent.cancel id, ht.nextId, fun j stage hst => ht.suits j stage (hold j stage hst),
    ht.answers, fun j r hst => ht.recorded j r (hold j _ hst)⟩

theorem onWire (ht : l.Tracked) (f : W → W) : (l.onWire f).Tracked :=
  ht.congr (ht.coherent.congr rfl rfl rfl rfl) rfl rfl rfl rfl

end Tracked

/-! #### Going on -/

variable [Carrier W]

theorem poll_eq_self {branch : Branch} (hb : l.connection.poll branch id = l.connection) :
    l.poll branch id = l := by
  rw [poll, hb, newReply_self, List.append_nil]

theorem poll_of_reply? {branch : Branch} (hr : l.connection.reply? id = some r) :
    l.poll branch id = l := by
  refine poll_eq_self (Connection.poll_eq_self fun stage hs => ?_)
  rw [Connection.reply?_eq_some.mp hr] at hs
  cases hs
  exact ⟨r, rfl⟩

namespace Tracked

theorem poll [LawfulCarrier W] (ht : l.Tracked) (branch : Branch) (id : Nat) :
    (l.poll branch id).Tracked := by
  rcases hr : l.connection.reply? id with _ | r
  · rcases hs : l.connection.stage? id with _ | stage
    · rw [poll_eq_self (Connection.poll_eq_self (by rw [hs]; nofun))]
      exact ht
    · obtain ⟨request, hreq, hsuits⟩ := ht.exists_request hs
      have hg := Connection.goes_poll branch id l.connection
      rcases hg.eq_or_update with heq | ⟨new, heq, hnew⟩
      · rw [poll_eq_self heq]
        exact ht
      · have hn : (l.connection.poll branch id).nextId = l.issued.length := by
          rw [hg.nextId, ht.nextId]
        exact ht.update (ht.coherent.goes hg) hn heq (fun _ _ hj => hj) hreq
          (hnew request hsuits) rfl hr
  · rw [poll_of_reply? hr]
    exact ht

theorem abort (ht : l.Tracked) : l.abort.Tracked :=
  have hstill := Connection.still_abort l.connection
  ht.congr (ht.coherent.still hstill) (Connection.stage?_congr hstill.calls) hstill.nextId rfl rfl

end Tracked

end CallRecord

/-! ### Histories of a stream connection -/

/-- One thing that happens to a stream connection. -/
inductive Event
  /-- A call is made. -/
  | issue (request : Request)
  /-- A call may go on. -/
  | poll (branch : Branch) (id : Nat)
  /-- A call is given up. -/
  | cancel (id : Nat)
  | abort
  | peerWrite (data : Bytes)
  | peerRead (max : Nat)
  /-- The peer writes nothing more. -/
  | peerShutdown
  /-- The peer goes away, and what it has not read is lost. -/
  | peerDrop
  /-- The next call of a kind on the wire will fail. -/
  | plant (call : WireCall) (failure : IoFailure)
  /-- Flushing will hang, or hang no more. -/
  | hangFlush (value : Bool)
  /-- Shutting down will hang, or hang no more. -/
  | hangShutdown (value : Bool)

theorem Event.exists_poll_or (event : Event) :
    (∃ branch id, event = .poll branch id) ∨ ∀ branch id, event ≠ .poll branch id := by
  cases event with
  | poll branch id => exact Or.inl ⟨branch, id, rfl⟩
  | _ => exact Or.inr nofun

/-- Whether an event is no operation on the connection: the peer acts, or the wire is tampered
with. -/
def Event.outside : Event → Bool
  | peerWrite _ | peerRead _ | peerShutdown | peerDrop | plant _ _ | hangFlush _
  | hangShutdown _ => true
  | issue _ | poll _ _ | cancel _ | abort => false

/-- **An event is an operation,** or happens outside. -/
theorem Event.operation_or_outside {P : Event → Prop} (issue : ∀ request, P (.issue request))
    (poll : ∀ branch id, P (.poll branch id)) (cancel : ∀ id, P (.cancel id)) (abort : P .abort)
    (outside : ∀ event : Event, event.outside = true → P event) (event : Event) : P event := by
  cases event with
  | issue request => exact issue request
  | poll branch id => exact poll branch id
  | cancel id => exact cancel id
  | abort => exact abort
  | _ => exact outside _ rfl

/-- **A stream connection and what has been seen of it.** -/
structure History extends CallRecord Wire where
  /-- What has left the outgoing pipe. -/
  taken : Bytes := []
  /-- What has come into the incoming pipe. -/
  given : Bytes := []

namespace History

/-- Change what lies between the connection and its peer. -/
def onWire (h : History) (f : Wire → Wire) : History :=
  { h with toCallRecord := h.toCallRecord.onWire f }

/-- **One event.** -/
def step (h : History) : Event → History
  | .issue request => { h with toCallRecord := h.toCallRecord.issue request }
  | .poll branch id => { h with toCallRecord := h.toCallRecord.poll branch id }
  | .cancel id => { h with toCallRecord := h.toCallRecord.cancel id }
  | .abort => { h with toCallRecord := h.toCallRecord.abort }
  | .peerWrite data =>
    let pipe := h.connection.wire.incoming
    if pipe.closed then h
    else
      { h.onWire fun w => { w with incoming := (pipe.put data).2 } with
        given := h.given ++ data.take pipe.room }
  | .peerRead max =>
    match h.connection.wire.outgoing.take? max with
    | none => h
    | some (bytes, outgoing) =>
      { h.onWire fun w => { w with outgoing } with taken := h.taken ++ bytes }
  | .peerShutdown => h.onWire fun w => { w with incoming := w.incoming.close }
  | .peerDrop =>
    { h.onWire fun w => { w with
        incoming := w.incoming.close
        outgoing := { w.outgoing.close with held := [] } } with
      taken := h.taken ++ h.connection.wire.outgoing.held }
  | .plant call failure => h.onWire fun w => w.plant call failure
  | .hangFlush value => h.onWire fun w => { w with flushHangs := value }
  | .hangShutdown value => h.onWire fun w => { w with shutdownHangs := value }

/-- The history of a connection that has just been established. -/
def start (capacity : Nat) : History :=
  { toCallRecord := .start (.ofCapacity capacity) }

/-- **Events in order.** -/
def run (h : History) (events : List Event) : History := events.foldl step h

/-- What a step preserves, a run preserves. -/
theorem run_induction {P : History → Prop} (hstep : ∀ h event, P h → P (h.step event)) {h : History}
    (hP : P h) (events : List Event) : P (h.run events) := by
  induction events generalizing h with
  | nil => exact hP
  | cons event events ih => exact ih (hstep h event hP)

variable {h : History} {id : Nat} {r : Reply}

theorem step_issue (h : History) (request : Request) : h.step (.issue request) =
    { h with
      connection := (h.connection.issue request).2
      issued := h.issued ++ [request]
      replies := h.replies ++
        CallRecord.newReply h.connection (h.connection.issue request).2 h.connection.nextId } := by
  exact congrArg (fun l => { h with toCallRecord := l }) (CallRecord.issue_eq _ request)

theorem step_poll (h : History) (branch : Branch) (id : Nat) : h.step (.poll branch id) =
    { h with
      connection := h.connection.poll branch id
      replies := h.replies ++ CallRecord.newReply h.connection (h.connection.poll branch id) id } := rfl

/-- The peer writes what there is room for, and nothing once the pipe is closed. -/
theorem step_peerWrite (h : History) (data : Bytes) : h.step (.peerWrite data) =
    if h.connection.wire.incoming.closed then h
    else
      { h.onWire fun w => { w with incoming := (h.connection.wire.incoming.put data).2 } with
        given := h.given ++ data.take h.connection.wire.incoming.room } := rfl

/-- The peer reads bytes, or nothing is there. -/
theorem step_peerRead (h : History) (max : Nat) : h.step (.peerRead max) = h ∨
    ∃ bytes outgoing, h.connection.wire.outgoing.take? max = some (bytes, outgoing) ∧
      h.step (.peerRead max) =
        { h.onWire fun w => { w with outgoing } with taken := h.taken ++ bytes } := by
  rcases htake : h.connection.wire.outgoing.take? max with _ | ⟨bytes, outgoing⟩
  · left
    simp only [step, htake]
  · refine Or.inr ⟨bytes, outgoing, rfl, ?_⟩
    simp only [step, htake]

/-- **What happens outside** touches nothing but the wire. -/
theorem exists_step_outside (h : History) {event : Event} (he : event.outside = true) :
    ∃ wire taken given,
      h.step event = { h with connection := { h.connection with wire }, taken, given } := by
  cases event with
  | peerWrite data =>
    rw [step_peerWrite]
    split_ifs
    · exact ⟨_, _, _, rfl⟩
    · exact ⟨_, _, _, rfl⟩
  | peerRead max =>
    rcases step_peerRead h max with heq | ⟨bytes, outgoing, -, heq⟩
    · exact ⟨_, _, _, heq⟩
    · exact ⟨_, _, _, heq⟩
  | peerShutdown => exact ⟨_, _, _, rfl⟩
  | peerDrop => exact ⟨_, _, _, rfl⟩
  | plant call failure => exact ⟨_, _, _, rfl⟩
  | hangFlush value => exact ⟨_, _, _, rfl⟩
  | hangShutdown value => exact ⟨_, _, _, rfl⟩
  | _ => cases he

theorem step_poll_eq_self {branch : Branch} (hb : h.connection.poll branch id = h.connection) :
    h.step (.poll branch id) = h := by
  rw [step_poll, hb, CallRecord.newReply_self, List.append_nil]

theorem step_poll_of_reply? {branch : Branch} (hr : h.connection.reply? id = some r) :
    h.step (.poll branch id) = h := by
  refine step_poll_eq_self (Connection.poll_eq_self fun stage hs => ?_)
  rw [Connection.reply?_eq_some.mp hr] at hs
  cases hs
  exact ⟨r, rfl⟩

theorem tracked_start (capacity : Nat) : (start capacity).Tracked := CallRecord.Tracked.start _

end History

/-- Along a history stages and replies suit the calls. -/
theorem CallRecord.Tracked.step {h : History} (ht : h.Tracked) (event : Event) :
    (h.step event).Tracked := by
  cases event using Event.operation_or_outside with
  | issue request => exact ht.issue request
  | poll branch id => exact ht.poll branch id
  | cancel id => exact ht.cancel id
  | abort => exact ht.abort
  | outside event he =>
    obtain ⟨wire, taken, given, heq⟩ := h.exists_step_outside he
    rw [heq]
    exact ht.onWire fun _ => wire

/-! ### Histories of a datagram connection -/

/-- One thing that happens to a datagram connection. -/
inductive DatagramEvent
  /-- A call is made. -/
  | issue (request : Request)
  /-- A call may go on. -/
  | poll (branch : Branch) (id : Nat)
  /-- A call is given up. -/
  | cancel (id : Nat)
  | abort
  | peerRead
  | peerWrite (data : Bytes)
  /-- The peer goes away. -/
  | peerDrop
  /-- The next call on the socket will fail. -/
  | report (failure : IoFailure)
  /-- Datagrams can leave no more, or can again. -/
  | congest (value : Bool)

namespace CallRecord

/-- **One event.** -/
def stepDatagram (l : CallRecord Socket) : DatagramEvent → CallRecord Socket
  | .issue request => l.issue request
  | .poll branch id => l.poll branch id
  | .cancel id => l.cancel id
  | .abort => l.abort
  | .peerRead => l.onWire fun s => (s.peerRead?.map Prod.snd).getD s
  | .peerWrite data => l.onWire (·.peerWrite data)
  | .peerDrop => l.onWire Socket.peerDrop
  | .report failure => l.onWire fun s => { s with pending := some failure }
  | .congest value => l.onWire fun s => { s with congested := value }

/-- **Events in order.** -/
def runDatagram (l : CallRecord Socket) (events : List DatagramEvent) : CallRecord Socket :=
  events.foldl stepDatagram l

theorem Tracked.stepDatagram {l : CallRecord Socket} (ht : l.Tracked) (event : DatagramEvent) :
    (l.stepDatagram event).Tracked := by
  cases event with
  | issue request => exact ht.issue request
  | poll branch id => exact ht.poll branch id
  | cancel id => exact ht.cancel id
  | abort => exact ht.abort
  | peerRead => exact ht.onWire _
  | peerWrite data => exact ht.onWire _
  | peerDrop => exact ht.onWire _
  | report failure => exact ht.onWire fun s => { s with pending := some failure }
  | congest value => exact ht.onWire fun s => { s with congested := value }

end CallRecord

end Dialer
