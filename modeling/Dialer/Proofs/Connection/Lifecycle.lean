import Dialer.Proofs.Connection.Chronicle
import Dialer.Proofs.Connection.Incoming

/-!
# The life of a connection goes one way

A connection over a byte stream and a connection over datagrams carry data in different ways, but
live by the same rules. A `LifeSystem` is a kind of connection as it is seen from outside, and
`LifeSystem.Orderly` lists the rules. They follow from what each step means to the chronicle of the
connection (`LifeSystem.Lawful.orderly`). What calls mean to it does not depend on the carrier
(`CallRecord.turn_issue`, `CallRecord.turn_poll`), and what happens to the carrier means nothing.
-/

namespace Dialer

open CallRecord (newReply mem_newReply newReply_of_replied newReply_of_waiting)

open Chronicle (Turn)

/-- **A kind of connection,** as its life is seen from outside. -/
structure LifeSystem where
  State : Type
  Event : Type
  Session : Type
  step : State → Event → State
  chronicle : State → Chronicle
  /-- A call is made. -/
  make : Request → Event
  abort : Event
  /-- What a connection consists of besides the calls made on it. -/
  session : State → Session
  /-- The peer has closed its side, and everything it wrote was received. -/
  AtEnd : State → Prop

/-- The errors of calls that are not let in. -/
def CallError.ofAdmission : List CallError := [.notEstablished, .closed, .emptyBuffer, .alreadyClosed]

namespace LifeSystem

variable {S : LifeSystem} {s : S.State}

/-- Events in order. -/
def run (S : LifeSystem) (s : S.State) (events : List S.Event) : S.State := events.foldl S.step s

/-- The phase of a connection. -/
def phase (S : LifeSystem) (s : S.State) : Phase := (S.chronicle s).life.phase

/-- A call made now is refused at once. -/
def Refuses (S : LifeSystem) (s : S.State) (request : Request) (e : CallError) : Prop :=
  (S.chronicle (S.step s (S.make request))).replies =
    (S.chronicle s).replies ++ [((S.chronicle s).issued.length, .refused e)]

/-- **What holds at every moment in the life of a connection.** -/
structure Orderly (S : LifeSystem) (s : S.State) : Prop where
  /-- The phase only rises, and the last one is never left. -/
  rises : ∀ events, (S.phase s).rank ≤ (S.phase (S.run s events)).rank
  closed_stays : S.phase s = .closed → ∀ events, S.phase (S.run s events) = .closed
  /-- The connection fails only when a send or receive gets a failure of input or output as its
  reply. -/
  failed : ∀ event, S.phase s ≠ .failed → S.phase (S.step s event) = .failed →
    ∃ id request e, (S.chronicle (S.step s event)).issued[id]? = some request ∧
      CallError.OfTransfer request e ∧
      (S.chronicle (S.step s event)).replies = (S.chronicle s).replies ++ [(id, .refused e)]
  /-- It begins to close only when a close is made and let in, or when a receive finds the end of
  the stream. -/
  closing : ∀ event, S.phase s ≠ .closing → S.phase (S.step s event) = .closing →
    ((S.chronicle (S.step s event)).issued = (S.chronicle s).issued ++ [.close] ∧
        (S.chronicle (S.step s event)).replies = (S.chronicle s).replies) ∨
      S.AtEnd s ∧ ∃ id max, (S.chronicle (S.step s event)).issued[id]? = some (.receive max) ∧
        (S.chronicle (S.step s event)).replies =
          (S.chronicle s).replies ++ [(id, .received [])]
  /-- A call has one reply at most, and one close at most is ever done. -/
  once : ((S.chronicle s).replies.map Prod.fst).Nodup
  single : ∀ i j, (S.chronicle s).ClosedBy i → (S.chronicle s).ClosedBy j → i = j
  /-- A close that is done leaves the connection closed, and no close is let in after it, nor after
  an abort. -/
  done : ∀ id, (S.chronicle s).ClosedBy id → S.phase s = .closed
  after_close : ∀ id, (S.chronicle s).ClosedBy id →
    ∀ events, S.Refuses (S.run s events) .close .alreadyClosed
  after_abort : ∀ events, S.Refuses (S.run (S.step s S.abort) events) .close .alreadyClosed
  /-- A call that is not let in leaves everything as it was. -/
  untouched : ∀ request, (∃ e ∈ CallError.ofAdmission, S.Refuses s request e) →
    S.session (S.step s (S.make request)) = S.session s

/-- **What a kind of connection has to fulfil** where an invariant holds. -/
structure Lawful (S : LifeSystem) (Inv : S.State → Prop) : Prop where
  inv : ∀ s event, Inv s → Inv (S.step s event)
  turn : ∀ s event, Inv s → Turn (S.AtEnd s) (S.chronicle s) (S.chronicle (S.step s event))
  close : ∀ s, Inv s → (S.chronicle s).life.beginClose? = none → S.Refuses s .close .alreadyClosed
  abort : ∀ s, Inv s → S.phase (S.step s S.abort) = .closed
  untouched : ∀ s request e, Inv s → e ∈ CallError.ofAdmission → S.Refuses s request e →
    S.session (S.step s (S.make request)) = S.session s

namespace Lawful

variable {Inv : S.State → Prop}

/-- What every turn preserves, a run preserves. -/
theorem run_induction (hS : S.Lawful Inv) {P : Chronicle → Prop}
    (hP : ∀ {atEnd c b}, Turn atEnd c b → P c → P b) (hs : Inv s) (h : P (S.chronicle s))
    (events : List S.Event) : Inv (S.run s events) ∧ P (S.chronicle (S.run s events)) := by
  induction events generalizing s with
  | nil => exact ⟨hs, h⟩
  | cons event events ih => exact ih (hS.inv s event hs) (hP (hS.turn s event hs) h)

theorem refuses_run (hS : S.Lawful Inv) (hs : Inv s)
    (h : (S.chronicle s).life.beginClose? = none) (events : List S.Event) :
    S.Refuses (S.run s events) .close .alreadyClosed := by
  obtain ⟨hs, h⟩ := hS.run_induction (fun ht hc => ht.beginClose?_eq_none hc) hs h events
  exact hS.close _ hs h

/-- **Where every step is a turn of the chronicle, life goes one way.** -/
theorem orderly (hS : S.Lawful Inv) (hs : Inv s) (hc : (S.chronicle s).Consistent) :
    S.Orderly s := by
  constructor
  · intro events
    exact (hS.run_induction (P := fun c => (S.phase s).rank ≤ c.life.phase.rank)
      (fun ht h => Nat.le_trans h ht.rank_le) hs (Nat.le_refl _) events).2
  · intro hclosed events
    exact (hS.run_induction (P := fun c => c.life.phase = .closed)
      (fun ht h => ht.phase_eq_closed h) hs hclosed events).2
  · exact fun event => (hS.turn s event hs).entered_failed
  · exact fun event => (hS.turn s event hs).entered_closing
  · exact hc.once
  · intro i j hi hj
    exact hc.single i j (hc.admitted_of_closedBy hi) (hc.admitted_of_closedBy hj)
  · exact hc.done
  · intro id hid events
    exact hS.refuses_run hs (Life.beginClose?_eq_none.mpr (Or.inl (hc.done id hid))) events
  · intro events
    have hclosed := Life.beginClose?_eq_none.mpr (Or.inl (hS.abort s hs))
    exact hS.refuses_run (hS.inv s _ hs) hclosed events
  · rintro request ⟨e, he, hr⟩
    exact hS.untouched s request e hs he hr

/-- **The life of a connection goes one way** from its beginning. -/
theorem orderly_run (hS : S.Lawful Inv) (hs : Inv s) (hc : (S.chronicle s).Consistent)
    (events : List S.Event) : S.Orderly (S.run s events) := by
  obtain ⟨hs, hc⟩ := hS.run_induction (fun ht hc => hc.turn ht) hs hc events
  exact hS.orderly hs hc

end Lawful

end LifeSystem

/-! ### What calls mean to the life of a connection -/

namespace Connection

variable {W : Type} {b c : Connection W} {id : Nat} {request : Request}

/-- **What making a call means to the life of the connection,** and where the call stands then. -/
inductive Admits (l : Life) : Request → Life → Stage → Prop
  | atOnce {request : Request} {r : Reply} (h : request ≠ .close) :
    Admits l request l (.replied r)
  | waits {request : Request} {new : Stage} (h : request ≠ .close) (hnew : ∀ r, new ≠ .replied r) :
    Admits l request l new
  | closeRefused (h : l.beginClose? = none) :
    Admits l .close l (.replied (.refused .alreadyClosed))
  | closeBegun {graceful : Bool} {m : Life} (h : l.beginClose? = some (graceful, m)) :
    Admits l .close m (.closeQueued graceful)

theorem Issued.admits (h : Issued c request b) :
    ∃ new, Admits c.life request b.life new ∧ b.calls = (c.enter new).calls := by
  cases h with
  | sendRefused => exact ⟨_, .atOnce nofun, rfl⟩
  | receiveRefused => exact ⟨_, .atOnce nofun, rfl⟩
  | closeRefused h => exact ⟨_, .closeRefused h, rfl⟩
  | @send data => exact ⟨.sendQueued data, .waits nofun nofun, rfl⟩
  | @receive max => exact ⟨.receiveQueued max, .waits nofun nofun, rfl⟩
  | close h => exact ⟨_, .closeBegun h, rfl⟩

variable [Carrier W]

theorem life_settleSession (c : Connection W) : c.settleSession.life = c.life := by
  unfold settleSession; split_ifs <;> rfl

theorem life_dropWriter (c : Connection W) : c.dropWriter.life = c.life :=
  life_settleSession _

theorem life_dropReader (c : Connection W) : c.dropReader.life = c.life :=
  life_settleSession _

theorem life_closeWriter (c : Connection W) (id : Nat) : (c.closeWriter id).life = c.life :=
  life_dropWriter (c.leave id)

theorem life_abort (c : Connection W) :
    c.abort.life = if c.life.phase = .closed then c.life else c.life.abort := by
  unfold abort
  split_ifs
  · rfl
  · dsimp only
    split_ifs
    · exact (life_dropReader _).trans (life_dropWriter _)
    · exact life_dropWriter _
    · exact life_dropReader _
    · rfl

/-- A receive can find that nothing more will come. -/
def FindsEnd (c : Connection W) : Prop :=
  Carrier.endsEmpty W = true ∧ ∃ max, 0 < max ∧ (Carrier.read c.wire max).1 = .data []

/-- **What going on with a call means to the life of the connection,** and where the call stands
then. -/
inductive Lives (c : Connection W) (request : Request) : Life → Stage → Prop
  | waits {new : Stage} (hnew : ∀ r, new ≠ .replied r) : Lives c request c.life new
  | answered {r : Reply} (h : request ≠ .close) : Lives c request c.life (.replied r)
  | ended {max : Nat} (h : request = .receive max) (hend : c.FindsEnd) :
    Lives c request c.life.endOfStream (.replied (.received []))
  | failed {e : CallError} (h : CallError.OfTransfer request e) :
    Lives c request c.life.fail (.replied (.refused e))
  | closed (h : request = .close) : Lives c request c.life.finish (.replied .done)

theorem Goes.lives (h : Goes c id b)
    (hsuits : ∀ old, c.stage? id = some old → old.Suits request) :
    b = c ∨ ∃ new, Lives c request b.life new ∧ b.stage? id = some new := by
  cases h with
  | stays => exact Or.inl rfl
  | sendWoken hs =>
    have hreq := hsuits _ hs
    exact Or.inr ⟨_, .answered (by rintro rfl; cases hreq), stage?_self (stage?_reply rfl hs)⟩
  | receiveWoken hs =>
    have hreq := (hsuits _ hs).1
    exact Or.inr ⟨_, .answered (by rintro rfl; cases hreq), stage?_self (stage?_reply rfl hs)⟩
  | @sendTakes data hs =>
    exact Or.inr ⟨.sendHolding data, .waits nofun, stage?_self (stage?_setStage rfl hs)⟩
  | @receiveTakes max hs =>
    exact Or.inr ⟨.receiveHolding max, .waits nofun, stage?_self (stage?_setStage rfl hs)⟩
  | @sendStopped rest wire hsends =>
    obtain ⟨old, hold, -⟩ := hsends.exists_stage
    obtain ⟨whole, rfl, -⟩ := hsends.suits hsuits
    have hlife : (stopSend { c with wire } id).life = c.life := life_dropWriter { c with wire }
    rw [hlife]
    exact Or.inr ⟨_, .answered nofun, stage?_self (stage?_reply stage?_dropWriter hold)⟩
  | @receiveStopped max wire hreceives =>
    obtain ⟨old, hold, -⟩ := hreceives.exists_stage
    obtain ⟨rfl, -⟩ := hreceives.suits hsuits
    have hlife : (stopReceive { c with wire } id).life = c.life := life_dropReader { c with wire }
    rw [hlife]
    exact Or.inr ⟨_, .answered nofun, stage?_self (stage?_reply stage?_dropReader hold)⟩
  | sent hsends =>
    obtain ⟨old, hold, -⟩ := hsends.exists_stage
    obtain ⟨whole, rfl, -⟩ := hsends.suits hsuits
    exact Or.inr ⟨_, .answered nofun, stage?_self (stage?_reply rfl hold)⟩
  | @sentInPart rest left wire hsends =>
    obtain ⟨old, hold, -⟩ := hsends.exists_stage
    exact Or.inr ⟨.sending left, .waits nofun, stage?_self (stage?_setStage rfl hold)⟩
  | sendFailed hsends =>
    obtain ⟨old, hold, -⟩ := hsends.exists_stage
    obtain ⟨whole, rfl, -⟩ := hsends.suits hsuits
    exact Or.inr ⟨_, .failed (.send _ _), stage?_self (stage?_reply rfl hold)⟩
  | @received max bytes wire hreceives hw =>
    obtain ⟨old, hold, -⟩ := hreceives.exists_stage
    obtain ⟨rfl, hmax⟩ := hreceives.suits hsuits
    have hst : (reply { c with
        wire
        life := if Carrier.endsEmpty W && bytes.isEmpty then c.life.endOfStream else c.life } id
        (.received bytes)).stage? id = some (.replied (.received bytes)) :=
      stage?_self (stage?_reply rfl hold)
    refine Or.inr ⟨_, ?_, hst⟩
    change Lives c _ (if Carrier.endsEmpty W && bytes.isEmpty then c.life.endOfStream
      else c.life) _
    split_ifs with hend
    · obtain ⟨hends, hempty⟩ := Bool.and_eq_true_iff.mp hend
      obtain rfl := List.isEmpty_iff.mp hempty
      exact .ended rfl ⟨hends, max, hmax, by rw [hw]⟩
    · exact .answered nofun
  | @receiveWaits max wire hreceives =>
    obtain ⟨old, hold, -⟩ := hreceives.exists_stage
    exact Or.inr ⟨.receiving max, .waits nofun, stage?_self (stage?_setStage rfl hold)⟩
  | receiveFailed hreceives =>
    obtain ⟨old, hold, -⟩ := hreceives.exists_stage
    obtain ⟨rfl, -⟩ := hreceives.suits hsuits
    exact Or.inr ⟨_, .failed (.receive _ _), stage?_self (stage?_reply rfl hold)⟩
  | @shutDown wire hshuts =>
    obtain ⟨old, hold, -⟩ := hshuts.exists_stage
    rw [life_closeWriter]
    exact Or.inr ⟨.closingReader, .waits nofun, stage?_self (stage?_closeWriter rfl hold)⟩
  | shutdownHangs hshuts =>
    obtain ⟨old, hold, -⟩ := hshuts.exists_stage
    exact Or.inr ⟨.shuttingDown, .waits nofun, stage?_self (stage?_setStage rfl hold)⟩
  | shutdownSkipped hs =>
    rw [life_closeWriter]
    exact Or.inr ⟨.closingReader, .waits nofun, stage?_self (stage?_closeWriter rfl hs)⟩
  | closed hs =>
    have hstage : (reply { c.dropReader with life := c.dropReader.life.finish } id .done).stage? =
        Function.update c.stage? id (some (.replied .done)) := stage?_reply stage?_dropReader hs
    refine Or.inr ⟨_, ?_, stage?_self hstage⟩
    have hlife : c.dropReader.life.finish = c.life.finish := by rw [life_dropReader]
    exact hlife ▸ .closed (hsuits _ hs)

end Connection

namespace CallRecord

variable {W : Type} {h : CallRecord W} {id : Nat}

/-- What is seen of the life of a connection. -/
def chronicle (h : CallRecord W) : Chronicle := ⟨h.connection.life, h.issued, h.replies⟩

/-- A call that has a reply goes on no more. -/
def Answered (h : CallRecord W) : Prop :=
  ∀ id r, (id, r) ∈ h.replies → ∀ stage, h.connection.stage? id = some stage →
    ∃ r', stage = .replied r'

theorem Answered.start (wire : W) : (start wire).Answered := nofun

namespace Answered

theorem update (ha : h.Answered) {b : Connection W} {new : Stage}
    (hs : b.stage? = Function.update h.connection.stage? id (some new))
    (hopen : ∀ r, (id, r) ∉ h.replies) (j : Nat) (r : Reply)
    (hmem : (j, r) ∈ h.replies ++ newReply h.connection b id) (stage : Stage)
    (hst : b.stage? j = some stage) : ∃ r', stage = .replied r' := by
  rcases List.mem_append.mp hmem with hmem | hmem
  · have hj : j ≠ id := fun hj => hopen r (hj ▸ hmem)
    rw [hs, Function.update_of_ne hj] at hst
    exact ha j r hmem stage hst
  · obtain ⟨rfl, -, hr⟩ := mem_newReply.mp hmem
    rw [hst] at hr
    exact ⟨r, Option.some.inj hr⟩

theorem notMem (ha : h.Answered) {stage : Stage} (hnone : h.connection.reply? id = none)
    (hs : h.connection.stage? id = some stage) (r : Reply) : (id, r) ∉ h.replies := by
  intro hmem
  obtain ⟨r', rfl⟩ := ha id r hmem stage hs
  rw [Connection.reply?_eq_some.mpr hs] at hnone
  cases hnone

theorem issue (ha : h.Answered) (ht : h.Tracked) (request : Request) :
    (h.issue request).Answered := by
  obtain ⟨new, -, hs⟩ := (Connection.issued_issue h.connection request).eq_update ht.coherent
  rw [issue_eq]
  refine ha.update hs fun r hmem => ?_
  obtain ⟨other, hother, -⟩ := ht.answers _ r hmem
  have hlt := (List.getElem?_eq_some_iff.mp hother).1
  rw [ht.nextId] at hlt
  exact Nat.lt_irrefl _ hlt

theorem poll [Carrier W] [LawfulCarrier W] (ha : h.Answered) (branch : Branch) (id : Nat) :
    (h.poll branch id).Answered := by
  rcases hr : h.connection.reply? id with _ | r
  · rcases hs : h.connection.stage? id with _ | stage
    · rw [poll_eq_self (Connection.poll_eq_self (by rw [hs]; nofun))]
      exact ha
    · have hg := Connection.goes_poll branch id h.connection
      rcases hg.eq_or_update with heq | ⟨new, heq, -⟩
      · rw [poll_eq_self heq]
        exact ha
      · exact ha.update heq (ha.notMem hr hs)
  · rw [poll_of_reply? hr]
    exact ha

theorem cancel (ha : h.Answered) (id : Nat) : (h.cancel id).Answered := by
  intro j r hmem stage hst
  have hs : (h.connection.cancel id).stage? = _ := Connection.stage?_cancel
  have hst : (h.connection.cancel id).stage? j = some stage := hst
  rcases eq_or_ne j id with rfl | hj
  · rw [hs, Function.update_self] at hst
    cases hst
  · rw [hs, Function.update_of_ne hj] at hst
    exact ha j r hmem stage hst

theorem abort [Carrier W] (ha : h.Answered) : h.abort.Answered := by
  intro j r hmem stage hst
  have hs := Connection.stage?_congr (Connection.still_abort h.connection).calls
  exact ha j r hmem stage (hs ▸ hst)

end Answered

/-! #### Calls that have their reply at once -/

theorem replies_issue_of_enter (ht : h.Tracked) {request : Request} {r : Reply}
    (hi : (h.connection.issue request).2 = h.connection.enter (.replied r)) :
    (h.issue request).replies = h.replies ++ [(h.issued.length, r)] := by
  have hfresh := ht.coherent.fresh _ (Nat.le_refl _)
  rw [issue_eq, hi]
  refine congrArg (h.replies ++ ·) ?_
  rw [← ht.nextId]
  refine newReply_of_replied ?_
    (Connection.stage?_self (Connection.stage?_enter hfresh))
  rw [Connection.reply?, hfresh]

theorem replies_issue_close (ht : h.Tracked) (hnone : h.connection.life.beginClose? = none) :
    (h.issue .close).replies =
      h.replies ++ [(h.issued.length, .refused .alreadyClosed)] :=
  replies_issue_of_enter ht (by simp only [Connection.issue, hnone])

theorem replies_issue_receive (ht : h.Tracked) {max : Nat} {r : Reply}
    (hr : h.connection.life.refuseReceive? max = some r) :
    (h.issue (.receive max)).replies = h.replies ++ [(h.issued.length, r)] :=
  replies_issue_of_enter ht (by simp only [Connection.issue, hr])

theorem untouched_issue (ht : h.Tracked) {request : Request} {r : Reply}
    (hr : (h.issue request).replies = h.replies ++ [(h.issued.length, r)]) :
    { (h.issue request).connection with calls := [], nextId := 0 } =
      { h.connection with calls := [], nextId := 0 } := by
  have hfresh := ht.coherent.fresh _ (Nat.le_refl _)
  have hwaits : ∀ stage, (∀ r, stage ≠ .replied r) →
      (h.connection.enter stage).stage? h.connection.nextId ≠ some (.replied r) := by
    intro stage hstage hst
    rw [Connection.stage?_self (Connection.stage?_enter hfresh)] at hst
    exact hstage r (Option.some.inj hst)
  have hi := Connection.issued_issue h.connection request
  rw [issue_eq] at hr ⊢
  generalize (h.connection.issue request).2 = b at hi hr
  have hreplied : b.stage? h.connection.nextId = some (.replied r) := by
    have hnew := List.append_cancel_left hr
    rw [← ht.nextId] at hnew
    exact (mem_newReply.mp (hnew ▸ List.mem_singleton_self _)).2.2
  cases hi with
  | sendRefused => rfl
  | receiveRefused => rfl
  | closeRefused => rfl
  | @send data => exact absurd hreplied (hwaits (.sendQueued data) nofun)
  | @receive max => exact absurd hreplied (hwaits (.receiveQueued max) nofun)
  | @close graceful => exact absurd hreplied (hwaits (.closeQueued graceful) nofun)

/-! #### What an event means to the chronicle -/

variable [Carrier W]

/-- **Making a call.** -/
theorem turn_issue (ht : h.Tracked) (request : Request) :
    Turn h.connection.FindsEnd h.chronicle (h.issue request).chronicle := by
  obtain ⟨new, hadmits, hcalls⟩ := (Connection.issued_issue h.connection request).admits
  have hfresh := ht.coherent.fresh _ (Nat.le_refl _)
  have hnone : h.connection.reply? h.connection.nextId = none := by
    rw [Connection.reply?, hfresh]
  have hst := Connection.stage?_self
    ((Connection.stage?_congr hcalls).trans (Connection.stage?_enter hfresh))
  rw [issue_eq]
  generalize (h.connection.issue request).2 = b at hadmits hst
  change Turn _ _ ⟨b.life, h.issued ++ [request],
    h.replies ++ newReply h.connection b h.connection.nextId⟩
  generalize b.life = life at hadmits
  cases hadmits with
  | atOnce hne =>
    rw [newReply_of_replied hnone hst, ht.nextId]
    exact .answered (.now _) hne
  | waits hne hnew =>
    rw [newReply_of_waiting hst hnew, List.append_nil]
    exact .waits hne
  | closeRefused hc =>
    rw [newReply_of_replied hnone hst, ht.nextId]
    exact .closeRefused hc
  | closeBegun hc =>
    rw [newReply_of_waiting hst (fun r hr => by cases hr), List.append_nil]
    exact .closeBegun hc

/-- **Going on with a call.** -/
theorem turn_poll [LawfulCarrier W] (ht : h.Tracked) (ha : h.Answered) (branch : Branch) (id : Nat) :
    Turn h.connection.FindsEnd h.chronicle (h.poll branch id).chronicle := by
  rcases hr : h.connection.reply? id with _ | r
  · rcases hs : h.connection.stage? id with _ | stage
    · rw [poll_eq_self (Connection.poll_eq_self (by rw [hs]; nofun))]
      exact .quiet
    · obtain ⟨request, hreq, hsuits⟩ := ht.exists_request hs
      have hasks : h.chronicle.Asks h.issued id request := .before hreq (ha.notMem hr hs)
      rcases (Connection.goes_poll branch id h.connection).lives hsuits with
        heq | ⟨new, hlives, hst⟩
      · rw [poll_eq_self heq]
        exact .quiet
      · rw [CallRecord.poll]
        generalize h.connection.poll branch id = b at hlives hst
        change Turn _ _ ⟨b.life, h.issued, h.replies ++ newReply h.connection b id⟩
        generalize b.life = life at hlives
        cases hlives with
        | waits hnew =>
          rw [newReply_of_waiting hst hnew, List.append_nil]
          exact .quiet
        | answered hne =>
          rw [newReply_of_replied hr hst]
          exact .answered hasks hne
        | ended hmax hend =>
          subst hmax
          rw [newReply_of_replied hr hst]
          exact .ended hasks hend
        | failed he =>
          rw [newReply_of_replied hr hst]
          exact .failed hasks he
        | closed hclose =>
          subst hclose
          rw [newReply_of_replied hr hst]
          exact .closed hreq (ha.notMem hr hs)
  · rw [poll_of_reply? hr]
    exact .quiet

/-- **An abort.** -/
theorem turn_abort (h : CallRecord W) :
    Turn h.connection.FindsEnd h.chronicle h.abort.chronicle := by
  change Turn _ _ ⟨h.connection.abort.life, h.issued, h.replies⟩
  rw [Connection.life_abort]
  split_ifs
  · exact .quiet
  · exact .aborted

theorem phase_abort (h : CallRecord W) : h.abort.connection.life.phase = .closed := by
  change h.connection.abort.life.phase = .closed
  rw [Connection.life_abort]
  split_ifs with hc
  · exact hc
  · rfl

end CallRecord

/-! ### Both kinds of connection -/

theorem CallRecord.Answered.step {h : History} (ha : h.Answered) (ht : h.Tracked) (event : Event) :
    (h.step event).Answered := by
  cases event using Event.operation_or_outside with
  | issue request => exact ha.issue ht request
  | poll branch id => exact ha.poll branch id
  | cancel id => exact ha.cancel id
  | abort => exact ha.abort
  | outside event he =>
    obtain ⟨wire, taken, given, heq⟩ := h.exists_step_outside he
    rw [heq]
    exact ha

/-- Connections over a byte stream. -/
def LifeSystem.streams : LifeSystem where
  State := History
  Event := Dialer.Event
  Session := StreamConnection
  step := History.step
  chronicle h := h.chronicle
  make := .issue
  abort := .abort
  session h := { h.connection with calls := [], nextId := 0 }
  AtEnd h := h.connection.AtEnd

/-- A receive over a wire finds the end of the stream only if that is there. -/
theorem Connection.FindsEnd.atEnd {c : StreamConnection} (h : c.FindsEnd) : c.AtEnd := by
  obtain ⟨-, max, hmax, hread⟩ := h
  exact ((Wire.read_of_eq (Prod.ext hread rfl)).data [] rfl).2.2 rfl hmax

theorem History.turn_step {h : History} (ht : h.Tracked) (ha : h.Answered) (event : Event) :
    Turn h.connection.AtEnd h.chronicle (h.step event).chronicle := by
  cases event using Event.operation_or_outside with
  | issue request => exact (CallRecord.turn_issue ht request).mono Connection.FindsEnd.atEnd
  | poll branch id => exact (CallRecord.turn_poll ht ha branch id).mono Connection.FindsEnd.atEnd
  | cancel id => exact .quiet
  | abort => exact (CallRecord.turn_abort h.toCallRecord).mono Connection.FindsEnd.atEnd
  | outside event he =>
    obtain ⟨wire, taken, given, heq⟩ := h.exists_step_outside he
    rw [heq]
    exact .quiet

theorem LifeSystem.lawful_streams : streams.Lawful fun h => h.Tracked ∧ h.Answered where
  inv _ event h := ⟨h.1.step event, h.2.step h.1 event⟩
  turn _ event h := History.turn_step h.1 h.2 event
  close _ h hnone := CallRecord.replies_issue_close h.1 hnone
  abort h _ := h.toCallRecord.phase_abort
  untouched _ _ _ h _ hr := CallRecord.untouched_issue h.1 hr

/-- Connections over datagrams. -/
def LifeSystem.datagrams : LifeSystem where
  State := CallRecord Socket
  Event := DatagramEvent
  Session := DatagramConnection
  step := CallRecord.stepDatagram
  chronicle := CallRecord.chronicle
  make := .issue
  abort := .abort
  session l := { l.connection with calls := [], nextId := 0 }
  AtEnd _ := False

theorem CallRecord.Answered.stepDatagram {l : CallRecord Socket} (ha : l.Answered) (ht : l.Tracked)
    (event : DatagramEvent) : (l.stepDatagram event).Answered := by
  cases event with
  | issue request => exact ha.issue ht request
  | poll branch id => exact ha.poll branch id
  | cancel id => exact ha.cancel id
  | abort => exact ha.abort
  | _ => exact ha

/-- **Every event is a turn of the chronicle.** There is no end of the stream to be found. -/
theorem CallRecord.turn_stepDatagram {l : CallRecord Socket} (ht : l.Tracked) (ha : l.Answered)
    (event : DatagramEvent) : Turn False l.chronicle (l.stepDatagram event).chronicle := by
  have hends : l.connection.FindsEnd → False := fun h => by cases h.1
  cases event with
  | issue request => exact (turn_issue ht request).mono hends
  | poll branch id => exact (turn_poll ht ha branch id).mono hends
  | abort => exact (turn_abort l).mono hends
  | _ => exact .quiet

theorem LifeSystem.lawful_datagrams : datagrams.Lawful fun l => l.Tracked ∧ l.Answered where
  inv _ event h := ⟨h.1.stepDatagram event, h.2.stepDatagram h.1 event⟩
  turn _ event h := CallRecord.turn_stepDatagram h.1 h.2 event
  close _ h hnone := CallRecord.replies_issue_close h.1 hnone
  abort l _ := l.phase_abort
  untouched _ _ _ h _ hr := CallRecord.untouched_issue h.1 hr

/-- **The life of every connection goes one way,** over a byte stream and over datagrams, whatever
is asked of it, however its calls wait and go on, and whatever its peer does. -/
theorem LifeSystem.life_goes_one_way :
    (∀ capacity events, streams.Orderly (streams.run (History.start capacity) events)) ∧
      ∀ events, datagrams.Orderly (datagrams.run (CallRecord.start {}) events) := by
  constructor
  · intro capacity events
    exact lawful_streams.orderly_run ⟨History.tracked_start capacity, CallRecord.Answered.start _⟩
      (Chronicle.Consistent.start _) events
  · intro events
    exact lawful_datagrams.orderly_run ⟨CallRecord.Tracked.start _, CallRecord.Answered.start _⟩
      (Chronicle.Consistent.start _) events

end Dialer
