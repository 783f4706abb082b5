import Dialer.Connection.Scenario
import Dialer.Proofs.Connection.Rest

/-!
# Scenarios are histories

An operation of a scenario comes to several events: a call is made, calls go on until each is done
or waits, a call is given up. So what holds along every history holds along every scenario, over a
byte stream (`History.leads_run`) and over datagrams (`CallRecord.leads_run`). On a stream, what
holds wherever calls have come to rest holds after every operation (`History.settled_run`).
-/

namespace Dialer

/-! ### Calls in the foreground -/

/-- **What lasts whatever calls do:** while they are made, go on, and are given up. -/
structure Connection.Lasts {W : Type} [Carrier W] (P : Connection W → Prop) : Prop where
  issue : ∀ {c} request, P c → P (c.issue request).2
  poll : ∀ {c} branch id, P c → P (c.poll branch id)
  cancel : ∀ {c} id, P c → P (c.cancel id)

namespace Connection.Lasts

variable {W : Type} [Carrier W] {P : Connection W → Prop} {c : Connection W}

theorem settleFor (hl : Lasts P) (hc : P c) (fuel : Nat) : P (c.settleFor fuel) := by
  induction fuel generalizing c with
  | zero => exact hc
  | succ fuel ih =>
    unfold Connection.settleFor
    split
    · exact hc
    · exact ih (hl.poll _ _ hc)

theorem settle (hl : Lasts P) (hc : P c) : P c.settle := hl.settleFor hc c.work

theorem foreground (hl : Lasts P) (hc : P c) (request : Request) : P (c.foreground request).2 :=
  hl.settle (hl.cancel _ (hl.settle (hl.issue request hc)))

end Connection.Lasts

namespace History

open ConnectionScenario (Operation Answer State)

variable {h : History} {c : StreamConnection}

/-- What an event makes of a connection. -/
def after (event : Event) (c : StreamConnection) : StreamConnection :=
  (step { connection := c } event).connection

/-- What has been seen of a connection has no influence on it. -/
theorem connection_step (h : History) (event : Event) :
    (h.step event).connection = after event h.connection := by
  cases event with
  | peerWrite data =>
    rw [after, step_peerWrite, step_peerWrite]
    split_ifs <;> rfl
  | peerRead max =>
    unfold after step
    dsimp only
    split <;> rfl
  | _ => rfl

/-- Some events lead a history to a connection. -/
def Leads (h : History) (c : StreamConnection) : Prop :=
  ∃ events, (h.run events).connection = c

theorem leads_self (h : History) : h.Leads h.connection := ⟨[], rfl⟩

namespace Leads

/-- One more event. -/
theorem step (hl : h.Leads c) (event : Event) : h.Leads (after event c) := by
  obtain ⟨events, rfl⟩ := hl
  refine ⟨events ++ [event], ?_⟩
  rw [run, List.foldl_append]
  exact connection_step _ event

theorem lasts (h : History) : Connection.Lasts h.Leads where
  issue request hl := hl.step (.issue request)
  poll branch id hl := hl.step (.poll branch id)
  cancel id hl := hl.step (.cancel id)

theorem settle (hl : h.Leads c) : h.Leads c.settle := (lasts h).settle hl

theorem join {s : State} (hl : h.Leads s.connection) (name : String) :
    h.Leads (s.join name).2.connection := by
  unfold State.join
  split
  · exact hl
  · split
    · exact hl
    · exact hl.step (.cancel _)

theorem cancelTask {s : State} (hl : h.Leads s.connection) (name : String) :
    h.Leads (s.cancel name).2.connection := by
  unfold State.cancel
  split
  · exact hl
  · exact (hl.step (.cancel _)).settle

theorem peerWriteFor {s : State} (hl : h.Leads s.connection) (fuel : Nat) (data : Bytes) :
    h.Leads (s.peerWriteFor fuel data).2.connection := by
  induction fuel generalizing s data with
  | zero => exact hl
  | succ fuel ih =>
    unfold State.peerWriteFor
    split_ifs with hempty hclosed hroom
    · exact hl
    · exact hl
    · exact hl
    · have hstep := hl.step (.peerWrite data)
      rw [after, step_peerWrite, if_neg hclosed] at hstep
      exact ih hstep.settle _

theorem peerRead {s : State} (hl : h.Leads s.connection) (max : Nat) :
    h.Leads (s.peerRead max).2.connection := by
  unfold State.peerRead
  split_ifs
  · exact hl
  · split
    · exact hl
    · rename_i bytes outgoing htake
      have hstep := hl.step (.peerRead max)
      unfold after History.step at hstep
      simp only [htake] at hstep
      exact hstep.settle

theorem ofPeer {s : State} {operation : State → Answer × State} (hl : h.Leads s.connection)
    (ho : h.Leads (operation s).2.connection) : h.Leads (s.ofPeer operation).2.connection := by
  unfold State.ofPeer
  split_ifs
  · exact ho
  · exact hl

/-- **An operation comes to some events.** -/
theorem perform {s : State} (hl : h.Leads s.connection) (operation : Operation) :
    h.Leads (s.perform operation).2.connection := by
  cases operation with
  | call request => exact (lasts h).foreground hl request
  | abort => exact (hl.step .abort).settle
  | info => exact hl
  | spawn name request => exact (hl.step (.issue request)).settle
  | join name => exact hl.join name
  | cancel name => exact hl.cancelTask name
  | peerWrite data => exact hl.ofPeer (hl.peerWriteFor _ data)
  | peerRead max => exact hl.ofPeer (hl.peerRead max)
  | peerShutdown => exact hl.ofPeer (hl.step .peerShutdown).settle
  | peerDrop => exact hl.ofPeer (hl.step .peerDrop).settle
  | plant call failure => exact hl.step (.plant call failure)
  | hangShutdown value => exact (hl.step (.hangShutdown value)).settle

end Leads

/-- **A scenario comes to some events.** -/
theorem leads_run {s : State} (hl : h.Leads s.connection) (operations : List Operation) :
    h.Leads (ConnectionScenario.run s operations).2.connection := by
  induction operations generalizing s with
  | nil => exact hl
  | cons operation rest ih => exact ih (hl.perform operation)

/-! ### Operations are rounds -/

/-- Some rounds lead to a connection. -/
def Settled (capacity : Nat) (c : StreamConnection) : Prop :=
  ∃ h, Rounds (start capacity) h ∧ h.connection = c

namespace Settled

variable {capacity id : Nat} {s : State}

theorem start (capacity : Nat) : Settled capacity (.ofCapacity capacity) := ⟨_, .refl, rfl⟩

/-- One more event, after which calls go on. -/
theorem step (hs : Settled capacity c) (event : Event) :
    Settled capacity (after event c).settle := by
  obtain ⟨h, hr, rfl⟩ := hs
  obtain ⟨ht, hd⟩ := hr.tracked
  obtain ⟨polls, hpolls⟩ := exists_goOn (h.step event) (h.step event).connection.work
  have hsettle : (h.round event polls).connection = (after event h.connection).settle := by
    rw [← connection_step]
    exact hpolls
  refine ⟨_, hr.round event polls ?_, hsettle⟩
  rw [hsettle, ← connection_step]
  exact Connection.resting_settle (hd.step ht.coherent event)

/-- One more event that lets no call go on. -/
theorem still (hs : Settled capacity c) (event : Event)
    (hrest : ∀ h : History, h.Tracked → h.connection.Resting → h.connection = c →
      (after event c).Resting) : Settled capacity (after event c) := by
  obtain ⟨h, hr, rfl⟩ := hs
  have hsame := connection_step h event
  refine ⟨_, hr.round event [] ?_, hsame⟩
  change (h.step event).connection.Resting
  rw [hsame]
  exact hrest h hr.tracked.1 hr.resting rfl

/-- A call is forgotten that has its reply. -/
theorem forget (hs : Settled capacity c) {r : Reply} (hreply : c.reply? id = some r) :
    Settled capacity (c.cancel id) := by
  refine hs.still (.cancel id) fun h ht hrest heq => ?_
  subst heq
  have hstage := Connection.reply?_eq_some.mp hreply
  have hwriters : h.connection.writers.filter (· != id) = h.connection.writers :=
    ht.coherent.writers.filter_eq_self hstage rfl
  have hreaders : h.connection.readers.filter (· != id) = h.connection.readers :=
    ht.coherent.readers.filter_eq_self hstage rfl
  have hready : (h.connection.cancel id).ready = h.connection.ready := by
    funext call
    unfold Connection.ready Connection.holdsWriter Connection.holdsReader
    simp only [Connection.cancel, Connection.leave, hwriters, hreaders]
  have hnone := List.find?_eq_none.mp (Option.map_eq_none_iff.mp hrest)
  refine Option.map_eq_none_iff.mpr (List.find?_eq_none.mpr fun call hmem => ?_)
  change ¬ (h.connection.cancel id).ready call = true
  rw [hready]
  exact hnone call (List.mem_of_mem_filter hmem)

theorem plant (hs : Settled capacity c) (call : WireCall) (failure : IoFailure) :
    Settled capacity (after (.plant call failure) c) :=
  hs.still _ fun _ _ hrest heq => heq ▸ hrest

theorem foreground (hs : Settled capacity s.connection) (request : Request) :
    Settled capacity (s.foreground request).2.connection :=
  (hs.step (.issue request)).step (.cancel (s.connection.issue request).1)

theorem join (hs : Settled capacity s.connection) (name : String) :
    Settled capacity (s.join name).2.connection := by
  unfold State.join
  split
  · exact hs
  · split
    · exact hs
    · rename_i r hreply
      exact hs.forget hreply

theorem cancelTask (hs : Settled capacity s.connection) (name : String) :
    Settled capacity (s.cancel name).2.connection := by
  unfold State.cancel
  split
  · exact hs
  · exact hs.step (.cancel _)

theorem peerWriteFor (hs : Settled capacity s.connection) (fuel : Nat) (data : Bytes) :
    Settled capacity (s.peerWriteFor fuel data).2.connection := by
  induction fuel generalizing s data with
  | zero => exact hs
  | succ fuel ih =>
    unfold State.peerWriteFor
    split_ifs with hempty hclosed hroom
    · exact hs
    · exact hs
    · exact hs
    · have hstep := hs.step (.peerWrite data)
      rw [after, step_peerWrite, if_neg hclosed] at hstep
      exact ih hstep _

theorem peerRead (hs : Settled capacity s.connection) (max : Nat) :
    Settled capacity (s.peerRead max).2.connection := by
  unfold State.peerRead
  split_ifs
  · exact hs
  · split
    · exact hs
    · rename_i bytes outgoing htake
      have hstep := hs.step (.peerRead max)
      unfold after History.step at hstep
      simp only [htake] at hstep
      exact hstep

theorem ofPeer {operation : State → Answer × State} (hs : Settled capacity s.connection)
    (ho : Settled capacity (operation s).2.connection) :
    Settled capacity (s.ofPeer operation).2.connection := by
  unfold State.ofPeer
  split_ifs
  · exact ho
  · exact hs

/-- **After every operation calls have come to rest.** -/
theorem perform (hs : Settled capacity s.connection) (operation : Operation) :
    Settled capacity (s.perform operation).2.connection := by
  cases operation with
  | call request => exact hs.foreground request
  | abort => exact hs.step .abort
  | info => exact hs
  | spawn name request => exact hs.step (.issue request)
  | join name => exact hs.join name
  | cancel name => exact hs.cancelTask name
  | peerWrite data => exact hs.ofPeer (hs.peerWriteFor _ data)
  | peerRead max => exact hs.ofPeer (hs.peerRead max)
  | peerShutdown => exact hs.ofPeer (hs.step .peerShutdown)
  | peerDrop => exact hs.ofPeer (hs.step .peerDrop)
  | plant call failure => exact hs.plant call failure
  | hangShutdown value => exact hs.step (.hangShutdown value)

end Settled

/-- **A scenario comes to some rounds.** -/
theorem settled_run {capacity : Nat} {s : State} (hs : Settled capacity s.connection)
    (operations : List Operation) :
    Settled capacity (ConnectionScenario.run s operations).2.connection := by
  induction operations generalizing s with
  | nil => exact hs
  | cons operation rest ih => exact ih (hs.perform operation)

end History

/-! ### Datagrams -/

namespace CallRecord

open DatagramScenario (Operation)

variable {l : CallRecord Socket} {c : DatagramConnection}

/-- Some events lead a record to a connection. -/
def Leads (l : CallRecord Socket) (c : DatagramConnection) : Prop :=
  ∃ events, (l.runDatagram events).connection = c

theorem Leads.step (hl : l.Leads c) (event : DatagramEvent) :
    l.Leads (stepDatagram { connection := c } event).connection := by
  obtain ⟨events, rfl⟩ := hl
  refine ⟨events ++ [event], ?_⟩
  rw [runDatagram, List.foldl_append]
  cases event <;> rfl

theorem lasts_leads (l : CallRecord Socket) : Connection.Lasts l.Leads where
  issue request hl := hl.step (.issue request)
  poll branch id hl := hl.step (.poll branch id)
  cancel id hl := hl.step (.cancel id)

/-- **An operation comes to some events.** -/
theorem Leads.perform (hl : l.Leads c) (operation : Operation) :
    l.Leads (DatagramScenario.perform c operation).2 := by
  have hsettle : ∀ event, l.Leads (stepDatagram { connection := c } event).connection.settle :=
    fun event => (lasts_leads l).settle (hl.step event)
  cases operation with
  | call request => exact (lasts_leads l).foreground hl request
  | abort => exact hsettle .abort
  | peerRead =>
    dsimp only [DatagramScenario.perform]
    split_ifs
    · exact hl
    · rcases hread : c.wire.peerRead? with _ | ⟨data, wire⟩
      · exact hl
      · have hnext := hsettle .peerRead
        simp only [stepDatagram, onWire, hread] at hnext
        exact hnext
  | peerWrite data =>
    dsimp only [DatagramScenario.perform]
    split_ifs
    · exact hsettle (.peerWrite data)
    · exact hl
  | peerDrop =>
    dsimp only [DatagramScenario.perform]
    split_ifs
    · exact hsettle .peerDrop
    · exact hl

/-- **A scenario comes to some events.** -/
theorem leads_run (hl : l.Leads c) (operations : List Operation) :
    l.Leads (DatagramScenario.run c operations).2 := by
  induction operations generalizing c with
  | nil => exact hl
  | cons operation rest ih => exact ih (hl.perform operation)

end CallRecord

end Dialer
