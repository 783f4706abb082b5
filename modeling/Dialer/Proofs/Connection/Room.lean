import Dialer.Proofs.Connection.View

/-!
# Connections that are only asked for what they can give

A connection complains of a receive without room for a byte (`CallError.emptyBuffer`) when the call is
made, and at no other time. One that was never asked for such a thing is `Connection.Roomy`,
and stays so whatever happens on its wire.
-/

namespace Dialer.Connection

variable {b c : StreamConnection} {id : Nat} {stage : Stage} {request : Request}

/-- **No call was told that there is no room** to receive anything into. -/
def Roomy (c : StreamConnection) : Prop :=
  ∀ call ∈ c.calls, call.stage ≠ .replied (.refused .emptyBuffer)

theorem roomy_ofCapacity (capacity : Nat) : Roomy (.ofCapacity capacity) :=
  fun _ hcall => absurd hcall List.not_mem_nil

theorem Roomy.of_calls (hc : c.Roomy) (h : b.calls = c.calls) : b.Roomy := by
  intro call hcall
  exact hc call (h ▸ hcall)

/-- A call that is told something else leaves a connection roomy. -/
theorem Roomy.setStage (hc : c.Roomy) (hs : stage ≠ .replied (.refused .emptyBuffer)) :
    (c.setStage id stage).Roomy := by
  intro call hcall
  obtain ⟨before, hbefore, rfl⟩ := List.mem_map.mp hcall
  split
  · exact hs
  · exact hc before hbefore

theorem Roomy.enter (hc : c.Roomy) (hs : stage ≠ .replied (.refused .emptyBuffer)) :
    (c.enter stage).Roomy := by
  intro call hcall
  rcases List.mem_append.mp hcall with hcall | hcall
  · exact hc call hcall
  · cases List.mem_singleton.mp hcall
    exact hs

theorem Roomy.reply {r : Reply} (hc : c.Roomy) (hr : r ≠ .refused .emptyBuffer) :
    (c.reply id r).Roomy :=
  (hc.of_calls (b := c.leave id) rfl).setStage fun h => hr (Stage.replied.inj h)

theorem Roomy.closeWriter (hc : c.Roomy) : (c.closeWriter id).Roomy := by
  have hdrop : (c.leave id).dropWriter.Roomy := hc.of_calls (still_dropWriter (c.leave id)).calls
  exact (hdrop.of_calls rfl).setStage nofun

/-- **Whatever a call comes to when it goes on,** it is not that there was no room. -/
theorem Roomy.goes (hc : c.Roomy) (hg : Goes c id b) : b.Roomy := by
  cases hg with
  | stays => exact hc
  | sendWoken | receiveWoken => exact hc.reply nofun
  | sendTakes | receiveTakes => exact hc.setStage nofun
  | @sendStopped rest wire =>
    exact (hc.of_calls (still_dropWriter { c with wire }).calls).reply nofun
  | @receiveStopped max wire =>
    exact (hc.of_calls (still_dropReader { c with wire }).calls).reply nofun
  | sent | sendFailed | received | receiveFailed => exact (hc.of_calls rfl).reply nofun
  | sentInPart | receiveWaits | shutdownHangs => exact (hc.of_calls rfl).setStage nofun
  | @shutDown wire =>
    have hwire : Roomy { c with wire } := hc.of_calls rfl
    exact hwire.closeWriter
  | shutdownSkipped => exact hc.closeWriter
  | closed => exact ((hc.of_calls (still_dropReader c).calls).of_calls rfl).reply nofun

theorem Roomy.settleFor (hc : c.Roomy) (fuel : Nat) : (c.settleFor fuel).Roomy := by
  induction fuel generalizing c with
  | zero => exact hc
  | succ fuel ih =>
    unfold Connection.settleFor
    split
    · exact hc
    · exact ih (hc.goes (goes_poll _ _ c))

theorem Roomy.settle (hc : c.Roomy) : c.settle.Roomy := hc.settleFor c.work

/-- **A call with some room** is not told that there is none when it is made either. -/
theorem Roomy.issue (hc : c.Roomy) (hr : request ≠ .receive 0) : (c.issue request).2.Roomy := by
  have hi := issued_issue c request
  revert hi
  generalize (c.issue request).2 = after
  intro hi
  cases hi with
  | @sendRefused data r h =>
    refine hc.enter fun hs => ?_
    cases hs
    unfold Life.refuseSend? at h
    split at h <;> cases h
  | @receiveRefused max r h =>
    refine hc.enter fun hs => ?_
    cases hs
    unfold Life.refuseReceive? at h
    rw [if_neg fun hmax => hr (congrArg Request.receive hmax)] at h
    split at h
    · cases h
    · cases h
    · split at h <;> cases h
    · cases h
    · cases h
  | closeRefused => exact hc.enter nofun
  | @send data =>
    have hwaits : (c.enter (.sendQueued data)).Roomy := hc.enter nofun
    exact hwaits.of_calls rfl
  | @receive max =>
    have hwaits : (c.enter (.receiveQueued max)).Roomy := hc.enter nofun
    exact hwaits.of_calls rfl
  | @close graceful life =>
    have hwaits : (c.enter (.closeQueued graceful)).Roomy := hc.enter nofun
    exact hwaits.of_calls rfl

theorem Roomy.cancel (hc : c.Roomy) (id : Nat) : (c.cancel id).Roomy :=
  fun call hcall => hc call (List.mem_of_mem_filter hcall)

theorem Roomy.abort (hc : c.Roomy) : c.abort.Roomy := hc.of_calls (still_abort c).calls

/-- What happens on the wire is no answer to a call. -/
theorem Roomy.onWire (hc : c.Roomy) (wire : Wire) : Roomy { c with wire } := hc.of_calls rfl

theorem Roomy.reply?_ne (hc : c.Roomy) (id : Nat) : c.reply? id ≠ some (.refused .emptyBuffer) := by
  intro hreply
  unfold reply? at hreply
  split at hreply
  · rename_i r hstage
    cases hreply
    obtain ⟨call, hfound, hcall⟩ := Option.map_eq_some_iff.mp hstage
    exact hc call (List.mem_of_find?_eq_some hfound) hcall
  · cases hreply

end Dialer.Connection
