import Dialer.Proofs.Connection.Incoming
import Dialer.Proofs.Connection.Outgoing
import Dialer.Proofs.Connection.Scenario

/-!
# Byte streams arrive as they were sent

Whatever calls are made on a connection, in whatever order they go on or are given up, and whatever
the peer does: bytes of two sends never mix, and no byte is lost, doubled or passed by another on
its way to a receive (`History.intact_run`).
-/

namespace Dialer.History

variable {h : History}

/-- **The byte streams of a history are intact.** -/
structure Intact (h : History) : Prop where
  /-- The session has got a prefix of the data of each send, in the order the sends were made in,
  and all data of a send that is done. -/
  sent : ∃ part : Nat → Bytes, h.carried = (List.range h.issued.length).flatMap part ∧
    (∀ id data, h.issued[id]? = some (.send data) →
      part id <+: data ∧ ((id, .done) ∈ h.replies → part id = data)) ∧
    ∀ id, (∀ data, h.issued[id]? ≠ some (.send data)) → part id = []
  /-- What the peer has written and receives have not returned is there to be read. -/
  received : receivedBytes h.replies ++ h.connection.wire.incoming.held = h.given
  room : ∀ id bytes, (id, .received bytes) ∈ h.replies →
    ∃ max, h.issued[id]? = some (.receive max) ∧ bytes.length ≤ max
  /-- Before an empty reply, everything the peer ever writes has been returned. -/
  ended : ∀ i id, h.replies[i]? = some (id, .received []) →
    receivedBytes (h.replies.take i) = h.given
  /-- A call that goes on without a reply reads nothing, and neither does giving it up. -/
  unanswered : ∀ branch id, (h.step (.poll branch id)).replies = h.replies →
    (h.step (.poll branch id)).connection.wire.incoming.held = h.connection.wire.incoming.held
  cancelled : ∀ id, (h.step (.cancel id)).connection.wire = h.connection.wire ∧
    (h.step (.cancel id)).replies = h.replies

/-- What holds along every history. -/
structure Sound (h : History) : Prop where
  tracked : h.Tracked
  sent : ∃ part, h.Sent part
  received : h.Received

theorem Sound.step (hs : h.Sound) (event : Event) : (h.step event).Sound := by
  obtain ⟨ht, ⟨part, hsent⟩, hreceived⟩ := hs
  exact ⟨ht.step event, hsent.step ht event, hreceived.step ht event⟩

theorem sound_run (capacity : Nat) (events : List Event) : ((start capacity).run events).Sound :=
  run_induction (fun _ event hs => hs.step event)
    ⟨tracked_start capacity, ⟨_, Sent.start capacity⟩, Received.start capacity⟩ events

theorem Sound.intact (hs : h.Sound) : h.Intact := by
  obtain ⟨ht, ⟨part, hsent⟩, hreceived⟩ := hs
  constructor
  · refine ⟨part, hsent.carried, fun id data hid => ?_, fun id hid => ?_⟩
    · have hdata : h.dataOf id = data := by rw [dataOf, hid]
      exact ⟨hdata ▸ hsent.within id, fun hd => hdata ▸ hsent.done id hd⟩
    · have hdata : h.dataOf id = [] := by
        rw [dataOf]
        split
        · rename_i data hdata
          exact absurd hdata (hid data)
        · rfl
      exact List.prefix_nil.mp (hdata ▸ hsent.within id)
  · exact hreceived.conserved
  · intro id bytes hmem
    obtain ⟨request, hreq, max, rfl, hlen⟩ := ht.answers id _ hmem
    exact ⟨max, hreq, hlen⟩
  · exact fun i id hi => (hreceived.ended i id hi).2
  · intro branch id hreplies
    have hafter := (hreceived.poll ht branch id).conserved
    rw [hreplies] at hafter
    exact List.append_cancel_left (hafter.trans hreceived.conserved.symm)
  · exact fun id => ⟨rfl, rfl⟩

/-- **Byte streams are intact along every history.** -/
theorem intact_run (capacity : Nat) (events : List Event) :
    ((start capacity).run events).Intact :=
  (sound_run capacity events).intact

/-- A send that is given up half-way leaves a prefix, and the next one follows. -/
example : ((start 4).run [.issue (.send [1, 2, 3, 4, 5, 6]), .issue (.send [7]),
    .poll .transfer 0, .poll .transfer 0, .cancel 0, .peerRead 2, .poll .transfer 1,
    .poll .transfer 1]).carried = [1, 2, 3, 4, 7] := by decide

/-- What a scenario comes to has a history whose byte streams are intact. -/
theorem exists_intact (capacity : Nat) (operations : List ConnectionScenario.Operation) :
    ∃ h : History, h.Intact ∧ h.connection =
      (ConnectionScenario.run { connection := .ofCapacity capacity } operations).2.connection := by
  obtain ⟨events, hc⟩ := leads_run (s := { connection := .ofCapacity capacity })
    (leads_self (start capacity)) operations
  exact ⟨_, (sound_run capacity events).intact, hc⟩

end Dialer.History
