import Dialer.Proofs.Connection.History

/-!
# The incoming direction

What the peer has written is what receives have returned, in the order they returned it, and what
the incoming pipe still holds (`Received.conserved`). An empty reply to a receive is given only at
the end of the stream, when the pipe is closed and empty, and it stays so.
-/

namespace Dialer

open CallRecord (newReply mem_newReply newReply_self newReply_of_replied newReply_of_waiting
  length_newReply_le)

/-- The bytes a reply brings. -/
def Reply.bytes : Reply → Bytes
  | .received data => data
  | .done | .refused _ => []

/-- The bytes that replies bring, in their order. -/
def receivedBytes (replies : List (Nat × Reply)) : Bytes :=
  replies.flatMap fun entry => entry.2.bytes

theorem receivedBytes_append (l m : List (Nat × Reply)) :
    receivedBytes (l ++ m) = receivedBytes l ++ receivedBytes m :=
  List.flatMap_append

namespace Life

theorem remoteClosed_fail (l : Life) : l.fail.remoteClosed = l.remoteClosed := by
  unfold fail; split_ifs <;> rfl

theorem remoteClosed_beginClose? {l l' : Life} {graceful : Bool}
    (h : l.beginClose? = some (graceful, l')) : l'.remoteClosed = l.remoteClosed := by
  unfold beginClose? at h
  split_ifs at h
  split at h <;> cases h <;> rfl

end Life

namespace Connection

variable {b c : StreamConnection} {id : Nat}

/-- Everything the peer has written has been read, and it writes nothing more. -/
def AtEnd (c : StreamConnection) : Prop :=
  c.wire.incoming.closed = true ∧ c.wire.incoming.held = []

/-- **What a step of a call does to the incoming direction.** The bytes it takes are those of its
reply. -/
structure Takes (c : StreamConnection) (id : Nat) (b : StreamConnection) : Prop where
  moved : receivedBytes (newReply c b id) ++ b.wire.incoming.held = c.wire.incoming.held
  closed : c.wire.incoming.closed = true → b.wire.incoming.closed = true
  remote : b.life.remoteClosed = true → c.life.remoteClosed = true ∨ c.AtEnd
  ended : (id, .received []) ∈ newReply c b id → c.life.remoteClosed = true ∨ c.AtEnd

theorem Takes.atEnd (h : Takes c id b) (hc : c.AtEnd) : b.AtEnd := by
  have hmoved := h.moved
  rw [hc.2, List.append_eq_nil_iff] at hmoved
  exact ⟨h.closed hc.1, hmoved.2⟩

/-- A step that reads nothing. -/
theorem takes_nothing {stage : Stage} (hnone : c.reply? id = none) (hb : b.stage? id = some stage)
    (hstage : ∀ bytes, stage ≠ .replied (.received bytes))
    (hheld : b.wire.incoming.held = c.wire.incoming.held)
    (hclosed : c.wire.incoming.closed = true → b.wire.incoming.closed = true)
    (hremote : b.life.remoteClosed = c.life.remoteClosed) : Takes c id b := by
  have hbytes : receivedBytes (newReply c b id) = [] := by
    cases stage with
    | replied r =>
      rw [newReply_of_replied hnone hb]
      cases r with
      | received bytes => exact absurd rfl (hstage bytes)
      | done => rfl
      | refused e => rfl
    | _ => rw [newReply_of_waiting hb nofun]; rfl
  refine ⟨by rw [hbytes, hheld]; rfl, hclosed, fun h => Or.inl (hremote ▸ h), fun hmem => ?_⟩
  obtain ⟨-, -, hreply⟩ := mem_newReply.mp hmem
  rw [hb] at hreply
  exact absurd (Option.some.inj hreply) (hstage [])

/-- A step that leaves the incoming pipe alone. -/
theorem takes_nothing_of_eq {stage : Stage} (hnone : c.reply? id = none)
    (hb : b.stage? id = some stage) (hstage : ∀ bytes, stage ≠ .replied (.received bytes))
    (hin : b.wire.incoming = c.wire.incoming)
    (hremote : b.life.remoteClosed = c.life.remoteClosed) : Takes c id b :=
  takes_nothing hnone hb hstage (congrArg Pipe.held hin) (fun hc => hin ▸ hc) hremote

theorem Takes.refl (c : StreamConnection) (id : Nat) : Takes c id c := by
  constructor
  · rw [newReply_self]; rfl
  · exact fun hc => hc
  · exact Or.inl
  · rw [newReply_self]; nofun

/-- **A receive takes the bytes it returns.** -/
theorem takes_received {max : Nat} {bytes : Bytes} {wire : Wire} (hnone : c.reply? id = none)
    (hmax : 0 < max) (hw : c.wire.read max = (.data bytes, wire))
    (hb : b.stage? id = some (.replied (.received bytes))) (hwire : b.wire = wire)
    (hlife : b.life = if bytes.isEmpty then c.life.endOfStream else c.life) : Takes c id b := by
  have hread := Wire.read_of_eq hw
  rw [← hwire] at hread
  obtain ⟨happ, -, hend⟩ := hread.data bytes rfl
  have hend : bytes = [] → c.AtEnd := fun h => hend h hmax
  constructor
  · rw [newReply_of_replied hnone hb]
    exact (congrArg (· ++ b.wire.incoming.held) (List.append_nil bytes)).trans happ
  · exact fun hc => hread.closed.trans hc
  · intro hremote
    rw [hlife] at hremote
    split_ifs at hremote with he
    · exact Or.inr (hend (List.isEmpty_iff.mp he))
    · exact Or.inl hremote
  · intro hmem
    obtain ⟨-, -, hreply⟩ := mem_newReply.mp hmem
    rw [hb] at hreply
    cases hreply
    exact Or.inr (hend rfl)

theorem Goes.takes (h : Goes c id b) (hnone : c.reply? id = none)
    (hmax : ∀ max, c.Receives id max → 0 < max) : Takes c id b := by
  cases h with
  | stays => exact Takes.refl _ _
  | sendWoken h => exact takes_nothing_of_eq hnone (stage?_self (stage?_reply rfl h)) nofun rfl rfl
  | receiveWoken h =>
    exact takes_nothing_of_eq hnone (stage?_self (stage?_reply rfl h)) nofun rfl rfl
  | sendTakes h =>
    exact takes_nothing_of_eq hnone (stage?_self (stage?_setStage rfl h)) nofun rfl rfl
  | receiveTakes h =>
    exact takes_nothing_of_eq hnone (stage?_self (stage?_setStage rfl h)) nofun rfl rfl
  | @sendStopped rest wire h hsig hw =>
    obtain ⟨old, hold, -⟩ := h.exists_stage
    have hin : wire.incoming = c.wire.incoming := by
      rcases hw with rfl | ⟨left, hw⟩
      · rfl
      · obtain ⟨sent, rest', hwrote⟩ := Wire.exists_wrote hw
        exact hwrote.incoming
    have hdrop := wire_dropWriter { c with wire }
    exact takes_nothing hnone (stage?_self (stage?_reply stage?_dropWriter hold)) nofun
      (hdrop.incoming.trans (congrArg Pipe.held hin)) (fun hc => hdrop.closed (hin ▸ hc))
      (still_dropWriter { c with wire }).remote
  | @receiveStopped max wire h hsig hw =>
    obtain ⟨old, hold, -⟩ := h.exists_stage
    have hin : wire.incoming.held = c.wire.incoming.held ∧
        (c.wire.incoming.closed = true → wire.incoming.closed = true) := by
      rcases hw with rfl | hw
      · exact ⟨rfl, fun hc => hc⟩
      · have hread := Wire.read_of_eq hw
        exact ⟨hread.other nofun, hread.closed.trans⟩
    have hdrop := wire_dropReader { c with wire }
    exact takes_nothing hnone (stage?_self (stage?_reply stage?_dropReader hold)) nofun
      (hdrop.incoming.trans hin.1) (fun hc => hdrop.closed (hin.2 hc))
      (still_dropReader { c with wire }).remote
  | sent h hw =>
    obtain ⟨old, hold, -⟩ := h.exists_stage
    obtain ⟨sent, left, hwrote⟩ := Wire.exists_wrote hw
    exact takes_nothing_of_eq hnone (stage?_self (stage?_reply rfl hold)) nofun hwrote.incoming rfl
  | sentInPart h hw =>
    obtain ⟨old, hold, -⟩ := h.exists_stage
    obtain ⟨sent, rest', hwrote⟩ := Wire.exists_wrote hw
    exact takes_nothing_of_eq hnone (stage?_self (stage?_setStage rfl hold)) nofun hwrote.incoming
      rfl
  | sendFailed h hw =>
    obtain ⟨old, hold, -⟩ := h.exists_stage
    obtain ⟨sent, left, hwrote⟩ := Wire.exists_wrote hw
    exact takes_nothing_of_eq hnone (stage?_self (stage?_reply rfl hold)) nofun hwrote.incoming
      (Life.remoteClosed_fail c.life)
  | received h hw =>
    obtain ⟨old, hold, -⟩ := h.exists_stage
    exact takes_received hnone (hmax _ h) hw (stage?_self (stage?_reply rfl hold)) rfl rfl
  | receiveWaits h hw =>
    obtain ⟨old, hold, -⟩ := h.exists_stage
    have hread := Wire.read_of_eq hw
    exact takes_nothing hnone (stage?_self (stage?_setStage rfl hold)) nofun (hread.other nofun)
      hread.closed.trans rfl
  | receiveFailed h hw =>
    obtain ⟨old, hold, -⟩ := h.exists_stage
    have hread := Wire.read_of_eq hw
    exact takes_nothing hnone (stage?_self (stage?_reply rfl hold)) nofun (hread.other nofun)
      hread.closed.trans (Life.remoteClosed_fail c.life)
  | @shutDown wire h hw =>
    obtain ⟨old, hold, -⟩ := h.exists_stage
    have hin := (Wire.pipes_shutdown hw).2
    have hdrop := wire_dropWriter (leave { c with wire } id)
    exact takes_nothing hnone (stage?_self (stage?_closeWriter rfl hold)) nofun
      (hdrop.incoming.trans (congrArg Pipe.held hin)) (fun hc => hdrop.closed (hin ▸ hc))
      (still_dropWriter (leave { c with wire } id)).remote
  | shutdownHangs h hw =>
    obtain ⟨old, hold, -⟩ := h.exists_stage
    have hin := (Wire.pipes_shutdown hw).2
    exact takes_nothing_of_eq hnone (stage?_self (stage?_setStage rfl hold)) nofun hin rfl
  | shutdownSkipped h =>
    have hdrop := wire_dropWriter (c.leave id)
    exact takes_nothing hnone (stage?_self (stage?_closeWriter rfl h)) nofun hdrop.incoming
      hdrop.closed (still_dropWriter (c.leave id)).remote
  | closed h =>
    have hdrop := wire_dropReader c
    exact takes_nothing hnone (stage?_self (stage?_reply (b := { c.dropReader with
      life := c.dropReader.life.finish }) stage?_dropReader h)) nofun hdrop.incoming
      hdrop.closed (still_dropReader c).remote

theorem Issued.remoteClosed_eq {request : Request} (h : Issued c request b) :
    b.life.remoteClosed = c.life.remoteClosed := by
  cases h with
  | close h => exact Life.remoteClosed_beginClose? h
  | _ => rfl

theorem Issued.takes {request : Request} (hc : c.Coherent) (h : Issued c request b) :
    Takes c c.nextId b := by
  obtain ⟨new, hbegins, hstage⟩ := h.eq_update hc
  have hnone : c.reply? c.nextId = none := by rw [reply?, hc.fresh _ (Nat.le_refl _)]
  have hb : b.stage? c.nextId = some new := stage?_self hstage
  have hother : (∀ bytes, new ≠ .replied (.received bytes)) → Takes c c.nextId b := fun hne =>
    takes_nothing_of_eq hnone hb hne (congrArg Wire.incoming h.wire) h.remoteClosed_eq
  cases hbegins with
  | @ended max hremote =>
    refine ⟨?_, fun hclosed => h.wire ▸ hclosed, fun _ => Or.inl hremote, fun _ => Or.inl hremote⟩
    rw [newReply_of_replied hnone hb, h.wire]
    rfl
  | refused e => exact hother fun bytes h => by cases h
  | send => exact hother fun bytes h => by cases h
  | receive => exact hother fun bytes h => by cases h
  | close => exact hother fun bytes h => by cases h

end Connection

/-! ### Along a history -/

namespace History

variable {h g : History} {id : Nat}

/-- **What the peer has written is what receives have returned and what the pipe holds.** -/
structure Received (h : History) : Prop where
  conserved : receivedBytes h.replies ++ h.connection.wire.incoming.held = h.given
  remote : h.connection.life.remoteClosed = true → h.connection.AtEnd
  ended : ∀ i id, h.replies[i]? = some (id, .received []) →
    h.connection.AtEnd ∧ receivedBytes (h.replies.take i) = h.given

namespace Received

theorem start (capacity : Nat) : (start capacity).Received where
  conserved := rfl
  remote := nofun
  ended := nofun

/-- A step of a call. -/
theorem takes (hr : h.Received) (ht : Connection.Takes h.connection id g.connection)
    (hreplies : g.replies = h.replies ++ newReply h.connection g.connection id)
    (hgiven : g.given = h.given) : g.Received := by
  have hend : h.connection.life.remoteClosed = true ∨ h.connection.AtEnd → h.connection.AtEnd :=
    fun h' => h'.elim hr.remote fun hc => hc
  constructor
  · rw [hreplies, hgiven, receivedBytes_append, List.append_assoc, ht.moved, hr.conserved]
  · exact fun hremote => ht.atEnd (hend (ht.remote hremote))
  · intro i j hi
    rw [hreplies] at hi ⊢
    rw [hgiven]
    rcases Nat.lt_or_ge i h.replies.length with hlt | hge
    · rw [List.getElem?_append_left hlt] at hi
      obtain ⟨hatEnd, htaken⟩ := hr.ended i j hi
      rw [List.take_append_of_le_length (Nat.le_of_lt hlt)]
      exact ⟨ht.atEnd hatEnd, htaken⟩
    · rw [List.getElem?_append_right hge] at hi
      have hlt := (List.getElem?_eq_some_iff.mp hi).1
      have hle := length_newReply_le h.connection g.connection id
      have hlast : i = h.replies.length := by omega
      obtain ⟨rfl, -⟩ := mem_newReply.mp (List.mem_of_getElem? hi)
      have hatEnd := hend (ht.ended (List.mem_of_getElem? hi))
      rw [hlast, List.take_left]
      have hconserved := hr.conserved
      rw [hatEnd.2, List.append_nil] at hconserved
      exact ⟨ht.atEnd hatEnd, hconserved⟩

/-- No call moves, and the peer writes nothing. -/
theorem still (hr : h.Received)
    (hheld : g.connection.wire.incoming.held = h.connection.wire.incoming.held)
    (hclosed : h.connection.wire.incoming.closed = true → g.connection.wire.incoming.closed = true)
    (hremote : g.connection.life.remoteClosed = h.connection.life.remoteClosed)
    (hreplies : g.replies = h.replies) (hgiven : g.given = h.given) : g.Received := by
  have hend : h.connection.AtEnd → g.connection.AtEnd :=
    fun hend => ⟨hclosed hend.1, hheld.trans hend.2⟩
  constructor
  · rw [hreplies, hheld, hgiven, hr.conserved]
  · rw [hremote]
    exact fun h' => hend (hr.remote h')
  · rw [hreplies, hgiven]
    exact fun i j hi => (hr.ended i j hi).imp hend fun h' => h'

theorem issue (hr : h.Received) (ht : h.Tracked) (request : Request) :
    (h.step (.issue request)).Received := by
  have hi := Connection.issued_issue h.connection request
  rw [step_issue]
  exact hr.takes (hi.takes ht.coherent) rfl rfl

theorem poll (hr : h.Received) (ht : h.Tracked) (branch : Branch) (id : Nat) :
    (h.step (.poll branch id)).Received := by
  rcases hreply : h.connection.reply? id with _ | r
  · have hg := Connection.goes_poll branch id h.connection
    refine hr.takes (hg.takes hreply fun max hreceives => ?_) rfl rfl
    obtain ⟨old, hold, -⟩ := hreceives.exists_stage
    obtain ⟨request, -, hsuits⟩ := ht.exists_request hold
    exact (hreceives.suits hsuits).2
  · rw [step_poll_of_reply? hreply]
    exact hr

/-- The peer writes what the pipe has room for, and nothing once it is closed. -/
theorem peerWrite (hr : h.Received) (data : Bytes) : (h.step (.peerWrite data)).Received := by
  rw [step_peerWrite]
  split_ifs with hclosed
  · exact hr
  · constructor
    · have happ := congrArg (· ++ data.take h.connection.wire.incoming.room) hr.conserved
      exact (List.append_assoc _ _ _).symm.trans happ
    · exact fun hremote => absurd (hr.remote hremote).1 hclosed
    · exact fun i j hi => absurd (hr.ended i j hi).1.1 hclosed

theorem step (hr : h.Received) (ht : h.Tracked) (event : Event) : (h.step event).Received := by
  cases event with
  | issue request => exact hr.issue ht request
  | poll branch id => exact hr.poll ht branch id
  | cancel id => exact hr.still rfl (fun hc => hc) rfl rfl rfl
  | abort =>
    have hwire := Connection.wire_abort h.connection
    exact hr.still hwire.incoming hwire.closed (Connection.still_abort h.connection).remote rfl rfl
  | peerWrite data => exact hr.peerWrite data
  | peerRead max =>
    rcases step_peerRead h max with heq | ⟨bytes, outgoing, -, heq⟩
    · rw [heq]; exact hr
    · rw [heq]; exact hr.still rfl (fun hc => hc) rfl rfl rfl
  | peerShutdown => exact hr.still rfl (fun _ => rfl) rfl rfl rfl
  | peerDrop => exact hr.still rfl (fun _ => rfl) rfl rfl rfl
  | plant call failure => exact hr.still rfl (fun hc => hc) rfl rfl rfl
  | hangFlush value => exact hr.still rfl (fun hc => hc) rfl rfl rfl
  | hangShutdown value => exact hr.still rfl (fun hc => hc) rfl rfl rfl

end Received

end History

end Dialer
