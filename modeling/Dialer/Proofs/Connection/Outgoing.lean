import Dialer.Proofs.Connection.History

/-!
# The outgoing direction

What has been put into a session falls into one part for each call, in the order the calls were made
in: a prefix of the data of a send, and nothing for other calls. Only the send that stands first in
the queue of writers can put bytes, and all parts after its own are still empty (`Sent.later`); so
its part grows at the end of the whole.
-/

namespace Dialer

open CallRecord (newReply mem_newReply)

/-! ### Parts -/

theorem flatMap_range_update {part : Nat → Bytes} {n id : Nat} (hid : id < n)
    (hlater : ∀ j, id < j → part j = []) (more : Bytes) :
    (List.range n).flatMap (Function.update part id (part id ++ more)) =
      (List.range n).flatMap part ++ more := by
  induction n with
  | zero => omega
  | succ n ih =>
    simp only [List.range_succ, List.flatMap_append, List.flatMap_singleton]
    rcases Nat.lt_or_ge id n with hlt | hge
    · rw [ih hlt, Function.update_of_ne (by omega), hlater n hlt]
      simp
    · have hn : n = id := by omega
      subst hn
      have hsame : (List.range n).flatMap (Function.update part n (part n ++ more)) =
          (List.range n).flatMap part :=
        List.flatMap_congr fun j hj => by
          rw [Function.update_of_ne (Nat.ne_of_lt (List.mem_range.mp hj))]
      rw [hsame, Function.update_self, List.append_assoc]

/-! ### What a call has left to send -/

/-- The bytes a send has left at a stage. -/
def Stage.left? : Stage → Option Bytes
  | .sendQueued data | .sendHolding data => some data
  | .sending rest => some rest
  | _ => none

namespace Connection

variable {b c : StreamConnection} {id : Nat}

/-- The bytes a call has left to send, if it is a send that waits. -/
def left? (c : StreamConnection) (id : Nat) : Option Bytes := (c.stage? id).bind Stage.left?

theorem left?_eq_of_stage? {stage : Stage} (h : c.stage? id = some stage) :
    c.left? id = stage.left? := by
  rw [left?, h]
  rfl

theorem Sends.left? {rest : Bytes} (h : c.Sends id rest) : c.left? id = some rest := by
  rcases h with h | h
  · exact left?_eq_of_stage? h
  · exact left?_eq_of_stage? h

theorem Goes.left?_of_ne (h : Goes c id b) {j : Nat} (hj : j ≠ id) : b.left? j = c.left? j := by
  rw [Connection.left?, h.stage?_of_ne hj]
  rfl

/-- Only a send has bytes left when it begins, and these are all its bytes. -/
theorem Begins.eq_send {l : Life} {request : Request} {stage : Stage} {rest : Bytes}
    (h : Begins l request stage) (hleft : stage.left? = some rest) : request = .send rest := by
  cases h with
  | send => cases hleft; rfl
  | _ => cases hleft

/-- **What a step of a call does to the outgoing direction.** It puts bytes that the call has left;
what is left after it is the rest, and only if nothing is left can a send be done. -/
structure Puts (c : StreamConnection) (id : Nat) (b : StreamConnection) (sent : Bytes) : Prop where
  held : b.wire.outgoing.held = c.wire.outgoing.held ++ sent
  first : sent = [] ∨ ∃ rest, c.Sends id rest ∧ sent <+: rest
  left : ∀ rest, b.left? id = some rest → c.left? id = some (sent ++ rest)
  done : b.stage? id = some (.replied .done) →
    b = c ∨ c.stage? id = some .closingReader ∨ c.left? id = some sent

theorem puts_nothing {stage : Stage} (hheld : b.wire.outgoing.held = c.wire.outgoing.held)
    (hs : b.stage? id = some stage) (hleft : stage.left? = none)
    (hdone : stage = .replied .done → c.stage? id = some .closingReader) : Puts c id b [] where
  held := by rw [hheld, List.append_nil]
  first := Or.inl rfl
  left rest h := by
    rw [left?_eq_of_stage? hs, hleft] at h
    cases h
  done h := by
    rw [hs] at h
    cases h
    exact Or.inr (Or.inl (hdone rfl))

theorem exists_puts_of_write {rest : Bytes} {result : WriteResult} {wire : Wire} {stage : Stage}
    (h : c.Sends id rest) (hw : c.wire.write rest = (result, wire))
    (hheld : b.wire.outgoing.held = wire.outgoing.held) (hs : b.stage? id = some stage)
    (hleft : ∀ left, stage.left? = some left → result = .blocked left)
    (hdone : stage = .replied .done → result = .done) : ∃ sent, Puts c id b sent := by
  obtain ⟨sent, left, hwrote⟩ := Wire.exists_wrote hw
  have hdata := hwrote.data_eq
  refine ⟨sent, hheld.trans hwrote.held, Or.inr ⟨rest, h, hdata ▸ List.prefix_append sent left⟩,
    fun other hl => ?_, fun hd => Or.inr (Or.inr ?_)⟩
  · rw [left?_eq_of_stage? hs] at hl
    rw [h.left?, hwrote.blocked other (hleft other hl), hdata]
  · rw [hs] at hd
    rw [h.left?, ← hdata, hwrote.done (hdone (Option.some.inj hd)), List.append_nil]

theorem Goes.exists_puts (h : Goes c id b) : ∃ sent, Puts c id b sent := by
  cases h with
  | stays =>
    exact ⟨[], (List.append_nil _).symm, Or.inl rfl, fun _ h => h, fun _ => Or.inl rfl⟩
  | sendWoken h => exact ⟨[], puts_nothing rfl (stage?_self (stage?_reply rfl h)) rfl nofun⟩
  | receiveWoken h => exact ⟨[], puts_nothing rfl (stage?_self (stage?_reply rfl h)) rfl nofun⟩
  | @sendTakes data h =>
    have hs : (c.setStage id (.sendHolding data)).stage? id = some (.sendHolding data) :=
      stage?_self (stage?_setStage rfl h)
    refine ⟨[], (List.append_nil _).symm, Or.inl rfl, fun rest hl => ?_, fun hd => ?_⟩
    · rw [left?_eq_of_stage? hs] at hl
      rw [left?_eq_of_stage? h]
      exact hl
    · rw [hs] at hd
      cases hd
  | receiveTakes h =>
    exact ⟨[], puts_nothing rfl (stage?_self (stage?_setStage rfl h)) rfl nofun⟩
  | @sendStopped rest wire h hsig hw =>
    obtain ⟨old, hold, -⟩ := h.exists_stage
    have hs : (stopSend { c with wire } id).stage? id = some (.replied (.refused .closed)) :=
      stage?_self (stage?_reply stage?_dropWriter hold)
    have hdrop := (wire_dropWriter { c with wire }).outgoing
    rcases hw with rfl | ⟨left, hw⟩
    · exact ⟨[], puts_nothing hdrop hs rfl nofun⟩
    · exact exists_puts_of_write h hw hdrop hs nofun nofun
  | @receiveStopped max wire h hsig hw =>
    obtain ⟨old, hold, -⟩ := h.exists_stage
    have hs : (stopReceive { c with wire } id).stage? id = some (.replied (.refused .closed)) :=
      stage?_self (stage?_reply stage?_dropReader hold)
    have hdrop := (wire_dropReader { c with wire }).outgoing
    rcases hw with rfl | hw
    · exact ⟨[], puts_nothing hdrop hs rfl nofun⟩
    · have hout := congrArg Pipe.held (Wire.read_of_eq hw).outgoing
      exact ⟨[], puts_nothing (hdrop.trans hout) hs rfl nofun⟩
  | sent h hw =>
    obtain ⟨old, hold, -⟩ := h.exists_stage
    exact exists_puts_of_write h hw rfl (stage?_self (stage?_reply rfl hold)) nofun fun _ => rfl
  | sentInPart h hw =>
    obtain ⟨old, hold, -⟩ := h.exists_stage
    exact exists_puts_of_write h hw rfl (stage?_self (stage?_setStage rfl hold))
      (fun left hl => by cases hl; rfl) nofun
  | sendFailed h hw =>
    obtain ⟨old, hold, -⟩ := h.exists_stage
    exact exists_puts_of_write h hw rfl (stage?_self (stage?_reply rfl hold)) nofun nofun
  | received h hw =>
    obtain ⟨old, hold, -⟩ := h.exists_stage
    have hout := congrArg Pipe.held (Wire.read_of_eq hw).outgoing
    exact ⟨[], puts_nothing hout (stage?_self (stage?_reply rfl hold)) rfl nofun⟩
  | receiveWaits h hw =>
    obtain ⟨old, hold, -⟩ := h.exists_stage
    have hout := congrArg Pipe.held (Wire.read_of_eq hw).outgoing
    exact ⟨[], puts_nothing hout (stage?_self (stage?_setStage rfl hold)) rfl nofun⟩
  | receiveFailed h hw =>
    obtain ⟨old, hold, -⟩ := h.exists_stage
    have hout := congrArg Pipe.held (Wire.read_of_eq hw).outgoing
    exact ⟨[], puts_nothing hout (stage?_self (stage?_reply rfl hold)) rfl nofun⟩
  | @shutDown wire h hw =>
    obtain ⟨old, hold, -⟩ := h.exists_stage
    have hout := (Wire.pipes_shutdown hw).1
    have hdrop := (wire_dropWriter (leave { c with wire } id)).outgoing
    exact ⟨[], puts_nothing (hdrop.trans hout)
      (stage?_self (stage?_closeWriter rfl hold)) rfl nofun⟩
  | shutdownHangs h hw =>
    obtain ⟨old, hold, -⟩ := h.exists_stage
    have hout := (Wire.pipes_shutdown hw).1
    exact ⟨[], puts_nothing hout (stage?_self (stage?_setStage rfl hold)) rfl nofun⟩
  | shutdownSkipped h =>
    exact ⟨[], puts_nothing (wire_dropWriter (c.leave id)).outgoing
      (stage?_self (stage?_closeWriter rfl h)) rfl nofun⟩
  | closed h =>
    exact ⟨[], puts_nothing (wire_dropReader c).outgoing
      (stage?_self (stage?_reply (b := { c.dropReader with life := c.dropReader.life.finish })
        stage?_dropReader h)) rfl fun _ => h⟩

end Connection

/-! ### Along a history -/

namespace History

variable {h g : History} {part : Nat → Bytes} {id : Nat}

/-- The bytes a call was to send. -/
def dataOf (h : History) (id : Nat) : Bytes :=
  match h.issued[id]? with
  | some (.send data) => data
  | _ => []

/-- All bytes that have been put into the session. -/
def carried (h : History) : Bytes := h.taken ++ h.connection.wire.outgoing.held

/-- What earlier calls were to send stays when a call is made. -/
theorem dataOf_issue_of_lt (ht : h.Tracked) (request : Request) (hid : id < h.connection.nextId) :
    (h.step (.issue request)).dataOf id = h.dataOf id := by
  rw [dataOf, step_issue, List.getElem?_append_left (ht.nextId ▸ hid), dataOf]

theorem dataOf_issue_self (ht : h.Tracked) (data : Bytes) :
    (h.step (.issue (.send data))).dataOf h.connection.nextId = data := by
  have hself : (h.issued ++ [Request.send data])[h.connection.nextId]? = some (.send data) := by
    rw [ht.nextId]
    exact List.getElem?_concat_length
  rw [dataOf, step_issue, hself]

/-- **What was put into the session is made of a part for each call.** -/
structure Sent (h : History) (part : Nat → Bytes) : Prop where
  carried : h.carried = (List.range h.issued.length).flatMap part
  within : ∀ id, part id <+: h.dataOf id
  left : ∀ id rest, h.connection.left? id = some rest → part id ++ rest = h.dataOf id
  later : ∀ id ∈ h.connection.writers, ∀ j, id < j → part j = []
  done : ∀ id, (id, .done) ∈ h.replies → part id = h.dataOf id

namespace Sent

theorem start (capacity : Nat) : (start capacity).Sent fun _ => [] where
  carried := rfl
  within _ := List.nil_prefix
  left _ _ h := by cases h
  later := nofun
  done := nofun

/-- The parts stay if nothing is put. -/
theorem mono (hs : h.Sent part) (hc : g.carried = h.carried) (hi : g.issued = h.issued)
    (hl : ∀ id rest, g.connection.left? id = some rest → h.connection.left? id = some rest)
    (hw : g.connection.writers ⊆ h.connection.writers)
    (hd : ∀ id, (id, .done) ∈ g.replies → part id = h.dataOf id) : g.Sent part := by
  have hdata : g.dataOf = h.dataOf := by
    funext id
    rw [dataOf, hi, dataOf]
  constructor
  · rw [hc, hi]; exact hs.carried
  · rw [hdata]; exact hs.within
  · rw [hdata]; exact fun id rest hrest => hs.left id rest (hl id rest hrest)
  · exact fun id hid => hs.later id (hw hid)
  · rw [hdata]; exact hd

/-- A part is all there is to send if nothing is left of it. -/
theorem eq_of_closing (hs : h.Sent part) (ht : h.Tracked)
    (hc : h.connection.stage? id = some .closingReader) : part id = h.dataOf id := by
  obtain ⟨request, hreq, hsuits⟩ := ht.suits id _ hc
  have hclose : request = .close := hsuits
  have hdata : h.dataOf id = [] := by rw [dataOf, hreq, hclose]
  rw [hdata]
  exact List.prefix_nil.mp (hdata ▸ hs.within id)

/-- **A step of the call at the head of the queue lets its part grow.** -/
theorem grow (hs : h.Sent part) (ht : h.Tracked) {b : StreamConnection} {sent rest : Bytes}
    (hsends : h.connection.Sends id rest) (hsent : sent <+: rest)
    (hg : Connection.Goes h.connection id b)
    (hp : Connection.Puts h.connection id b sent) (hnone : h.connection.reply? id = none) :
    { h with connection := b, replies := h.replies ++ newReply h.connection b id : History }.Sent
      (Function.update part id (part id ++ sent)) := by
  have hhead := ht.coherent.head?_of_sends hsends
  have hmem : id ∈ h.connection.writers := List.mem_of_mem_head? hhead
  have hlt : id < h.issued.length := ht.nextId ▸ ht.coherent.writers_lt hmem
  have hwhole : part id ++ rest = h.dataOf id := hs.left id rest hsends.left?
  constructor
  · have hcarried : h.taken ++ b.wire.outgoing.held = h.carried ++ sent := by
      rw [hp.held, ← List.append_assoc]
      rfl
    exact hcarried.trans (by rw [hs.carried, flatMap_range_update hlt (hs.later id hmem)])
  · intro j
    rcases eq_or_ne j id with rfl | hj
    · rw [Function.update_self]
      have hpre : part j ++ sent <+: part j ++ rest := (List.prefix_append_right_inj _).mpr hsent
      exact hwhole ▸ hpre
    · rw [Function.update_of_ne hj]
      exact hs.within j
  · intro j left hl
    rcases eq_or_ne j id with rfl | hj
    · rw [Function.update_self, List.append_assoc]
      exact hs.left j _ (hp.left left hl)
    · rw [Function.update_of_ne hj]
      exact hs.left j left (hg.left?_of_ne hj ▸ hl)
  · intro w hw j hwj
    have hle : id ≤ w := ht.coherent.lt_of_head? hhead (hg.writers_subset hw)
    rw [Function.update_of_ne (by omega)]
    exact hs.later w (hg.writers_subset hw) j hwj
  · intro j hd
    rcases List.mem_append.mp hd with hold | hnew
    · have hdone := hs.done j hold
      rcases eq_or_ne j id with rfl | hj
      · have hrest : rest = [] := by
          rw [← hwhole] at hdone
          simpa using hdone
        have hnil : sent = [] := List.prefix_nil.mp (hrest ▸ hsent)
        rw [Function.update_self, hnil, List.append_nil]
        exact hdone
      · rw [Function.update_of_ne hj]
        exact hdone
    · obtain ⟨rfl, -, hstage⟩ := mem_newReply.mp hnew
      rw [Function.update_self]
      rcases hp.done hstage with rfl | hclosing | hleft
      · rw [Connection.reply?_eq_some.mpr hstage] at hnone
        cases hnone
      · have hleft := hsends.left?
        rw [Connection.left?_eq_of_stage? hclosing] at hleft
        cases hleft
      · exact hs.left j sent hleft

theorem poll (hs : h.Sent part) (ht : h.Tracked) (branch : Branch) (id : Nat) :
    ∃ part, (h.step (.poll branch id)).Sent part := by
  rcases hr : h.connection.reply? id with _ | r
  · have hg := Connection.goes_poll branch id h.connection
    obtain ⟨sent, hp⟩ := hg.exists_puts
    rcases hp.first with rfl | ⟨rest, hsends, hpre⟩
    · refine ⟨part, hs.mono ?_ rfl (fun j rest hl => ?_) hg.writers_subset fun j hd => ?_⟩
      · exact congrArg (h.taken ++ ·) (hp.held.trans (List.append_nil _))
      · rcases eq_or_ne j id with rfl | hj
        · exact hp.left rest hl
        · exact hg.left?_of_ne hj ▸ hl
      · rcases List.mem_append.mp hd with hold | hnew
        · exact hs.done j hold
        · obtain ⟨rfl, -, hstage⟩ := mem_newReply.mp hnew
          rcases hp.done hstage with heq | hclosing | hleft
          · rw [heq] at hstage
            rw [Connection.reply?_eq_some.mpr hstage] at hr
            cases hr
          · exact hs.eq_of_closing ht hclosing
          · simpa using hs.left j [] hleft
    · exact ⟨_, hs.grow ht hsends hpre hg hp hr⟩
  · rw [step_poll_of_reply? hr]
    exact ⟨part, hs⟩

/-- Calls still to be made have no part. -/
theorem eq_nil_of_le (hs : h.Sent part) (ht : h.Tracked) (hid : h.connection.nextId ≤ id) :
    part id = [] := by
  have hdata : h.dataOf id = [] := by rw [dataOf, List.getElem?_eq_none (ht.nextId ▸ hid)]
  exact List.prefix_nil.mp (hdata ▸ hs.within id)

theorem issue (hs : h.Sent part) (ht : h.Tracked) (request : Request) :
    (h.step (.issue request)).Sent part := by
  have hi := Connection.issued_issue h.connection request
  obtain ⟨new, hbegins, hstage⟩ := hi.eq_update ht.coherent
  have hnew : (h.step (.issue request)).connection.stage? h.connection.nextId = some new := by
    rw [step_issue]
    exact Connection.stage?_self hstage
  have hlast : part h.connection.nextId = [] := hs.eq_nil_of_le ht (Nat.le_refl _)
  constructor
  · have hheld : (h.step (.issue request)).carried = h.carried := by
      rw [step_issue, History.carried, hi.wire]
      rfl
    have hissued : (h.step (.issue request)).issued = h.issued ++ [request] := by rw [step_issue]
    rw [hheld, hissued, List.length_append, List.length_singleton, List.range_succ,
      List.flatMap_append, List.flatMap_singleton, ← ht.nextId, hlast, List.append_nil, ht.nextId,
      hs.carried]
  · intro j
    rcases Nat.lt_or_ge j h.connection.nextId with hj | hj
    · rw [dataOf_issue_of_lt ht request hj]
      exact hs.within j
    · rw [hs.eq_nil_of_le ht hj]
      exact List.nil_prefix
  · intro j rest hl
    rcases eq_or_ne j h.connection.nextId with rfl | hj
    · rw [Connection.left?_eq_of_stage? hnew] at hl
      obtain rfl := hbegins.eq_send hl
      rw [dataOf_issue_self ht, hlast]
      rfl
    · have hold : h.connection.left? j = some rest := by
        rw [step_issue, Connection.left?, hstage, Function.update_of_ne hj] at hl
        exact hl
      obtain ⟨stage, hs', -⟩ := Option.bind_eq_some_iff.mp hold
      rw [dataOf_issue_of_lt ht request (ht.coherent.lt_nextId hs')]
      exact hs.left j rest hold
  · rw [step_issue]
    intro w hw j hwj
    rcases hi.mem_writers hw with hw | rfl
    · exact hs.later w hw j hwj
    · exact hs.eq_nil_of_le ht (Nat.le_of_lt hwj)
  · intro j hd
    rw [step_issue] at hd
    rcases List.mem_append.mp hd with hold | hreplied
    · obtain ⟨other, hother, -⟩ := ht.answers j _ hold
      have hlt := (List.getElem?_eq_some_iff.mp hother).1
      rw [dataOf_issue_of_lt ht request (ht.nextId ▸ hlt)]
      exact hs.done j hold
    · -- No call is done as soon as it is made.
      obtain ⟨rfl, -, hreply⟩ := mem_newReply.mp hreplied
      rw [Connection.stage?_self hstage] at hreply
      cases hreply
      cases hbegins

theorem step (hs : h.Sent part) (ht : h.Tracked) (event : Event) :
    ∃ part, (h.step event).Sent part := by
  cases event with
  | issue request => exact ⟨part, hs.issue ht request⟩
  | poll branch id => exact hs.poll ht branch id
  | cancel id =>
    refine ⟨part, hs.mono rfl rfl (fun j rest hl => ?_) (fun j hj => ?_) hs.done⟩
    · have hstage : (h.connection.cancel id).stage? = _ := Connection.stage?_cancel
      have hl : ((h.connection.cancel id).stage? j).bind Stage.left? = some rest := hl
      rw [hstage] at hl
      rcases eq_or_ne j id with rfl | hj
      · rw [Function.update_self] at hl
        cases hl
      · rwa [Function.update_of_ne hj] at hl
    · exact Connection.mem_of_mem_leave hj
  | abort =>
    have hstill := Connection.still_abort h.connection
    have hstage := Connection.stage?_congr hstill.calls
    refine ⟨part, hs.mono ?_ rfl (fun j rest hl => ?_) (fun j hj => hstill.writers ▸ hj) hs.done⟩
    · exact congrArg (h.taken ++ ·) (Connection.wire_abort h.connection).outgoing
    · rw [← hl, Connection.left?, ← hstage]
      rfl
  | peerWrite data =>
    rw [step_peerWrite]
    split_ifs
    · exact ⟨part, hs⟩
    · exact ⟨part, hs.mono rfl rfl (fun _ _ hl => hl) (List.Subset.refl _) hs.done⟩
  | peerRead max =>
    rcases step_peerRead h max with heq | ⟨bytes, outgoing, htake, heq⟩
    · rw [heq]
      exact ⟨part, hs⟩
    · rw [heq]
      refine ⟨part, hs.mono ?_ rfl (fun _ _ hl => hl) (List.Subset.refl _) hs.done⟩
      have happ : bytes ++ outgoing.held = h.connection.wire.outgoing.held :=
        Pipe.take?_append htake
      exact (List.append_assoc _ _ _).trans (congrArg (h.taken ++ ·) happ)
  | peerShutdown =>
    exact ⟨part, hs.mono rfl rfl (fun _ _ hl => hl) (List.Subset.refl _) hs.done⟩
  | peerDrop =>
    refine ⟨part, hs.mono ?_ rfl (fun _ _ hl => hl) (List.Subset.refl _) hs.done⟩
    exact List.append_nil _
  | plant call failure =>
    exact ⟨part, hs.mono rfl rfl (fun _ _ hl => hl) (List.Subset.refl _) hs.done⟩
  | hangFlush value =>
    exact ⟨part, hs.mono rfl rfl (fun _ _ hl => hl) (List.Subset.refl _) hs.done⟩
  | hangShutdown value =>
    exact ⟨part, hs.mono rfl rfl (fun _ _ hl => hl) (List.Subset.refl _) hs.done⟩

end Sent

end History

end Dialer
