import Dialer.Proofs.Connection.Release

/-!
# Silence after the end of the stream

Until a connection begins to close here, what is known of it is what its calls have been told. One
empty reply to a receive, and the peer has closed its side; one failure of a send or receive, and
the connection has failed (`Life.told`). So once a receive has come back empty all later ones do,
as long as no call fails. A send that was under way may still fail then, and after a failure
receives are refused.

* `History.Hears`: an event brings one reply at most, and what that tells is entered.
* `History.silent_run`: what receives come to, before and after a failure.
-/

namespace Dialer

open CallRecord (newReply_self newReply_of_replied newReply_of_waiting replies_issue_of_enter
  replies_issue_receive)

/-! ### What replies tell -/

namespace Reply

variable {r : Reply}

/-- Whether a reply tells of the end of the stream. -/
def ends : Reply → Bool
  | received bytes => bytes.isEmpty
  | done | refused _ => false

/-- Whether a reply tells of a failure of input or output. -/
def fails : Reply → Bool
  | refused (.sendFailed _) | refused (.receiveFailed _) => true
  | _ => false

theorem eq_received_nil_of_ends (h : r.ends = true) : r = .received [] := by
  cases r with
  | received bytes => rw [List.isEmpty_iff.mp h]
  | done => cases h
  | refused e => cases h

theorem fails_of_ends (h : r.ends = true) : r.fails = false := by
  rw [eq_received_nil_of_ends h]
  rfl

end Reply

/-- Whether some reply tells of the end of the stream. -/
def tellsEnd (replies : List (Nat × Reply)) : Bool := replies.any (·.2.ends)

/-- Whether some reply tells of a failure. -/
def tellsFailure (replies : List (Nat × Reply)) : Bool := replies.any (·.2.fails)

@[simp]
theorem tellsEnd_concat (replies : List (Nat × Reply)) (id : Nat) (r : Reply) :
    tellsEnd (replies ++ [(id, r)]) = (tellsEnd replies || r.ends) := by
  simp [tellsEnd]

@[simp]
theorem tellsFailure_concat (replies : List (Nat × Reply)) (id : Nat) (r : Reply) :
    tellsFailure (replies ++ [(id, r)]) = (tellsFailure replies || r.fails) := by
  simp [tellsFailure]

/-- **What a receive comes to after the end of the stream:** an empty reply, or a failure, or, if
there was a failure before, a refusal. -/
def Silence (before : List (Nat × Reply)) (r : Reply) : Prop :=
  r = .received [] ∨ r.fails = true ∨ tellsFailure before = true ∧ r = .refused .closed

namespace Life

variable {l : Life} {r : Reply}

/-- **The life that replies tell of,** if the connection has not begun to close here. -/
def told (replies : List (Nat × Reply)) : Life where
  phase :=
    if tellsFailure replies then .failed
    else if tellsEnd replies then .closing
    else .established
  remoteClosed := tellsEnd replies

/-- Enter what a reply tells. -/
def hear (l : Life) (r : Reply) : Life :=
  if r.ends then l.endOfStream
  else if r.fails then l.fail
  else l

theorem hear_of_tells_nothing (hends : r.ends = false) (hfails : r.fails = false) :
    l.hear r = l := by
  simp [hear, hends, hfails]

/-- **To hear a reply is to be told one more.** -/
theorem hear_told (replies : List (Nat × Reply)) (id : Nat) (r : Reply) :
    (told replies).hear r = told (replies ++ [(id, r)]) := by
  rcases hends : r.ends with _ | _
  · rcases hfails : r.fails with _ | _
    · simp [hear, told, hends, hfails]
    · rcases hold : tellsFailure replies with _ | _ <;>
        rcases hseen : tellsEnd replies with _ | _ <;>
          simp [hear, told, fail, Phase.terminal, hends, hfails, hold, hseen]
  · have hfails := Reply.fails_of_ends hends
    rcases hold : tellsFailure replies with _ | _ <;>
      rcases hseen : tellsEnd replies with _ | _ <;>
        simp [hear, told, endOfStream, hends, hfails, hold, hseen]

theorem endOfStream_eq_self (hremote : l.remoteClosed = true) (hphase : l.phase ≠ .established) :
    l.endOfStream = l := by
  unfold endOfStream
  rw [if_neg hphase, ← hremote]

theorem hear_of_refuseSend? (h : l.refuseSend? = some r) : l.hear r = l := by
  unfold refuseSend? at h
  split at h <;> cases h <;> exact hear_of_tells_nothing rfl rfl

theorem hear_of_refuseReceive? {max : Nat} (h : l.refuseReceive? max = some r) :
    l.hear r = l := by
  rcases refuseReceive?_eq_some h with ⟨e, rfl⟩ | ⟨rfl, -, hphase, hremote, -⟩
  · refine hear_of_tells_nothing rfl ?_
    unfold refuseReceive? at h
    split_ifs at h
    · cases h
      rfl
    all_goals split at h <;> cases h <;> rfl
  · exact endOfStream_eq_self hremote (by rw [hphase]; nofun)

/-- **What a receive comes to at once.** -/
theorem refuseReceive?_told {max : Nat} (hmax : 0 < max) (replies : List (Nat × Reply)) :
    (told replies).refuseReceive? max =
      if tellsFailure replies then some (.refused .closed)
      else if tellsEnd replies then some (.received [])
      else none := by
  unfold refuseReceive?
  rw [if_neg (Nat.ne_of_gt hmax)]
  rcases hfailed : tellsFailure replies with _ | _ <;>
    rcases hended : tellsEnd replies with _ | _ <;> simp [told, hfailed, hended]

end Life

/-! ### Going on with a call -/

namespace Connection

variable {b c : StreamConnection} {id : Nat}

/-- **What a call brings that goes on,** where no close is under way. -/
inductive Brings (c : StreamConnection) (id : Nat) (b : StreamConnection) : Prop
  | nothing (h : b = c)
  | waits {new : Stage} (hb : b.stage? id = some new) (hnew : ∀ r, new ≠ .replied r)
    (hlife : b.life = c.life)
  | toSend {rest : Bytes} {r : Reply} (hs : c.Sends id rest)
    (hb : b.stage? id = some (.replied r)) (hlife : b.life = c.life.hear r)
  /-- At the end of the stream a receive can only find that, or fail. -/
  | toReceive {max : Nat} {r : Reply} (hs : c.Receives id max)
    (hb : b.stage? id = some (.replied r)) (hlife : b.life = c.life.hear r)
    (hend : c.AtEnd → r = .received [] ∨ r.fails = true)

theorem hear_received (l : Life) (bytes : Bytes) :
    l.hear (.received bytes) = if bytes.isEmpty then l.endOfStream else l := by
  cases bytes <;> rfl

theorem Open.brings (ho : c.Open) (hg : Goes c id b) : Brings c id b := by
  have hsignal : c.signalled ≠ true := by simp [ho.signalled]
  cases hg with
  | stays => exact .nothing rfl
  | sendWoken _ hwhy => exact absurd (hwhy.resolve_right (by simp [ho.writer])) hsignal
  | receiveWoken _ hwhy => exact absurd (hwhy.resolve_right (by simp [ho.reader])) hsignal
  | sendTakes hs =>
    exact .waits (stage?_self (stage?_setStage rfl hs)) (fun _ h => by cases h) rfl
  | receiveTakes hs =>
    exact .waits (stage?_self (stage?_setStage rfl hs)) (fun _ h => by cases h) rfl
  | sendStopped _ hwhy => exact absurd hwhy hsignal
  | receiveStopped _ hwhy => exact absurd hwhy hsignal
  | sent hs =>
    obtain ⟨old, hold, -⟩ := hs.exists_stage
    exact .toSend hs (stage?_self (stage?_reply rfl hold)) rfl
  | sentInPart hs =>
    obtain ⟨old, hold, -⟩ := hs.exists_stage
    exact .waits (stage?_self (stage?_setStage rfl hold)) (fun _ h => by cases h) rfl
  | sendFailed hs =>
    obtain ⟨old, hold, -⟩ := hs.exists_stage
    exact .toSend hs (stage?_self (stage?_reply rfl hold)) rfl
  | @received max bytes wire hs hw =>
    obtain ⟨old, hold, -⟩ := hs.exists_stage
    refine .toReceive hs (stage?_self (stage?_reply rfl hold)) (hear_received _ _).symm
      fun hend => ?_
    have happ := ((Wire.read_of_eq hw).data bytes rfl).1
    rw [hend.2, List.append_eq_nil_iff] at happ
    exact Or.inl (by rw [happ.1])
  | receiveWaits hs =>
    obtain ⟨old, hold, -⟩ := hs.exists_stage
    exact .waits (stage?_self (stage?_setStage rfl hold)) (fun _ h => by cases h) rfl
  | receiveFailed hs =>
    obtain ⟨old, hold, -⟩ := hs.exists_stage
    exact .toReceive hs (stage?_self (stage?_reply rfl hold)) rfl fun _ => Or.inr rfl
  | shutDown hs => exact absurd hs.closes (ho.transfers id)
  | shutdownHangs hs => exact absurd hs.closes (ho.transfers id)
  | shutdownSkipped hs => exact absurd ⟨_, hs, rfl⟩ (ho.transfers id)
  | closed hs => exact absurd ⟨_, hs, rfl⟩ (ho.transfers id)

/-- At the end of the stream no receive is left waiting when calls have come to rest. -/
theorem Open.reads_of_resting (ho : c.Open) (hrest : c.Resting) (hend : c.AtEnd) {stage : Stage}
    (hs : c.stage? id = some stage) : stage.reads = false := by
  have hreadable : c.wire.readable = true := by simp [Wire.readable, hend.1]
  by_contra hreads
  rw [Bool.not_eq_false] at hreads
  have hmem : id ∈ c.readers := (ho.coherent.readers.mem id).mpr ⟨stage, hs, hreads⟩
  obtain ⟨first, hfirst⟩ := Option.ne_none_iff_exists'.mp
    (mt List.head?_eq_none_iff.mp (List.ne_nil_of_mem hmem))
  obtain ⟨other, hother, hdrops⟩ := hrest.drains_readers ho.coherent ho.reader first hfirst
  obtain ⟨_, hother', hreads'⟩ := (ho.coherent.readers.mem first).mp (List.mem_of_mem_head? hfirst)
  rw [hother] at hother'
  cases hother'
  cases other with
  | receiving max => simp [hrest.not_readable hother] at hreadable
  | closingReader => exact ho.transfers first ⟨_, hother, rfl⟩
  | receiveQueued max => cases hdrops
  | receiveHolding max => cases hdrops
  | _ => cases hreads'

end Connection

/-! ### Along a history -/

namespace History

variable {h g : History} {event : Event} {id : Nat}

/-- **What is heard of an event:** nothing, or one reply, and what that tells is entered. -/
inductive Hears (h g : History) : Prop
  | nothing (hlife : g.connection.life = h.connection.life) (hreplies : g.replies = h.replies)
  | reply {id : Nat} {r : Reply} (hlife : g.connection.life = h.connection.life.hear r)
    (hreplies : g.replies = h.replies ++ [(id, r)])
    (hsilence : ∀ max, g.issued[id]? = some (.receive max) → 0 < max →
      tellsEnd h.replies = true → Silence h.replies r)

theorem Hears.told (hh : Hears h g) (hlife : h.connection.life = .told h.replies) :
    g.connection.life = .told g.replies := by
  cases hh with
  | nothing hl hr => rw [hl, hr, hlife]
  | reply hl hr => rw [hl, hr, hlife, Life.hear_told]

theorem hears_enter (ht : h.Tracked) {request : Request} {r : Reply}
    (hi : (h.connection.issue request).2 = h.connection.enter (.replied r))
    (hhear : h.connection.life.hear r = h.connection.life)
    (hsilence : ∀ max, request = .receive max → 0 < max → tellsEnd h.replies = true →
      Silence h.replies r) : Hears h (h.step (.issue request)) := by
  refine .reply ?_ (replies_issue_of_enter ht hi) fun max hreq => hsilence max ?_
  · rw [step_issue, hi, hhear]
    rfl
  · rw [step_issue, List.getElem?_concat_length] at hreq
    exact Option.some.inj hreq

theorem hears_waits (ht : h.Tracked) {request : Request} (stage : Stage)
    (hcalls : (h.connection.issue request).2.calls = (h.connection.enter stage).calls)
    (hstage : ∀ r, stage ≠ .replied r)
    (hlife : (h.connection.issue request).2.life = h.connection.life) :
    Hears h (h.step (.issue request)) := by
  have hst := Connection.stage?_self ((Connection.stage?_congr hcalls).trans
    (Connection.stage?_enter (ht.coherent.fresh _ (Nat.le_refl _))))
  rw [step_issue, newReply_of_waiting hst hstage, List.append_nil]
  exact .nothing hlife rfl

/-- **Making a call** other than a close. -/
theorem hears_issue (ht : h.Tracked) (hlife : h.connection.life = .told h.replies)
    {request : Request} (hne : request ≠ .close) : Hears h (h.step (.issue request)) := by
  cases request with
  | close => exact absurd rfl hne
  | send data =>
    rcases hr : h.connection.life.refuseSend? with _ | r
    · refine hears_waits ht (.sendQueued data) ?_ (fun _ h => by cases h) ?_
      · simp only [Connection.issue, hr]
      · simp only [Connection.issue, hr]
        rfl
    · refine hears_enter ht ?_ (Life.hear_of_refuseSend? hr) fun _ h => by cases h
      simp only [Connection.issue, hr]
  | receive max =>
    rcases hr : h.connection.life.refuseReceive? max with _ | r
    · refine hears_waits ht (.receiveQueued max) ?_ (fun _ h => by cases h) ?_
      · simp only [Connection.issue, hr]
      · simp only [Connection.issue, hr]
        rfl
    · refine hears_enter ht ?_ (Life.hear_of_refuseReceive? hr) ?_
      · simp only [Connection.issue, hr]
      · rintro _ ⟨⟩ hmax hend
        rw [hlife, Life.refuseReceive?_told hmax, if_pos hend] at hr
        split_ifs at hr with hfailed
        · cases hr
          exact Or.inr (Or.inr ⟨hfailed, rfl⟩)
        · cases hr
          exact Or.inl rfl

/-- **Going on with a call.** -/
theorem hears_poll (ht : h.Tracked) (hr : h.Received) (ho : h.connection.Open)
    (hlife : h.connection.life = .told h.replies) (branch : Branch) (id : Nat) :
    Hears h (h.step (.poll branch id)) := by
  rcases hreply : h.connection.reply? id with _ | r
  · rw [step_poll]
    rcases ho.brings (Connection.goes_poll branch id h.connection) with
      heq | ⟨hb, hnew, hl⟩ | ⟨hs, hb, hl⟩ | ⟨hs, hb, hl, hend⟩
    · rw [heq, newReply_self, List.append_nil]
      exact .nothing rfl rfl
    · rw [newReply_of_waiting hb hnew, List.append_nil]
      exact .nothing hl rfl
    · rw [newReply_of_replied hreply hb]
      refine .reply hl rfl fun max hreq _ _ => ?_
      obtain ⟨old, hold, -⟩ := hs.exists_stage
      obtain ⟨request, hreq', hsuits⟩ := ht.exists_request hold
      obtain ⟨whole, rfl, -⟩ := hs.suits hsuits
      cases hreq.symm.trans hreq'
    · rw [newReply_of_replied hreply hb]
      refine .reply hl rfl fun max _ _ htold => ?_
      have hatEnd : h.connection.AtEnd := hr.remote (by rw [hlife]; exact htold)
      exact (hend hatEnd).imp_right Or.inl
  · rw [step_poll_of_reply? hreply]
    exact .nothing rfl rfl

/-- **Every event** but a close or an abort. -/
theorem hears_step (ht : h.Tracked) (hr : h.Received) (ho : h.connection.Open)
    (hlife : h.connection.life = .told h.replies) (hclose : event ≠ .issue .close)
    (habort : event ≠ .abort) : Hears h (h.step event) := by
  cases event using Event.operation_or_outside with
  | issue request => exact hears_issue ht hlife fun heq => hclose (congrArg Event.issue heq)
  | poll branch id => exact hears_poll ht hr ho hlife branch id
  | cancel id => exact .nothing rfl rfl
  | abort => exact absurd rfl habort
  | outside event he =>
    obtain ⟨wire, taken, given, heq⟩ := h.exists_step_outside he
    rw [heq]
    exact .nothing rfl rfl

theorem exists_issued_step (h : History) (event : Event) :
    ∃ made, (h.step event).issued = h.issued ++ made := by
  have hsame : ∃ made, h.issued = h.issued ++ made := ⟨[], (List.append_nil _).symm⟩
  cases event using Event.operation_or_outside with
  | issue request => exact ⟨[request], by rw [step_issue]⟩
  | poll branch id => exact hsame
  | cancel id => exact hsame
  | abort => exact hsame
  | outside event he =>
    obtain ⟨wire, taken, given, heq⟩ := h.exists_step_outside he
    rwa [heq]

/-- **Once the end of the stream was told there is silence.** -/
def Hushed (h : History) : Prop :=
  ∀ i id r max, h.replies[i]? = some (id, r) → h.issued[id]? = some (.receive max) → 0 < max →
    tellsEnd (h.replies.take i) = true → Silence (h.replies.take i) r

/-- **What holds of a connection that has not begun to close here.** -/
structure Unclosed (h : History) : Prop where
  tracked : h.Tracked
  received : h.Received
  isOpen : h.connection.Open
  /-- What is known of it is what its calls have been told. -/
  life : h.connection.life = .told h.replies
  hushed : h.Hushed

namespace Unclosed

theorem start (capacity : Nat) : (start capacity).Unclosed where
  tracked := tracked_start capacity
  received := Received.start capacity
  isOpen := Connection.open_ofCapacity capacity
  life := rfl
  hushed := nofun

variable (hu : h.Unclosed)

include hu

theorem hushed_step (hh : Hears h (h.step event)) : (h.step event).Hushed := by
  intro i id r max hi hreq hmax
  -- A call that has got its reply before was made before.
  have hbefore : (id, r) ∈ h.replies → h.issued[id]? = some (.receive max) := by
    intro hmem
    obtain ⟨request, hold, -⟩ := hu.tracked.answers id r hmem
    obtain ⟨made, hmade⟩ := exists_issued_step h event
    rw [hmade, List.getElem?_append_left (List.getElem?_eq_some_iff.mp hold).1] at hreq
    exact hreq
  cases hh with
  | nothing _ hreplies =>
    rw [hreplies] at hi ⊢
    exact hu.hushed i id r max hi (hbefore (List.mem_of_getElem? hi)) hmax
  | reply _ hreplies hsilence =>
    rw [hreplies] at hi ⊢
    rcases Nat.lt_trichotomy i h.replies.length with hlt | rfl | hgt
    · rw [List.getElem?_append_left hlt] at hi
      rw [List.take_append_of_le_length (Nat.le_of_lt hlt)]
      exact hu.hushed i id r max hi (hbefore (List.mem_of_getElem? hi)) hmax
    · rw [List.getElem?_concat_length] at hi
      cases hi
      rw [List.take_left]
      exact hsilence max hreq hmax
    · rw [List.getElem?_eq_none (by simp; omega)] at hi
      cases hi

theorem step (hclose : event ≠ .issue .close) (habort : event ≠ .abort) :
    (h.step event).Unclosed := by
  have hh := hears_step hu.tracked hu.received hu.isOpen hu.life hclose habort
  exact ⟨hu.tracked.step event, hu.received.step hu.tracked event, hu.isOpen.step hclose habort,
    hh.told hu.life, hu.hushed_step hh⟩

theorem run {events : List Event} (hclose : .issue .close ∉ events) (habort : .abort ∉ events) :
    (h.run events).Unclosed := by
  induction events generalizing h with
  | nil => exact hu
  | cons event events ih =>
    rw [List.mem_cons, not_or] at hclose habort
    exact ih (hu.step (Ne.symm hclose.1) (Ne.symm habort.1)) hclose.2 habort.2

theorem atEnd (hend : tellsEnd h.replies = true) : h.connection.AtEnd :=
  hu.received.remote (by rw [hu.life]; exact hend)

end Unclosed

/-! ### What receives come to -/

/-- **What receives come to,** until the connection begins to close here. -/
structure Silent (h : History) : Prop where
  /-- The connection has failed if a failure was told, and else closes if the end of the stream
  was. -/
  phase : h.connection.life.phase =
    if tellsFailure h.replies then .failed
    else if tellsEnd h.replies then .closing
    else .established
  /-- As long as no failure is told, a receive that is made after the end of the stream comes back
  empty at once. -/
  atOnce : tellsEnd h.replies = true → tellsFailure h.replies = false → ∀ max, 0 < max →
    (h.step (.issue (.receive max))).replies = h.replies ++ [(h.issued.length, .received [])]
  /-- From then on it is refused. -/
  refused : tellsFailure h.replies = true → ∀ max, 0 < max →
    (h.step (.issue (.receive max))).replies =
      h.replies ++ [(h.issued.length, .refused .closed)]
  /-- The same goes for receives that were waiting, in the order they got their replies in. -/
  hushed : h.Hushed
  /-- No receive is left waiting when calls have come to rest. -/
  answered : tellsEnd h.replies = true → h.connection.Resting →
    ∀ id stage, h.connection.stage? id = some stage → stage.reads = false

theorem Unclosed.silent (hu : h.Unclosed) : h.Silent where
  phase := by
    rw [hu.life]
    rfl
  atOnce hend hfailed max hmax := by
    refine replies_issue_receive hu.tracked ?_
    rw [hu.life, Life.refuseReceive?_told hmax]
    simp [hend, hfailed]
  refused hfailed max hmax := by
    refine replies_issue_receive hu.tracked ?_
    rw [hu.life, Life.refuseReceive?_told hmax]
    simp [hfailed]
  hushed := hu.hushed
  answered hend hrest _ _ hs := hu.isOpen.reads_of_resting hrest (hu.atEnd hend) hs

/-- **Once a receive has come back empty all later ones do, unless a call fails.** -/
theorem silent_run (capacity : Nat) {events : List Event} (hclose : .issue .close ∉ events)
    (habort : .abort ∉ events) : ((start capacity).run events).Silent :=
  ((Unclosed.start capacity).run hclose habort).silent

/-- A send is blocked, and two receives wait, one behind the other. The peer closes its side, and
both find that. -/
def ended : List Event :=
  [.issue (.send [1, 2, 3, 4, 5, 6]), .poll .transfer 0, .poll .transfer 0, .issue (.receive 8),
    .poll .transfer 1, .poll .transfer 1, .issue (.receive 8), .peerShutdown, .poll .transfer 1,
    .poll .transfer 2, .poll .transfer 2]

theorem silent_run_ended : .issue .close ∉ ended ∧ .abort ∉ ended ∧
    ((start 4).run ended).Silent ∧
    (((start 4).run ended).step (.issue (.receive 8))).replies =
      [(1, .received []), (2, .received []), (3, .received [])] := by
  have hclose : Event.issue .close ∉ ended := by simp [ended]
  have habort : Event.abort ∉ ended := by simp [ended]
  have hsilent := silent_run 4 hclose habort
  exact ⟨hclose, habort, hsilent, hsilent.atOnce rfl rfl 8 (by decide)⟩

/-- A send that is blocked fails after the end of the stream, since the peer goes away. The next
receive is refused. -/
theorem silent_run_sending : ¬ ∀ (capacity : Nat) (events : List Event) (max : Nat),
    .issue .close ∉ events → .abort ∉ events → 0 < max →
      tellsEnd ((start capacity).run events).replies = true →
      (((start capacity).run events).step (.issue (.receive max))).replies =
        ((start capacity).run events).replies ++
          [(((start capacity).run events).issued.length, .received [])] := by
  intro h
  have hempty := h 4 [.issue (.send [1, 2, 3, 4, 5, 6]), .poll .transfer 0, .poll .transfer 0,
    .peerShutdown, .issue (.receive 8), .poll .transfer 1, .poll .transfer 1, .peerDrop,
    .poll .transfer 0] 8 (by simp) (by simp) (by decide) rfl
  exact absurd hempty (by decide)

end History

end Dialer
