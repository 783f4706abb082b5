import Dialer.Connection.Basic
import Mathlib.Data.List.Nodup

/-!
# Chronicles

What a connection carries, and how its calls wait for each other, does not matter for how far it has
come. A `Chronicle` keeps only its `Life`, the calls made on it, and the replies they got. What can
happen to a chronicle is a `Chronicle.Turn`, whatever kind of connection it is of.

* `Turn.rank_le`, `Turn.phase_eq_closed`: the phase only rises, and `closed` is never left.
* `Turn.entered_failed`, `Turn.entered_closing`: how `failed` and `closing` come about.
* `Consistent.turn`: every call has one reply at most, and at most one close was let in.
-/

namespace Dialer

/-! ### Transitions of a life -/

namespace Life

variable {l m : Life} {graceful : Bool}

theorem beginClose?_eq_none :
    l.beginClose? = none ↔ l.phase = .closed ∨ l.closingLocally = true := by
  unfold beginClose?
  split_ifs with h
  · simpa using h
  · simp only [Bool.or_eq_true, decide_eq_true_eq] at h
    cases hp : l.phase <;> simp_all

/-- A close begins in any phase but `closed`, and it begins once. A connection that has failed stays
so until the close is done. -/
theorem beginClose?_eq_some (h : l.beginClose? = some (graceful, m)) :
    l.closingLocally = false ∧ m.closingLocally = true ∧ l.phase.rank ≤ m.phase.rank ∧
      (m.phase = .closing ∨ m.phase = .failed ∧ l.phase = .failed) := by
  unfold beginClose? at h
  split_ifs at h with hc
  simp only [Bool.or_eq_true, decide_eq_true_eq, not_or, Bool.not_eq_true] at hc
  cases hp : l.phase <;> simp only [hp] at h hc <;> cases h <;> simp_all [Phase.rank]

theorem rank_le_abort (l : Life) : l.phase.rank ≤ l.abort.phase.rank := by
  cases h : l.phase <;> simp [abort, Phase.rank]

theorem phase_fail (l : Life) : l.fail.phase = l.phase ∨ l.fail.phase = .failed := by
  unfold fail
  split_ifs
  · exact Or.inl rfl
  · exact Or.inr rfl

theorem closingLocally_fail (l : Life) : l.fail.closingLocally = l.closingLocally := by
  unfold fail; split_ifs <;> rfl

theorem phase_endOfStream (l : Life) :
    l.endOfStream.phase = l.phase ∨ l.endOfStream.phase = .closing := by
  unfold endOfStream
  dsimp only
  split_ifs
  · exact Or.inr rfl
  · exact Or.inl rfl

end Life

theorem Phase.eq_closed_of_rank_le {p q : Phase} (h : p.rank ≤ q.rank) (hp : p = .closed) :
    q = .closed := by
  subst hp
  cases q <;> simp [Phase.rank] at h ⊢

/-! ### Chronicles -/

/-- **What is seen of a connection's life.** -/
structure Chronicle where
  life : Life
  /-- The calls in the order they were made in; a call's place is its identity. -/
  issued : List Request
  /-- The replies to calls, in the order they were given in. -/
  replies : List (Nat × Reply)

/-- A failure of input or output, as a call reports it. -/
inductive CallError.OfTransfer : Request → CallError → Prop
  | send (data : Bytes) (text : String) : OfTransfer (.send data) (.sendFailed text)
  | receive (max : Nat) (text : String) : OfTransfer (.receive max) (.receiveFailed text)

theorem CallError.OfTransfer.ne_close {request : Request} {e : CallError}
    (h : OfTransfer request e) : request ≠ .close := by
  cases h <;> nofun

namespace Chronicle

/-- A call that gets its reply now: one that is made at this moment, or one that was made before and
has no reply yet. -/
inductive Asks (c : Chronicle) : List Request → Nat → Request → Prop
  | now (request : Request) : Asks c (c.issued ++ [request]) c.issued.length request
  | before {id : Nat} {request : Request} (h : c.issued[id]? = some request)
    (hopen : ∀ r, (id, r) ∉ c.replies) : Asks c c.issued id request

/-- **What can happen in the life of a connection.** `atEnd` says that a receive can find the end of
the stream. -/
inductive Turn (atEnd : Prop) (c : Chronicle) : Chronicle → Prop
  /-- Nothing that matters. -/
  | quiet : Turn atEnd c c
  /-- A send or receive is made and has to wait. -/
  | waits {request : Request} (h : request ≠ .close) :
    Turn atEnd c ⟨c.life, c.issued ++ [request], c.replies⟩
  /-- A send or receive gets a reply that tells nothing new of the connection. -/
  | answered {issued : List Request} {id : Nat} {request : Request} {r : Reply}
    (ha : c.Asks issued id request) (h : request ≠ .close) :
    Turn atEnd c ⟨c.life, issued, c.replies ++ [(id, r)]⟩
  /-- A receive finds that the peer has closed its side. -/
  | ended {issued : List Request} {id max : Nat} (ha : c.Asks issued id (.receive max))
    (h : atEnd) : Turn atEnd c ⟨c.life.endOfStream, issued, c.replies ++ [(id, .received [])]⟩
  /-- A send or receive fails. -/
  | failed {issued : List Request} {id : Nat} {request : Request} {e : CallError}
    (ha : c.Asks issued id request) (h : CallError.OfTransfer request e) :
    Turn atEnd c ⟨c.life.fail, issued, c.replies ++ [(id, .refused e)]⟩
  /-- A close is not let in. -/
  | closeRefused (h : c.life.beginClose? = none) :
    Turn atEnd c ⟨c.life, c.issued ++ [.close],
      c.replies ++ [(c.issued.length, .refused .alreadyClosed)]⟩
  /-- A close is let in. -/
  | closeBegun {graceful : Bool} {life : Life} (h : c.life.beginClose? = some (graceful, life)) :
    Turn atEnd c ⟨life, c.issued ++ [.close], c.replies⟩
  /-- A close is done. -/
  | closed {id : Nat} (h : c.issued[id]? = some .close) (hopen : ∀ r, (id, r) ∉ c.replies) :
    Turn atEnd c ⟨c.life.finish, c.issued, c.replies ++ [(id, .done)]⟩
  | aborted : Turn atEnd c ⟨c.life.abort, c.issued, c.replies⟩

namespace Turn

variable {atEnd : Prop} {c b : Chronicle}

theorem mono {p : Prop} (h : Turn atEnd c b) (hp : atEnd → p) : Turn p c b := by
  cases h with
  | quiet => exact .quiet
  | waits h => exact .waits h
  | answered ha h => exact .answered ha h
  | ended ha h => exact .ended ha (hp h)
  | failed ha h => exact .failed ha h
  | closeRefused h => exact .closeRefused h
  | closeBegun h => exact .closeBegun h
  | closed h hopen => exact .closed h hopen
  | aborted => exact .aborted

/-- **The phase only rises.** -/
theorem rank_le (h : Turn atEnd c b) : c.life.phase.rank ≤ b.life.phase.rank := by
  cases h with
  | ended => exact c.life.rank_le_endOfStream
  | failed => exact c.life.rank_le_fail
  | closeBegun h => exact (Life.beginClose?_eq_some h).2.2.1
  | closed => exact c.life.rank_le_finish
  | aborted => exact c.life.rank_le_abort
  | _ => exact Nat.le_refl _

theorem phase_eq_closed (h : Turn atEnd c b) (hc : c.life.phase = .closed) :
    b.life.phase = .closed :=
  Phase.eq_closed_of_rank_le h.rank_le hc

theorem closingLocally (h : Turn atEnd c b) (hc : c.life.closingLocally = true) :
    b.life.closingLocally = true := by
  cases h with
  | failed => exact (Life.closingLocally_fail _).trans hc
  | closeBegun h => exact (Life.beginClose?_eq_some h).2.1
  | aborted => rfl
  | _ => exact hc

theorem beginClose?_eq_none (h : Turn atEnd c b) (hc : c.life.beginClose? = none) :
    b.life.beginClose? = none := by
  rw [Life.beginClose?_eq_none] at hc ⊢
  exact hc.imp h.phase_eq_closed h.closingLocally

/-- **A connection fails with a send or receive** that reports it. -/
theorem entered_failed (h : Turn atEnd c b) (hc : c.life.phase ≠ .failed)
    (hb : b.life.phase = .failed) : ∃ id request e, b.issued[id]? = some request ∧
      CallError.OfTransfer request e ∧ b.replies = c.replies ++ [(id, .refused e)] := by
  cases h with
  | @failed issued id request e ha h =>
    refine ⟨id, request, e, ?_, h, rfl⟩
    cases ha with
    | now => exact List.getElem?_concat_length
    | before h => exact h
  | ended => rcases c.life.phase_endOfStream with h | h <;> simp_all
  | closeBegun h => rcases (Life.beginClose?_eq_some h).2.2.2 with h | h <;> simp_all
  | closed => cases hb
  | aborted => cases hb
  | _ => exact absurd hb hc

/-- **A connection begins to close with a close that is let in, or with a receive** that finds the
end of the stream. -/
theorem entered_closing (h : Turn atEnd c b) (hc : c.life.phase ≠ .closing)
    (hb : b.life.phase = .closing) :
    (b.issued = c.issued ++ [.close] ∧ b.replies = c.replies) ∨
      atEnd ∧ ∃ id max, b.issued[id]? = some (.receive max) ∧
        b.replies = c.replies ++ [(id, .received [])] := by
  cases h with
  | closeBegun => exact Or.inl ⟨rfl, rfl⟩
  | @ended issued id max ha h =>
    refine Or.inr ⟨h, id, max, ?_, rfl⟩
    cases ha with
    | now => exact List.getElem?_concat_length
    | before h => exact h
  | failed => rcases c.life.phase_fail with h | h <;> simp_all
  | closed => cases hb
  | aborted => cases hb
  | _ => exact absurd hb hc

end Turn

/-! ### Replies and closes -/

/-- A close that was not refused. -/
def Admitted (c : Chronicle) (id : Nat) : Prop :=
  c.issued[id]? = some .close ∧ (id, .refused .alreadyClosed) ∉ c.replies

/-- A close that was done. -/
def ClosedBy (c : Chronicle) (id : Nat) : Prop :=
  c.issued[id]? = some .close ∧ (id, .done) ∈ c.replies

/-- **What holds of every chronicle.** -/
structure Consistent (c : Chronicle) : Prop where
  /-- A call has one reply at most. -/
  once : (c.replies.map Prod.fst).Nodup
  known : ∀ id r, (id, r) ∈ c.replies → id < c.issued.length
  begun : ∀ id, c.Admitted id → c.life.closingLocally = true
  single : ∀ i j, c.Admitted i → c.Admitted j → i = j
  done : ∀ id, c.ClosedBy id → c.life.phase = .closed

theorem Consistent.start (life : Life) : Consistent ⟨life, [], []⟩ where
  once := List.nodup_nil
  known := nofun
  begun := nofun
  single := nofun
  done := nofun

theorem getElem?_issued_concat {c : Chronicle} {request other : Request} {id : Nat}
    (h : (c.issued ++ [request])[id]? = some other) :
    c.issued[id]? = some other ∨ id = c.issued.length ∧ other = request := by
  rcases Nat.lt_trichotomy id c.issued.length with hlt | rfl | hgt
  · rw [List.getElem?_append_left hlt] at h
    exact Or.inl h
  · rw [List.getElem?_concat_length] at h
    exact Or.inr ⟨rfl, (Option.some.inj h).symm⟩
  · rw [List.getElem?_eq_none (by simp; omega)] at h
    cases h

theorem Consistent.unanswered {c : Chronicle} (hc : c.Consistent) (r : Reply) :
    (c.issued.length, r) ∉ c.replies :=
  fun hmem => Nat.lt_irrefl _ (hc.known _ _ hmem)

namespace Asks

variable {c : Chronicle} {issued : List Request} {id : Nat} {request : Request}

theorem lt_length (h : c.Asks issued id request) : id < issued.length := by
  cases h with
  | now => simp
  | before h _ => exact (List.getElem?_eq_some_iff.mp h).1

theorem length_le (h : c.Asks issued id request) : c.issued.length ≤ issued.length := by
  cases h with
  | now => simp
  | before => exact Nat.le_refl _

theorem notMem (h : c.Asks issued id request) (hc : c.Consistent) (r : Reply) :
    (id, r) ∉ c.replies := by
  cases h with
  | now => exact hc.unanswered r
  | before _ hopen => exact hopen r

theorem getElem?_eq_close (h : c.Asks issued id request) (hne : request ≠ .close) {j : Nat}
    (hj : issued[j]? = some .close) : c.issued[j]? = some .close ∧ j ≠ id := by
  cases h with
  | now =>
    rcases getElem?_issued_concat hj with hj | ⟨-, heq⟩
    · exact ⟨hj, Nat.ne_of_lt (List.getElem?_eq_some_iff.mp hj).1⟩
    · exact absurd heq.symm hne
  | before h _ =>
    refine ⟨hj, ?_⟩
    rintro rfl
    rw [h] at hj
    exact hne (Option.some.inj hj)

end Asks

namespace Consistent

variable {atEnd : Prop} {c b : Chronicle} {id : Nat} {r : Reply}

theorem once_concat (hc : c.Consistent) (hnew : ∀ r, (id, r) ∉ c.replies) :
    ((c.replies ++ [(id, r)]).map Prod.fst).Nodup := by
  rw [List.map_append, List.map_singleton, List.nodup_append]
  refine ⟨hc.once, List.nodup_singleton _, ?_⟩
  intro i hi j hj
  rw [List.mem_singleton.mp hj]
  rintro rfl
  obtain ⟨⟨i, r⟩, hmem, rfl⟩ := List.mem_map.mp hi
  exact hnew r hmem

theorem known_concat (hc : c.Consistent) {issued : List Request}
    (hle : c.issued.length ≤ issued.length) (hlt : id < issued.length) :
    ∀ j s, (j, s) ∈ c.replies ++ [(id, r)] → j < issued.length := by
  intro j s hmem
  rcases List.mem_append.mp hmem with hmem | hmem
  · exact Nat.lt_of_lt_of_le (hc.known j s hmem) hle
  · obtain ⟨rfl, -⟩ := Prod.mk.inj (List.mem_singleton.mp hmem)
    exact hlt

/-- A call has one reply, whichever it is. -/
theorem reply_unique (hc : c.Consistent) {s : Reply} (hr : (id, r) ∈ c.replies)
    (hs : (id, s) ∈ c.replies) : r = s := by
  have h := List.inj_on_of_nodup_map hc.once hr hs rfl
  exact (Prod.mk.inj h).2

theorem admitted_of_closedBy (hc : c.Consistent) (h : c.ClosedBy id) : c.Admitted id :=
  ⟨h.1, fun hmem => by cases hc.reply_unique h.2 hmem⟩

theorem reply (hc : c.Consistent) {issued : List Request} {request : Request} {life : Life}
    (ha : c.Asks issued id request) (hne : request ≠ .close)
    (hlocal : c.life.closingLocally = true → life.closingLocally = true)
    (hclosed : c.life.phase = .closed → life.phase = .closed) :
    Consistent ⟨life, issued, c.replies ++ [(id, r)]⟩ := by
  have hadmitted : ∀ j, Admitted ⟨life, issued, c.replies ++ [(id, r)]⟩ j → c.Admitted j := by
    rintro j ⟨hj, hnot⟩
    exact ⟨(ha.getElem?_eq_close hne hj).1, fun hmem => hnot (List.mem_append_left _ hmem)⟩
  refine ⟨hc.once_concat (ha.notMem hc), hc.known_concat ha.length_le ha.lt_length,
    fun j hj => hlocal (hc.begun j (hadmitted j hj)),
    fun i j hi hj => hc.single i j (hadmitted i hi) (hadmitted j hj), ?_⟩
  rintro j ⟨hj, hmem⟩
  obtain ⟨hj, hne⟩ := ha.getElem?_eq_close hne hj
  refine hclosed (hc.done j ⟨hj, ?_⟩)
  rcases List.mem_append.mp hmem with hmem | hmem
  · exact hmem
  · exact absurd (Prod.mk.inj (List.mem_singleton.mp hmem)).1 hne

/-- A close is let in: there was none before. -/
theorem close (hc : c.Consistent) {graceful : Bool} {life : Life}
    (h : c.life.beginClose? = some (graceful, life)) :
    Consistent ⟨life, c.issued ++ [.close], c.replies⟩ := by
  obtain ⟨hnot, hlocal, -⟩ := Life.beginClose?_eq_some h
  have hnone : ∀ j, ¬ c.Admitted j := fun j hj => by
    have hbegun := hc.begun j hj
    rw [hnot] at hbegun
    cases hbegun
  have hnew : ∀ j, Admitted ⟨life, c.issued ++ [.close], c.replies⟩ j → j = c.issued.length := by
    rintro j ⟨hj, hrefused⟩
    rcases getElem?_issued_concat hj with hj | ⟨rfl, -⟩
    · exact absurd ⟨hj, hrefused⟩ (hnone j)
    · rfl
  refine ⟨hc.once, fun id r hmem => ?_, fun _ _ => hlocal,
    fun i j hi hj => (hnew i hi).trans (hnew j hj).symm, ?_⟩
  · rw [List.length_append, List.length_singleton]
    exact Nat.lt_succ_of_lt (hc.known id r hmem)
  · -- A close that was done before was let in before.
    rintro j ⟨hj, hdone⟩
    rcases getElem?_issued_concat hj with hj | ⟨rfl, -⟩
    · exact absurd (hc.admitted_of_closedBy ⟨hj, hdone⟩) (hnone j)
    · exact absurd hdone (hc.unanswered _)

theorem wait (hc : c.Consistent) {request : Request} (hne : request ≠ .close) :
    Consistent ⟨c.life, c.issued ++ [request], c.replies⟩ := by
  have hclose : ∀ {j : Nat}, (c.issued ++ [request])[j]? = some .close →
      c.issued[j]? = some .close := fun hj =>
    (getElem?_issued_concat hj).resolve_right fun heq => hne heq.2.symm
  refine ⟨hc.once, fun j r hmem => ?_, fun j hj => hc.begun j ⟨hclose hj.1, hj.2⟩,
    fun i j hi hj => hc.single i j ⟨hclose hi.1, hi.2⟩ ⟨hclose hj.1, hj.2⟩,
    fun j hj => hc.done j ⟨hclose hj.1, hj.2⟩⟩
  rw [List.length_append, List.length_singleton]
  exact Nat.lt_succ_of_lt (hc.known j r hmem)

theorem refuseClose (hc : c.Consistent) : Consistent ⟨c.life, c.issued ++ [.close],
    c.replies ++ [(c.issued.length, .refused .alreadyClosed)]⟩ := by
  have hadmitted : ∀ j, Admitted ⟨c.life, c.issued ++ [.close],
      c.replies ++ [(c.issued.length, .refused .alreadyClosed)]⟩ j → c.Admitted j := by
    rintro j ⟨hj, hnot⟩
    rcases getElem?_issued_concat hj with hj | ⟨rfl, -⟩
    · exact ⟨hj, fun hmem => hnot (List.mem_append_left _ hmem)⟩
    · exact absurd (List.mem_append_right _ (List.mem_singleton_self _)) hnot
  refine ⟨hc.once_concat hc.unanswered, hc.known_concat (by simp) (by simp),
    fun j hj => hc.begun j (hadmitted j hj),
    fun i j hi hj => hc.single i j (hadmitted i hi) (hadmitted j hj), ?_⟩
  rintro j ⟨hj, hmem⟩
  rcases List.mem_append.mp hmem with hmem | hmem
  · rcases getElem?_issued_concat hj with hj | ⟨rfl, -⟩
    · exact hc.done j ⟨hj, hmem⟩
    · exact absurd hmem (hc.unanswered _)
  · cases List.mem_singleton.mp hmem

/-- The close that was let in is done. -/
theorem finishClose (hc : c.Consistent) (h : c.issued[id]? = some .close)
    (hopen : ∀ r, (id, r) ∉ c.replies) :
    Consistent ⟨c.life.finish, c.issued, c.replies ++ [(id, .done)]⟩ := by
  have hadmitted : ∀ j, Admitted ⟨c.life.finish, c.issued, c.replies ++ [(id, .done)]⟩ j →
      c.Admitted j := fun j hj => ⟨hj.1, fun hmem => hj.2 (List.mem_append_left _ hmem)⟩
  have hlt : id < c.issued.length := (List.getElem?_eq_some_iff.mp h).1
  exact ⟨hc.once_concat hopen, hc.known_concat (Nat.le_refl _) hlt,
    fun j hj => hc.begun j (hadmitted j hj),
    fun i j hi hj => hc.single i j (hadmitted i hi) (hadmitted j hj), fun _ _ => rfl⟩

/-- **A turn keeps a chronicle consistent.** -/
theorem turn (hc : c.Consistent) (h : Turn atEnd c b) : b.Consistent := by
  have hlocal := h.closingLocally
  have hclosed := h.phase_eq_closed
  cases h with
  | quiet => exact hc
  | waits hne => exact hc.wait hne
  | answered ha hne => exact hc.reply ha hne hlocal hclosed
  | ended ha => exact hc.reply ha nofun hlocal hclosed
  | failed ha h => exact hc.reply ha h.ne_close hlocal hclosed
  | closeRefused => exact hc.refuseClose
  | closeBegun h => exact hc.close h
  | closed h hopen => exact hc.finishClose h hopen
  | aborted =>
    exact ⟨hc.once, hc.known, fun _ _ => rfl, hc.single, fun _ _ => rfl⟩

end Consistent

end Chronicle

end Dialer
