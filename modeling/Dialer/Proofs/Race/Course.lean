import Dialer.Proofs.Race.Observation
import Mathlib.Logic.Relation

/-!
# Races without a clock

Attempts end, the deadline passes, and the race takes notice of ended attempts and starts new ones,
each in its own time. `Step` lets these things come in any order that the race's own guards leave
open: an attempt may end long before that is noticed, the deadline may pass in between, and attempts
may even end when the race is over. `Course` keeps who decided the race and whose sessions were
dropped.

`Course.Sound` is the invariant (`Sound.step`, `Sound.later`). Of what a step leaves as it is,
`Sound.verdict_eq` and `Sound.final` say that a verdict and the end of a race are final.
-/

namespace Dialer.Race

/-- Who may decide a race. -/
inductive Party
  | attempt (k : Nat)
  | deadline
deriving DecidableEq

/-- **A race as it is seen by an onlooker.** -/
structure Course where
  state : State
  /-- Who decided the race, in order. -/
  deciders : List Party := []
  /-- The attempts that came to a session and dropped it. -/
  dropped : List Nat := []

/-- Put an attempt first among those that are still to be noticed. -/
def State.bringForward (k : Nat) (s : State) : State :=
  { s with unnoticed := k :: s.unnoticed.erase k }

namespace Course

/-- No candidate was started. -/
def start (given : List Behaviour) : Course := { state := { waiting := given } }

/-- What a party does decides the race if the race was open before and is no more. -/
def act (c : Course) (p : Party) (s : State) : Course :=
  { c with
    state := s
    deciders := if c.state.verdict = .open ∧ s.verdict ≠ .open then c.deciders ++ [p]
      else c.deciders }

/-- An attempt ends. One that comes to a session when the race is decided drops it. -/
def complete (c : Course) (k : Nat) (how : Finish) : Course :=
  { c.act (.attempt k) (c.state.finish k how) with
    dropped := if how.connected = true ∧ c.state.verdict ≠ .open then c.dropped ++ [k]
      else c.dropped }

end Course

/-- **What can happen next,** at whatever instant. -/
inductive Step (config : Config) (c : Course) : Course → Prop
  /-- An attempt ends, be the race over or not. -/
  | complete (k : Nat) (how : Finish) (hk : k < c.state.attempts.length)
    (hf : c.state.finish? k = none) : Step config c (c.complete k how)
  /-- The race heeds the deadline, which may have come some time before. -/
  | deadline (hlive : c.state.ended = false) (hd : c.state.deadlinePassed = false) :
    Step config c (c.act .deadline c.state.passDeadline)
  /-- Some ended attempt is noticed. -/
  | collect (now : Instant) (k : Nat) (hlive : c.state.ended = false) (hk : k ∈ c.state.unnoticed) :
    Step config c { c with state := (c.state.bringForward k).collect now }
  | start (now : Instant) (hlive : c.state.ended = false) (hw : c.state.waiting ≠ [])
    (hd : c.state.deadlinePassed = false) :
    Step config c { c with state := c.state.startNext config now }

/-- What may have become of a course after a while. -/
def Later (config : Config) : Course → Course → Prop := Relation.ReflTransGen (Step config)

/-- The attempt for candidate `k` came to a session. -/
def State.Connected (s : State) (k : Nat) : Prop :=
  ∃ address, s.finish? k = some (.ownEnding (.connects address))

/-! ### Coherence, whatever is noticed first -/

namespace State

variable {config : Config} {s : State} {k n : Nat} {how : Finish}

theorem Coherent.bringForward (h : s.Coherent) (hk : k ∈ s.unnoticed) :
    (s.bringForward k).Coherent := by
  refine ⟨fun j => ?_, ?_, h.noticed, h.won, h.undecided, h.live_eq_false⟩
  · have hperm : j ∈ k :: s.unnoticed.erase k ↔ j ∈ s.unnoticed :=
      (List.perm_cons_erase hk).symm.mem_iff
    exact hperm.trans (h.mem_unnoticed j)
  · exact (List.perm_cons_erase hk).nodup_iff.mp h.nodup

theorem Coherent.collect_bringForward (h : s.Coherent) (hk : k ∈ s.unnoticed) (now : Instant) :
    ∃ how, s.finish? k = some how ∧ (s.bringForward k).collect now =
      { s with
        attempts := s.attempts.modify k fun a => { a with notice := some (s.noticeOf k how) }
        unnoticed := s.unnoticed.erase k
        staggerAt := if how.reason?.isSome then now else s.staggerAt
        live := s.noticeOf k how != .won } := by
  obtain ⟨⟨how, hf⟩, -⟩ := (h.mem_unnoticed k).mp hk
  have hf' : (s.bringForward k).finish? k = some how := hf
  exact ⟨how, hf, collect_eq now rfl hf'⟩

theorem work_bringForward (hk : k ∈ s.unnoticed) : (s.bringForward k).work = s.work := by
  have hlen : (k :: s.unnoticed.erase k).length = s.unnoticed.length :=
    (List.perm_cons_erase hk).symm.length_eq
  unfold work bringForward
  dsimp only
  rw [hlen]

theorem connected_iff : s.Connected k ↔ ∃ how, s.finish? k = some how ∧ how.connected = true := by
  constructor
  · rintro ⟨address, hf⟩
    exact ⟨_, hf, rfl⟩
  · rintro ⟨how, hf, hc⟩
    obtain ⟨address, rfl⟩ := Finish.connected_iff.mp hc
    exact ⟨address, hf⟩

theorem Coherent.connected_of_won (h : s.Coherent) (hv : s.verdict = .wonBy k) : s.Connected k :=
  connected_iff.mpr (h.won k hv)

theorem Coherent.not_connected (h : s.Coherent) (hv : s.verdict = .open) : ¬ s.Connected k := by
  rw [connected_iff]
  rintro ⟨how, hf, hc⟩
  rw [h.undecided hv k how hf] at hc
  cases hc

/-- Coming to a session is all that an end has to do with sessions. -/
theorem connected_finish_iff (hk : k < s.attempts.length) (hf : s.finish? k = none) {j : Nat} :
    (s.finish k how).Connected j ↔ s.Connected j ∨ j = k ∧ how.connected = true := by
  simp only [connected_iff]
  rcases eq_or_ne j k with rfl | hj
  · simp [finish?_finish_self hk, hf]
  · simp [finish?_finish_of_ne hj, hj]

/-! ### The end of a race -/

theorem Coherent.verdict_ne_open (h : s.Coherent) (hended : s.ended = true)
    (hk : k < s.attempts.length) (hf : s.finish? k = none) : s.verdict ≠ .open := by
  intro hv
  have hlive : s.live = true := by
    by_contra hl
    rw [Bool.not_eq_true, h.live_eq_false] at hl
    rcases hl with hl | ⟨j, hl, -⟩ <;> rw [hv] at hl <;> cases hl
  have hall : s.allNoticed = true := by
    simp only [ended, hlive, Bool.not_true, Bool.false_or, Bool.and_eq_true] at hended
    exact hended.1
  exact allNoticed_iff.mp hall k hk (h.notice_eq_none hf)

/-- A race that an attempt has won is over when that was noticed. -/
theorem Coherent.notice?_of_ended (h : s.Coherent) (hv : s.verdict = .wonBy k)
    (hended : s.ended = true) : s.notice? k = some .won := by
  rcases hl : s.live with _ | _
  · rcases h.live_eq_false.mp hl with hout | ⟨j, hj, ho⟩
    · rw [hv] at hout
      cases hout
    · rw [hv] at hj
      cases hj
      exact ho
  · -- Every attempt was noticed, and the winner is none that was not.
    rcases h.open_or_unnoticed hl with hopen | ⟨j, hj, hmem⟩
    · rw [hv] at hopen
      cases hopen
    · obtain ⟨⟨how, hf⟩, ho⟩ := (h.mem_unnoticed j).mp hmem
      simp only [ended, hl, Bool.not_true, Bool.false_or, Bool.and_eq_true] at hended
      exact absurd ho (allNoticed_iff.mp hended.1 j (lt_length_of_finish? hf))

/-- An end that comes after the end of the race changes nothing of what it comes to. -/
theorem Coherent.conclude_finish (h : s.Coherent) (hended : s.ended = true)
    (hk : k < s.attempts.length) (hf : s.finish? k = none) (candidates : List Candidate)
    (hlen : s.attempts.length ≤ candidates.length) :
    conclude candidates (s.finish k how) = conclude candidates s := by
  have hopen := h.verdict_ne_open hended hk hf
  have hverdict : (s.finish k how).verdict = s.verdict := by simp [Coherent.verdict_finish, hopen]
  have hout : ∀ filler, (s.finish k how).outcomes candidates.length filler =
      s.outcomes candidates.length filler := outcomes_congr notice?_finish
  rcases hv : s.verdict with _ | j | _
  · exact absurd hv hopen
  · have ho := h.notice?_of_ended hv hended
    have hj : j < candidates.length := Nat.lt_of_lt_of_le (lt_length_of_notice? ho) hlen
    have hne : j ≠ k := by
      rintro rfl
      rw [h.notice_eq_none hf] at ho
      cases ho
    have haddress : (s.finish k how).sessionAddress j = s.sessionAddress j := by
      have hfj : (s.finish k how).finish? j = s.finish? j := finish?_finish_of_ne hne
      simp only [finish?] at hfj
      simp only [sessionAddress, hfj]
    rw [(h.finish hk hf).conclude_of_won (by rwa [notice?_finish]) hj, h.conclude_of_won ho hj,
      haddress, length_finish, hout]
  · have hlost : ∀ j, s.verdict ≠ .wonBy j := by simp [hv]
    rw [(h.finish hk hf).conclude_of_lost (by simpa [hverdict] using hlost),
      h.conclude_of_lost hlost, hverdict, hout]

theorem ended_finish (h : s.Coherent) (hended : s.ended = true) (hk : k < s.attempts.length)
    (hf : s.finish? k = none) : (s.finish k how).ended = true := by
  have hlive : s.live = false := by
    by_contra hl
    rw [Bool.not_eq_false] at hl
    simp only [ended, hl, Bool.not_true, Bool.false_or, Bool.and_eq_true] at hended
    exact allNoticed_iff.mp hended.1 k hk (h.notice_eq_none hf)
  simp [ended, hlive]

end State

/-! ### Sound courses -/

/-- The party that a verdict is due to. -/
def Verdict.parties : Verdict → List Party
  | .open => []
  | .wonBy k => [.attempt k]
  | .outOfTime => [.deadline]

namespace Course

variable {config : Config} {candidates : List Candidate} {n : Nat}
  {c d : Course} {k : Nat}

/-- **The invariant of courses** of `n` candidates. -/
structure Sound (n : Nat) (c : Course) : Prop where
  coherent : c.state.Coherent
  length : c.state.attempts.length + c.state.waiting.length = n
  deciders : c.deciders = c.state.verdict.parties
  dropped : ∀ k, k ∈ c.dropped ↔ c.state.Connected k ∧ c.state.verdict ≠ .wonBy k

theorem Sound.start (given : List Behaviour) : (start given).Sound given.length where
  coherent := .initial given
  length := Nat.zero_add _
  deciders := rfl
  dropped := by simp [Course.start, State.connected_iff, State.finish?]

namespace Sound

theorem mem_deciders_attempt (h : c.Sound n) :
    .attempt k ∈ c.deciders ↔ c.state.verdict = .wonBy k := by
  rw [h.deciders]
  rcases c.state.verdict with _ | j | _ <;> simp [Verdict.parties, eq_comm]

theorem mem_deciders_deadline (h : c.Sound n) :
    .deadline ∈ c.deciders ↔ c.state.verdict = .outOfTime := by
  rw [h.deciders]
  rcases c.state.verdict with _ | j | _ <;> simp [Verdict.parties]

theorem complete (h : c.Sound n) {how : Finish} (hk : k < c.state.attempts.length)
    (hf : c.state.finish? k = none) : (c.complete k how).Sound n := by
  have hverdict : (c.state.finish k how).verdict =
      if how.connected = true ∧ c.state.verdict = .open then .wonBy k else c.state.verdict :=
    State.Coherent.verdict_finish
  have hnone : ¬ c.state.Connected k := by
    rw [State.connected_iff, hf]
    simp
  refine ⟨h.coherent.finish hk hf, ?_, ?_, fun j => ?_⟩
  · exact (congrArg (· + _) State.length_finish).trans h.length
  · have hparties := h.deciders
    change (if c.state.verdict = .open ∧ (c.state.finish k how).verdict ≠ .open then
      c.deciders ++ [.attempt k] else c.deciders) = (c.state.finish k how).verdict.parties
    rw [hverdict]
    by_cases hv : c.state.verdict = .open
    · rw [hv] at hparties
      cases hc : how.connected <;> simp [hv, hparties, Verdict.parties]
    · simp [hv, hparties]
  · have hold := h.dropped j
    change j ∈ (if how.connected = true ∧ c.state.verdict ≠ .open then c.dropped ++ [k]
      else c.dropped) ↔ (c.state.finish k how).Connected j ∧ (c.state.finish k how).verdict ≠ _
    rw [State.connected_finish_iff hk hf, hverdict]
    rcases hc : how.connected with _ | _
    · simpa using hold
    by_cases hv : c.state.verdict = .open
    · have hopen : ¬ c.state.Connected j := h.coherent.not_connected hv
      simp [hv, hold, hopen, eq_comm]
    · have hk' : c.state.verdict ≠ .wonBy k := fun hv => hnone (h.coherent.connected_of_won hv)
      simp only [hv, ne_eq, not_false_eq_true, and_self, and_false, if_true, if_false, and_true,
        List.mem_append, List.mem_singleton, hold]
      constructor
      · rintro (⟨hj, hne⟩ | rfl)
        · exact ⟨Or.inl hj, hne⟩
        · exact ⟨Or.inr rfl, hk'⟩
      · rintro ⟨hj | rfl, hne⟩
        · exact Or.inl ⟨hj, hne⟩
        · exact Or.inr rfl

theorem deadline (h : c.Sound n) : (c.act .deadline c.state.passDeadline).Sound n := by
  have hverdict : c.state.passDeadline.verdict =
      if c.state.verdict = .open then .outOfTime else c.state.verdict := by
    unfold State.passDeadline; split_ifs <;> rfl
  refine ⟨h.coherent.passDeadline, by simpa [act] using h.length, ?_, fun j => ?_⟩
  · have hparties := h.deciders
    change (if c.state.verdict = .open ∧ c.state.passDeadline.verdict ≠ .open then
      c.deciders ++ [.deadline] else c.deciders) = c.state.passDeadline.verdict.parties
    rw [hverdict]
    by_cases hv : c.state.verdict = .open
    · rw [hv] at hparties
      simp [hv, hparties, Verdict.parties]
    · simp [hv, hparties]
  · change j ∈ c.dropped ↔ c.state.passDeadline.Connected j ∧ c.state.passDeadline.verdict ≠ _
    have hsame : c.state.passDeadline.Connected j ↔ c.state.Connected j := by
      simp [State.connected_iff]
    rw [hsame, hverdict, h.dropped j]
    by_cases hv : c.state.verdict = .open
    · simp [hv]
    · simp [hv]

theorem congr (h : c.Sound n) {s : State} (hs : s.Coherent)
    (hlen : s.attempts.length + s.waiting.length = n) (hv : s.verdict = c.state.verdict)
    (hf : ∀ j, s.finish? j = c.state.finish? j) : Sound n { c with state := s } := by
  refine ⟨hs, hlen, by rw [hv]; exact h.deciders, fun j => ?_⟩
  rw [hv, State.connected_iff, hf, ← State.connected_iff]
  exact h.dropped j

theorem collect (h : c.Sound n) (hlive : c.state.ended = false) (hk : k ∈ c.state.unnoticed)
    (now : Instant) : Sound n { c with state := (c.state.bringForward k).collect now } := by
  obtain ⟨how, hf, heq⟩ := h.coherent.collect_bringForward hk now
  have hf : (c.state.bringForward k).finish? k = some how := hf
  refine h.congr ((h.coherent.bringForward hk).collect (State.live_of_not_ended hlive)) ?_ ?_
    (State.finish?_collect rfl hf)
  · rw [heq]
    simpa using h.length
  · rw [heq]

theorem startNext (h : c.Sound n) (hw : c.state.waiting ≠ []) (now : Instant) :
    Sound n { c with state := c.state.startNext config now } := by
  obtain ⟨behaviour, rest, hw⟩ := List.exists_cons_of_ne_nil hw
  have heq := State.startNext_eq config now hw
  refine h.congr h.coherent.startNext ?_ ?_ State.finish?_startNext
  · have hlen := h.length
    rw [hw, List.length_cons] at hlen
    rw [heq]
    change (c.state.attempts ++ [_]).length + rest.length = n
    rw [List.length_append, List.length_singleton]
    omega
  · rw [heq]

theorem step (h : c.Sound n) (hs : Step config c d) : d.Sound n := by
  cases hs with
  | complete k how hk hf => exact h.complete hk hf
  | deadline => exact h.deadline
  | collect now k hlive hk => exact h.collect hlive hk now
  | start now _ hw _ => exact h.startNext hw now

theorem later (h : c.Sound n) (hd : Later config c d) : d.Sound n := by
  induction hd with
  | refl => exact h
  | tail _ hs ih => exact ih.step hs

/-! ### What a step leaves as it is -/

theorem verdict_eq (h : c.Sound n) (hs : Step config c d) (hv : c.state.verdict ≠ .open) :
    d.state.verdict = c.state.verdict := by
  cases hs with
  | complete k how => exact State.Coherent.verdict_finish.trans (if_neg fun hc => hv hc.2)
  | deadline =>
    change c.state.passDeadline.verdict = _
    rw [State.passDeadline, if_neg hv]
  | collect now k hlive hk =>
    obtain ⟨how, -, heq⟩ := h.coherent.collect_bringForward hk now
    exact (congrArg State.verdict heq :)
  | start now _ hw =>
    obtain ⟨behaviour, rest, hw⟩ := List.exists_cons_of_ne_nil hw
    change (c.state.startNext config now).verdict = _
    rw [State.startNext_eq config now hw]

theorem work_lt (h : c.Sound n) (hs : Step config c d) : d.state.work < c.state.work := by
  apply Nat.lt_of_succ_le
  apply Nat.le_of_eq
  cases hs with
  | complete k how hk hf => exact State.work_finish hk hf
  | deadline _ hd => exact State.work_passDeadline hd
  | collect now k hlive hk =>
    obtain ⟨how, hf, -⟩ := h.coherent.collect_bringForward hk now
    have hf : (c.state.bringForward k).finish? k = some how := hf
    exact (State.work_collect rfl hf).trans (State.work_bringForward hk)
  | start now _ hw => exact State.work_startNext hw

/-- Nothing is started once the deadline has passed. -/
theorem idle (h : c.Sound n) (hs : Step config c d) (hd : c.state.deadlinePassed = true) :
    d.state.deadlinePassed = true ∧ d.state.attempts.length = c.state.attempts.length := by
  cases hs with
  | complete k how => exact ⟨hd, State.length_finish⟩
  | deadline _ hd' =>
    rw [hd] at hd'
    cases hd'
  | collect now k hlive hk =>
    obtain ⟨how, -, heq⟩ := h.coherent.collect_bringForward hk now
    exact ⟨(congrArg State.deadlinePassed heq).trans hd,
      (congrArg (·.attempts.length) heq).trans (List.length_modify _ _ _)⟩
  | start _ _ _ hd' =>
    rw [hd] at hd'
    cases hd'

/-- When a race is over attempts may end, and nothing comes of it. -/
theorem final (h : c.Sound candidates.length) (hs : Step config c d)
    (hended : c.state.ended = true) :
    d.state.ended = true ∧ conclude candidates d.state = conclude candidates c.state := by
  cases hs with
  | complete k how hk hf =>
    have hlen := h.length
    exact ⟨State.ended_finish h.coherent hended hk hf,
      h.coherent.conclude_finish hended hk hf candidates (by omega)⟩
  | deadline hlive =>
    rw [hended] at hlive
    cases hlive
  | collect _ _ hlive =>
    rw [hended] at hlive
    cases hlive
  | start _ hlive =>
    rw [hended] at hlive
    cases hlive

end Sound

end Course

end Dialer.Race
