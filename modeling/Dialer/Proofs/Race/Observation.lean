import Dialer.Proofs.Race.Invariant

/-!
# What can be told of a race

A race is observed by when its attempts were started, when it was over and what it came to. From the
starts and the behaviours given it follows how attempts end if they are left to themselves:
`StartsAt`, `EndsAt`, `SucceedsAt`, `FailsAt` and `AllFailedBy`.

A race of some candidates ends in one of three ways (`State.Timed.ways_to_end`): out of time, won,
or with every candidate failed. `race_eq` ties what is observed to the state it ended in.
-/

namespace Dialer.Race

section Vocabulary

variable (config : Config) (candidates : List Candidate) (given : List Behaviour)

/-- The attempt for candidate `k` was started at an instant. -/
def StartsAt (k : Nat) (t : Instant) : Prop :=
  ((race config candidates given).attempts.map (·.2.start))[k]? = some t

/-- The attempt for candidate `k` was started and, left to itself, ends at an instant. -/
def EndsAt (k : Nat) (t : Instant) (how : Finish) : Prop :=
  ∃ start, StartsAt config candidates given k start ∧
    ({ start, behaviour := given[k]?.getD refusal } : Attempt).ending? config.attemptLimit =
      some (t, how)

/-- The attempt for candidate `k` was started and comes to a session at an instant. -/
def SucceedsAt (k : Nat) (t : Instant) : Prop :=
  ∃ how, EndsAt config candidates given k t how ∧ how.connected = true

/-- The attempt for candidate `k` was started and fails with a reason at an instant. -/
def FailsAt (k : Nat) (t : Instant) (reason : AttemptFailure) : Prop :=
  ∃ how, EndsAt config candidates given k t how ∧ how.reason? = some reason

/-- By an instant every candidate has been started and has failed, with a reason or by breaking
off. -/
def AllFailedBy (t : Instant) : Prop :=
  ∀ k < candidates.length, ∃ e ≤ t, ∃ how, EndsAt config candidates given k e how ∧
    how.connected = false

end Vocabulary

namespace State

variable {config : Config} {given : List Behaviour} {now : Instant} {s : State} {k n : Nat}
  {how : Finish}

/-- **The ways to end:** the deadline passed before anyone came to a session; a winner was noticed
when it won; or every candidate was started, has failed, and that was noticed. -/
theorem Timed.ways_to_end (h : s.Timed config given now) (hended : s.ended = true) :
    (s.verdict = .outOfTime ∧ now = config.deadline ∧
        ∀ k how, s.finish? k = some how → how.connected = false) ∨
      (∃ k how, s.verdict = .wonBy k ∧ s.notice? k = some .won ∧ how.connected = true ∧
        s.finish? k = some how ∧ s.ending? config k = some (now, how)) ∨
      (s.verdict = .open ∧ now < config.deadline ∧ s.waiting = [] ∧
        ∀ k < s.attempts.length, ∃ how, s.finish? k = some how ∧ how.connected = false) := by
  rcases hl : s.live with _ | _
  · rcases h.coherent.live_eq_false.mp hl with hv | ⟨k, hv, ho⟩
    · exact Or.inl ⟨hv, (h.late hv).1, (h.late hv).2.1⟩
    · obtain ⟨how, hf, hwon⟩ := h.coherent.noticed k _ ho
      have hc := (noticeOf_eq_won_iff.mp hwon.symm).1
      exact Or.inr (Or.inl ⟨k, how, hv, ho, hc, hf, h.recent k how hf (Or.inr hc)⟩)
  · obtain ⟨hw, hall⟩ := (ended_iff hl (h.early hl)).mp hended
    have hfin : ∀ k < s.attempts.length, ∃ how, s.finish? k = some how := by
      intro k hk
      obtain ⟨o, ho⟩ := Option.ne_none_iff_exists'.mp (hall k hk)
      obtain ⟨how, hf, -⟩ := h.coherent.noticed k o ho
      exact ⟨how, hf⟩
    have hv : s.verdict = .open := by
      rcases h.coherent.open_or_unnoticed hl with hv | ⟨k, -, hk⟩
      · exact hv
      · obtain ⟨⟨how, hf⟩, ho⟩ := (h.coherent.mem_unnoticed k).mp hk
        exact absurd ho (hall k (lt_length_of_finish? hf))
    refine Or.inr (Or.inr ⟨hv, ?_, hw, fun k hk => ?_⟩)
    · obtain ⟨k, how, he⟩ := h.exhausted hl hended
      obtain ⟨u, hu⟩ := exists_start?_of_ending? he
      obtain ⟨how', hf⟩ := hfin k (lt_length_of_start? hu)
      obtain ⟨t, -, hlt, he'⟩ := h.ended k how' hf
      rw [he] at he'
      cases he'
      exact hlt
    · obtain ⟨how, hf⟩ := hfin k hk
      exact ⟨how, hf, h.coherent.undecided hv k how hf⟩

/-- An attempt whose end is past has ended. -/
theorem Timed.finish?_of_lt (h : s.Timed config given now) {t : Instant}
    (he : s.ending? config k = some (t, how)) (hlt : t < now) : s.finish? k = some how := by
  rcases hf : s.finish? k with _ | how'
  · exact absurd (h.clear.le_end k how t ⟨hf, he⟩) (Nat.not_le.mpr hlt)
  · obtain ⟨t', -, -, he'⟩ := h.ended k how' hf
    rw [he] at he'
    cases he'
    rfl

/-- How an attempt has ended is how it ends. -/
theorem Timed.ending?_eq (h : s.Timed config given now) {how' : Finish} {t : Instant}
    (hf : s.finish? k = some how') (he : s.ending? config k = some (t, how)) :
    how' = how ∧ t ≤ now ∧ t < config.deadline := by
  obtain ⟨t', hle, hlt, he'⟩ := h.ended k how' hf
  rw [he] at he'
  cases he'
  exact ⟨rfl, hle, hlt⟩

/-! ### The winner and the outcomes -/

theorem notice?_eq_getElem (hk : k < s.attempts.length) :
    s.notice? k = s.attempts[k].notice := by
  simp [notice?, List.getElem?_eq_getElem hk]

theorem winner?_eq_some (hk : s.notice? k = some .won)
    (hall : ∀ j, s.notice? j = some .won → j = k) : s.winner? = some k := by
  have hlt := lt_length_of_notice? hk
  rw [winner?, List.findIdx?_eq_some_iff_getElem]
  refine ⟨hlt, by simpa [notice?_eq_getElem hlt] using hk, fun j hj => ?_⟩
  have hjl : j < s.attempts.length := by omega
  intro hwon
  have := hall j (by simpa [notice?_eq_getElem hjl] using hwon)
  omega

theorem winner?_eq_none (h : ∀ j, s.notice? j ≠ some .won) : s.winner? = none := by
  rw [winner?, List.findIdx?_eq_none_iff]
  intro a ha
  obtain ⟨k, hk, rfl⟩ := List.getElem_of_mem ha
  simpa [notice?_eq_getElem hk] using h k

theorem length_outcomes {filler : Outcome} : (s.outcomes n filler).length = n := by
  simp [outcomes]

theorem outcomes_congr {s' : State} (h : ∀ j, s'.notice? j = s.notice? j) (filler : Outcome) :
    s'.outcomes n filler = s.outcomes n filler :=
  List.map_congr_left fun j _ => congrArg (settle filler) (h j)

theorem getElem?_outcomes {filler : Outcome} (hk : k < n) :
    (s.outcomes n filler)[k]? = some (settle filler (s.notice? k)) := by
  simp [outcomes, notice?, hk]

/-- A race whose winner was noticed. -/
theorem Coherent.conclude_of_won {candidates : List Candidate} (h : s.Coherent)
    (ho : s.notice? k = some .won) (hk : k < candidates.length) :
    conclude candidates s = .ok
      { candidate := candidates[k]
        localAddress := s.sessionAddress k
        report := ⟨k, s.attempts.length, s.outcomes candidates.length .cancelled⟩ } := by
  have hall : ∀ j, s.notice? j = some .won → j = k := by
    intro j hj
    have hvj := h.verdict_of_won hj
    rw [h.verdict_of_won ho] at hvj
    exact (Verdict.wonBy.inj hvj).symm
  rw [conclude, winner?_eq_some ho hall]
  simp [List.getElem?_eq_getElem hk]

/-- A race without a winner. -/
theorem Coherent.conclude_of_lost (h : s.Coherent) (hv : ∀ k, s.verdict ≠ .wonBy k)
    (candidates : List Candidate) :
    conclude candidates s = .error (.allFailed (candidates.zipWith FailedCandidate.mk
      ((s.outcomes candidates.length
        (if s.verdict = .outOfTime then .failed .timedOut else .cancelled)).map
          (·.failureReason)))) := by
  have hnone : ∀ j, s.notice? j ≠ some .won := fun j hj => hv j (h.verdict_of_won hj)
  rw [conclude, winner?_eq_none hnone]
  rfl

end State

/-! ### From what is observed to the state -/

variable {config : Config} {candidates : List Candidate} {given : List Behaviour} {k : Nat}
  {t : Instant} {how : Finish}

theorem getElem?_behaviours (given : List Behaviour) (hk : k < candidates.length) :
    (behaviours candidates given)[k]? = some (given[k]?.getD refusal) := by
  simp [behaviours, hk]

theorem length_behaviours (candidates : List Candidate) (given : List Behaviour) :
    (behaviours candidates given).length = candidates.length := by
  simp [behaviours]

/-- **What a race is observed as** is told by the state it ended in. -/
structure Observed (config : Config) (candidates : List Candidate) (given : List Behaviour)
    (s : State) : Prop where
  timed : s.Timed config (behaviours candidates given) (race config candidates given).elapsed
  ended : s.ended = true
  outcome : (race config candidates given).outcome = conclude candidates s
  attempts : (race config candidates given).attempts = candidates.zip s.attempts

theorem observed_run (config : Config) (given : List Behaviour) (hne : candidates ≠ []) :
    Observed config candidates given
      (State.run config { waiting := behaviours candidates given }).2 := by
  have hgiven : behaviours candidates given ≠ [] := by
    intro hnil
    have := length_behaviours candidates given
    rw [hnil] at this
    exact hne (List.length_eq_zero_iff.mp this.symm)
  obtain ⟨htimed, hended⟩ := State.timed_run config hgiven
  have hrace : race config candidates given =
      ⟨conclude candidates (State.run config { waiting := behaviours candidates given }).2,
        (State.run config { waiting := behaviours candidates given }).1,
        candidates.zip
          (State.run config { waiting := behaviours candidates given }).2.attempts⟩ := by
    simp [race, hne]
  exact ⟨by rw [hrace]; exact htimed, hended, by rw [hrace], by rw [hrace]⟩

theorem exists_observed (config : Config) (given : List Behaviour) (hne : candidates ≠ []) :
    ∃ s, Observed config candidates given s :=
  ⟨_, observed_run config given hne⟩

namespace Observed

variable {s : State} (h : Observed config candidates given s)
include h

theorem length_le : s.attempts.length + s.waiting.length = candidates.length := by
  rw [← h.timed.length_eq, length_behaviours]

theorem startsAt_iff : StartsAt config candidates given k t ↔ s.start? k = some t := by
  have hlen := h.length_le
  have hmap : (candidates.zip s.attempts).map (·.2.start) = s.attempts.map (·.start) := by
    have hsnd : (candidates.zip s.attempts).map Prod.snd = s.attempts :=
      List.map_snd_zip (by omega)
    conv_rhs => rw [← hsnd, List.map_map]
    rfl
  rw [StartsAt, h.attempts, hmap, List.getElem?_map, State.start?]

/-- Attempts act by the behaviours given, and by refusals where none is. -/
theorem ending?_eq_of_start? {start : Instant} (hs : s.start? k = some start) :
    s.ending? config k =
      ({ start, behaviour := given[k]?.getD refusal } : Attempt).ending? config.attemptLimit := by
  have hk := State.lt_length_of_start? hs
  have hb : s.attempts[k].behaviour = given[k]?.getD refusal := by
    have hsplit := congrArg (·[k]?) h.timed.split
    have hlen := h.length_le
    simp only [getElem?_behaviours given (show k < candidates.length by omega)] at hsplit
    rw [List.getElem?_append_left (by simpa using hk), List.getElem?_map,
      List.getElem?_eq_getElem hk] at hsplit
    exact Option.some.inj hsplit
  rw [State.start?, List.getElem?_eq_getElem hk] at hs
  rw [State.ending?, List.getElem?_eq_getElem hk, ← Option.some.inj hs, ← hb]
  rfl

theorem endsAt_iff : EndsAt config candidates given k t how ↔
    s.ending? config k = some (t, how) := by
  constructor
  · rintro ⟨start, hs, he⟩
    rw [h.ending?_eq_of_start? (h.startsAt_iff.mp hs), he]
  · intro he
    obtain ⟨start, hs⟩ := State.exists_start?_of_ending? he
    exact ⟨start, h.startsAt_iff.mpr hs, by rw [← h.ending?_eq_of_start? hs, he]⟩

theorem succeedsAt_iff : SucceedsAt config candidates given k t ↔
    ∃ how, s.ending? config k = some (t, how) ∧ how.connected = true := by
  simp only [SucceedsAt, h.endsAt_iff]

theorem failsAt_iff {reason : AttemptFailure} : FailsAt config candidates given k t reason ↔
    ∃ how, s.ending? config k = some (t, how) ∧ how.reason? = some reason := by
  simp only [FailsAt, h.endsAt_iff]

/-! ### What a race comes to -/

/-- A race whose winner was noticed. -/
theorem outcome_of_won (ho : s.notice? k = some .won) :
    ∃ candidate, candidates[k]? = some candidate ∧
      (race config candidates given).outcome = .ok
        { candidate
          localAddress := s.sessionAddress k
          report := ⟨k, s.attempts.length, s.outcomes candidates.length .cancelled⟩ } := by
  have hlen := h.length_le
  have hk := State.lt_length_of_notice? ho
  refine ⟨candidates[k], List.getElem?_eq_getElem (by omega), ?_⟩
  rw [h.outcome, h.timed.coherent.conclude_of_won ho (by omega)]

/-- A race without a winner. -/
theorem outcome_of_lost (hv : ∀ k, s.verdict ≠ .wonBy k) :
    (race config candidates given).outcome = .error (.allFailed (candidates.zipWith
      FailedCandidate.mk ((s.outcomes candidates.length
        (if s.verdict = .outOfTime then .failed .timedOut else .cancelled)).map
          (·.failureReason)))) := by
  rw [h.outcome, h.timed.coherent.conclude_of_lost hv]

end Observed

end Dialer.Race
