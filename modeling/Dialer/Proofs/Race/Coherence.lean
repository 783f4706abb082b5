import Dialer.Proofs.Race.View

/-!
# Coherent races

What the parts of a race's state say about each other, at every moment and in whatever order its
steps come. `State.Coherent` says that `unnoticed` lists the attempts that have ended without an
outcome, that outcomes are those the ends call for, and what the verdict and `live` go by. Each of
the four steps keeps it: `Coherent.startNext`, `Coherent.finish`, `Coherent.passDeadline` and
`Coherent.collect`.
-/

namespace Dialer.Race.State

variable {config : Config} {now : Instant} {s : State} {k : Nat} {how : Finish}

theorem noticeOf_of_reason {reason : AttemptFailure} (h : how.reason? = some reason) :
    s.noticeOf k how = .failed reason := by
  simp [noticeOf, h]

theorem noticeOf_eq_won_iff :
    s.noticeOf k how = .won ↔ how.connected = true ∧ s.verdict = .wonBy k := by
  unfold noticeOf
  rcases hr : how.reason? with _ | reason
  · rcases how.connected with _ | _ <;> simp
  · simp [Finish.connected_of_reason? hr]

theorem noticeOf_congr {s' : State} (h : how.connected = true → s'.verdict = s.verdict) :
    s'.noticeOf k how = s.noticeOf k how := by
  unfold noticeOf
  rcases hr : how.reason? with _ | reason
  · rcases hc : how.connected with _ | _
    · rfl
    · rw [h hc]
  · rfl

/-- **What the parts of a state say about each other.** -/
structure Coherent (s : State) : Prop where
  /-- The attempts still to be noticed are those that have ended and have no outcome. -/
  mem_unnoticed : ∀ k, k ∈ s.unnoticed ↔ (∃ how, s.finish? k = some how) ∧ s.notice? k = none
  nodup : s.unnoticed.Nodup
  noticed : ∀ k o, s.notice? k = some o → ∃ how, s.finish? k = some how ∧ o = s.noticeOf k how
  won : ∀ k, s.verdict = .wonBy k → ∃ how, s.finish? k = some how ∧ how.connected = true
  undecided : s.verdict = .open → ∀ k how, s.finish? k = some how → how.connected = false
  /-- A race ends when it is out of time or its winner was noticed. -/
  live_eq_false : s.live = false ↔
    s.verdict = .outOfTime ∨ ∃ k, s.verdict = .wonBy k ∧ s.notice? k = some .won

namespace Coherent

theorem initial (given : List Behaviour) : Coherent { waiting := given } where
  mem_unnoticed := by simp [finish?]
  nodup := by simp
  noticed := by simp [notice?]
  won := by simp
  undecided := by simp [finish?]
  live_eq_false := by simp

/-- An attempt at work has no outcome. -/
theorem notice_eq_none (h : s.Coherent) (hf : s.finish? k = none) : s.notice? k = none := by
  by_contra hne
  obtain ⟨o, ho⟩ := Option.ne_none_iff_exists'.mp hne
  obtain ⟨how, hhow, -⟩ := h.noticed k o ho
  rw [hf] at hhow
  cases hhow

theorem verdict_of_won (h : s.Coherent) (ho : s.notice? k = some .won) :
    s.verdict = .wonBy k := by
  obtain ⟨how, -, hwon⟩ := h.noticed k _ ho
  exact (noticeOf_eq_won_iff.mp hwon.symm).2

/-- While a race goes on it is undecided, or its winner has still to be noticed. -/
theorem open_or_unnoticed (h : s.Coherent) (hl : s.live = true) :
    s.verdict = .open ∨ ∃ k, s.verdict = .wonBy k ∧ k ∈ s.unnoticed := by
  have hlive : ¬ (s.verdict = .outOfTime ∨
      ∃ k, s.verdict = .wonBy k ∧ s.notice? k = some .won) := by
    rw [← h.live_eq_false, hl]; simp
  rcases hv : s.verdict with _ | k | _
  · exact Or.inl rfl
  · refine Or.inr ⟨k, rfl, ?_⟩
    obtain ⟨how, hf, hc⟩ := h.won k hv
    refine (h.mem_unnoticed k).mpr ⟨⟨how, hf⟩, ?_⟩
    rcases ho : s.notice? k with _ | o
    · rfl
    · obtain ⟨how', hf', rfl⟩ := h.noticed k o ho
      rw [hf] at hf'
      cases hf'
      rw [noticeOf_eq_won_iff.mpr ⟨hc, hv⟩] at ho
      exact absurd (Or.inr ⟨k, hv, ho⟩) hlive
  · exact absurd (Or.inl hv) hlive

/-! ### The four steps -/

theorem startNext (h : s.Coherent) : (s.startNext config now).Coherent := by
  rcases hw : s.waiting with _ | ⟨behaviour, rest⟩
  · simpa [State.startNext, hw] using h
  have hv : (s.startNext config now).verdict = s.verdict := by rw [startNext_eq config now hw]
  have hout : ∀ j how, (s.startNext config now).noticeOf j how = s.noticeOf j how :=
    fun j how => noticeOf_congr fun _ => hv
  constructor
  · intro j
    rw [finish?_startNext, notice?_startNext, ← h.mem_unnoticed, startNext_eq config now hw]
  · rw [startNext_eq config now hw]; exact h.nodup
  · intro j o ho
    rw [notice?_startNext] at ho
    simpa only [finish?_startNext, hout] using h.noticed j o ho
  · simpa only [finish?_startNext, hv] using h.won
  · simpa only [finish?_startNext, hv] using h.undecided
  · simp only [notice?_startNext, hv, ← h.live_eq_false]
    rw [startNext_eq config now hw]

theorem passDeadline (h : s.Coherent) : s.passDeadline.Coherent := by
  by_cases hv : s.verdict = .open
  · -- An undecided race has no successes, so outcomes do not go by the verdict.
    have hs : s.passDeadline =
        { s with deadlinePassed := true, verdict := .outOfTime, live := false } := by
      simp [State.passDeadline, hv]
    constructor
    · simpa using h.mem_unnoticed
    · simpa using h.nodup
    · intro j o ho
      obtain ⟨how, hf, rfl⟩ := h.noticed j o (by simpa using ho)
      have hc := h.undecided hv j how hf
      exact ⟨how, by simpa using hf, noticeOf_congr (by simp [hc])⟩
    · simp [hs]
    · simp [hs]
    · simp [hs]
  · have hs : s.passDeadline = { s with deadlinePassed := true } := by
      simp [State.passDeadline, hv]
    rw [hs]
    exact ⟨h.mem_unnoticed, h.nodup, h.noticed, h.won, h.undecided, h.live_eq_false⟩

/-- The verdict after an end. -/
theorem verdict_finish : (s.finish k how).verdict =
    if how.connected = true ∧ s.verdict = .open then .wonBy k else s.verdict := by
  simp [State.finish]

theorem finish (h : s.Coherent) (hk : k < s.attempts.length) (hf : s.finish? k = none) :
    (s.finish k how).Coherent := by
  have hself : (s.finish k how).finish? k = some how := finish?_finish_self hk
  have hne : ∀ {j}, j ≠ k → (s.finish k how).finish? j = s.finish? j := finish?_finish_of_ne
  have hold : ∀ {j how'}, s.finish? j = some how' → (s.finish k how).finish? j = some how' := by
    intro j how' hj
    rw [hne (by rintro rfl; rw [hf] at hj; cases hj), hj]
  have hk' : s.notice? k = none := h.notice_eq_none hf
  have hu : (s.finish k how).unnoticed = s.unnoticed ++ [k] := rfl
  -- A verdict that has fallen stays.
  have hv : s.verdict ≠ .open → (s.finish k how).verdict = s.verdict := by
    intro hv; simp [verdict_finish, hv]
  constructor
  · intro j
    rw [hu, List.mem_append, List.mem_singleton, notice?_finish, h.mem_unnoticed]
    by_cases hj : j = k
    · subst hj; simp [hself, hk']
    · simp [hne hj, hj]
  · rw [hu, List.nodup_append]
    refine ⟨h.nodup, by simp, ?_⟩
    intro j hj i hi hji
    rw [List.mem_singleton] at hi
    subst hji hi
    obtain ⟨⟨how', hj⟩, -⟩ := (h.mem_unnoticed j).mp hj
    rw [hf] at hj
    cases hj
  · intro j o ho
    rw [notice?_finish] at ho
    obtain ⟨how', hj, rfl⟩ := h.noticed j o ho
    refine ⟨how', hold hj, noticeOf_congr fun hc => (hv fun hopen => ?_).symm⟩
    rw [h.undecided hopen j how' hj] at hc
    cases hc
  · intro j hj
    rw [verdict_finish] at hj
    split_ifs at hj with hc
    · cases hj; exact ⟨how, hself, hc.1⟩
    · obtain ⟨how', hj', hc'⟩ := h.won j hj
      exact ⟨how', hold hj', hc'⟩
  · intro hopen j how' hj
    rw [verdict_finish] at hopen
    split_ifs at hopen with hc
    by_cases hjk : j = k
    · subst hjk
      rw [hself] at hj
      cases hj
      simpa [hopen] using hc
    · exact h.undecided hopen j how' (by rwa [hne hjk] at hj)
  · rw [live_finish, h.live_eq_false]
    simp only [notice?_finish, verdict_finish]
    split_ifs with hc
    · simp [hc.2, hk']
    · rfl

theorem collect (h : s.Coherent) (hl : s.live = true) : (s.collect now).Coherent := by
  rcases hu : s.unnoticed with _ | ⟨k, rest⟩
  · simpa [State.collect, hu] using h
  obtain ⟨⟨how, hf⟩, hk⟩ := (h.mem_unnoticed k).mp (by simp [hu])
  have hnodup := h.nodup
  rw [hu, List.nodup_cons] at hnodup
  have hself : (s.collect now).notice? k = some (s.noticeOf k how) := notice?_collect_self hu hf
  have hne : ∀ {j}, j ≠ k → (s.collect now).notice? j = s.notice? j :=
    notice?_collect_of_ne hu hf
  have heq := collect_eq now hu hf
  have hv : (s.collect now).verdict = s.verdict := by rw [heq]
  have hout : ∀ j how, (s.collect now).noticeOf j how = s.noticeOf j how :=
    fun j how => noticeOf_congr fun _ => hv
  constructor
  · intro j
    rw [show (s.collect now).unnoticed = rest by rw [heq], finish?_collect hu hf]
    by_cases hj : j = k
    · subst hj; simp [hself, hnodup.1]
    · rw [hne hj, ← h.mem_unnoticed, hu]; simp [hj]
  · rw [show (s.collect now).unnoticed = rest by rw [heq]]; exact hnodup.2
  · intro j o ho
    rw [finish?_collect hu hf, funext (hout j)]
    by_cases hj : j = k
    · subst hj
      rw [hself] at ho
      cases ho
      exact ⟨how, hf, rfl⟩
    · exact h.noticed j o (by rwa [hne hj] at ho)
  · simpa only [finish?_collect hu hf, hv] using h.won
  · simpa only [finish?_collect hu hf, hv] using h.undecided
  · -- Before, no winner had been noticed; now one has if this is the winner.
    have hlive : ¬ (s.verdict = .outOfTime ∨
        ∃ j, s.verdict = .wonBy j ∧ s.notice? j = some .won) := by
      rw [← h.live_eq_false, hl]; simp
    have hstay : (s.collect now).live = (s.noticeOf k how != .won) := by rw [heq]
    rw [hstay, bne_eq_false_iff_eq, hv]
    constructor
    · intro hwon
      exact Or.inr ⟨k, (noticeOf_eq_won_iff.mp hwon).2, by rw [hself, hwon]⟩
    · rintro (hended | ⟨j, hj, ho⟩)
      · exact absurd (Or.inl hended) hlive
      · by_cases hjk : j = k
        · subst hjk
          rw [hself] at ho
          exact Option.some.inj ho
        · rw [hne hjk] at ho
          exact absurd (Or.inr ⟨j, hj, ho⟩) hlive

end Coherent

end Dialer.Race.State
