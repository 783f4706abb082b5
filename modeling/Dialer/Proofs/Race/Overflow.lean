import Dialer.Proofs.Race.Observation

/-!
# Races at the end of the clock

Whenever a candidate is started it is worked out when the next one is due. A clock that has a last
instant may not go that far, and then the race breaks off. Up to there nothing differs from a race by
a clock without end (`State.runFor_of_runWithin`), and it comes to that exactly if a candidate is
started too late (`State.runWithin_eq_none_iff`). So `raceWithin` is told by the starts of `race`.
-/

namespace Dialer.Race

namespace State

variable {config : Config} {now t : Instant} {s : State} {k fuel : Nat}

/-! ### What was started stays started -/

theorem start?_finishDue (j : Nat) : (s.finishDue config now).start? j = s.start? j := by
  have hone : ∀ (s : State) (p : Attempt × Nat),
      (finishIfDue config now s p).start? j = s.start? j := by
    rintro s ⟨a, k⟩
    rw [finishIfDue]
    split
    · split_ifs
      · exact start?_finish j
      · rfl
    · rfl
  have hall : ∀ (l : List (Attempt × Nat)) (s : State),
      (l.foldl (finishIfDue config now) s).start? j = s.start? j := by
    intro l
    induction l with
    | nil => exact fun _ => rfl
    | cons p l ih => exact fun s => (ih _).trans (hone s p)
  rw [finishDue_eq_foldl, hall]

theorem start?_act_of_ne {action : Action} (h : action ≠ .start) (j : Nat) :
    (s.act config now action).start? j = s.start? j := by
  cases action with
  | deadline => exact start?_passDeadline j
  | collect =>
    rcases hu : s.unnoticed with _ | ⟨i, rest⟩
    · simp [act, State.collect, hu]
    rcases hf : s.finish? i with _ | how
    · rw [act, collect_of_none now hu hf]
      rfl
    · exact start?_collect hu hf j
  | start => exact absurd rfl h
  | finish => exact start?_finishDue j

theorem start?_act_of_some (h : s.start? k = some t) (action : Action) :
    (s.act config now action).start? k = some t := by
  by_cases haction : action = .start
  · subst haction
    rcases hw : s.waiting with _ | ⟨behaviour, rest⟩
    · simpa [act, State.startNext, hw] using h
    · exact (start?_startNext_of_ne hw (Nat.ne_of_lt (lt_length_of_start? h))).trans h
  · exact (start?_act_of_ne haction k).trans h

theorem start?_runFor_of_some : ∀ (fuel : Nat) (now : Instant) (s : State), s.start? k = some t →
    (s.runFor config fuel now).2.start? k = some t
  | 0, _, _, h => h
  | fuel + 1, now, s, h => by
    rw [runFor]
    split_ifs
    · exact h
    · rcases s.next? config now with _ | ⟨later, action⟩
      · exact h
      · exact start?_runFor_of_some fuel later _ (start?_act_of_some h action)

/-- Who was not started before an action and is after it is started by it, at that instant. -/
theorem eq_start_of_start?_act {action : Action} (hnone : s.start? k = none)
    (hsome : (s.act config now action).start? k = some t) : action = .start ∧ t = now := by
  by_cases haction : action = .start
  · subst haction
    refine ⟨rfl, ?_⟩
    rcases hw : s.waiting with _ | ⟨behaviour, rest⟩
    · simp [act, State.startNext, hw, hnone] at hsome
    · by_cases hk : k = s.attempts.length
      · subst hk
        rw [act, start?_startNext_self hw] at hsome
        exact (Option.some.inj hsome).symm
      · rw [act, start?_startNext_of_ne hw hk, hnone] at hsome
        cases hsome
  · rw [start?_act_of_ne haction, hnone] at hsome
    cases hsome

theorem waiting_of_next?_start {later : Instant} (h : s.next? config now = some (later, .start)) :
    s.waiting ≠ [] := by
  have hdue : ∀ now, s.dueAction? config now = some .start → s.waiting ≠ [] := by
    intro now h hw
    have hstart : s.startAt? = none := by simp [startAt?, hw]
    have hnever : dueBy now s.startAt? = false := by rw [hstart]; rfl
    simp only [dueAction?, hnever, Bool.false_eq_true, if_false] at h
    split_ifs at h <;> cases h
  unfold next? at h
  split at h
  · next action hact =>
    obtain ⟨-, rfl⟩ := Prod.mk.inj (Option.some.inj h)
    exact hdue now hact
  · split at h
    · cases h
    · next later' _ =>
      obtain ⟨action, hact, hpair⟩ := Option.map_eq_some_iff.mp h
      obtain ⟨-, rfl⟩ := Prod.mk.inj hpair
      exact hdue later' hact

/-! ### A clock that has a last instant -/

variable {last : Instant}

theorem runFor_of_runWithin {r : Instant × State} :
    ∀ {fuel : Nat} {now : Instant} {s : State}, s.runWithin last config fuel now = some r →
      s.runFor config fuel now = r
  | 0, _, _, h => Option.some.inj h
  | fuel + 1, now, s, h => by
    rw [runWithin] at h
    rw [runFor]
    split_ifs at h ⊢
    · exact Option.some.inj h
    · rcases hnext : s.next? config now with _ | ⟨later, action⟩
      · rw [hnext] at h
        exact Option.some.inj h
      · simp only [hnext] at h
        split_ifs at h
        exact runFor_of_runWithin h

/-- **A race breaks off** exactly if someone is started so late that the clock ends before the next
one would be due. -/
theorem runWithin_eq_none_iff : ∀ {fuel : Nat} {now : Instant} {s : State},
    s.runWithin last config fuel now = none ↔
      ∃ k t, s.start? k = none ∧ (s.runFor config fuel now).2.start? k = some t ∧
        last < t + config.stagger := by
  intro fuel
  have hover : ∀ s : State,
      ¬ ∃ k t, s.start? k = none ∧ s.start? k = some t ∧ last < t + config.stagger := by
    rintro s ⟨k, t, hnone, hsome, -⟩
    rw [hnone] at hsome
    cases hsome
  induction fuel with
  | zero =>
    intro now s
    simpa [runWithin, runFor] using hover s
  | succ fuel ih =>
    intro now s
    rw [runWithin, runFor]
    split_ifs with hended
    · simpa using hover s
    rcases hnext : s.next? config now with _ | ⟨later, action⟩
    · simpa using hover s
    dsimp only
    split_ifs with hlate
    · -- The one who is started now is too late.
      simp only [Bool.and_eq_true, decide_eq_true_eq] at hlate
      obtain ⟨rfl, hlate⟩ := hlate
      obtain ⟨behaviour, rest, hw⟩ :=
        List.exists_cons_of_ne_nil (waiting_of_next?_start hnext)
      have hself : ((s.act config later .start).runFor config fuel later).2.start?
          s.attempts.length = some later := start?_runFor_of_some _ _ _ (start?_startNext_self hw)
      exact iff_of_true rfl
        ⟨s.attempts.length, later, start?_eq_none_iff.mpr (Nat.le_refl _), hself, hlate⟩
    · rw [ih]
      constructor
      · rintro ⟨k, t, hnone, hsome, hlt⟩
        refine ⟨k, t, ?_, hsome, hlt⟩
        rcases hk : s.start? k with _ | u
        · rfl
        · rw [start?_act_of_some hk] at hnone
          cases hnone
      · rintro ⟨k, t, hnone, hsome, hlt⟩
        refine ⟨k, t, ?_, hsome, hlt⟩
        rcases hk : (s.act config later action).start? k with _ | u
        · rfl
        · -- Otherwise it is started now, and that is not too late.
          obtain ⟨rfl, rfl⟩ := eq_start_of_start?_act hnone hk
          rw [start?_runFor_of_some fuel u _ hk] at hsome
          cases hsome
          simp [hlt] at hlate

end State

/-! ### Races -/

variable {config : Config} {candidates : List Candidate} {given : List Behaviour} {last : Instant}

theorem eq_race_of_raceWithin {result : Result}
    (h : raceWithin last config candidates given = some result) :
    result = race config candidates given := by
  unfold raceWithin at h
  unfold race
  split_ifs at h ⊢
  · exact (Option.some.inj h).symm
  · obtain ⟨⟨elapsed, s⟩, hrun, rfl⟩ := Option.map_eq_some_iff.mp h
    rw [State.run, State.runFor_of_runWithin hrun]

/-- **A race comes to no result** exactly if someone is started so late that the clock ends before
the next one would be due. -/
theorem raceWithin_eq_none_iff : raceWithin last config candidates given = none ↔
    ∃ k t, StartsAt config candidates given k t ∧ last < t + config.stagger := by
  by_cases hne : candidates = []
  · subst hne
    simp [raceWithin, StartsAt, race]
  have hempty : candidates.isEmpty = false := by simpa using hne
  simp only [(observed_run config given hne).startsAt_iff, raceWithin, hempty]
  rw [if_neg Bool.false_ne_true, Option.map_eq_none_iff, State.runWithin_eq_none_iff]
  have hstart : ∀ k, ({ waiting := behaviours candidates given } : State).start? k = none :=
    fun _ => rfl
  simp only [hstart, true_and]
  rfl

end Dialer.Race
