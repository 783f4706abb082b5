import Dialer.Proofs.Race.Outcome

/-!
# When attempts are started

`race_schedule`: candidates are attempted in their order, the first at once, each later one at most
a stagger delay after the one before; a failure starts the next candidate at that very instant, and
nothing but a failure starts one before its time.
-/

namespace Dialer.Race

variable {config : Config} {candidates : List Candidate} {given : List Behaviour} {k : Nat}
  {t : Instant} {s : State}

namespace Observed

variable (h : Observed config candidates given s)
include h

theorem startsAt_of_plannedAt (hp : s.PlannedAt k t)
    (hlt : t < (race config candidates given).elapsed) : StartsAt config candidates given k t := by
  rcases hp with hs | ⟨-, hw, rfl⟩
  · exact h.startsAt_iff.mpr hs
  · exact absurd (h.timed.clear.le_staggerAt hw) (Nat.not_le.mpr hlt)

theorem exists_failsAt (hf : s.FailsAt config k t) :
    ∃ reason, FailsAt config candidates given k t reason := by
  obtain ⟨how, reason, he, hr⟩ := hf
  exact ⟨reason, h.failsAt_iff.mpr ⟨how, he, hr⟩⟩

theorem noticed_of_failsAt {reason : AttemptFailure}
    (hf : FailsAt config candidates given k t reason)
    (hlt : t < (race config candidates given).elapsed) :
    s.notice? k ≠ none ∧ s.FailsAt config k t := by
  obtain ⟨how, he, hr⟩ := h.failsAt_iff.mp hf
  refine ⟨fun ho => ?_, how, reason, he, hr⟩
  rw [h.timed.recent k how (h.timed.finish?_of_lt he hlt) (Or.inl ho)] at he
  cases he
  exact absurd hlt (Nat.lt_irrefl _)

theorem exists_start (hne : candidates ≠ []) (hpos : 0 < config.deadline) :
    0 < s.attempts.length := by
  by_contra hnone
  have hlen := h.length_le
  have hnil : s.attempts.length = 0 := by omega
  have hw : s.waiting ≠ [] := by
    intro hw
    rw [hnil, hw] at hlen
    exact hne (List.length_eq_zero_iff.mp hlen.symm)
  have hzero := h.timed.paced.first s.staggerAt (Or.inr ⟨hnil.symm, hw, rfl⟩)
  have hle := h.timed.clear.le_staggerAt hw
  rw [hzero] at hle
  rcases h.timed.ways_to_end h.ended with ⟨-, hnow, -⟩ | ⟨k, how, -, -, -, hf, -⟩ | ⟨-, -, hw', -⟩
  · rw [hnow] at hle
    exact absurd hpos (Nat.not_lt.mpr hle)
  · have := State.lt_length_of_finish? hf
    omega
  · exact hw hw'

theorem prefix_attempts : (race config candidates given).attempts.map Prod.fst <+: candidates := by
  have hlen := h.length_le
  rw [h.attempts, List.zip_eq_zip_take_min, List.map_fst_zip (by simp)]
  exact List.take_prefix _ _

end Observed

/-- **When attempts are started,** if the clock does not end before. In the order of the candidates,
the first at the instant 0; as long as the race goes on each at most a stagger delay after the one
before. When an attempt fails with a reason and candidate `m` behind it is still to be started, a
candidate up to `m` is started at that instant; and a candidate is started before its time only at
an instant at which an attempt for an earlier one fails with a reason. -/
theorem race_schedule (last : Instant) (config : Config) (candidates : List Candidate)
    (given : List Behaviour) :
    (raceWithin last config candidates given = none ↔
      ∃ k t, StartsAt config candidates given k t ∧ last < t + config.stagger) ∧
    (∀ result, raceWithin last config candidates given = some result →
      result = race config candidates given) ∧
    (race config candidates given).attempts.map Prod.fst <+: candidates ∧
    (candidates ≠ [] → 0 < config.deadline → StartsAt config candidates given 0 0) ∧
    (∀ j k t u, j ≤ k → StartsAt config candidates given j t →
      StartsAt config candidates given k u → t ≤ u) ∧
    (∀ k t, StartsAt config candidates given k t → k + 1 < candidates.length →
      t + config.stagger < (race config candidates given).elapsed →
        ∃ u, StartsAt config candidates given (k + 1) u) ∧
    (∀ k t u, StartsAt config candidates given k t → StartsAt config candidates given (k + 1) u →
      u ≤ t + config.stagger) ∧
    (∀ i t reason, FailsAt config candidates given i t reason →
      t < (race config candidates given).elapsed → ∀ m, i < m → m < candidates.length →
        (∀ u, StartsAt config candidates given m u → t ≤ u) →
          ∃ j, i < j ∧ j ≤ m ∧ StartsAt config candidates given j t) ∧
    ∀ k t u, StartsAt config candidates given k t → StartsAt config candidates given (k + 1) u →
      u < t + config.stagger → ∃ i ≤ k, ∃ reason, FailsAt config candidates given i u reason := by
  refine ⟨raceWithin_eq_none_iff, fun _ => eq_race_of_raceWithin, ?_⟩
  by_cases hne : candidates = []
  · subst hne
    have hnone : ∀ k t, ¬ StartsAt config [] given k t := by simp [StartsAt, race]
    have hnone' : ∀ k t reason, ¬ FailsAt config [] given k t reason := by
      rintro k t reason ⟨how, ⟨start, hs, -⟩, -⟩
      exact hnone k start hs
    exact ⟨by simp [race], fun h => absurd rfl h, fun j k t u _ h => absurd h (hnone j t),
      fun k t h => absurd h (hnone k t), fun k t u h => absurd h (hnone k t),
      fun i t reason h => absurd h (hnone' i t reason), fun k t u h => absurd h (hnone k t)⟩
  obtain ⟨s, h⟩ := exists_observed config given hne
  have hlen := h.length_le
  simp only [h.startsAt_iff]
  refine ⟨h.prefix_attempts, ?_, h.timed.paced.sorted, ?_, ?_, ?_, ?_⟩
  · intro _ hpos
    obtain ⟨t, ht⟩ := State.exists_start? (h.exists_start hne hpos)
    rwa [h.timed.paced.first t (Or.inl ht)] at ht
  · intro k t ht hk hlt
    have hkl := State.lt_length_of_start? ht
    by_contra hnone
    have hk1 : k + 1 = s.attempts.length := by
      by_contra hne'
      exact hnone (State.exists_start? (by omega))
    have hw : s.waiting ≠ [] := by
      intro hw
      rw [hw, List.length_nil] at hlen
      omega
    have hgap := (h.timed.paced.gap k t s.staggerAt (Or.inl ht) (Or.inr ⟨hk1, hw, rfl⟩)).1
    exact absurd (Nat.le_trans (h.timed.clear.le_staggerAt hw) hgap) (Nat.not_le.mpr hlt)
  · intro k t u ht hu
    exact (h.timed.paced.gap k t u (Or.inl ht) (Or.inl hu)).1
  · intro i t reason hf hlt m him hm hstill
    obtain ⟨ho, hf'⟩ := h.noticed_of_failsAt hf hlt
    rw [← length_behaviours candidates given] at hm
    rcases h.timed.paced.prompt i t ho hf' m him hm with ⟨u, hut, hu⟩ | ⟨j, hij, hjm, hj⟩
    · exact absurd (hstill u hu) (Nat.not_le.mpr hut)
    · exact ⟨j, hij, hjm, h.startsAt_iff.mp (h.startsAt_of_plannedAt hj hlt)⟩
  · intro k t u ht hu hlt
    obtain ⟨i, hik, hf⟩ := (h.timed.paced.gap k t u (Or.inl ht) (Or.inl hu)).2 hlt
    exact ⟨i, hik, h.exists_failsAt hf⟩

/-- The first of two candidates breaks off at once. The other one is not started at that instant but
only when its time has come. -/
theorem race_schedule_brokenOff :
    EndsAt {} [candidateAt 1, candidateAt 2] [.breaksDown, .ends 0 (.connects none)] 0 0
        .brokeOff ∧
      0 < (race {} [candidateAt 1, candidateAt 2]
        [.breaksDown, .ends 0 (.connects none)]).elapsed ∧
      StartsAt {} [candidateAt 1, candidateAt 2] [.breaksDown, .ends 0 (.connects none)] 1 250 ∧
      ∀ k, 0 < k →
        ¬ StartsAt {} [candidateAt 1, candidateAt 2] [.breaksDown, .ends 0 (.connects none)] k 0 := by
  have hstarts : (race {} [candidateAt 1, candidateAt 2]
      [.breaksDown, .ends 0 (.connects none)]).attempts.map (·.2.start) = [0, 250] := by decide
  refine ⟨⟨0, by rw [StartsAt, hstarts]; rfl, by decide⟩, by decide,
    by rw [StartsAt, hstarts]; rfl, fun k hk hs => ?_⟩
  rw [StartsAt, hstarts] at hs
  obtain rfl | hlater : k = 1 ∨ 2 ≤ k := by omega
  · simp at hs
  · rw [List.getElem?_eq_none (by simpa using hlater)] at hs
    cases hs

end Dialer.Race
