import Dialer.Proofs.Race.Clock
import Dialer.Proofs.Race.Coherence

/-!
# The pace of a race

`State.Paced` says when candidates are started: each at most a stagger delay after the one before,
earlier only at an instant at which an attempt fails with a reason, and for every such failure that
was noticed there is a start at that very instant. It speaks of `PlannedAt`, which counts the next
candidate as started when it is due, so that the one stagger timer and the starts are spoken of alike.
-/

namespace Dialer.Race.State

variable {config : Config} {now t : Instant} {s : State} {i j k : Nat} {how : Finish}

/-- The attempt for candidate `k` fails with a reason at an instant if it is left to itself. -/
def FailsAt (config : Config) (s : State) (k : Nat) (t : Instant) : Prop :=
  ∃ how reason, s.ending? config k = some (t, how) ∧ how.reason? = some reason

/-- Candidate `k` was started at an instant, or is the next and due then. -/
def PlannedAt (s : State) (k : Nat) (t : Instant) : Prop :=
  s.start? k = some t ∨ k = s.attempts.length ∧ s.waiting ≠ [] ∧ t = s.staggerAt

theorem PlannedAt.le_length (h : s.PlannedAt k t) : k ≤ s.attempts.length := by
  rcases h with h | ⟨rfl, -, -⟩
  · exact Nat.le_of_lt (lt_length_of_start? h)
  · exact Nat.le_refl _

/-! ### Plans and failures when a candidate is started -/

section StartNext

variable {behaviour : Behaviour} {rest : List Behaviour} (hw : s.waiting = behaviour :: rest)
include hw

theorem PlannedAt.startNext (h : s.PlannedAt k t) :
    (s.startNext config s.staggerAt).PlannedAt k t := by
  rcases h with ht | ⟨rfl, -, rfl⟩
  · have := lt_length_of_start? ht
    exact Or.inl (by rw [start?_startNext_of_ne hw (by omega), ht])
  · exact Or.inl (start?_startNext_self hw)

theorem plannedAt_of_startNext (h : (s.startNext config s.staggerAt).PlannedAt k t) :
    s.PlannedAt k t ∨ k = s.attempts.length + 1 ∧ t = s.staggerAt + config.stagger := by
  rcases h with ht | ⟨rfl, -, rfl⟩
  · by_cases hk : k = s.attempts.length
    · subst hk
      rw [start?_startNext_self hw] at ht
      cases ht
      exact Or.inl (Or.inr ⟨rfl, by simp [hw], rfl⟩)
    · exact Or.inl (Or.inl (by rwa [start?_startNext_of_ne hw hk] at ht))
  · exact Or.inr (by simp [startNext_eq config s.staggerAt hw])

theorem failsAt_startNext (hk : k < s.attempts.length) :
    (s.startNext config now).FailsAt config k t ↔ s.FailsAt config k t := by
  rw [FailsAt, FailsAt, ending?_startNext_of_lt hw hk]

end StartNext

/-! ### The invariant -/

/-- **The pace of a race of `n` candidates.** -/
structure Paced (config : Config) (n : Nat) (s : State) : Prop where
  first : ∀ t, s.PlannedAt 0 t → t = 0
  sorted : ∀ j k t u, j ≤ k → s.start? j = some t → s.start? k = some u → t ≤ u
  gap : ∀ k t u, s.PlannedAt k t → s.PlannedAt (k + 1) u →
    u ≤ t + config.stagger ∧ (u < t + config.stagger → ∃ i ≤ k, s.FailsAt config i u)
  /-- A noticed failure starts the first candidate behind that was not started before. -/
  prompt : ∀ i t, s.notice? i ≠ none → s.FailsAt config i t → ∀ m, i < m → m < n →
    (∃ u < t, s.start? m = some u) ∨ ∃ j, i < j ∧ j ≤ m ∧ s.PlannedAt j t

namespace Paced

variable {n : Nat}

theorem initial (given : List Behaviour) : Paced config n { waiting := given } where
  first := by simp [PlannedAt, start?]
  sorted := by simp [start?]
  gap := by simp [PlannedAt, start?]
  prompt := by simp [notice?]

theorem congr {s' : State} (h : s.Paced config n) (hstart : ∀ k, s'.start? k = s.start? k)
    (hend : ∀ k, s'.ending? config k = s.ending? config k)
    (hout : ∀ k, s'.notice? k = s.notice? k)
    (hlen : s'.attempts.length = s.attempts.length) (hw : s'.waiting = s.waiting)
    (hst : s'.staggerAt = s.staggerAt) : s'.Paced config n := by
  have hplan : s'.PlannedAt = s.PlannedAt := by
    funext k t; simp only [PlannedAt, hstart, hlen, hw, hst]
  have hfail : s'.FailsAt config = s.FailsAt config := by
    funext k t; simp only [FailsAt, hend]
  constructor
  · simpa only [hplan] using h.first
  · simpa only [hstart] using h.sorted
  · simpa only [hplan, hfail] using h.gap
  · simpa only [hplan, hfail, hstart, hout] using h.prompt

theorem finish (h : s.Paced config n) : (s.finish k how).Paced config n :=
  h.congr (by simp) (by simp) (by simp) (by simp) (by simp) (by simp)

theorem passDeadline (h : s.Paced config n) : s.passDeadline.Paced config n :=
  h.congr (by simp) (by simp) (by simp) (by simp) (by simp) (by simp)

theorem startNext (h : s.Paced config n) (hw : s.waiting ≠ [])
    (hle : ∀ k t, s.start? k = some t → t ≤ s.staggerAt) :
    (s.startNext config s.staggerAt).Paced config n := by
  obtain ⟨behaviour, rest, hw⟩ := List.exists_cons_of_ne_nil hw
  have hself : (s.startNext config s.staggerAt).start? s.attempts.length = some s.staggerAt :=
    start?_startNext_self hw
  have hne : ∀ {j}, j ≠ s.attempts.length →
      (s.startNext config s.staggerAt).start? j = s.start? j := start?_startNext_of_ne hw
  constructor
  · intro t ht
    rcases plannedAt_of_startNext hw ht with ht | ⟨h0, -⟩
    · exact h.first t ht
    · cases h0
  · intro j k t u hjk ht hu
    by_cases hk : k = s.attempts.length
    · subst hk
      rw [hself] at hu
      cases hu
      by_cases hj : j = s.attempts.length
      · subst hj
        rw [hself] at ht
        cases ht
        exact Nat.le_refl _
      · exact hle j t (by rwa [hne hj] at ht)
    · rw [hne hk] at hu
      have := lt_length_of_start? hu
      exact h.sorted j k t u hjk (by rwa [hne (by omega)] at ht) hu
  · intro k t u ht hu
    rcases plannedAt_of_startNext hw hu with hu | ⟨hk, rfl⟩
    · have hk := hu.le_length
      rcases plannedAt_of_startNext hw ht with ht | ⟨rfl, -⟩
      · obtain ⟨hle', hearly⟩ := h.gap k t u ht hu
        refine ⟨hle', fun hlt => ?_⟩
        obtain ⟨i, hi, hf⟩ := hearly hlt
        exact ⟨i, hi, (failsAt_startNext hw (by omega)).mpr hf⟩
      · omega
    · -- The candidate after the new one is planned a whole stagger delay after it.
      obtain rfl : k = s.attempts.length := by omega
      rcases ht with ht | ⟨hk, -, -⟩
      · rw [hself] at ht
        cases ht
        exact ⟨Nat.le_refl _, fun hlt => absurd hlt (Nat.lt_irrefl _)⟩
      · simp [startNext_eq config s.staggerAt hw] at hk
  · intro i t ho hf m him hm
    rw [notice?_startNext] at ho
    obtain ⟨o, ho'⟩ := Option.ne_none_iff_exists'.mp ho
    have hf' := (failsAt_startNext hw (lt_length_of_notice? ho')).mp hf
    rcases h.prompt i t ho hf' m him hm with ⟨u, hut, hu⟩ | ⟨j, hij, hjm, hj⟩
    · have := lt_length_of_start? hu
      exact Or.inl ⟨u, hut, by rw [hne (by omega), hu]⟩
    · exact Or.inr ⟨j, hij, hjm, hj.startNext hw⟩

section Collect

variable {rest : List Nat} (h : s.Paced config n) (hu : s.unnoticed = k :: rest)
  (hf : s.finish? k = some how) (he : s.ending? config k = some (now, how))
include h hu hf he

/-- What is not a failure with a reason leaves the timer alone and starts no one. -/
theorem collect_of_no_reason (hr : how.reason? = none) : (s.collect now).Paced config n := by
  have heq := collect_eq now hu hf
  have hplan : (s.collect now).PlannedAt = s.PlannedAt := by
    funext j t
    simp only [PlannedAt, start?_collect hu hf]
    rw [heq, hr, if_neg (by simp), List.length_modify]
  have hfail : (s.collect now).FailsAt config = s.FailsAt config := by
    funext i t; simp only [FailsAt, ending?_collect hu hf]
  constructor
  · simpa only [hplan] using h.first
  · simpa only [start?_collect hu hf] using h.sorted
  · simpa only [hplan, hfail] using h.gap
  · intro i t ho hfi m him hm
    simp only [hplan, hfail, start?_collect hu hf] at hfi ⊢
    by_cases hik : i = k
    · subst hik
      obtain ⟨how', reason, he', hr'⟩ := hfi
      rw [he] at he'
      cases he'
      rw [hr] at hr'
      cases hr'
    · exact h.prompt i t (by rwa [notice?_collect_of_ne hu hf hik] at ho) hfi m him hm

/-- A failure makes the next candidate due at once. -/
theorem collect_of_failed {reason : AttemptFailure} (hr : how.reason? = some reason)
    (hn : n = s.attempts.length + s.waiting.length) (hst : s.waiting ≠ [] → now ≤ s.staggerAt)
    (hle : ∀ k t, s.start? k = some t → t ≤ now)
    (hend : ∀ i t, s.notice? i ≠ none → s.FailsAt config i t → t ≤ now) :
    (s.collect now).Paced config n := by
  have hkl : k < s.attempts.length := lt_length_of_finish? hf
  have hk : s.FailsAt config k now := ⟨how, reason, he, hr⟩
  have hplan : ∀ {j t}, (s.collect now).PlannedAt j t ↔
      s.start? j = some t ∨ j = s.attempts.length ∧ s.waiting ≠ [] ∧ t = now := by
    intro j t
    simp only [PlannedAt, start?_collect hu hf]
    simp [collect_eq now hu hf, hr]
  have hfail : (s.collect now).FailsAt config = s.FailsAt config := by
    funext i t; simp only [FailsAt, ending?_collect hu hf]
  constructor
  · intro t ht
    rcases hplan.mp ht with ht | ⟨h0, -, -⟩
    · exact h.first t (Or.inl ht)
    · omega
  · simpa only [start?_collect hu hf] using h.sorted
  · intro j t u ht hu'
    rw [hfail]
    rcases hplan.mp ht with hs | ⟨hj, -, -⟩
    · rcases hplan.mp hu' with hs' | ⟨hj, hw, rfl⟩
      · exact h.gap j t u (Or.inl hs) (Or.inl hs')
      · have hgap := (h.gap j t s.staggerAt (Or.inl hs) (Or.inr ⟨hj, hw, rfl⟩)).1
        exact ⟨Nat.le_trans (hst hw) hgap, fun _ => ⟨k, by omega, hk⟩⟩
    · -- No candidate after the next one is planned.
      rcases hplan.mp hu' with hs' | ⟨hj', -, -⟩
      · have := lt_length_of_start? hs'
        omega
      · omega
  · intro i t ho hfi m him hm
    rw [hfail] at hfi
    simp only [start?_collect hu hf]
    by_cases hik : i = k
    · subst hik
      obtain ⟨how', reason', he', -⟩ := hfi
      rw [he] at he'
      cases he'
      by_cases hml : m < s.attempts.length
      · obtain ⟨u, hu'⟩ := exists_start? hml
        rcases Nat.lt_or_eq_of_le (hle m u hu') with hlt | rfl
        · exact Or.inl ⟨u, hlt, hu'⟩
        · exact Or.inr ⟨m, him, Nat.le_refl _, hplan.mpr (Or.inl hu')⟩
      · have hw : s.waiting ≠ [] := by
          intro hnil
          simp only [hnil, List.length_nil] at hn
          omega
        exact Or.inr ⟨s.attempts.length, hkl, by omega, hplan.mpr (Or.inr ⟨rfl, hw, rfl⟩)⟩
    · -- A plan made for an earlier failure is for no later than now, and the timer for no earlier.
      have ho' : s.notice? i ≠ none := by rwa [notice?_collect_of_ne hu hf hik] at ho
      rcases h.prompt i t ho' hfi m him hm with hlt | ⟨j, hij, hjm, hj⟩
      · exact Or.inl hlt
      · refine Or.inr ⟨j, hij, hjm, hplan.mpr ?_⟩
        rcases hj with hj | ⟨hj, hw, rfl⟩
        · exact Or.inl hj
        · exact Or.inr ⟨hj, hw, Nat.le_antisymm (hend i _ ho' hfi) (hst hw)⟩

end Collect

end Paced

end Dialer.Race.State
