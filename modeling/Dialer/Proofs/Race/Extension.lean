import Dialer.Proofs.Race.Outcome

/-!
# Races of more candidates

What stands behind in the list is of no concern to a race as long as someone before it still waits.
A state with more candidates behind (`State.followedBy`) goes on as the state does, action by action
(`State.next?_followedBy`, `State.act_followedBy`), until everyone of the state's own has been
started; and what was started stays started (`State.start?_runFor_of_some`). So a candidate is
started at the same instant whatever comes after it (`State.start?_runFor_followedBy`).

* `race_append`: more candidates never make a race that is won lost, nor later won.
-/

namespace Dialer.Race

namespace State

variable {config : Config} {given : List Behaviour} {now t : Instant} {s : State} {k : Nat}

/-! ### More candidates behind -/

/-- A state with more candidates behind those that wait. -/
def followedBy (s : State) (more : List Behaviour) : State :=
  { s with waiting := s.waiting ++ more }

variable (more : List Behaviour)

theorem work_followedBy : (s.followedBy more).work = s.work + 3 * more.length := by
  have hlen : (s.waiting ++ more).length = s.waiting.length + more.length := List.length_append
  change 3 * (s.waiting ++ more).length + 2 * s.attempts.countP (·.running) +
    s.unnoticed.length + (if s.deadlinePassed then 0 else 1) = s.work + 3 * more.length
  rw [hlen]
  unfold work
  omega

theorem finishIfDue_followedBy (p : Attempt × Nat) :
    finishIfDue config now (s.followedBy more) p =
      (finishIfDue config now s p).followedBy more := by
  rcases p with ⟨a, k⟩
  simp only [finishIfDue]
  rcases a.due? config with _ | ⟨t, how⟩
  · rfl
  · dsimp only
    split_ifs <;> rfl

theorem collect_followedBy : (s.followedBy more).collect now = (s.collect now).followedBy more := by
  rcases hu : s.unnoticed with _ | ⟨k, rest⟩
  · simp [State.collect, followedBy, hu]
  have hu' : (s.followedBy more).unnoticed = k :: rest := hu
  rcases hf : s.finish? k with _ | how
  · rw [collect_of_none now hu' hf, collect_of_none now hu hf]
    rfl
  · rw [collect_eq now hu' hf, collect_eq now hu hf]
    rfl

theorem passDeadline_followedBy :
    (s.followedBy more).passDeadline = s.passDeadline.followedBy more := by
  by_cases hv : s.verdict = .open <;> simp [State.passDeadline, followedBy, hv]

section Waiting

variable (hw : s.waiting ≠ [])
include hw

/-! While someone of its own waits, a state does not see who comes behind. -/

theorem ended_followedBy : (s.followedBy more).ended = s.ended := by
  have hempty : (s.waiting ++ more).isEmpty = s.waiting.isEmpty := by
    rw [List.isEmpty_eq_false_iff.mpr hw, List.isEmpty_eq_false_iff.mpr (by simp [hw])]
  simp only [ended, followedBy, hempty]
  rfl

theorem next?_followedBy : (s.followedBy more).next? config now = s.next? config now := by
  have hstart : (s.followedBy more).startAt? = s.startAt? := by
    simp [startAt?, followedBy, hw]
  simp only [next?, dueAction?, hstart]
  rfl

theorem act_followedBy (action : Action) :
    (s.followedBy more).act config now action = (s.act config now action).followedBy more := by
  cases action with
  | deadline => exact passDeadline_followedBy more
  | collect => exact collect_followedBy more
  | start =>
    obtain ⟨behaviour, rest, hw⟩ := List.exists_cons_of_ne_nil hw
    simp [act, State.startNext, followedBy, hw]
  | finish =>
    simp only [act, finishDue_eq_foldl]
    exact List.foldl_hom (followedBy · more) fun s p => finishIfDue_followedBy more p

end Waiting

/-- **A candidate is started at the same instant** whoever comes behind. -/
theorem start?_runFor_followedBy : ∀ (fuel : Nat) (now : Instant) (s : State),
    s.Timed config given now → s.work ≤ fuel → k < given.length →
      ((s.followedBy more).runFor config (fuel + 3 * more.length) now).2.start? k =
        (s.runFor config fuel now).2.start? k := by
  intro fuel
  induction fuel with
  | zero =>
    intro now s h hwork hk
    -- Nothing is left to be done, so everyone has been started.
    have hw : s.waiting.length = 0 := by unfold work at hwork; omega
    have hlen := h.length_eq
    obtain ⟨t, ht⟩ := exists_start? (s := s) (k := k) (by omega)
    rw [start?_runFor_of_some _ now s ht, start?_runFor_of_some _ now (s.followedBy more) ht]
  | succ fuel ih =>
    intro now s h hwork hk
    by_cases hw : s.waiting = []
    · have hlen := h.length_eq
      rw [hw, List.length_nil] at hlen
      obtain ⟨t, ht⟩ := exists_start? (s := s) (k := k) (by omega)
      rw [start?_runFor_of_some _ now s ht, start?_runFor_of_some _ now (s.followedBy more) ht]
    · -- Both do the same next.
      rw [show fuel + 1 + 3 * more.length = (fuel + 3 * more.length) + 1 by omega, runFor, runFor,
        ended_followedBy more hw, next?_followedBy more hw]
      rcases hended : s.ended with _ | _
      · obtain ⟨later, action, hnext⟩ :=
          exists_next? config now (h.early (live_of_not_ended hended))
        obtain ⟨hact, hlt⟩ := timed_act h hended hnext
        simp only [hnext, Bool.false_eq_true, if_false, act_followedBy more hw]
        exact ih later _ hact (by omega) hk
      · rfl

/-- In a whole race, too, it makes no difference to a candidate who comes behind. -/
theorem start?_run_append (config : Config) (hk : k < given.length) :
    (State.run config { waiting := given ++ more }).2.start? k =
      (State.run config { waiting := given }).2.start? k := by
  have hne : given ≠ [] := List.ne_nil_of_length_pos (Nat.lt_of_le_of_lt (Nat.zero_le k) hk)
  have hmore : ({ waiting := given ++ more } : State) =
    ({ waiting := given } : State).followedBy more := rfl
  rw [run, run, hmore, work_followedBy]
  exact start?_runFor_followedBy more _ 0 _ (.initial hne) (Nat.le_refl _) hk

end State

/-! ### Races -/

theorem behaviours_append (xs ys : List Candidate) (given : List Behaviour) :
    behaviours (xs ++ ys) given =
      behaviours xs given ++ behaviours ys (given.drop xs.length) := by
  simp [behaviours, List.range_add, Function.comp_def]

variable {config : Config} {xs ys : List Candidate} {given : List Behaviour} {k : Nat} {t : Instant}

theorem startsAt_append_iff (hk : k < xs.length) :
    StartsAt config (xs ++ ys) given k t ↔ StartsAt config xs given k t := by
  have hne : xs ≠ [] := List.ne_nil_of_length_pos (Nat.lt_of_le_of_lt (Nat.zero_le k) hk)
  have hne' : xs ++ ys ≠ [] := List.append_ne_nil_of_left_ne_nil hne ys
  rw [(observed_run config given hne').startsAt_iff, (observed_run config given hne).startsAt_iff,
    behaviours_append, State.start?_run_append]
  rwa [length_behaviours]

theorem endsAt_append_iff {how : Finish} (hk : k < xs.length) :
    EndsAt config (xs ++ ys) given k t how ↔ EndsAt config xs given k t how := by
  simp only [EndsAt, startsAt_append_iff hk]

/-- **More candidates never hurt.** Behaviours are given by place, and a race looks only at those of
its own candidates. If candidates are added behind others, those others are started as before and at
the same instants. If their race was won, the longer one is won, and not later; and if someone of them
wins it, at the same instant as before. -/
theorem race_append (config : Config) (xs ys : List Candidate) (given : List Behaviour) :
    (∀ k < xs.length, ∀ t,
      StartsAt config (xs ++ ys) given k t ↔ StartsAt config xs given k t) ∧
    ∀ win, (race config xs given).outcome = .ok win →
      ∃ win', (race config (xs ++ ys) given).outcome = .ok win' ∧
        (race config (xs ++ ys) given).elapsed ≤ (race config xs given).elapsed ∧
        (win'.report.winner < xs.length →
          (race config (xs ++ ys) given).elapsed = (race config xs given).elapsed ∧
          EndsAt config (xs ++ ys) given win'.report.winner (race config xs given).elapsed
            (.ownEnding (.connects win'.localAddress))) := by
  refine ⟨fun k hk t => startsAt_append_iff hk, fun win hok => ?_⟩
  have hne : xs ≠ [] := by
    rintro rfl
    cases hok
  have h := observed_run config given hne
  have h' := observed_run config given (List.append_ne_nil_of_left_ne_nil hne ys)
  obtain ⟨hwinner, hlt, how, he, hc⟩ := h.succeedsAt_of_ok hok
  -- Who won the race of the first is started then in the other, too, so that comes to a session.
  have hs : SucceedsAt config (xs ++ ys) given win.report.winner
      (race config xs given).elapsed := ⟨how, (endsAt_append_iff hwinner).mpr he, hc⟩
  have hle := h'.elapsed_le_of_succeedsAt hs
  obtain ⟨win', hok', he'⟩ := h'.exists_ok_of_succeedsAt hs hlt
  refine ⟨win', hok', hle, fun hmine => ?_⟩
  have hge := h.elapsed_le_of_succeedsAt ⟨_, (endsAt_append_iff hmine).mp he', rfl⟩
  have hsame := Nat.le_antisymm hle hge
  exact ⟨hsame, hsame ▸ he'⟩

end Dialer.Race
