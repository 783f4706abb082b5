import Dialer.Proofs.Race.Overflow
import Mathlib.Order.Bounds.Basic

/-!
# What a race comes to

`race_outcome`: a race is won at the first success if that comes before the deadline, and is lost at
the deadline or as soon as every candidate has failed. `race_report`: what it says of each candidate
is what became of the attempt for that candidate.
-/

namespace Dialer.Race

variable {config : Config} {candidates : List Candidate} {given : List Behaviour} {k : Nat}
  {t : Instant} {s : State}

namespace Observed

variable (h : Observed config candidates given s)
include h

/-! ### Ends before and after the end of the race -/

theorem notice?_of_lt {how : Finish} (he : s.ending? config k = some (t, how))
    (hlt : t < (race config candidates given).elapsed) :
    s.notice? k = some (s.noticeOf k how) := by
  have hf := h.timed.finish?_of_lt he hlt
  rcases ho : s.notice? k with _ | o
  · rw [h.timed.recent k how hf (Or.inl ho)] at he
    cases he
    exact absurd hlt (Nat.lt_irrefl _)
  · obtain ⟨how', hf', rfl⟩ := h.timed.coherent.noticed k o ho
    rw [hf] at hf'
    cases hf'
    rfl

theorem elapsed_le_of_succeedsAt (hs : SucceedsAt config candidates given k t) :
    (race config candidates given).elapsed ≤ t := by
  obtain ⟨how, he, hc⟩ := h.succeedsAt_iff.mp hs
  by_contra hlt
  have hf := h.timed.finish?_of_lt he (Nat.not_le.mp hlt)
  rw [h.timed.recent k how hf (Or.inr hc)] at he
  cases he
  exact hlt (Nat.le_refl _)

theorem live_of_open (hv : s.verdict = .open) : s.live = true := by
  by_contra hl
  rw [Bool.not_eq_true, h.timed.coherent.live_eq_false] at hl
  rcases hl with hl | ⟨k, hl, -⟩ <;> rw [hv] at hl <;> cases hl

theorem noticed_of_open (hv : s.verdict = .open) : ∀ k < s.attempts.length, s.notice? k ≠ none :=
  ((State.ended_iff (h.live_of_open hv) (h.timed.early (h.live_of_open hv))).mp h.ended).2

theorem elapsed_le_of_allFailedBy (hall : AllFailedBy config candidates given t) :
    (race config candidates given).elapsed ≤ t := by
  have hlen := h.length_le
  have hends : ∀ k < s.attempts.length, ∃ e ≤ t, ∃ how, s.ending? config k = some (e, how) ∧
      how.connected = false := by
    intro k hk
    obtain ⟨e, hle, how, he, hc⟩ := hall k (by omega)
    exact ⟨e, hle, how, h.endsAt_iff.mp he, hc⟩
  rcases h.timed.ways_to_end h.ended with ⟨hv, -, -⟩ | ⟨k, how, -, -, hc, hf, he⟩ | ⟨hv, -, -, -⟩
  · -- A candidate that the deadline left unsettled was not started, or ends after it.
    obtain ⟨-, -, hleft⟩ := h.timed.late hv
    have hw : s.waiting = [] := by
      rw [← List.length_eq_zero_iff]
      by_contra hpos
      obtain ⟨e, -, how, he, -⟩ := hall s.attempts.length (by omega)
      obtain ⟨u, hu⟩ := State.exists_start?_of_ending? (h.endsAt_iff.mp he)
      exact absurd (State.lt_length_of_start? hu) (Nat.lt_irrefl _)
    obtain ⟨k, hk, hnone⟩ := hleft hw
    obtain ⟨e, hle, how, he, -⟩ := hends k hk
    refine Nat.le_trans ?_ hle
    by_contra hlt
    rw [h.notice?_of_lt he (Nat.not_le.mp hlt)] at hnone
    cases hnone
  · obtain ⟨e, -, how', he', hc'⟩ := hends k (State.lt_length_of_finish? hf)
    rw [he] at he'
    cases he'
    rw [hc] at hc'
    cases hc'
  · obtain ⟨k, how, he⟩ := h.timed.exhausted (h.live_of_open hv) h.ended
    obtain ⟨u, hu⟩ := State.exists_start?_of_ending? he
    obtain ⟨e, hle, how', he', -⟩ := hends k (State.lt_length_of_start? hu)
    rw [he] at he'
    cases he'
    exact hle

theorem allFailedBy_elapsed (hw : s.waiting = [])
    (hall : ∀ k < s.attempts.length, ∃ how, s.finish? k = some how ∧ how.connected = false) :
    AllFailedBy config candidates given (race config candidates given).elapsed := by
  intro k hk
  have hlen := h.length_le
  rw [hw, List.length_nil, Nat.add_zero] at hlen
  obtain ⟨how, hf, hc⟩ := hall k (by omega)
  obtain ⟨e, hle, -, he⟩ := h.timed.ended k how hf
  exact ⟨e, hle, how, h.endsAt_iff.mpr he, hc⟩

/-- A race in which someone comes to a session before the deadline is won, and when it is over the
winner comes to its session. -/
theorem exists_ok_of_succeedsAt (hs : SucceedsAt config candidates given k t)
    (hlt : t < config.deadline) :
    ∃ win, (race config candidates given).outcome = .ok win ∧
      EndsAt config candidates given win.report.winner (race config candidates given).elapsed
        (.ownEnding (.connects win.localAddress)) := by
  obtain ⟨how, he, hc⟩ := h.succeedsAt_iff.mp hs
  rcases h.timed.ways_to_end h.ended with
    ⟨-, hnow, hfin⟩ | ⟨j, how', -, ho, hc', hf, he'⟩ | ⟨-, -, -, hall⟩
  · have hf := h.timed.finish?_of_lt he (hnow ▸ hlt)
    rw [hfin k how hf] at hc
    cases hc
  · obtain ⟨candidate, -, hout⟩ := h.outcome_of_won ho
    obtain ⟨address, rfl⟩ := Finish.connected_iff.mp hc'
    refine ⟨_, hout, ?_⟩
    rw [h.endsAt_iff, he']
    simp only [State.finish?] at hf
    simp [State.sessionAddress, hf]
  · obtain ⟨u, hu⟩ := State.exists_start?_of_ending? he
    obtain ⟨how', hf, hc'⟩ := hall k (State.lt_length_of_start? hu)
    rw [(h.timed.ending?_eq hf he).1, hc] at hc'
    cases hc'

end Observed

/-! ### The outcome -/

/-- A candidate at a port of some host. -/
def candidateAt (port : UInt16) : Candidate :=
  { address := { ip := .v4 #v[10, 0, 0, 1], port }, stack := .tcp }

/-- The first attempt is refused, the second is not. -/
def refusedThenMet : List Behaviour := [.ends 10 (.fails .refused), .ends 20 (.connects none)]

/-- **What a race comes to, and when.** It comes to nothing if the clock ends before the next start
can be told. If it does not, and a success comes before the deadline, the race is won at the first
success, by an attempt that succeeds then. If none comes up to the deadline, it is lost at the
deadline or when every candidate has failed, whichever is earlier. -/
theorem race_outcome (last : Instant) (hne : candidates ≠ []) :
    (raceWithin last config candidates given = none ↔
      ∃ k t, StartsAt config candidates given k t ∧ last < t + config.stagger) ∧
    (∀ result, raceWithin last config candidates given = some result →
      result = race config candidates given) ∧
    ((∃ k, ∃ t < config.deadline, SucceedsAt config candidates given k t) →
      ∃ win, (race config candidates given).outcome = .ok win ∧
        EndsAt config candidates given win.report.winner (race config candidates given).elapsed
          (.ownEnding (.connects win.localAddress)) ∧
        ∀ k t, SucceedsAt config candidates given k t →
          (race config candidates given).elapsed ≤ t) ∧
    ((∀ k t, SucceedsAt config candidates given k t → config.deadline < t) →
      (∃ failures, (race config candidates given).outcome = .error (.allFailed failures)) ∧
        IsLeast {t | t = config.deadline ∨ AllFailedBy config candidates given t}
          (race config candidates given).elapsed) ∧
    (race config candidates given).elapsed ≤ config.deadline ∧
    (∀ k t, StartsAt config candidates given k t → t < config.deadline) ∧
    (config.deadline = 0 → (race config candidates given).attempts = []) ∧
    ∀ t, AllFailedBy config candidates given t → (race config candidates given).elapsed ≤ t := by
  obtain ⟨s, h⟩ := exists_observed config given hne
  have hstart : ∀ k t, StartsAt config candidates given k t → t < config.deadline :=
    fun k t hs => (h.timed.started k t (h.startsAt_iff.mp hs)).2
  refine ⟨raceWithin_eq_none_iff, fun _ => eq_race_of_raceWithin, ?_, ?_,
    h.timed.clear.le_deadline, hstart, ?_, fun t => h.elapsed_le_of_allFailedBy⟩
  · rintro ⟨k, t, hlt, hs⟩
    obtain ⟨win, hout, hwin⟩ := h.exists_ok_of_succeedsAt hs hlt
    exact ⟨win, hout, hwin, fun k t => h.elapsed_le_of_succeedsAt⟩
  · intro hnone
    have hlow : (race config candidates given).elapsed ∈
        lowerBounds {t | t = config.deadline ∨ AllFailedBy config candidates given t} := by
      rintro t (rfl | hall)
      · exact h.timed.clear.le_deadline
      · exact h.elapsed_le_of_allFailedBy hall
    rcases h.timed.ways_to_end h.ended with
      ⟨hv, hnow, -⟩ | ⟨j, how', -, -, hc, -, he⟩ | ⟨hv, -, hw, hall⟩
    · exact ⟨⟨_, h.outcome_of_lost (by simp [hv])⟩, Or.inl hnow, hlow⟩
    · exact absurd h.timed.clear.le_deadline
        (Nat.not_le.mpr (hnone j _ (h.succeedsAt_iff.mpr ⟨how', he, hc⟩)))
    · exact ⟨⟨_, h.outcome_of_lost (by simp [hv])⟩,
        Or.inr (h.allFailedBy_elapsed hw hall), hlow⟩
  · intro hzero
    by_contra hsome
    obtain ⟨p, l, hl⟩ := List.exists_cons_of_ne_nil hsome
    have := hstart 0 p.2.start (by rw [StartsAt, hl]; rfl)
    rw [hzero] at this
    exact absurd this (Nat.not_lt_zero _)

/-- The first of two candidates is refused after 10 ms; the second is started at once and wins 20 ms
later, well before the clock ends. -/
theorem race_outcome_of_two :
    [candidateAt 1, candidateAt 2] ≠ [] ∧
      raceWithin clockEnd {} [candidateAt 1, candidateAt 2] refusedThenMet ≠ none ∧
      SucceedsAt {} [candidateAt 1, candidateAt 2] refusedThenMet 1 30 ∧
      ∃ win, (race {} [candidateAt 1, candidateAt 2] refusedThenMet).outcome = .ok win ∧
        (race {} [candidateAt 1, candidateAt 2] refusedThenMet).elapsed ≤ 30 := by
  have hs : SucceedsAt {} [candidateAt 1, candidateAt 2] refusedThenMet 1 30 :=
    ⟨.ownEnding (.connects none), ⟨10, by unfold StartsAt; decide, by decide⟩, rfl⟩
  have hne : [candidateAt 1, candidateAt 2] ≠ [] := by decide
  obtain ⟨hnone, -, hwon, -, -, hstart, -⟩ := @race_outcome {} _ refusedThenMet clockEnd hne
  obtain ⟨win, hok, -, hleast⟩ := hwon ⟨1, 30, by decide, hs⟩
  refine ⟨hne, ?_, hs, win, hok, hleast 1 30 hs⟩
  rw [Ne, hnone]
  rintro ⟨k, t, ht, hlt⟩
  have hdeadline : t < 10000 := hstart k t ht
  exact absurd hlt (Nat.not_lt.mpr (Nat.le_trans (Nat.add_le_add_right (Nat.le_of_lt hdeadline) 250)
    (by decide)))

/-- A single candidate that connects at once, raced with a delay of nearly `2 ^ 64` seconds, beyond
the end of the clock: no one waits for the delay, and still there is no result. -/
theorem race_outcome_beyondClock :
    SucceedsAt { stagger := 18446744073709551615999 } [candidateAt 1] [.ends 0 (.connects none)]
        0 0 ∧
      raceWithin clockEnd { stagger := 18446744073709551615999 } [candidateAt 1]
        [.ends 0 (.connects none)] = none := by
  have hs : StartsAt { stagger := 18446744073709551615999 } [candidateAt 1]
      [.ends 0 (.connects none)] 0 0 := by unfold StartsAt; decide
  exact ⟨⟨.ownEnding (.connects none), ⟨0, hs, by decide⟩, rfl⟩,
    raceWithin_eq_none_iff.mpr ⟨0, 0, hs, by decide⟩⟩

/-! ### The report -/

theorem settle_eq_won_iff {filler : Outcome} {o : Option Notice} (hfiller : filler ≠ .won) :
    settle filler o = .won ↔ o = some .won := by
  rcases o with _ | (_ | reason | _ | _) <;> simp [settle, hfiller]

theorem settle_cancelled_eq_failed_iff {reason : AttemptFailure} {o : Option Notice} :
    settle .cancelled o = .failed reason ↔ o = some (.failed reason) := by
  rcases o with _ | (_ | own | _ | _) <;> simp [settle]

namespace Observed

variable (h : Observed config candidates given s)
include h

theorem failsAt_of_notice? {reason : AttemptFailure} (ho : s.notice? k = some (.failed reason)) :
    ∃ e, e ≤ (race config candidates given).elapsed ∧ e < config.deadline ∧
      FailsAt config candidates given k e reason := by
  obtain ⟨how, hf, heq⟩ := h.timed.coherent.noticed k _ ho
  obtain ⟨e, hle, hlt, he⟩ := h.timed.ended k how hf
  refine ⟨e, hle, hlt, h.failsAt_iff.mpr ⟨how, he, ?_⟩⟩
  rcases hr : how.reason? with _ | own
  · simp only [State.noticeOf, hr] at heq
    split_ifs at heq
  · rw [State.noticeOf_of_reason hr] at heq
    cases heq
    rfl

theorem notice?_of_failsAt {reason : AttemptFailure}
    (hf : FailsAt config candidates given k t reason)
    (hlt : t < (race config candidates given).elapsed) : s.notice? k = some (.failed reason) := by
  obtain ⟨how, he, hr⟩ := h.failsAt_iff.mp hf
  rw [h.notice?_of_lt he hlt, State.noticeOf_of_reason hr]

theorem length_attempts : (race config candidates given).attempts.length = s.attempts.length := by
  have hlen := h.length_le
  rw [h.attempts, List.length_zip]
  omega

theorem exists_of_ok {win : Win} (hok : (race config candidates given).outcome = .ok win) :
    ∃ k, s.verdict = .wonBy k ∧ s.notice? k = some .won ∧ candidates[k]? = some win.candidate ∧
      win.report = ⟨k, s.attempts.length, s.outcomes candidates.length .cancelled⟩ := by
  rcases h.timed.ways_to_end h.ended with ⟨hv, -⟩ | ⟨k, how, hv, ho, -⟩ | ⟨hv, -⟩
  · rw [h.outcome_of_lost (by simp [hv])] at hok
    cases hok
  · obtain ⟨candidate, hc, hout⟩ := h.outcome_of_won ho
    rw [hout] at hok
    cases hok
    exact ⟨k, hv, ho, hc, rfl⟩
  · rw [h.outcome_of_lost (by simp [hv])] at hok
    cases hok

theorem succeedsAt_of_ok {win : Win} (hok : (race config candidates given).outcome = .ok win) :
    win.report.winner < candidates.length ∧
      (race config candidates given).elapsed < config.deadline ∧
      SucceedsAt config candidates given win.report.winner
        (race config candidates given).elapsed := by
  obtain ⟨k, -, ho, hk, hrep⟩ := h.exists_of_ok hok
  obtain ⟨how, hf, hwon⟩ := h.timed.coherent.noticed k _ ho
  have hc := (State.noticeOf_eq_won_iff.mp hwon.symm).1
  have he := h.timed.recent k how hf (Or.inr hc)
  rw [hrep]
  exact ⟨(List.getElem?_eq_some_iff.mp hk).1, (h.timed.ending?_eq hf he).2.2,
    h.succeedsAt_iff.mpr ⟨how, he, hc⟩⟩

theorem exists_of_allFailed {failures : List FailedCandidate}
    (herr : (race config candidates given).outcome = .error (.allFailed failures)) :
    (∀ k, s.verdict ≠ .wonBy k) ∧ failures = candidates.zipWith FailedCandidate.mk
      ((s.outcomes candidates.length
        (if s.verdict = .outOfTime then .failed .timedOut else .cancelled)).map
          (·.failureReason)) := by
  have hv : ∀ k, s.verdict ≠ .wonBy k := by
    rcases h.timed.ways_to_end h.ended with ⟨hv, -⟩ | ⟨k, how, -, ho, -⟩ | ⟨hv, -⟩
    · simp [hv]
    · obtain ⟨candidate, -, hout⟩ := h.outcome_of_won ho
      rw [hout] at herr
      cases herr
    · simp [hv]
  refine ⟨hv, ?_⟩
  rw [h.outcome_of_lost hv] at herr
  cases herr
  rfl

end Observed

/-- In a race that was lost a candidate was noticed to have failed, or it gets what those get of whom
nothing was noticed; if something was, it broke off. -/
theorem Observed.settled_of_lost (h : Observed config candidates given s)
    (hv : ∀ k, s.verdict ≠ .wonBy k) (k : Nat) :
    (∃ reason, s.notice? k = some (.failed reason)) ∨
      (∀ reason, s.notice? k ≠ some (.failed reason)) ∧
      (∀ filler, settle filler (s.notice? k) = filler) ∧
      (s.notice? k ≠ none → ∃ t ≤ (race config candidates given).elapsed,
        EndsAt config candidates given k t .brokeOff) := by
  rcases ho : s.notice? k with _ | o
  · exact Or.inr ⟨by simp, fun _ => rfl, fun hne => absurd rfl hne⟩
  obtain ⟨how, hf, rfl⟩ := h.timed.coherent.noticed k o ho
  have hc : how.connected = false := by
    rcases hverdict : s.verdict with _ | j | _
    · exact h.timed.coherent.undecided hverdict k how hf
    · exact absurd hverdict (hv j)
    · exact (h.timed.late hverdict).2.1 k how hf
  rcases Finish.connected_eq_false_iff.mp hc with ⟨reason, hr⟩ | rfl
  · exact Or.inl ⟨reason, by rw [State.noticeOf_of_reason hr]⟩
  · obtain ⟨t, hle, -, he⟩ := h.timed.ended k _ hf
    exact Or.inr ⟨by simp [State.noticeOf, Finish.reason?, Finish.connected], fun _ => rfl,
      fun _ => ⟨t, hle, h.endsAt_iff.mpr he⟩⟩

theorem map_zipWith_mk : ∀ {cs : List Candidate} {rs : List AttemptFailure}, cs.length = rs.length →
    (cs.zipWith FailedCandidate.mk rs).map (·.candidate) = cs ∧
      (cs.zipWith FailedCandidate.mk rs).map (·.reason) = rs
  | [], [], _ => ⟨rfl, rfl⟩
  | c :: cs, r :: rs, h => by
    obtain ⟨h1, h2⟩ := map_zipWith_mk (Nat.succ.inj h)
    simp [h1, h2]

namespace Observed

variable (h : Observed config candidates given s)
include h

theorem report_of_ok {win : Win} (hok : (race config candidates given).outcome = .ok win) :
    win.report.outcomes.length = candidates.length ∧
      candidates[win.report.winner]? = some win.candidate ∧
      win.report.started = s.attempts.length ∧ win.report.winner < win.report.started ∧
      (∀ k, win.report.outcomes[k]? = some .won ↔ k = win.report.winner) ∧
      ∀ k < candidates.length,
        win.report.outcomes[k]? = some (settle .cancelled (s.notice? k)) := by
  obtain ⟨k, hv, ho, hc, hrep⟩ := h.exists_of_ok hok
  have hlen := h.length_le
  have hks := State.lt_length_of_notice? ho
  rw [hrep]
  refine ⟨State.length_outcomes, hc, rfl, hks, fun j => ⟨fun hwon => ?_, ?_⟩,
    fun j hj => State.getElem?_outcomes hj⟩
  · have hj := (List.getElem?_eq_some_iff.mp hwon).1
    rw [State.length_outcomes] at hj
    rw [State.getElem?_outcomes hj] at hwon
    have hnotice := (settle_eq_won_iff (by simp)).mp (Option.some.inj hwon)
    have hvj := h.timed.coherent.verdict_of_won hnotice
    rw [hv] at hvj
    exact (Verdict.wonBy.inj hvj).symm
  · rintro rfl
    rw [State.getElem?_outcomes (by omega), ho]
    rfl

theorem failsAt_of_ok {win : Win} (hok : (race config candidates given).outcome = .ok win)
    {reason : AttemptFailure} (hk : win.report.outcomes[k]? = some (.failed reason)) :
    ∃ t ≤ (race config candidates given).elapsed, FailsAt config candidates given k t reason := by
  obtain ⟨hlen, -, -, -, -, hget⟩ := h.report_of_ok hok
  rw [hget k (hlen ▸ (List.getElem?_eq_some_iff.mp hk).1)] at hk
  have hnotice := settle_cancelled_eq_failed_iff.mp (Option.some.inj hk)
  obtain ⟨t, hle, -, hf⟩ := h.failsAt_of_notice? hnotice
  exact ⟨t, hle, hf⟩

/-- Who neither won nor failed by the end of a race that was won was cancelled. -/
theorem cancelled_of_ok {win : Win} (hok : (race config candidates given).outcome = .ok win)
    (hk : k < candidates.length) (hne : k ≠ win.report.winner)
    (hlate : ∀ t reason, FailsAt config candidates given k t reason →
      (race config candidates given).elapsed < t) :
    win.report.outcomes[k]? = some .cancelled := by
  obtain ⟨-, -, -, -, hwon, hget⟩ := h.report_of_ok hok
  rcases ho : s.notice? k with _ | (_ | reason | _ | _)
  · rw [hget k hk, ho]; rfl
  · exact absurd ((hwon k).mp (by rw [hget k hk, ho]; rfl)) hne
  · obtain ⟨t, hle, -, hf⟩ := h.failsAt_of_notice? ho
    exact absurd hle (Nat.not_le.mpr (hlate t reason hf))
  · rw [hget k hk, ho]; rfl
  · rw [hget k hk, ho]; rfl

theorem report_of_allFailed {failures : List FailedCandidate}
    (herr : (race config candidates given).outcome = .error (.allFailed failures)) :
    failures.map (·.candidate) = candidates ∧
      (failures.map (·.reason)).length = candidates.length ∧
      ∀ k < candidates.length, (failures.map (·.reason))[k]? = some (settle
        (if s.verdict = .outOfTime then .failed .timedOut else .cancelled)
          (s.notice? k)).failureReason := by
  obtain ⟨hv, rfl⟩ := h.exists_of_allFailed herr
  have hsame : candidates.length = ((s.outcomes candidates.length
      (if s.verdict = .outOfTime then .failed .timedOut else .cancelled)).map
        (·.failureReason)).length := by
    rw [List.length_map, State.length_outcomes]
  obtain ⟨hcand, hreason⟩ := map_zipWith_mk hsame
  refine ⟨hcand, ?_, fun k hk => ?_⟩
  · rw [hreason, List.length_map, State.length_outcomes]
  · rw [hreason, List.getElem?_map, State.getElem?_outcomes hk]
    rfl

/-- The ways to lose: out of time, or with every candidate started and noticed. -/
theorem ways_to_lose {failures : List FailedCandidate}
    (herr : (race config candidates given).outcome = .error (.allFailed failures)) :
    (s.verdict = .outOfTime ∧ (race config candidates given).elapsed = config.deadline) ∨
      ((race config candidates given).elapsed ≠ config.deadline ∧
        s.attempts.length = candidates.length ∧
        ∀ k < candidates.length, s.notice? k ≠ none) := by
  rcases h.timed.ways_to_end h.ended with ⟨hv, hnow, -⟩ | ⟨k, how, hv, -⟩ | ⟨hv, hlt, hw, -⟩
  · exact Or.inl ⟨hv, hnow⟩
  · exact absurd hv ((h.exists_of_allFailed herr).1 k)
  · have hlen := h.length_le
    rw [hw, List.length_nil, Nat.add_zero] at hlen
    exact Or.inr ⟨Nat.ne_of_lt hlt, hlen, hlen ▸ h.noticed_of_open hv⟩

theorem reason_at_deadline {failures : List FailedCandidate} {reason : AttemptFailure}
    (herr : (race config candidates given).outcome = .error (.allFailed failures))
    (hend : (race config candidates given).elapsed = config.deadline)
    (hk : (failures.map (·.reason))[k]? = some reason) :
    (∃ t < (race config candidates given).elapsed,
        FailsAt config candidates given k t reason) ∨
      reason = .timedOut ∧ ∀ t own, FailsAt config candidates given k t own →
        (race config candidates given).elapsed ≤ t := by
  obtain ⟨-, hl, hget⟩ := h.report_of_allFailed herr
  rcases h.ways_to_lose herr with ⟨hv, -⟩ | ⟨hne, -⟩
  · rw [hget k (hl ▸ (List.getElem?_eq_some_iff.mp hk).1), if_pos hv] at hk
    rcases h.settled_of_lost (h.exists_of_allFailed herr).1 k with ⟨own, ho⟩ | ⟨hnot, hfill, -⟩
    · rw [ho] at hk
      cases hk
      obtain ⟨t, -, hlt, hf⟩ := h.failsAt_of_notice? ho
      exact Or.inl ⟨t, hend ▸ hlt, hf⟩
    · -- No failure was noticed of this attempt, so it is not said to have failed by itself.
      rw [hfill] at hk
      cases hk
      refine Or.inr ⟨rfl, fun t own hf => ?_⟩
      by_contra hlt
      exact hnot own (h.notice?_of_failsAt hf (Nat.not_le.mp hlt))
  · exact absurd hend hne

theorem all_started {failures : List FailedCandidate}
    (herr : (race config candidates given).outcome = .error (.allFailed failures))
    (hend : (race config candidates given).elapsed ≠ config.deadline) :
    s.attempts.length = candidates.length := by
  rcases h.ways_to_lose herr with ⟨-, hnow⟩ | ⟨-, hall, -⟩
  · exact absurd hnow hend
  · exact hall

/-- Before the deadline every candidate was noticed, so only those are left without a reason of their
own that broke off. -/
theorem reason_before_deadline {failures : List FailedCandidate} {reason : AttemptFailure}
    (herr : (race config candidates given).outcome = .error (.allFailed failures))
    (hend : (race config candidates given).elapsed ≠ config.deadline)
    (hk : (failures.map (·.reason))[k]? = some reason) :
    (∃ t ≤ (race config candidates given).elapsed,
        FailsAt config candidates given k t reason) ∨
      reason = .cancelled ∧ ∃ t ≤ (race config candidates given).elapsed,
        EndsAt config candidates given k t .brokeOff := by
  obtain ⟨-, hl, hget⟩ := h.report_of_allFailed herr
  rcases h.ways_to_lose herr with ⟨-, hnow⟩ | ⟨-, -, hnoticed⟩
  · exact absurd hnow hend
  · have hkn : k < candidates.length := hl ▸ (List.getElem?_eq_some_iff.mp hk).1
    have hv : s.verdict ≠ .outOfTime := fun hv => hend (h.timed.late hv).1
    rw [hget k hkn, if_neg hv] at hk
    rcases h.settled_of_lost (h.exists_of_allFailed herr).1 k with ⟨own, ho⟩ | ⟨-, hfill, hbroke⟩
    · rw [ho] at hk
      cases hk
      obtain ⟨t, hle, -, hf⟩ := h.failsAt_of_notice? ho
      exact Or.inl ⟨t, hle, hf⟩
    · rw [hfill] at hk
      cases hk
      exact Or.inr ⟨rfl, hbroke (hnoticed k hkn)⟩

end Observed

/-- **What a race reports,** if the clock does not end before. A race that is won has one outcome for
each candidate: the winner won, who failed before the end failed for its own reason, no one else is
said to have failed, and the rest was cancelled. A race that is lost names each candidate, with its
own reason if it failed before the end. At the deadline the others are timed out; before it there
are no others but those that broke off without a reason, and they are said to be cancelled. -/
theorem race_report (last : Instant) (config : Config) (candidates : List Candidate)
    (given : List Behaviour) :
    (raceWithin last config candidates given = none ↔
      ∃ k t, StartsAt config candidates given k t ∧ last < t + config.stagger) ∧
    (∀ result, raceWithin last config candidates given = some result →
      result = race config candidates given) ∧
    (∀ win, (race config candidates given).outcome = .ok win →
      win.report.outcomes.length = candidates.length ∧
      candidates[win.report.winner]? = some win.candidate ∧
      win.report.started = (race config candidates given).attempts.length ∧
      win.report.winner < win.report.started ∧ win.report.started ≤ candidates.length ∧
      (∀ k, win.report.outcomes[k]? = some .won ↔ k = win.report.winner) ∧
      (∀ k t reason, FailsAt config candidates given k t reason →
        t < (race config candidates given).elapsed →
          win.report.outcomes[k]? = some (.failed reason)) ∧
      (∀ k reason, win.report.outcomes[k]? = some (.failed reason) →
        ∃ t ≤ (race config candidates given).elapsed,
          FailsAt config candidates given k t reason) ∧
      (∀ k < candidates.length, k ≠ win.report.winner →
        (∀ t reason, FailsAt config candidates given k t reason →
          (race config candidates given).elapsed < t) →
            win.report.outcomes[k]? = some .cancelled) ∧
      ∀ k < candidates.length, win.report.started ≤ k →
        win.report.outcomes[k]? = some .cancelled) ∧
    ∀ failures, (race config candidates given).outcome = .error (.allFailed failures) →
      failures.map (·.candidate) = candidates ∧
      (∀ k t reason, FailsAt config candidates given k t reason →
        t < (race config candidates given).elapsed →
          (failures.map (·.reason))[k]? = some reason) ∧
      ((race config candidates given).elapsed = config.deadline →
        ∀ k reason, (failures.map (·.reason))[k]? = some reason →
          (∃ t < (race config candidates given).elapsed,
            FailsAt config candidates given k t reason) ∨
          reason = .timedOut ∧ ∀ t own, FailsAt config candidates given k t own →
            (race config candidates given).elapsed ≤ t) ∧
      ((race config candidates given).elapsed ≠ config.deadline →
        (race config candidates given).attempts.length = candidates.length ∧
        ∀ k reason, (failures.map (·.reason))[k]? = some reason →
          (∃ t ≤ (race config candidates given).elapsed,
            FailsAt config candidates given k t reason) ∨
          reason = .cancelled ∧ ∃ t ≤ (race config candidates given).elapsed,
            EndsAt config candidates given k t .brokeOff) := by
  refine ⟨raceWithin_eq_none_iff, fun _ => eq_race_of_raceWithin, ?_⟩
  by_cases hne : candidates = []
  · subst hne
    constructor <;> intro _ hout <;> cases hout
  obtain ⟨s, h⟩ := exists_observed config given hne
  have hlen := h.length_le
  constructor
  · intro win hok
    obtain ⟨hl, hc, hst, hws, hwon, hget⟩ := h.report_of_ok hok
    refine ⟨hl, hc, hst.trans h.length_attempts.symm, hws, by omega, hwon, ?_,
      fun k reason => h.failsAt_of_ok hok, fun k => h.cancelled_of_ok hok, ?_⟩
    · intro k t reason hf hlt
      have ho := h.notice?_of_failsAt hf hlt
      have hks := State.lt_length_of_notice? ho
      rw [hget k (by omega), ho]
      rfl
    · intro k hk hks
      rw [hget k hk]
      rcases ho : s.notice? k with _ | o
      · rfl
      · have := State.lt_length_of_notice? ho
        omega
  · intro failures herr
    obtain ⟨hcand, -, hget⟩ := h.report_of_allFailed herr
    refine ⟨hcand, ?_, ?_, ?_⟩
    · intro k t reason hf hlt
      have ho := h.notice?_of_failsAt hf hlt
      have hks := State.lt_length_of_notice? ho
      rw [hget k (by omega), ho]
      rfl
    · exact fun hend k reason => h.reason_at_deadline herr hend
    · exact fun hend => ⟨h.length_attempts.trans (h.all_started herr hend), fun k reason =>
        h.reason_before_deadline herr hend⟩

/-- A single candidate that breaks off at once: the race is over long before the deadline, and says
of it, which failed without a reason, that it was cancelled. -/
theorem race_report_brokenOff :
    (race {} [candidateAt 1] [.breaksDown]).outcome =
        .error (.allFailed [⟨candidateAt 1, .cancelled⟩]) ∧
      (race {} [candidateAt 1] [.breaksDown]).elapsed = 0 ∧
      EndsAt {} [candidateAt 1] [.breaksDown] 0 0 .brokeOff ∧
      ∀ t reason, ¬ FailsAt {} [candidateAt 1] [.breaksDown] 0 t reason := by
  refine ⟨rfl, rfl, ⟨0, by unfold StartsAt; decide, by decide⟩, ?_⟩
  rintro t reason ⟨how, ⟨start, -, he⟩, hr⟩
  have hhow : how = .brokeOff := (congrArg Prod.snd (Option.some.inj he)).symm
  rw [hhow] at hr
  cases hr

end Dialer.Race
