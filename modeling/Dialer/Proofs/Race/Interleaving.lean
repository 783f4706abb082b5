import Dialer.Proofs.Race.Course

/-!
# A race is decided once

In whatever order attempts end, the deadline passes, and the race takes notice of what has ended,
one party at most decides a race, and it gets what it decided: `Course.Fair` lists what that means,
and `decided_once` says that it holds at every moment of every course. A race that runs by the clock
takes one of these courses (`exists_course_race`).
-/

namespace Dialer.Race

/-- **It will be so, whatever happens:** it is so now, or else the race goes on and has something to
notice, and it will be so after any step. -/
inductive Inevitably (config : Config) (P : Course → Prop) : Course → Prop
  | now {c : Course} (h : P c) : Inevitably config P c
  | later {c : Course} (hlive : c.state.ended = false) (hbusy : c.state.unnoticed ≠ [])
    (h : ∀ d, Step config c d → Inevitably config P d) : Inevitably config P c

/-- The race is over and was won by the attempt for candidate `k`, with the session that this attempt
came to. -/
def Course.EndsWith (candidates : List Candidate) (k : Nat) (c : Course) : Prop :=
  c.state.ended = true ∧ ∃ win, conclude candidates c.state = .ok win ∧
    win.report.winner = k ∧ candidates[k]? = some win.candidate ∧
    c.state.finish? k = some (.ownEnding (.connects win.localAddress))

/-- **What holds at every moment of a race,** in whatever order its steps come. -/
structure Course.Fair (config : Config) (candidates : List Candidate) (c : Course) : Prop where
  /-- At most one party ever decides. -/
  once : c.deciders.length ≤ 1
  stays : ∀ p ∈ c.deciders, ∀ d, Later config c d → d.deciders = [p]
  /-- An attempt that decided wins, however late it is noticed. -/
  won : ∀ k, .attempt k ∈ c.deciders → Inevitably config (EndsWith candidates k) c
  /-- If the deadline decided, all have failed, and no session is kept whenever it comes. -/
  lost : .deadline ∈ c.deciders → ∀ d, Later config c d → d.state.ended = true ∧
    (∃ failures, conclude candidates d.state = .error (.allFailed failures)) ∧
    ∀ k, d.state.Connected k → k ∈ d.dropped
  /-- Sessions other than the winner's are dropped, and no other. -/
  dropped : ∀ k, k ∈ c.dropped ↔ c.state.Connected k ∧ .attempt k ∉ c.deciders
  /-- The end of a race is final. -/
  final : c.state.ended = true → ∀ d, Later config c d →
    d.state.ended = true ∧ conclude candidates d.state = conclude candidates c.state
  /-- After the deadline no attempt is started. -/
  idle : c.state.deadlinePassed = true → ∀ d, Later config c d →
    d.state.attempts.length = c.state.attempts.length

namespace Course

variable {config : Config} {candidates : List Candidate} {n : Nat} {c d : Course} {k : Nat}

namespace Sound

/-! ### Who decides a race gets it -/

theorem endsWith (h : c.Sound candidates.length) (hv : c.state.verdict = .wonBy k)
    (hended : c.state.ended = true) : c.EndsWith candidates k := by
  have ho := h.coherent.notice?_of_ended hv hended
  have hlen := h.length
  have hk : k < candidates.length := by
    have := State.lt_length_of_notice? ho
    omega
  refine ⟨hended, _, h.coherent.conclude_of_won ho hk, rfl, List.getElem?_eq_getElem hk, ?_⟩
  obtain ⟨address, hf⟩ := h.coherent.connected_of_won hv
  have hf' := hf
  simp only [State.finish?] at hf'
  rw [hf]
  simp only [State.sessionAddress, hf']

/-- A race that is won and goes on has its winner to notice, and cannot go on for ever. -/
theorem inevitably_endsWith (h : c.Sound candidates.length) (hv : c.state.verdict = .wonBy k) :
    Inevitably config (EndsWith candidates k) c := by
  induction hw : c.state.work using Nat.strongRecOn generalizing c with
  | ind w ih =>
    rcases hended : c.state.ended with _ | _
    · have hmem : k ∈ c.state.unnoticed := by
        have hlive := State.live_of_not_ended hended
        rcases h.coherent.open_or_unnoticed hlive with hopen | ⟨j, hj, hmem⟩
        · rw [hv] at hopen
          cases hopen
        · rw [hv] at hj
          cases hj
          exact hmem
      refine .later hended (List.ne_nil_of_mem hmem) fun d hs => ?_
      have hvd := (h.verdict_eq hs (by simp [hv])).trans hv
      exact ih _ (hw ▸ h.work_lt hs) (h.step hs) hvd rfl
    · exact .now (h.endsWith hv hended)

theorem verdict_later (h : c.Sound n) (hd : Later config c d) (hv : c.state.verdict ≠ .open) :
    d.state.verdict = c.state.verdict := by
  induction hd with
  | refl => rfl
  | tail hlater hs ih => exact ((h.later hlater).verdict_eq hs (ih.symm ▸ hv)).trans ih

theorem final_later (h : c.Sound candidates.length) (hd : Later config c d)
    (hended : c.state.ended = true) :
    d.state.ended = true ∧ conclude candidates d.state = conclude candidates c.state := by
  induction hd with
  | refl => exact ⟨hended, rfl⟩
  | tail hlater hs ih =>
    obtain ⟨hended, heq⟩ := (h.later hlater).final hs ih.1
    exact ⟨hended, heq.trans ih.2⟩

theorem idle_later (h : c.Sound n) (hd : Later config c d)
    (hpassed : c.state.deadlinePassed = true) :
    d.state.deadlinePassed = true ∧ d.state.attempts.length = c.state.attempts.length := by
  induction hd with
  | refl => exact ⟨hpassed, rfl⟩
  | tail hlater hs ih =>
    obtain ⟨hpassed, heq⟩ := (h.later hlater).idle hs ih.1
    exact ⟨hpassed, heq.trans ih.2⟩

theorem lost (h : c.Sound candidates.length) (hv : c.state.verdict = .outOfTime) :
    c.state.ended = true ∧
      (∃ failures, conclude candidates c.state = .error (.allFailed failures)) ∧
      ∀ k, c.state.Connected k → k ∈ c.dropped := by
  have hlive := h.coherent.live_eq_false.mpr (Or.inl hv)
  refine ⟨by simp [State.ended, hlive], ⟨_, h.coherent.conclude_of_lost (by simp [hv]) _⟩, ?_⟩
  exact fun k hk => (h.dropped k).mpr ⟨hk, by simp [hv]⟩

/-- **A sound course is fair.** -/
theorem fair (h : c.Sound candidates.length) : c.Fair config candidates where
  once := by
    rw [h.deciders]
    rcases c.state.verdict with _ | k | _ <;> simp [Verdict.parties]
  stays p hp d hd := by
    have hv : c.state.verdict ≠ .open := by
      intro hv
      rw [h.deciders, hv] at hp
      cases hp
    rw [h.deciders] at hp
    rw [(h.later hd).deciders, h.verdict_later hd hv]
    rcases hv' : c.state.verdict with _ | k | _
    · exact absurd hv' hv
    · rw [hv'] at hp
      rw [List.mem_singleton.mp hp]
      rfl
    · rw [hv'] at hp
      rw [List.mem_singleton.mp hp]
      rfl
  won _ hk := h.inevitably_endsWith (h.mem_deciders_attempt.mp hk)
  lost hp d hd := by
    have hv := h.mem_deciders_deadline.mp hp
    exact (h.later hd).lost ((h.verdict_later hd (by simp [hv])).trans hv)
  dropped k := by rw [h.mem_deciders_attempt]; exact h.dropped k
  final hended _ hd := h.final_later hd hended
  idle hpassed _ hd := (h.idle_later hd hpassed).2

end Sound

end Course

/-! ### The clock is one order of many -/

namespace State

variable {config : Config} {given : List Behaviour} {now later : Instant} {s : State}

theorem exists_later_foldl : ∀ (l : List (Attempt × Nat)) (c : Course),
    (∀ p ∈ l, c.state.attempts[p.2]? = some p.1) → (l.map Prod.snd).Nodup →
    ∃ d, Later config c d ∧ d.state = l.foldl (finishIfDue config now) c.state
  | [], c, _, _ => ⟨c, .refl, rfl⟩
  | (a, k) :: l, c, hmem, hnodup => by
    rw [List.map_cons, List.nodup_cons] at hnodup
    have ha : c.state.attempts[k]? = some a := hmem (a, k) (by simp)
    have hrest : ∀ p ∈ l, c.state.attempts[p.2]? = some p.1 :=
      fun p hp => hmem p (List.mem_cons_of_mem _ hp)
    rw [List.foldl_cons]
    by_cases hdue : ∃ t how, a.due? config = some (t, how) ∧ t ≤ now
    · obtain ⟨t, how, hdue, hle⟩ := hdue
      have hat : c.state.DueAt config k how t := dueAt_iff.mpr ⟨a, ha, hdue⟩
      have hstep : finishIfDue config now c.state (a, k) = (c.complete k how).state := by
        simp only [finishIfDue, hdue, if_pos hle]
        rfl
      have hkeep : ∀ p ∈ l, (c.complete k how).state.attempts[p.2]? = some p.1 := by
        intro p hp
        have hne : k ≠ p.2 := fun heq => hnodup.1 (List.mem_map.mpr ⟨p, hp, heq.symm⟩)
        change (c.state.attempts.modify k _)[p.2]? = _
        rw [List.getElem?_modify_ne _ _ hne]
        exact hrest p hp
      obtain ⟨d, hlater, hd⟩ := exists_later_foldl l (c.complete k how) hkeep hnodup.2
      exact ⟨d, .head (.complete k how hat.lt_length hat.1) hlater, by rw [hstep, hd]⟩
    · have hstep : finishIfDue config now c.state (a, k) = c.state := by
        rcases hd : a.due? config with _ | ⟨t, how⟩
        · simp only [finishIfDue, hd]
        · simp only [finishIfDue, hd]
          exact if_neg fun hle => hdue ⟨t, how, hd, hle⟩
      rw [hstep]
      exact exists_later_foldl l c hrest hnodup.2

theorem exists_later_act {c : Course} (h : c.state.Timed config given now)
    (hended : c.state.ended = false) {action : Action}
    (hnext : c.state.next? config now = some (later, action)) :
    ∃ d, Later config c d ∧ d.state = c.state.act config later action := by
  have hd := h.early (live_of_not_ended hended)
  obtain ⟨-, -, -, hdue⟩ := next?_spec hd h.clear hnext
  rcases action with _ | _ | _ | _
  · exact ⟨_, .single (.deadline hended hd), rfl⟩
  · obtain ⟨k, rest, hu⟩ := List.exists_cons_of_ne_nil hdue
    have hfirst : c.state.bringForward k = c.state := by
      rw [bringForward, hu, List.erase_cons_head, ← hu]
    have hstep : Step config c { c with state := (c.state.bringForward k).collect later } :=
      .collect later k hended (by simp [hu])
    exact ⟨_, .single hstep, congrArg (collect later) hfirst⟩
  · exact ⟨_, .single (.start later hended hdue.2.1 hd), rfl⟩
  · exact exists_later_foldl c.state.attempts.zipIdx c
      (fun p hp => List.mem_zipIdx_iff_getElem?.mp hp)
      (by rw [List.zipIdx_map_snd]; exact List.nodup_range')

theorem exists_later_runFor : ∀ (fuel : Nat) (now : Instant) (c : Course),
    c.state.Timed config given now →
    ∃ d, Later config c d ∧ d.state = (c.state.runFor config fuel now).2
  | 0, _, c, _ => ⟨c, .refl, rfl⟩
  | fuel + 1, now, c, h => by
    rw [runFor]
    rcases hended : c.state.ended with _ | _
    · rcases hnext : c.state.next? config now with _ | ⟨later, action⟩
      · exact ⟨c, .refl, rfl⟩
      · obtain ⟨b, hb, hact⟩ := exists_later_act h hended hnext
        have htimed := (timed_act h hended hnext).1
        rw [← hact] at htimed
        obtain ⟨d, hd, hrun⟩ := exists_later_runFor fuel later b htimed
        exact ⟨d, hb.trans hd, by simpa [hact] using hrun⟩
    · exact ⟨c, .refl, rfl⟩

end State

/-- **A race that runs by the clock** is one of the courses it may take. -/
theorem exists_course_race (config : Config) {candidates : List Candidate} (given : List Behaviour)
    (hne : candidates ≠ []) :
    ∃ c, Later config (.start (behaviours candidates given)) c ∧ c.state.ended = true ∧
      (race config candidates given).outcome = conclude candidates c.state := by
  have hgiven : behaviours candidates given ≠ [] := by
    intro hnil
    have := length_behaviours candidates given
    rw [hnil] at this
    exact hne (List.length_eq_zero_iff.mp this.symm)
  have htimed : (Course.start (behaviours candidates given)).state.Timed config
      (behaviours candidates given) 0 := .initial hgiven
  obtain ⟨c, hlater, hrun⟩ := State.exists_later_runFor _ 0 _ htimed
  refine ⟨c, hlater, hrun ▸ (State.timed_run config hgiven).2, ?_⟩
  rw [hrun]
  simp only [race, List.isEmpty_iff, hne, if_false]
  rfl

/-- **A race is decided once, and who decided it gets it,** in whatever order attempts end, the
deadline passes, and the race takes notice. -/
theorem decided_once (config : Config) (candidates : List Candidate) (given : List Behaviour) :
    (∀ c, Later config (.start (behaviours candidates given)) c → c.Fair config candidates) ∧
      (candidates ≠ [] → ∃ c, Later config (.start (behaviours candidates given)) c ∧
        c.state.ended = true ∧
        (race config candidates given).outcome = conclude candidates c.state) := by
  have hstart : (Course.start (behaviours candidates given)).Sound candidates.length := by
    have h := Course.Sound.start (behaviours candidates given)
    rwa [length_behaviours] at h
  exact ⟨fun c hlater => (hstart.later hlater).fair, exists_course_race config given⟩

/-- Two candidates at one address. -/
def twoWays : List Candidate :=
  [{ address := ⟨.unspecified false, 443, 0⟩, stack := .tls },
    { address := ⟨.unspecified false, 80, 0⟩, stack := .tcp }]

/-- The second attempt wins, the deadline passes, and the first attempt comes to a session, all
before anything is noticed. -/
def unheeded : Course :=
  let s := ((Course.start (behaviours twoWays [])).state.startNext {} 0).startNext {} 250
  let c : Course := { state := s }
  let c := c.complete 1 (.ownEnding (.connects none))
  let c := c.act .deadline c.state.passDeadline
  c.complete 0 (.ownEnding (.connects none))

theorem decided_once_unheeded :
    Later {} (.start (behaviours twoWays [])) unheeded ∧ unheeded.state.ended = false ∧
      unheeded.state.deadlinePassed = true ∧ unheeded.deciders = [.attempt 1] ∧
      unheeded.dropped = [0] ∧ Inevitably {} (Course.EndsWith twoWays 1) unheeded := by
  have hlater : Later {} (.start (behaviours twoWays [])) unheeded := by
    refine .head (.start 0 rfl (by decide) rfl) (.head (.start 250 rfl (by decide) rfl) ?_)
    refine .head (.complete 1 (.ownEnding (.connects none)) (by decide) rfl) ?_
    refine .head (.deadline rfl rfl) ?_
    exact .single (.complete 0 (.ownEnding (.connects none)) (by decide) rfl)
  have hfair := (decided_once {} twoWays []).1 unheeded hlater
  exact ⟨hlater, rfl, rfl, rfl, rfl, hfair.won 1 (by decide)⟩

end Dialer.Race
