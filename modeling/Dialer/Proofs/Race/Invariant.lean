import Dialer.Proofs.Race.Pace

/-!
# Races that run by the clock

`State.Timed` is what holds of a race at every instant when its steps come as the clock has them:
the state is coherent and paced, nothing was due before, attempts act by the behaviours given, and
what has not been noticed came to its end just now. Each step keeps it and lessens the work
(`timed_act`), so a run ends in such a state with nothing left to happen (`timed_run`).
-/

namespace Dialer.Race.State

variable {config : Config} {given : List Behaviour} {now later t : Instant} {s : State} {k : Nat}
  {how : Finish}

/-! ### The end of a race -/

theorem allNoticed_iff : s.allNoticed = true ↔ ∀ k < s.attempts.length, s.notice? k ≠ none := by
  simp only [allNoticed, List.all_eq_true, notice?]
  constructor
  · intro h k hk
    have := h _ (List.getElem_mem hk)
    rw [List.getElem?_eq_getElem hk]
    simpa using Option.isSome_iff_ne_none.mp this
  · intro h a ha
    obtain ⟨k, hk, rfl⟩ := List.getElem_of_mem ha
    have := h k hk
    rw [List.getElem?_eq_getElem hk] at this
    simpa [Option.isSome_iff_ne_none] using this

theorem ended_iff (hl : s.live = true) (hd : s.deadlinePassed = false) :
    s.ended = true ↔ s.waiting = [] ∧ ∀ k < s.attempts.length, s.notice? k ≠ none := by
  simp [ended, hl, hd, allNoticed_iff, and_comm]

theorem live_of_not_ended (h : s.ended = false) : s.live = true := by
  by_contra hl
  simp [ended, hl] at h

/-! ### The invariant -/

theorem DueAt.lt_length (h : s.DueAt config k how t) : k < s.attempts.length := by
  obtain ⟨u, hu⟩ := exists_start?_of_ending? h.2
  exact lt_length_of_start? hu

/-- **What holds at an instant of a race that runs by the clock.** -/
structure Timed (config : Config) (given : List Behaviour) (now : Instant) (s : State) : Prop where
  coherent : s.Coherent
  clear : s.Clear config now
  paced : s.Paced config given.length
  /-- Attempts act by the behaviours given, in their order. -/
  split : s.attempts.map (·.behaviour) ++ s.waiting = given
  started : ∀ k t, s.start? k = some t → t ≤ now ∧ t < config.deadline
  ended : ∀ k how, s.finish? k = some how →
    ∃ t ≤ now, t < config.deadline ∧ s.ending? config k = some (t, how)
  /-- What is not noticed has just ended, and so has every success. -/
  recent : ∀ k how, s.finish? k = some how → s.notice? k = none ∨ how.connected = true →
    s.ending? config k = some (now, how)
  early : s.live = true → s.deadlinePassed = false
  /-- The deadline ends a race only while a candidate is still to fail. -/
  late : s.verdict = .outOfTime →
    now = config.deadline ∧ (∀ k how, s.finish? k = some how → how.connected = false) ∧
      (s.waiting = [] → ∃ k < s.attempts.length, s.notice? k = none)
  /-- A race that is over before time ended with an attempt. -/
  exhausted : s.live = true → s.ended = true → ∃ k how, s.ending? config k = some (now, how)

namespace Timed

theorem initial (hne : given ≠ []) : Timed config given 0 { waiting := given } where
  coherent := .initial given
  clear := ⟨Nat.zero_le _, fun _ => Nat.zero_le _, by simp [DueAt, ending?]⟩
  paced := .initial given
  split := by simp
  started := by simp [start?]
  ended := by simp [finish?]
  recent := by simp [finish?]
  early := by simp
  late := by simp
  exhausted := by
    intro _ hended
    rw [ended_iff rfl rfl] at hended
    exact absurd hended.1 hne

theorem length_eq (h : s.Timed config given now) :
    given.length = s.attempts.length + s.waiting.length := by
  rw [← h.split]; simp

/-- A race that goes on cannot have been won without that being noticed next. -/
theorem verdict_eq_open (h : s.Timed config given now) (hl : s.live = true)
    (hu : s.unnoticed = [] ∨ now = config.deadline) : s.verdict = .open := by
  rcases h.coherent.open_or_unnoticed hl with hv | ⟨k, -, hk⟩
  · exact hv
  rcases hu with hu | rfl
  · rw [hu] at hk
    cases hk
  · obtain ⟨⟨how, hf⟩, ho⟩ := (h.coherent.mem_unnoticed k).mp hk
    obtain ⟨t, -, hlt, he⟩ := h.ended k how hf
    rw [h.recent k how hf (Or.inl ho)] at he
    cases he
    exact absurd hlt (Nat.lt_irrefl _)

/-- **Time moves on** when there is nothing to notice. -/
theorem advance (h : s.Timed config given now) (hended : s.ended = false) (hu : s.unnoticed = [])
    (hle : now ≤ later) (hclear : s.Clear config later) : s.Timed config given later := by
  have hl := live_of_not_ended hended
  have hv := h.verdict_eq_open hl (Or.inl hu)
  refine ⟨h.coherent, hclear, h.paced, h.split, ?_, ?_, ?_, h.early, ?_, ?_⟩
  · intro k t ht
    exact ⟨Nat.le_trans (h.started k t ht).1 hle, (h.started k t ht).2⟩
  · intro k how hf
    obtain ⟨t, htn, htd, he⟩ := h.ended k how hf
    exact ⟨t, Nat.le_trans htn hle, htd, he⟩
  · rintro k how hf (ho | hc)
    · have hk := (h.coherent.mem_unnoticed k).mpr ⟨⟨how, hf⟩, ho⟩
      rw [hu] at hk
      cases hk
    · rw [h.coherent.undecided hv k how hf] at hc
      cases hc
  · intro hout
    rw [hv] at hout
    cases hout
  · intro _ hended'
    rw [hended] at hended'
    cases hended'

theorem passDeadline (h : s.Timed config given config.deadline) (hended : s.ended = false) :
    s.passDeadline.Timed config given config.deadline := by
  have hl := live_of_not_ended hended
  have hv := h.verdict_eq_open hl (Or.inr rfl)
  have hlive : s.passDeadline.live = false := by simp [State.passDeadline, hv]
  refine ⟨h.coherent.passDeadline, ?_, h.paced.passDeadline, by simpa using h.split,
    by simpa using h.started, by simpa using h.ended, by simpa using h.recent, ?_, ?_, ?_⟩
  · refine ⟨Nat.le_refl _, by simpa using h.clear.le_staggerAt, ?_⟩
    intro k how e he
    exact h.clear.le_end k how e (by simpa [DueAt] using he)
  · simp [hlive]
  · intro _
    refine ⟨rfl, by simpa using h.coherent.undecided hv, fun hw => ?_⟩
    by_contra hnone
    refine absurd ((ended_iff hl (h.early hl)).mpr ⟨by simpa using hw, fun k hk ho => ?_⟩)
      (by simp [hended])
    exact hnone ⟨k, by simpa using hk, by simpa using ho⟩
  · simp [hlive]

theorem startNext (h : s.Timed config given s.staggerAt) (hl : s.live = true)
    (hw : s.waiting ≠ []) (hd : s.staggerAt < config.deadline) :
    (s.startNext config s.staggerAt).Timed config given s.staggerAt := by
  have hpaced := h.paced.startNext hw fun k t ht => (h.started k t ht).1
  obtain ⟨behaviour, rest, hw⟩ := List.exists_cons_of_ne_nil hw
  have heq := startNext_eq config s.staggerAt hw
  have hne : ∀ {j}, j ≠ s.attempts.length →
      (s.startNext config s.staggerAt).start? j = s.start? j := start?_startNext_of_ne hw
  have hself : (s.startNext config s.staggerAt).start? s.attempts.length = some s.staggerAt :=
    start?_startNext_self hw
  have hend : ∀ {j how}, s.finish? j = some how →
      (s.startNext config s.staggerAt).ending? config j = s.ending? config j :=
    fun hf => ending?_startNext_of_lt hw (lt_length_of_finish? hf)
  refine ⟨h.coherent.startNext, ?_, hpaced, ?_, ?_, ?_, ?_, ?_, ?_, ?_⟩
  · refine ⟨Nat.le_of_lt hd, fun _ => by rw [heq]; exact Nat.le_add_right _ _, ?_⟩
    rintro k how e ⟨hf, he⟩
    by_cases hk : k = s.attempts.length
    · subst hk
      exact start_le_of_ending? hself he
    · obtain ⟨u, hu⟩ := exists_start?_of_ending? he
      rw [hne hk] at hu
      rw [ending?_startNext_of_lt hw (lt_length_of_start? hu)] at he
      exact h.clear.le_end k how e ⟨by simpa using hf, he⟩
  · rw [← h.split, heq, hw]; simp
  · intro k t ht
    by_cases hk : k = s.attempts.length
    · subst hk
      rw [hself] at ht
      cases ht
      exact ⟨Nat.le_refl _, hd⟩
    · exact h.started k t (by rwa [hne hk] at ht)
  · intro k how hf
    rw [finish?_startNext] at hf
    rw [hend hf]
    exact h.ended k how hf
  · intro k how hf ho
    rw [finish?_startNext] at hf
    rw [hend hf]
    exact h.recent k how hf (by simpa using ho)
  · intro _
    rw [heq]
    exact h.early hl
  · intro hv
    have hv' : s.verdict = .outOfTime := by rwa [heq] at hv
    exact absurd (h.late hv').1 (Nat.ne_of_lt hd)
  · -- The attempt just started was not noticed.
    intro hl' hended
    rw [ended_iff hl' (by rw [heq]; exact h.early hl)] at hended
    have hnone : s.notice? s.attempts.length = none := by simp [notice?]
    exact absurd (by simpa using hnone) (hended.2 s.attempts.length (by simp [heq]))

theorem finish (h : s.Timed config given now) (hdue : s.DueAt config k how now)
    (hd : now < config.deadline) : (s.finish k how).Timed config given now := by
  have hk := hdue.lt_length
  obtain ⟨hf, he⟩ := hdue
  have hself : (s.finish k how).finish? k = some how := finish?_finish_self hk
  have hne : ∀ {j}, j ≠ k → (s.finish k how).finish? j = s.finish? j := finish?_finish_of_ne
  refine ⟨h.coherent.finish hk hf, ?_, h.paced.finish, ?_, by simpa using h.started, ?_, ?_,
    h.early, ?_, ?_⟩
  · refine ⟨h.clear.le_deadline, h.clear.le_staggerAt, ?_⟩
    rintro j how' e ⟨hj, he'⟩
    by_cases hjk : j = k
    · subst hjk
      rw [hself] at hj
      cases hj
    · exact h.clear.le_end j how' e ⟨by rwa [hne hjk] at hj, by simpa using he'⟩
  · rw [← h.split]
    simp only [State.finish]
    rw [map_modify (by intro a; rfl)]
  · intro j how' hj
    rw [ending?_finish]
    by_cases hjk : j = k
    · subst hjk
      rw [hself] at hj
      cases hj
      exact ⟨now, Nat.le_refl _, hd, he⟩
    · exact h.ended j how' (by rwa [hne hjk] at hj)
  · intro j how' hj ho
    rw [ending?_finish]
    by_cases hjk : j = k
    · subst hjk
      rw [hself] at hj
      cases hj
      exact he
    · exact h.recent j how' (by rwa [hne hjk] at hj) (by simpa using ho)
  · intro hv
    rw [Coherent.verdict_finish] at hv
    split_ifs at hv
    exact absurd (h.late hv).1 (Nat.ne_of_lt hd)
  · intro hl hended
    rw [live_finish] at hl
    rw [ended_iff (s := s.finish k how) hl (h.early hl)] at hended
    simp only [ending?_finish]
    exact h.exhausted hl ((ended_iff hl (h.early hl)).mpr (by simpa using hended))

theorem collect (h : s.Timed config given now) (hl : s.live = true) (hu : s.unnoticed ≠ []) :
    (s.collect now).Timed config given now := by
  obtain ⟨k, rest, hu⟩ := List.exists_cons_of_ne_nil hu
  obtain ⟨⟨how, hf⟩, ho⟩ := (h.coherent.mem_unnoticed k).mp (by simp [hu])
  have he := h.recent k how hf (Or.inl ho)
  have heq := collect_eq now hu hf
  refine ⟨h.coherent.collect hl, ?_, ?_, ?_, ?_, ?_, ?_, ?_, ?_, ?_⟩
  · refine ⟨h.clear.le_deadline, ?_, ?_⟩
    · intro hw
      have hw' : s.waiting ≠ [] := by rwa [heq] at hw
      rw [heq]
      dsimp only
      split_ifs
      · exact Nat.le_refl _
      · exact h.clear.le_staggerAt hw'
    · rintro j how' e ⟨hj, he'⟩
      rw [finish?_collect hu hf] at hj
      rw [ending?_collect hu hf] at he'
      exact h.clear.le_end j how' e ⟨hj, he'⟩
  · rcases hr : how.reason? with _ | reason
    · exact h.paced.collect_of_no_reason hu hf he hr
    · refine h.paced.collect_of_failed hu hf he hr h.length_eq h.clear.le_staggerAt
        (fun j t ht => (h.started j t ht).1) ?_
      rintro i t hi ⟨how', reason', he', -⟩
      obtain ⟨o, hi⟩ := Option.ne_none_iff_exists'.mp hi
      obtain ⟨how'', hi, -⟩ := h.coherent.noticed i o hi
      obtain ⟨u, hun, -, hu'⟩ := h.ended i how'' hi
      rw [he'] at hu'
      cases hu'
      exact hun
  · rw [← h.split, heq]
    dsimp only
    rw [map_modify (by intro a; rfl)]
  · simpa only [start?_collect hu hf] using h.started
  · simpa only [finish?_collect hu hf, ending?_collect hu hf] using h.ended
  · intro j how' hj ho'
    rw [finish?_collect hu hf] at hj
    rw [ending?_collect hu hf]
    refine h.recent j how' hj (ho'.imp_left fun hnone => ?_)
    by_cases hjk : j = k
    · subst hjk; exact ho
    · rwa [notice?_collect_of_ne hu hf hjk] at hnone
  · intro _
    rw [heq]
    exact h.early hl
  · intro hv
    have hv' : s.verdict = .outOfTime := by rwa [heq] at hv
    rw [h.coherent.live_eq_false.mpr (Or.inl hv')] at hl
    cases hl
  · intro _ _
    exact ⟨k, how, by rw [ending?_collect hu hf, he]⟩

end Timed

/-! ### Attempts that end together -/

theorem countP_modify {p : Attempt → Bool} {f : Attempt → Attempt} :
    ∀ {l : List Attempt} {k : Nat} {a : Attempt}, l[k]? = some a →
      (l.modify k f).countP p + (if p a then 1 else 0) = l.countP p + (if p (f a) then 1 else 0)
  | b :: l, 0, a, h => by
    obtain rfl : b = a := Option.some.inj h
    simp only [List.modify_zero_cons, List.countP_cons]
    omega
  | b :: l, k + 1, a, h => by
    have := countP_modify (p := p) (f := f) (l := l) (k := k) h
    simp only [List.modify_succ_cons, List.countP_cons]
    omega

/-- Let an attempt come to its end if that is due. -/
def finishIfDue (config : Config) (now : Instant) (s : State) : Attempt × Nat → State
  | (a, k) =>
    match a.due? config with
    | some (t, how) => if t ≤ now then s.finish k how else s
    | none => s

theorem finishDue_eq_foldl : s.finishDue config now =
    s.attempts.zipIdx.foldl (finishIfDue config now) s := rfl

theorem work_finish (hk : k < s.attempts.length) (hf : s.finish? k = none) :
    (s.finish k how).work + 1 = s.work := by
  have ha := List.getElem?_eq_getElem hk
  have hrun : s.attempts[k].running = true := by
    simpa [finish?, ha, Attempt.running] using hf
  have hcount := countP_modify (p := (·.running)) (f := fun a => { a with finish := some how }) ha
  rw [if_pos hrun, if_neg (by simp [Attempt.running])] at hcount
  have hlen : (s.unnoticed ++ [k]).length = s.unnoticed.length + 1 := by simp
  change 3 * s.waiting.length + 2 * (s.attempts.modify k _).countP (·.running) +
    (s.unnoticed ++ [k]).length + (if s.deadlinePassed then 0 else 1) + 1 = s.work
  unfold work
  omega

theorem work_collect {rest : List Nat} (hu : s.unnoticed = k :: rest)
    (hf : s.finish? k = some how) :
    (s.collect now).work + 1 = s.work := by
  have hcount : ∀ o, (s.attempts.modify k fun a => { a with notice := o }).countP (·.running) =
      s.attempts.countP (·.running) := by
    intro o
    simpa [List.countP_map, Function.comp_def] using
      congrArg (List.countP id) (map_modify (k := k) (l := s.attempts)
        (f := fun a => { a with notice := o }) (g := Attempt.running) (fun _ => rfl))
  have hlen : s.unnoticed.length = rest.length + 1 := by simp [hu]
  rw [collect_eq now hu hf]
  change 3 * s.waiting.length + 2 * (s.attempts.modify k _).countP (·.running) +
    rest.length + (if s.deadlinePassed then 0 else 1) + 1 = s.work
  rw [hcount]
  unfold work
  omega

/-- A start lessens the work: what was to be started is now to end and to be noticed. -/
theorem work_startNext (hw : s.waiting ≠ []) : (s.startNext config now).work + 1 = s.work := by
  obtain ⟨behaviour, rest, hw⟩ := List.exists_cons_of_ne_nil hw
  simp only [startNext_eq config now hw, work, hw, List.length_cons, List.countP_append,
    List.countP_singleton, Attempt.running]
  simp
  omega

theorem work_passDeadline (hd : s.deadlinePassed = false) : s.passDeadline.work + 1 = s.work := by
  have hd' : s.passDeadline.deadlinePassed = true := by unfold State.passDeadline; split_ifs <;> rfl
  simp [work, hd, hd']

theorem foldl_finishIfDue : ∀ (l : List (Attempt × Nat)) (s : State), s.Timed config given now →
    s.live = true → now < config.deadline → (∀ p ∈ l, s.attempts[p.2]? = some p.1) →
    (l.map Prod.snd).Nodup →
    (l.foldl (finishIfDue config now) s).Timed config given now ∧
      (l.foldl (finishIfDue config now) s).work +
        l.countP (fun p => ((p.1.due? config).map Prod.fst).any (· ≤ now)) = s.work
  | [], s, h, _, _, _, _ => ⟨h, by simp⟩
  | (a, k) :: l, s, h, hl, hd, hmem, hnodup => by
    rw [List.map_cons, List.nodup_cons] at hnodup
    have hrest : ∀ p ∈ l, s.attempts[p.2]? = some p.1 :=
      fun p hp => hmem p (List.mem_cons_of_mem _ hp)
    have ha : s.attempts[k]? = some a := hmem (a, k) (by simp)
    rw [List.foldl_cons, List.countP_cons]
    rcases hdue : a.due? config with _ | ⟨t, how⟩
    · simpa [finishIfDue, hdue] using foldl_finishIfDue l s h hl hd hrest hnodup.2
    · have hat : s.DueAt config k how t := dueAt_iff.mpr ⟨a, ha, hdue⟩
      by_cases ht : t ≤ now
      · obtain rfl := Nat.le_antisymm (h.clear.le_end k how t hat) ht
        have hstep : finishIfDue config now s (a, k) = s.finish k how := by
          simp [finishIfDue, hdue]
        rw [hstep]
        have hkeep : ∀ p ∈ l, (s.finish k how).attempts[p.2]? = some p.1 := by
          intro p hp
          have hne : k ≠ p.2 := fun heq => hnodup.1 (List.mem_map.mpr ⟨p, hp, heq.symm⟩)
          rw [State.finish, List.getElem?_modify_ne _ _ hne]
          exact hrest p hp
        obtain ⟨hfin, hwork⟩ :=
          foldl_finishIfDue l (s.finish k how) (h.finish hat hd) hl hd hkeep hnodup.2
        refine ⟨hfin, ?_⟩
        have hless : (s.finish k how).work + 1 = s.work := work_finish hat.lt_length hat.1
        simp only [Option.map_some, Option.any_some, Nat.le_refl, decide_true, if_true]
        omega
      · have hstep : finishIfDue config now s (a, k) = s := by simp [finishIfDue, hdue, ht]
        rw [hstep]
        simpa [ht] using foldl_finishIfDue l s h hl hd hrest hnodup.2

theorem timed_finishDue (h : s.Timed config given now) (hl : s.live = true)
    (hd : now < config.deadline) (hdue : s.DueAt config k how now) :
    (s.finishDue config now).Timed config given now ∧ (s.finishDue config now).work < s.work := by
  obtain ⟨hfin, hwork⟩ := foldl_finishIfDue s.attempts.zipIdx s h hl hd
    (fun p hp => List.mem_zipIdx_iff_getElem?.mp hp)
    (by rw [List.zipIdx_map_snd]; exact List.nodup_range')
  obtain ⟨a, ha, hdue⟩ := dueAt_iff.mp hdue
  have hpos : 0 < s.attempts.zipIdx.countP
      (fun p => ((p.1.due? config).map Prod.fst).any (· ≤ now)) :=
    List.countP_pos_iff.mpr ⟨(a, k), List.mem_zipIdx_iff_getElem?.mpr ha, by simp [hdue]⟩
  rw [finishDue_eq_foldl]
  exact ⟨hfin, by omega⟩

/-! ### The run -/

/-- **Whatever happens next** keeps the invariant and lessens the work. -/
theorem timed_act (h : s.Timed config given now) (hended : s.ended = false) {action : Action}
    (hnext : s.next? config now = some (later, action)) :
    (s.act config later action).Timed config given later ∧
      (s.act config later action).work < s.work := by
  have hl := live_of_not_ended hended
  have hd := h.early hl
  obtain ⟨hle, hclear, hstill, hdue⟩ := next?_spec hd h.clear hnext
  have ht : s.Timed config given later := by
    by_cases hu : s.unnoticed = []
    · exact h.advance hended hu hle hclear
    · rwa [hstill hu]
  rcases action with _ | _ | _ | _
  · obtain rfl : later = config.deadline := hdue
    exact ⟨ht.passDeadline hended, Nat.lt_of_succ_le (Nat.le_of_eq (work_passDeadline hd))⟩
  · refine ⟨ht.collect hl hdue, ?_⟩
    obtain ⟨k, rest, hu⟩ := List.exists_cons_of_ne_nil hdue
    obtain ⟨⟨how, hf⟩, -⟩ := (h.coherent.mem_unnoticed k).mp (by simp [hu])
    exact Nat.lt_of_succ_le (Nat.le_of_eq (work_collect hu hf))
  · obtain ⟨hlt, hw, rfl⟩ := hdue
    exact ⟨ht.startNext hl hw hlt, Nat.lt_of_succ_le (Nat.le_of_eq (work_startNext hw))⟩
  · obtain ⟨hlt, k, how, hk⟩ := hdue
    exact timed_finishDue ht hl hlt hk

/-- With enough fuel a race runs until it is over. -/
theorem timed_runFor : ∀ (fuel : Nat) (now : Instant) (s : State), s.Timed config given now →
    s.work ≤ fuel → (s.runFor config fuel now).2.Timed config given (s.runFor config fuel now).1 ∧
      (s.runFor config fuel now).2.ended = true
  | 0, now, s, h, hw => by
    refine ⟨h, ?_⟩
    by_contra hended
    rw [runFor, Bool.not_eq_true] at hended
    obtain ⟨later, action, hnext⟩ := exists_next? config now (h.early (live_of_not_ended hended))
    have := (timed_act h hended hnext).2
    omega
  | fuel + 1, now, s, h, hw => by
    rw [runFor]
    rcases hended : s.ended with _ | _
    · obtain ⟨later, action, hnext⟩ := exists_next? config now (h.early (live_of_not_ended hended))
      obtain ⟨hact, hlt⟩ := timed_act h hended hnext
      simp only [hnext, Bool.false_eq_true, if_false]
      exact timed_runFor fuel later _ hact (by omega)
    · simp only [if_true]
      exact ⟨h, hended⟩

/-- **A race runs by the clock until nothing more can happen.** -/
theorem timed_run (config : Config) (hne : given ≠ []) :
    (run config { waiting := given }).2.Timed config given (run config { waiting := given }).1 ∧
      (run config { waiting := given }).2.ended = true :=
  timed_runFor _ 0 _ (.initial hne) (Nat.le_refl _)

end Dialer.Race.State
