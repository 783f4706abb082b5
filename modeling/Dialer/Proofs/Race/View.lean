import Dialer.Race.Run
import Mathlib.Data.List.Basic

/-!
# Views of a race

The state of a race looked at place by place: `start?`, `ending?`, `finish?` and `notice?` say when
the attempt for candidate `k` was started, when and how it ends if it is left to itself, how it has
ended, and what was noticed of it. For each of the four steps of a race there is one lemma a view.
-/

namespace Dialer.Race

/-! ### Ends -/

theorem Finish.connected_eq_false_iff {how : Finish} :
    how.connected = false ↔ (∃ reason, how.reason? = some reason) ∨ how = .brokeOff := by
  rcases how with (_ | _ | _) | _ | _ <;> simp [Finish.reason?, Finish.connected]

theorem Finish.connected_of_reason? {how : Finish} {reason : AttemptFailure}
    (h : how.reason? = some reason) : how.connected = false :=
  connected_eq_false_iff.mpr (Or.inl ⟨reason, h⟩)

theorem Finish.connected_iff {how : Finish} :
    how.connected = true ↔ ∃ address, how = .ownEnding (.connects address) := by
  rcases how with (_ | _ | _) | _ | _ <;> simp [Finish.connected]

namespace State

variable {config : Config} {now : Instant} {s : State} {k : Nat} {how : Finish}

/-! ### Views of the attempts -/

/-- When the attempt for candidate `k` was started. -/
def start? (s : State) (k : Nat) : Option Instant := s.attempts[k]?.map (·.start)

/-- When and how the attempt for candidate `k` ends. -/
def ending? (config : Config) (s : State) (k : Nat) : Option (Instant × Finish) :=
  s.attempts[k]?.bind (·.ending? config.attemptLimit)

/-- How the attempt for candidate `k` has ended. -/
def finish? (s : State) (k : Nat) : Option Finish := s.attempts[k]?.bind (·.finish)

/-- What was noticed of the attempt for candidate `k`. -/
def notice? (s : State) (k : Nat) : Option Notice := s.attempts[k]?.bind (·.notice)

theorem lt_length_of_finish? (h : s.finish? k = some how) : k < s.attempts.length := by
  by_contra hk
  rw [finish?, List.getElem?_eq_none (by omega)] at h
  cases h

theorem lt_length_of_notice? {o : Notice} (h : s.notice? k = some o) :
    k < s.attempts.length := by
  by_contra hk
  rw [notice?, List.getElem?_eq_none (by omega)] at h
  cases h

theorem start?_eq_none_iff : s.start? k = none ↔ s.attempts.length ≤ k := by
  simp [start?]

theorem exists_start? (h : k < s.attempts.length) : ∃ t, s.start? k = some t := by
  rw [← Option.ne_none_iff_exists', Ne, start?_eq_none_iff]
  omega

theorem lt_length_of_start? {t : Instant} (h : s.start? k = some t) : k < s.attempts.length := by
  by_contra hk
  rw [start?_eq_none_iff.mpr (by omega)] at h
  cases h

theorem exists_start?_of_ending? {e : Instant × Finish} (h : s.ending? config k = some e) :
    ∃ t, s.start? k = some t := by
  obtain ⟨a, ha, -⟩ := Option.bind_eq_some_iff.mp h
  exact ⟨a.start, by rw [start?, ha]; rfl⟩

/-- An attempt cannot end before it starts. -/
theorem start_le_of_ending? {t e : Instant} (hs : s.start? k = some t)
    (he : s.ending? config k = some (e, how)) : t ≤ e := by
  obtain ⟨a, ha, he⟩ := Option.bind_eq_some_iff.mp he
  rw [start?, ha] at hs
  cases hs
  unfold Attempt.ending? at he
  split at he
  · cases he; exact Nat.le_refl _
  · cases he
  · cases he; exact Nat.le_add_right _ _
  · cases he; exact Nat.le_add_right _ _
  · split_ifs at he <;> cases he <;> exact Nat.le_add_right _ _

/-! ### The steps, place by place -/

/-- Changing one attempt does not show where the change is not looked at. -/
theorem bind_getElem?_modify {β : Type} {l : List Attempt} {f : Attempt → Attempt}
    {g : Attempt → Option β} (hfg : ∀ a, g (f a) = g a) (j : Nat) :
    (l.modify k f)[j]?.bind g = l[j]?.bind g := by
  rw [List.getElem?_modify]
  rcases l[j]? with _ | a
  · rfl
  · simp only [Option.map_eq_map, Option.map_some, Option.bind_some]
    split_ifs
    · exact hfg a
    · rfl

theorem map_modify {β : Type} {l : List Attempt} {f : Attempt → Attempt} {g : Attempt → β}
    (hfg : ∀ a, g (f a) = g a) : (l.modify k f).map g = l.map g := by
  refine List.ext_getElem? fun j => ?_
  rw [List.getElem?_map, List.getElem?_map, Option.map_eq_bind, Option.map_eq_bind]
  exact bind_getElem?_modify (by simp [hfg]) j

@[simp] theorem start?_finish (j : Nat) : (s.finish k how).start? j = s.start? j := by
  simp only [start?, Option.map_eq_bind]
  exact bind_getElem?_modify (by intro a; rfl) j

@[simp] theorem ending?_finish (j : Nat) :
    (s.finish k how).ending? config j = s.ending? config j :=
  bind_getElem?_modify (by intro a; rfl) j

@[simp] theorem notice?_finish (j : Nat) : (s.finish k how).notice? j = s.notice? j :=
  bind_getElem?_modify (by intro a; rfl) j

theorem finish?_finish_self (hk : k < s.attempts.length) :
    (s.finish k how).finish? k = some how := by
  simp [finish?, State.finish, List.getElem?_eq_getElem hk]

theorem finish?_finish_of_ne {j : Nat} (h : j ≠ k) : (s.finish k how).finish? j = s.finish? j := by
  simp [finish?, State.finish, Ne.symm h]

@[simp] theorem length_finish : (s.finish k how).attempts.length = s.attempts.length := by
  simp [State.finish]

@[simp] theorem waiting_finish : (s.finish k how).waiting = s.waiting := rfl

@[simp] theorem staggerAt_finish : (s.finish k how).staggerAt = s.staggerAt := rfl

@[simp] theorem live_finish : (s.finish k how).live = s.live := rfl

@[simp] theorem deadlinePassed_finish : (s.finish k how).deadlinePassed = s.deadlinePassed := rfl

/-- The state after an end was noticed. -/
theorem collect_eq (now : Instant) {rest : List Nat} (hu : s.unnoticed = k :: rest)
    (hf : s.finish? k = some how) : s.collect now =
      { s with
        attempts := s.attempts.modify k fun a => { a with notice := some (s.noticeOf k how) }
        unnoticed := rest
        staggerAt := if how.reason?.isSome then now else s.staggerAt
        live := s.noticeOf k how != .won } := by
  rw [finish?] at hf
  simp [collect, hu, hf]

/-- What cannot be noticed is passed over. -/
theorem collect_of_none (now : Instant) {rest : List Nat} (hu : s.unnoticed = k :: rest)
    (hf : s.finish? k = none) : s.collect now = { s with unnoticed := rest } := by
  rw [finish?] at hf
  simp [collect, hu, hf]

section Collect

variable {rest : List Nat} (hu : s.unnoticed = k :: rest) (hf : s.finish? k = some how)
include hu hf

theorem start?_collect (j : Nat) : (s.collect now).start? j = s.start? j := by
  rw [collect_eq now hu hf]
  simp only [start?, Option.map_eq_bind]
  exact bind_getElem?_modify (by intro a; rfl) j

theorem ending?_collect (j : Nat) : (s.collect now).ending? config j = s.ending? config j := by
  rw [collect_eq now hu hf]
  exact bind_getElem?_modify (by intro a; rfl) j

theorem finish?_collect (j : Nat) : (s.collect now).finish? j = s.finish? j := by
  rw [collect_eq now hu hf]
  exact bind_getElem?_modify (by intro a; rfl) j

theorem notice?_collect_self : (s.collect now).notice? k = some (s.noticeOf k how) := by
  have hk := lt_length_of_finish? hf
  rw [collect_eq now hu hf]
  simp [notice?, List.getElem?_eq_getElem hk]

theorem notice?_collect_of_ne {j : Nat} (h : j ≠ k) :
    (s.collect now).notice? j = s.notice? j := by
  rw [collect_eq now hu hf]
  simp [notice?, Ne.symm h]

end Collect

section StartNext

variable {behaviour : Behaviour} {rest : List Behaviour}

/-- The state after a start. -/
theorem startNext_eq (config : Config) (now : Instant) (hw : s.waiting = behaviour :: rest) :
    s.startNext config now =
      { s with
        attempts := s.attempts ++ [{ start := now, behaviour }]
        waiting := rest
        staggerAt := now + config.stagger } := by
  simp [startNext, hw]

variable (hw : s.waiting = behaviour :: rest)
include hw

theorem start?_startNext_self : (s.startNext config now).start? s.attempts.length = some now := by
  simp [startNext_eq config now hw, start?]

theorem start?_startNext_of_ne {j : Nat} (h : j ≠ s.attempts.length) :
    (s.startNext config now).start? j = s.start? j := by
  rcases Nat.lt_or_gt_of_ne h with h | h
  · simp [startNext_eq config now hw, start?, List.getElem?_append_left h]
  · rw [start?_eq_none_iff.mpr (Nat.le_of_lt h), start?_eq_none_iff]
    simp [startNext_eq config now hw]
    omega

theorem ending?_startNext_of_lt {j : Nat} (h : j < s.attempts.length) :
    (s.startNext config now).ending? config j = s.ending? config j := by
  simp [startNext_eq config now hw, ending?, List.getElem?_append_left h]

/-- A new attempt has neither an end nor a notice, so these views are as they were. -/
theorem bind_startNext {β : Type} {g : Attempt → Option β}
    (hg : g { start := now, behaviour } = none) (j : Nat) :
    (s.startNext config now).attempts[j]?.bind g = s.attempts[j]?.bind g := by
  rw [startNext_eq config now hw]
  rcases Nat.lt_trichotomy j s.attempts.length with h | h | h
  · simp [List.getElem?_append_left h]
  · subst h; simp [hg]
  · rw [List.getElem?_eq_none (by simp; omega), List.getElem?_eq_none (by omega)]

end StartNext

@[simp] theorem finish?_startNext (j : Nat) : (s.startNext config now).finish? j = s.finish? j := by
  rcases hw : s.waiting with _ | ⟨behaviour, rest⟩
  · simp [startNext, hw]
  · exact bind_startNext hw rfl j

@[simp] theorem notice?_startNext (j : Nat) :
    (s.startNext config now).notice? j = s.notice? j := by
  rcases hw : s.waiting with _ | ⟨behaviour, rest⟩
  · simp [startNext, hw]
  · exact bind_startNext hw rfl j

@[simp] theorem attempts_passDeadline : s.passDeadline.attempts = s.attempts := by
  unfold passDeadline; split_ifs <;> rfl

@[simp] theorem waiting_passDeadline : s.passDeadline.waiting = s.waiting := by
  unfold passDeadline; split_ifs <;> rfl

@[simp] theorem unnoticed_passDeadline : s.passDeadline.unnoticed = s.unnoticed := by
  unfold passDeadline; split_ifs <;> rfl

@[simp] theorem staggerAt_passDeadline : s.passDeadline.staggerAt = s.staggerAt := by
  unfold passDeadline; split_ifs <;> rfl

@[simp] theorem finish?_passDeadline (j : Nat) : s.passDeadline.finish? j = s.finish? j := by
  simp [finish?]

@[simp] theorem notice?_passDeadline (j : Nat) : s.passDeadline.notice? j = s.notice? j := by
  simp [notice?]

@[simp] theorem start?_passDeadline (j : Nat) : s.passDeadline.start? j = s.start? j := by
  simp [start?]

@[simp] theorem ending?_passDeadline (j : Nat) :
    s.passDeadline.ending? config j = s.ending? config j := by
  simp [ending?]

end State

end Dialer.Race
