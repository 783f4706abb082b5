import Dialer.Proofs.Race.View

/-!
# The clock of a race

`State.Clear config t s` says that nothing was due before the instant `t`. From a clear state the
clock moves on to the first instant at which something is due: `next?_spec` says all that is known
of what happens next, `exists_next?` that something does as long as the deadline has not passed.
-/

namespace Dialer.Race

/-- **The first instant** of a kind, if there is one. -/
def Earliest (P : Instant → Prop) (at? : Option Instant) : Prop :=
  (∀ t, at? = some t → P t) ∧ ∀ t, P t → ∃ u, at? = some u ∧ u ≤ t

variable {P Q : Instant → Prop} {a b : Option Instant} {now t : Instant}

theorem Earliest.earlier (ha : Earliest P a) (hb : Earliest Q b) :
    Earliest (fun t => P t ∨ Q t) (earlier a b) := by
  obtain ⟨ha1, ha2⟩ := ha
  obtain ⟨hb1, hb2⟩ := hb
  rcases a with _ | a
  · refine ⟨fun t ht => Or.inr (hb1 t ht), ?_⟩
    rintro t (ht | ht)
    · obtain ⟨u, hu, -⟩ := ha2 t ht
      cases hu
    · exact hb2 t ht
  rcases b with _ | b
  · refine ⟨fun t ht => Or.inl (ha1 t ht), ?_⟩
    rintro t (ht | ht)
    · exact ha2 t ht
    · obtain ⟨u, hu, -⟩ := hb2 t ht
      cases hu
  · refine ⟨?_, ?_⟩
    · rintro t ht
      obtain rfl : min a b = t := Option.some.inj ht
      rcases Nat.le_total a b with h | h
      · rw [Nat.min_eq_left h]; exact Or.inl (ha1 a rfl)
      · rw [Nat.min_eq_right h]; exact Or.inr (hb1 b rfl)
    · rintro t (ht | ht)
      · obtain ⟨u, hu, hle⟩ := ha2 t ht
        cases hu
        exact ⟨min a b, rfl, Nat.le_trans (Nat.min_le_left a b) hle⟩
      · obtain ⟨u, hu, hle⟩ := hb2 t ht
        cases hu
        exact ⟨min a b, rfl, Nat.le_trans (Nat.min_le_right a b) hle⟩

theorem Earliest.congr (h : Earliest P a) (hPQ : ∀ t, P t ↔ Q t) : Earliest Q a := by
  rwa [show Q = P from funext fun t => propext (hPQ t).symm]

theorem Earliest.dueBy_iff (h : Earliest P a) : State.dueBy now a = true ↔ ∃ t ≤ now, P t := by
  obtain ⟨h1, h2⟩ := h
  constructor
  · intro hd
    rcases a with _ | t
    · cases hd
    · exact ⟨t, by simpa [State.dueBy] using hd, h1 t rfl⟩
  · rintro ⟨t, hle, ht⟩
    obtain ⟨u, rfl, hu⟩ := h2 t ht
    simpa [State.dueBy] using Nat.le_trans hu hle

theorem Earliest.not_dueBy_iff (h : Earliest P a) :
    State.dueBy now a = false ↔ ∀ t, P t → now < t := by
  rw [Bool.eq_false_iff, Ne, h.dueBy_iff]
  constructor
  · intro hn t ht
    by_contra hlt
    exact hn ⟨t, Nat.le_of_not_lt hlt, ht⟩
  · rintro hall ⟨t, hle, ht⟩
    exact absurd (hall t ht) (Nat.not_lt.mpr hle)

namespace State

variable {config : Config} {s : State}

/-- The attempt for candidate `k` is at work and ends at an instant. -/
def DueAt (config : Config) (s : State) (k : Nat) (how : Finish) (t : Instant) : Prop :=
  s.finish? k = none ∧ s.ending? config k = some (t, how)

theorem dueAt_iff {k : Nat} {how : Finish} : s.DueAt config k how t ↔
    ∃ a, s.attempts[k]? = some a ∧ a.due? config = some (t, how) := by
  unfold DueAt finish? ending? Attempt.due? Attempt.running
  rcases s.attempts[k]? with _ | a
  · simp
  · rcases hf : a.finish with _ | how' <;> simp [hf]

theorem earliest_deadlineAt? (hd : s.deadlinePassed = false) :
    Earliest (fun t => t = config.deadline) (s.deadlineAt? config) := by
  refine ⟨?_, ?_⟩
  · intro t ht
    simpa [deadlineAt?, hd, eq_comm] using ht
  · rintro t rfl
    exact ⟨config.deadline, by simp [deadlineAt?, hd], Nat.le_refl _⟩

theorem earliest_startAt? (hd : s.deadlinePassed = false) :
    Earliest (fun t => s.waiting ≠ [] ∧ t = s.staggerAt) s.startAt? := by
  refine ⟨?_, ?_⟩
  · intro t ht
    simp only [startAt?, hd, Bool.or_false] at ht
    split_ifs at ht with hw
    exact ⟨by simpa using hw, (Option.some.inj ht).symm⟩
  · rintro t ⟨hw, rfl⟩
    exact ⟨s.staggerAt, by simp [startAt?, hd, hw], Nat.le_refl _⟩

/-- The first end among some attempts. -/
theorem earliest_foldr (l : List Attempt) :
    Earliest (fun t => ∃ a ∈ l, ∃ how, a.due? config = some (t, how))
      (l.foldr (fun a first => Race.earlier ((a.due? config).map Prod.fst) first) none) := by
  induction l with
  | nil => exact ⟨by simp, by simp⟩
  | cons a l ih =>
    have ha : Earliest (fun t => ∃ how, a.due? config = some (t, how))
        ((a.due? config).map Prod.fst) := by
      refine ⟨?_, ?_⟩
      · intro t ht
        obtain ⟨⟨u, how⟩, hu, rfl⟩ := Option.map_eq_some_iff.mp ht
        exact ⟨how, hu⟩
      · rintro t ⟨how, hu⟩
        exact ⟨t, by rw [hu]; rfl, Nat.le_refl _⟩
    refine (ha.earlier ih).congr fun t => ?_
    simp

theorem earliest_finishAt? :
    Earliest (fun t => ∃ k how, s.DueAt config k how t) (s.finishAt? config) := by
  refine (earliest_foldr s.attempts).congr fun t => ?_
  constructor
  · rintro ⟨a, ha, how, hdue⟩
    obtain ⟨k, hk⟩ := List.getElem?_of_mem ha
    exact ⟨k, how, dueAt_iff.mpr ⟨a, hk, hdue⟩⟩
  · rintro ⟨k, how, hdue⟩
    obtain ⟨a, hk, hdue⟩ := dueAt_iff.mp hdue
    exact ⟨a, List.mem_of_getElem? hk, how, hdue⟩

/-- **Nothing was due before an instant:** not the deadline, no start, no end. -/
structure Clear (config : Config) (t : Instant) (s : State) : Prop where
  le_deadline : t ≤ config.deadline
  le_staggerAt : s.waiting ≠ [] → t ≤ s.staggerAt
  le_end : ∀ k how e, s.DueAt config k how e → t ≤ e

/-- What is known when an action is taken at an instant before which nothing was due. -/
def Due (config : Config) (t : Instant) (s : State) : Action → Prop
  | .deadline => t = config.deadline
  | .collect => s.unnoticed ≠ []
  | .start => t < config.deadline ∧ s.waiting ≠ [] ∧ t = s.staggerAt
  | .finish => t < config.deadline ∧ ∃ k how, s.DueAt config k how t

theorem due_of_dueAction? (hd : s.deadlinePassed = false) (hc : s.Clear config t) {action : Action}
    (h : s.dueAction? config t = some action) : s.Due config t action := by
  unfold dueAction? at h
  split_ifs at h with h1 h2 h3 h4
  all_goals cases h
  · obtain ⟨u, hle, rfl⟩ := (earliest_deadlineAt? hd).dueBy_iff.mp h1
    exact Nat.le_antisymm hc.le_deadline hle
  · simpa [Due] using h2
  all_goals
    rw [Bool.not_eq_true, (earliest_deadlineAt? hd).not_dueBy_iff] at h1
  · obtain ⟨u, hle, hw, rfl⟩ := (earliest_startAt? hd).dueBy_iff.mp h3
    exact ⟨h1 _ rfl, hw, Nat.le_antisymm (hc.le_staggerAt hw) hle⟩
  · obtain ⟨u, hle, k, how, hdue⟩ := earliest_finishAt?.dueBy_iff.mp h4
    obtain rfl := Nat.le_antisymm (hc.le_end k how u hdue) hle
    exact ⟨h1 _ rfl, k, how, hdue⟩

/-- Where nothing is due, what is to come is the earliest of three. -/
theorem earliest_pending (config : Config) (hd : s.deadlinePassed = false) :
    Earliest (fun t => t = config.deadline ∨ (s.waiting ≠ [] ∧ t = s.staggerAt) ∨
        ∃ k how, s.DueAt config k how t)
      (Race.earlier (s.deadlineAt? config) (Race.earlier s.startAt? (s.finishAt? config))) :=
  (earliest_deadlineAt? hd).earlier ((earliest_startAt? hd).earlier earliest_finishAt?)

theorem unnoticed_of_dueAction?_eq_none (hd : s.deadlinePassed = false)
    (h : s.dueAction? config now = none) :
    s.unnoticed = [] ∧ ∀ t, (t = config.deadline ∨ (s.waiting ≠ [] ∧ t = s.staggerAt) ∨
        ∃ k how, s.DueAt config k how t) → now < t := by
  unfold dueAction? at h
  split_ifs at h with h1 h2 h3 h4
  refine ⟨by simpa using h2, ?_⟩
  rw [Bool.not_eq_true] at h1 h3 h4
  rintro t (ht | ht | ht)
  · exact (earliest_deadlineAt? hd).not_dueBy_iff.mp h1 t ht
  · exact (earliest_startAt? hd).not_dueBy_iff.mp h3 t ht
  · exact earliest_finishAt?.not_dueBy_iff.mp h4 t ht

/-- **What happens next.** The clock does not run back, it leaves nothing behind, and it stands
still as long as an end has to be noticed. -/
theorem next?_spec (hd : s.deadlinePassed = false) (hc : s.Clear config now) {later : Instant}
    {action : Action} (h : s.next? config now = some (later, action)) :
    now ≤ later ∧ s.Clear config later ∧ (s.unnoticed ≠ [] → later = now) ∧
      s.Due config later action := by
  unfold next? at h
  split at h
  · next action' hdue =>
    obtain ⟨rfl, rfl⟩ := Prod.mk.inj (Option.some.inj h)
    exact ⟨Nat.le_refl _, hc, fun _ => rfl, due_of_dueAction? hd hc hdue⟩
  · next hnone =>
    obtain ⟨hun, hlt⟩ := unnoticed_of_dueAction?_eq_none hd hnone
    obtain ⟨hfst, hall⟩ := earliest_pending config hd
    split at h
    · cases h
    · next t ht =>
      obtain ⟨action', hdue, hpair⟩ := Option.map_eq_some_iff.mp h
      obtain ⟨rfl, rfl⟩ := Prod.mk.inj hpair
      have hle : ∀ u, (u = config.deadline ∨ (s.waiting ≠ [] ∧ u = s.staggerAt) ∨
          ∃ k how, s.DueAt config k how u) → t ≤ u := by
        intro u hu
        obtain ⟨v, hv, hvu⟩ := hall u hu
        rw [ht] at hv
        cases hv
        exact hvu
      have hclear : s.Clear config t :=
        ⟨hle _ (Or.inl rfl), fun hw => hle _ (Or.inr (Or.inl ⟨hw, rfl⟩)),
          fun k how e he => hle _ (Or.inr (Or.inr ⟨k, how, he⟩))⟩
      exact ⟨Nat.le_of_lt (hlt t (hfst t ht)), hclear, fun hne => absurd hun hne,
        due_of_dueAction? hd hclear hdue⟩

/-- As long as the deadline is to come, something happens next. -/
theorem exists_next? (config : Config) (now : Instant) (hd : s.deadlinePassed = false) :
    ∃ later action, s.next? config now = some (later, action) := by
  unfold next?
  rcases hnow : s.dueAction? config now with _ | action
  · obtain ⟨hfst, hall⟩ := earliest_pending config hd
    obtain ⟨t, ht, -⟩ := hall config.deadline (Or.inl rfl)
    rw [ht]
    -- What makes `t` the earliest instant is due then.
    rcases hdue : s.dueAction? config t with _ | action
    · exact absurd ((unnoticed_of_dueAction?_eq_none hd hdue).2 t (hfst t ht)) (Nat.lt_irrefl t)
    · exact ⟨t, action, by simp [hdue]⟩
  · exact ⟨now, action, rfl⟩

end State

end Dialer.Race
