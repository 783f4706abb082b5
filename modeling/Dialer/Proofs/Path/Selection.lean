import Dialer.Path.Monitor
import Mathlib.Data.Bool.Basic
import Mathlib.Data.List.Basic
import Mathlib.Data.Prod.Lex

/-!
# The best interface

`PathRanking.Prefers` says which of two interfaces is to be preferred: one that costs nothing, where
expense is to be avoided, and then one whose kind stands earlier in the list. `PathRanking.Selects`
says what is to be chosen from a list: nothing if no interface serves, and otherwise the first that
none is preferred to.

* `PathRanking.prefers_iff_rank_lt`: preferring is comparing ranks, so it is an order.
* `PathRanking.Selects.unique`: a list allows one choice only.
* `Monitor.selects_bestInterface`: a monitor makes this choice from what its source reports.
-/

namespace Dialer

/-- **Whether an interface can be chosen:** it is up, reaches beyond its own host and has an
address. -/
def Interface.Serves (i : Interface) : Prop :=
  i.status = .up ∧ i.kind ≠ .loopback ∧ i.addresses ≠ []

theorem Interface.usable_iff {i : Interface} : i.usable = true ↔ i.Serves := by
  simp [usable, isUp, isLoopback, hasAddresses, Serves, and_assoc]

namespace PathRanking

variable {prefs : PathRanking} {i j k : Interface} {interfaces : List Interface}

/-! ### Which of two -/

/-- `i` costs nothing and `j` does, where that counts. -/
def Spares (prefs : PathRanking) (i j : Interface) : Prop :=
  prefs.avoidExpensive = true ∧ i.expensive = false ∧ j.expensive = true

/-- A kind is named at a place before which, and at which, another is not. -/
def NamedBefore (prefs : PathRanking) (kind other : Interface.Kind) : Prop :=
  ∃ front back, prefs.kinds = front ++ kind :: back ∧ other ∉ front ∧ other ≠ kind

/-- **`i` is to be preferred to `j`.** -/
def Prefers (prefs : PathRanking) (i j : Interface) : Prop :=
  prefs.Spares i j ∨ ¬ prefs.Spares j i ∧ prefs.NamedBefore i.kind j.kind

theorem namedBefore_iff {kind other : Interface.Kind} :
    prefs.NamedBefore kind other ↔ prefs.kindRank kind < prefs.kindRank other := by
  unfold NamedBefore kindRank
  constructor
  · rintro ⟨front, back, hkinds, hfront, hne⟩
    rw [hkinds, List.idxOf_append_of_notMem hfront, List.idxOf_cons_ne _ hne.symm]
    have hle : (front ++ kind :: back).idxOf kind ≤ front.length := by
      by_cases hmem : kind ∈ front
      · rw [List.idxOf_append_of_mem hmem]
        exact List.idxOf_le_length
      · rw [List.idxOf_append_of_notMem hmem, List.idxOf_cons_self]
        exact Nat.le_refl _
    omega
  · intro hlt
    have hkind : kind ∈ prefs.kinds :=
      List.idxOf_lt_length_iff.mp (Nat.lt_of_lt_of_le hlt List.idxOf_le_length)
    have hplace := List.idxOf_lt_length_of_mem hkind
    refine ⟨prefs.kinds.take (prefs.kinds.idxOf kind),
      prefs.kinds.drop (prefs.kinds.idxOf kind + 1), ?_, fun hmem => ?_, ?_⟩
    · conv_lhs => rw [← List.take_append_drop (prefs.kinds.idxOf kind) prefs.kinds]
      rw [List.drop_eq_getElem_cons hplace, List.getElem_idxOf]
    · have := (List.mem_take_iff_idxOf_lt (List.mem_of_mem_take hmem)).mp hmem
      omega
    · rintro rfl
      exact Nat.lt_irrefl _ hlt

/-- What interfaces are compared by. -/
def rank (prefs : PathRanking) (i : Interface) : Bool ×ₗ Nat :=
  toLex (prefs.costly i, prefs.kindRank i.kind)

theorem better_iff_rank_lt : prefs.better i j = true ↔ prefs.rank i < prefs.rank j := by
  rw [better, rank, rank, Prod.Lex.toLex_lt_toLex]
  cases prefs.costly i <;> cases prefs.costly j <;> simp

theorem better_iff : prefs.better i j = true ↔ prefs.Prefers i j := by
  rw [better, Prefers, Spares, Spares, namedBefore_iff, costly, costly]
  cases prefs.avoidExpensive <;> cases i.expensive <;> cases j.expensive <;> simp

/-! ### Of a list -/

theorem best?_eq_none {xs : List Interface} : prefs.best? xs = none ↔ xs = [] := by
  rcases xs with _ | ⟨i, rest⟩
  · simp [best?]
  · rw [best?]
    split
    · simp
    · split <;> simp

/-- **The first of the best.** -/
theorem best?_eq_some {xs : List Interface} (h : prefs.best? xs = some i) :
    (∀ j ∈ xs, prefs.rank i ≤ prefs.rank j) ∧
      ∃ front back, xs = front ++ i :: back ∧ ∀ j ∈ front, prefs.rank i < prefs.rank j := by
  induction xs generalizing i with
  | nil => cases h
  | cons k rest ih =>
    rw [best?] at h
    rcases hrest : prefs.best? rest with _ | b
    · -- `k` is alone.
      obtain rfl := best?_eq_none.mp hrest
      rw [hrest] at h
      obtain rfl := Option.some.inj h
      exact ⟨by simp, [], [], rfl, nofun⟩
    · obtain ⟨hbest, front, back, heq, hfirst⟩ := ih hrest
      rw [hrest] at h
      by_cases hbetter : prefs.better b k = true
      · have hlt := better_iff_rank_lt.mp hbetter
        obtain rfl : b = i := by simpa [hbetter] using h
        refine ⟨List.forall_mem_cons.mpr ⟨hlt.le, hbest⟩, k :: front, back, by rw [heq]; rfl, ?_⟩
        exact List.forall_mem_cons.mpr ⟨hlt, hfirst⟩
      · have hle : prefs.rank k ≤ prefs.rank b := not_lt.mp fun hlt =>
          hbetter (better_iff_rank_lt.mpr hlt)
        obtain rfl : k = i := by simpa [hbetter] using h
        refine ⟨List.forall_mem_cons.mpr ⟨le_refl _, fun j hj => hle.trans (hbest j hj)⟩, [], rest,
          rfl, nofun⟩

/-- **What is to be chosen** from a list of interfaces: -/
structure Selects (prefs : PathRanking) (interfaces : List Interface) (found : Option Interface) :
    Prop where
  /-- Nothing, if none of them serves, and only then. -/
  nothing : found = none ↔ ∀ i ∈ interfaces, ¬ i.Serves
  /-- Otherwise one that serves, such that no other that does is to be preferred to it, and it is
  to be preferred to those that stand before it. -/
  best : ∀ i, found = some i → i.Serves ∧
    (∀ j ∈ interfaces, j.Serves → ¬ prefs.Prefers j i) ∧
    ∃ front back, interfaces = front ++ i :: back ∧ ∀ j ∈ front, j.Serves → prefs.Prefers i j
  /-- One that costs money is chosen nevertheless if all that serve do. -/
  costly : (∃ i ∈ interfaces, i.Serves) → (∀ i ∈ interfaces, i.Serves → i.expensive = true) →
    ∃ i, found = some i ∧ i.expensive = true

/-- A list allows one choice. -/
theorem Selects.unique {a b : Option Interface} (ha : prefs.Selects interfaces a)
    (hb : prefs.Selects interfaces b) : a = b := by
  have hnone : ∀ {c d i}, prefs.Selects interfaces c → prefs.Selects interfaces d →
      c = some i → d ≠ none := by
    intro c d i hc hd hci hdn
    obtain ⟨hserves, -, front, back, heq, -⟩ := hc.best i hci
    exact hd.nothing.mp hdn i (by simp [heq]) hserves
  rcases a with _ | i <;> rcases b with _ | j
  · rfl
  · exact absurd rfl (hnone hb ha rfl)
  · exact absurd rfl (hnone ha hb rfl)
  obtain ⟨hi, hbest, front, back, heq, hfirst⟩ := ha.best i rfl
  obtain ⟨hj, hbest', front', back', heq', hfirst'⟩ := hb.best j rfl
  rcases List.append_eq_append_iff.mp (heq.symm.trans heq') with ⟨more, hf, hm⟩ | ⟨more, hf, hm⟩
  all_goals rcases more with _ | ⟨k, more⟩
  · rw [List.nil_append, List.cons.injEq] at hm
    rw [hm.1]
  · -- `i` stands before `j`.
    rw [List.cons_append, List.cons.injEq] at hm
    obtain ⟨rfl, -⟩ := hm
    exact absurd (hfirst' i (by simp [hf]) hi) (hbest j (by simp [heq']) hj)
  · rw [List.nil_append, List.cons.injEq] at hm
    rw [hm.1]
  · -- `j` stands before `i`.
    rw [List.cons_append, List.cons.injEq] at hm
    obtain ⟨rfl, -⟩ := hm
    exact absurd (hfirst j (by simp [hf]) hj) (hbest' i (by simp [heq]) hi)

theorem prefers_iff_rank_lt : prefs.Prefers i j ↔ prefs.rank i < prefs.rank j := by
  rw [← better_iff, better_iff_rank_lt]

theorem choose?_eq_none : prefs.choose? interfaces = none ↔ ∀ i ∈ interfaces, ¬ i.Serves := by
  rw [choose?, best?_eq_none, List.filter_eq_nil_iff]
  simp only [Interface.usable_iff]

theorem selects_choose? (prefs : PathRanking) (interfaces : List Interface) :
    prefs.Selects interfaces (prefs.choose? interfaces) := by
  have hbest : ∀ i, prefs.choose? interfaces = some i → i.Serves ∧
      (∀ j ∈ interfaces, j.Serves → ¬ prefs.Prefers j i) ∧
      ∃ front back, interfaces = front ++ i :: back ∧
        ∀ j ∈ front, j.Serves → prefs.Prefers i j := by
    intro i hi
    obtain ⟨hleast, front, back, heq, hfirst⟩ := best?_eq_some hi
    -- What stands before it among those that serve, stands before it in the list.
    obtain ⟨front', rest, rfl, rfl, hrest⟩ := List.filter_eq_append_iff.mp heq
    obtain ⟨others, back', rfl, hothers, husable, rfl⟩ := List.filter_eq_cons_iff.mp hrest
    refine ⟨Interface.usable_iff.mp husable, fun j hj hserves hprefers => ?_,
      front' ++ others, back', by simp, fun j hj hserves => ?_⟩
    · have hj := hleast j (List.mem_filter.mpr ⟨hj, Interface.usable_iff.mpr hserves⟩)
      exact not_lt.mpr hj (prefers_iff_rank_lt.mp hprefers)
    · have husable := Interface.usable_iff.mpr hserves
      rcases List.mem_append.mp hj with hj | hj
      · exact prefers_iff_rank_lt.mpr (hfirst j (List.mem_filter.mpr ⟨hj, husable⟩))
      · exact absurd husable (hothers j hj)
  refine ⟨choose?_eq_none, hbest, ?_⟩
  rintro ⟨i, hi, hserves⟩ hcostly
  rcases hfound : prefs.choose? interfaces with _ | k
  · exact absurd hserves (choose?_eq_none.mp hfound i hi)
  · obtain ⟨hk, -, front, back, heq, -⟩ := hbest k hfound
    exact ⟨k, rfl, hcostly k (by simp [heq]) hk⟩

/-- Expense weighs more than the kind, and the kind decides among those that cost the same. -/
example (ip : Ip) (phone cable radio : String) :
    choose? { kinds := [.cellular, .wifi] }
      [{ index := 1, name := phone, addresses := [ip], status := .up, kind := .cellular },
        { index := 2, name := cable, addresses := [ip], status := .up, kind := .wired },
        { index := 3, name := radio, addresses := [ip], status := .up, kind := .wifi }] =
      some { index := 3, name := radio, addresses := [ip], status := .up, kind := .wifi } := rfl

end PathRanking

/-- **The best interface of a monitor** is what is to be chosen from the interfaces its source
reports, and nothing else is to be chosen from them. Only a source that does not report them is an
error. -/
theorem Monitor.selects_bestInterface (m : Monitor) (prefs : PathRanking) :
    (∀ text, m.source.failure = some text →
      (m.bestInterface prefs).1 = .error (.platform text)) ∧
    (m.source.failure = none →
      ∃ found, (m.bestInterface prefs).1 = .ok found ∧
        prefs.Selects m.source.interfaces found ∧
        ∀ other, prefs.Selects m.source.interfaces other → other = found) := by
  constructor
  · intro text hfail
    simp only [bestInterface, list, Source.read, hfail]
    rfl
  · intro hok
    refine ⟨prefs.choose? m.source.interfaces, ?_, prefs.selects_choose? _, fun other hother =>
      hother.unique (prefs.selects_choose? _)⟩
    simp only [bestInterface, list, Source.read, hok]
    rfl

end Dialer
