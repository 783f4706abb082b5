import Dialer.Proofs.Establishment.Permission
import Mathlib.Data.List.Basic
import Mathlib.Data.List.Nodup

/-!
# The order in which candidates are attempted

Candidates that cost money are put last within their stack, and stacks come in the order of their
first candidate. Candidates are told apart by their places here, since two of them may be equal:
`arrangement` lists the places in the order of the attempts, and `Precedes` says which of two places
comes first in it (`pairwise_arrangement`).

* `sublist_arrangement_iff`: a candidate overtakes an earlier one if that has the same stack and costs
  money where it does not, or if its own stack appeared before that of the other.
* `costlyLast_eq_self_iff`: where no one overtakes, nothing is moved.
* `Preconnection.candidates_arranged`: what becomes of the candidates of a preconnection. Those of
  one endpoint come stack by stack, so if none costs money they stay as they are; those of several
  come endpoint by endpoint, and do not.
-/

namespace Dialer

/-! ### Places -/

theorem pairwise_idxOf_firstOfEach {β : Type} [DecidableEq β] (l : List β) :
    (firstOfEach id l).Pairwise fun a b => l.idxOf a < l.idxOf b := by
  induction l with
  | nil => exact .nil
  | cons b rest ih =>
    refine .cons (fun c hc => ?_) ?_
    · have hne : c ≠ b := by simpa using (List.mem_filter.mp hc).2
      rw [List.idxOf_cons_self, List.idxOf_cons_ne _ hne.symm]
      exact Nat.succ_pos _
    · refine (ih.filter _).imp_of_mem fun {a c} ha hc hlt => ?_
      have hane : a ≠ b := by simpa using (List.mem_filter.mp ha).2
      have hcne : c ≠ b := by simpa using (List.mem_filter.mp hc).2
      rw [List.idxOf_cons_ne _ hane.symm, List.idxOf_cons_ne _ hcne.symm]
      exact Nat.succ_lt_succ hlt

variable {cs : List Candidate} {a b c : Candidate} {i j : Nat}

/-- The places of the candidates with a property. -/
def placesOf (cs : List Candidate) (q : Candidate → Bool) : List Nat :=
  (List.range cs.length).filter fun i => cs[i]?.any q

theorem mem_placesOf {q : Candidate → Bool} :
    i ∈ placesOf cs q ↔ ∃ c, cs[i]? = some c ∧ q c = true := by
  simp only [placesOf, List.mem_filter, List.mem_range, Option.any_eq_true]
  refine and_iff_right_of_imp ?_
  rintro ⟨c, hc, -⟩
  exact (List.getElem?_eq_some_iff.mp hc).1

theorem pairwise_placesOf (cs : List Candidate) (q : Candidate → Bool) :
    (placesOf cs q).Pairwise (· < ·) :=
  List.pairwise_lt_range.filter _

theorem filterMap_range_getElem? (cs : List Candidate) :
    (List.range cs.length).filterMap (cs[·]?) = cs := by
  induction cs with
  | nil => rfl
  | cons c cs ih =>
    rw [List.length_cons, List.range_succ_eq_map, List.filterMap_cons_some List.getElem?_cons_zero,
      List.filterMap_map]
    exact congrArg (c :: ·) ih

theorem filter_filterMap_getElem? (cs : List Candidate) (q : Candidate → Bool) (places : List Nat) :
    (places.filterMap (cs[·]?)).filter q =
      (places.filter fun i => cs[i]?.any q).filterMap (cs[·]?) := by
  rw [List.filter_filterMap, List.filterMap_filter]
  refine List.filterMap_congr fun i _ => ?_
  rcases cs[i]? with _ | c
  · rfl
  · by_cases hq : q c <;> simp [hq, Option.filter]

theorem filterMap_placesOf (cs : List Candidate) (q : Candidate → Bool) :
    (placesOf cs q).filterMap (cs[·]?) = cs.filter q := by
  rw [placesOf, ← filter_filterMap_getElem?, filterMap_range_getElem?]

/-! ### Who comes first -/

/-- The first place at which the stack of a candidate appears. -/
def stackPlace (cs : List Candidate) (c : Candidate) : Nat := (cs.map (·.stack)).idxOf c.stack

theorem stackPlace_congr (cs : List Candidate) (h : a.stack = b.stack) :
    stackPlace cs a = stackPlace cs b := by
  rw [stackPlace, stackPlace, h]

theorem stackPlace_le (ha : cs[i]? = some a) : stackPlace cs a ≤ i := by
  obtain ⟨hi, rfl⟩ := List.getElem?_eq_some_iff.mp ha
  by_contra hlt
  have hne := List.not_of_lt_findIdx (Nat.not_le.mp hlt)
  simp at hne

theorem exists_at_stackPlace (ha : a ∈ cs) :
    ∃ c, cs[stackPlace cs a]? = some c ∧ c.stack = a.stack := by
  have hget := List.getElem?_idxOf (List.mem_map_of_mem (f := Candidate.stack) ha)
  rw [List.getElem?_map] at hget
  exact Option.map_eq_some_iff.mp hget

/-- **The candidate at one place is attempted before that at another.** -/
def Precedes (cs : List Candidate) (i j : Nat) : Prop :=
  ∃ a b, cs[i]? = some a ∧ cs[j]? = some b ∧
    (stackPlace cs a < stackPlace cs b ∨ a.stack = b.stack ∧
      (a.expensive = false ∧ b.expensive = true ∨ a.expensive = b.expensive ∧ i < j))

theorem Precedes.asymm (h : Precedes cs i j) : ¬ Precedes cs j i := by
  obtain ⟨a, b, ha, hb, h⟩ := h
  rintro ⟨b', a', hb', ha', h'⟩
  obtain rfl : a = a' := Option.some.inj (ha.symm.trans ha')
  obtain rfl : b = b' := Option.some.inj (hb.symm.trans hb')
  rcases h with h | ⟨hs, h⟩
  · rcases h' with h' | ⟨hs', -⟩
    · omega
    · have := stackPlace_congr cs hs'
      omega
  · have := stackPlace_congr cs hs
    rcases h' with h' | ⟨-, h'⟩
    · omega
    · rcases h with ⟨hfree, hcost⟩ | ⟨hsame, hlt⟩ <;> rcases h' with ⟨hfree', hcost'⟩ | ⟨hsame', hlt'⟩
      · simp [hfree] at hcost'
      · simp [hfree, hcost] at hsame'
      · simp [hfree', hcost'] at hsame
      · omega

/-- **A candidate overtakes one at an earlier place**: they have one stack and only the earlier one
costs money, or its own stack appeared first. -/
def Overtakes (cs : List Candidate) (j i : Nat) : Prop :=
  ∃ a b, cs[i]? = some a ∧ cs[j]? = some b ∧
    (a.stack = b.stack ∧ a.expensive = true ∧ b.expensive = false ∨
      stackPlace cs b < stackPlace cs a)

theorem overtakes_iff (hij : i < j) : Overtakes cs j i ↔ Precedes cs j i := by
  constructor
  · rintro ⟨a, b, ha, hb, ⟨hs, hcost, hfree⟩ | hlt⟩
    · exact ⟨b, a, hb, ha, Or.inr ⟨hs.symm, Or.inl ⟨hfree, hcost⟩⟩⟩
    · exact ⟨b, a, hb, ha, Or.inl hlt⟩
  · rintro ⟨b, a, hb, ha, hlt | ⟨hs, ⟨hfree, hcost⟩ | ⟨-, hji⟩⟩⟩
    · exact ⟨a, b, ha, hb, Or.inr hlt⟩
    · exact ⟨a, b, ha, hb, Or.inl ⟨hs.symm, hcost, hfree⟩⟩
    · omega

/-! ### The arrangement -/

/-- **The places of candidates in the order of their attempts.** -/
def arrangement (cs : List Candidate) : List Nat :=
  (firstOfEach id (cs.map (·.stack))).flatMap fun stack =>
    placesOf cs (fun c => c.stack == stack && !c.expensive) ++
      placesOf cs (fun c => c.stack == stack && c.expensive)

theorem costlyLast_eq (cs : List Candidate) :
    costlyLast cs = (arrangement cs).filterMap (cs[·]?) := by
  simp only [costlyLast, arrangement, List.filterMap_flatMap, List.filterMap_append,
    filterMap_placesOf, List.filter_filter, Bool.and_comm]

theorem mem_arrangement : i ∈ arrangement cs ↔ i < cs.length := by
  simp only [arrangement, List.mem_flatMap, List.mem_append, mem_placesOf, Bool.and_eq_true,
    beq_iff_eq, Bool.not_eq_true']
  constructor
  · rintro ⟨stack, -, ⟨c, hc, -⟩ | ⟨c, hc, -⟩⟩ <;> exact (List.getElem?_eq_some_iff.mp hc).1
  · intro hi
    have hget := List.getElem?_eq_getElem hi
    have hstack : cs[i].stack ∈ cs.map (·.stack) := List.mem_map_of_mem (List.getElem_mem hi)
    refine ⟨cs[i].stack, mem_firstOfEach_id.mpr hstack, ?_⟩
    rcases hcost : cs[i].expensive with _ | _
    · exact Or.inl ⟨cs[i], hget, rfl, hcost⟩
    · exact Or.inr ⟨cs[i], hget, rfl, hcost⟩

theorem pairwise_arrangement (cs : List Candidate) :
    (arrangement cs).Pairwise (Precedes cs) := by
  rw [arrangement, List.pairwise_flatMap]
  constructor
  · -- Within a stack.
    intro stack _
    have hgroup : ∀ costs : Bool,
        (placesOf cs fun c => c.stack == stack && (c.expensive == costs)).Pairwise
          (Precedes cs) := by
      intro costs
      refine (pairwise_placesOf cs _).imp_of_mem fun {i j} hi hj hlt => ?_
      obtain ⟨a, ha, hqa⟩ := mem_placesOf.mp hi
      obtain ⟨b, hb, hqb⟩ := mem_placesOf.mp hj
      simp only [Bool.and_eq_true, beq_iff_eq] at hqa hqb
      exact ⟨a, b, ha, hb, Or.inr ⟨hqa.1.trans hqb.1.symm,
        Or.inr ⟨hqa.2.trans hqb.2.symm, hlt⟩⟩⟩
    refine List.pairwise_append.mpr ⟨by simpa using hgroup false, by simpa using hgroup true, ?_⟩
    intro i hi j hj
    obtain ⟨a, ha, hqa⟩ := mem_placesOf.mp hi
    obtain ⟨b, hb, hqb⟩ := mem_placesOf.mp hj
    simp only [Bool.and_eq_true, beq_iff_eq, Bool.not_eq_true'] at hqa hqb
    exact ⟨a, b, ha, hb, Or.inr ⟨hqa.1.trans hqb.1.symm, Or.inl ⟨hqa.2, hqb.2⟩⟩⟩
  · -- From stack to stack.
    refine (pairwise_idxOf_firstOfEach (cs.map (·.stack))).imp ?_
    intro s s' hlt i hi j hj
    have hstack : ∀ {s i}, i ∈ placesOf cs (fun c => c.stack == s && !c.expensive) ++
        placesOf cs (fun c => c.stack == s && c.expensive) →
        ∃ c, cs[i]? = some c ∧ c.stack = s := by
      intro s i hi
      rcases List.mem_append.mp hi with hi | hi
      all_goals
        obtain ⟨c, hc, hq⟩ := mem_placesOf.mp hi
        exact ⟨c, hc, beq_iff_eq.mp (Bool.and_eq_true_iff.mp hq).1⟩
    obtain ⟨a, ha, rfl⟩ := hstack hi
    obtain ⟨b, hb, rfl⟩ := hstack hj
    exact ⟨a, b, ha, hb, Or.inl hlt⟩

theorem nodup_arrangement (cs : List Candidate) : (arrangement cs).Nodup :=
  (pairwise_arrangement cs).imp fun h he => (he ▸ h).asymm (he ▸ h)

theorem perm_arrangement (cs : List Candidate) :
    (arrangement cs).Perm (List.range cs.length) := by
  rw [List.perm_ext_iff_of_nodup (nodup_arrangement cs) List.nodup_range]
  simp [mem_arrangement]

theorem pair_sublist_or {α : Type} {l : List α} {x y : α} (hx : x ∈ l) (hy : y ∈ l) (hne : x ≠ y) :
    [x, y].Sublist l ∨ [y, x].Sublist l := by
  induction l with
  | nil => cases hx
  | cons z l ih =>
    rcases List.mem_cons.mp hx with rfl | hxl
    · have hyl := (List.mem_cons.mp hy).resolve_left hne.symm
      exact Or.inl ((List.singleton_sublist.mpr hyl).cons_cons x)
    · rcases List.mem_cons.mp hy with rfl | hyl
      · exact Or.inr ((List.singleton_sublist.mpr hxl).cons_cons y)
      · exact (ih hxl hyl).imp (·.cons z) (·.cons z)

/-- **Which of two candidates is attempted first.** -/
theorem sublist_arrangement_iff (hi : i < cs.length) (hj : j < cs.length) :
    [i, j].Sublist (arrangement cs) ↔ Precedes cs i j := by
  have hbefore : ∀ {i j}, [i, j].Sublist (arrangement cs) → Precedes cs i j := fun h =>
    List.rel_of_pairwise_cons ((pairwise_arrangement cs).sublist h) (List.mem_singleton_self _)
  refine ⟨hbefore, fun h => ?_⟩
  have hne : i ≠ j := fun he => (he ▸ h).asymm (he ▸ h)
  refine (pair_sublist_or (mem_arrangement.mpr hi) (mem_arrangement.mpr hj) hne).resolve_right ?_
  exact fun hji => h.asymm (hbefore hji)

/-! ### Where nothing is moved -/

/-- In the list that comes out, a stack does not come behind one that appeared after it, and within
a stack no candidate that costs nothing comes behind one that costs money. -/
theorem pairwise_costlyLast (cs : List Candidate) :
    (costlyLast cs).Pairwise fun a b => stackPlace cs a < stackPlace cs b ∨
      a.stack = b.stack ∧ (a.expensive = true → b.expensive = true) := by
  rw [costlyLast_eq, List.pairwise_filterMap]
  refine (pairwise_arrangement cs).imp ?_
  rintro i j ⟨a, b, ha, hb, h⟩ a' ha' b' hb'
  obtain rfl : a = a' := Option.some.inj (ha.symm.trans ha')
  obtain rfl : b = b' := Option.some.inj (hb.symm.trans hb')
  refine h.imp_right fun ⟨hs, hcost⟩ => ⟨hs, fun hcostly => ?_⟩
  rcases hcost with ⟨hfree, -⟩ | ⟨hsame, -⟩
  · rw [hcostly] at hfree
    cases hfree
  · rw [← hsame, hcostly]

/-- **Nothing is moved** if no candidate overtakes another, and only then. -/
theorem costlyLast_eq_self_iff : costlyLast cs = cs ↔ ∀ i j, i < j → ¬ Overtakes cs j i := by
  constructor
  · rintro hself i j hij ⟨a, b, ha, hb, hover⟩
    have hpair := pairwise_costlyLast cs
    rw [hself, List.pairwise_iff_getElem] at hpair
    obtain ⟨hi, rfl⟩ := List.getElem?_eq_some_iff.mp ha
    obtain ⟨hj, rfl⟩ := List.getElem?_eq_some_iff.mp hb
    have hab := hpair i j hi hj hij
    rcases hover with ⟨hs, hcost, hfree⟩ | hlt
    · rcases hab with hlt | ⟨-, hab⟩
      · have := stackPlace_congr cs hs
        omega
      · rw [hab hcost] at hfree
        cases hfree
    · rcases hab with hlt' | ⟨hs, -⟩
      · omega
      · have := stackPlace_congr cs hs
        omega
  · intro hnone
    have hsorted : (arrangement cs).Pairwise (· < ·) := by
      refine (pairwise_arrangement cs).imp ?_
      intro i j h
      rcases Nat.lt_trichotomy i j with hij | rfl | hji
      · exact hij
      · exact absurd h h.asymm
      · exact absurd ((overtakes_iff hji).mpr h) (hnone j i hji)
    have hrange : arrangement cs = List.range cs.length :=
      (perm_arrangement cs).eq_of_pairwise (fun i j _ _ hij hji => by omega) hsorted
        List.pairwise_lt_range
    rw [costlyLast_eq, hrange, filterMap_range_getElem?]

/-- **Stack by stack:** the candidates of each stack stand together, in the order of the stacks. -/
structure StackByStack (acceptable : List Stack) (cs : List Candidate) : Prop where
  mem : ∀ c ∈ cs, c.stack ∈ acceptable
  sorted : cs.Pairwise fun a b => acceptable.idxOf a.stack ≤ acceptable.idxOf b.stack

/-- **Candidates that come stack by stack and cost nothing** stay as they are. -/
theorem StackByStack.costlyLast_eq_self {acceptable : List Stack} (h : StackByStack acceptable cs)
    (hfree : ∀ c ∈ cs, c.expensive = false) : costlyLast cs = cs := by
  rw [costlyLast_eq_self_iff]
  rintro i j hij ⟨a, b, ha, hb, ⟨-, hcost, -⟩ | hlt⟩
  · rw [hfree a (List.mem_of_getElem? ha)] at hcost
    cases hcost
  · -- Where the stack of the later one first appeared, a third one stands before both.
    obtain ⟨c, hc, hcs⟩ := exists_at_stackPlace (List.mem_of_getElem? hb)
    have hki : stackPlace cs b < i := Nat.lt_of_lt_of_le hlt (stackPlace_le ha)
    obtain ⟨hk, rfl⟩ := List.getElem?_eq_some_iff.mp hc
    obtain ⟨hi, rfl⟩ := List.getElem?_eq_some_iff.mp ha
    obtain ⟨hj, rfl⟩ := List.getElem?_eq_some_iff.mp hb
    have hsorted := List.pairwise_iff_getElem.mp h.sorted
    have hca := hsorted _ i hk hi hki
    have hab := hsorted i j hi hj hij
    rw [hcs] at hca
    have hsame : cs[i].stack = cs[j].stack :=
      (List.idxOf_inj (h.mem _ (List.getElem_mem hi))).mp (Nat.le_antisymm hab hca)
    have := stackPlace_congr cs hsame
    omega

/-! ### Candidates of preconnections -/

theorem Properties.nodup_acceptableStacks (wanted : Properties) (secure : Bool) :
    (wanted.acceptableStacks secure).Nodup := by
  have hoffered : (Properties.offered secure).Nodup := by cases secure <;> decide
  rw [acceptableStacks, List.nodup_flatMap]
  refine ⟨fun n _ => (hoffered.filter _).filter _, ?_⟩
  have hne : [3, 2, 1, 0].Pairwise (· ≠ ·) := by decide
  refine hne.imp ?_
  intro m n hmn
  refine List.disjoint_left.mpr fun stack hm hn => hmn ?_
  have hpm := (List.mem_filter.mp hm).2
  have hpn := (List.mem_filter.mp hn).2
  exact (beq_iff_eq.mp hpm).symm.trans (beq_iff_eq.mp hpn)

theorem pairwise_idxOf_of_nodup {acceptable : List Stack} (h : acceptable.Nodup) :
    acceptable.Pairwise fun s s' => acceptable.idxOf s < acceptable.idxOf s' := by
  rw [List.pairwise_iff_getElem]
  intro i j hi hj hij
  rwa [h.idxOf_getElem, h.idxOf_getElem]

namespace StackByStack

variable {acceptable : List Stack}

theorem sublist {cs' : List Candidate} (h : StackByStack acceptable cs) (hsub : cs'.Sublist cs) :
    StackByStack acceptable cs' :=
  ⟨fun c hc => h.mem c (hsub.subset hc), h.sorted.sublist hsub⟩

theorem of_candidates {table : HostTable} {e : RemoteEndpoint} (hstacks : acceptable.Nodup)
    (h : e.candidates table acceptable = .ok cs) : StackByStack acceptable cs := by
  refine ⟨fun c hc => ((RemoteEndpoint.mem_candidates h).mp hc).1, ?_⟩
  obtain ⟨found, -, rfl⟩ := RemoteEndpoint.candidates_eq_ok h
  rw [List.pairwise_flatMap]
  constructor
  · intro stack _
    rw [List.pairwise_map]
    exact List.pairwise_of_forall fun _ _ => Nat.le_refl _
  · refine ((pairwise_idxOf_of_nodup hstacks).filter _).imp ?_
    intro s s' hlt a ha b hb
    obtain ⟨-, -, rfl⟩ := List.mem_map.mp ha
    obtain ⟨-, -, rfl⟩ := List.mem_map.mp hb
    exact Nat.le_of_lt hlt

theorem of_length_le_one (hone : acceptable.length ≤ 1) (hmem : ∀ c ∈ cs, c.stack ∈ acceptable) :
    StackByStack acceptable cs := by
  refine ⟨hmem, List.pairwise_of_forall_mem_list fun a ha b hb => ?_⟩
  have hsame : a.stack = b.stack := by
    have hab := hmem a ha
    have hbb := hmem b hb
    match acceptable, hone with
    | [stack], _ => exact (List.mem_singleton.mp hab).trans (List.mem_singleton.mp hbb).symm
    | [], _ => cases hab
  exact Nat.le_of_eq (by rw [hsame])

theorem bindLocals {bound : List Candidate} {locals : List LocalEndpoint}
    {interfaces : List Interface} (h : StackByStack acceptable cs)
    (hb : Dialer.bindLocals cs locals interfaces = .ok bound) : StackByStack acceptable bound := by
  rcases bindLocals_eq_ok hb with rfl | ⟨rfl, -⟩
  · exact h
  have hstack : ∀ {c b : Candidate}, b ∈ c.bindTo locals interfaces → b.stack = c.stack := by
    intro c b hb
    obtain ⟨-, -, -, -, rfl⟩ := Candidate.mem_bindTo.mp hb
    rfl
  constructor
  · intro b hb
    obtain ⟨c, hc, hb⟩ := List.mem_flatMap.mp hb
    rw [hstack hb]
    exact h.mem c hc
  · rw [List.pairwise_flatMap]
    constructor
    · intro c _
      refine List.pairwise_of_forall_mem_list fun a ha b hb => ?_
      exact Nat.le_of_eq (by rw [hstack ha, hstack hb])
    · refine h.sorted.imp ?_
      intro c c' hle a ha b hb
      rwa [hstack ha, hstack hb]

end StackByStack

namespace Preconnection

variable {p : Preconnection} {table : HostTable} {source : Source} {bound : List Candidate}

theorem boundCandidates_of_nil (hlocals : p.locals = []) :
    p.boundCandidates table source = p.resolve table := by
  unfold boundCandidates
  rcases p.resolve table with failure | resolved
  · rfl
  · simp only [hlocals, List.isEmpty_nil, if_true, bind, Except.bind, bindLocals]

/-- What one endpoint resolves to, or what is for one stack only, comes stack by stack. -/
theorem stackByStack_resolve {resolved : List Candidate} (h : p.resolve table = .ok resolved)
    (hone : p.wantedStacks.length ≤ 1 ∨ p.remotes.length ≤ 1) :
    StackByStack p.wantedStacks resolved := by
  have hok := resolve_eq_ok h
  rcases hone with hone | hone
  · refine .of_length_le_one hone fun c hc => ?_
    obtain ⟨e, -, own, hown, hc⟩ := exists_of_mem_resolveEndpoints hok hc
    exact ((RemoteEndpoint.mem_candidates hown).mp hc).1
  · have hstacks : p.wantedStacks.Nodup := p.properties.nodup_acceptableStacks p.security.enabled
    obtain ⟨-, rfl⟩ := resolveEndpoints_eq_ok hok
    refine StackByStack.sublist ?_ (firstOfEach_sublist _ _)
    match p.remotes, hone with
    | [], _ => exact ⟨by simp [separate], by simp [separate]⟩
    | [e], _ =>
      rcases hown : e.candidates table p.wantedStacks with failure | own
      · exact ⟨by simp [separate, hown], by simp [separate, hown]⟩
      · simpa [separate, hown] using StackByStack.of_candidates hstacks hown

/-- **How candidates are arranged.** What binding leaves, which without local endpoints is what
resolution finds, is moved only so far: a candidate overtakes another of its stack if that costs money
and it does not itself, and one of another stack if its own appeared first. If no candidate costs
money and there is one remote endpoint only, or one acceptable stack, nothing is moved. -/
theorem candidates_arranged (table : HostTable) (source : Source) (p : Preconnection) :
    (p.candidates table source).1 = (p.boundCandidates table source).map costlyLast ∧
    (p.locals = [] → p.boundCandidates table source = p.resolve table) ∧
    ∀ bound, p.boundCandidates table source = .ok bound →
      (∃ order : List Nat, order.Perm (List.range bound.length) ∧
        (p.candidates table source).1 = .ok (order.filterMap (bound[·]?)) ∧
        ∀ i j, i < j → j < bound.length →
          ([j, i].Sublist order ↔ Overtakes bound j i)) ∧
      ((p.candidates table source).1 = .ok bound ↔ ∀ i j, i < j → ¬ Overtakes bound j i) ∧
      (p.wantedStacks.length ≤ 1 ∨ p.remotes.length ≤ 1 →
        (∀ c ∈ bound, c.expensive = false) → (p.candidates table source).1 = .ok bound) := by
  refine ⟨candidates_eq_map table source p, boundCandidates_of_nil, fun bound hbound => ?_⟩
  have hcandidates : (p.candidates table source).1 = .ok (costlyLast bound) := by
    rw [candidates_eq_map, hbound]
    rfl
  rw [hcandidates]
  refine ⟨⟨arrangement bound, perm_arrangement bound, by rw [costlyLast_eq], ?_⟩, ?_, ?_⟩
  · intro i j hij hj
    rw [sublist_arrangement_iff hj (Nat.lt_trans hij hj), overtakes_iff hij]
  · rw [Except.ok.injEq, costlyLast_eq_self_iff]
  · intro hone hfree
    obtain ⟨resolved, interfaces, hresolve, hbind⟩ := boundCandidates_eq_ok hbound
    have hstacks := (stackByStack_resolve hresolve hone).bindLocals hbind
    rw [hstacks.costlyLast_eq_self hfree]

/-- Two endpoints that may be attempted with TCP and with UDP. -/
def twoOpen : Preconnection where
  remotes :=
    [{ address := some (.unspecified false), port := some 1 },
      { address := some (.unspecified false), port := some 2 }]
  properties := { reliability := .indifferent, order := .indifferent }
  security := { disabled := true }

/-- A candidate at a port. -/
def openAt (port : UInt16) (stack : Stack) : Candidate :=
  { address := ⟨.unspecified false, port, 0⟩, stack }

/-- Of two endpoints none costs anything, but the second is attempted with TCP before the first is
with UDP. -/
theorem candidates_twoOpen :
    twoOpen.resolve {} = .ok [openAt 1 .tcp, openAt 1 .udp, openAt 2 .tcp, openAt 2 .udp] ∧
      (twoOpen.candidates {} {}).1 =
        .ok [openAt 1 .tcp, openAt 2 .tcp, openAt 1 .udp, openAt 2 .udp] := by
  exact ⟨by rfl, by rfl⟩

end Preconnection

end Dialer
