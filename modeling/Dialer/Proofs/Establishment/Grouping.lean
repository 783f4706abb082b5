import Dialer.Proofs.Establishment.Arrangement
import Mathlib.Data.List.Perm.Basic

/-!
# Costly candidates last

`Regroups` says what becomes of a list when its costly candidates are put last, without regard to
how it is done: none is lost, those of a stack stand together, the costly ones behind the others,
and apart from that all stand as they did. The list is in this order then, so that putting its
costly candidates last once more changes nothing (`regroups_costlyLast`).
-/

namespace Dialer

variable {cs : List Candidate} {a b c : Candidate} {i j : Nat}

/-! ### Candidates of one kind -/

/-- Whether a candidate is of a stack, and costly or not. -/
def Candidate.ofKind (stack : Stack) (costs : Bool) (c : Candidate) : Bool :=
  c.stack == stack && c.expensive == costs

theorem Candidate.ofKind_iff {stack : Stack} {costs : Bool} :
    c.ofKind stack costs = true ↔ c.stack = stack ∧ c.expensive = costs := by
  rw [ofKind, Bool.and_eq_true, beq_iff_eq, beq_iff_eq]

theorem costlyLast_eq_flatMap_ofKind (cs : List Candidate) :
    costlyLast cs = (firstOfEach id (cs.map (·.stack))).flatMap fun stack =>
      cs.filter (·.ofKind stack false) ++ cs.filter (·.ofKind stack true) := by
  have hkind : ∀ stack costs, (cs.filter (·.stack == stack)).filter (·.expensive == costs) =
      cs.filter (·.ofKind stack costs) := fun stack costs => by
    rw [List.filter_filter]
    exact List.filter_congr fun c _ => Bool.and_comm _ _
  simp only [costlyLast, ← hkind, beq_false, beq_true]

theorem Precedes.lt_of_ofKind {stack : Stack} {costs : Bool} (h : Precedes cs i j)
    (hi : i ∈ placesOf cs (·.ofKind stack costs)) (hj : j ∈ placesOf cs (·.ofKind stack costs)) :
    i < j := by
  obtain ⟨a, b, ha, hb, h⟩ := h
  obtain ⟨a', ha', hka⟩ := mem_placesOf.mp hi
  obtain ⟨b', hb', hkb⟩ := mem_placesOf.mp hj
  obtain rfl : a = a' := Option.some.inj (ha.symm.trans ha')
  obtain rfl : b = b' := Option.some.inj (hb.symm.trans hb')
  obtain ⟨hsa, hca⟩ := Candidate.ofKind_iff.mp hka
  obtain ⟨hsb, hcb⟩ := Candidate.ofKind_iff.mp hkb
  rcases h with hlt | ⟨-, ⟨hfree, hcost⟩ | ⟨-, hlt⟩⟩
  · have := stackPlace_congr cs (hsa.trans hsb.symm)
    omega
  · rw [hca] at hfree
    rw [hcb, hfree] at hcost
    cases hcost
  · exact hlt

/-- **Candidates of one kind** stand as they did. -/
theorem filter_ofKind_costlyLast (cs : List Candidate) (stack : Stack) (costs : Bool) :
    (costlyLast cs).filter (·.ofKind stack costs) = cs.filter (·.ofKind stack costs) := by
  have hperm : ((arrangement cs).filter fun i => cs[i]?.any (·.ofKind stack costs)).Perm
      (placesOf cs (·.ofKind stack costs)) := (perm_arrangement cs).filter _
  have hsorted : ((arrangement cs).filter fun i =>
      cs[i]?.any (·.ofKind stack costs)).Pairwise (· < ·) :=
    ((pairwise_arrangement cs).filter _).imp_of_mem fun hi hj h =>
      h.lt_of_ofKind (hperm.mem_iff.mp hi) (hperm.mem_iff.mp hj)
  have hplaces := hperm.eq_of_pairwise (fun i j _ _ hij hji => by omega) hsorted
    (pairwise_placesOf cs _)
  rw [costlyLast_eq, filter_filterMap_getElem?, hplaces, filterMap_placesOf]

/-! ### Stacks -/

theorem idxOf_lt_idxOf_iff {β : Type} [DecidableEq β] {f : β → Nat} {l : List β}
    (h : l.Pairwise fun x y => f x < f y ∨ x = y) {x y : β} (hx : x ∈ l) (hy : y ∈ l) :
    l.idxOf x < l.idxOf y ↔ f x < f y := by
  have hlt : ∀ {x y}, x ∈ l → y ∈ l → l.idxOf x < l.idxOf y → f x < f y := by
    intro x y hx hy hlt
    have hxy := List.pairwise_iff_getElem.mp h _ _ (List.idxOf_lt_length_of_mem hx)
      (List.idxOf_lt_length_of_mem hy) hlt
    rw [List.getElem_idxOf, List.getElem_idxOf] at hxy
    refine hxy.resolve_right ?_
    rintro rfl
    exact Nat.lt_irrefl _ hlt
  refine ⟨hlt hx hy, fun hf => ?_⟩
  rcases Nat.lt_trichotomy (l.idxOf x) (l.idxOf y) with hxy | hxy | hxy
  · exact hxy
  · obtain rfl := (List.idxOf_inj hx).mp hxy
    exact absurd hf (Nat.lt_irrefl _)
  · exact absurd (hlt hy hx hxy) (Nat.lt_asymm hf)

theorem stackPlace_costlyLast_lt_iff (ha : a ∈ cs) (hb : b ∈ cs) :
    stackPlace (costlyLast cs) a < stackPlace (costlyLast cs) b ↔
      stackPlace cs a < stackPlace cs b := by
  have hmem : ∀ {c}, c ∈ cs → c.stack ∈ (costlyLast cs).map (·.stack) := fun hc =>
    List.mem_map_of_mem (mem_costlyLast.mpr hc)
  have hsorted : ((costlyLast cs).map (·.stack)).Pairwise fun s s' =>
      (cs.map (·.stack)).idxOf s < (cs.map (·.stack)).idxOf s' ∨ s = s' :=
    List.pairwise_map.mpr ((pairwise_costlyLast cs).imp fun h => h.imp id And.left)
  exact idxOf_lt_idxOf_iff hsorted (hmem ha) (hmem hb)

/-- So each stack is kept once, in the same order as before. -/
theorem firstOfEach_stack_costlyLast (cs : List Candidate) :
    firstOfEach id ((costlyLast cs).map (·.stack)) = firstOfEach id (cs.map (·.stack)) := by
  have hmem : ∀ s, s ∈ (costlyLast cs).map (·.stack) ↔ s ∈ cs.map (·.stack) := fun s => by
    simp only [List.mem_map, mem_costlyLast]
  have hperm : (firstOfEach id ((costlyLast cs).map (·.stack))).Perm
      (firstOfEach id (cs.map (·.stack))) :=
    (List.perm_ext_iff_of_nodup (pairwise_firstOfEach id _) (pairwise_firstOfEach id _)).mpr
      fun s => by rw [mem_firstOfEach_id, mem_firstOfEach_id, hmem]
  have hsorted : (firstOfEach id ((costlyLast cs).map (·.stack))).Pairwise fun s s' =>
      (cs.map (·.stack)).idxOf s < (cs.map (·.stack)).idxOf s' := by
    refine (pairwise_idxOf_firstOfEach _).imp_of_mem fun {s s'} hs hs' hlt => ?_
    obtain ⟨a, ha, rfl⟩ := List.mem_map.mp ((hmem s).mp (mem_firstOfEach_id.mp hs))
    obtain ⟨b, hb, rfl⟩ := List.mem_map.mp ((hmem s').mp (mem_firstOfEach_id.mp hs'))
    exact (stackPlace_costlyLast_lt_iff ha hb).mp hlt
  exact hperm.eq_of_pairwise (fun s s' _ _ hlt hgt => absurd hgt (Nat.lt_asymm hlt)) hsorted
    (pairwise_idxOf_firstOfEach _)

theorem perm_costlyLast (cs : List Candidate) : (costlyLast cs).Perm cs := by
  have h := (perm_arrangement cs).filterMap (cs[·]?)
  rwa [← costlyLast_eq, filterMap_range_getElem?] at h

/-! ### All together -/

/-- **What putting costly candidates last makes of a list:** -/
structure Regroups (cs result : List Candidate) : Prop where
  /-- No candidate is lost, added or changed. -/
  perm : result.Perm cs
  /-- What stands between two candidates of one stack is of that stack. -/
  together : ∀ front a middle b rest, result = front ++ a :: middle ++ b :: rest →
    a.stack = b.stack → ∀ c ∈ middle, c.stack = a.stack
  /-- Stacks come in the order in which they first appeared. -/
  ordered : ∀ a ∈ cs, ∀ b ∈ cs,
    (stackPlace result a < stackPlace result b ↔ stackPlace cs a < stackPlace cs b)
  /-- Behind a costly candidate there are only costly ones of its stack. -/
  costly : result.Pairwise fun a b => a.stack = b.stack → a.expensive = true → b.expensive = true
  /-- Candidates of one stack that cost the same stand as they did. -/
  stable : ∀ stack costs, result.filter (·.ofKind stack costs) = cs.filter (·.ofKind stack costs)
  /-- Doing it again changes nothing. -/
  again : costlyLast result = result

theorem regroups_costlyLast (cs : List Candidate) : Regroups cs (costlyLast cs) where
  perm := perm_costlyLast cs
  together front a middle b rest heq hab c hc := by
    have hplace := stackPlace_congr cs hab
    have hpair := pairwise_costlyLast cs
    rw [heq, List.append_assoc, List.pairwise_append, List.cons_append, List.pairwise_cons,
      List.pairwise_append] at hpair
    obtain ⟨-, ⟨hac, -, -, hcb⟩, -⟩ := hpair
    have hac := hac c (List.mem_append_left _ hc)
    have hcb := hcb c hc b List.mem_cons_self
    rcases hac with hlt | ⟨hstack, -⟩
    · rcases hcb with hlt' | ⟨hstack, -⟩
      · omega
      · have := stackPlace_congr cs hstack
        omega
    · exact hstack.symm
  ordered a ha b hb := stackPlace_costlyLast_lt_iff ha hb
  costly := by
    refine (pairwise_costlyLast cs).imp fun {a b} h hab => ?_
    rcases h with hlt | ⟨-, h⟩
    · have := stackPlace_congr cs hab
      omega
    · exact h
  stable := filter_ofKind_costlyLast cs
  again := by
    rw [costlyLast_eq_flatMap_ofKind (costlyLast cs), firstOfEach_stack_costlyLast]
    simp only [filter_ofKind_costlyLast]
    rw [costlyLast_eq_flatMap_ofKind]

end Dialer
