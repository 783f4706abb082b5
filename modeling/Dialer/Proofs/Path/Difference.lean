import Dialer.Path.Change
import Mathlib.Data.List.Induction
import Mathlib.Data.List.Nodup

/-!
# What changes between two snapshots

In a snapshot the last entry with an index counts, `Snapshot.lastAt?`. An interface change between
two snapshots is about one index and tells the entries there before and after
(`Snapshot.mem_interfaceChanges`). No index is told of twice (`Snapshot.nodup_interfaceChanges`),
and where none is told of, the entries are the same (`Snapshot.sameEntry_of_notMem`).
-/

namespace Dialer

/-- Whether nothing that matters differs between two entries, or both are missing. -/
def SameEntry (a b : Option Interface) : Prop := Option.Rel (fun i j => i.alike j = true) a b

namespace SameEntry

variable {a b c : Option Interface}

theorem refl (a : Option Interface) : SameEntry a a := by
  rcases a with _ | i
  · exact .none
  · exact .some (Interface.alike_refl i)

theorem trans (h : SameEntry a b) (h' : SameEntry b c) : SameEntry a c := by
  rcases h with hij | _
  · rcases h' with hjk | _
    exact .some (Interface.alike_trans hij hjk)
  · exact h'

end SameEntry

namespace Snapshot

/-- The entry with an index that counts, the last one. -/
def lastAt? (interfaces : List Interface) (index : Nat) : Option Interface :=
  interfaces.reverse.find? (·.index == index)

variable {sorted old new : List Interface} {i j : Interface} {index : Nat}

theorem index_of_lastAt? (h : lastAt? old index = some i) : i.index = index := by
  have := List.find?_some h
  simpa using this

theorem index_of_withIndex? (h : withIndex? old index = some i) : i.index = index := by
  have := List.find?_some h
  simpa using this

/-! ### The table of a snapshot -/

theorem withIndex?_insert : withIndex? (insert i sorted) index =
    if i.index = index then some i else withIndex? sorted index := by
  unfold withIndex?
  induction sorted with
  | nil => by_cases hi : i.index = index <;> simp [insert, hi]
  | cons j rest ih =>
    by_cases hi : i.index = index
    · rw [if_pos hi] at ih ⊢
      unfold insert
      split_ifs with hlt heq
      · simp [hi]
      · simp [hi]
      · have hj : j.index ≠ index := fun hj => heq (hi.trans hj.symm)
        simp [hj, ih]
    · rw [if_neg hi] at ih ⊢
      unfold insert
      split_ifs with hlt heq
      · simp [hi]
      · have hj : j.index ≠ index := heq ▸ hi
        simp [hi, hj]
      · simp only [List.find?_cons, ih]

/-- The table has the entries that count. -/
theorem withIndex?_table (interfaces : List Interface) (index : Nat) :
    withIndex? (table interfaces) index = lastAt? interfaces index := by
  induction interfaces using List.reverseRecOn with
  | nil => rfl
  | append_singleton rest i ih =>
    have hinsert : table (rest ++ [i]) = insert i (table rest) := by simp [table]
    rw [hinsert, withIndex?_insert, ih]
    by_cases hi : i.index = index <;> simp [lastAt?, hi]

theorem mem_insert (h : j ∈ insert i sorted) : j = i ∨ j ∈ sorted := by
  induction sorted with
  | nil => exact Or.inl (List.mem_singleton.mp h)
  | cons k rest ih =>
    unfold insert at h
    split_ifs at h
    · exact List.mem_cons.mp h
    · exact (List.mem_cons.mp h).imp_right (List.mem_cons_of_mem _)
    · rcases List.mem_cons.mp h with rfl | h
      · exact Or.inr List.mem_cons_self
      · exact (ih h).imp_right (List.mem_cons_of_mem _)

theorem pairwise_insert (h : sorted.Pairwise (·.index < ·.index)) :
    (insert i sorted).Pairwise (·.index < ·.index) := by
  induction sorted with
  | nil => exact List.pairwise_singleton _ _
  | cons k rest ih =>
    obtain ⟨hk, hrest⟩ := List.pairwise_cons.mp h
    unfold insert
    split_ifs with hlt heq
    · refine List.pairwise_cons.mpr ⟨fun j hj => ?_, h⟩
      rcases List.mem_cons.mp hj with rfl | hj
      · exact hlt
      · exact Nat.lt_trans hlt (hk j hj)
    · exact List.pairwise_cons.mpr ⟨fun j hj => heq ▸ hk j hj, hrest⟩
    · refine List.pairwise_cons.mpr ⟨fun j hj => ?_, ih hrest⟩
      rcases mem_insert hj with rfl | hj
      · omega
      · exact hk j hj

/-- The table is in ascending order. -/
theorem pairwise_table (interfaces : List Interface) :
    (table interfaces).Pairwise (·.index < ·.index) := by
  induction interfaces using List.reverseRecOn with
  | nil => exact List.Pairwise.nil
  | append_singleton rest i ih =>
    have hinsert : table (rest ++ [i]) = insert i (table rest) := by simp [table]
    rw [hinsert]
    exact pairwise_insert ih

theorem withIndex?_of_mem (h : sorted.Pairwise (·.index < ·.index)) (hi : i ∈ sorted) :
    withIndex? sorted i.index = some i := by
  unfold withIndex?
  induction sorted with
  | nil => cases hi
  | cons k rest ih =>
    obtain ⟨hk, hrest⟩ := List.pairwise_cons.mp h
    rcases List.mem_cons.mp hi with rfl | hi
    · simp
    · have hne : k.index ≠ i.index := Nat.ne_of_lt (hk i hi)
      simp [hne, ih hrest hi]

theorem mem_table_iff : i ∈ table old ↔ lastAt? old i.index = some i := by
  rw [← withIndex?_table]
  exact ⟨withIndex?_of_mem (pairwise_table old), fun h => List.mem_of_find?_eq_some h⟩

/-! ### The changes -/

/-- **Which interface changes there are:** each tells the entries with one index in the old and in
the new snapshot. -/
theorem mem_interfaceChanges {c : Change} : c ∈ interfaceChanges old new ↔
    match c with
    | .removed o => lastAt? old o.index = some o ∧ lastAt? new o.index = none
    | .modified o n =>
      lastAt? old o.index = some o ∧ lastAt? new o.index = some n ∧ n.alike o = false
    | .added n => lastAt? old n.index = none ∧ lastAt? new n.index = some n
    | .rerouted _ _ => False := by
  simp only [interfaceChanges, withIndex?_table, List.mem_append, List.mem_map, List.mem_filter,
    List.mem_filterMap, mem_table_iff, Option.isNone_iff_eq_none, Option.bind_eq_some_iff]
  constructor
  · rintro ((⟨o, ⟨ho, hn⟩, rfl⟩ | ⟨⟨o, n⟩, ⟨o', ho, n', hn, hdiff⟩, rfl⟩) | ⟨n, ⟨hn, ho⟩, rfl⟩)
    · exact ⟨ho, hn⟩
    · split_ifs at hdiff with halike
      obtain ⟨rfl, rfl⟩ := Prod.mk.inj (Option.some.inj hdiff)
      exact ⟨ho, hn, Bool.eq_false_iff.mpr halike⟩
    · exact ⟨ho, hn⟩
  · intro h
    rcases c with o | ⟨o, n⟩ | n | _
    · exact Or.inl (Or.inl ⟨o, h, rfl⟩)
    · obtain ⟨ho, hn, hdiff⟩ := h
      exact Or.inl (Or.inr ⟨(o, n), ⟨o, ho, n, hn, by simp [hdiff]⟩, rfl⟩)
    · exact Or.inr ⟨n, ⟨h.2, h.1⟩, rfl⟩
    · exact h.elim

theorem exists_index? {c : Change} (h : c ∈ interfaceChanges old new) :
    ∃ index, c.index? = some index := by
  rcases c with o | ⟨o, n⟩ | n | _
  · exact ⟨_, rfl⟩
  · exact ⟨_, rfl⟩
  · exact ⟨_, rfl⟩
  · exact (mem_interfaceChanges.mp h).elim

/-- What kind of change an index sees is told by its entries. -/
theorem kind_of_mem {c : Change} (h : c ∈ interfaceChanges old new) (hi : c.index? = some index) :
    c.kind = match lastAt? old index, lastAt? new index with
      | some _, none => .removed
      | some _, some _ => .modified
      | none, _ => .added := by
  have hmem := mem_interfaceChanges.mp h
  rcases c with o | ⟨o, n⟩ | n | _ <;> cases hi
  · rw [hmem.1, hmem.2]
    rfl
  · obtain ⟨ho, hn, -⟩ := hmem
    rw [index_of_lastAt? hn, ho, hn]
    rfl
  · rw [hmem.1]
    rfl

theorem index?_ne_of_kind_ne {c c' : Change} (h : c ∈ interfaceChanges old new)
    (h' : c' ∈ interfaceChanges old new) (hkind : c.kind ≠ c'.kind) : c.index? ≠ c'.index? := by
  intro heq
  obtain ⟨index, hi⟩ := exists_index? h
  exact hkind ((kind_of_mem h hi).trans (kind_of_mem h' (heq ▸ hi)).symm)

theorem some_ne_of_lt {m n : Nat} (h : m < n) : some m ≠ some n :=
  fun heq => Nat.ne_of_lt h (Option.some.inj heq)

/-- Modifications are in ascending order, like the old entries they come from. -/
theorem pairwise_modified (old new : List Interface) :
    ((table old).filterMap fun o => (withIndex? (table new) o.index).bind fun n =>
      if n.alike o then none else some (o, n)).Pairwise (fun p q => p.2.index < q.2.index) := by
  refine List.pairwise_filterMap.mpr ((pairwise_table old).imp ?_)
  rintro o o' hlt ⟨o, n⟩ h ⟨o', n'⟩ h'
  obtain ⟨m, hm, h⟩ := Option.bind_eq_some_iff.mp h
  obtain ⟨m', hm', h'⟩ := Option.bind_eq_some_iff.mp h'
  split_ifs at h h'
  cases h
  cases h'
  change n.index < n'.index
  rwa [index_of_withIndex? hm, index_of_withIndex? hm']

/-- **No index is told of twice.** -/
theorem nodup_interfaceChanges (old new : List Interface) :
    ((interfaceChanges old new).map Change.index?).Nodup := by
  have hcross : ∀ {c c' : Change}, c ∈ interfaceChanges old new → c' ∈ interfaceChanges old new →
      c.kind ≠ c'.kind → c.index? ≠ c'.index? := index?_ne_of_kind_ne
  unfold interfaceChanges at hcross ⊢
  simp only [List.Nodup, List.pairwise_map, List.pairwise_append]
  refine ⟨⟨((pairwise_table old).imp some_ne_of_lt).filter _,
    (pairwise_modified old new).imp some_ne_of_lt, ?_⟩,
    ((pairwise_table new).imp some_ne_of_lt).filter _, ?_⟩
  -- Changes of two groups differ in kind.
  · intro c hc c' hc'
    refine hcross (List.mem_append_left _ (List.mem_append_left _ hc))
      (List.mem_append_left _ (List.mem_append_right _ hc')) ?_
    obtain ⟨o, -, rfl⟩ := List.mem_map.mp hc
    obtain ⟨p, -, rfl⟩ := List.mem_map.mp hc'
    nofun
  · intro c hc c' hc'
    refine hcross (List.mem_append_left _ hc) (List.mem_append_right _ hc') ?_
    obtain ⟨n, -, rfl⟩ := List.mem_map.mp hc'
    rcases List.mem_append.mp hc with hc | hc
    · obtain ⟨o, -, rfl⟩ := List.mem_map.mp hc
      nofun
    · obtain ⟨p, -, rfl⟩ := List.mem_map.mp hc
      nofun

/-- Of the changes between two snapshots one at most is about the route. -/
theorem filter_rerouted_changes (old new : Snapshot) :
    (old.changes new).filter (·.kind = .rerouted) = routeChanges old.route new.route := by
  have hinterfaces : (interfaceChanges old.interfaces new.interfaces).filter
      (·.kind = .rerouted) = [] := by
    refine List.filter_eq_nil_iff.mpr fun c hc => ?_
    rcases c with o | ⟨o, n⟩ | n | _
    · simp [Change.kind]
    · simp [Change.kind]
    · simp [Change.kind]
    · exact (mem_interfaceChanges.mp hc).elim
  rw [changes, List.filter_append, hinterfaces, List.nil_append]
  unfold routeChanges
  split_ifs <;> rfl

/-- Where no change is told of, there is none. -/
theorem sameEntry_of_notMem
    (h : some index ∉ (interfaceChanges old new).map Change.index?) :
    SameEntry (lastAt? old index) (lastAt? new index) := by
  have hnone : ∀ c ∈ interfaceChanges old new, c.index? ≠ some index :=
    fun c hc hi => h (List.mem_map.mpr ⟨c, hc, hi⟩)
  rcases ho : lastAt? old index with _ | o
  · rcases hn : lastAt? new index with _ | n
    · exact .none
    · obtain rfl := index_of_lastAt? hn
      exact absurd rfl (hnone (.added n) (mem_interfaceChanges.mpr ⟨ho, hn⟩))
  · obtain rfl := index_of_lastAt? ho
    rcases hn : lastAt? new o.index with _ | n
    · exact absurd rfl (hnone (.removed o) (mem_interfaceChanges.mpr ⟨ho, hn⟩))
    · have hindex := index_of_lastAt? hn
      rcases hdiff : n.alike o with _ | _
      · refine absurd ?_ (hnone (.modified o n) (mem_interfaceChanges.mpr ⟨ho, hn, hdiff⟩))
        exact congrArg some hindex
      · exact .some (Interface.alike_symm hdiff)

end Snapshot

end Dialer
