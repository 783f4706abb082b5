import Dialer.Proofs.Path.Difference
import Mathlib.Data.Finset.Dedup

/-!
# What is told of two snapshots, and in which order

`Change.Holds` says of a change, without regard to how changes are found, that it is to be told of
two snapshots. The changes between them are exactly those, and they come in the order
`Change.Before`: by kind, and within a kind by index (`Snapshot.changes_partition`).
-/

namespace Dialer

/-- Whether something besides the index differs between two entries. Of the addresses neither order
nor repetition counts. -/
def Interface.Differs (a b : Interface) : Prop :=
  a.name ≠ b.name ∨ a.status ≠ b.status ∨ a.kind ≠ b.kind ∨ a.expensive ≠ b.expensive ∨
    a.addresses.toFinset ≠ b.addresses.toFinset

theorem Interface.alike_eq_false_iff {a b : Interface} (h : a.index = b.index) :
    a.alike b = false ↔ a.Differs b := by
  have haddresses : sameAddresses a.addresses b.addresses = true ↔
      a.addresses.toFinset = b.addresses.toFinset := by
    rw [sameAddresses_iff, Finset.ext_iff]
    simp only [List.mem_toFinset]
  have halike : a.alike b = true ↔ ¬ a.Differs b := by
    simp only [alike, Differs, Bool.and_eq_true, beq_iff_eq, haddresses, h, true_and, not_or,
      not_not, and_assoc]
  rw [← Bool.not_eq_true, halike, not_not]

namespace Change

/-- The place of a kind of change among those that are told together. -/
def Kind.rank : Kind → Nat
  | removed => 0
  | modified => 1
  | added => 2
  | rerouted => 3

/-- **Whether a change is to be told before another:** by kind, and within a kind by index. -/
def Before (c d : Change) : Prop :=
  c.kind.rank < d.kind.rank ∨
    c.kind = d.kind ∧ ∃ i j, c.index? = some i ∧ d.index? = some j ∧ i < j

/-- **Whether a change is to be told** of two snapshots. -/
def Holds (old new : Snapshot) : Change → Prop
  | .removed o =>
    Snapshot.lastAt? old.interfaces o.index = some o ∧
      Snapshot.lastAt? new.interfaces o.index = none
  | .modified o n =>
    o.index = n.index ∧ Snapshot.lastAt? old.interfaces o.index = some o ∧
      Snapshot.lastAt? new.interfaces n.index = some n ∧ n.Differs o
  | .added n =>
    Snapshot.lastAt? old.interfaces n.index = none ∧
      Snapshot.lastAt? new.interfaces n.index = some n
  | .rerouted a b => a = old.route ∧ b = new.route ∧ a ≠ b

end Change

namespace Snapshot

variable {old new : Snapshot} {c : Change}

theorem mem_routeChanges {a b : Option Route} :
    c ∈ routeChanges a b ↔ c = .rerouted a b ∧ a ≠ b := by
  unfold routeChanges
  split_ifs with h
  · simp [h]
  · simp [h]

theorem mem_changes : c ∈ old.changes new ↔ c.Holds old new := by
  rw [changes, List.mem_append, mem_interfaceChanges, mem_routeChanges]
  rcases c with o | ⟨o, n⟩ | n | ⟨a, b⟩
  · simp [Change.Holds]
  · simp only [Change.Holds, reduceCtorEq, false_and, or_false]
    constructor
    · rintro ⟨ho, hn, hdiff⟩
      have hindex : n.index = o.index := index_of_lastAt? hn
      exact ⟨hindex.symm, ho, hindex ▸ hn, (Interface.alike_eq_false_iff hindex).mp hdiff⟩
    · rintro ⟨hindex, ho, hn, hdiff⟩
      exact ⟨ho, hindex ▸ hn, (Interface.alike_eq_false_iff hindex.symm).mpr hdiff⟩
  · simp [Change.Holds]
  · simp only [Change.Holds, false_or, Change.rerouted.injEq]
    constructor
    · rintro ⟨⟨rfl, rfl⟩, hne⟩
      exact ⟨rfl, rfl, hne⟩
    · rintro ⟨rfl, rfl, hne⟩
      exact ⟨⟨rfl, rfl⟩, hne⟩

theorem pairwise_interfaceChanges (old new : List Interface) :
    (interfaceChanges old new).Pairwise Change.Before := by
  have hrank : ∀ {c d : Change}, c.kind.rank < d.kind.rank → c.Before d := Or.inl
  unfold interfaceChanges
  simp only [List.pairwise_append, List.pairwise_map]
  refine ⟨⟨?_, ?_, ?_⟩, ?_, ?_⟩
  · exact ((pairwise_table old).imp fun hlt => Or.inr ⟨rfl, _, _, rfl, rfl, hlt⟩).filter _
  · exact (pairwise_modified old new).imp fun hlt => Or.inr ⟨rfl, _, _, rfl, rfl, hlt⟩
  · intro c hc d hd
    obtain ⟨o, -, rfl⟩ := List.mem_map.mp hc
    obtain ⟨p, -, rfl⟩ := List.mem_map.mp hd
    exact hrank Nat.zero_lt_one
  · exact ((pairwise_table new).imp fun hlt => Or.inr ⟨rfl, _, _, rfl, rfl, hlt⟩).filter _
  · intro c hc d hd
    obtain ⟨n, -, rfl⟩ := List.mem_map.mp hd
    rcases List.mem_append.mp hc with hc | hc
    · obtain ⟨o, -, rfl⟩ := List.mem_map.mp hc
      exact hrank Nat.zero_lt_two
    · obtain ⟨p, -, rfl⟩ := List.mem_map.mp hc
      exact hrank Nat.one_lt_two

theorem pairwise_changes (old new : Snapshot) : (old.changes new).Pairwise Change.Before := by
  refine List.pairwise_append.mpr ⟨pairwise_interfaceChanges _ _, ?_, fun c hc d hd => ?_⟩
  · unfold routeChanges
    split_ifs
    · exact List.Pairwise.nil
    · exact List.pairwise_singleton _ _
  · obtain ⟨rfl, -⟩ := mem_routeChanges.mp hd
    have hmem := mem_interfaceChanges.mp hc
    refine Or.inl ?_
    rcases c with o | ⟨o, n⟩ | n | ⟨a, b⟩
    · exact Nat.zero_lt_succ 2
    · exact Nat.one_lt_succ_succ 1
    · exact Nat.lt_succ_self 2
    · exact hmem.elim

/-- Changes that are told in order are never about the same index. -/
theorem nodup_indices (old new : Snapshot) :
    ((old.changes new).filterMap Change.index?).Nodup := by
  have hroute : (routeChanges old.route new.route).filterMap Change.index? = [] := by
    unfold routeChanges
    split_ifs <;> rfl
  have hnodup := nodup_interfaceChanges old.interfaces new.interfaces
  rw [changes, List.filterMap_append, hroute, List.append_nil]
  refine List.pairwise_filterMap.mpr ?_
  refine (List.pairwise_map.mp hnodup).imp fun {c d} hne i hi j hj hij => hne ?_
  rw [Option.mem_def.mp hi, Option.mem_def.mp hj, hij]

/-- **The changes between two snapshots are an exact and ordered partition.** -/
theorem changes_partition (old new : Snapshot) :
    (∀ c, c ∈ old.changes new ↔ c.Holds old new) ∧
      (old.changes new).Pairwise Change.Before ∧
      ((old.changes new).filterMap Change.index?).Nodup ∧
      (old.changes new).filter (·.kind = .rerouted) =
        if old.route = new.route then [] else [.rerouted old.route new.route] :=
  ⟨fun _ => mem_changes, pairwise_changes old new, nodup_indices old new, filter_rerouted_changes old new⟩

end Snapshot

end Dialer
