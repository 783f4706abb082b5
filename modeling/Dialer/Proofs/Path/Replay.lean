import Dialer.Proofs.Path.Difference
import Mathlib.Logic.Function.Basic

/-!
# Replaying changes

Who hears of changes can keep a map of the interfaces by their index. A change can be applied to a
map if what it says of the time before is so there: `Change.applyTo?`. Replaying the changes between
two snapshots over a map of the old one is always possible and gives a map of the new one
(`replay?_changes`), also where the map has only ever followed changes and so may differ in what
does not matter.
-/

namespace Dialer

/-- The interface with each index, if there is one. -/
abbrev InterfaceMap := Nat → Option Interface

/-- **Apply a change to a map,** if it fits. What is added must not be there; what is removed or
modified must be as the change has it. -/
def Change.applyTo? (map : InterfaceMap) : Change → Option InterfaceMap
  | .added i =>
    if map i.index = none then some (Function.update map i.index (some i)) else none
  | .removed i =>
    if (map i.index).any (·.alike i) then some (Function.update map i.index none) else none
  | .modified old new =>
    if old.index = new.index ∧ (map old.index).any (·.alike old) then
      some (Function.update map new.index (some new))
    else none
  | .rerouted _ _ => some map

/-- Apply changes in order. -/
def replay? (map : InterfaceMap) : List Change → Option InterfaceMap
  | [] => some map
  | change :: rest => (change.applyTo? map).bind (replay? · rest)

theorem replay?_append (map : InterfaceMap) (changes rest : List Change) :
    replay? map (changes ++ rest) = (replay? map changes).bind (replay? · rest) := by
  induction changes generalizing map with
  | nil => rfl
  | cons change changes ih =>
    simp only [List.cons_append, replay?, Option.bind_assoc]
    exact congrArg _ (funext ih)

theorem SameEntry.any_of_eq_some {a b : Option Interface} {i : Interface} (h : SameEntry a b)
    (hb : b = some i) : a.any (·.alike i) = true := by
  subst hb
  rcases h with halike | _
  exact halike

namespace Snapshot

variable {old new : List Interface} {map : InterfaceMap} {index : Nat}

theorem applyTo?_of_mem {c : Change} (hc : c ∈ interfaceChanges old new)
    (hi : c.index? = some index) (hmap : SameEntry (map index) (lastAt? old index)) :
    c.applyTo? map = some (Function.update map index (lastAt? new index)) := by
  have hmem := mem_interfaceChanges.mp hc
  rcases c with o | ⟨o, n⟩ | n | _ <;> cases hi
  · obtain ⟨ho, hn⟩ := hmem
    rw [Change.applyTo?, if_pos (hmap.any_of_eq_some ho), hn]
  · obtain ⟨ho, hn, -⟩ := hmem
    have hindex : n.index = o.index := index_of_lastAt? hn
    rw [hindex] at hmap
    rw [Change.applyTo?, if_pos ⟨hindex.symm, hmap.any_of_eq_some ho⟩, hindex, hn]
  · obtain ⟨ho, hn⟩ := hmem
    have hnone : map n.index = none := by
      rw [ho] at hmap
      rcases hm : map n.index with _ | i
      · rfl
      · rw [hm] at hmap
        cases hmap
    rw [Change.applyTo?, if_pos hnone, hn]

/-- Changes about different indices replace the entries there and no other. -/
theorem exists_replay? : ∀ (changes : List Change) (map : InterfaceMap),
    (∀ c ∈ changes, c ∈ interfaceChanges old new) → (changes.map Change.index?).Nodup →
    (∀ index, some index ∈ changes.map Change.index? →
      SameEntry (map index) (lastAt? old index)) →
    ∃ after, replay? map changes = some after ∧ ∀ index, after index =
      if some index ∈ changes.map Change.index? then lastAt? new index else map index
  | [], map, _, _, _ => ⟨map, rfl, fun index => by simp⟩
  | c :: rest, map, hmem, hnodup, hmap => by
    rw [List.map_cons, List.nodup_cons] at hnodup
    have hc := hmem c List.mem_cons_self
    obtain ⟨k, hk⟩ := exists_index? hc
    have happly := applyTo?_of_mem hc hk (hmap k (by simp [hk]))
    -- What is still to be replayed is about other indices.
    have hkeep : ∀ index, some index ∈ rest.map Change.index? → index ≠ k := by
      rintro index hindex rfl
      exact hnodup.1 (hk ▸ hindex)
    obtain ⟨after, hreplay, hafter⟩ := exists_replay? rest
      (Function.update map k (lastAt? new k)) (fun c hc => hmem c (List.mem_cons_of_mem _ hc))
      hnodup.2 (fun index hindex => by
        rw [Function.update_of_ne (hkeep index hindex)]
        exact hmap index (List.mem_cons_of_mem _ hindex))
    refine ⟨after, by rw [replay?, happly]; exact hreplay, fun index => ?_⟩
    simp only [hafter, List.map_cons, List.mem_cons, hk, Option.some.injEq]
    rcases eq_or_ne index k with rfl | hne
    · simp
    · simp [hne]

/-- **Changes can be replayed over a map of the old snapshot,** and give one of the new. -/
theorem replay?_changes (old new : Snapshot)
    (hmap : ∀ index, SameEntry (map index) (lastAt? old.interfaces index)) :
    ∃ after, replay? map (old.changes new) = some after ∧
      ∀ index, SameEntry (after index) (lastAt? new.interfaces index) := by
  obtain ⟨after, hreplay, hafter⟩ := exists_replay? _ map (fun _ hc => hc)
    (nodup_interfaceChanges old.interfaces new.interfaces) (fun index _ => hmap index)
  have hroute : ∀ map, replay? map (routeChanges old.route new.route) = some map := by
    intro map
    unfold routeChanges
    split_ifs <;> rfl
  refine ⟨after, by rw [changes, replay?_append, hreplay]; exact hroute after, fun index => ?_⟩
  rw [hafter]
  split_ifs with hindex
  · exact .refl _
  · exact (hmap index).trans (sameEntry_of_notMem hindex)

end Snapshot

end Dialer
