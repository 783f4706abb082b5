/-!
# The first of each

`firstOfEach key` keeps, of all entries of a list that agree in a key, the first one.

* `mem_of_mem_firstOfEach`: what is kept was there, and every key stays represented
  (`exists_same_key`).
* `pairwise_firstOfEach`: no two entries kept agree in the key.
-/

namespace Dialer

variable {α β : Type} [DecidableEq β]

/-- **Of all entries that agree in the key, the first.** -/
def firstOfEach (key : α → β) : List α → List α
  | [] => []
  | a :: rest => a :: (firstOfEach key rest).filter fun b => key b ≠ key a

/-- What is kept stays in its order. -/
theorem firstOfEach_sublist (key : α → β) (xs : List α) : (firstOfEach key xs).Sublist xs := by
  induction xs with
  | nil => exact List.Sublist.refl _
  | cons a rest ih => exact (List.filter_sublist.trans ih).cons_cons a

theorem mem_of_mem_firstOfEach {key : α → β} {xs : List α} {a : α}
    (h : a ∈ firstOfEach key xs) : a ∈ xs :=
  (firstOfEach_sublist key xs).subset h

/-- Every key of the list stays represented. -/
theorem exists_same_key {key : α → β} {xs : List α} {a : α} (h : a ∈ xs) :
    ∃ b ∈ firstOfEach key xs, key b = key a := by
  induction xs with
  | nil => simp at h
  | cons b rest ih =>
    by_cases hk : key a = key b
    · exact ⟨b, by simp [firstOfEach], hk.symm⟩
    · rcases List.mem_cons.1 h with rfl | h
      · exact absurd rfl hk
      · obtain ⟨c, hc, hck⟩ := ih h
        exact ⟨c, by simp [firstOfEach, hc, hck, hk], hck⟩

theorem mem_firstOfEach_id {xs : List β} {b : β} : b ∈ firstOfEach id xs ↔ b ∈ xs := by
  refine ⟨mem_of_mem_firstOfEach, fun h => ?_⟩
  have hsame : ∃ c ∈ firstOfEach id xs, id c = id b := exists_same_key h
  obtain ⟨c, hc, hid⟩ := hsame
  exact (show c = b from hid) ▸ hc

/-- No two entries kept agree in the key. -/
theorem pairwise_firstOfEach (key : α → β) (xs : List α) :
    (firstOfEach key xs).Pairwise fun a b => key a ≠ key b := by
  induction xs with
  | nil => exact .nil
  | cons b rest ih =>
    refine .cons (fun c hc => ?_) (ih.filter _)
    simp only [List.mem_filter, decide_eq_true_eq] at hc
    exact fun h => hc.2 h.symm

end Dialer
