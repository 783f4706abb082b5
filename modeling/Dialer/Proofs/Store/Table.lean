import Dialer.Store.Table
import Mathlib.Data.List.Basic

/-!
# What the operations of a handle table do

A table is seen through `HandleTable.slotAt`: every place has a slot, and one that was not made yet
is like one never used. Seen so, there is no difference between a slot used again and a new one, and
to enter, change or take out an object is to change one slot (`HandleTable.ChangedAt`), which only
the handles of its present generation notice.

* `insert?_eq_some`: a new object fills one empty slot, under the generation the slot has.
* `get?_insert_of_some`: nothing else is lost or changed when an object is entered.
* `get?_update`, `get?_without`, `get?_clear`: what handles find afterwards. Handles that stand for
  the same slot and generation are one.
* `objects_insert`, `objects_without`, `objects_clear`: which objects there are afterwards.
-/

namespace Dialer

namespace HandleTable

variable {α : Type} {t t' : HandleTable α} {a b : α} {h h' : Handle}

/-- The slot at a place. One that was not made yet is like one never used. -/
def slotAt (t : HandleTable α) (place : Nat) : Slot α := t.slots[place]?.getD {}

theorem find?_eq (t : HandleTable α) (k : Key) :
    t.find? k =
      if (t.slotAt k.place).generation = k.generation then (t.slotAt k.place).content else none := by
  unfold find? slotAt
  cases t.slots[k.place]? <;> simp

theorem find?_eq_some {k : Key} : t.find? k = some a ↔ t.slotAt k.place = ⟨k.generation, some a⟩ := by
  rw [find?_eq]
  cases t.slotAt k.place
  simp only [Slot.mk.injEq]
  split <;> simp_all

theorem get?_eq_some :
    t.get? h = some a ↔
      ∃ k, Key.ofHandle? h = some k ∧ t.slotAt k.place = ⟨k.generation, some a⟩ := by
  simp only [get?, Option.bind_eq_bind, Option.bind_eq_some_iff, find?_eq_some]

theorem get?_of_key {k : Key} (hk : Key.ofHandle? h = some k) : t.get? h = t.find? k := by
  rw [get?, hk]; rfl

theorem get?_congr (hk : Key.ofHandle? h = Key.ofHandle? h') : t.get? h = t.get? h' := by
  rw [get?, get?, hk]

/-! ### Changing one slot -/

theorem slotAt_modify (t : HandleTable α) (f : Slot α → Slot α) {place : Nat} (hf : f {} = {})
    (other : Nat) :
    slotAt ⟨t.slots.modify place f⟩ other =
      if place = other then f (t.slotAt other) else t.slotAt other := by
  simp only [slotAt, List.getElem?_modify]
  cases t.slots[other]? <;> split <;> simp [hf]

theorem slotAt_modify_of_lt (t : HandleTable α) (f : Slot α → Slot α) {place : Nat}
    (hp : place < t.slots.length) (other : Nat) :
    slotAt ⟨t.slots.modify place f⟩ other =
      if place = other then f (t.slotAt other) else t.slotAt other := by
  simp only [slotAt, List.getElem?_modify]
  split
  · next he => subst he; simp [List.getElem?_eq_getElem hp]
  · simp

theorem slotAt_append (t : HandleTable α) (slot : Slot α) (other : Nat) :
    slotAt ⟨t.slots ++ [slot]⟩ other =
      if t.slots.length = other then slot else t.slotAt other := by
  simp only [slotAt]
  split
  · next he => subst he; simp
  · next he =>
    rcases Nat.lt_or_gt_of_ne he with hlt | hgt
    · rw [List.getElem?_eq_none (by simp; omega), List.getElem?_eq_none (by omega)]
    · rw [List.getElem?_append_left hgt]

/-- The slot of a key is all that changes, and it has nothing for other generations than the key's. -/
structure ChangedAt (t : HandleTable α) (k : Key) (s : Slot α) (t' : HandleTable α) : Prop where
  generation : (t.slotAt k.place).generation = k.generation
  content : s.content.isSome → s.generation = k.generation
  slots : ∀ place, t'.slotAt place = if k.place = place then s else t.slotAt place

/-- **A change of one slot** is none for the handles of other keys, be they of the same slot. -/
theorem ChangedAt.get?_of_ne {k : Key} {s : Slot α} (hc : t.ChangedAt k s t')
    (hne : Key.ofHandle? h ≠ some k) : t'.get? h = t.get? h := by
  cases hk : Key.ofHandle? h with
  | none => rw [get?, get?, hk]; rfl
  | some k' =>
    rw [get?_of_key hk, get?_of_key hk, find?_eq, find?_eq, hc.slots]
    by_cases hp : k.place = k'.place
    · have hgen : k.generation ≠ k'.generation := fun hg =>
        hne (hk.trans (congrArg some (Key.ext hp hg).symm))
      have hold : (t.slotAt k.place).generation ≠ k'.generation := by rwa [hc.generation]
      rw [if_pos hp, ← hp, if_neg hold]
      split
      · next hs =>
        exact Option.not_isSome_iff_eq_none.1 fun hsome =>
          hgen ((hc.content hsome).symm.trans hs)
      · rfl
    · rw [if_neg hp]

theorem ChangedAt.get?_eq {k : Key} {s : Slot α} (hc : t.ChangedAt k s t')
    (hk : Key.ofHandle? h = some k) : t'.get? h = s.content := by
  rw [get?_of_key hk, find?_eq, hc.slots, if_pos rfl]
  split
  · rfl
  · next hs => exact (Option.not_isSome_iff_eq_none.1 (mt hc.content hs)).symm

/-! ### Entering an object -/

theorem mem_vacant {place : Nat} :
    place ∈ t.vacant ↔ place < t.slots.length ∧ (t.slotAt place).content = none := by
  simp only [vacant, List.mem_filter, List.mem_range, and_congr_right_iff, slotAt]
  intro hp
  simp [List.getElem?_eq_getElem hp]

/-- The slot a new object gets is empty, and is a new one only if there is no other. -/
theorem slotAt_nextKey (t : HandleTable α) (pick : Nat) :
    t.slotAt (t.nextKey pick).place = ⟨(t.nextKey pick).generation, none⟩ ∧
      ((t.nextKey pick).place < t.slots.length ∨
        (t.nextKey pick).place = t.slots.length ∧ t.vacant = []) := by
  unfold nextKey
  split
  · next place hplace =>
    obtain ⟨hp, hc⟩ := mem_vacant.1 (List.mem_of_getElem? hplace)
    refine ⟨?_, .inl hp⟩
    simp only [slotAt, List.getElem?_eq_getElem hp, Option.getD_some, Option.map_some] at hc ⊢
    rw [← hc]
  · next hnone =>
    refine ⟨by simp [slotAt], .inr ⟨rfl, ?_⟩⟩
    by_contra hne
    have hpos := List.length_pos_iff.2 hne
    exact absurd (List.getElem?_eq_none_iff.1 hnone) (Nat.not_le.2 (Nat.mod_lt _ hpos))

/-- With no empty slot there are as many objects as slots. -/
theorem length_objects_of_vacant (hv : t.vacant = []) : t.objects.length = t.slots.length := by
  have hfull : ∀ slot ∈ t.slots, slot.content.isSome := by
    intro slot hslot
    obtain ⟨place, hp, rfl⟩ := List.getElem_of_mem hslot
    by_contra hc
    have hmem : place ∈ t.vacant :=
      mem_vacant.2 ⟨hp, by simpa [slotAt, List.getElem?_eq_getElem hp] using hc⟩
    simp [hv] at hmem
  rw [objects, List.length_filterMap_eq_countP]
  exact List.countP_eq_length.2 hfull

/-- An object is entered under a key: it fills the slot at the place of the key, which was empty. -/
structure EnteredAt (t : HandleTable α) (a : α) (k : Key) (t' : HandleTable α) : Prop extends
    t.ChangedAt k ⟨k.generation, some a⟩ t' where
  empty : t.slotAt k.place = ⟨k.generation, none⟩
  place_lt : k.place < t'.slots.length
  bound : t.slots.length ≤ capacity → t'.slots.length ≤ capacity

/-- **Entering an object** fills one empty slot. -/
theorem insert?_eq_some {pick : Nat} (hi : t.insert? pick a = some (h, t')) :
    ∃ k : Key, h = k.handle ∧ t.EnteredAt a k t' := by
  unfold insert? at hi
  split at hi
  case isFalse => simp at hi
  case isTrue hroom =>
    obtain ⟨hslot, hplace⟩ := t.slotAt_nextKey pick
    simp only [Option.some.injEq, Prod.mk.injEq] at hi
    obtain ⟨rfl, rfl⟩ := hi
    refine ⟨t.nextKey pick, rfl,
      ⟨by rw [hslot], fun _ => rfl, fun place => ?_⟩, hslot, ?_, ?_⟩ <;> split
    · next hp =>
      rw [slotAt_modify_of_lt _ _ hp]
      split
      · next he => rw [← he, hslot]
      · rfl
    · next hp =>
      have he : (t.nextKey pick).place = t.slots.length := (hplace.resolve_left hp).1
      have hgen : (t.nextKey pick).generation = 0 := by
        have := congrArg Slot.generation hslot
        simpa [slotAt, he] using this.symm
      rw [slotAt_append, he, hgen]
    · simpa
    · have := hplace
      simp only [List.length_append, List.length_singleton]
      omega
    · simp
    · next hp =>
      -- With no empty slot, there are as many slots as objects, and there was room for one more.
      intro _
      have hfull := length_objects_of_vacant (hplace.resolve_left hp).2
      simp only [List.length_append, List.length_singleton]
      omega

/-- The handle of an object that was entered stands for its key, if the table is no larger than it may
be and generations can be told apart. -/
theorem EnteredAt.ofHandle?_handle {k : Key} (he : t.EnteredAt a k t')
    (hb : t.slots.length ≤ capacity) (hg : k.generation < Key.generations) :
    Key.ofHandle? k.handle = some k := by
  have hbound := he.bound hb
  have hplace := he.place_lt
  have hcapacity : capacity = 4294967294 := rfl
  have hsize : UInt32.size = 4294967296 := rfl
  exact Key.ofHandle?_handle (by omega) hg

theorem EnteredAt.get?_before {k : Key} (he : t.EnteredAt a k t')
    (hk : Key.ofHandle? h = some k) : t.get? h = none := by
  rw [get?_of_key hk, find?_eq, he.empty, if_pos rfl]

/-- An object that is in a table stays where it is when another is entered. -/
theorem get?_insert_of_some {pick : Nat} (hi : t.insert? pick a = some (h, t'))
    (hb : t.get? h' = some b) : t'.get? h' = some b := by
  obtain ⟨k, -, he⟩ := insert?_eq_some hi
  rw [he.get?_of_ne, hb]
  intro hk
  simp [he.get?_before hk] at hb

/-- Whatever a table holds after an object is entered is that object or was there before. -/
theorem get?_insert {pick : Nat} (hi : t.insert? pick a = some (h, t'))
    (hb : t'.get? h' = some b) : b = a ∨ t.get? h' = some b := by
  obtain ⟨k, -, he⟩ := insert?_eq_some hi
  by_cases hk : Key.ofHandle? h' = some k
  · exact .inl (Option.some.inj (hb.symm.trans (he.get?_eq hk)))
  · exact .inr ((he.get?_of_ne hk).symm.trans hb)

/-! ### Changing an object -/

theorem slotAt_update (t : HandleTable α) (h : Handle) (f : α → α) (place : Nat) :
    ((t.update h f).slotAt place).generation = (t.slotAt place).generation ∧
      ((t.update h f).slotAt place).content.isSome = (t.slotAt place).content.isSome := by
  unfold update
  split
  · split
    · rw [slotAt_modify _ _ rfl]
      split <;> simp
    · exact ⟨rfl, rfl⟩
  · exact ⟨rfl, rfl⟩

/-- With nothing behind a handle there is nothing to change. -/
theorem update_of_none (hn : t.get? h = none) (f : α → α) : t.update h f = t := by
  unfold update
  cases hk : Key.ofHandle? h with
  | none => rfl
  | some k =>
    rw [get?_of_key hk] at hn
    simp [hn]

theorem changedAt_update {k : Key} (hk : Key.ofHandle? h = some k)
    (hb : t.slotAt k.place = ⟨k.generation, some b⟩) (f : α → α) :
    t.ChangedAt k ⟨k.generation, some (f b)⟩ (t.update h f) where
  generation := by rw [hb]
  content _ := rfl
  slots place := by
    simp only [update, hk, find?_eq_some.2 hb, Option.isSome_some, if_true]
    rw [slotAt_modify _ _ rfl]
    split
    · next hp => rw [← hp, hb]; rfl
    · rfl

/-- **Changing an object** changes it for the handles that stand for it, and for no others. -/
theorem get?_update (t : HandleTable α) (h h' : Handle) (f : α → α) :
    (t.update h f).get? h' =
      if Key.ofHandle? h = Key.ofHandle? h' then (t.get? h').map f else t.get? h' := by
  cases hb : t.get? h with
  | none =>
    rw [update_of_none hb]
    split
    · next he => rw [← get?_congr he, hb]; rfl
    · rfl
  | some b =>
    obtain ⟨k, hk, hslot⟩ := get?_eq_some.1 hb
    have hc := changedAt_update hk hslot f
    split
    · next he => rw [hc.get?_eq (he ▸ hk), ← get?_congr he, hb]; rfl
    · next hne => rw [hc.get?_of_ne fun hk' => hne (hk.trans hk'.symm)]

/-! ### Taking objects out -/

/-- A table without the object of a handle, if it has one. -/
def without (t : HandleTable α) (h : Handle) : HandleTable α := ((t.take? h).map Prod.snd).getD t

theorem without_of_take? (ht : t.take? h = some (a, t')) : t.without h = t' := by
  simp [without, ht]

theorem without_of_take?_eq_none (ht : t.take? h = none) : t.without h = t := by
  simp [without, ht]

theorem take?_eq_none : t.take? h = none ↔ t.get? h = none := by
  unfold take? get?
  cases Key.ofHandle? h <;> simp

theorem changedAt_without {k : Key} (hk : Key.ofHandle? h = some k)
    (hb : t.slotAt k.place = ⟨k.generation, some b⟩) :
    t.ChangedAt k (t.slotAt k.place).release (t.without h) where
  generation := by rw [hb]
  content hs := by simp [hb, Slot.release] at hs
  slots place := by
    simp only [without, take?, hk, find?_eq_some.2 hb, Option.map_some, Option.getD_some]
    rw [slotAt_modify _ _ rfl]
    split
    · next hp => rw [← hp]
    · rfl

/-- A slot is as it was after an object is taken out, or it was let go of. -/
theorem slotAt_without (t : HandleTable α) (h : Handle) (place : Nat) :
    (t.without h).slotAt place = t.slotAt place ∨
      (t.without h).slotAt place = (t.slotAt place).release := by
  cases hb : t.get? h with
  | none => rw [without_of_take?_eq_none (take?_eq_none.2 hb)]; exact .inl rfl
  | some b =>
    obtain ⟨k, hk, hslot⟩ := get?_eq_some.1 hb
    rw [(changedAt_without hk hslot).slots]
    split
    · next hp => rw [hp]; exact .inr rfl
    · exact .inl rfl

/-- **Taking an object out** takes it from the handles that stand for it, and from no others. -/
theorem get?_without (t : HandleTable α) (h h' : Handle) :
    (t.without h).get? h' = if Key.ofHandle? h = Key.ofHandle? h' then none else t.get? h' := by
  cases hb : t.get? h with
  | none =>
    rw [without_of_take?_eq_none (take?_eq_none.2 hb)]
    split
    · next he => rw [← get?_congr he, hb]
    · rfl
  | some b =>
    obtain ⟨k, hk, hslot⟩ := get?_eq_some.1 hb
    have hc := changedAt_without hk hslot
    split
    · next he => rw [hc.get?_eq (he ▸ hk), hslot]; rfl
    · next hne => rw [hc.get?_of_ne fun hk' => hne (hk.trans hk'.symm)]

theorem slotAt_clear (t : HandleTable α) (place : Nat) :
    t.clear.slotAt place = (t.slotAt place).release := by
  simp only [clear, slotAt, List.getElem?_map]
  cases t.slots[place]? <;> rfl

/-- A table that is cleared has nothing for any handle. -/
theorem get?_clear (t : HandleTable α) (h : Handle) : t.clear.get? h = none := by
  rw [Option.eq_none_iff_forall_ne_some]
  intro b hb
  obtain ⟨k, -, hslot⟩ := get?_eq_some.1 hb
  rw [slotAt_clear, Slot.release] at hslot
  split at hslot <;> simp_all

theorem length_slots_update (t : HandleTable α) (h : Handle) (f : α → α) :
    (t.update h f).slots.length = t.slots.length := by
  unfold update
  split
  · split <;> simp
  · rfl

theorem length_slots_without (t : HandleTable α) (h : Handle) :
    (t.without h).slots.length = t.slots.length := by
  unfold without take?
  cases Key.ofHandle? h with
  | none => rfl
  | some k => cases hf : t.find? k <;> simp [hf]

/-! ### The objects of a table -/

/-- A change of one slot changes the objects by what is in the slot. -/
theorem exists_objects_modify (t : HandleTable α) {place : Nat} (hp : place < t.slots.length)
    (f : Slot α → Slot α) :
    ∃ rest, t.objects.Perm ((t.slotAt place).content.toList ++ rest) ∧
      (objects ⟨t.slots.modify place f⟩).Perm ((f (t.slotAt place)).content.toList ++ rest) := by
  have hslot : t.slotAt place = t.slots[place] := by simp [slotAt, List.getElem?_eq_getElem hp]
  let rest := (t.slots.take place ++ t.slots.drop (place + 1)).filterMap (·.content)
  have hmiddle (slot : Slot α) :
      ((t.slots.take place ++ slot :: t.slots.drop (place + 1)).filterMap (·.content)).Perm
        (slot.content.toList ++ rest) := by
    refine (List.perm_middle.filterMap _).trans ?_
    cases hc : slot.content <;> simp [hc, rest]
  refine ⟨rest, ?_, ?_⟩
  · have hself : t.slots.take place ++ t.slots[place] :: t.slots.drop (place + 1) = t.slots := by
      simp
    have hperm := hmiddle t.slots[place]
    rwa [hself, ← hslot] at hperm
  · rw [hslot, objects, List.modify_eq_take_cons_drop hp]
    exact hmiddle _

theorem objects_insert {pick : Nat} (hi : t.insert? pick a = some (h, t')) :
    t'.objects.Perm (a :: t.objects) := by
  unfold insert? at hi
  split at hi
  · dsimp only at hi
    obtain ⟨hslot, -⟩ := t.slotAt_nextKey pick
    split at hi <;> cases hi
    · rename_i hp
      obtain ⟨rest, hold, hnew⟩ := t.exists_objects_modify hp fun s => { s with content := some a }
      rw [hslot] at hold
      exact hnew.trans ((List.Perm.cons a hold).symm)
    · rw [objects, List.filterMap_append]
      exact List.perm_append_singleton a _
  · cases hi

theorem objects_without (ha : t.get? h = some a) : t.objects.Perm (a :: (t.without h).objects) := by
  obtain ⟨k, hk, hslot⟩ := get?_eq_some.1 ha
  have hp : k.place < t.slots.length := by
    by_contra hp
    simp [slotAt, List.getElem?_eq_none (Nat.not_lt.mp hp)] at hslot
  obtain ⟨rest, hold, hnew⟩ := t.exists_objects_modify hp Slot.release
  rw [hslot] at hold hnew
  have hwithout : t.without h = ⟨t.slots.modify k.place Slot.release⟩ := by
    simp only [without, take?, hk, find?_eq_some.2 hslot, Option.map_some, Option.getD_some]
  rw [hwithout]
  exact hold.trans (List.Perm.cons a hnew.symm)

theorem objects_clear (t : HandleTable α) : t.clear.objects = [] := by
  refine List.filterMap_eq_nil_iff.mpr fun slot hslot => ?_
  obtain ⟨s, -, rfl⟩ := List.mem_map.mp hslot
  unfold Slot.release
  split
  · rfl
  · rename_i hs
    exact Option.not_isSome_iff_eq_none.mp hs

end HandleTable

end Dialer
