import Dialer.Proofs.Store.Table

/-!
# The handles a table has given out

A `Ledger` lists the handles that callers were given for the objects of one kind, and those of them
that were released again. What a call does to the objects of a kind is a `Deed`; the ledger follows
from the deed and from the handle that is returned, and `Deed.Done` says what the table has to do.

The books are kept by slots: a slot was given out as often as the ledger lists a handle of its place,
and its generation tells how often that was. So the handle of a slot that is used again is new, as
long as no slot was used more often than generations can be told apart (`Ledger.Sparing`).

* `Ledger.Accounts.done`: the ledger of a table is right after every deed if it was right before.
* `Deed.Done.get?_of_some`: a deed leaves the object of a handle that is not released as it is, up
  to what the deed makes of that very object.
-/

namespace Dialer

/-- What a call is to do to the objects of one kind. -/
inductive Deed (α : Type)
  | nothing
  /-- Enter an object. -/
  | enter
  /-- Change the object of a handle. -/
  | change (h : Handle) (f : α → α)
  /-- Take the object of a handle out. -/
  | release (h : Handle)
  /-- Take all objects out. -/
  | releaseAll

/-- **The handles that were given out for the objects of one kind.** -/
structure Ledger where
  /-- Those that callers were given, the latest first. -/
  issued : List Handle := []
  /-- Those that were released. -/
  released : List Handle := []
deriving DecidableEq, Repr

variable {α : Type}

/-- How a deed changes a table, and which handle is returned. What is entered has a property. -/
inductive Deed.Done (fresh : α → Prop) (t : HandleTable α) :
    Deed α → Option Handle → HandleTable α → Prop
  | nothing (new : Option Handle) : Done fresh t .nothing new t
  /-- The object could not be entered, or there was none. -/
  | refused : Done fresh t .enter none t
  | entered {pick : Nat} {a : α} {h : Handle} {t' : HandleTable α} (ha : fresh a)
      (hi : t.insert? pick a = some (h, t')) : Done fresh t .enter (some h) t'
  | changed (h : Handle) (f : α → α) (new : Option Handle) :
      Done fresh t (.change h f) new (t.update h f)
  | released (h : Handle) (new : Option Handle) : Done fresh t (.release h) new (t.without h)
  | releasedAll (new : Option Handle) : Done fresh t .releaseAll new t.clear

/-- What a deed makes of the object of a handle. -/
def Deed.revise (d : Deed α) (h : Handle) (a : α) : α :=
  match d with
  | .change changed f => if Key.ofHandle? changed = Key.ofHandle? h then f a else a
  | _ => a

/-- Whether a deed takes the object of a handle out. Handles that stand for the same slot and
generation are one. -/
def Deed.releases (d : Deed α) (h : Handle) : Bool :=
  match d with
  | .release released => Key.ofHandle? released = Key.ofHandle? h
  | .releaseAll => true
  | _ => false

namespace Ledger

/-- The ledger after a deed that has returned a handle or none. Handles that stand for the same slot
and generation are released together. -/
def after (l : Ledger) (d : Deed α) (new : Option Handle) : Ledger :=
  match d, new with
  | .enter, some h => { l with issued := h :: l.issued }
  | .release h, _ =>
    { l with
      released := l.issued.filter (Key.ofHandle? h = Key.ofHandle? ·) ++ l.released }
  | .releaseAll, _ => { l with released := l.issued ++ l.released }
  | _, _ => l

/-- How often the slot at a place was given out. -/
def uses (l : Ledger) (place : Nat) : Nat :=
  l.issued.countP fun h => (Key.ofHandle? h).any (·.place = place)

/-- No slot was used more often than generations can be told apart. -/
def Sparing (l : Ledger) : Prop := ∀ place, l.uses place ≤ Key.generations

theorem sparing_of_length {l : Ledger} (hl : l.issued.length ≤ Key.generations) : l.Sparing :=
  fun _ => Nat.le_trans List.countP_le_length hl

/-! ### Ledgers only grow -/

theorem issued_subset_after (l : Ledger) (d : Deed α) (new : Option Handle) :
    l.issued ⊆ (l.after d new).issued := by
  unfold after
  split <;> simp

theorem released_subset_after (l : Ledger) (d : Deed α) (new : Option Handle) :
    l.released ⊆ (l.after d new).released := by
  unfold after
  split <;> simp

theorem uses_le_after (l : Ledger) (d : Deed α) (new : Option Handle) (place : Nat) :
    l.uses place ≤ (l.after d new).uses place := by
  unfold after
  split <;> simp [uses, List.countP_cons]

theorem Sparing.of_after {l : Ledger} {d : Deed α} {new : Option Handle}
    (hs : (l.after d new).Sparing) : l.Sparing :=
  fun place => Nat.le_trans (l.uses_le_after d new place) (hs place)

/-! ### Right ledgers -/

/-- The generation of a slot that was given out a number of times. The count starts again once
generations run out. -/
def AgreesWith (uses : Nat) (s : Slot α) : Prop :=
  if s.content.isSome then s.generation + 1 = uses else s.generation = uses % Key.generations

theorem AgreesWith.release {uses : Nat} {s : Slot α} (h : AgreesWith uses s) :
    AgreesWith uses s.release := by
  by_cases hs : s.content.isSome
  · rw [AgreesWith, if_pos hs] at h
    simp [AgreesWith, Slot.release, hs, h]
  · rwa [Slot.release, if_neg hs]

/-- **A ledger is right about a table**: it is right about the slots and their generations, it has
no handle twice, and the handles with an object are those that were not released. -/
structure Accounts (l : Ledger) (t : HandleTable α) : Prop where
  bound : t.slots.length ≤ HandleTable.capacity
  slots : ∀ place, AgreesWith (l.uses place) (t.slotAt place)
  key : ∀ h ∈ l.issued, ∃ k, Key.ofHandle? h = some k ∧ k.generation < l.uses k.place
  nodup : l.issued.Nodup
  released : l.released ⊆ l.issued
  live : ∀ h ∈ l.issued, h ∉ l.released ↔ (t.get? h).isSome

theorem accounts_empty : Accounts {} ({} : HandleTable α) where
  bound := Nat.zero_le _
  slots place := by simp [AgreesWith, uses, HandleTable.slotAt]
  key := by simp
  nodup := List.nodup_nil
  released := List.Subset.refl _
  live := by simp

section Deeds

variable {l : Ledger} {t t' : HandleTable α} {d : Deed α} {new : Option Handle}

theorem Accounts.ne_zero (hl : l.Accounts t) {h : Handle} (hh : h ∈ l.issued) : h ≠ 0 := by
  rintro rfl
  obtain ⟨k, hk, -⟩ := hl.key 0 hh
  simp [Key.ofHandle?] at hk

/-- **A new handle is new**: its slot is empty, so its generation is that of the uses so far. -/
theorem Accounts.entered (hl : l.Accounts t) {pick : Nat} {a : α} {h : Handle}
    (hi : t.insert? pick a = some (h, t')) (hs : Sparing { l with issued := h :: l.issued }) :
    Accounts { l with issued := h :: l.issued } t' := by
  obtain ⟨k, rfl, he⟩ := HandleTable.insert?_eq_some hi
  have hgenerations : Key.generations = 2147483648 := rfl
  have hmod : k.generation = l.uses k.place % Key.generations := by
    simpa [AgreesWith, he.empty] using hl.slots k.place
  have hkey : Key.ofHandle? k.handle = some k :=
    he.ofHandle?_handle hl.bound (by rw [hmod]; exact Nat.mod_lt _ (by omega))
  have huses : ∀ place, uses { l with issued := k.handle :: l.issued } place =
      l.uses place + if k.place = place then 1 else 0 := fun place => by
    simp [uses, List.countP_cons, hkey]
  -- The count has not started again, since another use would be one too many.
  have hgen : k.generation = l.uses k.place := by
    have := hs k.place
    rw [huses, if_pos rfl] at this
    rw [hmod, Nat.mod_eq_of_lt (by omega)]
  have hold : ∀ h ∈ l.issued, Key.ofHandle? h ≠ some k := fun h hh hk => by
    obtain ⟨k', hk', hlt⟩ := hl.key h hh
    obtain rfl : k = k' := Option.some.inj (hk.symm.trans hk')
    omega
  have hnew : k.handle ∉ l.issued := fun hh => hold _ hh hkey
  constructor
  case bound => exact he.bound hl.bound
  case slots =>
    intro place
    rw [huses, he.slots]
    split
    · next hp => simp [AgreesWith, ← hp, hgen]
    · exact hl.slots place
  case key =>
    rintro h (_ | ⟨_, hh⟩)
    · exact ⟨k, hkey, by rw [huses, if_pos rfl]; omega⟩
    · obtain ⟨k', hk', hlt⟩ := hl.key h hh
      exact ⟨k', hk', by rw [huses]; omega⟩
  case nodup => exact List.nodup_cons.2 ⟨hnew, hl.nodup⟩
  case released => exact fun h hh => List.mem_cons_of_mem _ (hl.released hh)
  case live =>
    rintro h (_ | ⟨_, hh⟩)
    · simp only [he.get?_eq hkey, Option.isSome_some, iff_true]
      exact fun hr => hnew (hl.released hr)
    · rw [hl.live h hh, he.get?_of_ne (hold h hh)]

theorem Accounts.changed (hl : l.Accounts t) (h : Handle) (f : α → α) :
    l.Accounts (t.update h f) where
  bound := by rw [HandleTable.length_slots_update]; exact hl.bound
  slots place := by
    obtain ⟨hg, hc⟩ := t.slotAt_update h f place
    simpa only [AgreesWith, hg, hc] using hl.slots place
  key := hl.key
  nodup := hl.nodup
  released := hl.released
  live h' hh := by
    rw [hl.live h' hh, HandleTable.get?_update]
    split <;> simp

theorem Accounts.released_one (hl : l.Accounts t) (h : Handle) :
    (l.after (.release h : Deed α) new).Accounts (t.without h) where
  bound := by rw [HandleTable.length_slots_without]; exact hl.bound
  slots place := by
    obtain hs | hs := t.slotAt_without h place <;> rw [hs]
    · exact hl.slots place
    · exact (hl.slots place).release
  key := hl.key
  nodup := hl.nodup
  released := List.append_subset.2 ⟨List.filter_subset_self _, hl.released⟩
  live h' hh := by
    have := hl.live h' hh
    rw [HandleTable.get?_without]
    split <;> simp_all [after]

theorem Accounts.released_all (hl : l.Accounts t) :
    (l.after (.releaseAll : Deed α) new).Accounts t.clear where
  bound := by simpa [HandleTable.clear] using hl.bound
  slots place := by rw [HandleTable.slotAt_clear]; exact (hl.slots place).release
  key := hl.key
  nodup := hl.nodup
  released := List.append_subset.2 ⟨List.Subset.refl _, hl.released⟩
  live h hh := by
    have hr : h ∈ (l.after (.releaseAll : Deed α) new).released := List.mem_append_left _ hh
    simp [HandleTable.get?_clear, hr]

/-- **The ledger stays right,** whatever is done. -/
theorem Accounts.done {fresh : α → Prop} (hl : l.Accounts t) (hd : d.Done fresh t new t')
    (hs : (l.after d new).Sparing) : (l.after d new).Accounts t' := by
  cases hd with
  | nothing | refused => exact hl
  | entered _ hi => exact hl.entered hi hs
  | changed h f => exact hl.changed h f
  | released h => exact hl.released_one h
  | releasedAll => exact hl.released_all

end Deeds

end Ledger

/-! ### What becomes of an object -/

namespace Deed.Done

variable {fresh : α → Prop} {l : Ledger} {t t' : HandleTable α} {d : Deed α} {new : Option Handle}

/-- With nothing behind a handle its release leaves the table as it is. -/
theorem missed {h : Handle} (hw : t.without h = t) (new : Option Handle) :
    Done fresh t (.release h) new t := by
  have hd : Done fresh t (.release h) new (t.without h) := .released h new
  rwa [hw] at hd

/-- **A deed leaves an object in its place** unless it releases the object. -/
theorem get?_of_some (hd : d.Done fresh t new t') {h : Handle} {a : α} (ha : t.get? h = some a)
    (hi : h ∈ l.issued) (hr : h ∉ (l.after d new).released) :
    t'.get? h = some (d.revise h a) := by
  cases hd with
  | nothing | refused => exact ha
  | entered _ hi => exact HandleTable.get?_insert_of_some hi ha
  | changed => rw [HandleTable.get?_update, revise]; split <;> simp [ha]
  | released =>
    rw [HandleTable.get?_without, if_neg]
    · exact ha
    · exact fun he => hr (List.mem_append_left _ (List.mem_filter.2 ⟨hi, by simpa using he⟩))
  | releasedAll => exact absurd (List.mem_append_left _ hi) hr

/-- The same with no more of a ledger than the handle. -/
theorem get?_of_kept (hd : d.Done fresh t new t') {h : Handle} {a : α} (ha : t.get? h = some a)
    (hr : d.releases h = false) : t'.get? h = some (d.revise h a) := by
  refine hd.get?_of_some (l := { issued := [h] }) ha List.mem_cons_self fun hm => ?_
  cases d with
  | release released =>
    have hne : Key.ofHandle? released ≠ Key.ofHandle? h := of_decide_eq_false hr
    simp [Ledger.after, hne] at hm
  | releaseAll => cases hr
  | enter => cases new <;> cases hm
  | nothing | change => cases hm

/-- **A deed that releases an object** leaves nothing behind its handle. -/
theorem get?_of_released (hd : d.Done fresh t new t') {h : Handle} (hr : d.releases h = true) :
    t'.get? h = none := by
  cases hd with
  | nothing | refused | entered | changed => cases hr
  | released => rw [HandleTable.get?_without, if_pos (of_decide_eq_true hr)]
  | releasedAll => exact HandleTable.get?_clear t h

/-- What all objects of a table have in common they still have after a deed that changes none. -/
theorem forall_get? (hd : d.Done fresh t new t') {p : α → Prop}
    (hp : ∀ h a, t.get? h = some a → p a) (hfresh : ∀ a, fresh a → p a)
    (hf : ∀ h a, p a → p (d.revise h a)) (h : Handle) (a : α) (ha : t'.get? h = some a) : p a := by
  cases hd with
  | nothing | refused => exact hp h a ha
  | entered hnew hi =>
    rcases HandleTable.get?_insert hi ha with rfl | ha
    · exact hfresh _ hnew
    · exact hp h a ha
  | changed changed f =>
    rw [HandleTable.get?_update] at ha
    split at ha
    · next he =>
      obtain ⟨b, hb, rfl⟩ := Option.map_eq_some_iff.1 ha
      have := hf h b (hp h b hb)
      rwa [revise, if_pos he] at this
    · exact hp h a ha
  | released =>
    rw [HandleTable.get?_without] at ha
    split at ha
    · simp at ha
    · exact hp h a ha
  | releasedAll => simp [HandleTable.get?_clear] at ha

end Deed.Done

end Dialer
