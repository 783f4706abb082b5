import Dialer.Proofs.Store.Session

/-!
# Handles that are held

A caller holds a handle from the moment it is given out until it is released, be it released by the
call that frees its object or with everything else. A `Custody` is a store with the handles that are
held for the objects of each kind. A slot may be used more often than generations can be told apart:
its handles come round again then, and one of them may be held a second time.

Callers can pass any value. The lowest bit of its high half does not count: `Key.asRead` is the value
with that bit set, as it is in every handle that is given out.

* `HandleTable.HeldBy.done`: whatever is done, a table has an object for the values that are read as
  a handle that is held, and for no others.
* `Custody.heldBy_run`: so it is at every moment, for each kind by itself.
-/

namespace Dialer

namespace Key

variable {h h' : Handle} {k : Key}

/-! ### How values are read -/

/-- **A value as it is read**: the lowest bit of its high half is set. -/
def asRead (h : Handle) : Handle := h ||| 0x100000000

theorem toNat_asRead (h : Handle) :
    (asRead h).toNat =
      (2 * (h.toNat / (2 * UInt32.size)) + 1) * UInt32.size + h.toNat % UInt32.size := by
  have hor : (asRead h).toNat = h.toNat ||| 2 ^ 32 := UInt64.toNat_or h 0x100000000
  have hlow : (h.toNat ||| 2 ^ 32) % 2 ^ 32 = h.toNat % 2 ^ 32 := by
    rw [Nat.or_mod_two_pow]; simp
  have hhigh : (h.toNat ||| 2 ^ 32) / 2 ^ 33 = h.toNat / 2 ^ 33 := by
    rw [Nat.or_div_two_pow]; simp
  have hbit : (h.toNat ||| 2 ^ 32) / 2 ^ 32 % 2 = 1 := by
    rw [Nat.or_div_two_pow]; simp
  rw [hor, UInt32.size]
  omega

theorem ofHandle?_asRead (h : Handle) : ofHandle? (asRead h) = ofHandle? h := by
  have hread := toNat_asRead h
  have hlow : (asRead h).toNat % UInt32.size = h.toNat % UInt32.size := by
    rw [UInt32.size] at *; omega
  have hhigh : (asRead h).toNat / (2 * UInt32.size) = h.toNat / (2 * UInt32.size) := by
    rw [UInt32.size] at *; omega
  rw [ofHandle?, ofHandle?, hlow, hhigh]

theorem asRead_eq_handle (hk : ofHandle? h = some k) : asRead h = k.handle := by
  have hlt := h.toNat_lt
  unfold ofHandle? at hk
  dsimp only at hk
  split_ifs at hk with hzero
  cases hk
  have hread := toNat_asRead h
  have hhandle : (handle ⟨h.toNat % UInt32.size - 1, h.toNat / (2 * UInt32.size)⟩).toNat =
      (2 * (h.toNat / (2 * UInt32.size)) + 1) * UInt32.size +
        (h.toNat % UInt32.size - 1 + 1) := by
    refine toNat_handle ?_ ?_
    · dsimp only; rw [UInt32.size] at *; omega
    · dsimp only; rw [generations, UInt32.size] at *; omega
  refine UInt64.toNat_inj.1 ?_
  rw [hread, hhandle, Nat.sub_add_cancel (Nat.pos_of_ne_zero hzero)]

/-- Who is read alike stands for the same, and who stands for the same is read alike. -/
theorem asRead_eq_iff (hk : ofHandle? h = some k) :
    asRead h' = asRead h ↔ ofHandle? h' = some k := by
  constructor
  · intro he
    rw [← ofHandle?_asRead h', he, ofHandle?_asRead, hk]
  · intro hk'
    rw [asRead_eq_handle hk', asRead_eq_handle hk]

end Key

/-! ### What is held -/

variable {α : Type}

/-- The handles held for the objects of a kind after a deed that has returned a handle or none. -/
def Deed.held (d : Deed α) (new : Option Handle) (held : List Handle) : List Handle :=
  match d, new with
  | .enter, some h => h :: held
  | .release h, _ => held.filter (· ≠ Key.asRead h)
  | .releaseAll, _ => []
  | _, _ => held

/-- The handle that a deed has given out, if it has. -/
def Deed.product? (d : Deed α) (new : Option Handle) : Option Handle :=
  match d with
  | .enter => new
  | _ => none

theorem Deed.mem_of_mem_held {d : Deed α} {new : Option Handle} {before : List Handle}
    {h : Handle} (hh : h ∈ d.held new before) : h ∈ before ∨ d.product? new = some h := by
  unfold held at hh
  split at hh
  · rcases List.mem_cons.mp hh with rfl | hh
    · exact .inr rfl
    · exact .inl hh
  · exact .inl (List.mem_of_mem_filter hh)
  · cases hh
  · exact .inl hh

namespace HandleTable

variable {t t' : HandleTable α} {held : List Handle} {h : Handle} {k : Key} {new : Option Handle}

/-- **Handles are held for a table:** it has an object for the values that are read as one of them,
and for no others. -/
structure HeldBy (t : HandleTable α) (held : List Handle) : Prop where
  bound : t.slots.length ≤ capacity
  generation : ∀ place, (t.slotAt place).generation < Key.generations
  live : ∀ h, (t.get? h).isSome ↔ Key.asRead h ∈ held
  asRead : ∀ h ∈ held, Key.asRead h = h

theorem heldBy_empty : HeldBy ({} : HandleTable α) [] where
  bound := Nat.zero_le _
  generation place := by simp [slotAt, Key.generations, UInt32.size]
  live h := by
    rw [get?]
    cases Key.ofHandle? h <;> simp [find?]
  asRead h hh := by cases hh

theorem generation_release_lt {s : Slot α} (hs : s.generation < Key.generations) :
    s.release.generation < Key.generations := by
  unfold Slot.release
  split
  · exact Nat.mod_lt _ (by decide)
  · exact hs

theorem exists_key (hh : (t.get? h).isSome) : ∃ k, Key.ofHandle? h = some k := by
  obtain ⟨a, ha⟩ := Option.isSome_iff_exists.1 hh
  obtain ⟨k, hk, -⟩ := get?_eq_some.1 ha
  exact ⟨k, hk⟩

namespace HeldBy

variable (hh : t.HeldBy held)
include hh

theorem zero_notMem : Key.asRead 0 ∉ held := by
  rw [← hh.live 0]
  have hzero : Key.ofHandle? 0 = none := by decide
  simp [get?, hzero]

theorem entered {pick : Nat} {a : α} (hi : t.insert? pick a = some (h, t')) :
    t'.HeldBy (h :: held) := by
  obtain ⟨k, rfl, he⟩ := insert?_eq_some hi
  have hgen : k.generation < Key.generations := by
    have hg := hh.generation k.place
    rwa [he.empty] at hg
  have hkey : Key.ofHandle? k.handle = some k := he.ofHandle?_handle hh.bound hgen
  have hread : Key.asRead k.handle = k.handle := Key.asRead_eq_handle hkey
  constructor
  case bound => exact he.bound hh.bound
  case generation =>
    intro place
    rw [he.slots]
    split
    · exact hgen
    · exact hh.generation place
  case live =>
    intro h
    have hnew : Key.asRead h = k.handle ↔ Key.ofHandle? h = some k := by
      rw [← Key.asRead_eq_iff hkey, hread]
    rw [List.mem_cons, hnew]
    by_cases hk : Key.ofHandle? h = some k
    · simp [he.get?_eq hk, hk]
    · rw [he.get?_of_ne hk, hh.live]
      simp [hk]
  case asRead =>
    rintro h (_ | ⟨_, hm⟩)
    · exact hread
    · exact hh.asRead h hm

theorem changed (h : Handle) (f : α → α) : (t.update h f).HeldBy held where
  bound := by rw [length_slots_update]; exact hh.bound
  generation place := by rw [(t.slotAt_update h f place).1]; exact hh.generation place
  live h' := by
    rw [← hh.live, get?_update]
    split <;> simp
  asRead := hh.asRead

theorem released_one (h : Handle) :
    (t.without h).HeldBy ((Deed.release h : Deed α).held new held) where
  bound := by rw [length_slots_without]; exact hh.bound
  generation place := by
    obtain hs | hs := t.slotAt_without h place <;> rw [hs]
    · exact hh.generation place
    · exact generation_release_lt (hh.generation place)
  live h' := by
    simp only [Deed.held, List.mem_filter, decide_eq_true_eq, ← hh.live, get?_without]
    by_cases hsome : (t.get? h').isSome
    · obtain ⟨k, hk⟩ := exists_key hsome
      have hsame : Key.asRead h' = Key.asRead h ↔ Key.ofHandle? h = Key.ofHandle? h' := by
        rw [eq_comm, Key.asRead_eq_iff hk, hk]
      rw [Ne, hsame]
      split <;> simp_all
    · split <;> simp [hsome]
  asRead h' hm := hh.asRead h' (List.mem_of_mem_filter hm)

theorem released_all : t.clear.HeldBy [] where
  bound := by simpa [clear] using hh.bound
  generation place := by
    rw [slotAt_clear]
    exact generation_release_lt (hh.generation place)
  live h := by simp [get?_clear]
  asRead h hm := by cases hm

/-- **Held is what the table has,** whatever is done. -/
theorem done {fresh : α → Prop} {d : Deed α} (hd : d.Done fresh t new t') :
    t'.HeldBy (d.held new held) := by
  cases hd with
  | nothing | refused => exact hh
  | entered _ hi => exact hh.entered hi
  | changed h f => exact hh.changed h f
  | released h => exact hh.released_one h
  | releasedAll => exact hh.released_all

end HeldBy

/-- **The object of a handle that stays held** is what the deed makes of it. -/
theorem HeldBy.get?_done (hh : t.HeldBy held) {fresh : α → Prop} {d : Deed α}
    (hd : d.Done fresh t new t') (hbefore : Key.asRead h ∈ held)
    (hafter : Key.asRead h ∈ d.held new held) : t'.get? h = (t.get? h).map (d.revise h) := by
  obtain ⟨a, ha⟩ := Option.isSome_iff_exists.1 ((hh.live h).2 hbefore)
  rw [ha, Option.map_some]
  refine hd.get?_of_kept ha ?_
  cases d with
  | release released =>
    refine decide_eq_false fun hk => (of_decide_eq_true (List.mem_filter.1 hafter).2) ?_
    obtain ⟨k, hkey⟩ := exists_key (ha ▸ rfl : (t.get? h).isSome)
    exact ((Key.asRead_eq_iff hkey).2 (hk.trans hkey)).symm
  | releaseAll => cases hafter
  | nothing | enter | change => rfl

theorem HeldBy.notMem_of_insert? (hh : t.HeldBy held) {pick : Nat} {a : α}
    (hi : t.insert? pick a = some (Key.asRead h, t')) :
    Key.asRead h ∉ held ∧ t'.get? h = some a := by
  obtain ⟨k, hkh, he⟩ := insert?_eq_some hi
  have hgen : k.generation < Key.generations := by
    have hg := hh.generation k.place
    rwa [he.empty] at hg
  have hkey : Key.ofHandle? h = some k := by
    rw [← Key.ofHandle?_asRead, hkh]
    exact he.ofHandle?_handle hh.bound hgen
  refine ⟨fun hmem => ?_, he.get?_eq hkey⟩
  have hsome := (hh.live h).2 hmem
  rw [he.get?_before hkey] at hsome
  cases hsome

end HandleTable

/-! ### A store in use -/

/-- **A store, and the handles that are held** for the objects of each kind. -/
structure Custody where
  store : Store := {}
  held : HandleKind → List Handle := fun _ => []

namespace Custody

/-- **One event.** -/
def step (s : Custody) (e : Store.Event) : Custody :=
  let (new, store) := s.store.undergo e
  { store, held := fun kind => (e.deed s.store kind).held new (s.held kind) }

/-- Events in order. -/
def run (s : Custody) (events : List Store.Event) : Custody := events.foldl step s

/-- The tables of a store have what is held. -/
structure Right (s : Custody) : Prop where
  heldBy : ∀ kind, (s.store.table kind).HeldBy (s.held kind)
  sound : s.store.Sound

theorem right_empty : Right {} where
  heldBy kind := by cases kind <;> exact HandleTable.heldBy_empty
  sound := Session.right_empty.sound

theorem Right.step {s : Custody} (hs : s.Right) (e : Store.Event) : (s.step e).Right where
  heldBy kind := (hs.heldBy kind).done ((Store.carried_undergo s.store e).done kind)
  sound := Store.sound_undergo hs.sound e

/-- **Held is what the tables have,** at every moment. -/
theorem right_run {s : Custody} (hs : s.Right) (events : List Store.Event) :
    (s.run events).Right := by
  induction events generalizing s with
  | nil => exact hs
  | cons e rest ih => exact ih (hs.step e)

end Custody

end Dialer
