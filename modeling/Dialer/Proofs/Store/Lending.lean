import Dialer.Proofs.Store.Session
import Dialer.Proofs.Store.Setback
import Mathlib.Data.List.Forall2
import Mathlib.Data.List.Nodup

/-!
# Arrays are lent, and returned once

An array of interfaces is lent to a caller, who is to return it by its address and the number of its
entries. A `Lending` is a store with the deals that have been made on arrays; what is outstanding
can be read off them. If no array is lent at the address of one that is outstanding, then the store
has the outstanding arrays and no others, each as it was when it was lent, and takes back nothing
else (`Lending.keeps_run`).
-/

namespace Dialer

/-! ### What an array shows -/

/-- **An entry of an array shows an interface.** -/
structure InterfaceView.Shows (v : InterfaceView) (i : Interface) : Prop where
  /-- The name goes without zero characters. -/
  name : v.name.toList = i.name.toList.filter (· != '\x00')
  index : v.index = i.index
  addresses : v.addresses = i.addresses.map Ip.text
  status : v.status = i.status.code
  kind : v.kind = i.kind.name
  expensive : v.expensive = i.expensive

theorem Interface.shows_view (i : Interface) : i.view.Shows i where
  name := by simp [view, withoutZeros]
  index := rfl
  addresses := rfl
  status := rfl
  kind := rfl
  expensive := rfl

theorem Interface.forall₂_shows_view (found : List Interface) :
    List.Forall₂ InterfaceView.Shows (found.map Interface.view) found := by
  induction found with
  | nil => exact .nil
  | cons i rest ih => exact .cons i.shows_view ih

/-! ### Live arrays -/

namespace Listings

variable {arrays : Listings} {array : Listing} {base count : Nat}

/-- No two live arrays are at one address. -/
def Distinct (arrays : Listings) : Prop := (arrays.live.map Listing.base).Nodup

theorem free_of_zero (h : base = 0 ∨ count = 0) : arrays.free base count = .ok arrays :=
  if_pos h

theorem find?_eq_none : arrays.find? base = none ↔ ∀ array ∈ arrays.live, array.base ≠ base := by
  simp [find?]

theorem Distinct.find?_eq_some (h : arrays.Distinct) :
    arrays.find? base = some array ↔ array ∈ arrays.live ∧ array.base = base := by
  constructor
  · exact fun hfind => ⟨List.mem_of_find?_eq_some hfind, by simpa using List.find?_some hfind⟩
  · rintro ⟨hmem, hbase⟩
    rcases hfind : arrays.find? base with _ | other
    · exact absurd hbase (find?_eq_none.mp hfind array hmem)
    · have hother : other.base = base := by simpa using List.find?_some hfind
      rw [List.inj_on_of_nodup_map h (List.mem_of_find?_eq_some hfind) hmem
        (hother.trans hbase.symm)]

/-- **An array is freed** by its address and the number of its entries, and no other with it. -/
theorem Distinct.free_of_mem (h : arrays.Distinct) (hmem : array ∈ arrays.live)
    (hbase : array.base ≠ 0) (hcount : array.entries.length ≠ 0) :
    ∃ live, arrays.free array.base array.entries.length = .ok { arrays with live } ∧
      ∀ other, other ∈ live ↔ other ∈ arrays.live ∧ other ≠ array := by
  have hfind : arrays.find? array.base = some array := h.find?_eq_some.mpr ⟨hmem, rfl⟩
  refine ⟨arrays.live.filter (·.base != array.base), ?_, fun other => ?_⟩
  · rw [free, if_neg (by simp [hbase, hcount]), hfind]
    exact if_pos rfl
  · rw [List.mem_filter, bne_iff_ne]
    refine and_congr_right fun hother => not_congr ⟨fun heq => ?_, fun heq => heq ▸ rfl⟩
    exact List.inj_on_of_nodup_map h hother hmem heq

/-- Where something is freed, only what is at its address goes. -/
theorem live_of_free {after : Listings} (hzero : ¬ (base = 0 ∨ count = 0))
    (hfree : arrays.free base count = .ok after) :
    after.live = arrays.live.filter (·.base != base) := by
  rw [free, if_neg hzero] at hfree
  split at hfree
  · cases hfree
  · split at hfree
    · cases hfree
      rfl
    · cases hfree

end Listings

/-- What a monitor lists are the interfaces of its source. -/
theorem Monitor.interfaces_of_list {m after : Monitor} {found : List Interface}
    (hl : m.list = (.ok found, after)) : found = m.source.interfaces := by
  unfold list Source.read at hl
  rcases hf : m.source.failure with _ | text <;> simp only [hf] at hl <;> cases hl
  rfl

/-! ### Calls that are not about arrays -/

namespace Store

variable {r : Store}

theorem arrays_foldl {β : Type} {f : Store → β → Store} (hf : ∀ r b, (f r b).arrays = r.arrays)
    (bs : List β) (r : Store) : (bs.foldl f r).arrays = r.arrays := by
  induction bs generalizing r with
  | nil => rfl
  | cons b bs ih => rw [List.foldl_cons, ih, hf]

theorem arrays_shutDown (r : Store) : r.shutDown.arrays = r.arrays := by
  let aborted := r.connections.objects.foldl
    (fun r place => r.onConnection place (·.abort.settle)) r
  let stopped := aborted.watchers.objects.foldl stopWatch aborted
  have haborted : aborted.arrays = r.arrays :=
    arrays_foldl (f := fun r place => r.onConnection place (·.abort.settle)) (fun _ _ => rfl) _ r
  have hstopped : stopped.arrays = aborted.arrays :=
    arrays_foldl (f := stopWatch) (fun _ _ => rfl) _ aborted
  have hended : r.shutDown.arrays = stopped.arrays :=
    arrays_foldl (f := fun r place => r.onMonitor place (·.endWatch)) (fun _ _ => rfl) _ stopped
  rw [hended, hstopped, haborted]

theorem arrays_initiate (r : Store) (around : Surroundings) (h : Handle) :
    (r.initiate around h).2.arrays = r.arrays := by
  unfold initiate
  split
  · rfl
  · split
    · rfl
    · exact of_entered (P := (·.arrays = r.arrays)) rfl fun _ => rfl

theorem arrays_watch (r : Store) (around : Surroundings) (h : Handle) (hasCallback : Bool) :
    (r.watch around h hasCallback).2.arrays = r.arrays := by
  unfold watch
  split
  · rfl
  · split
    · rfl
    · rename_i place m hm
      split
      · rfl
      · rename_i watch begun hs
        obtain he | ⟨g, t, -, he⟩ := entered_cases r.watchers around ⟨place, watch⟩ <;> rw [he] <;>
          rfl

/-- **Only listing and freeing** have to do with arrays. -/
theorem arrays_carryOut (r : Store) (around : Surroundings) {call : Call}
    (hlist : ∀ h hasArray hasCount, call ≠ .listInterfaces h hasArray hasCount)
    (hfree : ∀ base count, call ≠ .freeArray base count) :
    (r.carryOut around call).2.arrays = r.arrays := by
  have hasks (ha : call.Asks) := carryOut_of_asks ha r around
  let P : Store → Prop := fun r' => r'.arrays = r.arrays
  have hr : P r := rfl
  cases call with
  | listInterfaces h hasArray hasCount => exact absurd rfl (hlist h hasArray hasCount)
  | freeArray base count => exact absurd rfl (hfree base count)
  | startUp | clearError => rfl
  | shutDown => exact arrays_shutDown r
  | createEndpoint | createPreconnection | enterMonitor => exact of_entered hr fun _ => hr
  | freeEndpoint | freePreconnection => exact of_taken hr fun _ => hr
  | setHostname | setService | setAddress | setPort => exact of_setting hr (fun _ => hr) rfl around
  | setSecurityDisabled => exact of_onPreconnection (P := P) (fun _ => hr) _ _
  | addRemote => exact of_addRemote hr (fun _ => hr) _ _
  | initiate h => exact arrays_initiate r around h
  | watch h hasCallback => exact arrays_watch r around h hasCallback
  | send | receive | close =>
    obtain ⟨fault, he⟩ | ⟨h, wanted, -, he⟩ := hasks trivial <;> rw [he]
    exact of_request hr (fun _ _ => hr) h wanted
  | phase h =>
    rw [carryOut]
    split <;> rfl
  | freeConnection h =>
    rw [carryOut, freeConnection]
    rcases taken r.connections .connection h <;> rfl
  | destroyMonitor h =>
    rw [carryOut, destroyMonitor]
    rcases taken r.monitors .pathMonitor h <;> rfl
  | unwatch h =>
    rw [carryOut, unwatch]
    rcases taken r.watchers .watcher h <;> rfl

end Store

/-! ### Deals -/

/-- A deal on an array. -/
inductive Deal
  /-- The array shows what was found. -/
  | lent (array : Listing) (found : List Interface)
  | returned (base : Nat)
deriving DecidableEq

/-- The array that is lent, if one is. -/
def Deal.array? : Deal → Option Listing
  | lent array _ => some array
  | returned _ => none

/-- **An array that was lent and not returned since.** The latest deal comes first. -/
def Outstanding (deals : List Deal) (array : Listing) : Prop :=
  ∃ later earlier found, deals = later ++ .lent array found :: earlier ∧
    .returned array.base ∉ later

theorem not_outstanding_nil (array : Listing) : ¬ Outstanding [] array := by
  rintro ⟨later, earlier, found, heq, -⟩
  simp at heq

theorem outstanding_lent {deals : List Deal} {array lent : Listing} {found : List Interface} :
    Outstanding (.lent lent found :: deals) array ↔ array = lent ∨ Outstanding deals array := by
  constructor
  · rintro ⟨later, earlier, shown, heq, hnot⟩
    cases later with
    | nil =>
      cases heq
      exact .inl rfl
    | cons deal later =>
      obtain ⟨rfl, hrest⟩ := List.cons.inj heq
      exact .inr ⟨later, earlier, shown, hrest, fun hmem => hnot (List.mem_cons_of_mem _ hmem)⟩
  · rintro (rfl | ⟨later, earlier, shown, rfl, hnot⟩)
    · exact ⟨[], deals, found, rfl, List.not_mem_nil⟩
    · exact ⟨.lent lent found :: later, earlier, shown, rfl, by simpa using hnot⟩

theorem outstanding_returned {deals : List Deal} {array : Listing} {base : Nat} :
    Outstanding (.returned base :: deals) array ↔ Outstanding deals array ∧ array.base ≠ base := by
  constructor
  · rintro ⟨later, earlier, shown, heq, hnot⟩
    cases later with
    | nil => cases heq
    | cons deal later =>
      obtain ⟨rfl, hrest⟩ := List.cons.inj heq
      obtain ⟨hne, hnot⟩ := not_or.mp (mt List.mem_cons.mpr hnot)
      exact ⟨⟨later, earlier, shown, hrest, hnot⟩, fun h => hne (congrArg Deal.returned h)⟩
  · rintro ⟨⟨later, earlier, shown, rfl, hnot⟩, hne⟩
    exact ⟨.returned base :: later, earlier, shown, rfl, by simp [hne, hnot]⟩

/-- The arrays that were lent and not returned since. -/
def outstanding : List Deal → List Listing
  | [] => []
  | .lent array _ :: earlier => array :: outstanding earlier
  | .returned base :: earlier => (outstanding earlier).filter (·.base != base)

theorem mem_outstanding {deals : List Deal} {array : Listing} :
    array ∈ outstanding deals ↔ Outstanding deals array := by
  induction deals with
  | nil => exact ⟨nofun, fun h => absurd h (not_outstanding_nil array)⟩
  | cons deal earlier ih =>
    cases deal with
    | lent lent found => rw [outstanding, List.mem_cons, ih, outstanding_lent]
    | returned base => rw [outstanding, List.mem_filter, bne_iff_ne, ih, outstanding_returned]

/-- What a call deals in, if it is answered so. A listing without entries is no array. -/
def Store.dealt? (r : Store) : Call → Except CallFault Value → Option Deal
  | .listInterfaces h _ _, .ok (.array base entries) =>
    if entries = [] then none
    else some (.lent ⟨base, entries⟩ ((r.monitor h).toOption.elim [] (·.2.source.interfaces)))
  | .freeArray base count, .ok _ => if base = 0 ∨ count = 0 then none else some (.returned base)
  | _, _ => none

/-- The deal that is made by an event, if one is. -/
def Store.deal? (r : Store) : Event → Option Deal
  | .call around c => r.dealt? c (r.perform around c).1
  | .callElsewhere around c => r.dealt? c (r.performElsewhere around c).1
  | .network _ _ | .peer _ _ => none

/-- **A store, and the deals it has made.** -/
structure Lending where
  store : Store := {}
  /-- The latest one comes first. -/
  deals : List Deal := []

/-- What happens while arrays are outstanding. -/
inductive Lending.Occasion
  | event (e : Store.Event)
  /-- The next array is to be at an address. -/
  | memory (base : Nat)

/-! #### What deals make of the arrays -/

/-- **The live arrays before and after a deal,** or if none is made. -/
inductive Dealt (live : List Listing) : Option Deal → List Listing → Prop
  | nothing : Dealt live none live
  | lent {array : Listing} {found : List Interface}
    (hshows : List.Forall₂ InterfaceView.Shows array.entries found) :
    Dealt live (some (.lent array found)) (array :: live)
  | returned {base : Nat} :
    Dealt live (some (.returned base)) (live.filter (·.base != base))

namespace Store

variable {r : Store} {around : Surroundings} {call : Call}

/-- Handing a listing out, which shows what was found. -/
theorem dealt_allocate (arrays : Listings) (found : List Interface) :
    let (base, after) := arrays.allocate (found.map Interface.view)
    Dealt arrays.live
      (if found.map Interface.view = [] then none
        else some (.lent ⟨base, found.map Interface.view⟩ found)) after.live := by
  cases found with
  | nil => exact .nothing
  | cons i rest => exact .lent (Interface.forall₂_shows_view (i :: rest))

theorem dealt_listInterfaces (r : Store) (h : Handle) (hasArray hasCount : Bool) :
    Dealt r.arrays.live
      (r.dealt? (.listInterfaces h hasArray hasCount) (r.listInterfaces h hasArray hasCount).1)
      (r.listInterfaces h hasArray hasCount).2.arrays.live := by
  unfold listInterfaces
  split
  · exact .nothing
  rcases hm : r.monitor h with fault | ⟨place, m⟩
  · exact .nothing
  rcases hl : m.list with ⟨e | found, after⟩
  · simp only [hl]
    exact .nothing
  · have hfound : found = m.source.interfaces := Monitor.interfaces_of_list hl
    simp only [hl, dealt?, hm]
    rw [hfound]
    exact dealt_allocate r.arrays m.source.interfaces

theorem dealt_freeArray (r : Store) (base count : Nat) :
    Dealt r.arrays.live
      (r.dealt? (.freeArray base count) (r.settle (r.freeArray base count)).1)
      (r.settle (r.freeArray base count)).2.arrays.live := by
  by_cases hzero : base = 0 ∨ count = 0
  · rw [freeArray, Listings.free_of_zero hzero]
    have hnone : r.dealt? (.freeArray base count) (.ok .nothing) = none := if_pos hzero
    exact hnone ▸ .nothing
  rcases hfree : r.arrays.free base count with fault | after
  · rw [freeArray, hfree]
    cases fault <;> exact .nothing
  · rw [freeArray, hfree]
    have hsome : r.dealt? (.freeArray base count) (.ok .nothing) = some (.returned base) :=
      if_neg hzero
    have hlive : after.live = r.arrays.live.filter (·.base != base) :=
      Listings.live_of_free hzero hfree
    change Dealt r.arrays.live (r.dealt? (.freeArray base count) (.ok .nothing)) after.live
    rw [hsome, hlive]
    exact .returned

theorem dealt_carryOut (r : Store) (around : Surroundings) (call : Call) :
    Dealt r.arrays.live (r.dealt? call (r.carryOut around call).1)
      (r.carryOut around call).2.arrays.live := by
  by_cases hlist : ∃ h hasArray hasCount, call = .listInterfaces h hasArray hasCount
  · obtain ⟨h, hasArray, hasCount, rfl⟩ := hlist
    exact dealt_listInterfaces r h hasArray hasCount
  by_cases hfree : ∃ base count, call = .freeArray base count
  · obtain ⟨base, count, rfl⟩ := hfree
    exact dealt_freeArray r base count
  push Not at hlist hfree
  rw [arrays_carryOut r around hlist hfree]
  have hnone : r.dealt? call (r.carryOut around call).1 = none := by
    unfold dealt?
    split
    · exact absurd rfl (hlist _ _ _)
    · exact absurd rfl (hfree _ _)
    · rfl
  rw [hnone]
  exact .nothing

theorem dealt_undergo (r : Store) (e : Event) :
    Dealt r.arrays.live (r.deal? e) (r.undergo e).2.arrays.live := by
  have hperform (around : Surroundings) (call : Call) :
      Dealt r.arrays.live (r.dealt? call (r.perform around call).1)
        (r.perform around call).2.arrays.live := by
    have hcarry := dealt_carryOut r around call
    unfold perform
    rcases hc : r.carryOut around call with ⟨fault | value, after⟩ <;> rw [hc] at hcarry <;>
      exact hcarry
  cases e with
  | call around call => exact hperform around call
  | callElsewhere around call => exact hperform around call
  | network place change => exact .nothing
  | peer place change => exact .nothing

end Store

namespace Lending

/-- **One occasion.** -/
def step (l : Lending) : Occasion → Lending
  | .event e => { store := (l.store.undergo e).2, deals := (l.store.deal? e).toList ++ l.deals }
  | .memory base =>
    { l with store := { l.store with arrays := { l.store.arrays with nextBase := base } } }

/-- Occasions in order. -/
def run (l : Lending) (occasions : List Occasion) : Lending := occasions.foldl step l

/-- An event does not lend an array at the address of one that is outstanding. -/
def Fresh (l : Lending) (e : Store.Event) : Prop :=
  ∀ array ∈ (l.store.deal? e).bind Deal.array?, ∀ other, Outstanding l.deals other →
    other.base ≠ array.base

instance (l : Lending) (e : Store.Event) : Decidable (l.Fresh e) :=
  decidable_of_iff
    (∀ array ∈ (l.store.deal? e).bind Deal.array?, ∀ other ∈ outstanding l.deals,
      other.base ≠ array.base)
    (by simp only [mem_outstanding, Fresh])

/-- **No array is ever lent at the address of one that is outstanding.** -/
def Allots : Lending → List Occasion → Prop
  | _, [] => True
  | l, .event e :: rest => l.Fresh e ∧ (l.step (.event e)).Allots rest
  | l, .memory base :: rest => (l.step (.memory base)).Allots rest

instance decidableAllots :
    (l : Lending) → (occasions : List Occasion) → Decidable (l.Allots occasions)
  | _, [] => .isTrue trivial
  | l, .event e :: rest =>
    have := decidableAllots (l.step (.event e)) rest
    inferInstanceAs (Decidable (_ ∧ _))
  | l, .memory base :: rest => decidableAllots (l.step (.memory base)) rest

/-- **The deals tell which arrays are live.** -/
structure Accounts (l : Lending) : Prop where
  live : ∀ array, array ∈ l.store.arrays.live ↔ Outstanding l.deals array
  distinct : l.store.arrays.Distinct
  shows : ∀ array found, .lent array found ∈ l.deals →
    List.Forall₂ InterfaceView.Shows array.entries found

theorem accounts_empty : Accounts {} where
  live array := ⟨nofun, fun h => absurd h (not_outstanding_nil array)⟩
  distinct := List.nodup_nil
  shows _ _ h := absurd h List.not_mem_nil

/-- **A deal keeps the accounts.** -/
theorem Accounts.deal {l after : Lending} {deal : Option Deal} (h : l.Accounts)
    (hdealt : Dealt l.store.arrays.live deal after.store.arrays.live)
    (hdeals : after.deals = deal.toList ++ l.deals)
    (hfresh : ∀ array ∈ deal.bind Deal.array?, ∀ other, Outstanding l.deals other →
      other.base ≠ array.base) : after.Accounts := by
  generalize hlive : after.store.arrays.live = live at hdealt
  cases hdealt with
  | nothing =>
    have hsame : after.deals = l.deals := hdeals
    refine ⟨fun array => ?_, ?_, hsame ▸ h.shows⟩
    · rw [hlive, hsame, h.live]
    · rw [Listings.Distinct, hlive]
      exact h.distinct
  | @lent array found hshows =>
    have hadded : after.deals = .lent array found :: l.deals := hdeals
    refine ⟨fun other => ?_, ?_, fun other shown hmem => ?_⟩
    · rw [hlive, hadded, outstanding_lent, List.mem_cons, h.live]
    · rw [Listings.Distinct, hlive, List.map_cons, List.nodup_cons, List.mem_map]
      refine ⟨?_, h.distinct⟩
      rintro ⟨other, hother, hbase⟩
      exact hfresh array rfl other ((h.live other).mp hother) hbase
    · rw [hadded] at hmem
      rcases List.mem_cons.mp hmem with heq | hmem
      · cases heq
        exact hshows
      · exact h.shows other shown hmem
  | @returned base =>
    have hadded : after.deals = .returned base :: l.deals := hdeals
    refine ⟨fun other => ?_, ?_, fun other shown hmem => ?_⟩
    · rw [hlive, hadded, outstanding_returned, List.mem_filter, bne_iff_ne, h.live]
    · rw [Listings.Distinct, hlive]
      exact h.distinct.sublist (List.filter_sublist.map _)
    · rw [hadded] at hmem
      exact h.shows other shown ((List.mem_cons.mp hmem).resolve_left nofun)

/-- **The accounts stay right.** -/
theorem Accounts.run {l : Lending} {occasions : List Occasion} (h : l.Accounts)
    (hallots : l.Allots occasions) : (l.run occasions).Accounts := by
  induction occasions generalizing l with
  | nil => exact h
  | cons o rest ih =>
    cases o with
    | event e =>
      exact ih (h.deal (l.store.dealt_undergo e) rfl hallots.1) hallots.2
    | memory base =>
      have hmemory : (l.step (.memory base)).Accounts := ⟨h.live, h.distinct, h.shows⟩
      exact ih hmemory hallots

/-! ### What is taken back -/

section Freeing

variable {r : Store} {around : Surroundings} {base count : Nat}

theorem perform_freeArray_of_ok {after : Store} (hfree : r.freeArray base count = .ok after) :
    r.perform around (.freeArray base count) = (.ok .nothing, after) := by
  have hcarry : r.carryOut around (.freeArray base count) = (.ok .nothing, after) := by
    rw [Store.carryOut, hfree]
    rfl
  rw [Store.perform, hcarry]

theorem perform_freeArray_of_error {fault : CallFault}
    (hfree : r.freeArray base count = .error fault) :
    r.perform around (.freeArray base count) =
      (.error fault, { r with lastFault := some fault }) := by
  have hcarry : r.carryOut around (.freeArray base count) = (.error fault, r) := by
    rw [Store.carryOut, hfree]
    rfl
  rw [Store.perform, hcarry]

end Freeing

/-- **What can be relied on for arrays.** -/
structure Keeps (l : Lending) : Prop where
  /-- The live arrays are those that were lent and not returned since. -/
  live : ∀ array, array ∈ l.store.arrays.live ↔ Outstanding l.deals array
  /-- Each of them is at an address of its own. -/
  distinct : (l.store.arrays.live.map Listing.base).Nodup
  /-- Whatever was lent shows, entry by entry, what was found. -/
  shows : ∀ array found, .lent array found ∈ l.deals →
    List.Forall₂ InterfaceView.Shows array.entries found
  /-- To return nothing changes nothing. -/
  nothing : ∀ around base count, base = 0 ∨ count = 0 →
    l.store.perform around (.freeArray base count) = (.ok .nothing, l.store)
  /-- An array that is outstanding is taken back, and that is all. -/
  takesBack : ∀ around base count array, base ≠ 0 → count ≠ 0 → Outstanding l.deals array →
    array.base = base → array.entries.length = count →
      ∃ live, l.store.perform around (.freeArray base count) =
          (.ok .nothing, { l.store with arrays := { l.store.arrays with live } }) ∧
        ∀ other, other ∈ live ↔ other ∈ l.store.arrays.live ∧ other ≠ array
  /-- Anything else is not taken back, which is kept as the last fault and changes nothing else. -/
  refuses : ∀ around base count, base ≠ 0 → count ≠ 0 →
    (∀ array, Outstanding l.deals array → array.base = base → array.entries.length ≠ count) →
      ∃ fault, l.store.perform around (.freeArray base count) =
          (.error fault, { l.store with lastFault := some fault }) ∧
        ((∀ array, Outstanding l.deals array → array.base ≠ base) ∧ fault = .unknownArray base ∨
          ∃ array, Outstanding l.deals array ∧ array.base = base ∧
            fault = .miscountedArray base array.entries.length count)

/-- **Arrays are lent, and returned once,** whatever happens in between and whatever becomes of the
monitors they come from. -/
theorem keeps_run (occasions : List Occasion) (hallots : Allots {} occasions) :
    Keeps (run {} occasions) := by
  have h : (run {} occasions).Accounts := accounts_empty.run hallots
  generalize run {} occasions = l at h
  refine ⟨h.live, h.distinct, h.shows, ?_, ?_, ?_⟩
  · intro around base count hzero
    refine perform_freeArray_of_ok ?_
    rw [Store.freeArray, Listings.free_of_zero hzero]
  · rintro around base count array hbase hcount hout rfl rfl
    obtain ⟨live, hfree, hleft⟩ := h.distinct.free_of_mem ((h.live array).mpr hout) hbase hcount
    refine ⟨live, perform_freeArray_of_ok ?_, hleft⟩
    rw [Store.freeArray, hfree]
  · intro around base count hbase hcount hnone
    have hzero : ¬ (base = 0 ∨ count = 0) := not_or.mpr ⟨hbase, hcount⟩
    rcases hfind : l.store.arrays.find? base with _ | array
    · refine ⟨_, perform_freeArray_of_error ?_, .inl ⟨fun array hout => ?_, rfl⟩⟩
      · rw [Store.freeArray, Listings.free, if_neg hzero, hfind]
      · exact Listings.find?_eq_none.mp hfind array ((h.live array).mpr hout)
    · obtain ⟨hmem, rfl⟩ := h.distinct.find?_eq_some.mp hfind
      have hout : Outstanding l.deals array := (h.live array).mp hmem
      have hcounted : array.entries.length ≠ count := hnone array hout rfl
      refine ⟨_, perform_freeArray_of_error ?_, .inr ⟨array, hout, rfl, rfl⟩⟩
      rw [Store.freeArray, Listings.free, if_neg hzero, hfind]
      dsimp only
      rw [if_neg hcounted]

/-- An address is used again once its array has been returned, which takes the right number of
entries. The second array outlives the monitor it comes from. -/
theorem keeps_run_reused :
    let loopback : Interface := { index := 1, name := "lo", kind := .loopback }
    let wired : Interface := { index := 2, name := "eth\x000", kind := .wired }
    let monitor : Handle := 0x100000001
    let occasions : List Occasion :=
      [.event (.call {} (.enterMonitor { source := { interfaces := [loopback, wired] } })),
       .memory 64, .event (.call {} (.listInterfaces monitor true true)),
       .event (.call {} (.freeArray 64 3)), .event (.call {} (.freeArray 64 2)),
       .event (.call {} (.freeArray 64 2)),
       .event (.network 0 fun m => { m with source := m.source.edit (.remove 1) }),
       .memory 64, .event (.callElsewhere {} (.listInterfaces monitor true true)),
       .event (.call {} (.destroyMonitor monitor)), .event (.call {} .shutDown)]
    let first : Listing := ⟨64, [loopback.view, wired.view]⟩
    let second : Listing := ⟨64, [wired.view]⟩
    Allots {} occasions ∧ Keeps (run {} occasions) ∧
      (run {} occasions).deals =
        [.lent second [wired], .returned 64, .lent first [loopback, wired]] ∧
      (run {} occasions).store.arrays.live = [second] := by
  intro loopback wired monitor occasions first second
  have hallots : Allots {} occasions := by decide
  exact ⟨hallots, keeps_run occasions hallots, by decide, by decide⟩

end Lending

end Dialer
