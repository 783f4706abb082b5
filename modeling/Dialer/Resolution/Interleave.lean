import Dialer.Address.Ip
import Dialer.Distinct

/-!
# Interleaving address families

If one family is broken, a list that tries all its addresses first loses time. `interleave` drops
repeated addresses and lets the families alternate for as long as both last, beginning with the
family of the first address; inside a family the order stays.
-/

namespace Dialer

/-- One of each list in turn, and at the end what is left of the longer one. -/
def alternate {α : Type} : List α → List α → List α
  | [], ys => ys
  | xs, [] => xs
  | x :: xs, y :: ys => x :: y :: alternate xs ys

/-- **Distinct addresses with alternating families.** -/
def interleave (addresses : List Ip) : List Ip :=
  let distinct := firstOfEach id addresses
  match distinct with
  | [] => []
  | first :: _ =>
    let (primary, secondary) := distinct.partition (·.isV6 == first.isV6)
    alternate primary secondary

theorem mem_alternate {α : Type} {xs ys : List α} {a : α} :
    a ∈ alternate xs ys ↔ a ∈ xs ∨ a ∈ ys := by
  induction xs, ys using alternate.induct with
  | case1 ys => simp [alternate]
  | case2 xs => simp [alternate]
  | case3 x xs y ys ih => simp [alternate, ih, or_left_comm, or_assoc]

/-- Interleaving loses no address and adds none. -/
theorem mem_interleave {addresses : List Ip} {ip : Ip} :
    ip ∈ interleave addresses ↔ ip ∈ addresses := by
  have hdistinct : ip ∈ firstOfEach id addresses ↔ ip ∈ addresses := mem_firstOfEach_id
  rw [← hdistinct]
  unfold interleave
  rcases hd : firstOfEach id addresses with _ | ⟨first, rest⟩
  · rfl
  · simp only [List.partition_eq_filter_filter, mem_alternate, List.mem_filter, Function.comp_apply]
    cases ip.isV6 == first.isV6 <;> simp

end Dialer
