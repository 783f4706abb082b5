import Dialer.Resolution.Interleave
import Mathlib.Data.List.Dedup
import Mathlib.Data.List.Perm.Basic
import Mathlib.Tactic.SplitIfs

/-!
# Families alternate

Of two lists, one of each kind, `alternate` makes one in which the kinds alternate until one of them
has run out; what there is of a kind can be filtered out of it again (`filter_alternate`).
Interleaving does this with the two address families, each in the order in which its addresses first
occur. The result is such a list already, so interleaving it once more changes nothing
(`interleaves_interleave`).
-/

namespace Dialer

variable {α : Type}

/-! ### The order of what is kept -/

section Order

variable [DecidableEq α] {a b : α}

theorem idxOf_filter_lt_idxOf_filter {p : α → Bool} (ha : p a = true) (hb : p b = true)
    (xs : List α) :
    (xs.filter p).idxOf a < (xs.filter p).idxOf b ↔ xs.idxOf a < xs.idxOf b := by
  induction xs with
  | nil => rfl
  | cons x xs ih =>
    rw [List.filter_cons]
    by_cases hx : p x = true
    · rw [if_pos hx]
      grind
    · have hxa : x ≠ a := fun h => hx (h ▸ ha)
      have hxb : x ≠ b := fun h => hx (h ▸ hb)
      rw [if_neg hx, List.idxOf_cons_ne _ hxa, List.idxOf_cons_ne _ hxb, ih]
      omega

theorem idxOf_firstOfEach_lt_idxOf_firstOfEach (xs : List α) :
    (firstOfEach id xs).idxOf a < (firstOfEach id xs).idxOf b ↔ xs.idxOf a < xs.idxOf b := by
  induction xs with
  | nil => rfl
  | cons x xs ih =>
    rw [firstOfEach]
    by_cases hxa : x = a
    · grind
    by_cases hxb : x = b
    · grind
    have hfilter := idxOf_filter_lt_idxOf_filter (p := fun y => decide (id y ≠ id x))
      (decide_eq_true (Ne.symm hxa)) (decide_eq_true (Ne.symm hxb)) (firstOfEach id xs)
    rw [List.idxOf_cons_ne _ hxa, List.idxOf_cons_ne _ hxb, List.idxOf_cons_ne _ hxa,
      List.idxOf_cons_ne _ hxb]
    omega

theorem nodup_firstOfEach_id (xs : List α) : (firstOfEach id xs).Nodup :=
  pairwise_firstOfEach id xs

theorem firstOfEach_id_of_nodup {xs : List α} (h : xs.Nodup) : firstOfEach id xs = xs := by
  induction xs with
  | nil => rfl
  | cons x xs ih =>
    obtain ⟨hx, hxs⟩ := List.nodup_cons.mp h
    rw [firstOfEach, ih hxs, List.filter_eq_self.mpr]
    intro y hy
    simpa using fun heq : y = x => hx (heq ▸ hy)

end Order

/-! ### Two kinds in turn -/

theorem alternate_nil (xs : List α) : alternate xs [] = xs := by
  cases xs <;> rfl

theorem alternate_cons (x : α) (xs ys : List α) :
    alternate (x :: xs) ys = x :: alternate ys xs := by
  induction ys generalizing x xs with
  | nil => rfl
  | cons y ys ih =>
    cases xs with
    | nil => rfl
    | cons x' xs => rw [alternate, alternate, ih]

theorem perm_alternate (xs ys : List α) : (alternate xs ys).Perm (xs ++ ys) := by
  induction xs, ys using alternate.induct with
  | case1 ys => rw [alternate, List.nil_append]
  | case2 xs => rw [alternate_nil, List.append_nil]
  | case3 x xs y ys ih =>
    rw [alternate, List.cons_append]
    exact ((ih.cons y).trans List.perm_middle.symm).cons x

/-- **Neither kind is ahead** by more than one. -/
def Balanced (kind : α → Bool) (xs : List α) : Prop :=
  xs.countP kind ≤ xs.countP (!kind ·) + 1 ∧ xs.countP (!kind ·) ≤ xs.countP kind + 1

theorem balanced_nil (kind : α → Bool) : Balanced kind [] := by
  simp [Balanced]

theorem balanced_singleton (kind : α → Bool) (x : α) : Balanced kind [x] := by
  cases hx : kind x <;> simp [Balanced, hx]

theorem Balanced.cons_cons {kind : α → Bool} {xs : List α} (h : Balanced kind xs) {x y : α}
    (hne : kind x ≠ kind y) : Balanced kind (x :: y :: xs) := by
  obtain ⟨hle, hge⟩ := h
  cases hx : kind x <;> cases hy : kind y
  all_goals simp_all [Balanced]

section Kinds

variable {kind : α → Bool} {k : Bool} {xs ys : List α}

theorem filter_of_kind (hxs : ∀ x ∈ xs, kind x = k) (j : Bool) :
    xs.filter (kind · == j) = if j = k then xs else [] := by
  split_ifs with h
  · exact List.filter_eq_self.mpr fun x hx => by rw [hxs x hx, h, beq_self_eq_true]
  · exact List.filter_eq_nil_iff.mpr fun x hx => by rw [hxs x hx]; simpa using Ne.symm h

variable (hxs : ∀ x ∈ xs, kind x = k) (hys : ∀ y ∈ ys, kind y = !k)

include hxs hys

/-- **Each kind can be filtered out again** as it was. -/
theorem filter_alternate (j : Bool) :
    (alternate xs ys).filter (kind · == j) = if j = k then xs else ys := by
  induction xs, ys using alternate.induct with
  | case1 ys =>
    rw [alternate, filter_of_kind hys]
    cases j <;> cases k <;> rfl
  | case2 xs => rw [alternate_nil, filter_of_kind hxs]
  | case3 x xs y ys ih =>
    obtain ⟨hx, hxs⟩ := List.forall_mem_cons.mp hxs
    obtain ⟨hy, hys⟩ := List.forall_mem_cons.mp hys
    rw [alternate, List.filter_cons, List.filter_cons, hx, hy, ih hxs hys]
    cases j <;> cases k <;> rfl

end Kinds

/-- **Of two neighbours of one kind,** what comes after them is of this kind too: the other has run
out. -/
theorem kind_of_neighbours {kind : α → Bool} {k : Bool} {xs ys front rest : List α} {a b : α}
    (hxs : ∀ x ∈ xs, kind x = k) (hys : ∀ y ∈ ys, kind y = !k)
    (heq : alternate xs ys = front ++ a :: b :: rest) (hab : kind a = kind b) :
    ∀ c ∈ rest, kind c = kind a := by
  -- the lists change places at every step, so the induction is over what stands in front
  induction front generalizing xs ys k with
  | nil =>
    rcases xs with _ | ⟨x, xs⟩
    · rw [alternate] at heq
      exact fun c hc => by rw [hys c (by simp [heq, hc]), hys a (by simp [heq])]
    rw [alternate_cons, List.nil_append, List.cons.injEq] at heq
    obtain ⟨rfl, heq⟩ := heq
    rcases ys with _ | ⟨y, ys⟩
    · rw [alternate] at heq
      exact fun c hc => by rw [hxs c (by simp [heq, hc]), hxs x (by simp)]
    rw [alternate_cons, List.cons.injEq] at heq
    rw [hxs x (by simp), ← heq.1, hys y (by simp)] at hab
    cases k <;> cases hab
  | cons z front ih =>
    rcases xs with _ | ⟨x, xs⟩
    · rw [alternate] at heq
      exact fun c hc => by rw [hys c (by simp [heq, hc]), hys a (by simp [heq])]
    rw [alternate_cons, List.cons_append, List.cons.injEq] at heq
    obtain ⟨-, hxs⟩ := List.forall_mem_cons.mp hxs
    exact ih hys (by simpa using hxs) heq.2

/-- **While both kinds are still to come,** neither is ahead, and nor is it with one more. -/
theorem balanced_of_alternate {kind : α → Bool} {k : Bool} {xs ys front rest : List α} {z : α}
    (hxs : ∀ x ∈ xs, kind x = k) (hys : ∀ y ∈ ys, kind y = !k)
    (heq : alternate xs ys = front ++ z :: rest) (hboth : ∀ j, ∃ c ∈ z :: rest, kind c = j) :
    Balanced kind front ∧ Balanced kind (front ++ [z]) := by
  induction xs, ys using alternate.induct generalizing front with
  | case1 ys =>
    rw [alternate] at heq
    obtain ⟨c, hc, hk⟩ := hboth k
    have hother : kind c = !k := hys c (by simp only [heq, List.mem_append, hc, or_true])
    cases k <;> simp_all
  | case2 xs =>
    rw [alternate_nil] at heq
    obtain ⟨c, hc, hk⟩ := hboth (!k)
    have hother : kind c = k := hxs c (by simp only [heq, List.mem_append, hc, or_true])
    cases k <;> simp_all
  | case3 x xs y ys ih =>
    obtain ⟨hx, hxs⟩ := List.forall_mem_cons.mp hxs
    obtain ⟨hy, hys⟩ := List.forall_mem_cons.mp hys
    have hne : kind x ≠ kind y := by simp [hx, hy]
    rw [alternate] at heq
    rcases front with _ | ⟨a, _ | ⟨b, front⟩⟩
    · exact ⟨balanced_nil kind, balanced_singleton kind z⟩
    · injection heq with hx heq
      injection heq with hy
      subst hx hy
      exact ⟨balanced_singleton kind x, (balanced_nil kind).cons_cons hne⟩
    · injection heq with hx heq
      injection heq with hy heq
      subst hx hy
      obtain ⟨hfront, hz⟩ := ih hxs hys heq
      exact ⟨hfront.cons_cons hne, hz.cons_cons hne⟩

/-! ### Addresses -/

/-- **What interleaving makes of a list of addresses:** -/
structure Interleaves (addresses result : List Ip) : Prop where
  /-- Each address once, and no other. -/
  perm : result.Perm addresses.dedup
  /-- The first one comes first. -/
  first : result.head? = addresses.head?
  /-- Two addresses of one family stand as they first occurred. -/
  order : ∀ a ∈ addresses, ∀ b ∈ addresses, a.isV6 = b.isV6 →
    (result.idxOf a < result.idxOf b ↔ addresses.idxOf a < addresses.idxOf b)
  /-- Two neighbours are of different families, unless only one family is left: then the rest of it
  follows. -/
  alternates : ∀ front a b rest, result = front ++ a :: b :: rest → a.isV6 = b.isV6 →
    ∀ c ∈ rest, c.isV6 = a.isV6
  /-- As long as both families are still to come, as many of each have come, or one more. -/
  balanced : ∀ front ip rest, result = front ++ ip :: rest →
    (∀ family, ∃ c ∈ ip :: rest, c.isV6 = family) →
    Balanced Ip.isV6 front ∧ Balanced Ip.isV6 (front ++ [ip])
  /-- Doing it again changes nothing. -/
  again : interleave result = result

/-- The two families, each in the order of first occurrence. -/
def family (addresses : List Ip) (v6 : Bool) : List Ip :=
  (firstOfEach id addresses).filter (·.isV6 == v6)

theorem isV6_of_mem_family {addresses : List Ip} {v6 : Bool} :
    ∀ ip ∈ family addresses v6, ip.isV6 = v6 :=
  fun _ h => by simpa using (List.mem_filter.mp h).2

theorem family_not (addresses : List Ip) (v6 : Bool) :
    family addresses (!v6) = (firstOfEach id addresses).filter fun ip => !(ip.isV6 == v6) :=
  List.filter_congr fun ip _ => by cases ip.isV6 <;> cases v6 <;> rfl

theorem interleave_cons (ip : Ip) (rest : List Ip) :
    interleave (ip :: rest) =
      alternate (family (ip :: rest) ip.isV6) (family (ip :: rest) !ip.isV6) := by
  rw [family_not, interleave, firstOfEach]
  simp only [List.partition_eq_filter_filter, Function.comp_def, family, firstOfEach]

theorem head?_interleave (addresses : List Ip) :
    (interleave addresses).head? = addresses.head? := by
  rcases addresses with _ | ⟨ip, rest⟩
  · rfl
  rw [interleave_cons, family, firstOfEach, List.filter_cons, if_pos (beq_self_eq_true _),
    alternate_cons, List.head?_cons, List.head?_cons]

theorem perm_interleave (addresses : List Ip) :
    (interleave addresses).Perm (firstOfEach id addresses) := by
  rcases addresses with _ | ⟨ip, rest⟩
  · rfl
  rw [interleave_cons, family_not]
  exact (perm_alternate _ _).trans (List.filter_append_perm _ _)

theorem nodup_interleave (addresses : List Ip) : (interleave addresses).Nodup :=
  (perm_interleave addresses).nodup_iff.mpr (nodup_firstOfEach_id addresses)

/-- **Interleaving keeps each family** in its order. -/
theorem filter_interleave (addresses : List Ip) (v6 : Bool) :
    (interleave addresses).filter (·.isV6 == v6) = family addresses v6 := by
  rcases addresses with _ | ⟨ip, rest⟩
  · rfl
  rw [interleave_cons, filter_alternate isV6_of_mem_family isV6_of_mem_family]
  split_ifs with h
  · rw [h]
  · rw [Bool.eq_not.mpr h]

theorem family_interleave (addresses : List Ip) (v6 : Bool) :
    family (interleave addresses) v6 = family addresses v6 := by
  rw [family, firstOfEach_id_of_nodup (nodup_interleave addresses), filter_interleave]

theorem interleave_interleave (addresses : List Ip) :
    interleave (interleave addresses) = interleave addresses := by
  rcases addresses with _ | ⟨ip, rest⟩
  · rfl
  obtain ⟨others, heq⟩ : ∃ others, interleave (ip :: rest) = ip :: others :=
    List.head?_eq_some_iff.mp (head?_interleave (ip :: rest))
  calc interleave (interleave (ip :: rest))
      = alternate (family (interleave (ip :: rest)) ip.isV6)
          (family (interleave (ip :: rest)) !ip.isV6) := by rw [heq, interleave_cons]
    _ = interleave (ip :: rest) := by
      rw [family_interleave, family_interleave, interleave_cons]

/-- An interleaved list is two lists in turn, one of each family. -/
theorem exists_alternate_eq_interleave (addresses : List Ip) :
    ∃ (v6 : Bool) (xs ys : List Ip), (∀ x ∈ xs, x.isV6 = v6) ∧ (∀ y ∈ ys, y.isV6 = !v6) ∧
      interleave addresses = alternate xs ys := by
  rcases addresses with _ | ⟨ip, rest⟩
  · exact ⟨false, [], [], nofun, nofun, rfl⟩
  · exact ⟨ip.isV6, _, _, isV6_of_mem_family, isV6_of_mem_family, interleave_cons ip rest⟩

/-- **Interleaving** keeps one of each address, lets the families alternate as long as both last,
and has nothing to do the second time. -/
theorem interleaves_interleave (addresses : List Ip) :
    Interleaves addresses (interleave addresses) where
  perm := (List.perm_ext_iff_of_nodup (nodup_interleave addresses) (List.nodup_dedup _)).mpr
    fun ip => by rw [mem_interleave, List.mem_dedup]
  first := head?_interleave addresses
  order a _ b _ hab := by
    have ha : (a.isV6 == a.isV6) = true := beq_self_eq_true _
    have hb : (b.isV6 == a.isV6) = true := beq_iff_eq.mpr hab.symm
    have hkept : ∀ xs : List Ip, (xs.filter (·.isV6 == a.isV6)).idxOf a <
        (xs.filter (·.isV6 == a.isV6)).idxOf b ↔ xs.idxOf a < xs.idxOf b :=
      idxOf_filter_lt_idxOf_filter ha hb
    rw [← hkept, filter_interleave, family, hkept, idxOf_firstOfEach_lt_idxOf_firstOfEach]
  alternates front a b rest heq hab := by
    obtain ⟨v6, xs, ys, hxs, hys, halt⟩ := exists_alternate_eq_interleave addresses
    exact kind_of_neighbours hxs hys (halt ▸ heq) hab
  balanced front ip rest heq hboth := by
    obtain ⟨v6, xs, ys, hxs, hys, halt⟩ := exists_alternate_eq_interleave addresses
    exact balanced_of_alternate hxs hys (halt ▸ heq) hboth
  again := interleave_interleave addresses

/-- Three addresses of one family, the first of them twice, and one of the other. -/
example (a b c : Vector UInt8 4) (d : Vector UInt16 8) (hab : a ≠ b) (hac : a ≠ c) (hbc : b ≠ c) :
    interleave [.v4 a, .v4 b, .v4 a, .v4 c, .v6 d] = [.v4 a, .v6 d, .v4 b, .v4 c] := by
  simp [interleave, firstOfEach, alternate, Ip.isV6, hab, hab.symm, hac.symm, hbc.symm]

end Dialer
