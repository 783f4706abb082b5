import Dialer.Proofs.Establishment.Permission
import Mathlib.Data.List.TakeWhile

/-!
# The endpoint a connection is said to come from

A candidate is resolved from the first endpoint that offers its address and stack,
`Preconnection.resolvedFrom?`. What a connection reports is found afterwards, from the address, port
and hostname of the winner, and looks neither at protocols nor at whether an endpoint with both an
address and a hostname resolves to that address. The endpoint it reports is never a later one than
the candidate was resolved from, and it is that one exactly if no earlier endpoint matches the
candidate (`Preconnection.reported_origin`); for one that does, see
`Preconnection.reported_origin_shadowed`.
-/

namespace Dialer

theorem find?_of_mem_firstOfEach {α β : Type} [DecidableEq β] {key : α → β} {xs : List α} {a : α}
    (h : a ∈ firstOfEach key xs) : xs.find? (key · = key a) = some a := by
  induction xs with
  | nil => cases h
  | cons b rest ih =>
    rw [firstOfEach, List.mem_cons, List.mem_filter] at h
    rcases h with rfl | ⟨h, hne⟩
    · simp
    · have hb : key b ≠ key a := fun heq => by simp [heq] at hne
      rw [List.find?_cons_of_neg (by simpa using hb), ih h]

namespace RemoteEndpoint

variable {table : HostTable} {acceptable : List Stack} {e : RemoteEndpoint} {c : Candidate}

/-- **Whether an endpoint's own resolution succeeds and finds the address and stack** of a
candidate. -/
def offers (table : HostTable) (acceptable : List Stack) (c : Candidate) (e : RemoteEndpoint) :
    Bool :=
  match e.candidates table acceptable with
  | .ok own => own.any (·.target = c.target)
  | .error _ => false

/-- An endpoint that can be attempted over all of some stacks, and that has one way to say where to
connect. -/
structure Plain (acceptable : List Stack) (e : RemoteEndpoint) : Prop where
  protocol : ∀ stack ∈ acceptable, stack.allowedBy e.protocol = true
  host : e.address = none ∨ e.hostname = none

instance : Decidable (e.Plain acceptable) :=
  decidable_of_iff ((∀ stack ∈ acceptable, stack.allowedBy e.protocol = true) ∧
      (e.address = none ∨ e.hostname = none))
    ⟨fun ⟨hprotocol, hhost⟩ => ⟨hprotocol, hhost⟩, fun h => ⟨h.protocol, h.host⟩⟩

theorem offers_of_serves (hstack : c.stack ∈ acceptable) (hs : e.Serves table c) :
    e.offers table acceptable c = true := by
  obtain ⟨ips, hips, hip⟩ := hs.address
  have hne : (interleave ips).isEmpty = false :=
    List.isEmpty_eq_false_iff.mpr (List.ne_nil_of_mem (mem_interleave.mpr hip))
  have hfound : e.addresses table =
      .ok ((interleave ips).map fun ip => ⟨ip, c.address.port, 0⟩) := by
    simp only [addresses, hs.port, hips, hne, Bool.false_eq_true, if_false]
  rcases hown : e.candidates table acceptable with failure | own
  · rw [candidates, hfound] at hown
    cases hown
  · have hmem : { c with host := e.candidateHost, localSide := none } ∈ own :=
      (mem_candidates hown).mpr ⟨hstack, ⟨hs.address, hs.port, hs.zone, hs.protocol⟩, rfl, rfl⟩
    rw [offers, hown]
    exact List.any_eq_true.mpr ⟨_, hmem, decide_eq_true rfl⟩

theorem namedAddresses_of_address {ip : Ip} (h : e.address = some ip) :
    e.namedAddresses table = .ok [ip] := by
  rw [namedAddresses, h]

theorem namedAddresses_of_literal {name : String} {ip : Ip} (ha : e.address = none)
    (hn : e.hostname = some name) (hp : Ip.parse? name = some ip) :
    e.namedAddresses table = .ok [ip] := by
  simp only [namedAddresses, ha, hn, hp]

theorem namedAddresses_of_name {name : String} (ha : e.address = none)
    (hn : e.hostname = some name) (hp : Ip.parse? name = none) :
    e.namedAddresses table = table.resolve name := by
  simp only [namedAddresses, ha, hn, hp]

theorem candidateHost_eq_some {name : String} :
    e.candidateHost = some name ↔ e.hostname = some name ∧ Ip.parse? name = none := by
  simp [candidateHost, Option.filter_eq_some_iff]

theorem matchesCandidate_iff : e.matchesCandidate c = true ↔
    e.effectivePort = some c.address.port ∧ (e.address = some c.address.ip ∨
      ∃ name, e.hostname = some name ∧
        (c.host = some name ∨ Ip.parse? name = some c.address.ip)) := by
  simp [matchesCandidate, Option.any_eq_true]

/-- An endpoint matches what it resolves to. -/
theorem matchesCandidate_of_mem {own : List Candidate}
    (hown : e.candidates table acceptable = .ok own) (hc : c ∈ own) :
    e.matchesCandidate c = true := by
  obtain ⟨-, hs, hhost, -⟩ := (mem_candidates hown).mp hc
  obtain ⟨ips, hips, hip⟩ := hs.address
  refine matchesCandidate_iff.mpr ⟨hs.port, ?_⟩
  rcases ha : e.address with _ | ip
  · rcases hn : e.hostname with _ | name
    · rw [namedAddresses, ha, hn] at hips
      cases hips
    · refine Or.inr ⟨name, rfl, ?_⟩
      rcases hp : Ip.parse? name with _ | ip
      · left
        rw [hhost, candidateHost_eq_some]
        exact ⟨hn, hp⟩
      · rw [namedAddresses_of_literal ha hn hp] at hips
        cases hips
        exact Or.inr (congrArg some (List.mem_singleton.mp hip).symm)
  · rw [namedAddresses_of_address ha] at hips
    cases hips
    exact Or.inl (congrArg some (List.mem_singleton.mp hip).symm)

/-- Among plain endpoints, one that matches what another resolves to resolves to it too. -/
theorem offers_of_matchesCandidate {other : RemoteEndpoint} {own : List Candidate}
    (hother : other.Plain acceptable) (hown : other.candidates table acceptable = .ok own)
    (hc : c ∈ own) (he : e.Plain acceptable) (hm : e.matchesCandidate c = true) :
    e.offers table acceptable c = true := by
  obtain ⟨hstack, hs, hhost, -⟩ := (mem_candidates hown).mp hc
  obtain ⟨hport, haddress⟩ := matchesCandidate_iff.mp hm
  refine offers_of_serves hstack ⟨?_, hport, hs.zone, Stack.allowedBy_iff.mp (he.protocol _ hstack)⟩
  rcases haddress with ha | ⟨name, hn, hname⟩
  · exact ⟨_, namedAddresses_of_address ha, List.mem_singleton_self _⟩
  have ha : e.address = none := he.host.resolve_right (by rw [hn]; nofun)
  rcases hname with hname | hp
  · -- The name is the label of the candidate, so the other endpoint has looked it up.
    rw [hhost, candidateHost_eq_some] at hname
    obtain ⟨hn', hp⟩ := hname
    have ha' : other.address = none := hother.host.resolve_right (by rw [hn']; nofun)
    obtain ⟨ips, hips, hip⟩ := hs.address
    rw [namedAddresses_of_name ha' hn' hp] at hips
    exact ⟨ips, (namedAddresses_of_name ha hn hp).trans hips, hip⟩
  · exact ⟨_, namedAddresses_of_literal ha hn hp, List.mem_singleton_self _⟩

end RemoteEndpoint

/-! ### Several endpoints -/

section Endpoints

variable {table : HostTable} {acceptable : List Stack} {endpoints : List RemoteEndpoint}
  {found : List Candidate} {c : Candidate}

/-- The first candidate with a target comes from the first endpoint that offers it. -/
theorem exists_first_offering
    (h : ((separate (endpoints.map (·.candidates table acceptable))).1.flatten).find?
      (·.target = c.target) = some c) :
    ∃ e own, endpoints.find? (·.offers table acceptable c) = some e ∧
      e.candidates table acceptable = .ok own ∧ c ∈ own := by
  induction endpoints with
  | nil => cases h
  | cons e rest ih =>
    rcases hown : e.candidates table acceptable with failure | own
    · have hoffers : e.offers table acceptable c = false := by rw [RemoteEndpoint.offers, hown]
      simp only [List.map_cons, hown, separate] at h
      rw [List.find?_cons_of_neg (by simp [hoffers])]
      exact ih h
    · have hoffers : e.offers table acceptable c = own.any (·.target = c.target) := by
        rw [RemoteEndpoint.offers, hown]
      simp only [List.map_cons, hown, separate, List.flatten_cons, List.find?_append] at h
      rcases hfirst : own.find? (·.target = c.target) with _ | d
      · rw [hfirst, Option.none_or] at h
        rw [← List.isSome_find?, hfirst] at hoffers
        rw [List.find?_cons_of_neg (by simp [hoffers])]
        exact ih h
      · rw [hfirst, Option.some_or] at h
        obtain rfl := Option.some.inj h
        rw [← List.isSome_find?, hfirst] at hoffers
        exact ⟨e, own, List.find?_cons_of_pos (by simp [hoffers]), hown,
          List.mem_of_find?_eq_some hfirst⟩

theorem exists_offering_of_mem (h : resolveEndpoints table acceptable endpoints = .ok found)
    (hc : c ∈ found) : ∃ e own, endpoints.find? (·.offers table acceptable c) = some e ∧
      e.candidates table acceptable = .ok own ∧ c ∈ own := by
  obtain ⟨-, rfl⟩ := resolveEndpoints_eq_ok h
  exact exists_first_offering (find?_of_mem_firstOfEach hc)

/-- A search that accepts what another finds stops there exactly if it accepts nothing before. -/
theorem find?_eq_some_iff_takeWhile {α : Type} {p q : α → Bool} {xs : List α} {a : α}
    (hq : xs.find? q = some a) (hp : p a = true) :
    xs.find? p = some a ↔ ∀ b ∈ xs.takeWhile (!q ·), p b = false := by
  induction xs with
  | nil => cases hq
  | cons b rest ih =>
    by_cases hqb : q b = true
    · rw [List.find?_cons_of_pos hqb] at hq
      obtain rfl := Option.some.inj hq
      simp [hp, hqb]
    · have hne : b ≠ a := by
        rintro rfl
        exact hqb (List.find?_some hq)
      rw [List.find?_cons_of_neg hqb] at hq
      have hnot : (!q b) = true := by simpa using hqb
      by_cases hpb : p b = true
      · simp [hpb, hnot, hne]
      · simp only [Bool.not_eq_true] at hpb
        simp [hpb, hnot, ih hq]

/-- Otherwise it stops earlier. -/
theorem find?_mem_takeWhile {α : Type} {p q : α → Bool} {xs : List α} {a b : α}
    (hq : xs.find? q = some a) (hp : p a = true) (hb : xs.find? p = some b) :
    b = a ∨ b ∈ xs.takeWhile (!q ·) := by
  induction xs with
  | nil => cases hq
  | cons x rest ih =>
    by_cases hqx : q x = true
    · rw [List.find?_cons_of_pos hqx] at hq
      obtain rfl := Option.some.inj hq
      rw [List.find?_cons_of_pos hp] at hb
      exact Or.inl (Option.some.inj hb).symm
    · rw [List.find?_cons_of_neg hqx] at hq
      rw [List.takeWhile_cons_of_pos (by simpa using hqx)]
      by_cases hpx : p x = true
      · rw [List.find?_cons_of_pos hpx] at hb
        obtain rfl := Option.some.inj hb
        exact Or.inr List.mem_cons_self
      · rw [List.find?_cons_of_neg hpx] at hb
        exact (ih hq hb).imp_right (List.mem_cons_of_mem _)

end Endpoints

/-! ### Preconnections -/

namespace Preconnection

variable {p : Preconnection} {table : HostTable} {source : Source} {cs : List Candidate}
  {c : Candidate}

/-- Whether an endpoint of the preconnection resolves to a candidate. -/
def offers (table : HostTable) (p : Preconnection) (c : Candidate) (e : RemoteEndpoint) : Bool :=
  e.offers table p.wantedStacks c

/-- **The endpoint a candidate was resolved from.** -/
def resolvedFrom? (table : HostTable) (p : Preconnection) (c : Candidate) :
    Option RemoteEndpoint :=
  p.remotes.find? (p.offers table c)

/-- The endpoints that stand before it. -/
def passedOver (table : HostTable) (p : Preconnection) (c : Candidate) : List RemoteEndpoint :=
  p.remotes.takeWhile fun e => !p.offers table c e

theorem exists_resolvedFrom? (h : (p.candidates table source).1 = .ok cs) (hc : c ∈ cs) :
    ∃ e own resolved, p.resolvedFrom? table c = some e ∧
      e.candidates table p.wantedStacks = .ok own ∧ resolved ∈ own ∧
      ∃ side, c = { resolved with localSide := side } := by
  obtain ⟨resolved, bound, interfaces, hresolve, hbind, rfl⟩ := candidates_eq_ok h
  obtain ⟨r, hr, side, rfl⟩ := exists_of_mem_bindLocals hbind (mem_costlyLast.mp hc)
  obtain ⟨e, own, he, hown, hmem⟩ := exists_offering_of_mem (resolve_eq_ok hresolve) hr
  exact ⟨e, own, r, he, hown, hmem, side, rfl⟩

theorem mem_of_conclude_eq_ok {s : Race.State} {win : Race.Win}
    (h : Race.conclude cs s = .ok win) : win.candidate ∈ cs := by
  unfold Race.conclude at h
  split at h
  · rename_i k candidate hk
    obtain ⟨j, -, hj⟩ := Option.bind_eq_some_iff.mp hk
    obtain ⟨other, hother, heq⟩ := Option.map_eq_some_iff.mp hj
    cases heq
    cases h
    exact List.mem_of_getElem? hother
  · cases h

theorem mem_of_race_eq_ok {config : Race.Config} {given : List Race.Behaviour} {win : Race.Win}
    (h : (Race.race config cs given).outcome = .ok win) : win.candidate ∈ cs := by
  unfold Race.race at h
  split_ifs at h
  exact mem_of_conclude_eq_ok h

/-- A connection is with a candidate and reports what is found of its origin. -/
theorem establish_eq_ok (h : (p.candidates table source).1 = .ok cs) {config : Race.Config}
    {given : Except SecurityFault (List Candidate → List Race.Behaviour)} {est : Establishment}
    (hest : (p.establish table source config given).outcome = .ok est) :
    est.candidate ∈ cs ∧ est.remote = originOf p.remotes est.candidate := by
  unfold establish at hest
  rcases hp : p.candidates table source with ⟨failure | found, after⟩
  · rw [hp] at h
    cases h
  rw [hp] at h
  obtain rfl := Except.ok.inj h
  rcases given with fault | behaviours
  · simp only [hp] at hest
    cases hest
  simp only [hp] at hest
  rcases hrace : (Race.race (p.raceConfig config) found (behaviours found)).outcome with _ | win
  · rw [hrace] at hest
    cases hest
  · rw [hrace] at hest
    cases hest
    exact ⟨mem_of_race_eq_ok hrace, rfl⟩

/-- **The endpoint a connection reports.** It is the one the candidate was resolved from, unless an
earlier one matches the candidate, and where all endpoints are plain none does. -/
theorem reported_origin (h : (p.candidates table source).1 = .ok cs) :
    (∀ config given est, (p.establish table source config given).outcome = .ok est →
      est.candidate ∈ cs ∧ est.remote = originOf p.remotes est.candidate) ∧
    ∀ c ∈ cs, ∃ e, p.resolvedFrom? table c = some e ∧
      (originOf p.remotes c = e ∨ originOf p.remotes c ∈ p.passedOver table c) ∧
      (originOf p.remotes c = e ↔
        ∀ other ∈ p.passedOver table c, other.matchesCandidate c = false) ∧
      ((∀ other ∈ p.remotes, other.Plain p.wantedStacks) → originOf p.remotes c = e) := by
  refine ⟨fun config given est => establish_eq_ok h, fun c hc => ?_⟩
  obtain ⟨e, own, resolved, he, hown, hmem, side, hside⟩ := exists_resolvedFrom? h hc
  have hsame (other : RemoteEndpoint) :
      other.matchesCandidate c = other.matchesCandidate resolved := by
    rw [hside]
    rfl
  have hmatch : e.matchesCandidate c = true :=
    (hsame e).trans (RemoteEndpoint.matchesCandidate_of_mem hown hmem)
  have hin : e ∈ p.remotes := List.mem_of_find?_eq_some he
  obtain ⟨r, hr⟩ : ∃ r, p.remotes.find? (·.matchesCandidate c) = some r :=
    Option.isSome_iff_exists.mp (List.find?_isSome.mpr ⟨e, hin, hmatch⟩)
  have horigin : originOf p.remotes c = r := by rw [originOf, hr, Option.getD_some]
  have hiff := find?_eq_some_iff_takeWhile (p := (·.matchesCandidate c)) he hmatch
  rw [hr, Option.some.injEq] at hiff
  rw [horigin]
  refine ⟨e, he, find?_mem_takeWhile he hmatch hr, hiff, fun hplain => hiff.mpr ?_⟩
  intro other hother
  have hnot : p.offers table c other = false := by simpa using List.mem_takeWhile_imp hother
  refine Bool.eq_false_iff.mpr fun hm => ?_
  have hoffers : other.offers table p.wantedStacks resolved = true :=
    RemoteEndpoint.offers_of_matchesCandidate (hplain e hin) hown hmem
      (hplain other (List.takeWhile_subset _ hother)) ((hsame other).symm.trans hm)
  have hoffers' : p.offers table c other = true := by
    rw [hside]
    exact hoffers
  exact Bool.false_ne_true (hnot.symm.trans hoffers')

/-- Endpoints with a hostname each, and the same port. -/
def twoNames : Preconnection where
  remotes :=
    [{ hostname := some "a", port := some 443 }, { hostname := some "b", port := some 443 }]

/-- Both names stand for one address. -/
def oneAddress : HostTable :=
  HostTable.ofList [("a", [.unspecified true]), ("b", [.unspecified true])]

theorem reported_origin_twoNames :
    ∃ c e, (twoNames.candidates oneAddress {}).1 = .ok [c] ∧
      twoNames.resolvedFrom? oneAddress c = some e ∧ originOf twoNames.remotes c = e := by
  have h : (twoNames.candidates oneAddress {}).1 =
      .ok [{ address := ⟨.unspecified true, 443, 0⟩, stack := .tls, host := some "a" }] := by rfl
  obtain ⟨e, he, -, -, hplain⟩ := (reported_origin h).2 _ (List.mem_singleton_self _)
  exact ⟨_, e, h, he, hplain (by decide)⟩

/-- Two endpoints that differ in the stacks they may be attempted over. -/
def oneHinted : Preconnection where
  remotes :=
    [{ address := some (.unspecified false), port := some 443, protocol := some .udp },
      { address := some (.unspecified false), port := some 443 }]

/-- Two endpoints of one hostname, of which the first has an address as well. -/
def oneAddressed : Preconnection where
  remotes :=
    [{ hostname := some "a", address := some (.unspecified false), port := some 443 },
      { hostname := some "a", port := some 443 }]

/-- An earlier endpoint can be reported that excludes the stack of the connection, or whose address
is not the one connected to. -/
theorem reported_origin_shadowed :
    (∃ est, (oneHinted.establish {} {} {} (.ok fun _ => [.ends 0 (.connects none)])).outcome =
        .ok est ∧ oneHinted.resolvedFrom? {} est.candidate = oneHinted.remotes[1]? ∧
        some est.remote = oneHinted.remotes[0]? ∧
        est.candidate.stack.allowedBy est.remote.protocol = false) ∧
      ∃ est, (oneAddressed.establish oneAddress {} {}
          (.ok fun _ => [Race.refusal, .ends 0 (.connects none)])).outcome = .ok est ∧
        oneAddressed.resolvedFrom? oneAddress est.candidate = oneAddressed.remotes[1]? ∧
        some est.remote = oneAddressed.remotes[0]? ∧
        est.remote.address ≠ some est.candidate.address.ip := by
  refine ⟨⟨_, rfl, ?_⟩, _, rfl, ?_⟩ <;> decide

end Preconnection

end Dialer
