import Dialer.Establishment.Binding
import Mathlib.Data.List.Forall2
import Mathlib.Data.List.ProdSigma
import Mathlib.Tactic.SplitIfs

/-!
# Binding is sound and complete

A local endpoint is compatible with a remote address if it can supply an address of its family to
leave from (`LocalEndpoint.Supplies`, `LocalEndpoint.Compatible`). Binding gives one copy of a
candidate for each local endpoint that is compatible with it, and each copy leaves from an address
that the local endpoint supplies (`LocalEndpoint.Suits`). It fails if an interface is unknown or if
nothing at all is compatible (`binds_bindLocals`).
-/

namespace Dialer

/-! ### Addresses of an interface -/

namespace Interface

variable {i : Interface} {ipv6 : Bool} {ip other : Ip}

theorem source?_eq_some : i.source? ipv6 = some ip ↔
    (i.addresses.filter (·.isV6 == ipv6)).find? (!·.isLinkLocal) = some ip ∨
      (i.addresses.filter (·.isV6 == ipv6)).find? (!·.isLinkLocal) = none ∧
        (i.addresses.filter (·.isV6 == ipv6)).head? = some ip := by
  simp only [source?, Option.orElse_eq_orElse, Option.orElse_eq_or, Option.or_eq_some_iff]

theorem exists_source? (hmem : ip ∈ i.addresses) (hfamily : ip.isV6 = ipv6) :
    ∃ source, i.source? ipv6 = some source := by
  have hfiltered : ip ∈ i.addresses.filter (·.isV6 == ipv6) := by simp [hmem, hfamily]
  rcases hfind : (i.addresses.filter (·.isV6 == ipv6)).find? (!·.isLinkLocal) with _ | source
  · obtain ⟨first, hfirst⟩ :=
      Option.isSome_iff_exists.mp (List.isSome_head?.mpr (List.ne_nil_of_mem hfiltered))
    exact ⟨first, source?_eq_some.mpr (Or.inr ⟨hfind, hfirst⟩)⟩
  · exact ⟨source, source?_eq_some.mpr (Or.inl hfind)⟩

theorem isLinkLocal_source? (h : i.source? ipv6 = some ip) (hmem : other ∈ i.addresses)
    (hfamily : other.isV6 = ipv6) (hglobal : other.isLinkLocal = false) :
    ip.isLinkLocal = false := by
  have hfiltered : other ∈ i.addresses.filter (·.isV6 == ipv6) := by simp [hmem, hfamily]
  rcases source?_eq_some.mp h with hfind | ⟨hnone, -⟩
  · simpa using List.find?_some hfind
  · have hlocal := List.find?_eq_none.mp hnone other hfiltered
    simp [hglobal] at hlocal

end Interface

/-! ### What a local endpoint supplies -/

namespace LocalEndpoint

variable {l : LocalEndpoint} {interfaces : List Interface} {remote : SocketAddress}
  {side : LocalSide} {ip : Ip} {ipv6 : Bool}

/-- **The addresses a local endpoint can supply:** its own address, else those of the interface it
names, else the ones that stand for any. Its own address has to belong to the interface it names. -/
structure Supplies (interfaces : List Interface) (l : LocalEndpoint) (ip : Ip) : Prop where
  address : ∀ own, l.address = some own → ip = own
  interface : ∀ name, l.interface = some name →
    ∃ i, interfaces.find? (·.name == name) = some i ∧ ip ∈ i.addresses
  free : l.address = none → l.interface = none → ip = Ip.unspecified ip.isV6

/-- **Whether a local endpoint can supply an address of the remote one's family.** -/
def Compatible (interfaces : List Interface) (l : LocalEndpoint) (remote : SocketAddress) : Prop :=
  ∃ ip, l.Supplies interfaces ip ∧ ip.isV6 = remote.isV6

/-- **What a local endpoint binds a remote address to.** -/
structure Suits (interfaces : List Interface) (l : LocalEndpoint) (remote : SocketAddress)
    (side : LocalSide) : Prop where
  family : side.address.isV6 = remote.isV6
  port : side.address.port = l.port.getD 0
  zone : side.address.zone = 0
  /-- The local endpoint's own address if it has one, and one of the interface it names. -/
  supplies : l.Supplies interfaces side.address.ip
  /-- A link-local address is taken only if the interface has no other. -/
  isGlobal : l.address = none → ∀ name i, l.interface = some name →
    interfaces.find? (·.name == name) = some i →
      (∃ ip ∈ i.addresses, ip.isV6 = remote.isV6 ∧ ip.isLinkLocal = false) →
        side.address.ip.isLinkLocal = false
  /-- The interface that is entered has the address and the cost that is entered, and it is the one
  that the local endpoint names, if it names one. -/
  entered : ∀ name, side.interface = some name → ∃ i ∈ interfaces, i.name = name ∧
    side.address.ip ∈ i.addresses ∧ side.expensive = i.expensive ∧
      ∀ named, l.interface = some named → interfaces.find? (·.name == named) = some i
  /-- None is entered only if none is named and none has the local endpoint's own address. -/
  unknown : side.interface = none → side.expensive = false ∧ l.interface = none ∧
    ∀ own, l.address = some own → ∀ i ∈ interfaces, own ∉ i.addresses

/-- The four ways to choose an address. -/
inductive Chooses (interfaces : List Interface) (l : LocalEndpoint) (ipv6 : Bool) :
    Ip → Option Interface → Prop
  | own {name : String} {ip : Ip} {i : Interface} (hname : l.interface = some name)
    (hown : l.address = some ip) (hfind : interfaces.find? (·.name == name) = some i)
    (hmem : ip ∈ i.addresses) : Chooses interfaces l ipv6 ip (some i)
  | offered {name : String} {ip : Ip} {i : Interface} (hname : l.interface = some name)
    (hown : l.address = none) (hfind : interfaces.find? (·.name == name) = some i)
    (hsource : i.source? ipv6 = some ip) : Chooses interfaces l ipv6 ip (some i)
  | alone {ip : Ip} (hname : l.interface = none) (hown : l.address = some ip) :
    Chooses interfaces l ipv6 ip (interfaces.find? (·.addresses.contains ip))
  | any (hname : l.interface = none) (hown : l.address = none) :
    Chooses interfaces l ipv6 (Ip.unspecified ipv6) none

theorem choose_eq_some {i : Option Interface} :
    l.choose interfaces ipv6 = some (ip, i) ↔ Chooses interfaces l ipv6 ip i := by
  constructor
  · intro h
    unfold choose at h
    rcases hname : l.interface with _ | name <;> rcases hown : l.address with _ | own <;>
      simp only [hname, hown] at h
    · cases h
      exact .any hname hown
    · cases h
      exact .alone hname hown
    · rcases hfind : interfaces.find? (·.name == name) with _ | i
      · simp [hfind] at h
      · simp only [hfind, Option.map_eq_some_iff] at h
        obtain ⟨source, hsource, heq⟩ := h
        cases heq
        exact .offered hname hown hfind hsource
    · rcases hfind : interfaces.find? (·.name == name) with _ | i
      · simp [hfind] at h
      · simp only [hfind] at h
        split_ifs at h with hmem
        cases h
        exact .own hname hown hfind (by simpa using hmem)
  · intro h
    unfold choose
    cases h with
    | own hname hown hfind hmem => simp [hname, hown, hfind, hmem]
    | offered hname hown hfind hsource => simp [hname, hown, hfind, hsource]
    | alone hname hown => simp [hname, hown]
    | any hname hown => simp [hname, hown]

namespace Chooses

variable {entered : Option Interface} (h : Chooses interfaces l ipv6 ip entered)

include h

theorem supplies (hfamily : ip.isV6 = ipv6) : l.Supplies interfaces ip := by
  cases h with
  | @own name _ i hname hown hfind hmem =>
    refine ⟨fun other hother => ?_, fun other hother => ?_, by simp [hown]⟩
    · rw [hown] at hother
      exact Option.some.inj hother
    · rw [hname] at hother
      cases hother
      exact ⟨i, hfind, hmem⟩
  | @offered name _ i hname hown hfind hsource =>
    refine ⟨by simp [hown], fun other hother => ?_, by simp [hname]⟩
    rw [hname] at hother
    cases hother
    exact ⟨i, hfind, (Interface.source?_mem hsource).1⟩
  | alone hname hown =>
    refine ⟨fun other hother => ?_, by simp [hname], by simp [hown]⟩
    rw [hown] at hother
    exact Option.some.inj hother
  | any hname hown => exact ⟨by simp [hown], by simp [hname], fun _ _ => by rw [hfamily]⟩

theorem isGlobal (hnone : l.address = none) {name : String} {i : Interface}
    (hname : l.interface = some name) (hfind : interfaces.find? (·.name == name) = some i)
    {other : Ip} (hmem : other ∈ i.addresses) (hfamily : other.isV6 = ipv6)
    (hglobal : other.isLinkLocal = false) : ip.isLinkLocal = false := by
  cases h with
  | own _ hown =>
    rw [hnone] at hown
    cases hown
  | offered hname' _ hfind' hsource =>
    rw [hname] at hname'
    cases hname'
    rw [hfind] at hfind'
    cases hfind'
    exact Interface.isLinkLocal_source? hsource hmem hfamily hglobal
  | alone hname' =>
    rw [hname] at hname'
    cases hname'
  | any hname' =>
    rw [hname] at hname'
    cases hname'

theorem entered_of_some {i : Interface} (hi : entered = some i) : i ∈ interfaces ∧
    ip ∈ i.addresses ∧ ∀ name, l.interface = some name →
      interfaces.find? (·.name == name) = some i := by
  cases h with
  | own hname hown hfind hmem =>
    cases hi
    refine ⟨List.mem_of_find?_eq_some hfind, hmem, fun name hname' => ?_⟩
    rw [hname] at hname'
    cases hname'
    exact hfind
  | offered hname hown hfind hsource =>
    cases hi
    refine ⟨List.mem_of_find?_eq_some hfind, (Interface.source?_mem hsource).1,
      fun name hname' => ?_⟩
    rw [hname] at hname'
    cases hname'
    exact hfind
  | alone hname hown =>
    exact ⟨List.mem_of_find?_eq_some hi, by simpa using List.find?_some hi, by simp [hname]⟩
  | any => cases hi

theorem entered_of_none (hi : entered = none) : l.interface = none ∧
    ∀ own, l.address = some own → ∀ i ∈ interfaces, own ∉ i.addresses := by
  cases h with
  | own => cases hi
  | offered => cases hi
  | alone hname hown =>
    refine ⟨hname, fun own hown' i hmem => ?_⟩
    rw [hown] at hown'
    cases hown'
    simpa using List.find?_eq_none.mp hi i hmem
  | any hname hown => exact ⟨hname, by simp [hown]⟩

end Chooses

theorem exists_of_binding? (h : l.binding? interfaces remote = some side) :
    ∃ ip entered, Chooses interfaces l remote.isV6 ip entered ∧ ip.isV6 = remote.isV6 ∧
      side = { address := ⟨ip, l.port.getD 0, 0⟩, interface := entered.map (·.name),
               expensive := entered.any (·.expensive) } := by
  unfold binding? at h
  rcases hchoose : l.choose interfaces remote.isV6 with _ | ⟨ip, entered⟩
  · simp [hchoose] at h
  · simp only [hchoose] at h
    split_ifs at h with hfamily
    exact ⟨ip, entered, choose_eq_some.mp hchoose, hfamily, (Option.some.inj h).symm⟩

/-- **A binding suits.** -/
theorem suits_of_binding? (h : l.binding? interfaces remote = some side) :
    l.Suits interfaces remote side := by
  obtain ⟨ip, entered, hchooses, hfamily, rfl⟩ := exists_of_binding? h
  refine ⟨hfamily, rfl, rfl, hchooses.supplies hfamily, ?_, ?_, ?_⟩
  · rintro hnone name i hname hfind ⟨other, hmem, hother, hglobal⟩
    exact hchooses.isGlobal hnone hname hfind hmem hother hglobal
  · intro name hname
    obtain ⟨i, hi, rfl⟩ := Option.map_eq_some_iff.mp hname
    obtain ⟨hmem, haddress, hnamed⟩ := hchooses.entered_of_some hi
    exact ⟨i, hmem, rfl, haddress, by rw [hi]; rfl, hnamed⟩
  · intro hnone
    have hi := Option.map_eq_none_iff.mp hnone
    exact ⟨by rw [hi]; rfl, hchooses.entered_of_none hi⟩

/-- **There is a binding exactly if the two are compatible.** -/
theorem isSome_binding? :
    (l.binding? interfaces remote).isSome = true ↔ l.Compatible interfaces remote := by
  rw [Option.isSome_iff_exists]
  constructor
  · rintro ⟨side, h⟩
    have hsuits := suits_of_binding? h
    exact ⟨side.address.ip, hsuits.supplies, hsuits.family⟩
  · rintro ⟨ip, hsupplies, hfamily⟩
    have hchoose : ∃ ip entered, Chooses interfaces l remote.isV6 ip entered ∧
        ip.isV6 = remote.isV6 := by
      rcases hname : l.interface with _ | name <;> rcases hown : l.address with _ | own
      · exact ⟨_, _, .any hname hown, Ip.isV6_unspecified _⟩
      · exact ⟨_, _, .alone hname hown, hsupplies.address own hown ▸ hfamily⟩
      · obtain ⟨i, hfind, hmem⟩ := hsupplies.interface name hname
        obtain ⟨source, hsource⟩ := Interface.exists_source? hmem hfamily
        exact ⟨source, _, .offered hname hown hfind hsource, (Interface.source?_mem hsource).2⟩
      · obtain ⟨i, hfind, hmem⟩ := hsupplies.interface name hname
        have heq := hsupplies.address own hown
        exact ⟨own, _, .own hname hown hfind (heq ▸ hmem), heq ▸ hfamily⟩
    obtain ⟨ip, entered, hchooses, hfamily⟩ := hchoose
    rw [binding?, choose_eq_some.mpr hchooses]
    exact ⟨_, if_pos hfamily⟩

instance (interfaces : List Interface) (l : LocalEndpoint) (remote : SocketAddress) :
    Decidable (l.Compatible interfaces remote) :=
  decidable_of_iff _ isSome_binding?

end LocalEndpoint

/-! ### Copies -/

section Copies

variable {candidates bound : List Candidate} {locals : List LocalEndpoint}
  {interfaces : List Interface}

/-- **A copy of a candidate that leaves from a local endpoint.** -/
structure Candidate.IsCopy (interfaces : List Interface) (pair : Candidate × LocalEndpoint)
    (copy : Candidate) : Prop where
  address : copy.address = pair.1.address
  stack : copy.stack = pair.1.stack
  host : copy.host = pair.1.host
  suits : ∃ side, copy.localSide = some side ∧ pair.2.Suits interfaces pair.1.address side

/-- The copy for one candidate and one local endpoint. -/
def Candidate.copy? (interfaces : List Interface) (pair : Candidate × LocalEndpoint) :
    Option Candidate :=
  (pair.2.binding? interfaces pair.1.address).map fun side => { pair.1 with localSide := some side }

theorem Candidate.isCopy_of_copy? {pair : Candidate × LocalEndpoint} {copy : Candidate}
    (h : copy? interfaces pair = some copy) : IsCopy interfaces pair copy := by
  obtain ⟨side, hside, rfl⟩ := Option.map_eq_some_iff.mp h
  exact ⟨rfl, rfl, rfl, side, rfl, LocalEndpoint.suits_of_binding? hside⟩

theorem Candidate.isSome_copy? {pair : Candidate × LocalEndpoint} :
    (copy? interfaces pair).isSome = true ↔ pair.2.Compatible interfaces pair.1.address := by
  rw [copy?, Option.isSome_map, LocalEndpoint.isSome_binding?]

theorem flatMap_bindTo : candidates.flatMap (·.bindTo locals interfaces) =
    (candidates ×ˢ locals).filterMap (Candidate.copy? interfaces) := by
  simp only [SProd.sprod, List.product, List.filterMap_flatMap, List.filterMap_map]
  rfl

/-- Each pair of compatible ones has its copy, in order. -/
theorem forall₂_copies (pairs : List (Candidate × LocalEndpoint)) :
    List.Forall₂ (Candidate.IsCopy interfaces)
      (pairs.filter fun (c, l) => l.Compatible interfaces c.address)
      (pairs.filterMap (Candidate.copy? interfaces)) := by
  induction pairs with
  | nil => exact .nil
  | cons pair rest ih =>
    rcases hcopy : Candidate.copy? interfaces pair with _ | copy
    · have hnot : ¬ pair.2.Compatible interfaces pair.1.address := by
        simp [← Candidate.isSome_copy?, hcopy]
      rwa [List.filterMap_cons_none hcopy, List.filter_cons_of_neg (by simpa using hnot)]
    · have hcompatible : pair.2.Compatible interfaces pair.1.address := by
        simp [← Candidate.isSome_copy?, hcopy]
      rw [List.filterMap_cons_some hcopy, List.filter_cons_of_pos (by simpa using hcompatible)]
      exact .cons (Candidate.isCopy_of_copy? hcopy) ih

theorem copies_eq_nil : candidates.flatMap (·.bindTo locals interfaces) = [] ↔
    ∀ c ∈ candidates, ∀ l ∈ locals, ¬ l.Compatible interfaces c.address := by
  simp only [flatMap_bindTo, List.filterMap_eq_nil_iff, Prod.forall, List.mem_product,
    ← Option.not_isSome_iff_eq_none, Candidate.isSome_copy?, and_imp]
  exact ⟨fun h c hc l hl => h c l hc hl, fun h c l hc hl => h c hc l hl⟩

theorem isSome_unknownInterface? : (unknownInterface? locals interfaces).isSome = true ↔
    ∃ l ∈ locals, ∃ name, l.interface = some name ∧ ∀ i ∈ interfaces, i.name ≠ name := by
  simp only [unknownInterface?, List.find?_isSome, List.mem_filterMap, Bool.not_eq_true',
    List.any_eq_false, beq_iff_eq]
  constructor
  · rintro ⟨name, ⟨l, hl, hname⟩, hmissing⟩
    exact ⟨l, hl, name, hname, hmissing⟩
  · rintro ⟨l, hl, name, hname, hmissing⟩
    exact ⟨name, ⟨l, hl, hname⟩, hmissing⟩

/-- **What binding to local endpoints gives.** -/
structure Binds (candidates : List Candidate) (locals : List LocalEndpoint)
    (interfaces : List Interface) (result : Except EstablishmentFailure (List Candidate)) :
    Prop where
  /-- It fails if an interface is unknown, or if there are candidates and nothing is compatible. -/
  fails : (∃ failure, result = .error failure) ↔
    (∃ l ∈ locals, ∃ name, l.interface = some name ∧ ∀ i ∈ interfaces, i.name ≠ name) ∨
      candidates ≠ [] ∧ ∀ c ∈ candidates, ∀ l ∈ locals, ¬ l.Compatible interfaces c.address
  /-- Otherwise each compatible pair has its copy, in the order of the candidates and, for each of
  them, in the order of the local endpoints. -/
  copies : ∀ bound, result = .ok bound → List.Forall₂ (Candidate.IsCopy interfaces)
    ((candidates ×ˢ locals).filter fun (c, l) => l.Compatible interfaces c.address) bound

/-- **Binding is sound and complete:** if there is a local endpoint at all, then there is one copy
for each compatible pair, or a failure where there has to be one. -/
theorem binds_bindLocals (hlocals : locals ≠ []) :
    Binds candidates locals interfaces (bindLocals candidates locals interfaces) := by
  have hsome : locals.isEmpty = false := by simpa using hlocals
  unfold bindLocals
  rcases hunknown : unknownInterface? locals interfaces with _ | name <;>
    simp only [hsome, Bool.false_eq_true, if_false]
  · have hknown : ¬ ∃ l ∈ locals, ∃ name, l.interface = some name ∧
        ∀ i ∈ interfaces, i.name ≠ name := by
      rw [← isSome_unknownInterface?, hunknown]
      simp
    split_ifs with hnone
    · have hempty : candidates.flatMap (·.bindTo locals interfaces) = [] ∧ candidates ≠ [] := by
        simpa only [Bool.and_eq_true, List.isEmpty_iff, Bool.not_eq_true',
          List.isEmpty_eq_false_iff] using hnone
      refine ⟨⟨fun _ => Or.inr ⟨hempty.2, copies_eq_nil.mp hempty.1⟩, fun _ => ⟨_, rfl⟩⟩, ?_⟩
      rintro bound ⟨⟩
    · refine ⟨⟨?_, ?_⟩, ?_⟩
      · rintro ⟨failure, ⟨⟩⟩
      · rintro (hmissing | ⟨hne, hincompatible⟩)
        · exact absurd hmissing hknown
        · simp [copies_eq_nil.mpr hincompatible, hne] at hnone
      · rintro bound ⟨⟩
        rw [flatMap_bindTo]
        exact forall₂_copies _
  · have hmissing := isSome_unknownInterface?.mp (hunknown ▸ Option.isSome_some)
    refine ⟨⟨fun _ => Or.inl hmissing, fun _ => ⟨_, rfl⟩⟩, ?_⟩
    rintro bound ⟨⟩

/-- Two ways out: a wired one with addresses of both families, and a cellular one that costs. -/
def waysOut : List Interface :=
  [{ index := 2, name := "eth0", kind := .wired,
     addresses := [.v6 #v[0xfe80, 0, 0, 0, 0, 0, 0, 1], .v6 #v[0x2001, 0xdb8, 0, 0, 0, 0, 0, 5],
       .v4 #v[10, 0, 0, 2]] },
   { index := 3, name := "wwan0", kind := .cellular, addresses := [.v4 #v[100, 64, 0, 7]] }]

/-- Of four pairs three are compatible: the cellular interface has no IPv6 address. The link-local
address of the wired one is passed over. -/
theorem binds_bindLocals_waysOut :
    let locals : List LocalEndpoint :=
      [{ interface := some "wwan0" }, { interface := some "eth0", port := some 5000 }]
    let v4 : Candidate := { address := ⟨.v4 #v[192, 0, 2, 1], 443, 0⟩, stack := .tcp }
    let v6 : Candidate :=
      { address := ⟨.v6 #v[0x2001, 0xdb8, 0, 0, 0, 0, 0, 9], 443, 0⟩, stack := .tls }
    let cellular : LocalSide :=
      { address := ⟨.v4 #v[100, 64, 0, 7], 0, 0⟩, interface := some "wwan0", expensive := true }
    let wired : Ip → LocalSide := fun ip =>
      { address := ⟨ip, 5000, 0⟩, interface := some "eth0" }
    locals ≠ [] ∧ Binds [v4, v6] locals waysOut (bindLocals [v4, v6] locals waysOut) ∧
      bindLocals [v4, v6] locals waysOut = .ok
        [{ v4 with localSide := some cellular },
         { v4 with localSide := some (wired (.v4 #v[10, 0, 0, 2])) },
         { v6 with localSide := some (wired (.v6 #v[0x2001, 0xdb8, 0, 0, 0, 0, 0, 5])) }] := by
  intro locals v4 v6 cellular wired
  exact ⟨by simp [locals], binds_bindLocals (by simp [locals]), by rfl⟩

end Copies

end Dialer
