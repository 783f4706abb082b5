import Dialer.Establishment.Establish
import Dialer.Proofs.Establishment.Resolution
import Mathlib.Tactic.SplitIfs

/-!
# A preconnection permits its candidates

`Preconnection.Permits` says, without regard to how candidates are found, which ones may be
attempted. Every stage from the choice of stacks to the order of attempts only takes candidates away
or gives them a local side, so all that are left are permitted, and some are
(`Preconnection.permits_candidates`). In particular no connection that has to be encrypted is ever
attempted without encryption.
-/

namespace Dialer

/-! ### Preferences -/

/-- Whether a stack with the property, or without it, is neither lacking nor forbidden. -/
structure Preference.SatisfiedBy (p : Preference) (has : Bool) : Prop where
  require : p = .require → has = true
  prohibit : p = .prohibit → has = false

theorem Preference.accepts_iff {p : Preference} {has : Bool} :
    p.accepts has = true ↔ p.SatisfiedBy has := by
  constructor
  · intro h
    constructor
    · rintro rfl; exact h
    · rintro rfl; simpa [accepts] using h
  · rintro ⟨hrequire, hprohibit⟩
    cases p with
    | require => exact hrequire rfl
    | prohibit => simp [accepts, hprohibit rfl]
    | _ => rfl

theorem Properties.accepts_iff {wanted : Properties} {stack : Stack} :
    wanted.accepts stack = true ↔ wanted.reliability.SatisfiedBy stack.reliable ∧
      wanted.order.SatisfiedBy stack.ordered ∧
      wanted.multistreaming.SatisfiedBy stack.multistreaming := by
  simp only [accepts, Bool.and_eq_true, Preference.accepts_iff, and_assoc]

/-! ### Binding -/

theorem Candidate.mem_bindTo {c b : Candidate} {locals : List LocalEndpoint}
    {interfaces : List Interface} : b ∈ c.bindTo locals interfaces ↔
      ∃ l ∈ locals, ∃ side, l.binding? interfaces c.address = some side ∧
        { c with localSide := some side } = b := by
  simp only [bindTo, List.mem_filterMap, Option.map_eq_some_iff]

section Binding

variable {candidates bound : List Candidate} {locals : List LocalEndpoint}
  {interfaces : List Interface}

theorem bindLocals_eq_ok (h : bindLocals candidates locals interfaces = .ok bound) :
    bound = candidates ∨ bound = candidates.flatMap (·.bindTo locals interfaces) ∧
      (candidates ≠ [] → bound ≠ []) := by
  unfold bindLocals at h
  rcases hu : unknownInterface? locals interfaces with _ | name
  · simp only [hu] at h
    split_ifs at h with hlocals hempty
    · exact Or.inl (Except.ok.inj h).symm
    · cases h
      refine Or.inr ⟨rfl, fun hne hnil => ?_⟩
      simp [hnil, hne] at hempty
  · simp only [hu] at h
    split_ifs at h
    exact Or.inl (Except.ok.inj h).symm

theorem bindLocals_eq_error {failure : EstablishmentFailure}
    (h : bindLocals candidates locals interfaces = .error failure) :
    (∃ name, failure = .invalidParameters (.unknownInterface name)) ∨
      failure = .invalidParameters .incompatibleLocals := by
  unfold bindLocals at h
  rcases hu : unknownInterface? locals interfaces with _ | name
  · simp only [hu] at h
    split_ifs at h
    exact Or.inr (Except.error.inj h).symm
  · simp only [hu] at h
    split_ifs at h
    exact Or.inl ⟨name, (Except.error.inj h).symm⟩

theorem exists_of_mem_bindLocals (h : bindLocals candidates locals interfaces = .ok bound)
    {b : Candidate} (hb : b ∈ bound) :
    ∃ c ∈ candidates, ∃ side, b = { c with localSide := side } := by
  rcases bindLocals_eq_ok h with rfl | ⟨rfl, -⟩
  · exact ⟨b, hb, b.localSide, rfl⟩
  · obtain ⟨c, hc, hb⟩ := List.mem_flatMap.mp hb
    obtain ⟨l, -, side, -, rfl⟩ := Candidate.mem_bindTo.mp hb
    exact ⟨c, hc, some side, rfl⟩

theorem bindLocals_ne_nil (h : bindLocals candidates locals interfaces = .ok bound)
    (hne : candidates ≠ []) : bound ≠ [] := by
  rcases bindLocals_eq_ok h with rfl | ⟨-, hbound⟩
  · exact hne
  · exact hbound hne

theorem costlyLast_ne_nil (hne : candidates ≠ []) : costlyLast candidates ≠ [] := by
  obtain ⟨c, hc⟩ := List.exists_mem_of_ne_nil _ hne
  exact List.ne_nil_of_mem (mem_costlyLast.mpr hc)

end Binding

/-! ### Preconnections -/

namespace Preconnection

variable {p : Preconnection} {table : HostTable} {source : Source} {cs bound : List Candidate}

/-- **What a preconnection lets be attempted.** -/
structure Permits (table : HostTable) (p : Preconnection) (c : Candidate) : Prop where
  /-- Encryption if it is wanted, and only then. -/
  secure : c.stack = .tls ↔ p.security.enabled = true
  reliability : p.properties.reliability.SatisfiedBy c.stack.reliable
  order : p.properties.order.SatisfiedBy c.stack.ordered
  multistreaming : p.properties.multistreaming.SatisfiedBy c.stack.multistreaming
  origin : ∃ e ∈ p.remotes, e.Serves table c

theorem resolve_eq_ok {resolved : List Candidate} (h : p.resolve table = .ok resolved) :
    resolveEndpoints table p.wantedStacks p.remotes =
      .ok resolved := by
  unfold resolve validate acceptableStacks at h
  split_ifs at h
  · cases h
  rcases ha : p.wantedStacks with _ | ⟨stack, acceptable⟩
  · simp only [ha] at h
    cases h
  rcases hr : resolveEndpoints table (stack :: acceptable) p.remotes with failure | found
  · simp only [ha, hr, bind, Except.bind] at h
    cases h
  · simp only [ha, hr, bind, Except.bind] at h
    exact congrArg _ (Except.ok.inj h)

/-- **The candidates as binding leaves them,** not arranged yet. -/
def boundCandidates (table : HostTable) (source : Source) (p : Preconnection) :
    Except EstablishmentFailure (List Candidate) := do
  let resolved ← p.resolve table
  let interfaces ← if p.locals.isEmpty then .ok [] else p.interfacesFor source.read.1
  bindLocals resolved p.locals interfaces

/-- **The last thing done** is to put costly candidates last. -/
theorem candidates_eq_map (table : HostTable) (source : Source) (p : Preconnection) :
    (p.candidates table source).1 = (p.boundCandidates table source).map costlyLast := by
  unfold candidates boundCandidates
  rcases p.resolve table with failure | resolved
  · rfl
  by_cases hlocals : p.locals.isEmpty
  · simp only [hlocals, if_true, bind, Except.bind, bindLocals]
    rfl
  · simp only [hlocals, bind, Except.bind]
    rcases p.interfacesFor source.read.1 with failure | interfaces
    · rfl
    · dsimp only
      rcases bindLocals resolved p.locals interfaces with failure | bound <;> rfl

theorem boundCandidates_eq_ok (h : p.boundCandidates table source = .ok bound) :
    ∃ resolved interfaces, p.resolve table = .ok resolved ∧
      bindLocals resolved p.locals interfaces = .ok bound := by
  unfold boundCandidates at h
  rcases hr : p.resolve table with failure | resolved
  · rw [hr] at h
    cases h
  by_cases hlocals : p.locals.isEmpty
  · simp only [hr, hlocals, if_true, bind, Except.bind] at h
    exact ⟨resolved, [], rfl, h⟩
  · rcases hi : p.interfacesFor source.read.1 with failure | interfaces
    · simp only [hr, hlocals, hi, bind, Except.bind] at h
      cases h
    · simp only [hr, hlocals, hi, bind, Except.bind] at h
      exact ⟨resolved, interfaces, rfl, h⟩

/-- **The stages that candidates have come through.** -/
theorem candidates_eq_ok (h : (p.candidates table source).1 = .ok cs) :
    ∃ resolved bound interfaces, p.resolve table = .ok resolved ∧
      bindLocals resolved p.locals interfaces = .ok bound ∧ cs = costlyLast bound := by
  rw [candidates_eq_map] at h
  rcases hb : p.boundCandidates table source with failure | bound
  · rw [hb] at h
    cases h
  · rw [hb] at h
    obtain ⟨resolved, interfaces, hresolve, hbind⟩ := boundCandidates_eq_ok hb
    exact ⟨resolved, bound, interfaces, hresolve, hbind, (Except.ok.inj h).symm⟩

theorem permits_of_mem_resolve {resolved : List Candidate} (h : p.resolve table = .ok resolved)
    {c : Candidate} (hc : c ∈ resolved) : p.Permits table c := by
  obtain ⟨e, he, own, hown, hc⟩ := exists_of_mem_resolveEndpoints (resolve_eq_ok h) hc
  obtain ⟨hstack, hserves, -, -⟩ := (RemoteEndpoint.mem_candidates hown).mp hc
  obtain ⟨hoffered, haccepts⟩ := Properties.mem_acceptableStacks.mp hstack
  obtain ⟨hreliability, horder, hmultistreaming⟩ := Properties.accepts_iff.mp haccepts
  refine ⟨?_, hreliability, horder, hmultistreaming, e, he, hserves⟩
  rw [← Properties.mem_offered.mp hoffered]
  cases c.stack <;> simp [Stack.secure]

/-- Whether a candidate is permitted does not depend on its local side. -/
theorem Permits.bind {c : Candidate} (h : p.Permits table c) (side : Option LocalSide) :
    p.Permits table { c with localSide := side } := by
  obtain ⟨e, he, hserves⟩ := h.origin
  exact ⟨h.secure, h.reliability, h.order, h.multistreaming, e, he,
    ⟨hserves.address, hserves.port, hserves.zone, hserves.protocol⟩⟩

theorem permits_of_mem_candidates (h : (p.candidates table source).1 = .ok cs) {c : Candidate}
    (hc : c ∈ cs) : p.Permits table c := by
  obtain ⟨resolved, bound, interfaces, hresolve, hbind, rfl⟩ := candidates_eq_ok h
  obtain ⟨own, hown, side, rfl⟩ := exists_of_mem_bindLocals hbind (mem_costlyLast.mp hc)
  exact (permits_of_mem_resolve hresolve hown).bind side

theorem candidates_ne_nil (h : (p.candidates table source).1 = .ok cs) : cs ≠ [] := by
  obtain ⟨resolved, bound, interfaces, hresolve, hbind, rfl⟩ := candidates_eq_ok h
  have hne := (resolveEndpoints_eq_ok (resolve_eq_ok hresolve)).1
  exact costlyLast_ne_nil (bindLocals_ne_nil hbind hne)

/-! ### Nothing to race -/

theorem resolve_ne_noCandidates :
    p.resolve table ≠ .error (.invalidParameters .noCandidates) := by
  unfold resolve validate acceptableStacks
  split_ifs
  · nofun
  rcases p.wantedStacks with _ | ⟨stack, acceptable⟩
  · nofun
  dsimp only [bind, Except.bind]
  split <;> nofun

theorem interfacesFor_eq_error {reading : Except MonitorError (List Interface)}
    {failure : EstablishmentFailure} (h : p.interfacesFor reading = .error failure) :
    ∃ e, failure = .invalidParameters (.unreadableInterfaces e) := by
  unfold interfacesFor at h
  rcases reading with e | interfaces
  · dsimp only at h
    split_ifs at h
    exact ⟨e, (Except.error.inj h).symm⟩
  · cases h

theorem candidates_ne_noCandidates :
    (p.candidates table source).1 ≠ .error (.invalidParameters .noCandidates) := by
  intro h
  unfold candidates at h
  rcases hr : p.resolve table with failure | resolved
  · simp only [hr, Except.error.injEq] at h
    exact resolve_ne_noCandidates (hr.trans (congrArg _ h))
  simp only [hr] at h
  split_ifs at h
  rcases hi : p.interfacesFor source.read.1 with failure | interfaces
  · simp only [hi, bind, Except.bind, Except.error.injEq] at h
    obtain ⟨e, rfl⟩ := interfacesFor_eq_error hi
    cases h
  rcases hb : bindLocals resolved p.locals interfaces with failure | bound
  · simp only [hi, hb, bind, Except.bind, Except.error.injEq] at h
    rcases bindLocals_eq_error hb with ⟨name, rfl⟩ | rfl <;> cases h
  · simp only [hi, hb, bind, Except.bind] at h
    cases h

/-- A race between candidates ends with a winner or with the failures of all. -/
theorem race_ne_noCandidates (hne : cs ≠ []) (config : Race.Config) (given : List Race.Behaviour) :
    (Race.race config cs given).outcome ≠ .error (.invalidParameters .noCandidates) := by
  unfold Race.race Race.conclude
  rw [if_neg (by simpa using hne)]
  dsimp only
  split <;> nofun

/-- **No candidate violates the preconnection,** and a race always has candidates. -/
theorem permits_candidates (table : HostTable) (source : Source) (p : Preconnection) :
    (∀ cs, (p.candidates table source).1 = .ok cs → cs ≠ [] ∧ ∀ c ∈ cs, p.Permits table c) ∧
      ∀ config given, (p.establish table source config given).outcome ≠
        .error (.invalidParameters .noCandidates) := by
  refine ⟨fun cs h => ⟨candidates_ne_nil h, fun c => permits_of_mem_candidates h⟩, ?_⟩
  intro config given
  unfold establish
  rcases hc : p.candidates table source with ⟨failure | cs, after⟩
  · have hne : (p.candidates table source).1 ≠ .error (.invalidParameters .noCandidates) :=
      candidates_ne_noCandidates
    rw [hc] at hne
    simpa using hne
  · have hcs : (p.candidates table source).1 = .ok cs := by rw [hc]
    rcases given with fault | behaviours
    · nofun
    · have hrace := race_ne_noCandidates (candidates_ne_nil hcs) (p.raceConfig config)
        (behaviours cs)
      dsimp only
      rcases hr : (Race.race (p.raceConfig config) cs (behaviours cs)).outcome with failure | win
      · rw [hr] at hrace
        simpa [Except.map] using hrace
      · nofun

/-- Three endpoints to be reached with encryption. The first may not be attempted so, and the second
has no port. -/
def onePermitted : Preconnection where
  remotes :=
    [{ address := some (.unspecified false), port := some 53, protocol := some .udp },
      { address := some (.unspecified false) },
      { address := some (.unspecified true), port := some 443, protocol := some .tls }]
  locals := [{ address := some (.unspecified false) }, { port := some 4000 }]

/-- What is left is the third endpoint, from the local endpoint of its address family. -/
def thirdEndpoint : Candidate where
  address := ⟨.unspecified true, 443, 0⟩
  stack := .tls
  localSide := some { address := ⟨.unspecified true, 4000, 0⟩ }

theorem permits_thirdEndpoint :
    (onePermitted.candidates {} {}).1 = .ok [thirdEndpoint] ∧
      onePermitted.Permits {} thirdEndpoint := by
  have h : (onePermitted.candidates {} {}).1 = .ok [thirdEndpoint] := by rfl
  exact ⟨h, ((permits_candidates {} {} onePermitted).1 _ h).2 _ (List.mem_singleton_self _)⟩

end Preconnection

end Dialer
