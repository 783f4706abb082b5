import Dialer.Proofs.Establishment.Resolution
import Mathlib.Data.List.ProdSigma
import Mathlib.Tactic.SplitIfs

/-!
# What several endpoints resolve to

An endpoint contributes a candidate for each stack its protocol hint allows and each of its
addresses (`RemoteEndpoint.contribution`), or it fails (`RemoteEndpoint.failure?`). Several
endpoints resolve to what they contribute, one after another, less every candidate whose target has
stood there before (`unrepeated`). Only if there is none of these do the failures matter
(`merges_resolveEndpoints`).
-/

namespace Dialer

/-! ### Candidates that come twice -/

/-- **The candidates of a list without the later ones of each target:** the one at place `k` stays
if none of the first `k` has its target. -/
def unrepeated (cs : List Candidate) : List Candidate :=
  (cs.zipIdx.filter fun (c, k) => c.target ∉ (cs.take k).map Candidate.target).map (·.1)

/-- What stays of a list that stands behind another. -/
theorem filter_firstOfEach (before cs : List Candidate) :
    (firstOfEach Candidate.target cs).filter (fun c => c.target ∉ before.map Candidate.target) =
      ((cs.zipIdx before.length).filter fun (c, k) =>
        c.target ∉ ((before ++ cs).take k).map Candidate.target).map (·.1) := by
  induction cs generalizing before with
  | nil => rfl
  | cons c rest ih =>
    have hrest := ih (before ++ [c])
    rw [List.length_append, List.length_singleton, List.append_assoc,
      List.singleton_append] at hrest
    have hhead : (before ++ c :: rest).take before.length = before := List.take_left
    have hsplit : ∀ b : Candidate, (decide (b.target ∉ before.map Candidate.target) &&
        decide (b.target ≠ c.target)) =
          decide (b.target ∉ (before ++ [c]).map Candidate.target) := by
      intro b
      simp
    rw [firstOfEach, List.zipIdx_cons, List.filter_cons, List.filter_cons, List.filter_filter]
    simp only [hsplit, hrest, hhead]
    split_ifs <;> rfl

theorem firstOfEach_target (cs : List Candidate) :
    firstOfEach Candidate.target cs = unrepeated cs := by
  have hall : (firstOfEach Candidate.target cs).filter
      (fun c => c.target ∉ ([] : List Candidate).map Candidate.target) = _ :=
    filter_firstOfEach [] cs
  rwa [List.filter_eq_self.mpr (by simp)] at hall

theorem pairwise_unrepeated (cs : List Candidate) :
    (unrepeated cs).Pairwise fun a b => a.target ≠ b.target := by
  rw [← firstOfEach_target]
  exact pairwise_firstOfEach Candidate.target cs

theorem unrepeated_eq_nil {cs : List Candidate} : unrepeated cs = [] ↔ cs = [] := by
  rw [← firstOfEach_target]
  cases cs <;> simp [firstOfEach]

/-! ### What an endpoint contributes -/

namespace RemoteEndpoint

variable {table : HostTable} {acceptable : List Stack} {e : RemoteEndpoint} {f : ResolutionFailure}

/-- **What an endpoint contributes:** a candidate for each stack its hint allows and each of its
addresses, which are interleaved and have its port. The label is the hostname, unless that spells
out an address. -/
def contribution (table : HostTable) (acceptable : List Stack) (e : RemoteEndpoint) :
    List Candidate :=
  match e.effectivePort, e.namedAddresses table with
  | some port, .ok ips =>
    ((acceptable.filter (·.allowedBy e.protocol)) ×ˢ interleave ips).map fun (stack, ip) =>
      { address := ⟨ip, port, 0⟩, stack
        host := e.hostname.filter fun name => (Ip.parse? name).isNone }
  | _, _ => []

/-- **Why an endpoint does not resolve,** if it does not: it has no port, its addresses cannot be
found, or there are none. -/
def failure? (table : HostTable) (e : RemoteEndpoint) : Option ResolutionFailure :=
  match e.effectivePort, e.namedAddresses table with
  | none, _ => some ⟨e.hostLabel, .noPort⟩
  | some _, .error failure => some failure
  | some _, .ok ips => if ips = [] then some ⟨e.hostLabel, .noUsableAddress⟩ else none

theorem interleave_eq_nil {ips : List Ip} : interleave ips = [] ↔ ips = [] := by
  simp only [List.eq_nil_iff_forall_not_mem, mem_interleave]

/-- **An endpoint fails, or resolves to what it contributes.** -/
theorem candidates_eq (table : HostTable) (acceptable : List Stack) (e : RemoteEndpoint) :
    e.candidates table acceptable =
      match e.failure? table with
      | some failure => .error failure
      | none => .ok (e.contribution table acceptable) := by
  unfold candidates addresses failure? contribution
  rcases e.effectivePort with _ | port
  · rfl
  rcases e.namedAddresses table with failure | ips
  · rfl
  dsimp only
  by_cases hips : ips = []
  · subst hips
    rfl
  · have hne : interleave ips ≠ [] := fun h => hips (interleave_eq_nil.mp h)
    rw [if_neg hips, if_neg (by simpa using hne)]
    simp only [SProd.sprod, List.product, List.map_flatMap, List.map_map, Function.comp_def,
      candidateHost]

theorem contribution_of_failure :
    e.failure? table = some f → e.contribution table acceptable = [] := by
  unfold failure? contribution
  rcases e.effectivePort with _ | port
  · exact fun _ => rfl
  rcases e.namedAddresses table with failure | ips
  · exact fun _ => rfl
  dsimp only
  by_cases hips : ips = []
  · subst hips
    exact fun _ => congrArg (List.map _) (List.product_nil _)
  · rw [if_neg hips]
    nofun

end RemoteEndpoint

/-! ### Several endpoints -/

variable {table : HostTable} {acceptable : List Stack} {endpoints : List RemoteEndpoint}

/-- What the endpoints contribute, in their order. -/
def contributions (table : HostTable) (acceptable : List Stack) (endpoints : List RemoteEndpoint) :
    List Candidate :=
  endpoints.flatMap (·.contribution table acceptable)

/-- The failures of the endpoints, in their order. -/
def failures (table : HostTable) (endpoints : List RemoteEndpoint) : List ResolutionFailure :=
  endpoints.filterMap (·.failure? table)

theorem contributions_eq_nil : contributions table acceptable endpoints = [] ↔
    ∀ e ∈ endpoints, e.contribution table acceptable = [] := List.flatMap_eq_nil_iff

theorem separate_candidates (table : HostTable) (acceptable : List Stack)
    (endpoints : List RemoteEndpoint) :
    (separate (endpoints.map (·.candidates table acceptable))).1.flatten =
        contributions table acceptable endpoints ∧
      (separate (endpoints.map (·.candidates table acceptable))).2 = failures table endpoints := by
  induction endpoints with
  | nil => exact ⟨rfl, rfl⟩
  | cons e rest ih =>
    obtain ⟨hfound, hfailures⟩ := ih
    rw [List.map_cons, contributions, List.flatMap_cons, e.candidates_eq]
    rcases hf : e.failure? table with _ | f
    · rw [failures, List.filterMap_cons_none hf]
      exact ⟨congrArg _ hfound, hfailures⟩
    · rw [failures, List.filterMap_cons_some hf, RemoteEndpoint.contribution_of_failure hf]
      exact ⟨hfound, congrArg _ hfailures⟩

theorem contributions_filter (table : HostTable) (acceptable : List Stack)
    (endpoints : List RemoteEndpoint) :
    contributions table acceptable (endpoints.filter (·.failure? table = none)) =
      contributions table acceptable endpoints := by
  unfold contributions
  induction endpoints with
  | nil => rfl
  | cons e rest ih =>
    rcases hf : e.failure? table with _ | f
    · rw [List.filter_cons_of_pos (by simp [hf]), List.flatMap_cons, List.flatMap_cons, ih]
    · rw [List.filter_cons_of_neg (by simp [hf]), List.flatMap_cons, ih,
        RemoteEndpoint.contribution_of_failure hf, List.nil_append]

theorem resolveEndpoints_of_contributions (h : contributions table acceptable endpoints ≠ []) :
    resolveEndpoints table acceptable endpoints =
      .ok (unrepeated (contributions table acceptable endpoints)) := by
  obtain ⟨hfound, hfailures⟩ := separate_candidates table acceptable endpoints
  unfold resolveEndpoints
  dsimp only
  rw [hfound, hfailures, firstOfEach_target]
  obtain ⟨c, rest, hkept⟩ := List.exists_cons_of_ne_nil (mt unrepeated_eq_nil.mp h)
  rw [hkept]

theorem resolveEndpoints_of_nil (h : contributions table acceptable endpoints = []) :
    resolveEndpoints table acceptable endpoints = .error
      (match failures table endpoints with
      | [] => ⟨", ".intercalate (endpoints.map (·.hostLabel)), .noMatchingStack⟩
      | [failure] => failure
      | failures => .join failures) := by
  obtain ⟨hfound, hfailures⟩ := separate_candidates table acceptable endpoints
  unfold resolveEndpoints
  dsimp only
  rw [hfound, hfailures, firstOfEach_target, unrepeated_eq_nil.mpr h]
  rcases failures table endpoints with _ | ⟨f, _ | ⟨g, rest⟩⟩ <;> rfl

/-- **What several endpoints resolve to** over some stacks. -/
structure Merges (table : HostTable) (acceptable : List Stack) (endpoints : List RemoteEndpoint)
    (result : Except ResolutionFailure (List Candidate)) : Prop where
  /-- There is a result as soon as one endpoint contributes something. -/
  isOk : (∃ found, result = .ok found) ↔ ∃ e ∈ endpoints, e.contribution table acceptable ≠ []
  /-- It is what the endpoints contribute, of each target the first. -/
  merged : ∀ found, result = .ok found →
    found = unrepeated (contributions table acceptable endpoints)
  distinct : ∀ found, result = .ok found → found.Pairwise fun a b => a.target ≠ b.target
  /-- It would be the same without the endpoints that fail. -/
  unhindered : ∀ found, result = .ok found →
    resolveEndpoints table acceptable (endpoints.filter (·.failure? table = none)) = .ok found
  /-- Else the failures are reported: the only one as it is, several with hosts and causes
  joined. -/
  failed : (∀ e ∈ endpoints, e.contribution table acceptable = []) →
    ∀ failure, failures table endpoints = [failure] → result = .error failure
  failedSeveral : (∀ e ∈ endpoints, e.contribution table acceptable = []) →
    2 ≤ (failures table endpoints).length → result = .error
      { host := ", ".intercalate ((failures table endpoints).map (·.host))
        cause := .described ("; ".intercalate ((failures table endpoints).map (·.cause.message))) }
  /-- If none has failed, then no stack fits. -/
  unmatched : (∀ e ∈ endpoints, e.contribution table acceptable = []) →
    failures table endpoints = [] →
      result = .error ⟨", ".intercalate (endpoints.map (·.hostLabel)), .noMatchingStack⟩

/-- **Several endpoints resolve to the union of what each contributes,** whether or not others
fail. -/
theorem merges_resolveEndpoints (table : HostTable) (acceptable : List Stack)
    (endpoints : List RemoteEndpoint) :
    Merges table acceptable endpoints (resolveEndpoints table acceptable endpoints) := by
  have hok : ∀ found, resolveEndpoints table acceptable endpoints = .ok found →
      contributions table acceptable endpoints ≠ [] ∧
        found = unrepeated (contributions table acceptable endpoints) := by
    intro found h
    by_cases hnil : contributions table acceptable endpoints = []
    · rw [resolveEndpoints_of_nil hnil] at h
      cases h
    · rw [resolveEndpoints_of_contributions hnil] at h
      exact ⟨hnil, (Except.ok.inj h).symm⟩
  constructor
  case isOk =>
    constructor
    · rintro ⟨found, h⟩
      by_contra hnone
      push Not at hnone
      exact (hok found h).1 (contributions_eq_nil.mpr hnone)
    · rintro ⟨e, he, hne⟩
      have hcontributed := mt contributions_eq_nil.mp fun hall => hne (hall e he)
      exact ⟨_, resolveEndpoints_of_contributions hcontributed⟩
  case merged => exact fun found h => (hok found h).2
  case distinct =>
    intro found h
    rw [(hok found h).2]
    exact pairwise_unrepeated _
  case unhindered =>
    intro found h
    obtain ⟨hne, rfl⟩ := hok found h
    rw [resolveEndpoints_of_contributions (by rwa [contributions_filter]), contributions_filter]
  case failed =>
    intro hempty failure hfailure
    rw [resolveEndpoints_of_nil (contributions_eq_nil.mpr hempty), hfailure]
  case failedSeveral =>
    intro hempty
    rw [resolveEndpoints_of_nil (contributions_eq_nil.mpr hempty)]
    rcases failures table endpoints with _ | ⟨f, _ | ⟨g, rest⟩⟩
    · simp
    · simp
    · exact fun _ => rfl
  case unmatched =>
    intro hempty hfailures
    rw [resolveEndpoints_of_nil (contributions_eq_nil.mpr hempty), hfailures]

end Dialer
