import Dialer.Proofs.Establishment.Binding
import Dialer.Proofs.Establishment.Permission

/-!
# The interfaces are read late, and once

Candidates come about in five stages (`Preconnection.Stage`). Each may fail, and the first that does
is reported (`Preconnection.FirstFault`). The interfaces are read in the fourth, so only if the
first three have succeeded, and only if there are local endpoints. If they cannot be read, then that
matters to a local endpoint that names an interface; all others are bound as if there were no
interfaces (`Preconnection.readsLate_candidates`).
-/

namespace Dialer

namespace Source

/-- The interfaces as far as they can be read. -/
def known (s : Source) : List Interface :=
  match s.read.1 with
  | .ok interfaces => interfaces
  | .error _ => []

/-- The source as if it had no interfaces. -/
def emptied (s : Source) : Source :=
  { s with interfaces := [], failure := none }

end Source

namespace Preconnection

/-! ### What is needed before the interfaces are read -/

/-- **The first three stages succeed,** with these candidates. -/
structure Resolves (table : HostTable) (p : Preconnection) (resolved : List Candidate) : Prop where
  remotes : p.remotes ≠ []
  wanted : p.wantedStacks ≠ []
  endpoints : resolveEndpoints table p.wantedStacks p.remotes = .ok resolved

/-- **The interfaces have to be read:** there are candidates, and local endpoints to bind. -/
def NeedsInterfaces (table : HostTable) (p : Preconnection) : Prop :=
  (∃ resolved, p.Resolves table resolved) ∧ p.locals ≠ []

/-- A local endpoint refers to an interface. -/
def NamesInterface (p : Preconnection) : Prop :=
  ∃ l ∈ p.locals, ∃ name, l.interface = some name

/-! ### Stages -/

/-- **What is done for candidates,** one after another. -/
inductive Stage
  | validation
  | selection
  | resolution
  | reading
  | binding

/-- The position of a stage. -/
def Stage.position : Stage → Nat
  | validation => 0
  | selection => 1
  | resolution => 2
  | reading => 3
  | binding => 4

theorem Stage.position_injective : Function.Injective Stage.position := by
  intro a b h
  cases a <;> cases b <;> first | rfl | cases h

/-- **What is wrong at a stage,** whatever is wrong at the others. -/
inductive Fault (table : HostTable) (source : Source) (p : Preconnection) :
    Stage → EstablishmentFailure → Prop
  | noRemote (hremotes : p.remotes = []) :
    Fault table source p .validation (.invalidParameters .noRemoteEndpoint)
  | noStack (hstacks : p.wantedStacks = []) :
    Fault table source p .selection
      (.invalidParameters (.noStack p.properties p.security.enabled))
  | unresolved {failure : ResolutionFailure}
    (hfailure : resolveEndpoints table p.wantedStacks p.remotes = .error failure) :
    Fault table source p .resolution (.resolution failure)
  | unreadable {e : MonitorError} (hread : source.read.1 = .error e) (hnames : p.NamesInterface) :
    Fault table source p .reading (.invalidParameters (.unreadableInterfaces e))
  | unknown {name : String} (hname : unknownInterface? p.locals source.known = some name) :
    Fault table source p .binding (.invalidParameters (.unknownInterface name))
  | incompatible {resolved : List Candidate}
    (hresolved : resolveEndpoints table p.wantedStacks p.remotes = .ok resolved)
    (hlocals : p.locals ≠ [])
    (hknown : unknownInterface? p.locals source.known = none)
    (hnone : ∀ c ∈ resolved, ∀ l ∈ p.locals, ¬ l.Compatible source.known c.address) :
    Fault table source p .binding (.invalidParameters .incompatibleLocals)

/-- **A failure of the first stage at which anything is wrong.** -/
def FirstFault (table : HostTable) (source : Source) (p : Preconnection)
    (failure : EstablishmentFailure) : Prop :=
  ∃ stage, Fault table source p stage failure ∧
    ∀ earlier other, earlier.position < stage.position → ¬ Fault table source p earlier other

section

variable {table : HostTable} {source : Source} {p : Preconnection} {stage : Stage}
  {f g : EstablishmentFailure} {resolved : List Candidate}

theorem Fault.unique (hf : Fault table source p stage f) (hg : Fault table source p stage g) :
    f = g := by
  cases hf <;> cases hg
  all_goals first | rfl | simp_all

theorem FirstFault.unique (hf : FirstFault table source p f) (hg : FirstFault table source p g) :
    f = g := by
  obtain ⟨stage, hfault, hfirst⟩ := hf
  obtain ⟨other, hother, hfirst'⟩ := hg
  rcases Nat.lt_trichotomy stage.position other.position with hlt | heq | hlt
  · exact absurd hfault (hfirst' stage f hlt)
  · exact hfault.unique (Stage.position_injective heq ▸ hother)
  · exact absurd hother (hfirst other g hlt)

/-! ### Stage by stage -/

theorem resolve_eq (table : HostTable) (p : Preconnection) :
    p.resolve table =
      if p.remotes = [] then .error (.invalidParameters .noRemoteEndpoint)
      else if p.wantedStacks = [] then
        .error (.invalidParameters (.noStack p.properties p.security.enabled))
      else (resolveEndpoints table p.wantedStacks p.remotes).mapError .resolution := by
  unfold resolve validate acceptableStacks
  by_cases hremotes : p.remotes = []
  · simp only [hremotes, List.isEmpty_nil, if_true, bind, Except.bind]
  rcases p.wantedStacks with _ | ⟨stack, rest⟩
  · simp only [hremotes, List.isEmpty_iff, if_false, if_true, bind, Except.bind]
  · simp only [hremotes, List.isEmpty_iff, if_false, reduceCtorEq, bind, Except.bind]
    rcases resolveEndpoints table (stack :: rest) p.remotes with failure | resolved <;> rfl

theorem resolve_eq_ok_iff : p.resolve table = .ok resolved ↔ p.Resolves table resolved := by
  rw [resolve_eq]
  constructor
  · intro h
    split_ifs at h with hremotes hstacks
    rcases hendpoints : resolveEndpoints table p.wantedStacks p.remotes with failure | found
    · rw [hendpoints] at h
      cases h
    · rw [hendpoints] at h
      cases h
      exact ⟨hremotes, hstacks, hendpoints⟩
  · rintro ⟨hremotes, hstacks, hendpoints⟩
    rw [if_neg hremotes, if_neg hstacks, hendpoints]
    rfl

theorem firstFault_of_resolve (h : p.resolve table = .error f) : FirstFault table source p f := by
  rw [resolve_eq] at h
  split_ifs at h with hremotes hstacks
  · cases h
    exact ⟨.validation, .noRemote hremotes, fun _ _ hlt => absurd hlt (Nat.not_lt_zero _)⟩
  · cases h
    refine ⟨.selection, .noStack hstacks, fun earlier other hlt hfault => ?_⟩
    cases hfault with
    | noRemote h => exact hremotes h
    | _ => simp [Stage.position] at hlt
  · rcases hendpoints : resolveEndpoints table p.wantedStacks p.remotes with failure | found
    · rw [hendpoints] at h
      cases h
      refine ⟨.resolution, .unresolved hendpoints, fun earlier other hlt hfault => ?_⟩
      cases hfault with
      | noRemote h => exact hremotes h
      | noStack h => exact hstacks h
      | _ => simp [Stage.position] at hlt
    · rw [hendpoints] at h
      cases h

theorem Resolves.not_fault (h : p.Resolves table resolved)
    (hlt : stage.position < Stage.reading.position) : ¬ Fault table source p stage f := by
  intro hfault
  cases hfault with
  | noRemote hremotes => exact h.remotes hremotes
  | noStack hstacks => exact h.wanted hstacks
  | unresolved hfailure =>
    rw [h.endpoints] at hfailure
    cases hfailure
  | _ => simp [Stage.position] at hlt

/-- **With candidates and local endpoints,** the interfaces are read, and the candidates bound. -/
theorem candidates_of_needs (h : p.Resolves table resolved) (hlocals : p.locals ≠ []) :
    p.candidates table source =
      ((p.interfacesFor source.read.1 >>= bindLocals resolved p.locals).map costlyLast,
        source.read.2) := by
  unfold candidates
  rw [resolve_eq_ok_iff.mpr h]
  simp only [List.isEmpty_eq_false_iff.mpr hlocals, bind, Except.bind]
  rcases p.interfacesFor source.read.1 with failure | interfaces
  · rfl
  · dsimp only
    rcases bindLocals resolved p.locals interfaces with failure | bound <;> rfl

theorem candidates_of_not_needs (h : ¬ p.NeedsInterfaces table) (source other : Source) :
    p.candidates table source = ((p.candidates table other).1, source) := by
  unfold candidates
  rcases hresolve : p.resolve table with failure | resolved
  · rfl
  have hlocals : p.locals = [] := by
    by_contra hne
    exact h ⟨⟨resolved, resolve_eq_ok_iff.mp hresolve⟩, hne⟩
  simp only [hlocals, List.isEmpty_nil, if_true]

theorem any_interface_iff :
    (p.locals.any fun l => l.interface.isSome) = true ↔ p.NamesInterface := by
  simp only [List.any_eq_true, Option.isSome_iff_exists, NamesInterface]

theorem interfacesFor_read (source : Source) (p : Preconnection) :
    (∃ f, p.interfacesFor source.read.1 = .error f ∧ Fault table source p .reading f) ∨
      p.interfacesFor source.read.1 = .ok source.known ∧
        ∀ f, ¬ Fault table source p .reading f := by
  unfold interfacesFor Source.known
  rcases hread : source.read.1 with e | interfaces
  · by_cases hnames : p.NamesInterface
    · exact Or.inl ⟨_, if_pos (any_interface_iff.mpr hnames), .unreadable hread hnames⟩
    · refine Or.inr ⟨if_neg (mt any_interface_iff.mp hnames), fun f hfault => ?_⟩
      cases hfault with
      | unreadable _ h => exact hnames h
  · refine Or.inr ⟨rfl, fun f hfault => ?_⟩
    cases hfault with
    | unreadable h =>
      rw [hread] at h
      cases h

theorem bindLocals_cases (h : p.Resolves table resolved) (hlocals : p.locals ≠ [])
    (interfaces : List Interface) :
    (∃ name, unknownInterface? p.locals interfaces = some name ∧
      bindLocals resolved p.locals interfaces =
        .error (.invalidParameters (.unknownInterface name))) ∨
    unknownInterface? p.locals interfaces = none ∧
      ((∀ c ∈ resolved, ∀ l ∈ p.locals, ¬ l.Compatible interfaces c.address) ∧
          bindLocals resolved p.locals interfaces =
            .error (.invalidParameters .incompatibleLocals) ∨
        (¬ ∀ c ∈ resolved, ∀ l ∈ p.locals, ¬ l.Compatible interfaces c.address) ∧
          ∃ bound, bindLocals resolved p.locals interfaces = .ok bound) := by
  have hresolved : resolved ≠ [] := (resolveEndpoints_eq_ok h.endpoints).1
  unfold bindLocals
  rw [if_neg (by simpa using hlocals)]
  rcases unknownInterface? p.locals interfaces with _ | name
  · refine Or.inr ⟨rfl, ?_⟩
    by_cases hnone : ∀ c ∈ resolved, ∀ l ∈ p.locals, ¬ l.Compatible interfaces c.address
    · refine Or.inl ⟨hnone, if_pos ?_⟩
      simp [copies_eq_nil.mpr hnone, hresolved]
    · refine Or.inr ⟨hnone, _, if_neg ?_⟩
      simpa [hresolved] using mt copies_eq_nil.mp hnone
  · exact Or.inl ⟨name, rfl, rfl⟩

theorem bindLocals_known (h : p.Resolves table resolved) (hlocals : p.locals ≠ []) :
    (∃ f, bindLocals resolved p.locals source.known = .error f ∧
        Fault table source p .binding f) ∨
      (∃ bound, bindLocals resolved p.locals source.known = .ok bound) ∧
        ∀ f, ¬ Fault table source p .binding f := by
  rcases bindLocals_cases h hlocals source.known with
    ⟨name, hname, hbind⟩ | ⟨hunknown, ⟨hnone, hbind⟩ | ⟨hsome, hbind⟩⟩
  · exact Or.inl ⟨_, hbind, .unknown hname⟩
  · exact Or.inl ⟨_, hbind, .incompatible h.endpoints hlocals hunknown hnone⟩
  · refine Or.inr ⟨hbind, fun f hfault => ?_⟩
    cases hfault with
    | unknown hname => simp [hunknown] at hname
    | incompatible hfound _ _ hnone =>
      rw [h.endpoints] at hfound
      cases hfound
      exact hsome hnone

theorem Resolves.not_fault_of_locals_nil (h : p.Resolves table resolved) (hlocals : p.locals = []) :
    ¬ Fault table source p stage f := by
  intro hfault
  cases stage with
  | reading =>
    cases hfault with
    | unreadable _ hnames =>
      obtain ⟨l, hl, -⟩ := hnames
      simp [hlocals] at hl
  | binding =>
    cases hfault with
    | unknown hname => simp [hlocals, unknownInterface?] at hname
    | incompatible _ hne => exact hne hlocals
  | _ => exact h.not_fault (by decide) hfault

/-- **What is reported is the first fault,** and if there is none it goes well. -/
theorem firstFault_or_ok (table : HostTable) (source : Source) (p : Preconnection) :
    (∃ f, (p.candidates table source).1 = .error f ∧ FirstFault table source p f) ∨
      (∃ cs, (p.candidates table source).1 = .ok cs) ∧
        ∀ stage f, ¬ Fault table source p stage f := by
  rcases hresolve : p.resolve table with f | resolved
  · refine Or.inl ⟨f, ?_, firstFault_of_resolve hresolve⟩
    rw [candidates, hresolve]
  have h : p.Resolves table resolved := resolve_eq_ok_iff.mp hresolve
  by_cases hlocals : p.locals = []
  · refine Or.inr ⟨⟨costlyLast resolved, ?_⟩, fun stage f => h.not_fault_of_locals_nil hlocals⟩
    simp only [candidates, hresolve, hlocals, List.isEmpty_nil, if_true]
  rw [candidates_of_needs h hlocals]
  rcases interfacesFor_read source p with ⟨f, herror, hfault⟩ | ⟨hok, hreading⟩
  · refine Or.inl ⟨f, by rw [herror]; rfl, .reading, hfault, fun earlier other hlt => ?_⟩
    exact h.not_fault hlt
  rcases bindLocals_known h hlocals with ⟨f, herror, hfault⟩ | ⟨⟨bound, hbound⟩, hbinding⟩
  · refine Or.inl ⟨f, ?_, .binding, hfault, fun earlier other hlt => ?_⟩
    · simp only [hok, bind, Except.bind, herror]
      rfl
    · cases earlier with
      | reading => exact hreading other
      | binding => exact absurd hlt (Nat.lt_irrefl _)
      | _ => exact h.not_fault (by decide)
  · refine Or.inr ⟨⟨costlyLast bound, ?_⟩, fun stage f => ?_⟩
    · simp only [hok, bind, Except.bind, hbound]
      rfl
    · cases stage with
      | reading => exact hreading f
      | binding => exact hbinding f
      | _ => exact h.not_fault (by decide)

/-- **The first fault is reported.** -/
theorem candidates_eq_error_iff :
    (p.candidates table source).1 = .error f ↔ FirstFault table source p f := by
  rcases firstFault_or_ok table source p with ⟨g, herror, hfirst⟩ | ⟨⟨cs, hok⟩, hnone⟩
  · rw [herror, Except.error.injEq]
    exact ⟨fun heq => heq ▸ hfirst, hfirst.unique⟩
  · rw [hok]
    refine ⟨nofun, ?_⟩
    rintro ⟨stage, hfault, -⟩
    exact absurd hfault (hnone stage f)

/-! ### A source that cannot be read -/

section Unreadable

variable {e : MonitorError} (hread : source.read.1 = .error e) (h : p.Resolves table resolved)
  (hlocals : p.locals ≠ [])

include hread h hlocals

theorem candidates_of_names (hnames : p.NamesInterface) :
    (p.candidates table source).1 = .error (.invalidParameters (.unreadableInterfaces e)) := by
  have herror : p.interfacesFor source.read.1 =
      .error (.invalidParameters (.unreadableInterfaces e)) := by
    rw [hread]
    exact if_pos (any_interface_iff.mpr hnames)
  rw [candidates_of_needs h hlocals, herror]
  rfl

theorem candidates_of_not_names (hnames : ¬ p.NamesInterface) :
    (p.candidates table source).1 = (bindLocals resolved p.locals []).map costlyLast := by
  have hok : p.interfacesFor source.read.1 = .ok [] := by
    rw [hread]
    exact if_neg (mt any_interface_iff.mp hnames)
  rw [candidates_of_needs h hlocals, hok]
  rfl

end Unreadable

theorem candidates_emptied (h : p.Resolves table resolved) (hlocals : p.locals ≠ []) :
    (p.candidates table source.emptied).1 = (bindLocals resolved p.locals []).map costlyLast := by
  rw [candidates_of_needs h hlocals]
  rfl

/-- Without interfaces, and if none is named, binding only fails because nothing is compatible. -/
theorem bindLocals_nil (h : p.Resolves table resolved) (hlocals : p.locals ≠ [])
    (hnames : ¬ p.NamesInterface) :
    (∀ c ∈ resolved, ∀ l ∈ p.locals, ¬ l.Compatible [] c.address) ∧
        bindLocals resolved p.locals [] = .error (.invalidParameters .incompatibleLocals) ∨
      (¬ ∀ c ∈ resolved, ∀ l ∈ p.locals, ¬ l.Compatible [] c.address) ∧
        ∃ bound, bindLocals resolved p.locals [] = .ok bound := by
  rcases bindLocals_cases h hlocals [] with ⟨name, hname, -⟩ | ⟨-, hbind⟩
  · obtain ⟨l, hl, named, hnamed, -⟩ := isSome_unknownInterface?.mp (hname ▸ Option.isSome_some)
    exact absurd ⟨l, hl, named, hnamed⟩ hnames
  · exact hbind

end

/-- **How reading the interfaces and failing go together** when candidates are sought. -/
structure ReadsLate (table : HostTable) (source : Source) (p : Preconnection)
    (result : Except EstablishmentFailure (List Candidate) × Source) : Prop where
  /-- The interfaces are read once, if there are candidates and local endpoints to bind. -/
  read : p.NeedsInterfaces table → result.2 = source.read.2 ∧ result.2.reads = source.reads + 1
  /-- Else they are not, and whatever they are, or whether reading them would fail, makes no
  difference. -/
  unread : ¬ p.NeedsInterfaces table →
    result.2 = source ∧ ∀ other, (p.candidates table other).1 = result.1
  /-- If they cannot be read, then it fails if a local endpoint names an interface, or if nothing is
  compatible when there are no interfaces. -/
  fails : ∀ e resolved, source.read.1 = .error e → p.Resolves table resolved → p.locals ≠ [] →
    ((∃ fault, result.1 = .error (.invalidParameters fault)) ↔
      p.NamesInterface ∨ ∀ c ∈ resolved, ∀ l ∈ p.locals, ¬ l.Compatible [] c.address)
  /-- Else the candidates are the same as if there were none. -/
  recovers : ∀ e resolved, source.read.1 = .error e → p.Resolves table resolved → p.locals ≠ [] →
    ¬ (p.NamesInterface ∨ ∀ c ∈ resolved, ∀ l ∈ p.locals, ¬ l.Compatible [] c.address) →
      ∃ cs, result.1 = .ok cs ∧ (p.candidates table source.emptied).1 = .ok cs
  /-- What is reported is what is wrong at the first stage at which anything is. -/
  ordered : ∀ failure, result.1 = .error failure ↔ p.FirstFault table source failure

/-- **The interfaces are read late, once, and only if it matters;** and of several faults the first
is reported. -/
theorem readsLate_candidates (table : HostTable) (source : Source) (p : Preconnection) :
    ReadsLate table source p (p.candidates table source) where
  read := by
    rintro ⟨⟨resolved, h⟩, hlocals⟩
    rw [candidates_of_needs h hlocals]
    exact ⟨rfl, source.reads_read⟩
  unread hneeds := by
    refine ⟨?_, fun other => ?_⟩
    · rw [candidates_of_not_needs hneeds source source]
    · rw [candidates_of_not_needs hneeds other source]
  fails e resolved hread h hlocals := by
    by_cases hnames : p.NamesInterface
    · rw [candidates_of_names hread h hlocals hnames]
      exact ⟨fun _ => Or.inl hnames, fun _ => ⟨_, rfl⟩⟩
    rw [candidates_of_not_names hread h hlocals hnames, or_iff_right hnames]
    rcases bindLocals_nil h hlocals hnames with ⟨hnone, hbind⟩ | ⟨hsome, bound, hbind⟩
    · rw [hbind]
      exact ⟨fun _ => hnone, fun _ => ⟨_, rfl⟩⟩
    · rw [hbind]
      exact ⟨nofun, fun hnone => absurd hnone hsome⟩
  recovers e resolved hread h hlocals hnot := by
    obtain ⟨hnames, hsome⟩ := not_or.mp hnot
    rw [candidates_of_not_names hread h hlocals hnames, candidates_emptied h hlocals]
    rcases bindLocals_nil h hlocals hnames with ⟨hnone, -⟩ | ⟨-, bound, hbind⟩
    · exact absurd hnone hsome
    · rw [hbind]
      exact ⟨costlyLast bound, rfl, rfl⟩
  ordered failure := candidates_eq_error_iff

end Preconnection

end Dialer
