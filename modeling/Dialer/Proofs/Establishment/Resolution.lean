import Dialer.Resolution.Resolve

/-!
# Where candidates come from

A remote endpoint `RemoteEndpoint.Serves` a candidate if it names the address, has the port, and
does not exclude the stack. The candidates of an endpoint are those it serves over one of the stacks
(`RemoteEndpoint.mem_candidates`), and what several endpoints resolve to is served by one of them
(`exists_of_mem_resolveEndpoints`).
-/

namespace Dialer

/-! ### One endpoint -/

namespace RemoteEndpoint

variable {table : HostTable} {acceptable : List Stack} {e : RemoteEndpoint}

/-- **An endpoint a candidate may have come from.** -/
structure Serves (table : HostTable) (e : RemoteEndpoint) (c : Candidate) : Prop where
  /-- The endpoint's own address, or one that its hostname stands for. -/
  address : ∃ ips, e.namedAddresses table = .ok ips ∧ c.address.ip ∈ ips
  port : e.effectivePort = some c.address.port
  zone : c.address.zone = 0
  protocol : ∀ hint ∈ e.protocol, c.stack.protocol = hint

theorem addresses_eq_ok {found : List SocketAddress} (h : e.addresses table = .ok found) :
    ∃ port ips, e.effectivePort = some port ∧ e.namedAddresses table = .ok ips ∧ ips ≠ [] ∧
      found = (interleave ips).map fun ip => ⟨ip, port, 0⟩ := by
  unfold addresses at h
  rcases hport : e.effectivePort with _ | port
  · simp only [hport] at h
    cases h
  rcases hips : e.namedAddresses table with failure | ips
  · simp only [hport, hips] at h
    cases h
  simp only [hport, hips] at h
  split at h
  · cases h
  · next hne =>
    refine ⟨port, ips, rfl, rfl, ?_, (Except.ok.inj h).symm⟩
    rintro rfl
    exact hne rfl

theorem candidates_eq_ok {own : List Candidate} (h : e.candidates table acceptable = .ok own) :
    ∃ found, e.addresses table = .ok found ∧
      own = (acceptable.filter (·.allowedBy e.protocol)).flatMap fun stack =>
        found.map fun address => { address, stack, host := e.candidateHost } := by
  unfold candidates at h
  rcases hf : e.addresses table with failure | found
  · simp only [hf] at h
    cases h
  · simp only [hf] at h
    exact ⟨found, rfl, (Except.ok.inj h).symm⟩

/-- **The candidates of an endpoint** are those it serves over one of the stacks. -/
theorem mem_candidates {own : List Candidate} (h : e.candidates table acceptable = .ok own)
    {c : Candidate} : c ∈ own ↔
      c.stack ∈ acceptable ∧ e.Serves table c ∧ c.host = e.candidateHost ∧ c.localSide = none := by
  obtain ⟨found, hfound, rfl⟩ := candidates_eq_ok h
  obtain ⟨port, ips, hport, hips, -, rfl⟩ := addresses_eq_ok hfound
  simp only [List.mem_flatMap, List.mem_filter, Stack.allowedBy_iff, List.mem_map]
  constructor
  · rintro ⟨stack, ⟨hstack, hhint⟩, address, ⟨ip, hip, rfl⟩, rfl⟩
    exact ⟨hstack, ⟨⟨ips, hips, mem_interleave.mp hip⟩, hport, rfl, hhint⟩, rfl, rfl⟩
  · rintro ⟨hstack, ⟨⟨ips', hips', hip⟩, hport', hzone, hhint⟩, hhost, hside⟩
    rw [hips] at hips'
    rw [hport] at hport'
    cases hips'
    cases hport'
    refine ⟨c.stack, ⟨hstack, hhint⟩, c.address, ⟨_, mem_interleave.mpr hip, ?_⟩, ?_⟩
    · rw [← hzone]
    · rw [← hhost, ← hside]

end RemoteEndpoint

/-! ### Several endpoints -/

theorem mem_separate_fst {ε α : Type} {results : List (Except ε α)} {a : α} :
    a ∈ (separate results).1 ↔ .ok a ∈ results := by
  induction results with
  | nil => simp [separate]
  | cons r rest ih => cases r <;> simp [separate, ih]

variable {table : HostTable} {acceptable : List Stack} {endpoints : List RemoteEndpoint}
  {found : List Candidate}

theorem resolveEndpoints_eq_ok (h : resolveEndpoints table acceptable endpoints = .ok found) :
    found ≠ [] ∧ found = firstOfEach Candidate.target
      (separate (endpoints.map (·.candidates table acceptable))).1.flatten := by
  unfold resolveEndpoints at h
  dsimp only at h
  generalize firstOfEach Candidate.target _ = merged at h ⊢
  generalize (separate _).2 = failures at h
  rcases merged with _ | ⟨first, rest⟩
  · rcases failures with _ | ⟨failure, _ | ⟨second, failures⟩⟩ <;> cases h
  · cases h
    exact ⟨List.cons_ne_nil _ _, rfl⟩

/-- **Every candidate comes from an endpoint** whose own resolution found it. -/
theorem exists_of_mem_resolveEndpoints (h : resolveEndpoints table acceptable endpoints = .ok found)
    {c : Candidate} (hc : c ∈ found) :
    ∃ e ∈ endpoints, ∃ own, e.candidates table acceptable = .ok own ∧ c ∈ own := by
  obtain ⟨-, rfl⟩ := resolveEndpoints_eq_ok h
  obtain ⟨own, hown, hc⟩ := List.mem_flatten.mp (mem_of_mem_firstOfEach hc)
  obtain ⟨e, he, hok⟩ := List.mem_map.mp (mem_separate_fst.mp hown)
  exact ⟨e, he, own, hok, hc⟩

end Dialer
