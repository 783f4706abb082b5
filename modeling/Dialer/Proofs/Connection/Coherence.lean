import Dialer.Proofs.Connection.View

/-!
# Queues and stages agree

A connection keeps twice who waits for a half of the session: in the queues and in the stages of its
calls. `Connection.Coherent` says that both agree, that sends and closes stand in their queue
in the order they were made in, and that a call that is midway through using its half stands first.
No operation breaks this.
-/

namespace Dialer

/-! ### One queue -/

/-- **A queue holds the calls at certain stages,** those that are midway first. -/
structure QueueAgrees (queue : List Nat) (stage? : Nat → Option Stage) (uses : Stage → Bool) :
    Prop where
  mem : ∀ id, id ∈ queue ↔ ∃ stage, stage? id = some stage ∧ uses stage = true
  nodup : queue.Nodup
  first : ∀ id stage, stage? id = some stage → uses stage = true → stage.midway = true →
    queue.head? = some id

namespace QueueAgrees

variable {queue : List Nat} {stage? : Nat → Option Stage} {uses : Stage → Bool} {id : Nat}
  {stage : Stage}

theorem not_mem (h : QueueAgrees queue stage? uses)
    (hs : ∀ stage, stage? id = some stage → uses stage = false) : id ∉ queue := by
  intro hmem
  obtain ⟨stage, hst, hu⟩ := (h.mem id).mp hmem
  rw [hs stage hst] at hu
  cases hu

/-- A call that does not use the half is not in the queue. -/
theorem filter_eq_self (h : QueueAgrees queue stage? uses) (hs : stage? id = some stage)
    (hu : uses stage = false) : queue.filter (· != id) = queue := by
  refine List.filter_eq_self.mpr fun j hj => ?_
  have hnot : id ∉ queue := h.not_mem fun other ho => by
    rw [hs] at ho
    cases ho
    exact hu
  simpa using fun hjid : j = id => hnot (hjid ▸ hj)

/-- Before a call that does not stand first there stands another one that uses the half. -/
theorem exists_before (h : QueueAgrees queue stage? uses) (hs : stage? id = some stage)
    (hu : uses stage = true) (hne : queue.head? ≠ some id) :
    ∃ j other, j ≠ id ∧ stage? j = some other ∧ uses other = true := by
  have hmem : id ∈ queue := (h.mem id).mpr ⟨stage, hs, hu⟩
  obtain ⟨j, hhead⟩ :=
    Option.isSome_iff_exists.mp (List.isSome_head?.mpr (List.ne_nil_of_mem hmem))
  obtain ⟨other, hj, hother⟩ := (h.mem j).mp (List.mem_of_mem_head? hhead)
  exact ⟨j, other, fun hjid => hne (hjid ▸ hhead), hj, hother⟩

/-- Whoever is midway through using the half stands first. -/
theorem eq_of_midway (h : QueueAgrees queue stage? uses) (hs : stage? id = some stage)
    (hu : uses stage = true) (hm : stage.midway = true) {j : Nat} (hj : queue.head? = some j) :
    id = j :=
  Option.some.inj ((h.first id stage hs hu hm).symm.trans hj)

theorem head?_filter_ne {j : Nat} (h : queue.head? = some j) (hne : j ≠ id) :
    (queue.filter (· != id)).head? = some j := by
  rcases queue with _ | ⟨a, queue⟩
  · cases h
  · cases h
    rw [List.filter_cons_of_pos (by simpa using hne)]
    rfl

/-- A call leaves the queue. -/
theorem leave (h : QueueAgrees queue stage? uses) {new : Option Stage}
    (hnew : ∀ stage, new = some stage → uses stage = false) :
    QueueAgrees (queue.filter (· != id)) (Function.update stage? id new) uses := by
  have hself : ∀ stage, Function.update stage? id new id = some stage → uses stage = false := by
    intro stage hs
    rw [Function.update_self] at hs
    exact hnew stage hs
  refine ⟨fun j => ?_, h.nodup.filter _, fun j stage hs hu hm => ?_⟩
  · have hmem : j ∈ queue.filter (· != id) ↔ j ∈ queue ∧ j ≠ id := by simp
    rw [hmem]
    rcases eq_or_ne j id with rfl | hj
    · refine ⟨fun hmem => absurd rfl hmem.2, fun ⟨stage, hs, hu⟩ => ?_⟩
      rw [hself stage hs] at hu
      cases hu
    · rw [Function.update_of_ne hj, ← h.mem j, and_iff_left hj]
  · rcases eq_or_ne j id with rfl | hj
    · rw [hself stage hs] at hu
      cases hu
    · rw [Function.update_of_ne hj] at hs
      exact head?_filter_ne (h.first j stage hs hu hm) hj

/-- A call that concerns the queue as much as before goes on. -/
theorem stay (h : QueueAgrees queue stage? uses) (hmem : id ∈ queue ↔ uses stage = true)
    (hfirst : uses stage = true → stage.midway = true → queue.head? = some id) :
    QueueAgrees queue (Function.update stage? id (some stage)) uses := by
  refine ⟨fun j => ?_, h.nodup, fun j other hs hu hm => ?_⟩
  · rcases eq_or_ne j id with rfl | hj
    · rw [Function.update_self, hmem]
      simp
    · rw [Function.update_of_ne hj, h.mem j]
  · rcases eq_or_ne j id with rfl | hj
    · rw [Function.update_self] at hs
      cases hs
      exact hfirst hu hm
    · rw [Function.update_of_ne hj] at hs
      exact h.first j other hs hu hm

/-- A call joins the queue. -/
theorem join (h : QueueAgrees queue stage? uses) (hnot : id ∉ queue) (hu : uses stage = true)
    (hm : stage.midway = false) :
    QueueAgrees (queue ++ [id]) (Function.update stage? id (some stage)) uses := by
  refine ⟨fun j => ?_, ?_, fun j other hs hu' hm' => ?_⟩
  · rcases eq_or_ne j id with rfl | hj
    · rw [Function.update_self]
      simp [hu]
    · rw [Function.update_of_ne hj, ← h.mem j]
      simp [hj]
  · refine List.nodup_append.mpr ⟨h.nodup, List.pairwise_singleton _ _, fun a ha b hb => ?_⟩
    rw [List.mem_singleton.mp hb]
    rintro rfl
    exact hnot ha
  · rcases eq_or_ne j id with rfl | hj
    · rw [Function.update_self] at hs
      cases hs
      rw [hm] at hm'
      cases hm'
    · rw [Function.update_of_ne hj] at hs
      have hhead := h.first j other hs hu' hm'
      rcases queue with _ | ⟨a, queue⟩
      · cases hhead
      · exact hhead

end QueueAgrees

/-! ### Both queues -/

namespace Connection

variable {W : Type}

/-- **Queues and stages agree.** -/
structure Coherent (c : Connection W) : Prop where
  fresh : ∀ id, c.nextId ≤ id → c.stage? id = none
  writers : QueueAgrees c.writers c.stage? Stage.writes
  readers : QueueAgrees c.readers c.stage? Stage.reads
  sorted : c.writers.Pairwise (· < ·)

theorem coherent_start (wire : W) : Coherent { wire } where
  fresh _ _ := rfl
  writers := ⟨by simp [stage?], List.nodup_nil, nofun⟩
  readers := ⟨by simp [stage?], List.nodup_nil, nofun⟩
  sorted := List.Pairwise.nil

namespace Coherent

variable {b c : Connection W} {id : Nat} {old stage : Stage} {r : Reply}

theorem lt_nextId (h : c.Coherent) (hs : c.stage? id = some stage) : id < c.nextId := by
  by_contra hle
  rw [h.fresh id (by omega)] at hs
  cases hs

theorem writers_lt (h : c.Coherent) (hw : id ∈ c.writers) : id < c.nextId := by
  obtain ⟨stage, hs, -⟩ := (h.writers.mem id).mp hw
  exact h.lt_nextId hs

/-- Whoever stands first in the queue of writers was made before all others in it. -/
theorem lt_of_head? (h : c.Coherent) (hhead : c.writers.head? = some id) {j : Nat}
    (hj : j ∈ c.writers) : id ≤ j := by
  have hsorted := h.sorted
  rcases hw : c.writers with _ | ⟨a, rest⟩
  · rw [hw] at hj
    cases hj
  · rw [hw] at hhead hj hsorted
    cases hhead
    rcases List.mem_cons.mp hj with rfl | hj
    · exact Nat.le_refl _
    · exact Nat.le_of_lt (List.rel_of_pairwise_cons hsorted hj)

/-- Halves, wire, life and signal do not matter. -/
theorem congr (h : c.Coherent) (hc : b.calls = c.calls) (hw : b.writers = c.writers)
    (hr : b.readers = c.readers) (hn : b.nextId = c.nextId) : b.Coherent := by
  have hs := stage?_congr hc
  constructor
  · rw [hs, hn]; exact h.fresh
  · rw [hs, hw]; exact h.writers
  · rw [hs, hr]; exact h.readers
  · rw [hw]; exact h.sorted

theorem still (h : c.Coherent) (hs : Still c b) : b.Coherent :=
  h.congr hs.calls hs.writers hs.readers hs.nextId

theorem fresh_update (h : c.Coherent) {new : Option Stage} (hnew : c.nextId ≤ id → new = none)
    (j : Nat) (hj : c.nextId ≤ j) : Function.update c.stage? id new j = none := by
  rcases eq_or_ne j id with rfl | hne
  · rw [Function.update_self, hnew hj]
  · rw [Function.update_of_ne hne, h.fresh j hj]

theorem reply (h : c.Coherent) (hs : c.stage? id = some old) : (c.reply id r).Coherent := by
  have hlt := h.lt_nextId hs
  have heq : (c.reply id r).stage? = _ := stage?_reply rfl hs
  constructor
  · rw [heq]; exact h.fresh_update (by omega)
  · rw [heq]; exact h.writers.leave (by rintro stage ⟨⟩; rfl)
  · rw [heq]; exact h.readers.leave (by rintro stage ⟨⟩; rfl)
  · exact h.sorted.filter _

theorem cancel (h : c.Coherent) (id : Nat) : (c.cancel id).Coherent := by
  have heq : (c.cancel id).stage? = _ := stage?_cancel
  constructor
  · rw [heq]; exact h.fresh_update fun _ => rfl
  · rw [heq]; exact h.writers.leave nofun
  · rw [heq]; exact h.readers.leave nofun
  · exact h.sorted.filter _

/-- A call that stands first in a queue goes on with its half. -/
theorem setStage (h : c.Coherent) (hs : c.stage? id = some old)
    (hw : old.writes = stage.writes) (hr : old.reads = stage.reads)
    (hwfirst : stage.writes = true → c.writers.head? = some id)
    (hrfirst : stage.reads = true → c.readers.head? = some id) :
    (c.setStage id stage).Coherent := by
  have hlt := h.lt_nextId hs
  have heq : (c.setStage id stage).stage? = _ := stage?_setStage rfl hs
  have hwmem : id ∈ c.writers ↔ stage.writes = true := by rw [h.writers.mem, hs, ← hw]; simp
  have hrmem : id ∈ c.readers ↔ stage.reads = true := by rw [h.readers.mem, hs, ← hr]; simp
  constructor
  · rw [heq]; exact h.fresh_update (by omega)
  · rw [heq]; exact h.writers.stay hwmem fun hu _ => hwfirst hu
  · rw [heq]; exact h.readers.stay hrmem fun hu _ => hrfirst hu
  · exact h.sorted

/-! ### A call is made -/

/-- A new call stands last in the queues it concerns. -/
theorem enter (h : c.Coherent) (hm : stage.midway = false) (hc : b.calls = (c.enter stage).calls)
    (hw : b.writers = if stage.writes then c.writers ++ [c.nextId] else c.writers)
    (hr : b.readers = if stage.reads then c.readers ++ [c.nextId] else c.readers)
    (hn : b.nextId = c.nextId + 1) : b.Coherent := by
  have hnone : c.stage? c.nextId = none := h.fresh _ (Nat.le_refl _)
  have heq : b.stage? = Function.update c.stage? c.nextId (some stage) := by
    rw [← stage?_enter hnone]
    funext j
    rw [stage?, hc, stage?]
  have hnot : ∀ {queue : List Nat} {uses : Stage → Bool}, QueueAgrees queue c.stage? uses →
      c.nextId ∉ queue := fun hq => hq.not_mem fun stage hst => by rw [hnone] at hst; cases hst
  have hjoin : ∀ {queue : List Nat} {uses : Stage → Bool}, QueueAgrees queue c.stage? uses →
      QueueAgrees (if uses stage then queue ++ [c.nextId] else queue)
        (Function.update c.stage? c.nextId (some stage)) uses := by
    intro queue uses hq
    split_ifs with hu
    · exact hq.join (hnot hq) hu hm
    · exact hq.stay (by simp [hnot hq, hu]) fun hu' => absurd hu' hu
  constructor
  · intro j hj
    rw [heq, Function.update_of_ne (by omega), h.fresh j (by omega)]
  · rw [heq, hw]; exact hjoin h.writers
  · rw [heq, hr]; exact hjoin h.readers
  · rw [hw]
    split_ifs
    · refine List.pairwise_append.mpr ⟨h.sorted, List.pairwise_singleton _ _, fun a ha j hj => ?_⟩
      rw [List.mem_singleton.mp hj]
      exact h.writers_lt ha
    · exact h.sorted

theorem issued (h : c.Coherent) {request : Request} (hi : Issued c request b) : b.Coherent := by
  cases hi with
  | sendRefused => exact h.enter rfl rfl rfl rfl rfl
  | receiveRefused => exact h.enter rfl rfl rfl rfl rfl
  | closeRefused => exact h.enter rfl rfl rfl rfl rfl
  | send => exact h.enter rfl rfl rfl rfl rfl
  | receive => exact h.enter rfl rfl rfl rfl rfl
  | close => exact h.enter rfl rfl rfl rfl rfl

/-! ### A call goes on -/

theorem head?_of_sends (h : c.Coherent) {rest : Bytes} (hs : c.Sends id rest) :
    c.writers.head? = some id := by
  obtain ⟨old, hold, hw, -, hm⟩ := hs.exists_stage
  exact h.writers.first id old hold hw hm

theorem head?_of_receives (h : c.Coherent) {max : Nat} (hs : c.Receives id max) :
    c.readers.head? = some id := by
  obtain ⟨old, hold, -, hr, hm⟩ := hs.exists_stage
  exact h.readers.first id old hold hr hm

theorem head?_of_shutsDown (h : c.Coherent) (hs : c.ShutsDown id) :
    c.writers.head? = some id := by
  rcases hs with ⟨-, hh, -⟩ | hs
  · exact eq_of_beq hh
  · exact h.writers.first id _ hs rfl rfl

variable [Carrier W]

theorem closeWriter (h : c.Coherent) (hs : c.stage? id = some old) (hr : old.reads = false) :
    (c.closeWriter id).Coherent := by
  have hlt := h.lt_nextId hs
  have hstill := still_dropWriter (c.leave id)
  have hwriters : (c.closeWriter id).writers = c.writers.filter (· != id) := hstill.writers
  have hreaders : (c.closeWriter id).readers = c.readers.filter (· != id) ++ [id] :=
    congrArg (· ++ [id]) hstill.readers
  have hnext : (c.closeWriter id).nextId = c.nextId := hstill.nextId
  have heq := stage?_closeWriter rfl hs
  have hnot : id ∉ c.readers := h.readers.not_mem fun stage hst => by
    rw [hs] at hst
    cases hst
    exact hr
  constructor
  · rw [heq, hnext]; exact h.fresh_update (by omega)
  · rw [heq, hwriters]; exact h.writers.leave (by rintro stage ⟨⟩; rfl)
  · rw [heq, hreaders, List.filter_eq_self.mpr fun j hj => ?_]
    · exact h.readers.join hnot rfl rfl
    · simpa using fun hjid : j = id => hnot (hjid ▸ hj)
  · rw [hwriters]; exact h.sorted.filter _

theorem goes (h : c.Coherent) (hg : Goes c id b) : b.Coherent := by
  have hcongr : ∀ wire life, ({ c with wire, life } : Connection W).Coherent :=
    fun wire life => h.congr rfl rfl rfl rfl
  cases hg with
  | stays => exact h
  | sendWoken hs => exact h.reply hs
  | receiveWoken hs => exact h.reply hs
  | sendTakes hs hh => exact h.setStage hs rfl rfl (fun _ => eq_of_beq hh) nofun
  | receiveTakes hs hh => exact h.setStage hs rfl rfl nofun fun _ => eq_of_beq hh
  | sendStopped hs =>
    obtain ⟨old, hs, -⟩ := hs.exists_stage
    exact reply (still (hcongr _ _) (still_dropWriter _))
      ((congrFun stage?_dropWriter id).trans hs)
  | receiveStopped hs =>
    obtain ⟨old, hs, -⟩ := hs.exists_stage
    exact reply (still (hcongr _ _) (still_dropReader _))
      ((congrFun stage?_dropReader id).trans hs)
  | sent hs =>
    obtain ⟨old, hs, -⟩ := hs.exists_stage
    exact reply (hcongr _ _) hs
  | sentInPart hs =>
    obtain ⟨old, hold, hw, hr, -⟩ := hs.exists_stage
    exact setStage (hcongr _ _) hold hw hr (fun _ => h.head?_of_sends hs) nofun
  | sendFailed hs =>
    obtain ⟨old, hs, -⟩ := hs.exists_stage
    exact reply (hcongr _ _) hs
  | received hs =>
    obtain ⟨old, hs, -⟩ := hs.exists_stage
    exact reply (hcongr _ _) hs
  | receiveWaits hs =>
    obtain ⟨old, hold, hw, hr, -⟩ := hs.exists_stage
    exact setStage (hcongr _ _) hold hw hr nofun fun _ => h.head?_of_receives hs
  | receiveFailed hs =>
    obtain ⟨old, hs, -⟩ := hs.exists_stage
    exact reply (hcongr _ _) hs
  | shutDown hs =>
    obtain ⟨old, hs, -, hr⟩ := hs.exists_stage
    exact closeWriter (hcongr _ _) hs hr
  | shutdownHangs hs =>
    obtain ⟨old, hold, hw, hr⟩ := hs.exists_stage
    exact setStage (hcongr _ _) hold hw hr (fun _ => h.head?_of_shutsDown hs) nofun
  | shutdownSkipped hs => exact h.closeWriter hs rfl
  | closed hs =>
    have hdrop := h.still (still_dropReader c)
    exact reply (hdrop.congr rfl rfl rfl rfl) ((congrFun stage?_dropReader id).trans hs)

theorem poll (h : c.Coherent) (branch : Branch) (id : Nat) : (c.poll branch id).Coherent :=
  h.goes (goes_poll branch id c)

end Coherent

end Connection

end Dialer
