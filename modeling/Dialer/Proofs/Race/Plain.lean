import Dialer.Proofs.Race.Invariant

/-!
# Time limits and breakdowns are failures

An attempt that reaches its time limit, and one whose work breaks down, is to a race nothing but an
attempt that fails. To show it, attempts are told in plain words: `Behaviour.plain` says of a
behaviour under a time limit when a session is there or for what reason it fails, and has no need
for the limit any more. A state told plainly goes on as the state does, action by action
(`State.next?_plain`, `State.act_plain`), so whole runs do (`State.runFor_plain`), and of the two
races the same is known (`race_plain`).

* `failures_alike`: an attempt may be cut off by its time limit or fail by itself at that instant,
  and may break down or fail with a reason.
-/

namespace Dialer.Race

/-! ### Telling attempts plainly -/

/-- **An attempt cut off:** one that is not over within a time fails when the time is over. -/
def Behaviour.cutOff (limit : Nat) : Behaviour → Behaviour
  | .ends after ending =>
    if after ≤ limit then .ends after ending else .ends limit (.fails .timedOut)
  | .hangs => .ends limit (.fails .timedOut)
  | .breaksDown => .breaksDown

/-- **A breakdown reported:** an attempt whose work breaks down fails at that instant. -/
def Behaviour.reported : Behaviour → Behaviour
  | .ends after .collapses => .ends after (.fails (.io "connector panicked"))
  | b => b

/-- An end told as a session or as a failure with its reason, if there is one. -/
def Finish.plain : Finish → Finish
  | ownEnding .collapses => .ownEnding (.fails (.io "connector panicked"))
  | ownEnding ending => .ownEnding ending
  | expired => .ownEnding (.fails .timedOut)
  | brokeOff => .brokeOff

/-- What becomes of an attempt that ends in a plain way. -/
def Finish.behaviour (after : Nat) : Finish → Behaviour
  | ownEnding ending => .ends after ending
  | expired => .hangs
  | brokeOff => .breaksDown

/-- What becomes of an attempt under a time limit, told without the limit. -/
def Behaviour.plain (limit : Option Nat) (b : Behaviour) : Behaviour :=
  match ({ start := 0, behaviour := b } : Attempt).ending? limit with
  | some (after, how) => how.plain.behaviour after
  | none => .hangs

/-- An attempt told plainly. -/
def Attempt.plain (limit : Option Nat) (a : Attempt) : Attempt :=
  { a with
    behaviour := a.behaviour.plain limit
    finish := a.finish.map (·.plain) }

/-- The timing of a race without the time limit for attempts. -/
def Config.unlimited (config : Config) : Config := { config with attemptLimit := none }

/-- A state in which all attempts are told plainly. -/
def State.plain (config : Config) (s : State) : State :=
  { s with
    attempts := s.attempts.map (·.plain config.attemptLimit)
    waiting := s.waiting.map (·.plain config.attemptLimit) }

theorem Behaviour.plain_cutOff (limit : Nat) (b : Behaviour) :
    (b.cutOff limit).plain none = b.plain (some limit) := by
  cases b with
  | hangs => rfl
  | breaksDown => rfl
  | ends after ending =>
    by_cases h : after ≤ limit <;> simp [cutOff, plain, Attempt.ending?, Finish.plain, h]

theorem Behaviour.plain_reported (limit : Option Nat) (b : Behaviour) :
    b.reported.plain limit = b.plain limit := by
  rcases b with ⟨after, _ | _ | _⟩ | _ | _ <;> try rfl
  rcases limit with _ | limit
  · rfl
  · by_cases h : after ≤ limit <;> simp [reported, plain, Attempt.ending?, Finish.plain, h]

@[simp] theorem Finish.reason?_plain (how : Finish) :
    how.plain.reason? = how.reason? := by
  rcases how with (_ | _ | _) | _ | _ <;> rfl

@[simp] theorem Finish.connected_plain (how : Finish) :
    how.plain.connected = how.connected := by
  rcases how with (_ | _ | _) | _ | _ <;> rfl

namespace Attempt

/-- **Told plainly, an attempt ends when it does,** and as it does. -/
theorem ending?_plain (limit : Option Nat) (a : Attempt) :
    (a.plain limit).ending? none =
      (a.ending? limit).map fun e => (e.1, e.2.plain) := by
  rcases a with ⟨start, behaviour, finish, notice⟩
  cases behaviour with
  | hangs =>
    cases limit <;> simp [plain, Behaviour.plain, ending?, Finish.plain, Finish.behaviour]
  | breaksDown => rfl
  | ends after ending =>
    cases limit with
    | none =>
      cases ending <;> simp [plain, Behaviour.plain, ending?, Finish.plain, Finish.behaviour]
    | some limit =>
      by_cases h : after ≤ limit
      · cases ending <;> simp [plain, Behaviour.plain, ending?, Finish.plain, Finish.behaviour, h]
      · simp [plain, Behaviour.plain, ending?, Finish.plain, Finish.behaviour, h]

@[simp] theorem running_plain (limit : Option Nat) (a : Attempt) :
    (a.plain limit).running = a.running := by
  simp [plain, running]

theorem due?_plain (config : Config) (a : Attempt) :
    (a.plain config.attemptLimit).due? config.unlimited =
      (a.due? config).map fun e => (e.1, e.2.plain) := by
  unfold due?
  rw [running_plain, Config.unlimited, ending?_plain]
  split_ifs <;> rfl

end Attempt

namespace State

variable (config : Config) (now : Instant) (s : State)

/-! ### What happens next -/

theorem startAt?_plain : (s.plain config).startAt? = s.startAt? := by
  simp [startAt?, plain]

theorem finishAt?_plain : (s.plain config).finishAt? config.unlimited = s.finishAt? config := by
  simp [finishAt?, plain, List.foldr_map, Attempt.due?_plain, Function.comp_def]

theorem dueAction?_plain :
    (s.plain config).dueAction? config.unlimited now = s.dueAction? config now := by
  simp only [dueAction?, startAt?_plain, finishAt?_plain]
  rfl

theorem next?_plain : (s.plain config).next? config.unlimited now = s.next? config now := by
  simp only [next?, dueAction?_plain, startAt?_plain, finishAt?_plain]
  rfl

/-! ### The four actions -/

theorem startNext_plain :
    (s.plain config).startNext config.unlimited now = (s.startNext config now).plain config := by
  rcases hw : s.waiting with _ | ⟨behaviour, rest⟩
  · simp [startNext, plain, hw]
  · simp [startNext, plain, hw, Attempt.plain, Config.unlimited]

/-- One attempt may be changed before or after all are told plainly. -/
theorem map_modify_plain (limit : Option Nat) (f g : Attempt → Attempt) (l : List Attempt)
    (hfg : ∀ a, f (a.plain limit) = (g a).plain limit) (k : Nat) :
    (l.map (·.plain limit)).modify k f = (l.modify k g).map (·.plain limit) := by
  refine List.ext_getElem? fun j => ?_
  simp only [List.getElem?_modify, List.getElem?_map]
  rcases l[j]? with _ | a
  · rfl
  · by_cases hj : k = j <;> simp [hj, hfg]

theorem finish_plain (k : Nat) (how : Finish) :
    (s.plain config).finish k how.plain = (s.finish k how).plain config := by
  have hmodify := map_modify_plain config.attemptLimit
    (fun a => { a with finish := some how.plain })
    (fun a => { a with finish := some how }) s.attempts (fun _ => rfl) k
  simp only [finish, plain, Finish.connected_plain, hmodify]
  rfl

theorem finishIfDue_plain (p : Attempt × Nat) :
    finishIfDue config.unlimited now (s.plain config) (p.1.plain config.attemptLimit, p.2) =
      (finishIfDue config now s p).plain config := by
  rcases p with ⟨a, k⟩
  simp only [finishIfDue, Attempt.due?_plain]
  rcases a.due? config with _ | ⟨t, how⟩
  · rfl
  · by_cases ht : t ≤ now <;> simp [ht, finish_plain]

theorem finishDue_plain :
    (s.plain config).finishDue config.unlimited now = (s.finishDue config now).plain config := by
  rw [finishDue_eq_foldl, finishDue_eq_foldl]
  have hzip : (s.plain config).attempts.zipIdx =
      s.attempts.zipIdx.map fun p => (p.1.plain config.attemptLimit, p.2) := by
    simp [plain, List.zipIdx_map, Prod.map]
  rw [hzip, List.foldl_map]
  exact List.foldl_hom (State.plain config) (fun s p => (finishIfDue_plain config now s p))

theorem passDeadline_plain : (s.plain config).passDeadline = s.passDeadline.plain config := by
  by_cases hv : s.verdict = .open <;> simp [passDeadline, plain, hv]

theorem noticeOf_plain (k : Nat) (how : Finish) :
    (s.plain config).noticeOf k how.plain = s.noticeOf k how := by
  simp only [noticeOf, Finish.reason?_plain, Finish.connected_plain]
  rfl

theorem finish?_plain (k : Nat) :
    (s.plain config).finish? k = (s.finish? k).map (·.plain) := by
  simp only [finish?, plain, List.getElem?_map]
  rcases s.attempts[k]? with _ | a <;> rfl

theorem notice?_plain (k : Nat) : (s.plain config).notice? k = s.notice? k := by
  simp only [notice?, plain, List.getElem?_map]
  rcases s.attempts[k]? with _ | a <;> rfl

theorem collect_plain : (s.plain config).collect now = (s.collect now).plain config := by
  rcases hu : s.unnoticed with _ | ⟨k, rest⟩
  · simp [collect, plain, hu]
  have hu' : (s.plain config).unnoticed = k :: rest := hu
  rcases hf : s.finish? k with _ | how
  · have hf' : (s.plain config).finish? k = none := by simp [finish?_plain, hf]
    rw [collect_of_none now hu' hf', collect_of_none now hu hf]
    rfl
  · have hf' : (s.plain config).finish? k = some how.plain := by
      simp [finish?_plain, hf]
    have hmodify := map_modify_plain config.attemptLimit
      (fun a => { a with notice := some (s.noticeOf k how) })
      (fun a => { a with notice := some (s.noticeOf k how) }) s.attempts (fun _ => rfl) k
    rw [collect_eq now hu' hf', collect_eq now hu hf, noticeOf_plain]
    simp only [plain, Finish.reason?_plain, hmodify]

/-- **Whatever happens,** it makes no difference whether it is told plainly before or after. -/
theorem act_plain (action : Action) :
    (s.plain config).act config.unlimited now action = (s.act config now action).plain config := by
  cases action with
  | deadline => exact passDeadline_plain config s
  | collect => exact collect_plain config now s
  | start => exact startNext_plain config now s
  | finish => exact finishDue_plain config now s

/-! ### Runs -/

theorem ended_plain : (s.plain config).ended = s.ended := by
  simp [ended, allNoticed, plain, List.all_map, Function.comp_def, Attempt.plain]

theorem work_plain : (s.plain config).work = s.work := by
  simp only [work, plain, List.length_map, List.countP_map, Function.comp_def,
    Attempt.running_plain]
  rfl

theorem runFor_plain : ∀ (fuel : Nat) (now : Instant) (s : State),
    (s.plain config).runFor config.unlimited fuel now =
      ((s.runFor config fuel now).1, (s.runFor config fuel now).2.plain config)
  | 0, _, _ => rfl
  | fuel + 1, now, s => by
    rw [runFor, runFor, ended_plain, next?_plain]
    split
    · rfl
    · rcases s.next? config now with _ | ⟨later, action⟩
      · rfl
      · dsimp only
        rw [act_plain, runFor_plain fuel later]

theorem run_plain : (s.plain config).run config.unlimited =
    ((s.run config).1, (s.run config).2.plain config) := by
  rw [run, work_plain, runFor_plain]
  rfl

/-! ### Results -/

theorem outcomes_plain (n : Nat) (filler : Outcome) :
    (s.plain config).outcomes n filler = s.outcomes n filler := by
  have h := notice?_plain config s
  simp only [notice?] at h
  simp only [outcomes, h]

theorem winner?_plain : (s.plain config).winner? = s.winner? := by
  simp [winner?, plain, List.findIdx?_map, Function.comp_def, Attempt.plain]

theorem sessionAddress_plain (k : Nat) :
    (s.plain config).sessionAddress k = s.sessionAddress k := by
  have h := finish?_plain config s k
  simp only [finish?] at h
  rw [sessionAddress, sessionAddress, h]
  rcases s.attempts[k]?.bind (·.finish) with _ | (_ | _ | _) | _ | _ <;> rfl

end State

theorem conclude_plain (config : Config) (candidates : List Candidate) (s : State) :
    conclude candidates (s.plain config) = conclude candidates s := by
  have hlength : (s.plain config).attempts.length = s.attempts.length := List.length_map _
  have hverdict : (s.plain config).verdict = s.verdict := rfl
  simp only [conclude, State.winner?_plain, State.sessionAddress_plain, State.outcomes_plain,
    hlength, hverdict]

/-- **Two races of which the same is known:** what they came to and when, and which candidates were
attempted when. -/
structure Result.SameAs (r r' : Result) : Prop where
  outcome : r.outcome = r'.outcome
  elapsed : r.elapsed = r'.elapsed
  starts : r.attempts.map (fun p => (p.1, p.2.start)) = r'.attempts.map fun p => (p.1, p.2.start)

namespace Result.SameAs

theorem symm {r r' : Result} (h : r.SameAs r') : r'.SameAs r :=
  ⟨h.outcome.symm, h.elapsed.symm, h.starts.symm⟩

theorem trans {r r' r'' : Result} (h : r.SameAs r') (h' : r'.SameAs r'') : r.SameAs r'' :=
  ⟨h.outcome.trans h'.outcome, h.elapsed.trans h'.elapsed, h.starts.trans h'.starts⟩

end Result.SameAs

/-- Candidates for which no behaviour is given are refused, however the others are told. -/
theorem behaviours_map (candidates : List Candidate) (given : List Behaviour)
    {f : Behaviour → Behaviour} (hf : f refusal = refusal) :
    behaviours candidates (given.map f) = (behaviours candidates given).map f := by
  simp only [behaviours, List.map_map, List.getElem?_map]
  refine List.map_congr_left fun k _ => ?_
  simp only [Function.comp_apply]
  rcases given[k]? with _ | b
  · exact hf.symm
  · rfl

theorem plain_refusal (limit : Option Nat) : refusal.plain limit = refusal := by
  cases limit <;> rfl

/-- **A race told plainly** is the same race. -/
theorem race_plain (config : Config) (candidates : List Candidate) (given : List Behaviour) :
    (race config.unlimited candidates (given.map (·.plain config.attemptLimit))).SameAs
      (race config candidates given) := by
  unfold race
  split_ifs with hempty
  · exact ⟨rfl, rfl, rfl⟩
  · rw [behaviours_map candidates given (plain_refusal config.attemptLimit)]
    have hrun := State.run_plain config { waiting := behaviours candidates given }
    simp only [State.plain, List.map_nil] at hrun
    rw [hrun]
    refine ⟨conclude_plain config candidates _, rfl, ?_⟩
    simp [List.zip_map_right, Function.comp_def, Attempt.plain]

/-- **Time limits and breakdowns are failures.** A race in which attempts have a time limit is the
same as one in which they have none, but those that are not over by then fail at that instant; and
it makes no difference whether an attempt breaks down or fails at that instant with a reason. -/
theorem failures_alike (config : Config) (limit : Nat) (candidates : List Candidate)
    (given : List Behaviour) :
    (race { config with attemptLimit := some limit } candidates given).SameAs
        (race { config with attemptLimit := none } candidates (given.map (·.cutOff limit))) ∧
      (race config candidates given).SameAs
        (race config candidates (given.map Behaviour.reported)) := by
  constructor
  · have hlimited := race_plain { config with attemptLimit := some limit } candidates given
    have hcut := race_plain { config with attemptLimit := none } candidates
      (given.map (·.cutOff limit))
    simp only [List.map_map, Function.comp_def, Behaviour.plain_cutOff] at hcut
    exact hlimited.symm.trans hcut
  · have hreported := race_plain config candidates (given.map Behaviour.reported)
    simp only [List.map_map, Function.comp_def, Behaviour.plain_reported] at hreported
    exact (race_plain config candidates given).symm.trans hreported

end Dialer.Race
