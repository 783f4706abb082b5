import Dialer.Establishment.Failure
import Dialer.Race.Basic

/-!
# Running a race

Nothing takes time in a race but waiting. `State.next?` says what happens next and when: what is due
now is done before time moves on, in the order deadline, notice of ended attempts, start, end of
attempts; otherwise time moves to the next instant at which something is due. `State.work` bounds
how much can happen, so `race` always comes to a result.
-/

namespace Dialer.Race

/-- What can happen in a race. -/
inductive Action
  | deadline
  | collect
  | start
  /-- All attempts that are due come to their end, in the order they were started. -/
  | finish
deriving DecidableEq, Repr

/-- When and how a running attempt ends. -/
def Attempt.due? (config : Config) (a : Attempt) : Option (Instant × Finish) :=
  if a.running then a.ending? config.attemptLimit else none

/-- The earlier of two instants that may not come. -/
def earlier : Option Instant → Option Instant → Option Instant
  | some a, some b => some (min a b)
  | some a, none => some a
  | none, b => b

namespace State

/-- The next candidate is due at this instant, if there is one to come. -/
def startAt? (s : State) : Option Instant :=
  if s.waiting.isEmpty || s.deadlinePassed then none else some s.staggerAt

/-- The first end of a running attempt. -/
def finishAt? (config : Config) (s : State) : Option Instant :=
  s.attempts.foldr (fun a first => earlier ((a.due? config).map Prod.fst) first) none

/-- The instant of the deadline, if it is to come. -/
def deadlineAt? (config : Config) (s : State) : Option Instant :=
  if s.deadlinePassed then none else some config.deadline

/-- Whether something is due. -/
def dueBy (now : Instant) (at? : Option Instant) : Bool := at?.any (· ≤ now)

/-- What is done at an instant, if anything is due. -/
def dueAction? (config : Config) (now : Instant) (s : State) : Option Action :=
  if dueBy now (s.deadlineAt? config) then some .deadline
  else if !s.unnoticed.isEmpty then some .collect
  else if dueBy now s.startAt? then some .start
  else if dueBy now (s.finishAt? config) then some .finish
  else none

/-- **What happens next, and when.** -/
def next? (config : Config) (now : Instant) (s : State) : Option (Instant × Action) :=
  match s.dueAction? config now with
  | some action => some (now, action)
  | none =>
    match earlier (s.deadlineAt? config) (earlier s.startAt? (s.finishAt? config)) with
    | none => none
    | some later => (s.dueAction? config later).map fun action => (later, action)

/-- Let every attempt that is due come to its end. -/
def finishDue (config : Config) (now : Instant) (s : State) : State :=
  s.attempts.zipIdx.foldl
    (fun s (a, k) =>
      match a.due? config with
      | some (at', how) => if at' ≤ now then s.finish k how else s
      | none => s) s

/-- Do what happens at an instant. -/
def act (config : Config) (now : Instant) (s : State) : Action → State
  | .deadline => s.passDeadline
  | .collect => s.collect now
  | .start => s.startNext config now
  | .finish => s.finishDue config now

/-- **A bound on how much can still happen:** a start and an end and a notice for each candidate
that waits, an end and a notice for each attempt that runs, a notice for each that has ended, and
the deadline. -/
def work (s : State) : Nat :=
  3 * s.waiting.length + 2 * (s.attempts.countP (·.running)) + s.unnoticed.length +
    (if s.deadlinePassed then 0 else 1)

/-- Let at most `fuel` things happen. Returns the last instant and the state then. -/
def runFor (config : Config) : (fuel : Nat) → Instant → State → Instant × State
  | 0, now, s => (now, s)
  | fuel + 1, now, s =>
    if s.ended then (now, s)
    else
      match s.next? config now with
      | none => (now, s)
      | some (later, action) => runFor config fuel later (s.act config later action)

/-- Run a race to its end. -/
def run (config : Config) (s : State) : Instant × State := s.runFor config s.work 0

/-- Let at most `fuel` things happen, by a clock that has a last instant. When a candidate is started
the race works out when the next one is due, and breaks off if the clock does not go that far. -/
def runWithin (last : Instant) (config : Config) : (fuel : Nat) → Instant → State →
    Option (Instant × State)
  | 0, now, s => some (now, s)
  | fuel + 1, now, s =>
    if s.ended then some (now, s)
    else
      match s.next? config now with
      | none => some (now, s)
      | some (later, action) =>
        if action = .start && last < later + config.stagger then none
        else runWithin last config fuel later (s.act config later action)

end State

/-! ### Results -/

/-- What happened to every candidate of a race that was won. -/
structure Report where
  winner : Nat
  /-- How many attempts were started. -/
  started : Nat
  /-- One outcome for each candidate, in their order. -/
  outcomes : List Outcome
deriving DecidableEq

/-- The result of a race that was won. -/
structure Win where
  candidate : Candidate
  localAddress : Option SocketAddress
  report : Report
deriving DecidableEq

/-- What is known of a race when it is over. -/
structure Result where
  outcome : Except EstablishmentFailure Win
  /-- When it was over. -/
  elapsed : Instant
  /-- The attempts that were started, each with its candidate. -/
  attempts : List (Candidate × Attempt)

/-- The outcome of a candidate, by what was noticed of its attempt. One that vanished gets the filler,
as if nothing had been noticed. -/
def settle (filler : Outcome) : Option Notice → Outcome
  | none | some .vanished => filler
  | some .won => .won
  | some (.failed reason) => .failed reason
  | some .cancelled => .cancelled

namespace State

/-- The outcomes of all candidates. -/
def outcomes (s : State) (count : Nat) (filler : Outcome) : List Outcome :=
  (List.range count).map fun k => settle filler (s.attempts[k]?.bind (·.notice))

/-- The attempt that was noticed to have won. -/
def winner? (s : State) : Option Nat := s.attempts.findIdx? (·.notice == some .won)

/-- The local address of the session an attempt came to. -/
def sessionAddress (s : State) (k : Nat) : Option SocketAddress :=
  match s.attempts[k]?.bind (·.finish) with
  | some (.ownEnding (.connects address)) => address
  | _ => none

end State

/-- The reason a candidate of a lost race failed for. -/
def Outcome.failureReason : Outcome → AttemptFailure
  | failed reason => reason
  | won | cancelled => .cancelled

/-- What the end of a race means for its candidates. -/
def conclude (candidates : List Candidate) (s : State) : Except EstablishmentFailure Win :=
  match s.winner?.bind fun k => candidates[k]?.map fun c => (k, c) with
  | some (k, candidate) =>
    .ok
      { candidate
        localAddress := s.sessionAddress k
        report := ⟨k, s.attempts.length, s.outcomes candidates.length .cancelled⟩ }
  | none =>
    let filler := if s.verdict = .outOfTime then .failed .timedOut else .cancelled
    let reasons := (s.outcomes candidates.length filler).map (·.failureReason)
    .error (.allFailed (candidates.zipWith FailedCandidate.mk reasons))

/-- The behaviour of a candidate for which none is given: it is refused at once. -/
def refusal : Behaviour := .ends 0 (.fails .refused)

/-- The behaviours of candidates: those given, and refusals for the rest. -/
def behaviours (candidates : List Candidate) (given : List Behaviour) : List Behaviour :=
  (List.range candidates.length).map fun k => given[k]?.getD refusal

/-- **Race candidates** whose attempts behave as given. -/
def race (config : Config) (candidates : List Candidate) (given : List Behaviour) : Result :=
  if candidates.isEmpty then ⟨.error (.invalidParameters .noCandidates), 0, []⟩
  else
    let (elapsed, s) := State.run config { waiting := behaviours candidates given }
    ⟨conclude candidates s, elapsed, candidates.zip s.attempts⟩

/-- The last instant of a clock that counts `2 ^ 63` seconds. -/
def clockEnd : Instant := 9223372036854775807999

/-- **Race candidates by a clock that has a last instant.** There is no result if the race breaks
off. -/
def raceWithin (last : Instant) (config : Config) (candidates : List Candidate)
    (given : List Behaviour) : Option Result :=
  if candidates.isEmpty then some ⟨.error (.invalidParameters .noCandidates), 0, []⟩
  else
    let s : State := { waiting := behaviours candidates given }
    (s.runWithin last config s.work 0).map fun (elapsed, s) =>
      ⟨conclude candidates s, elapsed, candidates.zip s.attempts⟩

end Dialer.Race
