import Dialer.Address.Socket
import Dialer.Failure

/-!
# Races between attempts

Candidates are attempted in order. The first starts at once, each later one a while after the last
start, or as soon as a running attempt has failed; the first attempt to connect wins. This module
holds the state of a race and the four things that can happen to it, without regard to when:

* `State.startNext`: the next candidate is attempted;
* `State.finish`: an attempt comes to its end. If it connects and nothing is decided yet it wins;
* `State.passDeadline`: the time limit is reached. If nothing is decided yet the race is lost;
* `State.collect`: the race takes notice of an attempt that has come to its end.

An attempt may have won for some time before the race takes notice of it, so the verdict is part of
the state from the moment it falls.
-/

namespace Dialer.Race

/-- Milliseconds since the race began. -/
abbrev Instant := Nat

/-- The timing of a race, in milliseconds. -/
structure Config where
  /-- How long to wait after a start before the next one. -/
  stagger : Nat := 250
  /-- The time limit of the whole race. -/
  deadline : Nat := 10000
  /-- The time limit of one attempt. -/
  attemptLimit : Option Nat := none
deriving DecidableEq, Repr

/-- How the work on one attempt ends if it is left to itself. -/
inductive Ending
  /-- A session is established; its local address may be known. -/
  | connects (localAddress : Option SocketAddress)
  | fails (reason : AttemptFailure)
  /-- The work breaks down without a reason. -/
  | collapses
deriving DecidableEq

/-- **What becomes of an attempt that is left to itself.** -/
inductive Behaviour
  /-- It ends a given time after its start. -/
  | ends (after : Nat) (ending : Ending)
  /-- It never ends. -/
  | hangs
  /-- It breaks down before there is any work to wait for. -/
  | breaksDown
deriving DecidableEq

/-- How an attempt came to its end in a race. -/
inductive Finish
  /-- As it would have by itself. -/
  | ownEnding (ending : Ending)
  /-- Its time limit was reached. -/
  | expired
  /-- It broke down before its work began, and so without a word. -/
  | brokeOff
deriving DecidableEq

/-- Whether the attempt came to a session. -/
def Finish.connected : Finish → Bool
  | ownEnding (.connects _) => true
  | _ => false

/-- Why the attempt failed; one that came to a session did not, and one that broke off does not say
so. -/
def Finish.reason? : Finish → Option AttemptFailure
  | ownEnding (.connects _) => none
  | ownEnding (.fails reason) => some reason
  | ownEnding .collapses => some (.io "connector panicked")
  | expired => some .timedOut
  | brokeOff => none

/-- The final outcome of one candidate. -/
inductive Outcome
  | won
  | failed (reason : AttemptFailure)
  /-- Aborted, too late, or never started. -/
  | cancelled
deriving DecidableEq

/-- What a race notices of an attempt that has come to its end. -/
inductive Notice
  | won
  | failed (reason : AttemptFailure)
  /-- It came to a session too late. -/
  | cancelled
  /-- That it is gone, and no more. -/
  | vanished
deriving DecidableEq

/-- An attempt that was started. -/
structure Attempt where
  start : Instant
  behaviour : Behaviour
  /-- How it came to its end, if it has. -/
  finish : Option Finish := none
  /-- What the race has noticed of it. -/
  notice : Option Notice := none
deriving DecidableEq

namespace Attempt

/-- Whether the attempt is still at work. -/
def running (a : Attempt) : Bool := a.finish.isNone

/-- **When and how an attempt ends** under a time limit; what ends exactly at the limit is still in
time. The limit is for work that has begun. -/
def ending? (limit : Option Nat) (a : Attempt) : Option (Instant × Finish) :=
  match a.behaviour, limit with
  | .breaksDown, _ => some (a.start, .brokeOff)
  | .hangs, none => none
  | .hangs, some t => some (a.start + t, .expired)
  | .ends after ending, none => some (a.start + after, .ownEnding ending)
  | .ends after ending, some t =>
    if after ≤ t then some (a.start + after, .ownEnding ending) else some (a.start + t, .expired)

end Attempt

/-- Whether and how a race is decided. -/
inductive Verdict
  | open
  | wonBy (attempt : Nat)
  | outOfTime
deriving DecidableEq, Repr

/-- **The state of a race.** -/
structure State where
  /-- The attempts that were started; the attempt for candidate `k` has place `k`. -/
  attempts : List Attempt := []
  /-- What the candidates not started would do. -/
  waiting : List Behaviour
  /-- The attempts that have ended without the race's notice, in the order they did. -/
  unnoticed : List Nat := []
  verdict : Verdict := .open
  deadlinePassed : Bool := false
  /-- When the next candidate is due. -/
  staggerAt : Instant := 0
  /-- Whether the race goes on. -/
  live : Bool := true
deriving DecidableEq

namespace State

/-- Start the next candidate. -/
def startNext (config : Config) (now : Instant) (s : State) : State :=
  match s.waiting with
  | [] => s
  | behaviour :: rest =>
    { s with
      attempts := s.attempts ++ [{ start := now, behaviour }]
      waiting := rest
      staggerAt := now + config.stagger }

/-- Let attempt `k` end. The first to come to a session decides the race. -/
def finish (k : Nat) (how : Finish) (s : State) : State :=
  { s with
    attempts := s.attempts.modify k fun a => { a with finish := some how }
    unnoticed := s.unnoticed ++ [k]
    verdict := if how.connected && s.verdict = .open then .wonBy k else s.verdict }

/-- Reach the time limit. A race that is decided goes on until its winner is noticed. -/
def passDeadline (s : State) : State :=
  if s.verdict = .open then { s with deadlinePassed := true, verdict := .outOfTime, live := false }
  else { s with deadlinePassed := true }

/-- What is noticed of attempt `k`, which ended in a given way. -/
def noticeOf (s : State) (k : Nat) (how : Finish) : Notice :=
  match how.reason? with
  | some reason => .failed reason
  | none =>
    if !how.connected then .vanished
    else if s.verdict = .wonBy k then .won
    else .cancelled

/-- Take notice of the attempt that ended first. A failure with a reason makes the next candidate
due at once, and the winner ends the race. -/
def collect (now : Instant) (s : State) : State :=
  match s.unnoticed with
  | [] => s
  | k :: rest =>
    match s.attempts[k]?.bind (·.finish) with
    | none => { s with unnoticed := rest }
    | some how =>
      let notice := s.noticeOf k how
      { s with
        attempts := s.attempts.modify k fun a => { a with notice := some notice }
        unnoticed := rest
        staggerAt := if how.reason?.isSome then now else s.staggerAt
        live := notice != .won }

/-- Whether every attempt started has been taken notice of. -/
def allNoticed (s : State) : Bool := s.attempts.all (·.notice.isSome)

/-- Whether nothing more can happen. -/
def ended (s : State) : Bool :=
  !s.live || (s.allNoticed && (s.waiting.isEmpty || s.deadlinePassed))

end State

end Dialer.Race
