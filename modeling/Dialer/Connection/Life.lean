import Dialer.Text.Utf8

/-!
# The life of a connection

A `Life` records how far a connection has come: its `Phase`, whether the peer has closed its
side, and whether a local close has begun. Every operation on a connection asks it for admission
first, and what the operation finds out is entered here. No transition leads out of `closed`, and
none leads back (`Phase.rank`).
-/

namespace Dialer

/-- How far a connection has come. -/
inductive Phase
  | establishing
  | established
  /-- The peer has closed its side, or a local close is under way. -/
  | closing
  | failed
  | closed
deriving DecidableEq, Repr

namespace Phase

/-- The name of a phase. -/
def name : Phase → String
  | establishing => "Establishing"
  | established => "Established"
  | closing => "Closing"
  | failed => "Failed"
  | closed => "Closed"

/-- Whether no data can be carried any more. -/
def terminal : Phase → Bool
  | closed | failed => true
  | _ => false

/-- The place of a phase in the life of a connection. -/
def rank : Phase → Nat
  | establishing => 0
  | established => 1
  | closing => 2
  | failed => 3
  | closed => 4

end Phase

/-- Why a call on a connection failed. -/
inductive CallError
  | notEstablished
  | closed
  | sendFailed (text : String)
  | receiveFailed (text : String)
  /-- There was no room to receive anything into. -/
  | emptyBuffer
  | alreadyClosed
deriving DecidableEq, Repr

/-- The text of an error. -/
def CallError.message : CallError → String
  | notEstablished => "Connection is not established"
  | closed => "Connection is closed"
  | sendFailed text => "Send failed: " ++ text
  | receiveFailed text => "Receive failed: " ++ text
  | emptyBuffer => "Receive buffer capacity must be non-zero"
  | alreadyClosed => "Connection is already closed"

/-- What a call on a connection comes to. -/
inductive Reply
  /-- A send or close is done. -/
  | done
  | received (data : Bytes)
  | refused (error : CallError)
deriving DecidableEq, Repr

/-- The life of a connection so far. -/
structure Life where
  phase : Phase := .establishing
  /-- The peer was seen to have closed its side. -/
  remoteClosed : Bool := false
  /-- A close or abort has begun. -/
  closingLocally : Bool := false
deriving DecidableEq, Repr

namespace Life

/-- A connection that has just been established. -/
def established : Life := { phase := .established }

/-- The reply to a send that may not begin. -/
def refuseSend? (l : Life) : Option Reply :=
  match l.phase with
  | .established => none
  | .establishing => some (.refused .notEstablished)
  | .closing | .closed | .failed => some (.refused .closed)

/-- The reply to a receive that may not begin. Once the peer has closed its side there is nothing
more to receive, and until the connection is closed here too this is no error. -/
def refuseReceive? (l : Life) (max : Nat) : Option Reply :=
  if max = 0 then some (.refused .emptyBuffer)
  else
    match l.phase with
    | .established => none
    | .establishing => some (.refused .notEstablished)
    | .closing =>
      if l.remoteClosed && !l.closingLocally then some (.received [])
      else some (.refused .closed)
    | .closed | .failed => some (.refused .closed)

/-- Begin to close, if no one has yet. Also says whether the session is to be shut down in good
order. -/
def beginClose? (l : Life) : Option (Bool × Life) :=
  if l.phase = .closed || l.closingLocally then none
  else
    match l.phase with
    | .failed | .closed => some (false, { l with closingLocally := true })
    | .establishing => some (false, { l with closingLocally := true, phase := .closing })
    | .established | .closing => some (true, { l with closingLocally := true, phase := .closing })

/-- Enter that the peer has closed its side. -/
def endOfStream (l : Life) : Life :=
  { l with
    remoteClosed := true
    phase := if l.phase = .established then .closing else l.phase }

/-- Enter a failure of input or output. -/
def fail (l : Life) : Life :=
  if l.phase.terminal then l else { l with phase := .failed }

/-- Enter that the connection is closed. -/
def finish (l : Life) : Life := { l with phase := .closed }

/-- Enter an abort. -/
def abort (l : Life) : Life := { l with phase := .closed, closingLocally := true }

theorem rank_le_endOfStream (l : Life) : l.phase.rank ≤ l.endOfStream.phase.rank := by
  unfold endOfStream; split <;> simp_all [Phase.rank]

theorem rank_le_fail (l : Life) : l.phase.rank ≤ l.fail.phase.rank := by
  unfold fail; cases h : l.phase <;> simp [Phase.terminal, Phase.rank, h]

theorem rank_le_finish (l : Life) : l.phase.rank ≤ l.finish.phase.rank := by
  cases h : l.phase <;> simp [finish, Phase.rank]

end Life

end Dialer
