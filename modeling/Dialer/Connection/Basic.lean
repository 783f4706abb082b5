import Dialer.Connection.Life
import Dialer.Connection.Socket
import Dialer.Connection.Wire

/-!
# Connections

Sends, receives and closes on a connection may have to wait: for room or data, for an earlier call
of their kind, or for a shutdown. Each such call is a `Call` with an identity and a `Stage`. Calls
that use the writing half of the session stand in the queue `writers`, and whoever stands first
holds that half or may take it; likewise `readers`. A close or abort raises a signal that wakes
every waiting send and receive, and they then end with `CallError.closed`. The session is gone when
both halves are. All this is the same for byte streams and datagrams, which differ as `Carrier`s.

* `Connection.issue`: make a call. It is refused at once, or it is admitted, stands in its queue and
  gets an identity, which is one step.
* `Connection.poll`: let a call go on until it has to wait, or has taken its half.
* `Connection.cancel`: give a call up.
* `Connection.abort`: drop the session without shutting it down.
* `Connection.settle`: let all calls go on until each is done or has to wait.
-/

namespace Dialer

/-- A call that can be made on a connection. -/
inductive Request
  | send (data : Bytes)
  | receive (max : Nat)
  | close
deriving DecidableEq, Repr

/-- How far a call has come. -/
inductive Stage
  /-- Waits for the writing half. -/
  | sendQueued (data : Bytes)
  /-- Has taken the writing half and not tried to write yet. -/
  | sendHolding (data : Bytes)
  /-- Holds the writing half and has bytes left to write, or to flush. -/
  | sending (rest : Bytes)
  /-- Waits for the reading half. -/
  | receiveQueued (max : Nat)
  /-- Has taken the reading half and not tried to read yet. -/
  | receiveHolding (max : Nat)
  /-- Holds the reading half and waits for data. -/
  | receiving (max : Nat)
  /-- Waits for the writing half, to shut it down if the close is in good order. -/
  | closeQueued (graceful : Bool)
  /-- Holds the writing half and waits for the shutdown to end. -/
  | shuttingDown
  /-- Waits for the reading half. -/
  | closingReader
  | replied (reply : Reply)
deriving DecidableEq, Repr

/-- A call that has been admitted. -/
structure Call where
  id : Nat
  stage : Stage
deriving DecidableEq, Repr

/-- A bound on how often a call can go on: once for each byte it has left to write, and a few times
for its stages. -/
def Call.work (call : Call) : Nat :=
  match call.stage with
  | .replied _ => 0
  | .sending rest => rest.length + 1
  | .sendHolding data => data.length + 2
  | .sendQueued data => data.length + 3
  | .receiving _ => 1
  | .receiveHolding _ => 2
  | .receiveQueued _ => 3
  | .closingReader => 1
  | .shuttingDown => 2
  | .closeQueued _ => 3

/-- **A connection** over a carrier. -/
structure Connection (W : Type) where
  life : Life := .established
  wire : W
  /-- The halves of the session that have not been dropped. -/
  hasWriter : Bool := true
  hasReader : Bool := true
  /-- A close or abort wants waiting calls to end. -/
  signalled : Bool := false
  /-- The calls that hold the writing half, or wait for it, in their order. -/
  writers : List Nat := []
  /-- The same for the reading half. -/
  readers : List Nat := []
  calls : List Call := []
  nextId : Nat := 0
deriving DecidableEq, Repr

/-- What a call that is signalled to end looks at first: its half or transfer, or the signal. -/
inductive Branch
  | transfer
  | signal
deriving DecidableEq, Repr

/-- A connection over a byte stream. -/
abbrev StreamConnection := Connection Wire

/-- A connection over datagrams. -/
abbrev DatagramConnection := Connection Socket

/-- A stream connection that has just been established, over a wire of the given capacity. -/
def StreamConnection.ofCapacity (capacity : Nat) : StreamConnection :=
  { wire := .ofCapacity capacity }

namespace Connection

variable {W : Type}

/-- Whether the session has been dropped. -/
def released (c : Connection W) : Bool := !c.hasWriter && !c.hasReader

/-- Let go of the session if no half is left. -/
def settleSession [Carrier W] (c : Connection W) : Connection W :=
  if c.released then { c with wire := Carrier.release c.wire } else c

/-- Drop the writing half. -/
def dropWriter [Carrier W] (c : Connection W) : Connection W :=
  { c with hasWriter := false }.settleSession

/-- Drop the reading half. -/
def dropReader [Carrier W] (c : Connection W) : Connection W :=
  { c with hasReader := false }.settleSession

/-- How far a call has come. -/
def stage? (c : Connection W) (id : Nat) : Option Stage :=
  (c.calls.find? (·.id == id)).map (·.stage)

/-- Enter how far a call has come. -/
def setStage (c : Connection W) (id : Nat) (stage : Stage) : Connection W :=
  { c with calls := c.calls.map fun call => if call.id = id then { call with stage } else call }

/-- Leave the queues. -/
def leave (c : Connection W) (id : Nat) : Connection W :=
  { c with writers := c.writers.filter (· != id), readers := c.readers.filter (· != id) }

/-- End a call with a reply. -/
def reply (c : Connection W) (id : Nat) (r : Reply) : Connection W :=
  (c.leave id).setStage id (.replied r)

/-- Whether a call holds the writing half. -/
def holdsWriter (c : Connection W) (id : Nat) : Bool := c.writers.head? == some id

/-- Whether a call holds the reading half. -/
def holdsReader (c : Connection W) (id : Nat) : Bool := c.readers.head? == some id

/-! ### Making calls -/

/-- Enter a new call at a stage. -/
def enter (c : Connection W) (stage : Stage) : Connection W :=
  { c with calls := c.calls ++ [⟨c.nextId, stage⟩], nextId := c.nextId + 1 }

/-- **Make a call.** Returns its identity; a call that is refused has its reply already. -/
def issue (c : Connection W) (request : Request) : Nat × Connection W :=
  let id := c.nextId
  match request with
  | .send data =>
    match c.life.refuseSend? with
    | some r => (id, c.enter (.replied r))
    | none => (id, { c.enter (.sendQueued data) with writers := c.writers ++ [id] })
  | .receive max =>
    match c.life.refuseReceive? max with
    | some r => (id, c.enter (.replied r))
    | none => (id, { c.enter (.receiveQueued max) with readers := c.readers ++ [id] })
  | .close =>
    match c.life.beginClose? with
    | none => (id, c.enter (.replied (.refused .alreadyClosed)))
    | some (graceful, life) =>
      (id, { c.enter (.closeQueued graceful) with
        life, signalled := true, writers := c.writers ++ [id] })

/-! ### Going on -/

section

variable [Carrier W]

/-- End a send that heeds the signal while it holds the writing half, which it drops. -/
def stopSend (c : Connection W) (id : Nat) : Connection W :=
  c.dropWriter.reply id (.refused .closed)

/-- End a receive that heeds the signal while it holds the reading half, which it drops. -/
def stopReceive (c : Connection W) (id : Nat) : Connection W :=
  c.dropReader.reply id (.refused .closed)

/-- Write what a send has left; it holds the writing half. A send that has to wait heeds the
signal. -/
def pollWrite (c : Connection W) (id : Nat) (rest : Bytes) : Connection W :=
  let (result, wire) := Carrier.write c.wire rest
  let c := { c with wire }
  match result with
  | .done => c.reply id .done
  | .blocked rest => if c.signalled then c.stopSend id else c.setStage id (.sending rest)
  | .failed f => { c with life := c.life.fail }.reply id (.refused (.sendFailed f.message))

/-- Read for a receive; it holds the reading half. A receive that has to wait heeds the signal. -/
def pollRead (c : Connection W) (id max : Nat) : Connection W :=
  let (result, wire) := Carrier.read c.wire max
  let c := { c with wire }
  match result with
  | .data bytes =>
    let ends := Carrier.endsEmpty W && bytes.isEmpty
    let life := if ends then c.life.endOfStream else c.life
    { c with life }.reply id (.received bytes)
  | .blocked => if c.signalled then c.stopReceive id else c.setStage id (.receiving max)
  | .failed f => { c with life := c.life.fail }.reply id (.refused (.receiveFailed f.message))

/-- Go on with a close that is done with the writing half. -/
def closeWriter (c : Connection W) (id : Nat) : Connection W :=
  let c := (c.leave id).dropWriter
  { c with readers := c.readers ++ [id] }.setStage id .closingReader

/-- Shut the writing half down for a close that holds it. -/
def pollShutdown (c : Connection W) (id : Nat) : Connection W :=
  let (ended, wire) := Carrier.shutdown c.wire
  let c := { c with wire }
  if ended then c.closeWriter id else c.setStage id .shuttingDown

/-- **Let a call go on** until it has to wait, or has taken its half. Where a send or receive is
signalled, the branch says whether it looks at the signal first or at its half and then at its
transfer. One that heeds the signal while it holds its half drops it. -/
def poll (branch : Branch) (id : Nat) (c : Connection W) : Connection W :=
  match c.stage? id with
  | none | some (.replied _) => c
  | some (.sendQueued data) =>
    if c.signalled && (branch = .signal || !c.holdsWriter id) then c.reply id (.refused .closed)
    else if !c.holdsWriter id then c
    else if !c.hasWriter then c.reply id (.refused .closed)
    else c.setStage id (.sendHolding data)
  | some (.sendHolding data) =>
    if c.signalled && branch = .signal then c.stopSend id else c.pollWrite id data
  | some (.sending rest) =>
    if c.signalled && (branch = .signal || !Carrier.writable c.wire rest) then c.stopSend id
    else if !Carrier.writable c.wire rest then c
    else c.pollWrite id rest
  | some (.receiveQueued max) =>
    if c.signalled && (branch = .signal || !c.holdsReader id) then c.reply id (.refused .closed)
    else if !c.holdsReader id then c
    else if !c.hasReader then c.reply id (.refused .closed)
    else c.setStage id (.receiveHolding max)
  | some (.receiveHolding max) =>
    if c.signalled && branch = .signal then c.stopReceive id else c.pollRead id max
  | some (.receiving max) =>
    if c.signalled && (branch = .signal || !Carrier.readable c.wire) then c.stopReceive id
    else if !Carrier.readable c.wire then c
    else c.pollRead id max
  | some (.closeQueued graceful) =>
    if !c.holdsWriter id then c
    else if graceful && c.hasWriter then c.pollShutdown id
    else c.closeWriter id
  | some .shuttingDown => if Carrier.shutdownHangs c.wire then c else c.pollShutdown id
  | some .closingReader =>
    if !c.holdsReader id then c
    else
      let c := c.dropReader
      { c with life := c.life.finish }.reply id .done

/-- Whether a call can go on. -/
def ready (c : Connection W) (call : Call) : Bool :=
  match call.stage with
  | .replied _ => false
  | .sendQueued _ => c.signalled || c.holdsWriter call.id
  | .sendHolding _ | .receiveHolding _ => true
  | .sending rest => c.signalled || Carrier.writable c.wire rest
  | .receiveQueued _ => c.signalled || c.holdsReader call.id
  | .receiving _ => c.signalled || Carrier.readable c.wire
  | .closeQueued _ => c.holdsWriter call.id
  | .shuttingDown => !Carrier.shutdownHangs c.wire
  | .closingReader => c.holdsReader call.id

/-- The first call that can go on. -/
def nextReady? (c : Connection W) : Option Nat := (c.calls.find? c.ready).map (·.id)

/-- A bound on how often calls can go on. -/
def work (c : Connection W) : Nat :=
  c.calls.foldr (fun call total => call.work + total) 0

/-- Let calls that can go on do so, at most `fuel` times; they heed the signal first. -/
def settleFor : (fuel : Nat) → Connection W → Connection W
  | 0, c => c
  | fuel + 1, c =>
    match c.nextReady? with
    | none => c
    | some id => settleFor fuel (c.poll .signal id)

/-- **Let all calls go on until each is done or has to wait.** -/
def settle (c : Connection W) : Connection W := c.settleFor c.work

end

/-! ### Ending calls and connections -/

/-- Give a call up. What it holds or waits for goes to the next in the queue. -/
def cancel (c : Connection W) (id : Nat) : Connection W :=
  let c := c.leave id
  { c with calls := c.calls.filter (·.id != id) }

/-- The reply to a call, if it has one. -/
def reply? (c : Connection W) (id : Nat) : Option Reply :=
  match c.stage? id with
  | some (.replied r) => some r
  | _ => none

/-- **Drop the session without shutting it down.** Halves that a call holds are dropped when it
wakes. -/
def abort [Carrier W] (c : Connection W) : Connection W :=
  if c.life.phase = .closed then c
  else
    let c := { c with life := c.life.abort, signalled := true }
    let c := if c.writers.isEmpty then c.dropWriter else c
    if c.readers.isEmpty then c.dropReader else c

end Connection

end Dialer
