import Dialer.Connection.Basic

/-!
# Connection scenarios

A scenario is a sequence of operations on a connection and on its peer. After each operation
everything that can go on does so; a call in the foreground that still has to wait then is given up
(`Connection.foreground`). On a byte stream, calls may also stay in the background until they are
joined (`ConnectionScenario`); over datagrams all calls are in the foreground (`DatagramScenario`).
-/

namespace Dialer

/-- Make a call in the foreground. Returns what it comes to; if it has to wait it is given up. -/
def Connection.foreground {W : Type} [Carrier W] (c : Connection W) (request : Request) :
    Option Reply × Connection W :=
  let (id, c) := c.issue request
  let c := c.settle
  (c.reply? id, (c.cancel id).settle)

namespace ConnectionScenario

/-- One operation. -/
inductive Operation
  /-- A call in the foreground. -/
  | call (request : Request)
  | abort
  /-- Look at the connection. -/
  | info
  /-- A call in the background, under a name. -/
  | spawn (name : String) (request : Request)
  | join (name : String)
  | cancel (name : String)
  | peerWrite (data : Bytes)
  | peerRead (max : Nat)
  /-- The peer writes nothing more. -/
  | peerShutdown
  /-- The peer goes away. -/
  | peerDrop
  | plant (call : WireCall) (failure : IoFailure)
  | hangShutdown (value : Bool)
deriving DecidableEq, Repr

/-- What an operation comes to. -/
inductive Answer
  | reply (r : Reply)
  | done
  | info (phase : Phase)
  | data (bytes : Bytes)
  | pending
  | spawned
  | noTask
  | noPeer
  | brokenPipe
deriving DecidableEq, Repr

/-- A connection with its peer and the calls in the background. -/
structure State where
  connection : StreamConnection
  peerPresent : Bool := true
  /-- The names of calls in the background; the first entry of a name counts. -/
  tasks : List (String × Nat) := []
deriving DecidableEq, Repr

/-- What can be seen after an operation. -/
structure Step where
  answer : Answer
  phase : Phase
  shutdownAsked : Bool
  released : Bool
deriving DecidableEq, Repr

namespace State

/-- Let everything go on that can. -/
def settle (s : State) : State := { s with connection := s.connection.settle }

/-- Change what lies between the connection and its peer. -/
def onWire (s : State) (f : Wire → Wire) : State :=
  { s with connection := { s.connection with wire := f s.connection.wire } }

/-- The result of a call in the foreground. -/
def foreground (s : State) (request : Request) : Answer × State :=
  let (reply?, connection) := s.connection.foreground request
  ((reply?.map .reply).getD .pending, { s with connection })

/-- The result of a call in the background, which is forgotten with it; or the call goes on. -/
def join (s : State) (name : String) : Answer × State :=
  match s.tasks.lookup name with
  | none => (.noTask, s)
  | some id =>
    match s.connection.reply? id with
    | none => (.pending, s)
    | some r =>
      (.reply r,
        { s with
          connection := s.connection.cancel id
          tasks := s.tasks.filter (·.1 != name) })

/-- Give a call in the background up. -/
def cancel (s : State) (name : String) : Answer × State :=
  match s.tasks.lookup name with
  | none => (.noTask, s)
  | some id =>
    (.done,
      { s with
        connection := s.connection.cancel id
        tasks := s.tasks.filter (·.1 != name) }.settle)

/-- Let the peer write, part by part as the connection makes room; each part has a byte at least. -/
def peerWriteFor : (fuel : Nat) → Bytes → State → Answer × State
  | 0, _, s => (.pending, s)
  | fuel + 1, data, s =>
    if data.isEmpty then (.done, s)
    else if s.connection.wire.incoming.closed then (.brokenPipe, s)
    else if s.connection.wire.incoming.room = 0 then (.pending, s)
    else
      let (rest, incoming) := s.connection.wire.incoming.put data
      peerWriteFor fuel rest (s.onWire fun w => { w with incoming }).settle

/-- Let the peer read once. It need not wait to read nothing. -/
def peerRead (s : State) (max : Nat) : Answer × State :=
  if max = 0 then (.data [], s)
  else
    match s.connection.wire.outgoing.take? max with
    | none => (.pending, s)
    | some (bytes, outgoing) => (.data bytes, (s.onWire fun w => { w with outgoing }).settle)

/-- Let the peer close both directions. -/
def peerDrop (s : State) : State :=
  { s.onWire fun w => { w with
      incoming := w.incoming.close
      outgoing := { w.outgoing.close with held := [] } } with peerPresent := false }.settle

/-- An operation of the peer, if it is still there. -/
def ofPeer (s : State) (operation : State → Answer × State) : Answer × State :=
  if s.peerPresent then operation s else (.noPeer, s)

/-- **Carry out one operation.** -/
def perform (s : State) : Operation → Answer × State
  | .call request => s.foreground request
  | .abort => (.done, { s with connection := s.connection.abort }.settle)
  | .info => (.info s.connection.life.phase, s)
  | .spawn name request =>
    let (id, connection) := s.connection.issue request
    (.spawned,
      { s with connection, tasks := (name, id) :: s.tasks.filter (·.1 != name) }.settle)
  | .join name => s.join name
  | .cancel name => s.cancel name
  | .peerWrite data => s.ofPeer fun s => s.peerWriteFor (data.length + 1) data
  | .peerRead max => s.ofPeer fun s => s.peerRead max
  | .peerShutdown =>
    s.ofPeer fun s => (.done, (s.onWire fun w => { w with incoming := w.incoming.close }).settle)
  | .peerDrop => s.ofPeer fun s => (.done, s.peerDrop)
  | .plant call failure => (.done, s.onWire fun w => w.plant call failure)
  | .hangShutdown value =>
    (.done, (s.onWire fun w => { w with shutdownHangs := value }).settle)

/-- What can be seen of the connection. -/
def observe (s : State) (answer : Answer) : Step where
  answer := answer
  phase := s.connection.life.phase
  shutdownAsked := s.connection.wire.shutdownAsked
  released := s.connection.released

end State

/-- **Carry out operations in order.** Returns what could be seen after each, and the end. -/
def run (s : State) : List Operation → List Step × State
  | [] => ([], s)
  | operation :: rest =>
    let (answer, s) := s.perform operation
    let (steps, final) := run s rest
    (s.observe answer :: steps, final)

end ConnectionScenario

namespace DatagramScenario

/-- One operation. -/
inductive Operation
  | call (request : Request)
  | abort
  | peerRead
  | peerWrite (data : Bytes)
  | peerDrop
deriving DecidableEq, Repr

/-- What an operation comes to. -/
inductive Answer
  | reply (r : Reply)
  | done
  | data (bytes : Bytes)
  | pending
  | noPeer
deriving DecidableEq, Repr

/-- **Carry out one operation.** A peer that has not read yet knows nobody to write to. -/
def perform (c : DatagramConnection) : Operation → Answer × DatagramConnection
  | .call request =>
    let (reply?, c) := c.foreground request
    ((reply?.map .reply).getD .pending, c)
  | .abort => (.done, c.abort.settle)
  | .peerRead =>
    if !c.wire.peerPresent then (.noPeer, c)
    else
      match c.wire.peerRead? with
      | none => (.pending, c)
      | some (data, wire) => (.data data, { c with wire }.settle)
  | .peerWrite data =>
    if c.wire.peerPresent && c.wire.peerKnows then
      (.done, { c with wire := c.wire.peerWrite data }.settle)
    else (.noPeer, c)
  | .peerDrop =>
    if c.wire.peerPresent then (.done, { c with wire := c.wire.peerDrop }.settle)
    else (.noPeer, c)

/-- **Carry out operations in order.** Returns the answer and the phase after each, and the end. -/
def run (c : DatagramConnection) : List Operation → List (Answer × Phase) × DatagramConnection
  | [] => ([], c)
  | operation :: rest =>
    let (answer, c) := perform c operation
    let (steps, final) := run c rest
    ((answer, c.life.phase) :: steps, final)

end DatagramScenario

end Dialer
