import Dialer.Connection.Scenario
import Dialer.Store.Call

/-!
# Call scenarios

A scenario is a sequence of calls to a store and of things that happen around it: the networks
of monitors change, and peers accept connections, read and write. Handles and arrays have names; a
scenario that uses the name of a handle it does not have makes no sense as a whole. A watch has a
listener that notes each change it is called with and may end its own watch in the first call.
Changes of a network that is watched are delivered at once.
-/

namespace Dialer.CallScenario

/-- How an operation refers to an object: by the name of its handle, or by the handle itself. -/
inductive Ref
  | name (n : String)
  | literal (h : Handle)
deriving DecidableEq, Repr

/-- How a handle is written in messages. -/
def Ref.spelling : Ref → String
  | name n => "<" ++ n ++ ">"
  | literal h => "0x" ++ Numeral.write 16 h.toNat

/-- A name that stands for no handle of a kind. -/
structure UnknownName where
  kind : HandleKind
  name : String
deriving DecidableEq, Repr

/-- What is said about an unknown name. -/
def UnknownName.message (u : UnknownName) : String :=
  "no " ++ u.kind.name ++ " handle '" ++ u.name ++ "'"

/-- One operation. -/
inductive Operation
  | version
  /-- A call without handles, and the name for the handle it returns. -/
  | call (call : Store.Call) (bind : Option String)
  /-- A call with one handle. -/
  | callOn (h : Ref) (call : Handle → Store.Call) (bind : Option String)
  | addRemote (preconnection endpoint : Ref)
  /-- Set the port of an endpoint to that of a listener. -/
  | setPortOf (h : Ref) (listener : String)
  /-- The last failure of a caller that has made no call. -/
  | errorElsewhere
  | enterMonitor (bind : String) (source : Source)
  | watch (h : Ref) (bind : Option String) (stopInside hasCallback : Bool)
  | list (h : Ref) (bind : Option String) (hasArray hasCount : Bool)
  /-- Free an array, with its own size unless one is given. -/
  | free (array : Option String) (count : Option Nat)
  /-- The status of the call by which a listener ended its watch. -/
  | stoppedInside (watcher : String)
  | subscribers (monitor : String)
  | failNext (monitor text : String)
  | edit (monitor : String) (edits : List Edit)
  | listen (bind : String)
  | accept (bind : String)
  | peerWrite (peer : String) (data : Bytes)
  /-- Read so many bytes. -/
  | peerRead (peer : String) (exactly : Nat)
  | peerDrop (peer : String)

/-- What an operation comes to. -/
inductive Answer
  | nothing
  | flag (value : Bool)
  | number (value : Int)
  | text (value : String)
  /-- A number of bytes or a status, and the bytes. -/
  | received (count : Int) (data : Bytes)
  /-- A status, and the base address and entries if there are any. -/
  | listing (status : Int) (found : Option (Nat × List InterfaceView))
  | data (bytes : Bytes)
  | endOfStream
  | pending
deriving DecidableEq

/-- The listener of a watch. -/
structure Listener where
  watcher : WatchRef
  name : String
  handle : Handle
  stopInside : Bool
deriving DecidableEq, Repr

/-- A store with what happens around it. -/
structure State where
  store : Store := {}
  /-- Whether connections reach the doors that peers open. -/
  doorsReachable : Bool := false
  /-- The last message, with handles and arrays by their names. -/
  message : Option String := none
  /-- The last handle of each kind behind each name; the first entry counts. -/
  handles : List ((HandleKind × String) × Handle) := []
  /-- The places of monitors. -/
  monitors : List (String × Nat) := []
  /-- The base addresses and sizes of arrays. -/
  arrays : List (String × Nat × Nat) := []
  listeners : List Listener := []
  /-- What the calls made by listeners have returned. -/
  stopped : List (String × Int) := []
  /-- The addresses at which peers accept connections. -/
  doors : List (String × SocketAddress) := []
  /-- The places of connections that no peer has accepted yet. -/
  unaccepted : List Nat := []
  /-- The connections that peers have accepted, and whether the peer is still there. -/
  peers : List (String × Nat × Bool) := []
  /-- The changes listeners were called with, each with the name of the watcher, last first. -/
  heard : List (String × ChangeView) := []

/-- What can be seen after an operation. -/
structure Step where
  answer : Answer
  message : Option String
  heard : List (String × ChangeView)

/-- The version of the interface that callers use. -/
def version : String := "1.0.0"

/-- The status of a call. -/
def statusNumber (answer : Except CallFault Store.Value) : Int :=
  match answer with
  | .ok (.phase p) => p.code
  | .ok _ => 0
  | .error fault => fault.status

/-- The answer to a call. -/
def answerOf (call : Store.Call) (answer : Except CallFault Store.Value) : Answer :=
  match answer with
  | .ok .blocked => .pending
  | .ok (.received data) => .received data.length data
  | _ =>
    match call with
    | .shutDown | .clearError | .freeArray _ _ => .nothing
    | .receive _ _ _ => .received (statusNumber answer) []
    | _ => if call.product?.isSome then .flag answer.isOk else .number (statusNumber answer)

namespace State

/-- The handle an operation refers to. -/
def resolve (s : State) (kind : HandleKind) : Ref → Except UnknownName Handle
  | .name name =>
    match s.handles.lookup (kind, name) with
    | some h => .ok h
    | none => .error ⟨kind, name⟩
  | .literal h => .ok h

/-- The network that connections find. -/
def network (s : State) : Network :=
  if s.doorsReachable then ⟨s.doors.map Prod.snd⟩ else {}

/-- Make a call and keep its message, in which handles are written in a given way. -/
def perform (s : State) (written : HandleKind → String) (call : Store.Call) :
    Except CallFault Store.Value × State :=
  let (answer, store) := s.store.perform { network := s.network } call
  let message :=
    match answer with
    | .error fault => some (fault.message ⟨fun kind _ => written kind, fun _ => "<array>"⟩)
    | .ok _ => if store.lastFault.isNone then none else s.message
  let unaccepted :=
    (List.range store.allConnections.length).drop s.store.allConnections.length
  (answer, { s with store, message, unaccepted := s.unaccepted ++ unaccepted })

/-- Name the handle a call has returned. -/
def bind (s : State) (call : Store.Call) (name : Option String)
    (answer : Except CallFault Store.Value) : State :=
  match call.product?, name, answer with
  | some kind, some n, .ok (.handle h) => { s with handles := ((kind, n), h) :: s.handles }
  | _, _, _ => s

/-- Make a call with one handle, and name the handle it returns. -/
def performOn (s : State) (h : Ref) (call : Handle → Store.Call) (name : Option String) :
    Except UnknownName (Store.Call × Except CallFault Store.Value × State) := do
  -- What a call is about does not depend on the handle.
  let handle ← match (call 0).subject? with
    | some kind => s.resolve kind h
    | none => .ok 0
  let (answer, s) := s.perform (fun _ => h.spelling) (call handle)
  return (call handle, answer, s.bind (call handle) name answer)

/-- Call the listener of a watch. -/
def hear (s : State) (w : WatchRef) (change : ChangeView) : State :=
  match s.listeners.find? (·.watcher == w) with
  | none => s
  | some l =>
    let s := { s with heard := (l.name, change) :: s.heard }
    if l.stopInside then
      let (answer, store) := s.store.performElsewhere {} (.unwatch l.handle)
      { s with store, stopped := (l.name, statusNumber answer) :: s.stopped }
    else s

/-- Deliver changes of a monitor until none is left, at most `fuel` of them. -/
def deliverFor (place : Nat) : (fuel : Nat) → State → State
  | 0, s => s
  | fuel + 1, s =>
    match s.store.deliver? place with
    | none => s
    | some ((w, change), store) => deliverFor place fuel ({ s with store }.hear w change)

/-- Let a monitor take a snapshot, and deliver what has changed. -/
def observe (s : State) (place : Nat) : State :=
  let s := { s with store := s.store.observe place }
  let pending := (s.store.allMonitors[place]?.bind (·.watch)).map (·.pending.length)
  s.deliverFor place (pending.getD 0)

/-- Edit the network of a monitor. Several edits in one go give two snapshots. -/
def edit (s : State) (monitor : String) (edits : List Edit) : State :=
  match s.monitors.lookup monitor with
  | none => s
  | some place =>
    let s := { s with store := edits.foldl (fun r e => r.edit place e) s.store }
    let s := s.observe place
    if 2 ≤ edits.length then s.observe place else s

/-- An operation of a peer on its connection. -/
def onPeer (s : State) (peer : String) (operation : ConnectionScenario.Operation) :
    ConnectionScenario.Answer × State :=
  match s.peers.lookup peer with
  | none => (.noPeer, s)
  | some (place, peerPresent) =>
    match s.store.allConnections[place]? with
    | none => (.noPeer, s)
    | some connection =>
      let before : ConnectionScenario.State := { connection, peerPresent }
      let (answer, after) := before.perform operation
      (answer,
        { s with
          store := s.store.onConnection place fun _ => after.connection
          peers := (peer, place, after.peerPresent) :: s.peers })

/-- Let a peer read a number of bytes, if they have come. -/
def peerRead (s : State) (peer : String) (exactly : Nat) : Answer × State :=
  let waiting := (s.peers.lookup peer).bind fun (place, _) =>
    s.store.allConnections[place]?.map (·.wire.outgoing)
  match waiting with
  | none => (.endOfStream, s)
  | some pipe =>
    if pipe.held.length < exactly then (if pipe.closed then .endOfStream else .pending, s)
    else
      match s.onPeer peer (.peerRead exactly) with
      | (.data bytes, s) => (.data bytes, s)
      | (_, s) => (.data [], s)

/-- **Carry out one operation.** -/
def act (s : State) : Operation → Except UnknownName (Answer × State)
  | .version => .ok (.text version, s)
  | .call call name =>
    let (answer, s) := s.perform (fun _ => "") call
    .ok (answerOf call answer, s.bind call name answer)
  | .callOn h call name => do
    let (call, answer, s) ← s.performOn h call name
    return (answerOf call answer, s)
  | .addRemote p e => do
    let preconnection ← s.resolve .preconnection p
    let endpoint ← s.resolve .remoteEndpoint e
    let written : HandleKind → String := fun
      | .remoteEndpoint => e.spelling
      | _ => p.spelling
    let (answer, s) := s.perform written (.addRemote preconnection endpoint)
    return (.number (statusNumber answer), s)
  | .setPortOf h listener => do
    let port := ((s.doors.lookup listener).map (·.port)).getD 0
    let (_, answer, s) ← s.performOn h (.setPort · port) none
    return (.number (statusNumber answer), s)
  | .errorElsewhere => .ok (.nothing, s)
  | .enterMonitor name source =>
    let place := s.store.allMonitors.length
    let call := Store.Call.enterMonitor { source }
    let (answer, s) := s.perform (fun _ => "") call
    let s := s.bind call (some name) answer
    .ok (.flag answer.isOk, { s with monitors := (name, place) :: s.monitors })
  | .watch h name stopInside hasCallback => do
    let (_, answer, s) ← s.performOn h (.watch · hasCallback) name
    match answer with
    | .ok (.handle handle) =>
      match s.store.watchers.get? handle with
      | some watcher =>
        let listener : Listener := ⟨watcher, name.getD "", handle, stopInside⟩
        return (.flag true, { s with listeners := listener :: s.listeners })
      | none => return (.flag true, s)
    | _ => return (.flag false, s)
  | .list h name hasArray hasCount => do
    let (_, answer, s) ← s.performOn h (.listInterfaces · hasArray hasCount) none
    match answer with
    | .ok (.array base entries) =>
      let arrays := name.elim s.arrays fun n => (n, base, entries.length) :: s.arrays
      return (.listing 0 (some (base, entries)), { s with arrays })
    | _ => return (.listing (statusNumber answer) none, s)
  | .free array count =>
    let (base, size) := (array.bind fun n => s.arrays.lookup n).getD (0, 0)
    let (_, s) := s.perform (fun _ => "") (.freeArray base (count.getD size))
    .ok (.nothing, s)
  | .stoppedInside watcher => .ok (((s.stopped.lookup watcher).map .number).getD .nothing, s)
  | .subscribers monitor =>
    let found := (s.monitors.lookup monitor).bind fun place => s.store.allMonitors[place]?
    .ok (.number ((found.map (·.source.subscriptions.length)).getD 0), s)
  | .failNext monitor text =>
    match s.monitors.lookup monitor with
    | none => .ok (.nothing, s)
    | some place => .ok (.nothing, { s with store := s.store.failNext place text })
  | .edit monitor edits => .ok (.nothing, s.edit monitor edits)
  | .listen name =>
    let address : SocketAddress :=
      ⟨.v4 #v[127, 0, 0, 1], (50000 + s.doors.length).toUInt16, 0⟩
    .ok (.flag true, { s with doors := (name, address) :: s.doors })
  | .accept name =>
    match s.unaccepted with
    | [] => .ok (.flag false, s)
    | place :: rest =>
      .ok (.flag true, { s with unaccepted := rest, peers := (name, place, true) :: s.peers })
  | .peerWrite peer data =>
    let (answer, s) := s.onPeer peer (.peerWrite data)
    .ok (.flag (answer == .done), s)
  | .peerRead peer exactly => .ok (s.peerRead peer exactly)
  | .peerDrop peer => let (_, s) := s.onPeer peer .peerDrop; .ok (.nothing, s)

end State

/-- **Carry out operations in order.** Returns what could be seen after each, and the end. -/
def run (s : State) : List Operation → Except UnknownName (List Step × State)
  | [] => .ok ([], s)
  | operation :: rest => do
    let (answer, s) ← { s with heard := [] }.act operation
    let (steps, final) ← run s rest
    return (⟨answer, s.message, s.heard.reverse⟩ :: steps, final)

end Dialer.CallScenario
