import Dialer.Establishment.Establish
import Dialer.Establishment.Network
import Dialer.Store.Basic

/-!
# Calls to a store

A `Store.Call` is one call of a caller and `Store.perform` carries it out: it returns a value
or the cause of a failure, and a failure is kept as the last one until another takes its place or it
is cleared. What is wrong with the arguments themselves shows first, then what is wrong with
handles, and a call that fails there changes nothing else. Last comes that a table can hold no more
objects.
-/

namespace Dialer

/-- What a call finds around it. -/
structure Surroundings where
  network : Network := {}
  hosts : HostTable := {}
  timing : Race.Config := {}
  /-- Which of the empty slots of a table a new object gets. -/
  pick : Nat := 0

/-- A call to a store. Texts end at their first zero byte; `none` stands for an argument that is
missing. -/
inductive Store.Call
  | startUp
  /-- Release everything. -/
  | shutDown
  | clearError
  | createEndpoint
  | freeEndpoint (h : Handle)
  | setHostname (h : Handle) (text : Option Bytes)
  | setService (h : Handle) (text : Option Bytes)
  | setAddress (h : Handle) (text : Option Bytes)
  | setPort (h : Handle) (port : UInt16)
  | createPreconnection
  | freePreconnection (h : Handle)
  | addRemote (preconnection endpoint : Handle)
  | setSecurityDisabled (h : Handle) (disabled : Bool)
  | initiate (h : Handle)
  /-- Send the first bytes of a buffer, so many of them. -/
  | send (h : Handle) (buffer : Option Bytes) (length : Nat)
  /-- Receive into a buffer with room for so many bytes. -/
  | receive (h : Handle) (hasBuffer : Bool) (capacity : Nat)
  | close (h : Handle)
  | phase (h : Handle)
  | freeConnection (h : Handle)
  | enterMonitor (monitor : Monitor)
  | destroyMonitor (h : Handle)
  /-- List interfaces; the places for the array and for its size may be missing. -/
  | listInterfaces (h : Handle) (hasArray hasCount : Bool)
  | freeArray (base count : Nat)
  | watch (h : Handle) (hasCallback : Bool)
  | unwatch (h : Handle)
deriving DecidableEq

/-- What a call that succeeds returns. -/
inductive Store.Value
  | nothing
  | handle (h : Handle)
  | phase (p : Phase)
  | received (data : Bytes)
  | array (base : Nat) (entries : List InterfaceView)
  /-- The call does not return. -/
  | blocked
deriving DecidableEq

/-- A text that was passed. -/
def TextArgument.read (what : TextArgument) (text : Option Bytes) : Except CallFault String :=
  match text with
  | none => .error (.missingText what)
  | some bytes =>
    match Utf8.decode? (bytes.takeWhile (· != 0)) with
    | some text => .ok text
    | none => .error (.notUtf8 what)

/-- The kind of object a call is about, if it is about one. A call that adds an endpoint to a
preconnection is about the preconnection. -/
def Store.Call.subject? : Store.Call → Option HandleKind
  | freeEndpoint _ | setHostname _ _ | setService _ _ | setAddress _ _ | setPort _ _ =>
    some .remoteEndpoint
  | freePreconnection _ | addRemote _ _ | setSecurityDisabled _ _ | initiate _ =>
    some .preconnection
  | send _ _ _ | receive _ _ _ | close _ | phase _ | freeConnection _ => some .connection
  | destroyMonitor _ | listInterfaces _ _ _ | watch _ _ => some .pathMonitor
  | unwatch _ => some .watcher
  | startUp | shutDown | clearError | createEndpoint | createPreconnection | enterMonitor _
  | freeArray _ _ => none

/-- The kind of object a call returns a new handle of, if it does. -/
def Store.Call.product? : Store.Call → Option HandleKind
  | createEndpoint => some .remoteEndpoint
  | createPreconnection => some .preconnection
  | initiate _ => some .connection
  | enterMonitor _ => some .pathMonitor
  | watch _ _ => some .watcher
  | _ => none

namespace Store

/-- The answer to a call that returns nothing, if there is no fault. -/
def settle (r : Store) (result : Except CallFault Store) :
    Except CallFault Value × Store :=
  match result with
  | .ok changed => (.ok .nothing, changed)
  | .error fault => (.error fault, r)

/-! ### Endpoints and preconnections -/

/-- Enter an object into a table. -/
def entered {α : Type} (table : HandleTable α) (around : Surroundings) (a : α) :
    Except CallFault (Handle × HandleTable α) :=
  match table.insert? around.pick a with
  | some found => .ok found
  | none => .error .tableFull

/-- The answer to a call that returns a new handle, if there is no fault. -/
def settleNew (r : Store) (result : Except CallFault (Handle × Store)) :
    Except CallFault Value × Store :=
  match result with
  | .ok (handle, changed) => (.ok (.handle handle), changed)
  | .error fault => (.error fault, r)

/-- Take an object out of a table. -/
def taken {α : Type} (table : HandleTable α) (kind : HandleKind) (h : Handle) :
    Except CallFault (α × HandleTable α) :=
  match table.take? h with
  | some found => .ok found
  | none => .error (.invalidHandle kind h)

/-- Change an endpoint. -/
def onEndpoint (r : Store) (h : Handle) (f : RemoteEndpoint → RemoteEndpoint) :
    Except CallFault Store := do
  let _ ← lookup r.endpoints .remoteEndpoint h
  return { r with endpoints := r.endpoints.update h f }

/-- Change a preconnection. -/
def onPreconnection (r : Store) (h : Handle) (f : Preconnection → Preconnection) :
    Except CallFault Store := do
  let _ ← lookup r.preconnections .preconnection h
  return { r with preconnections := r.preconnections.update h f }

/-- Set the hostname of an endpoint. -/
def setHostname (r : Store) (h : Handle) (text : Option Bytes) : Except CallFault Store := do
  let hostname ← TextArgument.hostname.read text
  if hostname.isEmpty then throw .emptyHostname
  r.onEndpoint h fun e => { e with hostname := some hostname }

/-- Set the service of an endpoint. -/
def setService (r : Store) (h : Handle) (text : Option Bytes) : Except CallFault Store := do
  let service ← TextArgument.service.read text
  r.onEndpoint h fun e => { e with service := some service }

/-- Set the address of an endpoint. -/
def setAddress (r : Store) (h : Handle) (text : Option Bytes) : Except CallFault Store := do
  let address ← TextArgument.address.read text
  match Ip.parse? address with
  | some ip => r.onEndpoint h fun e => { e with address := some ip }
  | none => throw (.invalidAddress address)

/-- Add a copy of an endpoint to a preconnection. -/
def addRemote (r : Store) (preconnection endpoint : Handle) : Except CallFault Store := do
  let e ← lookup r.endpoints .remoteEndpoint endpoint
  r.onPreconnection preconnection (·.addRemote e)

/-! ### Connections -/

/-- **Establish a connection** for a preconnection, which stays as it is. -/
def initiate (r : Store) (around : Surroundings) (h : Handle) :
    Except CallFault Value × Store :=
  match lookup r.preconnections .preconnection h with
  | .error fault => (.error fault, r)
  | .ok p =>
    match (p.establish around.hosts {} around.timing
        (around.network.behaviours p.security)).outcome with
    | .error e => (.error (.establishment e), r)
    | .ok _ =>
      -- The system takes more bytes at once than any call brings.
      let opened := StreamConnection.ofCapacity UInt32.size
      r.settleNew ((entered r.connections around r.allConnections.length).map
        fun (handle, connections) =>
          (handle, { r with connections, allConnections := r.allConnections ++ [opened] }))

/-- Make a call on a connection and wait for its reply. -/
def request (r : Store) (h : Handle) (wanted : Request) : Except CallFault Value × Store :=
  match r.connection h with
  | .error fault => (.error fault, r)
  | .ok (place, c) =>
    let (id, c) := c.issue wanted
    let c := c.settle
    match c.reply? id with
    | none => (.ok .blocked, r.onConnection place fun _ => c)
    | some reply =>
      let r := r.onConnection place fun _ => c.cancel id
      match reply with
      | .done => (.ok .nothing, r)
      | .received data => (.ok (.received data), r)
      | .refused error => (.error (.connection error), r)

/-! ### Monitors -/

/-- List interfaces into an array. -/
def listInterfaces (r : Store) (h : Handle) (hasArray hasCount : Bool) :
    Except CallFault Value × Store :=
  if !(hasArray && hasCount) then (.error .missingOutput, r)
  else
    match r.monitor h with
    | .error fault => (.error fault, r)
    | .ok (place, m) =>
      match m.list with
      | (.error e, m) => (.error (.monitor e), r.onMonitor place fun _ => m)
      | (.ok found, m) =>
        let entries := found.map (·.view)
        let (base, arrays) := r.arrays.allocate entries
        (.ok (.array base entries), { r.onMonitor place fun _ => m with arrays })

/-- Free an array. -/
def freeArray (r : Store) (base count : Nat) : Except CallFault Store :=
  match r.arrays.free base count with
  | .ok arrays => .ok { r with arrays }
  | .error .unknown => .error (.unknownArray base)
  | .error (.miscounted expected) => .error (.miscountedArray base expected count)

/-- **Begin a watch.** One that cannot be entered ends at once. -/
def watch (r : Store) (around : Surroundings) (h : Handle) (hasCallback : Bool) :
    Except CallFault Value × Store :=
  if !hasCallback then (.error .missingCallback, r)
  else
    match r.monitor h with
    | .error fault => (.error fault, r)
    | .ok (place, m) =>
      match m.start with
      | (.error e, m) => (.error (.monitor e), r.onMonitor place fun _ => m)
      | (.ok watch, m) =>
        (r.onMonitor place fun _ => m.stop watch).settleNew
          ((entered r.watchers around ⟨place, watch⟩).map fun (handle, watchers) =>
            (handle, { r.onMonitor place fun _ => m with watchers }))

/-- Take a monitor out, and end the watch on it. -/
def destroyMonitor (r : Store) (h : Handle) : Except CallFault Store := do
  let (place, monitors) ← taken r.monitors .pathMonitor h
  return { r with monitors }.onMonitor place (·.endWatch)

/-- Take a watcher out, and end its watch. -/
def unwatch (r : Store) (h : Handle) : Except CallFault Store := do
  let (w, watchers) ← taken r.watchers .watcher h
  return { r with watchers }.stopWatch w

/-- Take a connection out, and abort it. -/
def freeConnection (r : Store) (h : Handle) : Except CallFault Store := do
  let (place, connections) ← taken r.connections .connection h
  return { r with connections }.onConnection place (·.abort.settle)

/-- Abort every connection that has a handle. -/
def abortAll (r : Store) : Store :=
  r.connections.objects.foldl (fun r place => r.onConnection place (·.abort.settle)) r

/-- End every watch that has a handle. -/
def stopAll (r : Store) : Store := r.watchers.objects.foldl stopWatch r

/-- End the watch on every monitor that has a handle. -/
def endAll (r : Store) : Store :=
  r.monitors.objects.foldl (fun r place => r.onMonitor place (·.endWatch)) r

/-- Take all objects out of their tables. -/
def clearTables (r : Store) : Store :=
  { r with
    monitors := r.monitors.clear
    watchers := r.watchers.clear
    preconnections := r.preconnections.clear
    endpoints := r.endpoints.clear
    connections := r.connections.clear }

/-- **Release everything.** Connections are aborted and watches end; arrays stay live. -/
def shutDown (r : Store) : Store := r.abortAll.stopAll.endAll.clearTables

/-! ### Carrying calls out -/

/-- Carry out a call, without regard to what is kept of failures. -/
def carryOut (r : Store) (around : Surroundings) :
    Call → Except CallFault Value × Store
  | .startUp => (.ok .nothing, r)
  | .shutDown => (.ok .nothing, r.shutDown)
  | .clearError => (.ok .nothing, { r with lastFault := none })
  | .createEndpoint =>
    r.settleNew ((entered r.endpoints around {}).map fun (handle, endpoints) =>
      (handle, { r with endpoints }))
  | .freeEndpoint h =>
    r.settle ((taken r.endpoints .remoteEndpoint h).map fun (_, endpoints) => { r with endpoints })
  | .setHostname h text => r.settle (r.setHostname h text)
  | .setService h text => r.settle (r.setService h text)
  | .setAddress h text => r.settle (r.setAddress h text)
  | .setPort h port => r.settle (r.onEndpoint h fun e => { e with port := some port })
  | .createPreconnection =>
    r.settleNew ((entered r.preconnections around {}).map fun (handle, preconnections) =>
      (handle, { r with preconnections }))
  | .freePreconnection h =>
    r.settle ((taken r.preconnections .preconnection h).map fun (_, preconnections) =>
      { r with preconnections })
  | .addRemote preconnection endpoint => r.settle (r.addRemote preconnection endpoint)
  | .setSecurityDisabled h disabled =>
    r.settle (r.onPreconnection h fun p => { p with security := { disabled } })
  | .initiate h => r.initiate around h
  | .send h buffer length =>
    match buffer with
    | none => if length = 0 then r.request h (.send []) else (.error .missingBytes, r)
    | some data => r.request h (.send (data.take length))
  | .receive h hasBuffer capacity =>
    if !hasBuffer || capacity == 0 then (.error (.connection .emptyBuffer), r)
    else r.request h (.receive capacity)
  | .close h => r.request h .close
  | .phase h =>
    match r.connection h with
    | .error fault => (.error fault, r)
    | .ok (_, c) => (.ok (.phase c.life.phase), r)
  | .freeConnection h => r.settle (r.freeConnection h)
  | .enterMonitor m =>
    r.settleNew ((entered r.monitors around r.allMonitors.length).map fun (handle, monitors) =>
      (handle, { r with monitors, allMonitors := r.allMonitors ++ [m] }))
  | .destroyMonitor h => r.settle (r.destroyMonitor h)
  | .listInterfaces h hasArray hasCount => r.listInterfaces h hasArray hasCount
  | .freeArray base count => r.settle (r.freeArray base count)
  | .watch h hasCallback => r.watch around h hasCallback
  | .unwatch h => r.settle (r.unwatch h)

/-- **Carry out a call and keep its fault,** if it has one. -/
def perform (r : Store) (around : Surroundings) (call : Call) :
    Except CallFault Value × Store :=
  match r.carryOut around call with
  | (.error fault, r) => (.error fault, { r with lastFault := some fault })
  | (.ok value, r) => (.ok value, r)

/-- Carry out a call that someone else makes, whose failures are kept apart. -/
def performElsewhere (r : Store) (around : Surroundings) (call : Call) :
    Except CallFault Value × Store :=
  let (answer, changed) := r.perform around call
  (answer, { changed with lastFault := r.lastFault })

end Store

end Dialer
