import Dialer.Store.Scenario

/-!
# Calls from outside

Callers outside know a store by its entry points. An `EntryPoint` hands a number, a handle or a text
back, it may put results into places its caller has given, and if it fails it keeps a text that says
why. What goes on with connections needs a runtime, and establishing one needs a resolver; a `Host`
may be short of them. An entry point looks at its arguments and at handles before it asks for either. A
call on a connection waits for its reply, and its caller does nothing else until it returns.

* `Boundary.enter`: a caller calls an entry point.
* `Boundary.goOn`: a call that waits returns, if it has its reply.
-/

namespace Dialer

/-- Places for results, and what is there. -/
structure Places where
  /-- The base address of an array. -/
  array : Nat := 0
  /-- The number of its entries. -/
  count : Nat := 0
  buffer : Bytes := []
deriving DecidableEq

/-- What an entry point hands back. -/
inductive Report
  | nothing
  | number (value : Int)
  | handle (h : Handle)
  | text (value : Option String)
  /-- The call does not return yet. -/
  | waiting
deriving DecidableEq

/-- Why an entry point does not do what it was called for. -/
inductive Refusal
  | fault (f : CallFault)
  /-- There is no runtime. -/
  | runtime (text : String)
deriving DecidableEq

namespace Refusal

/-- The number that reports a refusal. -/
def status : Refusal → Int
  | fault f => f.status
  | runtime _ => -11

/-- The text that is kept of a refusal. -/
def text : Refusal → String
  | fault f => f.message {}
  | runtime text => withoutZeros ("failed to start runtime: " ++ text)

end Refusal

/-- **What entry points find around them.** -/
structure Host extends Surroundings where
  /-- Why there is no runtime: none runs and none can be started. -/
  runtimeFault : Option String := none
  /-- Why there is no resolver. -/
  resolverFault : Option ResolutionFailure := none
  /-- The interfaces of the host. Some platforms have no way to find out about them. -/
  interfaces : Option Source := some {}

namespace Host

/-- **A monitor over the interfaces of the host.** A first reading shows whether they can be read. -/
def openMonitor (host : Host) : Except MonitorError Monitor :=
  match host.interfaces with
  | none => .error (.init "interface enumeration is not supported on this platform")
  | some source =>
    match source.read with
    | (.error e, _) => .error (.init e.message)
    | (.ok _, source) => .ok { source }

/-- What the host lacks for a call. -/
def lack? (host : Host) : Store.Call → Option Refusal
  | .startUp | .send _ _ _ | .receive _ _ _ | .close _ => host.runtimeFault.map .runtime
  | .initiate _ =>
    host.runtimeFault.map .runtime <|>
      host.resolverFault.map fun failure => .fault (.establishment (.resolution failure))
  | _ => none

end Host

namespace Store

/-- What is wrong with a call that is to ask for a runtime, before it does. -/
def precheck (r : Store) : Call → Except CallFault Unit
  | .initiate h => do
    let _ ← lookup r.preconnections .preconnection h
  | .send h buffer length => do
    if buffer.isNone && length != 0 then throw .missingBytes
    let _ ← r.connection h
  | .receive h hasBuffer capacity => do
    if !hasBuffer || capacity == 0 then throw (.connection .emptyBuffer)
    let _ ← r.connection h
  | .close h => do
    let _ ← r.connection h
  | _ => .ok ()

/-- **Carry out a call,** if there is what it needs. -/
def carryOutAt (r : Store) (host : Host) (call : Call) : Except Refusal Value × Store :=
  match host.lack? call with
  | some refusal =>
    match r.precheck call with
    | .error fault => (.error (.fault fault), r)
    | .ok () => (.error refusal, r)
  | none =>
    match r.carryOut host.toSurroundings call with
    | (.error fault, r) => (.error (.fault fault), r)
    | (.ok value, r) => (.ok value, r)

/-! ### Calls that wait -/

/-- The connection whose reply a call asks for. -/
def Call.awaits? : Call → Option Handle
  | .send h _ _ | .receive h _ _ | .close h => some h
  | _ => none

/-- **A call that waits for a reply.** -/
structure Wait where
  call : Call
  waits : call.awaits?.isSome
  /-- The place of the connection. -/
  place : Nat
  /-- The number of the request that was made. -/
  id : Nat

/-- Where a call waits if it is made now and there is no reply to it. -/
def wait? (r : Store) (call : Call) : Option Wait :=
  match ha : call.awaits? with
  | none => none
  | some h =>
    match r.connection h with
    | .error _ => none
    | .ok (place, c) => some { call, waits := ha ▸ rfl, place, id := c.nextId }

/-- What a reply comes to. -/
def outcome : Reply → Except CallFault Value
  | .done => .ok .nothing
  | .received data => .ok (.received data)
  | .refused error => .error (.connection error)

/-- **Take the reply** that a call waits for, if it is there. -/
def resume? (r : Store) (w : Wait) : Option (Except CallFault Value × Store) :=
  (r.allConnections[w.place]?.bind (·.reply? w.id)).map fun reply =>
    (outcome reply, r.onConnection w.place (·.cancel w.id))

namespace Call

/-! ### What is handed back -/

/-- The bytes that are put into the buffer of a call. -/
def fits (call : Call) (data : Bytes) : Bytes :=
  match call with
  | .receive _ _ capacity => data.take capacity
  | _ => []

/-- What a call hands back when it is done. -/
def done (call : Call) : Value → Report
  | .blocked => .waiting
  | .handle h => .handle h
  | .phase p => .number p.code
  | .received data => .number (call.fits data).length
  | .array _ _ => .number 0
  | .nothing =>
    match call with
    | .shutDown | .clearError | .freeArray _ _ => .nothing
    | _ => .number 0

/-- What a call hands back when it is refused. -/
def refused (call : Call) (status : Int) : Report :=
  match call with
  | .shutDown | .clearError | .freeArray _ _ => .nothing
  | _ => if call.product?.isSome then .handle 0 else .number status

end Call

end Store

/-- Put a result into the places for it. -/
def Places.fill (places : Places) (call : Store.Call) : Store.Value → Places
  | .array base entries => { places with array := base, count := entries.length }
  | .received data =>
    let data := call.fits data
    { places with buffer := data ++ places.buffer.drop data.length }
  | _ => places

/-- What callers call. -/
inductive EntryPoint
  | call (c : Store.Call)
  /-- Create a monitor over the interfaces of the host. -/
  | createMonitor
  | version
  /-- The text of the last failure. -/
  | lastMessage
deriving DecidableEq

/-- **A store as one of its callers sees it.** -/
structure Boundary where
  store : Store := {}
  /-- Why the last call of this caller that failed did, unless that was cleared. -/
  message : Option String := none
  places : Places := {}
  /-- The call that has not returned. -/
  waiting : Option Store.Wait := none

namespace Boundary

/-- Keep the text of a refusal. -/
def refuse (b : Boundary) (refusal : Refusal) : Boundary := { b with message := some refusal.text }

/-- Hand back what a call has come to. -/
def conclude (b : Boundary) (c : Store.Call) :
    Except Refusal Store.Value × Store → Report × Boundary
  | (.error refusal, store) => (c.refused refusal.status, { b with store }.refuse refusal)
  | (.ok value, store) =>
    (c.done value,
      { b with
        store
        message := if c = .clearError then none else b.message
        places := b.places.fill c value })

/-- Make a call. -/
def call (b : Boundary) (host : Host) (c : Store.Call) : Report × Boundary :=
  let (report, after) := b.conclude c (b.store.carryOutAt host c)
  (report, if report = .waiting then { after with waiting := b.store.wait? c } else after)

/-- **Call an entry point.** -/
def enter (b : Boundary) (host : Host) : EntryPoint → Report × Boundary
  | .call c => b.call host c
  | .createMonitor =>
    match host.openMonitor with
    | .error e => (.handle 0, b.refuse (.fault (.monitor e)))
    | .ok m => b.call host (.enterMonitor m)
  | .version => (.text (some CallScenario.version), b)
  | .lastMessage => (.text b.message, b)

/-- **The call that waits returns,** if it has its reply. -/
def goOn (b : Boundary) : Report × Boundary :=
  match b.waiting with
  | none => (.nothing, b)
  | some w =>
    match b.store.resume? w with
    | none => (.waiting, b)
    | some (answer, store) =>
      { b with waiting := none }.conclude w.call (answer.mapError .fault, store)

/-- What can give a caller something back. -/
inductive Turn
  | enter (host : Host) (entry : EntryPoint)
  | goOn

/-- **A caller's turn.** -/
def turn (b : Boundary) : Turn → Report × Boundary
  | .enter host entry => b.enter host entry
  | .goOn => b.goOn

end Boundary

end Dialer
