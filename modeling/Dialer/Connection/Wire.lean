import Dialer.Connection.Carrier

/-!
# Pipes and wires

A `Pipe` carries bytes in one direction and holds a limited number of them. A `Wire` is what a
stream connection holds: two pipes to a peer, and what may go wrong with them. Its operations say
what can be done at once; where nothing can, the caller has to wait.

* `Wire.write`: put as much as fits, and flush once everything is written. Flushing may have to wait
  for what lies beneath the wire.
* `Wire.read`: take what is there, or learn that nothing will come.
* `Wire.shutdown`: close the outgoing direction in good order.
* `Wire.release`: let go of the session; the peer finds both directions closed.
-/

namespace Dialer

/-- One direction of a wire. -/
structure Pipe where
  /-- The bytes written and not yet read. -/
  held : Bytes := []
  /-- How many bytes the pipe holds at most. -/
  capacity : Nat
  /-- Nothing more can be written. -/
  closed : Bool := false
deriving DecidableEq, Repr

namespace Pipe

/-- How many more bytes fit. -/
def room (p : Pipe) : Nat := p.capacity - p.held.length

/-- Put bytes into the pipe, as many as fit; returns the rest. -/
def put (p : Pipe) (data : Bytes) : Bytes × Pipe :=
  (data.drop p.room, { p with held := p.held ++ data.take p.room })

/-- What a reader gets at once: bytes, or none if the pipe is closed and empty. A reader of an open
empty pipe has to wait. -/
def take? (p : Pipe) (max : Nat) : Option (Bytes × Pipe) :=
  if p.held.isEmpty then if p.closed then some ([], p) else none
  else some (p.held.take max, { p with held := p.held.drop max })

/-- Let nothing more be written. -/
def close (p : Pipe) : Pipe := { p with closed := true }

theorem take?_append {p q : Pipe} {max : Nat} {data : Bytes} (h : p.take? max = some (data, q)) :
    data ++ q.held = p.held := by
  unfold take? at h
  split at h
  · split at h
    · obtain ⟨rfl, rfl⟩ := Prod.mk.inj (Option.some.inj h); simp
    · simp at h
  · obtain ⟨rfl, rfl⟩ := Prod.mk.inj (Option.some.inj h); simp

end Pipe

/-- The calls on a wire that can be made to fail. -/
inductive WireCall
  | read
  | write
  | flush
  | shutdown
deriving DecidableEq, Repr

/-- **The two directions between a connection and its peer.** -/
structure Wire where
  outgoing : Pipe
  incoming : Pipe
  /-- The failures in store for the next call of each kind; the first entry of a kind counts. -/
  faults : List (WireCall × IoFailure) := []
  /-- While set, flushing does not come to an end. -/
  flushHangs : Bool := false
  /-- While set, shutting down does not come to an end. -/
  shutdownHangs : Bool := false
  /-- The connection has asked for its direction to be shut down. -/
  shutdownAsked : Bool := false
deriving DecidableEq, Repr

namespace Wire

/-- A wire whose pipes hold a given number of bytes. -/
def ofCapacity (capacity : Nat) : Wire := { outgoing := { capacity }, incoming := { capacity } }

/-- Make the next call of a kind fail. -/
def plant (w : Wire) (call : WireCall) (failure : IoFailure) : Wire :=
  { w with faults := (call, failure) :: w.faults.filter (·.1 != call) }

/-- The failure in store for a call, which is used up by it. -/
def fault? (w : Wire) (call : WireCall) : Option (IoFailure × Wire) :=
  (w.faults.lookup call).map fun failure =>
    (failure, { w with faults := w.faults.filter (·.1 != call) })

/-- Flush; while that hangs it does not even fail. -/
def flush (w : Wire) : WriteResult × Wire :=
  if w.flushHangs then (.blocked [], w)
  else
    match w.fault? .flush with
    | some (failure, w) => (.failed failure, w)
    | none => (.done, w)

/-- Put data into the outgoing pipe, as much as fits, and flush when all of it is there. -/
def put (w : Wire) (data : Bytes) : WriteResult × Wire :=
  if w.outgoing.closed then (.failed ⟨.brokenPipe, none⟩, w)
  else
    let (rest, outgoing) := w.outgoing.put data
    let w := { w with outgoing }
    if rest.isEmpty then w.flush else (.blocked rest, w)

/-- **Write as much as fits,** and flush when all is written. Writing nothing only flushes. A write
that is interrupted starts again at once. -/
def write (w : Wire) (data : Bytes) : WriteResult × Wire :=
  if data.isEmpty then w.flush
  else
    match w.fault? .write with
    | some (failure, w) =>
      if failure.kind = .interrupted then w.put data else (.failed failure, w)
    | none => w.put data

/-- **Read up to a number of bytes;** none at all stand for the end of the stream. -/
def read (w : Wire) (max : Nat) : ReadResult × Wire :=
  match w.fault? .read with
  | some (failure, w) => (.failed failure, w)
  | none =>
    match w.incoming.take? max with
    | some (bytes, incoming) => (.data bytes, { w with incoming })
    | none => (.blocked, w)

/-- Whether a write that is blocked can go on: with bytes left it waits for room, else for the
flush. -/
def writable (w : Wire) (rest : Bytes) : Bool :=
  if rest.isEmpty then !w.flushHangs else w.outgoing.closed || 0 < w.outgoing.room

/-- Whether a read that is blocked can go on. -/
def readable (w : Wire) : Bool := w.incoming.closed || !w.incoming.held.isEmpty

/-- **Shut the outgoing direction down.** The first component says whether that came to an end, be
it by failing; while it hangs it does not even fail. -/
def shutdown (w : Wire) : Bool × Wire :=
  let w := { w with shutdownAsked := true }
  if w.shutdownHangs then (false, w)
  else
    match w.fault? .shutdown with
    | some (_, w) => (true, w)
    | none => (true, { w with outgoing := w.outgoing.close })

/-- Let go of both directions. -/
def release (w : Wire) : Wire :=
  { w with outgoing := w.outgoing.close, incoming := w.incoming.close }

end Wire

instance : Carrier Wire where
  write := Wire.write
  read := Wire.read
  shutdown := Wire.shutdown
  release := Wire.release
  writable := Wire.writable
  readable := Wire.readable
  shutdownHangs := Wire.shutdownHangs
  endsEmpty := true

namespace Wire

@[simp] theorem carrier_write (w : Wire) (data : Bytes) : Carrier.write w data = w.write data := rfl

@[simp] theorem carrier_read (w : Wire) (max : Nat) : Carrier.read w max = w.read max := rfl

@[simp] theorem carrier_shutdown (w : Wire) : Carrier.shutdown w = w.shutdown := rfl

@[simp] theorem carrier_writable (w : Wire) (rest : Bytes) :
    Carrier.writable w rest = w.writable rest := rfl

@[simp] theorem carrier_readable (w : Wire) : Carrier.readable w = w.readable := rfl

@[simp] theorem carrier_shutdownHangs (w : Wire) : Carrier.shutdownHangs w = w.shutdownHangs := rfl

end Wire

end Dialer
