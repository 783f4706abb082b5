import Dialer.Failure
import Dialer.Text.Utf8

/-!
# Carriers

What is sent and received on a connection is carried by a byte stream or by a socket for datagrams.
A `Carrier` is what the calls on a connection make use of in either of them. Its operations say
what can be done at once; where nothing can, the caller has to wait.
-/

namespace Dialer

/-- How a write ended, for now. -/
inductive WriteResult
  | done
  /-- Some bytes have to wait, or all are written and have to be flushed. -/
  | blocked (rest : Bytes)
  | failed (failure : IoFailure)
deriving DecidableEq, Repr

/-- How a read ended, for now. -/
inductive ReadResult
  | data (bytes : Bytes)
  | blocked
  | failed (failure : IoFailure)
deriving DecidableEq, Repr

/-- **What carries the data of a connection.** -/
class Carrier (W : Type) where
  /-- Write as much as can be written at once. -/
  write : W → Bytes → WriteResult × W
  /-- Read up to a number of bytes. -/
  read : W → Nat → ReadResult × W
  /-- Shut the outgoing direction down. The first component says whether that came to an end. -/
  shutdown : W → Bool × W
  /-- Let go of both directions. -/
  release : W → W
  /-- Whether a write that is blocked with some bytes left can go on. -/
  writable : W → Bytes → Bool
  /-- Whether a read that is blocked can go on. -/
  readable : W → Bool
  /-- Whether shutting down does not come to an end. -/
  shutdownHangs : W → Bool
  /-- Whether reading no bytes means that nothing more will come. -/
  endsEmpty : Bool

end Dialer
