import Dialer.Connection.Life
import Dialer.Establishment.Failure
import Dialer.Store.Table
import Dialer.Store.View

/-!
# Why a call to the store fails

A `CallFault` is the cause of a failure; `CallFault.status` is the negative number that reports it
and `CallFault.message` the text that is kept for the caller.
-/

namespace Dialer

/-- The kinds of objects a store holds. -/
inductive HandleKind
  | pathMonitor
  | watcher
  | preconnection
  | remoteEndpoint
  | connection
deriving DecidableEq, Repr

/-- What messages call an object of a kind. -/
def HandleKind.name : HandleKind → String
  | pathMonitor => "path monitor"
  | watcher => "watcher"
  | preconnection => "preconnection"
  | remoteEndpoint => "remote endpoint"
  | connection => "connection"

/-- The texts that are passed to calls. -/
inductive TextArgument
  | hostname
  | service
  | address
deriving DecidableEq, Repr

/-- What messages call a text that is passed. -/
def TextArgument.name : TextArgument → String
  | hostname => "hostname"
  | service => "service"
  | address => "address"

/-- Why a call fails. -/
inductive CallFault
  | invalidHandle (kind : HandleKind) (handle : Handle)
  | missingText (what : TextArgument)
  | notUtf8 (what : TextArgument)
  | emptyHostname
  | invalidAddress (text : String)
  /-- There is no place to put a result into. -/
  | missingOutput
  | missingCallback
  | missingBytes
  | unknownArray (base : Nat)
  | miscountedArray (base expected actual : Nat)
  | monitor (error : MonitorError)
  | establishment (error : EstablishmentFailure)
  | connection (error : CallError)
  /-- No more objects of a kind can be held. -/
  | tableFull
deriving DecidableEq

namespace CallFault

/-- **The number that reports a failure.** -/
def status : CallFault → Int
  | invalidHandle _ _ => -2
  | missingText _ | notUtf8 _ | emptyHostname | invalidAddress _ | missingOutput
  | missingCallback | missingBytes | unknownArray _ | miscountedArray _ _ _ => -1
  | monitor (.init _) => -3
  | monitor .alreadyWatching => -4
  | monitor (.platform _) => -9
  | establishment (.invalidParameters _) => -1
  | establishment (.resolution _) => -5
  | establishment (.security _) | establishment (.allFailed _) => -6
  | connection .notEstablished => -7
  | connection .closed => -8
  | connection (.sendFailed _) | connection (.receiveFailed _) => -9
  | connection .emptyBuffer => -1
  | connection .alreadyClosed => -10
  | tableFull => -99

theorem status_neg (f : CallFault) : f.status < 0 := by
  unfold status; split <;> decide

/-- How messages write handles and base addresses. -/
structure Spelling where
  handle : HandleKind → Handle → String := fun _ h => "0x" ++ Numeral.write 16 h.toNat
  array : Nat → String := fun base => "0x" ++ Numeral.write 16 base

/-- The text of a failure before it is handed out. -/
def rawMessage (spelling : Spelling) : CallFault → String
  | invalidHandle kind h => "invalid " ++ kind.name ++ " handle " ++ spelling.handle kind h
  | missingText what => what.name ++ " must not be null"
  | notUtf8 what => what.name ++ " is not valid UTF-8"
  | emptyHostname => "hostname must not be empty"
  | invalidAddress text => "invalid IP address: " ++ text
  | missingOutput => "output pointers must not be null"
  | missingCallback => "callback must not be null"
  | missingBytes => "bytes must not be null"
  | unknownArray base => "unknown or already freed interface array " ++ spelling.array base
  | miscountedArray base expected actual =>
    "interface array " ++ spelling.array base ++ " holds " ++ Numeral.write 10 expected ++
      " entries, not " ++ Numeral.write 10 actual
  | monitor error => error.message
  | establishment error => error.message
  | connection error => error.message
  | tableFull => "internal panic: SlotMap number of elements overflow"

/-- **The text of a failure,** with handles and addresses in the given spelling. -/
def message (spelling : Spelling) (f : CallFault) : String :=
  withoutZeros (f.rawMessage spelling)

end CallFault

end Dialer
