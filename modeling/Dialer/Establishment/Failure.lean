import Dialer.Candidate
import Dialer.Failure
import Dialer.Path.Source
import Dialer.Properties
import Dialer.Resolution.Resolve
import Dialer.Security.Parameters

/-!
# Why establishment fails

`EstablishmentFailure` has one constructor for each stage that can fail; `allFailed` carries the
fate of every candidate.
-/

namespace Dialer

/-- Why a preconnection cannot be established as it stands. -/
inductive ParameterFault
  | noRemoteEndpoint
  /-- No stack fits what is wanted. -/
  | noStack (wanted : Properties) (secure : Bool)
  | unknownInterface (name : String)
  | incompatibleLocals
  /-- The interfaces a local endpoint refers to could not be read. -/
  | unreadableInterfaces (error : MonitorError)
  | noCandidates
  /-- A cause in words. -/
  | described (text : String)
deriving DecidableEq

/-- The text of a fault. -/
def ParameterFault.message : ParameterFault → String
  | noRemoteEndpoint => "at least one remote endpoint is required"
  | noStack wanted secure =>
    "no protocol stack satisfies reliability=" ++ wanted.reliability.name ++
      ", preserve_order=" ++ wanted.order.name ++
      ", multistreaming=" ++ wanted.multistreaming.name ++
      " with security " ++ (if secure then "enabled" else "disabled")
  | unknownInterface name => "unknown local interface '" ++ name ++ "'"
  | incompatibleLocals => "no local endpoint is compatible with any remote candidate"
  | unreadableInterfaces error => "cannot enumerate local interfaces: " ++ error.message
  | noCandidates => "no candidates to race"
  | described text => text

/-- A candidate and why it came to nothing. -/
structure FailedCandidate where
  candidate : Candidate
  reason : AttemptFailure
deriving DecidableEq

/-- The text of a failed candidate. -/
def FailedCandidate.text (f : FailedCandidate) : String :=
  f.candidate.text ++ ": " ++ f.reason.message

/-- Why no connection was established. -/
inductive EstablishmentFailure
  | invalidParameters (fault : ParameterFault)
  | resolution (failure : ResolutionFailure)
  | security (fault : SecurityFault)
  /-- Every candidate failed; one entry for each, in their order. -/
  | allFailed (failures : List FailedCandidate)
deriving DecidableEq

namespace EstablishmentFailure

/-- The failures of single candidates. -/
def failures : EstablishmentFailure → List FailedCandidate
  | allFailed fs => fs
  | _ => []

/-- **The text of an error.** -/
def message : EstablishmentFailure → String
  | invalidParameters fault => "Invalid parameters: " ++ fault.message
  | resolution failure => failure.message
  | security fault => "Security configuration error: " ++ fault.message
  | allFailed fs =>
    "All " ++ toString fs.length ++ " candidates failed: " ++ "; ".intercalate (fs.map (·.text))

end EstablishmentFailure

end Dialer
