import Dialer.Security.Certificate
import Dialer.Security.Pem

/-!
# Security parameters

`SecurityParameters` say whether and how a connection is encrypted. `SecurityParameters.tls?` turns
them into the settings of a TLS client, or finds out why there can be none: without a single root
certificate no server could be verified.
-/

namespace Dialer

/-- The least version of TLS that is acceptable. -/
inductive TlsVersion
  | tls12
  | tls13
deriving DecidableEq, Repr

/-- Why security parameters cannot be used. -/
inductive SecurityFault
  | pem (fault : Pem.Fault)
  | noCertificates
  | malformedRoot (fault : Certificate.Fault)
  | noRoots
  /-- A cause in words. -/
  | described (text : String)
deriving DecidableEq, Repr

/-- The text of a fault. -/
def SecurityFault.message : SecurityFault → String
  | pem fault => "Failed to parse PEM certificate: " ++ fault.message
  | noCertificates => "No certificates found in PEM data"
  | malformedRoot fault =>
    "Failed to add root certificate: invalid peer certificate: " ++ fault.message
  | noRoots => "No root certificates available"
  | described text => text

namespace Certificate

/-- **The certificates of a PEM text.** There has to be one at least, and one fault anywhere spoils
them all. -/
def ofPem (text : Bytes) : Except SecurityFault (List Bytes) :=
  match Pem.certificates text with
  | .error fault => .error (.pem fault)
  | .ok [] => .error .noCertificates
  | .ok found => .ok found

end Certificate

/-- Whether and how a connection is encrypted. -/
structure SecurityParameters where
  disabled : Bool := false
  /-- The name the server is verified under, in place of its hostname. -/
  serverName : Option String := none
  /-- The application protocols to offer. -/
  alpn : List Bytes := []
  /-- Root certificates to trust besides the public ones. -/
  extraRoots : List Bytes := []
  /-- Whether the public root certificates are not trusted. -/
  onlyExtraRoots : Bool := false
  minVersion : TlsVersion := .tls12
  /-- Whether any server certificate will do. -/
  unverified : Bool := false
deriving DecidableEq, Repr

/-- The settings of a TLS client. -/
structure TlsSettings where
  minVersion : TlsVersion
  alpn : List Bytes
deriving DecidableEq, Repr

namespace SecurityParameters

/-- Whether connections are encrypted. -/
def enabled (p : SecurityParameters) : Bool := !p.disabled

/-- Why servers could not be verified, if so. Of several roots the first that is no certificate
counts. -/
def rootFault? (p : SecurityParameters) : Option SecurityFault :=
  if p.unverified then none
  else
    match p.extraRoots.findSome? Certificate.fault? with
    | some fault => some (.malformedRoot fault)
    | none => if p.onlyExtraRoots && p.extraRoots.isEmpty then some .noRoots else none

/-- **The settings of a TLS client,** if connections are encrypted. -/
def tls? (p : SecurityParameters) : Except SecurityFault (Option TlsSettings) :=
  if p.disabled then .ok none
  else
    match p.rootFault? with
    | some fault => .error fault
    | none => .ok (some ⟨p.minVersion, p.alpn⟩)

end SecurityParameters

end Dialer
