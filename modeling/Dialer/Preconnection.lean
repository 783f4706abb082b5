import Dialer.Endpoint
import Dialer.Properties
import Dialer.Security.Parameters

/-!
# Preconnections

A `Preconnection` collects what has to be known before a connection can be established: the
endpoints of both sides, what is wanted from the transport, and how it is to be secured.
-/

namespace Dialer

/-- Everything a connection is established from. -/
structure Preconnection where
  remotes : List RemoteEndpoint := []
  locals : List LocalEndpoint := []
  properties : Properties := {}
  security : SecurityParameters := {}
deriving DecidableEq

namespace Preconnection

/-- Add a remote endpoint. -/
def addRemote (p : Preconnection) (e : RemoteEndpoint) : Preconnection :=
  { p with remotes := p.remotes ++ [e] }

end Preconnection

end Dialer
