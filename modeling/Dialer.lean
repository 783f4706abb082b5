import Dialer.Connection.Scenario
import Dialer.Establishment.Establish
import Dialer.Establishment.Network
import Dialer.Path.Loop
import Dialer.Path.Scenario
import Dialer.Proofs.Connection.Halves
import Dialer.Proofs.Connection.Integrity
import Dialer.Proofs.Connection.Release
import Dialer.Proofs.Connection.Shutdown
import Dialer.Proofs.Connection.Silence
import Dialer.Proofs.Establishment.Binding
import Dialer.Proofs.Establishment.Families
import Dialer.Proofs.Establishment.Grouping
import Dialer.Proofs.Establishment.Merging
import Dialer.Proofs.Establishment.Origin
import Dialer.Proofs.Establishment.Reading
import Dialer.Proofs.Path.Order
import Dialer.Proofs.Path.Replay
import Dialer.Proofs.Path.Scenario
import Dialer.Proofs.Path.Selection
import Dialer.Proofs.Path.Succession
import Dialer.Proofs.Path.Watching
import Dialer.Proofs.Race.Extension
import Dialer.Proofs.Race.Interleaving
import Dialer.Proofs.Race.Outcome
import Dialer.Proofs.Race.Plain
import Dialer.Proofs.Race.Schedule
import Dialer.Proofs.Security.RoundTrip
import Dialer.Proofs.Store.Acceptance
import Dialer.Proofs.Store.Lending
import Dialer.Proofs.Store.Reporting
import Dialer.Proofs.Store.Scenario
import Dialer.Proofs.Store.Session
import Dialer.Proofs.Store.Vigil
import Dialer.Proofs.Store.Workshop
import Dialer.Store.Scenario
import Dialer.Text.Hex
import Dialer.Text.Quoted
