import Outbox.FileTree
import Outbox.Log.Filter
import Outbox.Mailer
import Outbox.Multiplexer.Smtp
import Outbox.Proofs.Dialogue
import Outbox.Rehearsal
import Outbox.Rehearsal.Batches
import Outbox.Settings.Document
import Outbox.Settings.Location
import Outbox.Traffic
import Outbox.Proofs.Gating
import Outbox.Proofs.Framing
import Outbox.Mailer.Run
import Outbox.Proofs.Rollback
import Outbox.Proofs.Lifecycle
import Outbox.Proofs.Faithful
import Outbox.Proofs.Holding
import Outbox.Proofs.Conservation
import Outbox.Proofs.Tickets
import Outbox.Proofs.Teardown
import Outbox.Proofs.Alone
import Outbox.Proofs.InForce
import Outbox.Proofs.Secrecy
import Outbox.Proofs.Reading
import Outbox.Proofs.RoundTrip
import Outbox.Proofs.Utf8
import Outbox.Proofs.Grammar
import Outbox.Proofs.Headers
import Outbox.Proofs.Stranded
import Outbox.Proofs.Custody
import Outbox.Proofs.Rounds
import Outbox.Proofs.Credentials
import Outbox.Proofs.Addresses
import Outbox.Proofs.Portions
import Outbox.Proofs.Submissions
import Outbox.Proofs.TimeLimits
import Outbox.Proofs.Partial
