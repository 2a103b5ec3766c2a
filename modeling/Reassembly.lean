import Reassembly.Conversation
import Reassembly.Limits.Reader
import Reassembly.Pool.Report
import Reassembly.Proofs.Pool.LedgerTurns
import Reassembly.Proofs.SessionKeyIdentity
import Reassembly.Proofs.Pool.LedgerLives
import Reassembly.Proofs.Pool.Conservation
import Reassembly.Proofs.Pool.Fates
import Reassembly.Proofs.Pool.Representation
import Reassembly.Proofs.Pool.ResetReach
import Reassembly.Proofs.Pool.LedgerOrigins
import Reassembly.Proofs.Pool.LedgerEndings
import Reassembly.Proofs.Pool.Senders
import Reassembly.Proofs.Packet.Headers
import Reassembly.Proofs.Pool.Watchers
import Reassembly.Proofs.Pool.Completion
import Reassembly.Proofs.Pool.SizeCap
import Reassembly.Proofs.Pool.Isolation
import Reassembly.Proofs.Pool.Expiry
import Reassembly.Pool.Handover
import Reassembly.Proofs.SessionIdentity
import Reassembly.Proofs.Pool.HandoverRuns
import Reassembly.Proofs.Pool.Gauge
import Reassembly.Proofs.Packet.RoundTrip
import Reassembly.Proofs.MessageEdits
import Reassembly.Proofs.Pool.ResetFrame
import Reassembly.Proofs.Pool.Accounts
import Reassembly.Proofs.Pool.Interruption
import Reassembly.Proofs.Packet.Extension
import Reassembly.Proofs.Limits.Loading
