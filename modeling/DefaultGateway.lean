import DefaultGateway.Main
import DefaultGateway.Json.Reports
import DefaultGateway.Kernel
import DefaultGateway.Daemon
import DefaultGateway.StatusReport
import DefaultGateway.Proofs.Coherence
import DefaultGateway.Proofs.Convergence
import DefaultGateway.Proofs.Continuity
import DefaultGateway.Proofs.Confinement
import DefaultGateway.Proofs.Sync
import DefaultGateway.Proofs.SyncHistory
import DefaultGateway.Proofs.Orphans
import DefaultGateway.Proofs.VersionOrder
import DefaultGateway.Proofs.Forecast
import DefaultGateway.Proofs.Replay
import DefaultGateway.Proofs.Overlap
import DefaultGateway.Proofs.SyncRequests
import DefaultGateway.Proofs.Handlers
import DefaultGateway.Proofs.Rounds
import DefaultGateway.Proofs.Restart
import DefaultGateway.Proofs.Arrival
import DefaultGateway.Proofs.Batches
import DefaultGateway.Proofs.Remaining
import DefaultGateway.Proofs.Enrolment
import DefaultGateway.Proofs.Datagrams
import DefaultGateway.Proofs.Refusals
import DefaultGateway.Proofs.Interrupted
import DefaultGateway.Proofs.StoreText
import DefaultGateway.Proofs.StoreDefaults
import DefaultGateway.Proofs.Rereads
import DefaultGateway.Proofs.StoreUpdates
import DefaultGateway.Proofs.Echoes
import DefaultGateway.Proofs.Inventory
import DefaultGateway.Proofs.Renewal
import DefaultGateway.Proofs.StoreEdits
import DefaultGateway.Proofs.Acceptance
import DefaultGateway.Proofs.Flap
import DefaultGateway.Proofs.RuleReach
import DefaultGateway.Proofs.RouteNotices
import DefaultGateway.Proofs.OtherFamilies
import DefaultGateway.Proofs.ConfigReload
import DefaultGateway.Proofs.PendingFailures
import DefaultGateway.Proofs.StaleHandles
import DefaultGateway.Proofs.Prefixes
import DefaultGateway.Proofs.Tags
