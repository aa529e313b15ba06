import ComputeGrid.Duration
import ComputeGrid.Json.Reader
import ComputeGrid.Json.Record
import ComputeGrid.Json.Writer
import ComputeGrid.Text.Base64
import ComputeGrid.Text.Hex
import ComputeGrid.Text.Quoted
import ComputeGrid.Address.Network
import ComputeGrid.Digest.Sha2
import ComputeGrid.Curve25519.Ladder
import ComputeGrid.Identity
import ComputeGrid.Workload.Basic
import ComputeGrid.Workload.Content
import ComputeGrid.Workload.Validity
import ComputeGrid.Contract
import ComputeGrid.Deployment.Challenge
import ComputeGrid.Deployment.Validity
import ComputeGrid.Toml.Reader
import ComputeGrid.Settings.Document
import ComputeGrid.Inventory.Codec
import ComputeGrid.Inventory.Store
import ComputeGrid.Exchange
import ComputeGrid.Polling.Convergence
import ComputeGrid.Grid.Wire
import ComputeGrid.Grid.Tasks
import ComputeGrid.Reconcile.Basic
import ComputeGrid.Mesh.Codec
import ComputeGrid.Mesh.Planner
import ComputeGrid.ErrorRecords
import ComputeGrid.Grid.Codec
import ComputeGrid.Proofs.Ledger.Operations
import ComputeGrid.Proofs.Deployment.Content
import ComputeGrid.Proofs.Grid.Footprint
import ComputeGrid.Proofs.Grid.Calls
import ComputeGrid.Proofs.Grid.Fetch
import ComputeGrid.Proofs.Grid.Covering
import ComputeGrid.Proofs.Polling.Retry
import ComputeGrid.Proofs.Deployment.Validity
import ComputeGrid.Proofs.Workload.Validity
import ComputeGrid.Proofs.Deployment.Acceptance
import ComputeGrid.Proofs.Polling.Convergence
import ComputeGrid.Proofs.Reconcile.Exchanges
import ComputeGrid.Proofs.Reconcile.Steps
import ComputeGrid.Proofs.Reconcile.Traces
import ComputeGrid.Proofs.Reconcile.Runs
import ComputeGrid.Proofs.Reconcile.Accounting
import ComputeGrid.Proofs.Reconcile.Placement
import ComputeGrid.Proofs.Reconcile.Idempotence
import ComputeGrid.Proofs.Text.Numerals
import ComputeGrid.Proofs.Json.Encoding
import ComputeGrid.Proofs.Workload.Encoding
import ComputeGrid.Proofs.Deployment.Encoding
import ComputeGrid.Proofs.Reconcile.Holdings
import ComputeGrid.Proofs.Reconcile.Success
import ComputeGrid.Proofs.Reconcile.Agreement
import ComputeGrid.Proofs.Deployment.Versions
import ComputeGrid.Proofs.Reconcile.History
import ComputeGrid.Proofs.Reconcile.Reverting
import ComputeGrid.Proofs.Text.Base64
import ComputeGrid.Proofs.Address.Ranges
import ComputeGrid.Proofs.Mesh.Subnets
import ComputeGrid.Proofs.Mesh.Keys
import ComputeGrid.Proofs.Mesh.Passes
import ComputeGrid.Proofs.Mesh.Probing
import ComputeGrid.Proofs.Mesh.Relays
import ComputeGrid.Proofs.Mesh.Choices
import ComputeGrid.Proofs.Mesh.Stability
import ComputeGrid.Proofs.Mesh.Replanning
import ComputeGrid.Proofs.Mesh.Peers
import ComputeGrid.Proofs.Mesh.QuickConfig
import ComputeGrid.Proofs.Mesh.Routing
import ComputeGrid.Proofs.Mesh.Octets
import ComputeGrid.Proofs.Mesh.AllowedIps
import ComputeGrid.Proofs.Mesh.Carriers
import ComputeGrid.Proofs.Mesh.Observing
import ComputeGrid.Proofs.Mesh.Agreement
import ComputeGrid.Proofs.Mesh.Submitting
import ComputeGrid.Proofs.Mesh.Secrecy
import ComputeGrid.Proofs.Records
import ComputeGrid.Proofs.Reconcile.Logs
import ComputeGrid.Proofs.Reconcile.Signing
import ComputeGrid.Proofs.Feasibility
import ComputeGrid.Proofs.Reconcile.Stopping
import ComputeGrid.Proofs.Reconcile.Reserving
import ComputeGrid.Proofs.Reconcile.Raising
import ComputeGrid.Proofs.Reconcile.Removing
import ComputeGrid.Proofs.Grid.Tasks
import ComputeGrid.Proofs.Reconcile.Waiting
import ComputeGrid.Proofs.Polling.Overflow
import ComputeGrid.Proofs.Polling.Progress
import ComputeGrid.Proofs.Reconcile.Updating
import ComputeGrid.Proofs.Feasibility.Acceptance
import ComputeGrid.Proofs.Inventory
import ComputeGrid.Proofs.Mesh.Searching
import ComputeGrid.Proofs.Mesh.Allotment
import ComputeGrid.Proofs.Mesh.Ports
import ComputeGrid.Proofs.Mesh.Listening
import ComputeGrid.Proofs.Mesh.Electing
import ComputeGrid.Proofs.Mesh.Delays
import ComputeGrid.Proofs.Mesh.Blocking
import ComputeGrid.Proofs.Polling.Attempts
import ComputeGrid.Proofs.Mesh.Reservations
import ComputeGrid.Proofs.Mesh.Merging
import ComputeGrid.Proofs.Ledger.Numbers
import ComputeGrid.Proofs.Polling.Waits
import ComputeGrid.Proofs.Mesh.Vacancies
import ComputeGrid.Proofs.Ledger.Lifecycle
import ComputeGrid.Proofs.Duration.Reading
