import Payday.Lib.Table
import Payday.Ledger.Schema
import Payday.Ledger.Range
import Payday.Ledger.Sweeps
import Payday.Ledger.Requests
import Payday.Ledger.RelayIntents
import Payday.Ledger.ExecutionEvents
import Payday.Ledger.RangeLoop
import Payday.Ledger.Lifecycle
import Payday.Ledger.Operations
import Payday.Ledger.Frame
import Payday.Ledger.SweepLoop
import Payday.Ledger.Simulation
import Payday.Ledger.Jobs
import Payday.Ledger.Aggregates
import Payday.Ledger.Settlement
import Payday.Ledger.Membership
import Payday.Ledger.ClosedForm
import Payday.Ledger.OrderIndependence
import Payday.Signers.Classify
import Payday.Signers.Evidence
import Payday.Chain.Logs
import Payday.Contracts.Payment
import Payday.System.History
import Payday.Lib.Window
import Payday.System.Readers
import Payday.System.World
import Payday.System.Scan
import Payday.System.Receipts
import Payday.System.Lifecycle
import Payday.System.PaidInFull
import Payday.Ledger.Recoveries
import Payday.System.Recoveries
import Payday.Chain.Transfers
import Payday.Indexer.Pass
import Payday.Indexer.Fleet
import Payday.Indexer.Coverage
import Payday.Bus.Deliveries
import Payday.Bus.Workers
import Payday.Bus.AtMostOnce
import Payday.Bus.NothingLost
import Payday.Signers.Messages
import Payday.Signers.Store
import Payday.Signers.Executor
import Payday.Signers.Passes
import Payday.Signers.Changes
import Payday.Signers.OneSlot
import Payday.Signers.Memory
import Payday.Signers.Durability
import Payday.Signers.SoloExecutor
import Payday.Signers.LostCommits
import Payday.Withdrawals.Schema
import Payday.Withdrawals.Operations
import Payday.Withdrawals.Changes
import Payday.Withdrawals.StateMachine
import Payday.Lib.Bytes
import Payday.Withdrawals.Orchestrator
import Payday.Withdrawals.Attestations
import Payday.Signers.StepEvidence
import Payday.Withdrawals.Relay
import Payday.Withdrawals.MovedMoney
import Payday.Lib.Text
import Payday.Proofs.Documents
import Payday.Proofs.Issuance
import Payday.Proofs.Verify
import Payday.Proofs.Accepted
import Payday.Proofs.Served
import Payday.Proofs.Binding
import Payday.Proofs.Honest
import Payday.Proofs.Pinned
import Payday.Proofs.Rows
import Payday.Proofs.Agreement
import Payday.Ledger.Provenance
import Payday.System.ChainControl
import Payday.Ledger.Parking
import Payday.Ledger.Unsolicited
import Payday.Ledger.FillOrder
import Payday.Withdrawals.Unrelayed
import Payday.Chain.Outcomes
import Payday.Contracts.BatchSweeper
import Payday.Verification.Sessions
import Payday.Verification.Gate
import Payday.Verification.Payer
import Payday.Verification.Previews
import Payday.Ledger.Reasons
import Payday.Ledger.Writes
import Payday.Ledger.Queue
import Payday.Ledger.Exhaustion
import Payday.Ledger.Backoff
import Payday.Api.Amounts
import Payday.Api.Listing
import Payday.Ledger.Replay
import Payday.Webhooks.Deliveries
import Payday.Webhooks.Attempts
import Payday.Webhooks.Events
import Payday.Webhooks.Completeness
import Payday.Ledger.Issuance
import Payday.Ledger.IssuanceRaces
import Payday.Webhooks.Payload
import Payday.Relay.Poller
import Payday.Relay.Evidence
import Payday.Ledger.OneLog
import Payday.Signers.Fees
import Payday.System.Events
import Payday.System.Searches
import Payday.Indexer.Signal
import Payday.Indexer.Subscriptions
import Payday.Indexer.WatchList
import Payday.Withdrawals.Authorizations
import Payday.Withdrawals.SignedDestination
import Payday.Proofs.Database
import Payday.Proofs.Inputs
import Payday.Proofs.Verifies
import Payday.Proofs.Immutable
import Payday.Proofs.Cache
import Payday.Accounts.Keys
import Payday.Accounts.Requests
import Payday.Accounts.Recorded
import Payday.Accounts.History
import Payday.Attachments.Bucket
import Payday.Attachments.Uploads
import Payday.Attachments.Committed
import Payday.Lib.Javascript
import Payday.Withdrawals.Documents
import Payday.Withdrawals.Signing
import Payday.Withdrawals.TypedData
import Payday.Withdrawals.ServedDocuments
import Payday.Withdrawals.UntrustedServer
