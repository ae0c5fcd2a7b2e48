/-
# The ledger's tables

The rows of the application schema (`gum-schema/migrations/0001_application.sql`) that the
deposit-request life cycle reads and writes, and the messages of `gum-contracts` that the
sweep workflow exchanges with the signers.  Columns that the schema's `CHECK` constraints
tie together are one field here: the binding is written as a whole
(`invoices_binding_complete`), a drain and a collection position have both coordinates or
none, a credited observation has no reason and any other one has, and a job has a
resolution exactly when it has a resolution time.

Amounts are natural numbers (the columns are decimal texts); `U256` bounds are checked
where the code checks them.  `Time` is a database timestamp in microseconds, block
timestamps are seconds.
-/
import Mathlib.Data.Prod.Lex
import Payday.Lib.Table

namespace Payday

abbrev ChainId := ℕ
abbrev Address := ℕ
abbrev Hash := ℕ
abbrev InvoiceId := ℕ
abbrev JobId := ℕ
abbrev IntentId := ℕ
abbrev Time := ℕ

/-- A transaction's place on its chain: block number, then index in the block.  SQL's row
comparison `(block_number, transaction_index) < ($2, $3)` is this lexicographic order. -/
abbrev Position := ℕ ×ₗ ℕ

/-- The position with the given block and transaction index. -/
def position (block index : ℕ) : Position := toLex (block, index)

inductive Currency
  | usdc
  | usdt
deriving DecidableEq, Repr

inductive InvoiceStatus
  | created
  | funded
  | fulfilled
  | recovered
  | expired
deriving DecidableEq, Repr

namespace InvoiceStatus

/-- `fulfilled` and `recovered`: the payment contract exists and routed its balance. -/
def isTerminal : InvoiceStatus → Bool
  | fulfilled | recovered => true
  | _ => false

/-- `created` and `funded`: deposits still count toward the amount. -/
def isOpen : InvoiceStatus → Bool
  | created | funded => true
  | _ => false

end InvoiceStatus

/-- The addressing block of a request, written once and as a whole. -/
structure Binding where
  chainId : ChainId
  factory : Address
  token : Address
  salt : Hash
  paymentAddress : Address
  readyAt : Time
  /-- The attested wallet, for a request with the wallet-attestation add-on. -/
  payerWallet : Option Address
deriving DecidableEq

/-- A deposit request: the columns of `invoices` the life cycle uses. -/
structure Invoice where
  id : InvoiceId
  currency : Currency
  beneficiary : Address
  recovery : Address
  amount : ℕ
  /-- `invoices_amount_positive`. -/
  amount_pos : 0 < amount
  expirationTimestamp : ℕ
  walletAttestationRequired : Bool
  expectedEmail : Option String
  payerReference : Option String
  verificationCompletedAt : Option Time
  binding : Option Binding
  status : InvoiceStatus
  /-- Sum of finalized transfers credited toward `amount`. -/
  confirmedReceived : ℕ
  fundedAtBlock : Option ℕ
  fundedAtBlockHash : Option Hash
  observedAmount : Option ℕ
  paidAt : Option ℕ
  expiredAt : Option ℕ
  /-- The transaction that deployed `Payment`, when this service sent it. -/
  executeTxHash : Option Hash
  settlementTxHash : Option Hash
  /-- Position of the transaction that first settled or returned the request. -/
  settlementTransactionIndex : Option ℕ
  /-- Block at which the request reached `fulfilled` or `recovered`. -/
  resolvedAtBlock : Option ℕ
  settledAt : Option ℕ
  /-- The last finalized transaction that emptied the payment address. -/
  drainedAt : Option Position
  /-- Nonzero observations not yet known to have been drained. -/
  uncollectedCount : ℕ
  sweepJobId : Option JobId
  sweepAttempts : ℕ
  lastAttemptAt : Option Time
  attentionReason : Option String
  likelyUnsolicitedAt : Option ℕ
  cancellationRequestedAt : Option Time
  updatedAt : Time
deriving DecidableEq

/-- One validated, finalized `Transfer` log to a watched address. -/
structure PaymentObservation where
  token : Address
  blockNumber : ℕ
  blockHash : Hash
  blockTimestamp : ℕ
  transactionHash : Hash
  transactionIndex : ℕ
  logIndex : ℕ
  sender : Address
  recipient : Address
  amount : ℕ
deriving DecidableEq, Repr

/-- The position of the transaction that made the transfer. -/
def PaymentObservation.position (o : PaymentObservation) : Position :=
  Payday.position o.blockNumber o.transactionIndex

/-- `zero_amount`, or `invoice_` followed by the status the request had. -/
inductive DispositionReason
  | zeroAmount
  | invoice (status : InvoiceStatus)
deriving DecidableEq, Repr

inductive Disposition
  | credited
  | late (reason : DispositionReason)
  | error (reason : DispositionReason)
deriving DecidableEq, Repr

/-- The `disposition` column alone. -/
inductive DispositionKind
  | credited
  | late
  | error
deriving DecidableEq, Repr

def Disposition.kind : Disposition → DispositionKind
  | credited => .credited
  | late _ => .late
  | error _ => .error

/-- A row of `payment_observations`. -/
structure ObservationRow where
  chainId : ChainId
  observation : PaymentObservation
  invoiceId : InvoiceId
  disposition : Disposition
  collectedAt : Option Position
  relayIntentId : Option IntentId
  relayParkedAt : Option Time
deriving DecidableEq

/-- The primary key of `payment_observations`. -/
def observationKey (chainId : ChainId) (o : PaymentObservation) : ChainId × Address × Hash × ℕ :=
  (chainId, o.token, o.transactionHash, o.logIndex)

namespace ObservationRow

def key (r : ObservationRow) : ChainId × Address × Hash × ℕ :=
  observationKey r.chainId r.observation

/-- `disposition <> 'error' AND collected_at_block IS NULL`. -/
def isUncollected (r : ObservationRow) : Bool :=
  r.disposition.kind != .error && r.collectedAt.isNone

def isCredited (r : ObservationRow) : Bool := r.disposition.kind == .credited

end ObservationRow

inductive RelayIntentStatus
  | quoted
  | sent
  | filled
  | failed
  | refunded
  | expired
deriving DecidableEq, Repr

/-- A row of `relay_intents`. -/
structure RelayIntent where
  id : IntentId
  invoiceId : InvoiceId
  requestId : Hash
  originChainId : ChainId
  destinationChainId : ChainId
  payerWallet : Address
  quotedInAmount : ℕ
  quotedOutAmount : ℕ
  status : RelayIntentStatus
  originTxHash : Option Hash
  verifiedOriginTxHash : Option Hash
  fillTxHashes : List Hash
  relayStatus : Option String
  nextCheckAt : Option Time
  createdAt : Time
  sentAt : Option Time
  resolvedAt : Option Time
  expiresAt : Time
deriving DecidableEq

/-! ### Messages to and from the signers -/

inductive SweepItemStatus
  | open
  | closed
deriving DecidableEq, Repr

/-- The context of one request, as it was when its job was scheduled. -/
structure SweepItem where
  invoiceId : InvoiceId
  paymentAddress : Address
  currency : Currency
  token : Address
  amount : ℕ
  receiver : Address
  expirationTimestamp : ℕ
  recovery : Address
  salt : Hash
  status : SweepItemStatus
  /-- The ledger already holds a settlement transaction for this request. -/
  settlementRecorded : Bool
  firstObservedBlock : Option ℕ
deriving DecidableEq, Repr

structure SweepBatchCommand where
  jobId : JobId
  chainId : ChainId
  items : List SweepItem
deriving DecidableEq, Repr

/-- A third party's deployment of a `Payment`, with what its constructor routed. -/
structure SettlementEvidence where
  txHash : Hash
  block : ℕ
  transactionIndex : ℕ
  blockTimestamp : ℕ
  settled : Option ℕ
  recovered : ℕ
deriving DecidableEq, Repr

def SettlementEvidence.position (e : SettlementEvidence) : Position :=
  Payday.position e.block e.transactionIndex

inductive SweepFailureCause
  | tokenPaused
  | paymentAddressBlacklisted
  | recoveryBlacklisted
  | beneficiaryBlacklisted
  | balanceBelowAmount
  | unknown
deriving DecidableEq, Repr

def SweepFailureCause.asStr : SweepFailureCause → String
  | tokenPaused => "token_paused"
  | paymentAddressBlacklisted => "payment_address_blacklisted"
  | recoveryBlacklisted => "recovery_blacklisted"
  | beneficiaryBlacklisted => "beneficiary_blacklisted"
  | balanceBelowAmount => "balance_below_amount"
  | unknown => "unknown"

/-- What the finalized receipt proved about one payment address. -/
inductive SweepItemOutcome
  | settled (overpaymentRecovered : ℕ)
  | returned (amount : ℕ)
  | lateCollected (amount : ℕ) (settlement : Option SettlementEvidence)
  | failed (cause : SweepFailureCause)
deriving DecidableEq, Repr

structure SweepItemResult where
  invoiceId : InvoiceId
  outcome : SweepItemOutcome
deriving DecidableEq, Repr

/-- The finalized receipt of a job's helper transaction, as the signers reported it. -/
structure FinalizedSweep where
  jobId : JobId
  txHash : Hash
  block : ℕ
  blockHash : Hash
  blockTimestamp : ℕ
  transactionIndex : ℕ
  items : List SweepItemResult
deriving DecidableEq, Repr

def FinalizedSweep.position (r : FinalizedSweep) : Position :=
  Payday.position r.block r.transactionIndex

inductive AbandonReason
  | reverted (txHash : Hash)
  | nonceConsumed (signer : Address) (nonce : ℕ)
  | rejected (reason : String)
deriving DecidableEq, Repr

/-! ### Jobs, recoveries and the indexer's cursor -/

/-- `resolution` with its `resolution_detail`. -/
inductive JobResolution
  | finalized
  | abandoned (reason : AbandonReason)
  | rejected (reason : String)
deriving DecidableEq, Repr

structure SweepJob where
  id : JobId
  chainId : ChainId
  correlationId : ℕ
  createdAt : Time
  submittedTxHash : Option Hash
  submittedAt : Option Time
  resolution : Option (JobResolution × Time)
deriving DecidableEq

/-- Which requests a job carries, and what the signers proved about each. -/
structure SweepJobItem where
  jobId : JobId
  invoiceId : InvoiceId
  attempt : ℕ
  outcome : Option String
  outcomeDetail : Option SweepItemOutcome
deriving DecidableEq

/-- Why an amount left a payment address for the platform recovery wallet. -/
inductive RecoveryReason
  | overpayment
  | expired
  | lateTransfer
deriving DecidableEq, Repr

/-- A row of `recovered_funds`: one amount the recovery wallet received on a request's
behalf, keyed by the chain transaction that moved it. -/
structure RecoveredFunds where
  invoiceId : InvoiceId
  txHash : Hash
  reason : RecoveryReason
  amount : ℕ
  block : ℕ
  blockTimestamp : ℕ
deriving DecidableEq, Repr

def RecoveredFunds.key (r : RecoveredFunds) : InvoiceId × Hash × RecoveryReason :=
  (r.invoiceId, r.txHash, r.reason)

/-- The last finalized range the ledger committed for a chain. -/
structure IndexerCursor where
  block : ℕ
  blockHash : Hash
  blockTimestamp : Option ℕ
deriving DecidableEq, Repr

structure ChainFault where
  id : ℕ
  chainId : ChainId
  reason : String
  block : Option ℕ
  raisedAt : Time
  clearedAt : Option Time
deriving DecidableEq

/-- The ledger: every table the deposit-request life cycle writes. -/
structure Ledger where
  invoices : Table Invoice.id
  observations : Table ObservationRow.key
  sweepJobs : Table SweepJob.id
  sweepJobItems : Table (fun item : SweepJobItem => (item.jobId, item.invoiceId))
  recoveredFunds : Table RecoveredFunds.key
  relayIntents : Table RelayIntent.id
  indexerCursor : Table (Prod.fst : ChainId × IndexerCursor → ChainId)
  chainFaults : Table ChainFault.id
  /-- `SweepBatch` messages on the `execution.commands` topic, unique by job. -/
  commands : Table SweepBatchCommand.jobId
  /-- `notification_outbox`: the attention mails, by request and reason. -/
  notificationOutbox : List (InvoiceId × String)

namespace Ledger

/-- The ledger before anything was issued. -/
def empty : Ledger where
  invoices := Table.empty
  observations := Table.empty
  sweepJobs := Table.empty
  sweepJobItems := Table.empty
  recoveredFunds := Table.empty
  relayIntents := Table.empty
  indexerCursor := Table.empty
  chainFaults := Table.empty
  commands := Table.empty
  notificationOutbox := []

/-- The observations of one request. -/
def observationsOf (L : Ledger) (id : InvoiceId) : List ObservationRow :=
  L.observations.rows.filter (fun r => r.invoiceId = id)

/-- The stored cursor of a chain. -/
def cursor (L : Ledger) (chainId : ChainId) : Option IndexerCursor :=
  (L.indexerCursor.find? chainId).map Prod.snd

end Ledger

/-- `count(*)` of the uncollected observations. -/
def uncollectedIn (rows : List ObservationRow) : ℕ := rows.countP (·.isUncollected)

/-- `sum(amount)` of the credited observations. -/
def creditedIn (rows : List ObservationRow) : ℕ :=
  ((rows.filter (·.isCredited)).map (·.observation.amount)).sum

end Payday
