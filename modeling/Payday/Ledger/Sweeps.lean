/-
# Sweep jobs

The ledger side of the settlement workflow (`gum-ledger/src/sweeps.rs`): the scheduler that
turns a slice of the queue into a job with its command, the policy `decide` that says what
one item's evidence does to its request, and the `apply_*` functions that turn evidence
into life-cycle transitions inside the caller's transaction.

The `apply_*` functions write statement by statement on the connection they are given, so
they return the connection's ledger also when they fail; whether it is committed is up to
the caller (`ExecutionEvents`).
-/
import Mathlib.Data.Rat.Lemmas
import Mathlib.Algebra.Order.Ring.Rat
import Payday.Ledger.Range

namespace Payday

/-- The attention code a request receives when its sweep failed for an unexplained reason
more times than the policy allows. -/
def RETRIES_EXHAUSTED : String := "retries_exhausted"

/-- The attention code for a collected item whose third-party settlement the signers could
not describe. -/
def SETTLEMENT_UNKNOWN : String := "settlement_unknown"

/-- Scheduler tunables. -/
structure SweepPolicy where
  batchSize : ℕ
  backoffBaseSecs : ℚ
  backoffCapSecs : ℚ
  maxAttempts : ℕ
deriving DecidableEq

/-- `SweepPolicy::default()`. -/
def SweepPolicy.default : SweepPolicy := ⟨20, 30, 3600, 5⟩

inductive SweepError
  | database (error : SqlxError)
  | unbound (invoiceId : InvoiceId)
  | notOpen (jobId : JobId)
  | foreignItem (jobId : JobId) (invoiceId : InvoiceId)
  | missingOutcomes (jobId : JobId) (count : ℕ)
deriving DecidableEq, Repr

structure ScheduledSweepJob where
  jobId : JobId
  correlationId : ℕ
  invoiceIds : List InvoiceId
deriving DecidableEq, Repr

/-- What applying a finalized receipt did. -/
structure AppliedSweep where
  settled : List InvoiceId := []
  returned : List InvoiceId := []
  collected : List InvoiceId := []
  requeued : List InvoiceId := []
  attention : List (InvoiceId × String) := []
deriving DecidableEq, Repr

/-- The effect of a drain: the payment address was emptied in the receipt's transaction. -/
structure Drain where
  /-- The terminal state an open request moves to; `none` keeps the status. -/
  status : Option InvoiceStatus
  /-- Whether the job's transaction deployed the payment contract. -/
  executeTx : Bool
  settlementTxHash : Hash
  settlementBlock : ℕ
  settlementTransactionIndex : ℕ
  settlementTimestamp : ℕ
  recoveries : List RecoveredFunds
  attention : Option String
deriving DecidableEq, Repr

/-- The life-cycle effect of one item's evidence. -/
inductive ItemDecision
  | drained (drain : Drain)
  | retry
  | attention (reason : String)
deriving DecidableEq, Repr

/-- A recovery row, unless the amount is zero. -/
def recovered (invoiceId : InvoiceId) (amount : ℕ) (reason : RecoveryReason) (txHash : Hash)
    (block blockTimestamp : ℕ) : Option RecoveredFunds :=
  if amount = 0 then none else some ⟨invoiceId, txHash, reason, amount, block, blockTimestamp⟩

/-- A drain whose settlement is the job's own transaction. -/
def ownDrain (receipt : FinalizedSweep) (status : Option InvoiceStatus) (executeTx : Bool)
    (recoveries : List RecoveredFunds) (attention : Option String) : Drain where
  status := status
  executeTx := executeTx
  settlementTxHash := receipt.txHash
  settlementBlock := receipt.block
  settlementTransactionIndex := receipt.transactionIndex
  settlementTimestamp := receipt.blockTimestamp
  recoveries := recoveries
  attention := attention

/-- Policy: what one item's evidence does to its request. -/
def decideItem (row : Invoice) (receipt : FinalizedSweep) (outcome : SweepItemOutcome)
    (policy : SweepPolicy) : ItemDecision :=
  let terminal := row.status.isTerminal
  let own := fun amount reason =>
    (recovered row.id amount reason receipt.txHash receipt.block receipt.blockTimestamp).toList
  match outcome with
  | .settled overpaymentRecovered =>
    .drained (ownDrain receipt (some .fulfilled) true (own overpaymentRecovered .overpayment) none)
  | .returned amount =>
    .drained (ownDrain receipt (some .recovered) true (own amount .expired) none)
  | .lateCollected amount none =>
    if terminal || row.settlementTxHash.isSome then
      .drained (ownDrain receipt none false (own amount .lateTransfer) none)
    else
      .drained (ownDrain receipt none false (own amount .lateTransfer) (some SETTLEMENT_UNKNOWN))
  | .lateCollected amount (some evidence) =>
    let status := if terminal then none
      else if evidence.settled.isSome then some .fulfilled else some .recovered
    let reason := if evidence.settled.isSome then RecoveryReason.overpayment
      else RecoveryReason.expired
    let settlementRecovery := if terminal then []
      else (recovered row.id evidence.recovered reason evidence.txHash evidence.block
        evidence.blockTimestamp).toList
    .drained {
      status := status
      executeTx := false
      settlementTxHash := evidence.txHash
      settlementBlock := evidence.block
      settlementTransactionIndex := evidence.transactionIndex
      settlementTimestamp := evidence.blockTimestamp
      recoveries := settlementRecovery ++ own amount .lateTransfer
      attention := none }
  | .failed .tokenPaused => .retry
  | .failed .unknown =>
    if policy.maxAttempts ≤ row.sweepAttempts + 1 then .attention RETRIES_EXHAUSTED else .retry
  | .failed cause => .attention cause.asStr

/-! ### Scheduling -/

/-- Whether the chain has an open fault. -/
def Ledger.isHalted (L : Ledger) (chainId : ChainId) : Bool :=
  L.chainFaults.rows.any (fun fault => fault.chainId = chainId && fault.clearedAt.isNone)

/-- `COALESCE((SELECT last_block_timestamp FROM indexer_cursor …), 0)`. -/
def Ledger.clock (L : Ledger) (chainId : ChainId) : ℕ :=
  ((L.cursor chainId).bind (·.blockTimestamp)).getD 0

/-- The eligibility predicate shared by the scheduler and the queue stats, for a request
bound to `chainId`. -/
def eligible (L : Ledger) (chainId : ChainId) (row : Invoice) : Bool :=
  decide (0 < row.uncollectedCount) && row.sweepJobId.isNone && row.attentionReason.isNone &&
    (decide (row.status = .expired ∨ row.status = .fulfilled ∨ row.status = .recovered) ||
      (decide (row.status = .funded) &&
        ((row.expectedEmail.isNone && row.payerReference.isNone) ||
          row.verificationCompletedAt.isSome) &&
        decide (L.clock chainId ≤ row.expirationTimestamp)))

/-- The largest finite `double precision` value. -/
def maxDouble : ℚ := ((2 ^ 53 - 1) * 2 ^ 971 : ℕ)

/-- `LEAST(base * pow(2, sweep_attempts), cap)`; Postgres raises an error when the power or
the product leaves the range of `double precision`. -/
def backoffSecs (policy : SweepPolicy) (attempts : ℕ) : Except SqlxError ℚ :=
  let power : ℚ := (2 ^ attempts : ℕ)
  if maxDouble < power ∨ maxDouble < policy.backoffBaseSecs * power then
    .error (.database "value out of range: overflow")
  else .ok (min (policy.backoffBaseSecs * power) policy.backoffCapSecs)

/-- Whether the row's backoff has elapsed. -/
def backoffElapsed (policy : SweepPolicy) (now : Time) (row : Invoice) : Except SqlxError Bool :=
  match row.lastAttemptAt with
  | none => .ok true
  | some last =>
    match backoffSecs policy row.sweepAttempts with
    | .error e => .error e
    | .ok secs => .ok (decide ((last : ℚ) + secs * 1000000 ≤ now))

/-- The rows whose backoff has elapsed; the first overflow fails the whole statement. -/
def dueRows (policy : SweepPolicy) (now : Time) : List Invoice → Except SqlxError (List Invoice)
  | [] => .ok []
  | row :: rest =>
    match backoffElapsed policy now row, dueRows policy now rest with
    | .error e, _ => .error e
    | _, .error e => .error e
    | .ok due, .ok rows => .ok (if due then row :: rows else rows)

/-- How the database runs the scheduler's query, as far as the query leaves it open. -/
structure SweepScan where
  /-- The rows other transactions hold, which `FOR UPDATE SKIP LOCKED` passes over. -/
  locked : List InvoiceId := []
  /-- The rows are read by id until the batch is full; otherwise all of them are read and sorted. -/
  byId : Bool := false
  /-- Rows whose backoff is computed although another condition turns out to fail: the order of the
  conditions is the planner's. -/
  eager : List InvoiceId := []
deriving DecidableEq, Repr

/-- Whether the row is bound on the chain and eligible there. -/
def Ledger.waits (L : Ledger) (chainId : ChainId) (row : Invoice) : Bool :=
  decide (row.binding.map (·.chainId) = some chainId) && eligible L chainId row

/-- Whether the row enters the batch: its lock is taken after the conditions were computed. -/
def SweepScan.picks (scan : SweepScan) (L : Ledger) (now : Time) (policy : SweepPolicy)
    (chainId : ChainId) (row : Invoice) : Bool :=
  L.waits chainId row && decide (backoffElapsed policy now row = .ok true) &&
    !scan.locked.contains row.id

/-- The rows read in order until `n` of them are picked. -/
def readTo {α : Type*} (picks : α → Bool) : ℕ → List α → List α
  | 0, _ => []
  | _ + 1, [] => []
  | n + 1, row :: rest => row :: readTo picks (if picks row then n else n + 1) rest

/-- The rows that the query reads.  A batch of none is full before the first. -/
def SweepScan.reads (scan : SweepScan) (L : Ledger) (now : Time) (policy : SweepPolicy)
    (chainId : ChainId) : List Invoice :=
  readTo (fun row => scan.byId && scan.picks L now policy chainId row) policy.batchSize
    (L.invoices.rows.insertionSort (fun a b => a.id ≤ b.id))

/-- Whether the backoff of the row is computed when it is read. -/
def SweepScan.computes (scan : SweepScan) (L : Ledger) (chainId : ChainId) (row : Invoice) : Bool :=
  L.waits chainId row || scan.eager.contains row.id

/-- The candidates of one scheduling transaction, oldest id first. -/
def candidates (L : Ledger) (now : Time) (policy : SweepPolicy) (chainId : ChainId)
    (scan : SweepScan) : Except SqlxError (List Invoice) :=
  match dueRows policy now ((scan.reads L now policy chainId).filter
      (scan.computes L chainId)) with
  | .error e => .error e
  | .ok due => .ok ((due.filter (fun row =>
      L.waits chainId row && !scan.locked.contains row.id)).take policy.batchSize)

/-- Put a request into a job. -/
def Invoice.claim (jobId : JobId) (now : Time) (row : Invoice) : Invoice :=
  { row with sweepJobId := some jobId, lastAttemptAt := some now, updatedAt := now }

/-- `min(block_number)` over the request's observations that are not errors. -/
def firstObservedBlock (L : Ledger) (id : InvoiceId) : Option ℕ :=
  (((L.observationsOf id).filter (fun r => r.disposition.kind != .error)).map
    (·.observation.blockNumber)).min?

/-- The context of one request for the signers. -/
def sweepItem (row : Invoice) (firstObserved : Option ℕ) : Except SweepError SweepItem :=
  match row.binding with
  | none => .error (.unbound row.id)
  | some binding => .ok {
      invoiceId := row.id
      paymentAddress := binding.paymentAddress
      currency := row.currency
      token := binding.token
      amount := row.amount
      receiver := row.beneficiary
      expirationTimestamp := row.expirationTimestamp
      recovery := row.recovery
      salt := binding.salt
      status := if row.status.isTerminal then .closed else .open
      settlementRecorded := row.settlementTxHash.isSome
      firstObservedBlock := firstObserved }

/-- The items of a job, in the order of its rows. -/
def sweepItems (L : Ledger) : List Invoice → Except SweepError (List SweepItem)
  | [] => .ok []
  | row :: rest =>
    match sweepItem row (firstObservedBlock L row.id), sweepItems L rest with
    | .error e, _ => .error e
    | _, .error e => .error e
    | .ok item, .ok items => .ok (item :: items)

/-- Open one sweep job for the chain if any request is eligible: claim the requests, write
the job and its items, and publish the command, all in one transaction. -/
def scheduleSweepJob (L : Ledger) (now : Time) (policy : SweepPolicy) (chainId : ChainId)
    (jobId : JobId) (correlationId : ℕ) (scan : SweepScan) :
    Except SweepError (Ledger × Option ScheduledSweepJob) :=
  if L.isHalted chainId then .ok (L, none)
  else match L.sweepJobs.insert? ⟨jobId, chainId, correlationId, now, none, none, none⟩ with
    | none => .error (.database (.database "duplicate key value violates sweep_jobs_pkey"))
    | some jobs =>
      match candidates L now policy chainId scan with
      | .error e => .error (.database e)
      | .ok [] => .ok (L, none)
      | .ok (first :: rest) =>
        let rows := first :: rest
        match sweepItems L rows with
        | .error e => .error e
        | .ok items =>
          .ok ({ L with
            sweepJobs := jobs
            invoices := L.invoices.updateWhere (fun row => (rows.map (·.id)).contains row.id)
              (Invoice.claim jobId now)
            sweepJobItems := rows.foldl (fun table row =>
              table.insertNew ⟨jobId, row.id, row.sweepAttempts, none, none⟩) L.sweepJobItems
            commands := L.commands.insertNew ⟨jobId, chainId, items⟩ },
            some ⟨jobId, correlationId, rows.map (·.id)⟩)

/-! ### Attention -/

/-- Set `attention_reason` on a request that has none and enqueue the merchant email. -/
def flagAttentionIn (L : Ledger) (now : Time) (id : InvoiceId) (reason : String) : Ledger :=
  match (L.invoices.find? id).filter (·.attentionReason.isNone) with
  | none => L
  | some _ => { L with
      invoices := L.invoices.updateWhere (fun row => decide (row.id = id) && row.attentionReason.isNone)
        (fun row => { row with attentionReason := some reason, updatedAt := now })
      notificationOutbox := L.notificationOutbox ++ [(id, reason)] }

/-- An operator clears a request's `attention_reason`; the backoff resets. -/
def releaseAttention (L : Ledger) (now : Time) (id : InvoiceId) : Ledger :=
  { L with
    invoices := L.invoices.updateWhere
      (fun row => decide (row.id = id) && row.attentionReason.isSome && row.sweepJobId.isNone)
      (fun row => { row with
        attentionReason := none, sweepAttempts := 0, lastAttemptAt := none, updatedAt := now }) }

/-! ### Applying evidence -/

/-- The columns a drain writes; the counters were recomputed from the observations. -/
def Invoice.drain (receipt : FinalizedSweep) (drain : Drain) (uncollected received : ℕ)
    (now : Time) (row : Invoice) : Invoice :=
  { row with
    status := drain.status.getD row.status
    executeTxHash := if drain.executeTx then some receipt.txHash else row.executeTxHash
    settlementTxHash := row.settlementTxHash.or (some drain.settlementTxHash)
    settlementTransactionIndex :=
      row.settlementTransactionIndex.or (some drain.settlementTransactionIndex)
    resolvedAtBlock := if drain.status.isNone then row.resolvedAtBlock
      else row.resolvedAtBlock.or (some drain.settlementBlock)
    settledAt := if drain.status.isNone then row.settledAt
      else row.settledAt.or (some drain.settlementTimestamp)
    drainedAt := some receipt.position
    uncollectedCount := uncollected
    confirmedReceived := received
    sweepJobId := none
    sweepAttempts := 0
    lastAttemptAt := none
    updatedAt := now }

namespace ObservationRow

/-- Mark an observation before the receipt's position as collected by it. -/
def collect (receiptPosition : Position) (r : ObservationRow) : ObservationRow :=
  if r.isUncollected && decide (r.observation.position < receiptPosition) then
    { r with collectedAt := some receiptPosition }
  else r

/-- Reconcile an observation to the settlement position. -/
def reclassify (settlement : Position) (expirationTimestamp : ℕ) (reason : DispositionReason)
    (r : ObservationRow) : ObservationRow :=
  if r.disposition.kind = .error then r
  else if r.observation.blockTimestamp ≤ expirationTimestamp ∧
      r.observation.position < settlement then
    { r with disposition := .credited }
  else if expirationTimestamp < r.observation.blockTimestamp then
    { r with disposition := .late (.invoice .expired) }
  else { r with disposition := .late reason }

lemma key_collect (p : Position) (r : ObservationRow) : (r.collect p).key = r.key := by
  unfold collect
  split <;> rfl

lemma key_reclassify (p : Position) (t : ℕ) (reason : DispositionReason) (r : ObservationRow) :
    (r.reclassify p t reason).key = r.key := by
  unfold reclassify
  split_ifs <;> rfl

end ObservationRow

/-- What a drain does to one observation of its request: collect, then reclassify. -/
def drainObservation (row : Invoice) (receipt : FinalizedSweep) (drain : Drain)
    (r : ObservationRow) : ObservationRow :=
  (r.collect receipt.position).reclassify
    (row.settlementAt.getD (position drain.settlementBlock drain.settlementTransactionIndex))
    row.expirationTimestamp (.invoice (drain.status.getD row.status))

lemma key_drainObservation (row : Invoice) (receipt : FinalizedSweep) (drain : Drain)
    (r : ObservationRow) : (drainObservation row receipt drain r).key = r.key := by
  rw [drainObservation, ObservationRow.key_reclassify, ObservationRow.key_collect]

/-- The observations, the row and the recoveries a drained item writes. -/
def writeDrain (L : Ledger) (now : Time) (row : Invoice) (receipt : FinalizedSweep)
    (drain : Drain) : Ledger :=
  let observations := L.observations.updateWhere (fun r => decide (r.invoiceId = row.id))
    (drainObservation row receipt drain) (key_drainObservation row receipt drain)
  let own := observations.rows.filter (fun r => r.invoiceId = row.id)
  { L with
    observations := observations
    invoices := L.invoices.updateWhere (fun r => decide (r.id = row.id))
      (Invoice.drain receipt drain (uncollectedIn own) (creditedIn own) now)
    recoveredFunds := drain.recoveries.foldl Table.insertNew L.recoveredFunds }

/-- The writes of a drained item. -/
def applyDrain (L : Ledger) (now : Time) (row : Invoice) (receipt : FinalizedSweep)
    (drain : Drain) : Ledger :=
  match drain.attention with
  | none => writeDrain L now row receipt drain
  | some reason => flagAttentionIn (writeDrain L now row receipt drain) now row.id reason

/-- Return a request to the queue behind backoff. -/
def Invoice.requeue (now : Time) (row : Invoice) : Invoice :=
  { row with
    sweepJobId := none
    sweepAttempts := row.sweepAttempts + 1
    lastAttemptAt := some now
    updatedAt := now }

def requeue (L : Ledger) (now : Time) (id : InvoiceId) : Ledger :=
  { L with
    invoices := L.invoices.updateWhere (fun row => decide (row.id = id)) (Invoice.requeue now) }

def outcomeKind : SweepItemOutcome → String
  | .settled _ => "settled"
  | .returned _ => "returned"
  | .lateCollected _ _ => "late_collected"
  | .failed _ => "failed"

/-- Keep the outcome on the job's item. -/
def recordOutcome (L : Ledger) (jobId : JobId) (item : SweepItemResult) : Ledger :=
  { L with
    sweepJobItems := L.sweepJobItems.updateWhere
      (fun i => decide (i.jobId = jobId ∧ i.invoiceId = item.invoiceId))
      (fun i => { i with
        outcome := some (outcomeKind item.outcome), outcomeDetail := some item.outcome }) }

/-- The writes one decision makes. -/
def applyDecision (L : Ledger) (now : Time) (row : Invoice) (receipt : FinalizedSweep) :
    ItemDecision → Ledger
  | .drained drain => applyDrain L now row receipt drain
  | .retry => requeue L now row.id
  | .attention reason => flagAttentionIn (requeue L now row.id) now row.id reason

/-- What one decision adds to the summary. -/
def AppliedSweep.push (applied : AppliedSweep) (id : InvoiceId) : ItemDecision → AppliedSweep
  | .drained drain =>
    let applied := match drain.attention with
      | some reason => { applied with attention := applied.attention ++ [(id, reason)] }
      | none => applied
    match drain.status with
    | some .fulfilled => { applied with settled := applied.settled ++ [id] }
    | some .recovered => { applied with returned := applied.returned ++ [id] }
    | _ => { applied with collected := applied.collected ++ [id] }
  | .retry => { applied with requeued := applied.requeued ++ [id] }
  | .attention reason => { applied with attention := applied.attention ++ [(id, reason)] }

/-- `SELECT * FROM invoices WHERE id = $1 AND sweep_job_id = $2 FOR UPDATE`. -/
def Ledger.member? (L : Ledger) (jobId : JobId) (id : InvoiceId) : Option Invoice :=
  (L.invoices.find? id).filter (fun row => decide (row.sweepJobId = some jobId))

/-- The loop over the receipt's items. -/
def applyItems (now : Time) (receipt : FinalizedSweep) (policy : SweepPolicy) :
    List SweepItemResult → AppliedSweep → Ledger → Ledger × Except SweepError AppliedSweep
  | [], applied, L => (L, .ok applied)
  | item :: rest, applied, L =>
    match L.member? receipt.jobId item.invoiceId with
    | none => (L, .error (.foreignItem receipt.jobId item.invoiceId))
    | some row =>
      let decision := decideItem row receipt item.outcome policy
      applyItems now receipt policy rest (applied.push row.id decision)
        (recordOutcome (applyDecision L now row receipt decision) receipt.jobId item)

/-- Whether the job exists and has no resolution. -/
def Ledger.jobOpen (L : Ledger) (jobId : JobId) : Bool :=
  (L.sweepJobs.find? jobId).any (·.resolution.isNone)

/-- Close an open job. -/
def resolveJob (L : Ledger) (now : Time) (jobId : JobId) (resolution : JobResolution)
    (txHash : Option Hash) : Ledger × Except SweepError Unit :=
  if L.jobOpen jobId then
    ({ L with
      sweepJobs := L.sweepJobs.updateWhere
        (fun job => decide (job.id = jobId) && job.resolution.isNone)
        (fun job => { job with
          resolution := some (resolution, now)
          submittedTxHash := txHash.or job.submittedTxHash }) }, .ok ())
  else (L, .error (.notOpen jobId))

/-- How many requests are still members of the job. -/
def Ledger.memberCount (L : Ledger) (jobId : JobId) : ℕ :=
  L.invoices.rows.countP (fun row => decide (row.sweepJobId = some jobId))

/-- Apply a finalized helper-transaction receipt. -/
def applySweepFinalized (L : Ledger) (now : Time) (receipt : FinalizedSweep)
    (policy : SweepPolicy) : Ledger × Except SweepError AppliedSweep :=
  if ¬ L.jobOpen receipt.jobId then (L, .error (.notOpen receipt.jobId))
  else match applyItems now receipt policy receipt.items {} L with
    | (L', .error e) => (L', .error e)
    | (L', .ok applied) =>
      if L'.memberCount receipt.jobId ≠ 0 then
        (L', .error (.missingOutcomes receipt.jobId (L'.memberCount receipt.jobId)))
      else match resolveJob L' now receipt.jobId .finalized (some receipt.txHash) with
        | (L'', .error e) => (L'', .error e)
        | (L'', .ok ()) => (L'', .ok applied)

/-- The `outcome` text a job closed without effect leaves on its items. -/
def JobResolution.asStr : JobResolution → String
  | .finalized => "finalized"
  | .abandoned _ => "abandoned"
  | .rejected _ => "rejected"

/-- Close a job without a receipt: every request returns to the queue behind backoff. -/
def closeWithoutEffect (L : Ledger) (now : Time) (jobId : JobId) (resolution : JobResolution)
    (txHash : Option Hash) : Ledger × Except SweepError ℕ :=
  if ¬ L.jobOpen jobId then (L, .error (.notOpen jobId))
  else
    let L' := { L with
      invoices := L.invoices.updateWhere (fun row => decide (row.sweepJobId = some jobId))
        (Invoice.requeue now)
      sweepJobItems := L.sweepJobItems.updateWhere (fun i => decide (i.jobId = jobId))
        (fun i => { i with outcome := some resolution.asStr }) }
    match resolveJob L' now jobId resolution txHash with
    | (L'', .error e) => (L'', .error e)
    | (L'', .ok ()) => (L'', .ok (L.memberCount jobId))

/-- The signers gave up on the job without a successful finalized receipt. -/
def applySweepAbandoned (L : Ledger) (now : Time) (jobId : JobId) (reason : AbandonReason) :
    Ledger × Except SweepError ℕ :=
  closeWithoutEffect L now jobId (.abandoned reason) (match reason with
    | .reverted txHash => some txHash
    | _ => none)

/-- The signers refused the command outright. -/
def applySweepRejected (L : Ledger) (now : Time) (jobId : JobId) (reason : String) :
    Ledger × Except SweepError ℕ :=
  closeWithoutEffect L now jobId (.rejected reason) none

/-- The signers broadcast a helper transaction for the job. -/
def recordSweepSubmission (L : Ledger) (now : Time) (jobId : JobId) (txHash : Hash) : Ledger :=
  { L with
    sweepJobs := L.sweepJobs.updateWhere
      (fun job => decide (job.id = jobId) && job.resolution.isNone)
      (fun job => { job with submittedTxHash := some txHash, submittedAt := some now }) }

end Payday
