/-
# The execution schema

What the signers know about their work (`gum-schema/migrations/0003_execution.sql` and
`gum-signers/src/store.rs`).  A job is one command; a transaction is one (signer, nonce) slot that
is spent on a job; every same-nonce replacement is an attempt under it.  A job's resolution and its
time are set together with its concluding state (`execution_jobs_resolved`), so they are part of
the state here.
-/
import Payday.Signers.Messages

namespace Payday.Signers

abbrev TransactionId := ℕ

inductive Conclusion
  | finalized
  | abandoned
  | rejected
deriving DecidableEq, Repr

inductive JobState
  | queued
  | executing
  | resolved (conclusion : Conclusion) (resolvedAt : Time) (resolution : ExecutionEvent)
deriving DecidableEq, Repr

/-- `resolved_at IS NULL`. -/
def JobState.isOpen : JobState → Bool
  | queued | executing => true
  | resolved .. => false

/-- A row of `execution.jobs`. -/
structure Job where
  id : JobId
  chainId : ChainId
  command : ExecutionCommand
  state : JobState
  /-- Transient failures before a transaction existed. -/
  attempts : ℕ
  nextAttemptAt : Time
  lastError : Option String
  acceptedAt : Time
deriving DecidableEq, Repr

inductive TxState
  | prepared
  | broadcast
  | mined
  | finalized
  | reverted
  | abandoned
deriving DecidableEq, Repr

/-- `resolved_at IS NULL` (`execution_transactions_resolved`). -/
def TxState.isOpen : TxState → Bool
  | prepared | broadcast | mined => true
  | finalized | reverted | abandoned => false

/-- The receipt seen for one attempt, awaiting finality. -/
structure Mined where
  txHash : Hash
  block : ℕ
  blockHash : Hash
  transactionIndex : ℕ
  succeeded : Bool
deriving DecidableEq, Repr

/-- A row of `execution.transactions`. -/
structure Slot where
  id : TransactionId
  jobId : JobId
  chainId : ChainId
  signer : Address
  nonce : ℕ
  target : Address
  calldata : Calldata
  gasLimit : ℕ
  state : TxState
  submittedAt : Time
  broadcastAt : Option Time
  mined : Option Mined
  stallReportedAt : Option Time
deriving DecidableEq, Repr

/-- A signed transaction: its bytes encode these fields and the signer's signature. -/
structure SignedTransaction where
  signer : Address
  chainId : ChainId
  nonce : ℕ
  target : Address
  calldata : Calldata
  gasLimit : ℕ
  maxFeePerGas : ℕ
  maxPriorityFeePerGas : ℕ
deriving DecidableEq, Repr

/-- One signed transaction for a slot. -/
structure Attempt where
  replacementNumber : ℕ
  txHash : Hash
  rawTransaction : SignedTransaction
  maxFeePerGas : ℕ
  maxPriorityFeePerGas : ℕ
  broadcastAt : Option Time
deriving DecidableEq, Repr

/-- A row of `execution.transaction_attempts`. -/
structure AttemptRow where
  transactionId : TransactionId
  attempt : Attempt
deriving DecidableEq, Repr

def AttemptRow.key (row : AttemptRow) : TransactionId × ℕ :=
  (row.transactionId, row.attempt.replacementNumber)

/-- How an event came to be published. -/
inductive Origin
  /-- The command handler refused the command. -/
  | accepting
  /-- The job was concluded while it was being started. -/
  | starting
  /-- A slot of the job was resolved, or is reported on. -/
  | reconciling
deriving DecidableEq, Repr

structure Publication where
  event : ExecutionEvent
  origin : Origin
deriving DecidableEq, Repr

structure Execution where
  jobs : Table Job.id
  transactions : Table Slot.id
  attempts : Table AttemptRow.key
  /-- The `execution.events` topic, in order. -/
  events : List Publication

namespace Execution

def empty : Execution := ⟨Table.empty, Table.empty, Table.empty, []⟩

/-- `UPDATE execution.jobs`. -/
def updateJobs (db : Execution) (p : Job → Bool) (f : Job → Job)
    (hf : ∀ job, (f job).id = job.id := by intro _; rfl) : Execution :=
  { db with jobs := db.jobs.updateWhere p f hf }

/-- `UPDATE execution.transactions`. -/
def updateSlots (db : Execution) (p : Slot → Bool) (f : Slot → Slot)
    (hf : ∀ slot, (f slot).id = slot.id := by intro _; rfl) : Execution :=
  { db with transactions := db.transactions.updateWhere p f hf }

/-- `UPDATE execution.transaction_attempts`. -/
def updateAttempts (db : Execution) (p : AttemptRow → Bool) (f : AttemptRow → AttemptRow)
    (hf : ∀ row, (f row).key = row.key := by intro _; rfl) : Execution :=
  { db with attempts := db.attempts.updateWhere p f hf }

/-- `Publisher::publish` on the topic of the events. -/
def publish (db : Execution) (event : ExecutionEvent) (origin : Origin) :
    Except ExecutorError Execution :=
  match db.events.find? (fun p => decide (p.event.deduplicationKey = event.deduplicationKey)) with
  | some p =>
    if p.event = event then .ok db
    else .error (.bus "the payload differs from the one published under the same key")
  | none => .ok { db with events := db.events ++ [⟨event, origin⟩] }

/-! ### Jobs -/

/-- `insert_job`: `false` when the job already existed. -/
def insertJob (db : Execution) (now : Time) (command : ExecutionCommand) (state : JobState) :
    Execution × Bool :=
  match db.jobs.insert? ⟨command.jobId, command.chainId, command, state, 0, now, none, now⟩ with
  | some jobs => ({ db with jobs := jobs }, true)
  | none => (db, false)

/-- Jobs waiting for a signer, oldest first. -/
def queuedJobs (db : Execution) (now : Time) (chainId : ChainId) : List Job :=
  (db.jobs.rows.filter fun job => decide (job.chainId = chainId ∧ job.state = .queued ∧
    job.nextAttemptAt ≤ now)).mergeSort fun a b => decide (a.acceptedAt ≤ b.acceptedAt)

/-- `defer_job`; no row is an error of `fetch_one`. -/
def deferJob (db : Execution) (jobId : JobId) (nextAttemptAt : Time) (error : String) :
    Except ExecutorError Execution :=
  if (db.jobs.rows.filter fun job => decide (job.id = jobId ∧ job.state = .queued)).isEmpty then
    .error (.database "no rows returned by a query that expected to return at least one row")
  else
    .ok (db.updateJobs (fun job => decide (job.id = jobId ∧ job.state = .queued))
      (fun job => { job with
        attempts := job.attempts + 1
        nextAttemptAt := nextAttemptAt
        lastError := some error }))

/-- `resolve_job`: `true` when the job was open and is now closed. -/
def resolveJob (db : Execution) (now : Time) (jobId : JobId) (conclusion : Conclusion)
    (resolution : ExecutionEvent) : Execution × Bool :=
  (db.updateJobs (fun job => decide (job.id = jobId) && job.state.isOpen)
      (fun job => { job with state := .resolved conclusion now resolution }),
    db.jobs.rows.any fun job => decide (job.id = jobId) && job.state.isOpen)

/-- Close a job and publish its conclusion, in one transaction. -/
def concludeJob (db : Execution) (now : Time) (jobId : JobId) (conclusion : Conclusion)
    (event : ExecutionEvent) (origin : Origin) : Except ExecutorError Execution :=
  match db.resolveJob now jobId conclusion event with
  | (db', true) => db'.publish event origin
  | (db', false) => .ok db'

/-! ### Transactions and attempts -/

/-- The insertion of an attempt: `execution_transaction_attempts_hash_unique` and the primary key. -/
def insertAttemptRow (db : Execution) (transactionId : TransactionId) (attempt : Attempt) :
    Except ExecutorError Execution :=
  if db.attempts.rows.any fun row => decide (row.attempt.txHash = attempt.txHash) then
    .error (.database "execution_transaction_attempts_hash_unique")
  else
    match db.attempts.insert? ⟨transactionId, attempt⟩ with
    | some attempts => .ok { db with attempts := attempts }
    | none => .error (.database "transaction_attempts_pkey")

/-- The pending-timeout clock of the slot restarts. -/
def touch (db : Execution) (now : Time) (transactionId : TransactionId) : Execution :=
  db.updateSlots (fun slot => decide (slot.id = transactionId))
    (fun slot => { slot with submittedAt := now })

structure NewTransaction where
  jobId : JobId
  chainId : ChainId
  signer : Address
  nonce : ℕ
  target : Address
  calldata : Calldata
  gasLimit : ℕ
  attempt : Attempt
deriving DecidableEq, Repr

/-- The slot that `begin_transaction` inserts, with the columns' defaults. -/
def NewTransaction.slot (new : NewTransaction) (now : Time) (id : TransactionId) : Slot where
  id := id
  jobId := new.jobId
  chainId := new.chainId
  signer := new.signer
  nonce := new.nonce
  target := new.target
  calldata := new.calldata
  gasLimit := new.gasLimit
  state := .prepared
  submittedAt := now
  broadcastAt := none
  mined := none
  stallReportedAt := none

/-- `begin_transaction`.  Columns are `BIGINT`; the signer has no open lane on the chain
(`execution_transactions_open_lane`) and the nonce was not spent
(`execution_transactions_nonce_once`).  Whether the job was still queued is not looked at. -/
def beginTransaction (db : Execution) (now : Time) (id : TransactionId) (new : NewTransaction) :
    Except ExecutorError Execution :=
  if ¬ (new.nonce < 2 ^ 63 ∧ 0 < new.gasLimit ∧ new.gasLimit < 2 ^ 63) then
    .error (.database "execution_transactions_nonce_non_negative")
  else if db.transactions.rows.any fun slot => decide (slot.chainId = new.chainId ∧
      slot.signer = new.signer) && slot.state.isOpen then
    .error (.database "execution_transactions_open_lane")
  else if db.transactions.rows.any fun slot => decide (slot.chainId = new.chainId ∧
      slot.signer = new.signer ∧ slot.nonce = new.nonce) then
    .error (.database "execution_transactions_nonce_once")
  else if ¬ db.jobs.rows.any fun job => decide (job.id = new.jobId) then
    .error (.database "transactions_job_id_fkey")
  else
    match db.transactions.insert? (new.slot now id) with
    | none => .error (.database "transactions_pkey")
    | some transactions =>
      match insertAttemptRow { db with transactions := transactions } id new.attempt with
      | .error e => .error e
      | .ok db' =>
        .ok (db'.updateJobs (fun job => decide (job.id = new.jobId ∧ job.state = .queued))
          (fun job => { job with state := .executing }))

/-- `mark_broadcast`. -/
def markBroadcast (db : Execution) (now : Time) (transactionId : TransactionId)
    (replacementNumber : ℕ) : Execution :=
  (db.updateAttempts
      (fun row => decide (row.transactionId = transactionId ∧
        row.attempt.replacementNumber = replacementNumber))
      (fun row => { row with
        attempt := { row.attempt with broadcastAt := row.attempt.broadcastAt.or (some now) } })).updateSlots
    (fun slot => decide (slot.id = transactionId))
    (fun slot => { slot with
      broadcastAt := slot.broadcastAt.or (some now)
      submittedAt := now
      state := if slot.state = TxState.prepared then .broadcast else slot.state })

/-- `record_mined`. -/
def recordMined (db : Execution) (transactionId : TransactionId) (mined : Mined) : Execution :=
  db.updateSlots (fun slot => decide (slot.id = transactionId) && slot.state.isOpen)
    (fun slot => { slot with state := .mined, mined := some mined })

/-- `clear_mined`: the receipt's block left the canonical chain. -/
def clearMined (db : Execution) (transactionId : TransactionId) : Execution :=
  db.updateSlots (fun slot => decide (slot.id = transactionId) && slot.state.isOpen)
    (fun slot => { slot with state := .broadcast, mined := none })

/-- `mark_stall_reported`. -/
def markStallReported (db : Execution) (now : Time) (transactionId : TransactionId) : Execution :=
  db.updateSlots (fun slot => decide (slot.id = transactionId))
    (fun slot => { slot with stallReportedAt := some now })

/-- `resolve_transaction`: the signer's lane is free from this commit on. -/
def resolveTransaction (db : Execution) (transactionId : TransactionId) (state : TxState) :
    Execution :=
  db.updateSlots (fun slot => decide (slot.id = transactionId) && slot.state.isOpen)
    (fun slot => { slot with state := state })

/-- Signers with an open lane on the chain. -/
def busySigners (db : Execution) (chainId : ChainId) : List Address :=
  (db.transactions.rows.filter fun slot => decide (slot.chainId = chainId) && slot.state.isOpen).map
    (·.signer)

end Execution

/-- A slot as a pass sees it, with its job and every attempt oldest first. -/
structure OpenTransaction where
  slot : Slot
  job : Job
  attempts : List Attempt

/-- The attempts of a slot, oldest first. -/
def Execution.attemptsOf (db : Execution) (transactionId : TransactionId) : List Attempt :=
  ((db.attempts.rows.filter fun row => decide (row.transactionId = transactionId)).map
    (·.attempt)).mergeSort fun a b => decide (a.replacementNumber ≤ b.replacementNumber)

/-- `open_transactions`: every unresolved slot of the chain. -/
def Execution.openTransactions (db : Execution) (chainId : ChainId) : List OpenTransaction :=
  (db.transactions.rows.filter fun slot =>
    decide (slot.chainId = chainId) && slot.state.isOpen).filterMap fun slot =>
      (db.jobs.find? slot.jobId).map fun job => ⟨slot, job, db.attemptsOf slot.id⟩

end Payday.Signers
