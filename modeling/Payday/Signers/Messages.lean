/-
# Commands and events of the signers

The messages of `gum-contracts/src/bus.rs` between the server and the signers, and the check of a
withdrawal step's precondition (`gum-signers/src/step.rs`): a fact whose truth on chain means that
the step already happened.
-/
import Payday.Signers.Classify

namespace Payday.Signers

inductive WithdrawalStepKind
  | transfer
  | burn
  | mint
deriving DecidableEq, Repr

/-- A fact whose truth on chain means that the step already happened. -/
inductive StepPrecondition
  | authorizationUnused (token authorizer : Address) (nonce : Hash) (searchFromBlock : ℕ)
  | messageNonceUnused (messageTransmitter : Address) (sourceDomain : ℕ) (nonce : Hash)
deriving DecidableEq, Repr

/-- One item of a helper transaction. -/
structure SweepRequest where
  token : Address
  amount : ℕ
  receiver : Address
  expirationTimestamp : ℕ
  recovery : Address
  salt : Hash
  chainId : ChainId
deriving DecidableEq, Repr

/-- A transaction's input: given bytes, or the encoded call of `executeBatch`, which starts with
the function's selector. -/
inductive Calldata
  | bytes (raw : List UInt8)
  | executeBatch (sweeps : List SweepRequest)
deriving DecidableEq, Repr

structure WithdrawalStepCommand where
  jobId : JobId
  legId : ℕ
  chainId : ChainId
  step : WithdrawalStepKind
  /-- `to`. -/
  target : Address
  calldata : Calldata
  gasLimit : ℕ
  precondition : Option StepPrecondition
  /-- Unix time after which the step must not be submitted. -/
  notAfter : Option ℕ
deriving DecidableEq, Repr

inductive ExecutionCommand
  | sweepBatch (command : SweepBatchCommand)
  | withdrawalStep (command : WithdrawalStepCommand)
deriving DecidableEq, Repr

namespace ExecutionCommand

def jobId : ExecutionCommand → JobId
  | sweepBatch command => command.jobId
  | withdrawalStep command => command.jobId

def chainId : ExecutionCommand → ChainId
  | sweepBatch command => command.chainId
  | withdrawalStep command => command.chainId

/-- A sweep without items. -/
def isEmptyBatch : ExecutionCommand → Bool
  | sweepBatch command => command.items.isEmpty
  | withdrawalStep _ => false

end ExecutionCommand

inductive StepResult
  | succeeded (txHash : Hash) (block : ℕ) (blockHash : Hash)
  | executedElsewhere (txHash : Option Hash)
  | reverted (txHash : Hash)
  | expired
  | abandoned (reason : AbandonReason)
deriving DecidableEq, Repr

inductive ExecutionEvent
  | sweepSubmitted (jobId : JobId) (chainId : ChainId) (signer : Address) (nonce : ℕ) (txHash : Hash)
      (replacement : ℕ)
  | sweepFinalized (chainId : ChainId) (receipt : FinalizedSweep)
  | sweepAbandoned (jobId : JobId) (chainId : ChainId) (reason : AbandonReason)
  | withdrawalStepFinalized (jobId : JobId) (legId : ℕ) (chainId : ChainId)
      (step : WithdrawalStepKind) (result : StepResult)
  | executionStalled (jobId : JobId) (chainId : ChainId) (signer : Address) (submissions : ℕ)
  | executionRejected (jobId : JobId) (chainId : ChainId) (reason : String)
deriving DecidableEq, Repr

namespace ExecutionEvent

def jobId : ExecutionEvent → JobId
  | sweepSubmitted jobId .. => jobId
  | sweepFinalized _ receipt => receipt.jobId
  | sweepAbandoned jobId .. => jobId
  | withdrawalStepFinalized jobId .. => jobId
  | executionStalled jobId .. => jobId
  | executionRejected jobId .. => jobId

def kind : ExecutionEvent → String
  | sweepSubmitted .. => "sweep_submitted"
  | sweepFinalized .. => "sweep_finalized"
  | sweepAbandoned .. => "sweep_abandoned"
  | withdrawalStepFinalized .. => "withdrawal_step_finalized"
  | executionStalled .. => "execution_stalled"
  | executionRejected .. => "execution_rejected"

/-- The parts of `deduplication_key`: the job, the kind, and a number for the kinds of which a job
may have several. -/
def deduplicationKey (event : ExecutionEvent) : JobId × String × Option ℕ :=
  match event with
  | sweepSubmitted jobId _ _ _ _ replacement => (jobId, event.kind, some replacement)
  | executionStalled jobId _ _ submissions => (jobId, event.kind, some submissions)
  | other => (other.jobId, other.kind, none)

/-- The event concludes its job. -/
def isTerminal : ExecutionEvent → Bool
  | sweepFinalized .. | sweepAbandoned .. | withdrawalStepFinalized .. | executionRejected .. => true
  | sweepSubmitted .. | executionStalled .. => false

end ExecutionEvent

/-! ### Errors -/

/-- The error's text. -/
def chainErrorText : ChainError → String
  | .rpc operation (some code) message _ => s!"{operation} RPC error ({code}): {message}"
  | .rpc operation none message _ => s!"{operation} RPC error: {message}"
  | .logRangeTooLarge message => s!"eth_getLogs range is too large: {message}"
  | .finalityViolation message => s!"finality violation: {message}"
  | .transient message => s!"transient chain failure: {message}"
  | .readOnly => "chain client holds no signing keys"

def isRetryableChainError : ChainError → Bool
  | .transient _ | .logRangeTooLarge _ => true
  | .rpc _ _ _ retryable => retryable
  | .finalityViolation _ | .readOnly => false

inductive ExecutorError
  | chain (error : ChainError)
  | database (message : String)
  | bus (message : String)
  | rejected (message : String)
deriving DecidableEq, Repr

namespace ExecutorError

def text : ExecutorError → String
  | chain error => chainErrorText error
  | database message => s!"database error: {message}"
  | bus message => s!"bus error: {message}"
  | rejected message => s!"rejected: {message}"

def isRetryable : ExecutorError → Bool
  | chain error => isRetryableChainError error
  | database _ | bus _ => true
  | rejected _ => false

end ExecutorError

/-! ### Preconditions -/

/-- What a precondition check found. -/
inductive Precondition
  /-- The step is still ours to do. -/
  | holds
  /-- The step already happened, in this transaction when the search located one. -/
  | violated (txHash : Option Hash)
deriving DecidableEq, Repr

structure TransactionOutcome where
  succeeded : Bool
  block : ℕ
  blockHash : Hash
deriving DecidableEq, Repr

/-- What a precondition check reads of a chain. -/
structure StepReader where
  /-- `authorization_state(token, authorizer, nonce, at_block)`. -/
  authorizationState : Address → Address → Hash → ℕ → Except ChainError Bool
  /-- `authorization_used_tx(token, authorizer, nonce, from_block, to_block)`. -/
  authorizationUsedTx : Address → Address → Hash → ℕ → ℕ →
    Except ChainError (Option (Hash × TransactionOutcome))
  /-- `MessageTransmitter.usedNonces` at the finalized block, decoded. -/
  usedNonces : Address → Hash → Except ChainError ℕ

/-- The transaction that consumed the authorization, searched newest first in chunks, from `upper`
down to `fromBlock`. -/
def findAuthorizationUse (chain : StepReader) (token authorizer : Address) (nonce : Hash)
    (fromBlock chunk upper : ℕ) : Except ChainError (Option Hash) :=
  match chain.authorizationUsedTx token authorizer nonce (max (upper - (chunk - 1)) fromBlock) upper with
  | .error e => .error e
  | .ok (some (txHash, receipt)) =>
    if receipt.succeeded then .ok (some txHash)
    else .error (.transient s!"AuthorizationUsed in {txHash} belongs to a reverted transaction")
  | .ok none =>
    if max (upper - (chunk - 1)) fromBlock ≤ fromBlock then .ok none
    else findAuthorizationUse chain token authorizer nonce fromBlock chunk
      (max (upper - (chunk - 1)) fromBlock - 1)
termination_by upper
decreasing_by omega

/-- Evaluate the precondition at the finality boundary. -/
def check (chain : StepReader) (logRangeSize : ℕ) (precondition : StepPrecondition)
    (boundary : BlockHeader) : Except ChainError Precondition :=
  match precondition with
  | .authorizationUnused token authorizer nonce searchFromBlock =>
    match chain.authorizationState token authorizer nonce boundary.number with
    | .error e => .error e
    | .ok false => .ok .holds
    | .ok true =>
      match findAuthorizationUse chain token authorizer nonce searchFromBlock (max logRangeSize 1)
          boundary.number with
      | .error e => .error e
      | .ok txHash => .ok (.violated txHash)
  | .messageNonceUnused messageTransmitter _ nonce =>
    match chain.usedNonces messageTransmitter nonce with
    | .error e => .error e
    | .ok used => if used = 0 then .ok .holds else .ok (.violated none)

end Payday.Signers
