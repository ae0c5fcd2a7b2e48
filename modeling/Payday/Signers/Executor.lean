/-
# One chain's executor

`gum-signers/src/executor.rs`: what a pass decides from the rows it read and from the chain's
answers.  Every decision ends in at most one commit or one broadcast; which of them, with which
bytes and which event, is what the functions here compute.
-/
import Payday.Signers.Store

namespace Payday.Signers

structure Policy where
  pendingTimeout : Time
  maxSubmissions : ℕ
  maxAttempts : ℕ
deriving DecidableEq, Repr

structure FeeEstimate where
  maxFeePerGas : ℕ
  maxPriorityFeePerGas : ℕ
deriving DecidableEq, Repr

namespace FeeEstimate

/-- A raise by an eighth, on `u128`. -/
def bumped (fees : FeeEstimate) : FeeEstimate where
  maxFeePerGas := (fees.maxFeePerGas + fees.maxFeePerGas / 8 + 1) % 2 ^ 128
  maxPriorityFeePerGas := (fees.maxPriorityFeePerGas + fees.maxPriorityFeePerGas / 8 + 1) % 2 ^ 128

def max (fees other : FeeEstimate) : FeeEstimate where
  maxFeePerGas := Nat.max fees.maxFeePerGas other.maxFeePerGas
  maxPriorityFeePerGas := Nat.max fees.maxPriorityFeePerGas other.maxPriorityFeePerGas

end FeeEstimate

inductive Receipt
  | sweep (receipt : SweepReceipt)
  | step (outcome : TransactionOutcome)

namespace Receipt

def outcome : Receipt → TransactionOutcome
  | sweep receipt => ⟨receipt.succeeded, receipt.block, receipt.blockHash⟩
  | step outcome => outcome

def transactionIndex : Receipt → ℕ
  | sweep receipt => receipt.transactionIndex
  | step _ => 0

end Receipt

/-- A chain's answers about receipts. -/
structure Receipts where
  sweepReceipt : Hash → Except ChainError (Option SweepReceipt)
  transactionReceipt : Hash → Except ChainError (Option TransactionOutcome)

/-- `receipt`: its kind follows the command's. -/
def Receipts.receipt (receipts : Receipts) (command : ExecutionCommand) (txHash : Hash) :
    Except ChainError (Option Receipt) :=
  match command with
  | .sweepBatch _ => (receipts.sweepReceipt txHash).map (Option.map .sweep)
  | .withdrawalStep _ => (receipts.transactionReceipt txHash).map (Option.map .step)

/-- A chain's answers to the questions of one decision. -/
structure Answers where
  /-- `sweep_receipt` and `transaction_receipt`. -/
  receipts : Receipts
  /-- The receipts are looked up again after the nonce was found consumed. -/
  receiptsAgain : Receipts
  minedNonce : Address → Except ChainError ℕ
  pendingNonce : Address → Except ChainError ℕ
  boundary : Except ChainError BlockHeader
  blockHeader : ℕ → Except ChainError BlockHeader
  /-- The header of the receipt's block, read once more after the classification. -/
  blockHeaderAgain : ℕ → Except ChainError BlockHeader
  reader : ChainReader
  stepReader : StepReader
  estimateFees : Except ChainError FeeEstimate
  /-- The key may be missing or its service unavailable. -/
  sign : SignedTransaction → Except ChainError Unit

/-- A process that serves one chain. -/
structure ChainWorker where
  config : ChainConfig
  policy : Policy
  signers : List Address
  /-- `keccak256` of the signed bytes. -/
  keccak : SignedTransaction → Hash
  /-- The answers that the chain's node may give. -/
  node : Answers → Prop

/-- `sweep_requests`. -/
def sweepRequests (command : SweepBatchCommand) (chainId : ChainId) : List SweepRequest :=
  command.items.map fun item =>
    ⟨item.token, item.amount, item.receiver, item.expirationTimestamp, item.recovery, item.salt,
      chainId⟩

/-- `sweep_batch_gas_limit`, on `u64` with saturation. -/
def sweepBatchGasLimit (sweepCount : ℕ) : ℕ := min (100000 + 400000 * sweepCount) (2 ^ 64 - 1)

namespace ChainWorker

variable (W : ChainWorker)

/-- The target of a job's transactions. -/
def target : ExecutionCommand → Address
  | .sweepBatch _ => W.config.batchSweeper
  | .withdrawalStep command => command.target

/-- The input of a job's transactions: `prepare_sweep_batch` encodes the items, `prepare_call`
takes the command's. -/
def calldata : ExecutionCommand → Calldata
  | .sweepBatch command => .executeBatch (sweepRequests command W.config.chainId)
  | .withdrawalStep command => command.calldata

/-- The `calldata` column of a job's slot: a sweep's is left empty. -/
def slotCalldata : ExecutionCommand → Calldata
  | .sweepBatch _ => .bytes []
  | .withdrawalStep command => command.calldata

def gasLimit : ExecutionCommand → ℕ
  | .sweepBatch command => sweepBatchGasLimit (sweepRequests command W.config.chainId).length
  | .withdrawalStep command => command.gasLimit

/-- `prepare_sweep_batch` and `prepare_call`: sign, without broadcasting. -/
def prepare (answers : Answers) (command : ExecutionCommand) (signer : Address) (nonce gasLimit : ℕ)
    (fees : FeeEstimate) (replacementNumber : ℕ) : Except ExecutorError Attempt :=
  let raw : SignedTransaction := ⟨signer, W.config.chainId, nonce, W.target command,
    W.calldata command, gasLimit, fees.maxFeePerGas, fees.maxPriorityFeePerGas⟩
  match answers.sign raw with
  | .error e => .error (.chain e)
  | .ok () => .ok ⟨replacementNumber, W.keccak raw, raw, fees.maxFeePerGas, fees.maxPriorityFeePerGas, none⟩

/-! ### Reconciling an open slot -/

/-- What `reconcile` goes on to do. -/
inductive Action
  | wait
  | onMined (txHash : Hash) (receipt : Receipt)
  | broadcast (attempt : Attempt)
  /-- Report the stall, and resend the newest attempt unless the nonce is consumed. -/
  | reportStall (resend : Option Attempt)
  | replace (attempt : Attempt)
  | resolve (conclusion : Conclusion) (state : TxState) (event : ExecutionEvent)

/-- The first attempt that has a receipt. -/
def findReceipt (receipt : Hash → Except ChainError (Option Receipt)) :
    List Attempt → Except ExecutorError (Option (Hash × Receipt))
  | [] => .ok none
  | attempt :: rest =>
    match receipt attempt.txHash with
    | .error e => .error (.chain e)
    | .ok (some r) => .ok (some (attempt.txHash, r))
    | .ok none => findReceipt receipt rest

/-- The events of `abandon` and `reject_job`. -/
def abandonEvent (job : Job) (reason : AbandonReason) : ExecutionEvent :=
  match job.command with
  | .sweepBatch _ => .sweepAbandoned job.id W.config.chainId reason
  | .withdrawalStep command =>
    .withdrawalStepFinalized job.id command.legId W.config.chainId command.step (.abandoned reason)

/-- The conclusion of a withdrawal step. -/
def stepEvent (job : Job) (command : WithdrawalStepCommand) (result : StepResult) : ExecutionEvent :=
  .withdrawalStepFinalized job.id command.legId W.config.chainId command.step result

/-- `reconcile` after the nonce was found consumed and no attempt has a receipt. -/
def onNonceConsumed (answers : Answers) (t : OpenTransaction) : Except ExecutorError Action :=
  match t.job.command with
  | .withdrawalStep command =>
    match answers.boundary with
    | .error e => .error (.chain e)
    | .ok boundary =>
      match command.precondition with
      | none => .ok (.reportStall none)
      | some precondition =>
        match check answers.stepReader W.config.logRangeSize precondition boundary with
        | .error e => .error (.chain e)
        | .ok (.violated txHash) =>
          .ok (.resolve .finalized .finalized (W.stepEvent t.job command (.executedElsewhere txHash)))
        | .ok .holds => .ok (.reportStall none)
  | .sweepBatch _ =>
    .ok (.resolve .abandoned .abandoned
      (W.abandonEvent t.job (.nonceConsumed t.slot.signer t.slot.nonce)))

/-- `reconcile`, up to its first commit or broadcast.  `attempts` is the list of the slot's
attempts and `newest` its last entry. -/
def reconcile (answers : Answers) (now : Time) (t : OpenTransaction) (newest : Attempt) :
    Except ExecutorError Action :=
  match findReceipt (answers.receipts.receipt t.job.command) t.attempts.reverse with
  | .error e => .error e
  | .ok (some (txHash, receipt)) => .ok (.onMined txHash receipt)
  | .ok none =>
    if newest.broadcastAt = none then .ok (.broadcast newest)
    else if now - t.slot.submittedAt < W.policy.pendingTimeout then .ok .wait
    else
      match answers.minedNonce t.slot.signer with
      | .error e => .error (.chain e)
      | .ok minedCount =>
        if t.slot.nonce < minedCount then
          match findReceipt (answers.receiptsAgain.receipt t.job.command) t.attempts.reverse with
          | .error e => .error e
          | .ok (some (txHash, receipt)) => .ok (.onMined txHash receipt)
          | .ok none => W.onNonceConsumed answers t
        else if W.policy.maxSubmissions ≤ t.attempts.length then .ok (.reportStall (some newest))
        else
          -- a same-nonce replacement with raised fees
          match answers.estimateFees with
          | .error e => .error (.chain e)
          | .ok estimate =>
            match W.prepare answers t.job.command t.slot.signer t.slot.nonce t.slot.gasLimit
                (estimate.max (FeeEstimate.bumped ⟨newest.maxFeePerGas, newest.maxPriorityFeePerGas⟩))
                (newest.replacementNumber + 1) with
            | .error e => .error e
            | .ok attempt => .ok (.replace attempt)

/-- The receipt as `on_mined` records it. -/
def minedOf (txHash : Hash) (receipt : Receipt) : Mined where
  txHash := txHash
  block := receipt.outcome.block
  blockHash := receipt.outcome.blockHash
  transactionIndex := receipt.transactionIndex
  succeeded := receipt.outcome.succeeded

/-- What `on_mined` goes on to do after the receipt is recorded. -/
inductive Finality
  | wait
  /-- The receipt's block left the canonical chain. -/
  | clear
  | resolve (conclusion : Conclusion) (state : TxState) (event : ExecutionEvent)

/-- `finalize_sweep`. -/
def finalizeSweep (answers : Answers) (t : OpenTransaction) (command : SweepBatchCommand)
    (txHash : Hash) (receipt : SweepReceipt) (header : BlockHeader) : Except ExecutorError Finality :=
  if receipt.succeeded = false then
    .ok (.resolve .abandoned .reverted (.sweepAbandoned t.job.id W.config.chainId (.reverted txHash)))
  else
    match classifyItems answers.reader W.config receipt header command.items with
    | .error e => .error (.chain e)
    | .ok items =>
      match answers.blockHeaderAgain receipt.block with
      | .error e => .error (.chain e)
      | .ok again =>
        if again.hash ≠ receipt.blockHash then .ok .clear
        else .ok (.resolve .finalized .finalized (.sweepFinalized W.config.chainId ⟨t.job.id, txHash,
          receipt.block, receipt.blockHash, header.timestamp, receipt.transactionIndex, items⟩))

/-- `finalize_step`. -/
def finalizeStep (answers : Answers) (t : OpenTransaction) (command : WithdrawalStepCommand)
    (txHash : Hash) (outcome : TransactionOutcome) (boundary : BlockHeader) :
    Except ExecutorError Finality :=
  if outcome.succeeded then
    .ok (.resolve .finalized .finalized
      (W.stepEvent t.job command (.succeeded txHash outcome.block outcome.blockHash)))
  else
    -- reverted: somebody else did the step first, or the obligation still stands
    match command.precondition with
    | none => .ok (.resolve .finalized .reverted (W.stepEvent t.job command (.reverted txHash)))
    | some precondition =>
      match check answers.stepReader W.config.logRangeSize precondition boundary with
      | .error e => .error (.chain e)
      | .ok (.violated other) =>
        .ok (.resolve .finalized .reverted (W.stepEvent t.job command (.executedElsewhere other)))
      | .ok .holds => .ok (.resolve .finalized .reverted (W.stepEvent t.job command (.reverted txHash)))

/-- `on_mined`, once the receipt is recorded.  The last case is unreachable: a receipt's kind
follows the command's. -/
def onMined (answers : Answers) (t : OpenTransaction) (txHash : Hash) (receipt : Receipt) :
    Except ExecutorError Finality :=
  match answers.boundary with
  | .error e => .error (.chain e)
  | .ok boundary =>
    if boundary.number < receipt.outcome.block then .ok .wait
    else
      match answers.blockHeader receipt.outcome.block with
      | .error e => .error (.chain e)
      | .ok header =>
        if header.hash ≠ receipt.outcome.blockHash then .ok .clear
        else
          match t.job.command, receipt with
          | .sweepBatch command, .sweep receipt => W.finalizeSweep answers t command txHash receipt header
          | .withdrawalStep command, .step outcome =>
            W.finalizeStep answers t command txHash outcome boundary
          | _, _ => .ok .wait

/-! ### Starting a queued job -/

/-- What `try_start` goes on to do. -/
inductive StartAction
  | conclude (event : ExecutionEvent)
  | noSigner
  /-- The signed transaction, to be persisted; the signer is the first of the lane. -/
  | beginTx (new : Execution.NewTransaction) (rest : List Address)

/-- The conclusions of a withdrawal step that need no signer. -/
def nonceFree (answers : Answers) (seconds : ℕ) (job : Job) :
    Except ExecutorError (Option ExecutionEvent) :=
  match job.command with
  | .sweepBatch _ => .ok none
  | .withdrawalStep command =>
    let deadline := if command.notAfter.any fun deadline => decide (deadline ≤ seconds) then
      some (W.stepEvent job command .expired) else none
    match command.precondition with
    | none => .ok deadline
    | some precondition =>
      match answers.boundary with
      | .error e => .error (.chain e)
      | .ok boundary =>
        match check answers.stepReader W.config.logRangeSize precondition boundary with
        | .error e => .error (.chain e)
        | .ok (.violated txHash) => .ok (some (W.stepEvent job command (.executedElsewhere txHash)))
        | .ok .holds => .ok deadline

/-- `try_start`, up to its first commit.  A signer that carries a foreign transaction is skipped,
and the job is tried again on the rest of the lane. -/
def tryStart (answers : Answers) (seconds : ℕ) (job : Job) : List Address →
    Except ExecutorError StartAction
  | [] =>
    match W.nonceFree answers seconds job with
    | .error e => .error e
    | .ok (some event) => .ok (.conclude event)
    | .ok none => .ok .noSigner
  | signer :: rest =>
    match W.nonceFree answers seconds job with
    | .error e => .error e
    | .ok (some event) => .ok (.conclude event)
    | .ok none =>
      match answers.minedNonce signer, answers.pendingNonce signer with
      | .error e, _ => .error (.chain e)
      | .ok _, .error e => .error (.chain e)
      | .ok mined, .ok pending =>
        if mined < pending then
          if rest.isEmpty then .ok .noSigner else tryStart answers seconds job rest
        else
          match answers.estimateFees with
          | .error e => .error (.chain e)
          | .ok fees =>
            if job.command.isEmptyBatch then
              .error (.rejected "sweep batch has no items")
            else
              match W.prepare answers job.command signer mined (W.gasLimit job.command) fees 0 with
              | .error e => .error e
              | .ok attempt =>
                .ok (.beginTx ⟨job.id, W.config.chainId, signer, mined, W.target job.command,
                  slotCalldata job.command, W.gasLimit job.command, attempt⟩ rest)

/-- What `start` makes of an error. -/
inductive Failure
  | defer (error : String)
  | reject (event : ExecutionEvent)

/-- `start`'s handling of an error of `try_start`. -/
def onError (job : Job) (error : ExecutorError) : Failure :=
  if error.isRetryable && decide (job.attempts + 1 < W.policy.maxAttempts) then .defer error.text
  else .reject (W.abandonEvent job (.rejected error.text))

end ChainWorker

end Payday.Signers
