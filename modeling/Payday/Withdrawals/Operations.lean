/-
# The operations on withdrawals

`WithdrawalRepository` of `gum-ledger/src/withdrawals.rs`.  A withdrawal snapshots a wallet's
balance into legs; the merchant signs each leg, the server opens one step at a time for a leg and
applies what the signers prove about it.

Every operation is one transaction.  All but three of them lock the withdrawal's row first, so that
they run one after the other; `record_attestation` and `defer_attestation` are one statement on the
leg, and `authorize` locks the leg alone: what it reads of the withdrawal can be older than what it
reads of the leg.  A transaction that fails leaves the tables as they were.
-/
import Payday.Withdrawals.Schema

namespace Payday.Withdrawals

open Signers (WithdrawalStepKind StepResult)

structure NewWithdrawalLeg where
  id : LegId
  position : ℕ
  kind : LegKind
  sourceChainId : ChainId
  amount : ℕ
  tokenAddress : Address
  authorizationTo : Address
  nonce : Hash
  salt : Option Hash
  validBefore : ℕ
deriving DecidableEq, Repr

/-- What `POST /v1/withdrawals` computed. -/
structure NewWithdrawal where
  id : WithdrawalId
  accountId : AccountId
  idempotencyKey : String
  walletAddress : Address
  currency : Currency
  destinationChainId : ChainId
  destinationAddress : Address
  legs : List NewWithdrawalLeg
deriving DecidableEq, Repr

/-- The withdrawal's row, without an ending. -/
def NewWithdrawal.row (input : NewWithdrawal) : Withdrawal where
  id := input.id
  accountId := input.accountId
  idempotencyKey := input.idempotencyKey
  walletAddress := input.walletAddress
  currency := input.currency
  destinationChainId := input.destinationChainId
  destinationAddress := input.destinationAddress
  completedAt := none
  cancelledAt := none
  failedAt := none

/-- The leg's row, with the columns' defaults. -/
def NewWithdrawalLeg.row (leg : NewWithdrawalLeg) (now : Time) (input : NewWithdrawal) : Leg where
  id := leg.id
  withdrawalId := input.id
  position := leg.position
  kind := leg.kind
  sourceChainId := leg.sourceChainId
  destinationChainId := input.destinationChainId
  amount := leg.amount
  state := .awaitingSignature
  tokenAddress := leg.tokenAddress
  authorizationTo := leg.authorizationTo
  nonce := leg.nonce
  salt := leg.salt
  validBefore := leg.validBefore
  signature := none
  step := none
  stepReverts := 0
  stepRetryAt := none
  transferTxHash := none
  burnTxHash := none
  mintTxHash := none
  attestation := none
  attestationNextCheckAt := none
  failureReason := none
  createdAt := now
  updatedAt := now

inductive CreateWithdrawalError
  | inProgress
  | idempotencyKeyReused
  | database (violation : Violation)
deriving DecidableEq, Repr

inductive AuthorizeOutcome
  | authorized
  /-- Already authorized with this exact signature. -/
  | unchanged
  /-- Already authorized with a different signature, or past signing. -/
  | notAwaitingSignature
  | notFound
deriving DecidableEq, Repr

inductive CancelOutcome
  | cancelled
  | alreadyCancelled
  /-- Completed or failed. -/
  | finished
  /-- A leg has been relayed. -/
  | inProgress
  | notFound
deriving DecidableEq, Repr

/-- How the server treats the signers' evidence about a step; the durations in microseconds. -/
structure StepPolicy where
  revertBackoff : ℕ
  /-- After this many consecutive reverts the leg fails for good. -/
  maxReverts : ℕ
  attestationPoll : ℕ
deriving DecidableEq, Repr

/-- What applying a step result did to the leg. -/
inductive StepApplied
  | advanced (legId : LegId) (state : LegState)
  | retried (legId : LegId) (reverts : ℕ)
  | failed (legId : LegId)
  /-- Released without effect: the deadline passed. -/
  | released (legId : LegId)
deriving DecidableEq, Repr

inductive StepError
  | database (violation : Violation)
  /-- No leg runs this job. -/
  | notOpen (jobId : JobId)
  /-- The result names another step than the leg is running. -/
  | mismatch (jobId : JobId) (expected reported : WithdrawalStepKind)
deriving DecidableEq, Repr

/-- The state a released step goes back to. -/
def LegState.released : LegState → LegState
  | relaying => authorized
  | _ => attested

/-- `$3 * power(2, LEAST($2 - 1, 6))`. -/
def revertDelay (backoff reverts : ℕ) : ℕ := backoff * 2 ^ min (reverts - 1) 6

namespace Store

/-- The legs of a withdrawal. -/
def legsOf (db : Store) (withdrawalId : WithdrawalId) : List Leg :=
  db.legs.rows.filter fun leg => decide (leg.withdrawalId = withdrawalId)

/-! ### Closing a withdrawal -/

/-- `settle_in`: close the withdrawal once every leg is terminal. -/
def settleIn (db : Store) (now : Time) (withdrawalId : WithdrawalId) : Except Violation Store :=
  db.updateWithdrawals
    (fun w => decide (w.id = withdrawalId) && !w.ended && (db.legsOf w.id).all (·.state.isTerminal))
    (fun w =>
      if (db.legsOf w.id).all fun leg => decide (leg.state = .completed) then
        { w with completedAt := some now, failedAt := none }
      else { w with completedAt := none, failedAt := some now })
    (by
      intro w
      split <;> rfl)

/-! ### The merchant's side -/

/-- `create`. -/
def create (db : Store) (now : Time) (input : NewWithdrawal) : Except CreateWithdrawalError Store :=
  match db.insertWithdrawal input.row with
  | .error .withdrawalsOpen => .error .inProgress
  | .error .withdrawalsIdempotency => .error .idempotencyKeyReused
  | .error violation => .error (.database violation)
  | .ok db' =>
    match input.legs.foldlM (fun db leg => db.insertLeg (leg.row now input)) db' with
    | .error violation => .error (.database violation)
    | .ok db'' => .ok db''

/-- `authorize`, with the withdrawals as the snapshot of its statement has them. -/
def authorize (db : Store) (snapshot : Table Withdrawal.id) (now : Time) (account : AccountId)
    (withdrawalId : WithdrawalId) (legId : LegId) (signature : List UInt8) :
    Except Violation (Store × AuthorizeOutcome) :=
  let current := db.legs.rows.find? fun leg => decide (leg.id = legId) &&
    snapshot.rows.any fun w => decide (w.id = leg.withdrawalId ∧ w.accountId = account ∧
      w.id = withdrawalId ∧ w.cancelledAt = none)
  match current with
  | none => .ok (db, .notFound)
  | some leg =>
    if leg.state = .awaitingSignature then do
      let db' ← db.updateLegs (fun leg => decide (leg.id = legId))
        (fun leg => { leg with
          state := .authorized
          signature := some (signature, now)
          updatedAt := now })
      return (db', .authorized)
    else if leg.signature.map (·.1) = some signature then .ok (db, .unchanged)
    else .ok (db, .notAwaitingSignature)

/-- `cancel`. -/
def cancel (db : Store) (now : Time) (account : AccountId) (withdrawalId : WithdrawalId) :
    Except Violation (Store × CancelOutcome) :=
  match db.withdrawals.rows.find? fun w => decide (w.accountId = account ∧ w.id = withdrawalId) with
  | none => .ok (db, .notFound)
  | some row =>
    if row.cancelledAt.isSome then .ok (db, .alreadyCancelled)
    else if row.completedAt.isSome || row.failedAt.isSome then .ok (db, .finished)
    else if (db.legsOf withdrawalId).any fun leg =>
        !(leg.state.isUnrelayed || decide (leg.state = .expired)) then
      .ok (db, .inProgress)
    else do
      let db' ← db.updateLegs
        (fun leg => decide (leg.withdrawalId = withdrawalId) && leg.state.isUnrelayed)
        (fun leg => { leg with state := .cancelled, updatedAt := now })
      let db'' ← db'.updateWithdrawals (fun w => decide (w.id = withdrawalId))
        (fun w => { w with cancelledAt := some now })
      return (db'', .cancelled)

/-! ### The execution's side -/

/-- `relayable`: the legs a chain should act on next, before they are ordered and cut to a limit. -/
def relayable (db : Store) (now : Time) (chainId : ChainId) (minValidity : ℕ) : List Leg :=
  db.legs.rows.filter fun leg =>
    (db.withdrawals.rows.any fun w => decide (w.id = leg.withdrawalId ∧ w.cancelledAt = none)) &&
    decide (leg.step = none) && leg.stepRetryAt.all (fun at' => decide (at' ≤ now)) &&
    (decide (leg.state = .attested ∧ leg.destinationChainId = chainId) ||
      decide (leg.state = .authorized ∧ leg.sourceChainId = chainId ∧
        now + minValidity < leg.validBefore * 10 ^ 6))

/-- `begin_step`: `false` when the leg has no step to open or its withdrawal was cancelled. -/
def beginStep (db : Store) (now : Time) (legId : LegId) (jobId : JobId) (chainId : ChainId) :
    Except Violation (Store × Bool) :=
  if db.legs.rows.any fun leg => decide (leg.id = legId) &&
      db.withdrawals.rows.any fun w => decide (w.id = leg.withdrawalId ∧ w.cancelledAt = none) then do
    let p := fun leg : Leg => decide (leg.id = legId ∧ leg.step = none ∧
      (leg.state = .authorized ∨ leg.state = .attested))
    let db' ← db.updateLegs p
      (fun leg => { leg with
        state := if leg.state = .authorized then .relaying else .minting
        step := some ⟨jobId, chainId⟩
        updatedAt := now })
    return (db', db.legs.rows.any p)
  else .ok (db, false)

/-- The leg that runs the step. -/
def legOfJob (db : Store) (jobId : JobId) : Option Leg :=
  db.legs.rows.find? fun leg => decide (leg.step.map OpenStep.jobId = some jobId)

/-- `advance`: record the step's transaction, move the leg on, settle the withdrawal. -/
def advance (db : Store) (now : Time) (leg : Leg) (step : WithdrawalStepKind) (txHash : Option Hash)
    (nextCheckAt : Time) : Except StepError (Store × StepApplied) :=
  let state : LegState := match step with
    | .transfer | .mint => .completed
    | .burn => .burned
  match (db.updateLegs (fun row => decide (row.id = leg.id))
      (fun row => { row with
        state := state
        transferTxHash := if step = .transfer then txHash else row.transferTxHash
        burnTxHash := if step = .burn then txHash else row.burnTxHash
        mintTxHash := if step = .mint then txHash else row.mintTxHash
        attestationNextCheckAt := if step = .burn then some nextCheckAt else none
        step := none
        stepReverts := 0
        stepRetryAt := none
        updatedAt := now })).bind fun db' => db'.settleIn now leg.withdrawalId with
  | .error violation => .error (.database violation)
  | .ok db' => .ok (db', .advanced leg.id state)

/-- `fail`. -/
def fail (db : Store) (now : Time) (leg : Leg) (reason : String) :
    Except StepError (Store × StepApplied) :=
  match (db.updateLegs (fun row => decide (row.id = leg.id))
      (fun row => { row with
        state := .failed
        failureReason := some reason
        step := none
        stepRetryAt := none
        updatedAt := now })).bind fun db' => db'.settleIn now leg.withdrawalId with
  | .error violation => .error (.database violation)
  | .ok db' => .ok (db', .failed leg.id)

/-- `retry_or_fail`: the leg goes back to its queue behind a backoff; a run of them is a failure.  A
count of `2 ^ 15` is bound as the `SMALLINT` `-2 ^ 15`, and the backoff's power underflows. -/
def retryOrFail (db : Store) (now : Time) (leg : Leg) (policy : StepPolicy) (reason : String) :
    Except StepError (Store × StepApplied) :=
  let reverts := leg.stepReverts + 1
  if policy.maxReverts ≤ reverts then db.fail now leg reason
  else if 2 ^ 15 ≤ reverts then .error (.database .powerUnderflow)
  else
    match db.updateLegs (fun row => decide (row.id = leg.id))
        (fun row => { row with
          state := row.state.released
          step := none
          stepReverts := reverts
          stepRetryAt := some (now + revertDelay policy.revertBackoff reverts)
          updatedAt := now }) with
    | .error violation => .error (.database violation)
    | .ok db' => .ok (db', .retried leg.id reverts)

/-- `describe_abandon`. -/
def describeAbandon : AbandonReason → String
  | .reverted txHash => s!"transaction {txHash} reverted"
  | .nonceConsumed signer nonce => s!"signer {signer} nonce {nonce} was consumed by another transaction"
  | .rejected reason => reason

/-- `apply_step_result`. -/
def applyStepResult (db : Store) (now : Time) (jobId : JobId) (reported : WithdrawalStepKind)
    (result : StepResult) (policy : StepPolicy) : Except StepError (Store × StepApplied) :=
  match db.legOfJob jobId with
  | none => .error (.notOpen jobId)
  | some leg =>
    match leg.stepKind with
    | none => .error (.notOpen jobId)
    | some expected =>
      if expected ≠ reported then .error (.mismatch jobId expected reported)
      else
        let nextCheckAt := now + policy.attestationPoll
        match result with
        | .succeeded txHash _ _ => db.advance now leg expected (some txHash) nextCheckAt
        | .executedElsewhere txHash =>
          match expected, txHash with
          -- whoever paid the gas, the funds are minted where the message says
          | .mint, _ => db.advance now leg expected none nextCheckAt
          | .transfer, hash => db.advance now leg expected hash nextCheckAt
          | .burn, some hash => db.advance now leg expected (some hash) nextCheckAt
          | .burn, none => db.fail now leg "the authorization was consumed by a transaction outside the searched history; the burn cannot be attested"
        | .reverted _ =>
          db.retryOrFail now leg policy (match expected with
            | .transfer => "the transfer transaction reverted"
            | .burn => "the burn transaction reverted"
            | .mint => "the mint transaction reverted")
        | .abandoned reason =>
          db.retryOrFail now leg policy s!"the step could not be executed: {describeAbandon reason}"
        | .expired =>
          match db.updateLegs (fun row => decide (row.id = leg.id))
              (fun row => { row with
                state := row.state.released
                step := none
                updatedAt := now }) with
          | .error violation => .error (.database violation)
          | .ok db' => .ok (db', .released leg.id)

/-- `reject_step`: `false` when no leg runs the job. -/
def rejectStep (db : Store) (now : Time) (jobId : JobId) (reason : String) :
    Except StepError (Store × Bool) :=
  match db.legOfJob jobId with
  | none => .ok (db, false)
  | some leg =>
    match db.fail now leg s!"the signers rejected the step: {reason}" with
    | .error e => .error e
    | .ok (db', _) => .ok (db', true)

/-- `fail_leg`. -/
def failLeg (db : Store) (now : Time) (legId : LegId) (reason : String) :
    Except Violation (Store × Bool) :=
  match db.legs.rows.find? fun leg => decide (leg.id = legId) && !leg.state.isTerminal with
  | none => .ok (db, false)
  | some leg => do
    let db' ← db.updateLegs (fun leg => decide (leg.id = legId) && !leg.state.isTerminal)
      (fun leg => { leg with
        state := .failed
        failureReason := some reason
        step := none
        stepRetryAt := none
        updatedAt := now })
    let db'' ← db'.settleIn now leg.withdrawalId
    return (db'', true)

/-- Never relayed, and its authorization will not be usable `margin` from now. -/
def stale (now margin : ℕ) (leg : Leg) : Bool :=
  leg.state.isUnrelayed && decide (leg.validBefore * 10 ^ 6 ≤ now + margin)

/-- `expire_stale`: the number of legs that expired. -/
def expireStale (db : Store) (now : Time) (margin : ℕ) : Except Violation (Store × ℕ) := do
  let withdrawals := (db.legs.rows.filter (stale now margin)).map (·.withdrawalId)
  let db' ← db.updateLegs (stale now margin)
    (fun leg => { leg with state := .expired, updatedAt := now })
  let distinct := (withdrawals.mergeSort fun a b => decide (a ≤ b)).dedup
  let db'' ← distinct.foldlM (fun db withdrawalId => db.settleIn now withdrawalId) db'
  return (db'', withdrawals.length)

/-- `legs_awaiting_attestation`, before they are ordered. -/
def legsAwaitingAttestation (db : Store) (now : Time) (chainId : ChainId) : List Leg :=
  db.legs.rows.filter fun leg => decide (leg.state = .burned ∧ leg.sourceChainId = chainId) &&
    leg.attestationNextCheckAt.all fun at' => decide (at' ≤ now)

/-- `record_attestation`. -/
def recordAttestation (db : Store) (now : Time) (legId : LegId) (message attestation : List UInt8) :
    Except Violation (Store × Bool) := do
  let p := fun leg : Leg => decide (leg.id = legId ∧ leg.state = .burned)
  let db' ← db.updateLegs p
    (fun leg => { leg with
      state := .attested
      attestation := some (message, attestation)
      attestationNextCheckAt := none
      updatedAt := now })
  return (db', db.legs.rows.any p)

/-- `defer_attestation`. -/
def deferAttestation (db : Store) (now : Time) (legId : LegId) (nextCheckAt : Time) :
    Except Violation (Store × Bool) := do
  let p := fun leg : Leg => decide (leg.id = legId ∧ leg.state = .burned)
  let db' ← db.updateLegs p
    (fun leg => { leg with attestationNextCheckAt := some nextCheckAt, updatedAt := now })
  return (db', db.legs.rows.any p)

end Store

end Payday.Withdrawals
