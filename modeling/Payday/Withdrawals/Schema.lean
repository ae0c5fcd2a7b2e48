/-
# Withdrawals and their legs

The tables `withdrawals` and `withdrawal_legs` of `gum-schema/migrations/0001_application.sql`.  A
withdrawal has one leg for every chain it takes money from; a leg is either a transfer on the
destination chain or a bridge from another one.  Columns that a `CHECK` ties together are one field
here: the signature and its time, the job and the chain of an open step, and an attested message and
its attestation.  The addresses are texts whose shape is checked, so they always parse.

The other constraints travel with the tables, and a statement that would break one fails.
-/
import Payday.Signers.Messages

namespace Payday.Withdrawals

open Signers (WithdrawalStepKind StepResult)

abbrev WithdrawalId := ℕ
abbrev LegId := ℕ
abbrev AccountId := ℕ

inductive LegKind
  /-- Funds already on the destination chain: one `transferWithAuthorization`. -/
  | transfer
  /-- Funds on another chain: `WithdrawalForwarder.bridge`, then the mint. -/
  | bridge
deriving DecidableEq, Repr

inductive LegState
  | awaitingSignature
  | authorized
  | relaying
  | burned
  | attested
  | minting
  | completed
  | failed
  | expired
  | cancelled
deriving DecidableEq, Repr

namespace LegState

/-- `as_str`. -/
def asStr : LegState → String
  | awaitingSignature => "awaiting_signature"
  | authorized => "authorized"
  | relaying => "relaying"
  | burned => "burned"
  | attested => "attested"
  | minting => "minting"
  | completed => "completed"
  | failed => "failed"
  | expired => "expired"
  | cancelled => "cancelled"

def isTerminal : LegState → Bool
  | completed | failed | expired | cancelled => true
  | _ => false

/-- `withdrawal_legs_step_only_while_relaying`. -/
def hasStep : LegState → Bool
  | relaying | minting => true
  | _ => false

/-- The states in which a leg can do without a signature (`withdrawal_legs_signed_before_relay`). -/
def isUnsigned : LegState → Bool
  | awaitingSignature | expired | cancelled => true
  | _ => false

/-- Waiting to be relayed, or to be signed. -/
def isUnrelayed : LegState → Bool
  | awaitingSignature | authorized => true
  | _ => false

end LegState

/-- A row of `withdrawals`. -/
structure Withdrawal where
  id : WithdrawalId
  accountId : AccountId
  idempotencyKey : String
  walletAddress : Address
  currency : Currency
  destinationChainId : ChainId
  destinationAddress : Address
  completedAt : Option Time
  cancelledAt : Option Time
  failedAt : Option Time
deriving DecidableEq, Repr

namespace Withdrawal

/-- The withdrawal has one of its endings. -/
def ended (w : Withdrawal) : Bool := w.completedAt.isSome || w.cancelledAt.isSome || w.failedAt.isSome

/-- `num_nonnulls(completed_at, cancelled_at, failed_at)`. -/
def endings (w : Withdrawal) : ℕ :=
  w.completedAt.toList.length + w.cancelledAt.toList.length + w.failedAt.toList.length

end Withdrawal

/-- The `WithdrawalStep` command in flight for a leg. -/
structure OpenStep where
  jobId : JobId
  chainId : ChainId
deriving DecidableEq, Repr

/-- A row of `withdrawal_legs`. -/
structure Leg where
  id : LegId
  withdrawalId : WithdrawalId
  position : ℕ
  kind : LegKind
  sourceChainId : ChainId
  destinationChainId : ChainId
  amount : ℕ
  state : LegState
  tokenAddress : Address
  /-- The payee: the destination (transfer) or the forwarder (bridge). -/
  authorizationTo : Address
  nonce : Hash
  salt : Option Hash
  /-- Unix seconds; the token refuses the authorization from then on. -/
  validBefore : ℕ
  /-- The signature, and when it was recorded. -/
  signature : Option (List UInt8 × Time)
  step : Option OpenStep
  /-- Reverts of the current step so far. -/
  stepReverts : ℕ
  /-- The leg is not relayable before this instant. -/
  stepRetryAt : Option Time
  transferTxHash : Option Hash
  burnTxHash : Option Hash
  mintTxHash : Option Hash
  /-- The attested message and its attestation. -/
  attestation : Option (List UInt8 × List UInt8)
  attestationNextCheckAt : Option Time
  failureReason : Option String
  createdAt : Time
  updatedAt : Time
deriving DecidableEq, Repr

namespace Leg

/-- The step the leg's state calls for next, or is running. -/
def stepKind (leg : Leg) : Option WithdrawalStepKind :=
  match leg.state, leg.kind with
  | .attested, _ | .minting, _ => some .mint
  | .authorized, .transfer | .relaying, .transfer => some .transfer
  | .authorized, .bridge | .relaying, .bridge => some .burn
  | _, _ => none

/-- The `CHECK` constraints of a leg: `withdrawal_legs_kind_matches_chains`, `…_amount_positive`,
`…_salt`, `…_signature`, `…_signed_before_relay`, `…_step_only_while_relaying`, `…_failure_reason`. -/
def Checked (leg : Leg) : Prop :=
  (leg.kind = .transfer ↔ leg.sourceChainId = leg.destinationChainId) ∧
  leg.amount ≠ 0 ∧
  (leg.salt = none ↔ leg.kind = .transfer) ∧
  (∀ signed ∈ leg.signature, signed.1.length = 65) ∧
  (leg.state.isUnsigned = true ∨ leg.signature ≠ none) ∧
  (leg.step = none ∨ leg.state.hasStep = true) ∧
  (leg.failureReason ≠ none ↔ leg.state = .failed)

instance : DecidablePred Checked := fun leg =>
  inferInstanceAs (Decidable ((_ ↔ _) ∧ leg.amount ≠ 0 ∧ (_ ↔ _) ∧ _ ∧ _ ∧ _ ∧ (_ ↔ _)))

end Leg

/-- Why a statement fails: the constraint it would violate, or a value out of range. -/
inductive Violation
  | withdrawalsKey
  | withdrawalsOpen
  | withdrawalsIdempotency
  | withdrawalsOneEnding
  | legsKey
  | legsPosition
  | legsReference
  | legsCheck
  | legsStepJob
  /-- `value out of range: underflow`. -/
  | powerUnderflow
deriving DecidableEq, Repr

/-- The two tables, with their constraints. -/
structure Store where
  withdrawals : Table Withdrawal.id
  legs : Table Leg.id
  /-- `withdrawals_one_ending`. -/
  oneEnding : ∀ w ∈ withdrawals.rows, w.endings ≤ 1
  checked : ∀ leg ∈ legs.rows, leg.Checked
  /-- `withdrawal_legs_step_job`. -/
  stepJobs : (legs.rows.filterMap fun leg => leg.step.map OpenStep.jobId).Nodup
  /-- `withdrawal_id REFERENCES withdrawals(id)`. -/
  references : ∀ leg ∈ legs.rows, leg.withdrawalId ∈ withdrawals.rows.map Withdrawal.id

namespace Store

def empty : Store := ⟨Table.empty, Table.empty, by simp, by simp, by simp, by simp⟩

/-- `UPDATE withdrawal_legs`. -/
def updateLegs (db : Store) (p : Leg → Bool) (f : Leg → Leg)
    (hf : ∀ leg, (f leg).id = leg.id ∧ (f leg).withdrawalId = leg.withdrawalId :=
      by intro _; exact ⟨rfl, rfl⟩) : Except Violation Store :=
  let legs := db.legs.updateWhere p f fun leg => (hf leg).1
  if checked : ∀ leg ∈ legs.rows, leg.Checked then
    if stepJobs : (legs.rows.filterMap fun leg => leg.step.map OpenStep.jobId).Nodup then
      .ok ⟨db.withdrawals, legs, db.oneEnding, checked, stepJobs, by
        intro leg hleg
        rcases Table.mem_updateWhere hleg with ⟨old, hold, -, rfl⟩ | ⟨hold, -⟩
        · rw [(hf old).2]
          exact db.references old hold
        · exact db.references leg hold⟩
    else .error .legsStepJob
  else .error .legsCheck

/-- `UPDATE withdrawals`. -/
def updateWithdrawals (db : Store) (p : Withdrawal → Bool) (f : Withdrawal → Withdrawal)
    (hf : ∀ w, (f w).id = w.id := by intro _; rfl) : Except Violation Store :=
  let withdrawals := db.withdrawals.updateWhere p f hf
  if oneEnding : ∀ w ∈ withdrawals.rows, w.endings ≤ 1 then
    .ok ⟨withdrawals, db.legs, oneEnding, db.checked, db.stepJobs, by
      intro leg hleg
      rw [Table.column_of_rows_map (Table.rows_updateWhere ..)]
      · exact db.references leg hleg
      · intro w
        by_cases hp : p w <;> simp [hp, hf]⟩
  else .error .withdrawalsOneEnding

/-- `INSERT INTO withdrawals`. -/
def insertWithdrawal (db : Store) (w : Withdrawal) : Except Violation Store :=
  if db.withdrawals.rows.any fun row => decide (row.accountId = w.accountId) && !row.ended then
    .error .withdrawalsOpen
  else if db.withdrawals.rows.any fun row => decide (row.accountId = w.accountId ∧
      row.idempotencyKey = w.idempotencyKey) then
    .error .withdrawalsIdempotency
  else if hkey : w.id ∈ db.withdrawals.rows.map Withdrawal.id then .error .withdrawalsKey
  else if hending : w.endings ≤ 1 then
    .ok ⟨⟨db.withdrawals.rows ++ [w], by
        rw [List.map_append, List.map_singleton]
        exact List.nodup_append.2 ⟨db.withdrawals.nodup, by simp, by
          intro a ha b hb hab
          rw [List.mem_singleton.1 hb] at hab
          exact hkey (hab ▸ ha)⟩⟩, db.legs, by
        intro row hrow
        rcases List.mem_append.1 hrow with hrow | hrow
        · exact db.oneEnding row hrow
        · rw [List.mem_singleton.1 hrow]
          exact hending, db.checked, db.stepJobs, by
        intro leg hleg
        rw [List.map_append]
        exact List.mem_append_left _ (db.references leg hleg)⟩
  else .error .withdrawalsOneEnding

/-- `INSERT INTO withdrawal_legs`. -/
def insertLeg (db : Store) (leg : Leg) : Except Violation Store :=
  if hkey : leg.id ∈ db.legs.rows.map Leg.id then .error .legsKey
  else if db.legs.rows.any fun row => decide (row.withdrawalId = leg.withdrawalId ∧
      row.position = leg.position) then
    .error .legsPosition
  else if hreference : leg.withdrawalId ∈ db.withdrawals.rows.map Withdrawal.id then
    if checked : leg.Checked then
      if stepJobs : ((db.legs.rows ++ [leg]).filterMap fun leg => leg.step.map OpenStep.jobId).Nodup then
        .ok ⟨db.withdrawals, ⟨db.legs.rows ++ [leg], by
            rw [List.map_append, List.map_singleton]
            exact List.nodup_append.2 ⟨db.legs.nodup, by simp, by
              intro a ha b hb hab
              rw [List.mem_singleton.1 hb] at hab
              exact hkey (hab ▸ ha)⟩⟩, db.oneEnding, by
            intro row hrow
            rcases List.mem_append.1 hrow with hrow | hrow
            · exact db.checked row hrow
            · rw [List.mem_singleton.1 hrow]
              exact checked, stepJobs, by
            intro row hrow
            rcases List.mem_append.1 hrow with hrow | hrow
            · exact db.references row hrow
            · rw [List.mem_singleton.1 hrow]
              exact hreference⟩
      else .error .legsStepJob
    else .error .legsCheck
  else .error .legsReference

end Store

end Payday.Withdrawals
