/-
# Issuing, binding and closing requests

The writers of `invoices` outside the range and sweep paths: the `INSERT` of
`insert_issued`, the two ways a request gets its address (`bind_payer_wallet`,
`bind_network`), the expiry of unbound requests, the completion of payer verification, and
the merchant's cancellation intent.
-/
import Payday.Ledger.Sweeps

namespace Payday

/-- What issuance fixes about a request. -/
structure IssuedRequest where
  id : InvoiceId
  currency : Currency
  beneficiary : Address
  recovery : Address
  amount : ℕ
  amount_pos : 0 < amount
  expirationTimestamp : ℕ
  walletAttestationRequired : Bool
  expectedEmail : Option String
  payerReference : Option String
  /-- The address registered at issuance, for a request with one pinned network. -/
  initialBinding : Option Binding

/-- The row a request is issued as. -/
def IssuedRequest.row (input : IssuedRequest) (now : Time) : Invoice where
  id := input.id
  currency := input.currency
  beneficiary := input.beneficiary
  recovery := input.recovery
  amount := input.amount
  amount_pos := input.amount_pos
  expirationTimestamp := input.expirationTimestamp
  walletAttestationRequired := input.walletAttestationRequired
  expectedEmail := input.expectedEmail
  payerReference := input.payerReference
  verificationCompletedAt := none
  binding := input.initialBinding
  status := .created
  confirmedReceived := 0
  fundedAtBlock := none
  fundedAtBlockHash := none
  observedAmount := none
  paidAt := none
  expiredAt := none
  executeTxHash := none
  settlementTxHash := none
  settlementTransactionIndex := none
  resolvedAtBlock := none
  settledAt := none
  drainedAt := none
  uncollectedCount := 0
  sweepJobId := none
  sweepAttempts := 0
  lastAttemptAt := none
  attentionReason := none
  likelyUnsolicitedAt := none
  cancellationRequestedAt := none
  updatedAt := now

/-- Whether some request already has the binding's address for its token and chain
(`invoices_chain_token_payment_address_unique`). -/
def Ledger.addressTaken (L : Ledger) (binding : Binding) : Bool :=
  L.invoices.rows.any (fun row => row.binding.any (fun other =>
    decide (other.chainId = binding.chainId ∧ other.token = binding.token ∧
      other.paymentAddress = binding.paymentAddress)))

/-- The `INSERT` of `insert_issued`. -/
def insertIssued (L : Ledger) (now : Time) (input : IssuedRequest) : Ledger :=
  if input.initialBinding.any L.addressTaken then L
  else match L.invoices.insert? (input.row now) with
    | none => L
    | some invoices => { L with invoices := invoices }

/-- Whether `bind_payer_wallet` may bind the row. -/
def walletBindable (nowSecs : ℕ) (row : Invoice) : Bool :=
  row.binding.isNone && decide (row.status = .created) &&
    decide (nowSecs ≤ row.expirationTimestamp) && row.walletAttestationRequired

/-- Whether `bind_network` may bind the row. -/
def networkBindable (row : Invoice) : Bool :=
  row.binding.isNone && decide (row.status = .created) && !row.walletAttestationRequired

/-- Write the whole binding of one row at once. -/
def writeBinding (L : Ledger) (now : Time) (id : InvoiceId) (bindable : Invoice → Bool)
    (binding : Binding) : Ledger :=
  if L.addressTaken binding then L
  else { L with
    invoices := L.invoices.updateWhere (fun row => decide (row.id = id) && bindable row)
      (fun row => { row with binding := some binding, updatedAt := now }) }

/-- Bind the payer's attested wallet to an open request. -/
def bindPayerWallet (L : Ledger) (now : Time) (nowSecs : ℕ) (id : InvoiceId) (wallet : Address)
    (binding : Binding) : Ledger :=
  writeBinding L now id (walletBindable nowSecs) { binding with payerWallet := some wallet }

/-- Register the address of a request without the wallet-attestation add-on. -/
def bindNetwork (L : Ledger) (now : Time) (id : InvoiceId) (binding : Binding) : Ledger :=
  writeBinding L now id networkBindable { binding with payerWallet := none }

/-- Expire every unbound `created` request whose deadline precedes `chainTime`. -/
def expireUnbound (L : Ledger) (now : Time) (chainTime : ℕ) : Ledger :=
  { L with
    invoices := L.invoices.updateWhere
      (fun row => row.binding.isNone && decide (row.status = .created) &&
        decide (row.expirationTimestamp < chainTime))
      (Invoice.expire now chainTime) }

/-- `EXTRACT(EPOCH FROM t)::bigint`: the timestamp in seconds, rounded to the nearest. -/
def epochSeconds (t : Time) : ℕ := (t + 500000) / 1000000

/-- Whether a proof made at `verifiedAt` may complete the verification of the row: the request is
not verified yet, still open, and its deadline has not passed. -/
def Invoice.verifiable (verifiedAt : Time) (row : Invoice) : Bool :=
  row.verificationCompletedAt.isNone && row.status.isOpen &&
    decide (epochSeconds verifiedAt ≤ row.expirationTimestamp)

/-- The update of `approve_email` and `exchange_client_secret` on the request itself. -/
def completeVerification (L : Ledger) (now : Time) (id : InvoiceId) (verifiedAt : Time) : Ledger :=
  { L with
    invoices := L.invoices.updateWhere
      (fun row => decide (row.id = id) && row.verifiable verifiedAt)
      (fun row => { row with verificationCompletedAt := some verifiedAt, updatedAt := now }) }

/-- Record the merchant's wish to cancel; nothing else changes. -/
def requestCancellation (L : Ledger) (now : Time) (id : InvoiceId) : Ledger :=
  { L with
    invoices := L.invoices.updateWhere
      (fun row => decide (row.id = id) && row.cancellationRequestedAt.isNone)
      (fun row => { row with cancellationRequestedAt := some now, updatedAt := now }) }

/-! ### Chain faults -/

/-- Halt a chain; idempotent while a fault is open. -/
def raiseFault (L : Ledger) (now : Time) (faultId : ℕ) (chainId : ChainId) (reason : String)
    (block : Option ℕ) : Ledger :=
  if L.isHalted chainId then L
  else { L with
    chainFaults := L.chainFaults.insertNew ⟨faultId, chainId, reason, block, now, none⟩ }

/-- Clear the open fault of a chain. -/
def clearFault (L : Ledger) (now : Time) (chainId : ChainId) : Ledger :=
  { L with
    chainFaults := L.chainFaults.updateWhere
      (fun fault => decide (fault.chainId = chainId) && fault.clearedAt.isNone)
      (fun fault => { fault with clearedAt := some now }) }

end Payday
