/-
# The service's database

A row of `invoices` has more columns than the ledger's transactions read: the document the request
was issued with, and the attestation its payer signed.  They are a table of their own here, written
by the transactions that write the row: `insert_issued`, `bind_network` and `bind_payer_wallet`.
Every other transaction of the payer, the merchant, the indexer, the relay poller and the signers'
events is one of `Verification.Gate`, on values that fit their types.

`Database.getProof` reads the request as `get_proof` does: the row, the credited transfers with the
filled intents they are attributed to, and the attempts.  The checks of the API before a transaction
(the caller's session, the request's deadline) only refuse calls, so they are left out.
-/
import Payday.Proofs.Binding
import Payday.Verification.Gate

namespace Payday

/-! ### Values that fit their types -/

/-- A log as the chain's types bound it. -/
structure PaymentObservation.Typed (o : PaymentObservation) : Prop where
  blockNumber : o.blockNumber < 2 ^ 64
  transactionHash : o.transactionHash < 2 ^ 256
  logIndex : o.logIndex < 2 ^ 64
  sender : o.sender < 2 ^ 160
  recipient : o.recipient < 2 ^ 160
  amount : o.amount < 2 ^ 256

/-- An intent as the types of its columns bound it. -/
structure RelayIntent.Typed (r : RelayIntent) : Prop where
  requestId : r.requestId < 2 ^ 256
  originChainId : r.originChainId < 2 ^ 64
  payerWallet : r.payerWallet < 2 ^ 160
  verifiedOriginTxHash : ∀ hash ∈ r.verifiedOriginTxHash, hash < 2 ^ 256

/-- A receipt as its types bound it. -/
structure FinalizedSweep.Typed (receipt : FinalizedSweep) : Prop where
  txHash : receipt.txHash < 2 ^ 256
  evidence : ∀ item ∈ receipt.items, ∀ amount evidence,
    item.outcome = .lateCollected amount (some evidence) → evidence.txHash < 2 ^ 256

/-- The values a transaction brings fit their types. -/
def Op.Typed : Op → Prop
  | .insertRelayIntent intent => intent.Typed
  | .resolveFilled _ _ verifiedOriginTxHash _ => verifiedOriginTxHash < 2 ^ 256
  | .applyFinalizedRange range => ∀ o ∈ range.observations, o.Typed
  | .deliver _ (.sweepFinalized receipt) => receipt.Typed
  | _ => True

/-- The transactions that issue a request or give it an address. -/
def Op.writesDocument : Op → Bool
  | .insertIssued .. | .bindPayerWallet .. | .bindNetwork .. => true
  | _ => false

namespace Verification

def Transaction.Typed : Transaction → Prop
  | .request op => op.1.Typed
  | _ => True

def Transaction.writesDocument : Transaction → Bool
  | .bindPayerWallet .. => true
  | .request op => op.1.writesDocument
  | _ => false

/-- The columns of an attempt that a proof reads. -/
def Attempt.summary (attempt : Attempt) : Proofs.VerificationAttempt :=
  ⟨attempt.kind, attempt.status, attempt.verifiedAt⟩

end Verification

namespace Proofs

open Verification (Store Outside Transaction SessionId AttemptId AccountId attemptsForInvoice)

/-! ### Documents -/

/-- The columns of a row of `invoices` beside the ledger's: the request as it was issued, and the
attestation its address commits to. -/
structure Document where
  invoice : Invoice
  payerAttestation : Option PayerWalletAttestation
deriving DecidableEq

def Document.id (document : Document) : InvoiceId := document.invoice.id

structure Database where
  store : Store
  documents : Table Document.id

/-- No request, no payer and no document. -/
def Database.empty : Database := ⟨.empty, .empty⟩

/-- The columns a binding is written to, at `now`. -/
def PaymentBinding.columns (binding : PaymentBinding) (now : Time) : Binding where
  chainId := binding.network.chainId
  factory := binding.network.factory
  token := binding.network.token
  salt := binding.salt
  paymentAddress := binding.paymentAddress
  readyAt := now
  payerWallet := binding.wallet.map (·.payerWallet)

variable (P : Primitives) (O : Outside)

/-- The evidence of a wallet, whose columns are written with the binding. -/
def Document.walletEvidence (document : Document) (columns : Binding) : Option WalletEvidence :=
  match columns.payerWallet, document.payerAttestation with
  | some payerWallet, some attestation => some ⟨payerWallet, attestation, P.rfc3339 columns.readyAt⟩
  | _, _ => none

/-- The binding of a row, as it is decoded from its columns. -/
def Document.binding (document : Document) (recovery : Address) (columns : Binding) : PaymentBinding where
  network := ⟨columns.chainId, columns.token, columns.factory⟩
  recovery := recovery
  salt := columns.salt
  paymentAddress := columns.paymentAddress
  readyAt := P.rfc3339 columns.readyAt
  wallet := document.walletEvidence P columns

/-- `Invoice::try_from` of a row. -/
def Document.decode (document : Document) (row : Payday.Invoice) : Invoice :=
  { document.invoice with binding := row.binding.map (document.binding P row.recovery) }

/-! ### Issuing and binding -/

/-- What a request is issued with. -/
structure Draft where
  nonce : Hash
  currency : Currency
  terms : Terms
  snapshot : CanonicalIssuanceSnapshot
  nonce_lt : nonce < 2 ^ 256
  amount_pos : 0 < terms.amount

/-- `Invoice::issue`. -/
def Draft.issue (draft : Draft) (id : InvoiceId) : Except AttributionError Invoice :=
  Invoice.issue P id draft.nonce draft.currency draft.terms.networks draft.terms.beneficiary
    draft.terms.recovery draft.terms.amount draft.terms.expirationTimestamp draft.snapshot

/-- `CreateInvoiceInput::from_invoice`: the ledger's columns of an issued request. -/
def Draft.request (draft : Draft) (invoice : Invoice) (initialBinding : Option Binding) : IssuedRequest where
  id := invoice.id
  currency := draft.currency
  beneficiary := invoice.beneficiary
  recovery := draft.terms.recovery
  amount := draft.terms.amount
  amount_pos := draft.amount_pos
  expirationTimestamp := invoice.expirationTimestamp
  walletAttestationRequired := invoice.walletAttestationRequired
  expectedEmail := invoice.issuanceSnapshot.payerVerification.email
  payerReference := invoice.issuanceSnapshot.payerVerification.merchantAuth
  initialBinding := initialBinding

/-- A request that offers one network and asks for no wallet is payable at once. -/
def initialBinding (invoice : Invoice) (now : Time) : Except BindError (Option PaymentBinding) :=
  match invoice.walletAttestationRequired, invoice.networks with
  | false, [network] => (invoice.bindNetwork P network.chainId (P.rfc3339 now)).map some
  | _, _ => .ok none

namespace Database

variable (D : Database)

/-- Issue a request and store it; `none` if its id or its address is taken. -/
def issue (now dbNow : Time) (id : InvoiceId) (draft : Draft) : Option Database := do
  let invoice ← (draft.issue P id).toOption
  let initial ← (initialBinding P invoice now).toOption
  let input := draft.request invoice (initial.map fun binding => binding.columns now)
  if (D.store.ledger.invoices.find? id).isSome || input.initialBinding.any D.store.ledger.addressTaken then none
  else some {
    store := { D.store with ledger := insertIssued D.store.ledger dbNow input }
    documents := D.documents.insertNew ⟨invoice, none⟩ }

/-- The payer chooses the network: `select_network`. -/
def selectNetwork (now dbNow : Time) (id : InvoiceId) (chainId : ChainId) : Option Database := do
  let document ← D.documents.find? id
  let binding ← (document.invoice.bindNetwork P chainId (P.rfc3339 now)).toOption
  some { D with store := { D.store with
    ledger := Payday.bindNetwork D.store.ledger dbNow id (binding.columns now) } }

/-- Keep the attestation that a binding was made with. -/
def attestationWritten (id : InvoiceId) (attestation : PayerWalletAttestation) : Table Document.id :=
  D.documents.updateWhere (fun document => decide (document.id = id))
    fun document => { document with payerAttestation := some attestation }

/-- The payer attests a wallet: `attest`. -/
def attest (now dbNow : Time) (attemptId : AttemptId) (id : InvoiceId) (sessionId : SessionId)
    (chainId : ChainId) (attestation : PayerWalletAttestation) : Option Database := do
  let document ← D.documents.find? id
  let binding ← (document.invoice.bindPayerWallet P chainId attestation (P.rfc3339 now)).toOption
  let evidence ← binding.wallet
  match Verification.bindPayerWallet O D.store now dbNow attemptId id sessionId evidence.payerWallet
      (binding.columns now) with
  | .ok (store, .bound _) => some ⟨store, D.attestationWritten id evidence.attestation⟩
  | .ok (store, _) => some { D with store := store }
  | .error _ => none

end Database

/-! ### Runs -/

/-- A transaction of the service. -/
inductive Action
  | issue (now : Time) (id : InvoiceId) (draft : Draft)
  | selectNetwork (now : Time) (id : InvoiceId) (chainId : ChainId)
  | attest (now : Time) (attemptId : AttemptId) (id : InvoiceId) (sessionId : SessionId) (chainId : ChainId)
      (attestation : PayerWalletAttestation)
  /-- Any other transaction. -/
  | commit (tx : {tx : Transaction // tx.writesDocument = false ∧ tx.Typed})

namespace Database

/-- The database after one transaction; a failed one is rolled back. -/
def step (D : Database) (dbNow : Time) : Action → Database
  | .issue now id draft => (D.issue P now dbNow id draft).getD D
  | .selectNetwork now id chainId => (D.selectNetwork P now dbNow id chainId).getD D
  | .attest now attemptId id sessionId chainId attestation =>
    (D.attest P O now dbNow attemptId id sessionId chainId attestation).getD D
  | .commit tx => { D with store := Verification.step O D.store dbNow tx.1 }

/-- The database after a run. -/
def run (D : Database) (actions : List (Time × Action)) : Database :=
  actions.foldl (fun D action => D.step P O action.1 action.2) D

@[simp] lemma run_nil (D : Database) : D.run P O [] = D := rfl

@[simp] lemma run_cons (D : Database) (action : Time × Action) (actions : List (Time × Action)) :
    D.run P O (action :: actions) = (D.step P O action.1 action.2).run P O actions := rfl

lemma run_append (D : Database) (actions more : List (Time × Action)) :
    D.run P O (actions ++ more) = (D.run P O actions).run P O more := by
  simp [run]

end Database

/-! ### Reading a proof -/

/-- The filled intent a transfer is attributed to: `LEFT JOIN relay_intents r ON r.id =
o.relay_intent_id AND r.status = 'filled'`. -/
def filledIntent (L : Ledger) (intentId : Option IntentId) : Option RelayIntent :=
  (intentId.bind L.relayIntents.find?).filter fun r => decide (r.status = .filled)

/-- A credited transfer with its origin.  A filled intent's `attribution_source` is `receipt`. -/
def settlementTransfer (L : Ledger) (o : PaymentObservation) (intentId : Option IntentId) :
    SettlementTransfer where
  sender := o.sender
  recipient := o.recipient
  amount := o.amount
  transactionHash := o.transactionHash
  logIndex := o.logIndex
  blockNumber := o.blockNumber
  relayRequestId := (filledIntent L intentId).map (·.requestId)
  relayOriginChainId := (filledIntent L intentId).map (·.originChainId)
  relayOriginTxHash := (filledIntent L intentId).bind (·.verifiedOriginTxHash)
  relayPayerWallet := (filledIntent L intentId).map (·.payerWallet)
  relayAttributionSource := (filledIntent L intentId).map fun _ => "receipt"

/-- `ORDER BY o.block_number, o.transaction_index, o.log_index`. -/
def chainOrder (o : PaymentObservation) : ℕ ×ₗ ℕ ×ₗ ℕ :=
  toLex (o.blockNumber, toLex (o.transactionIndex, o.logIndex))

/-- `settlement_transfers`: the credited observations in chain order. -/
def settlementTransfers (L : Ledger) (id : InvoiceId) : List SettlementTransfer :=
  (((L.observationsOf id).filter (·.isCredited)).insertionSort fun a b =>
    chainOrder a.observation ≤ chainOrder b.observation).map
      fun r => settlementTransfer L r.observation r.relayIntentId

/-- The columns of the row that a proof reads besides the document and the binding. -/
def settledOf (row : Payday.Invoice) : Settled :=
  ⟨row.status, row.settlementTxHash, row.verificationCompletedAt⟩

inductive GetProofError
  | depositRequestNotFound
  | refused (error : ProofRequestError)
deriving DecidableEq, Repr

/-- `get_proof` of an account's request, past the cache. -/
def Database.getProof (D : Database) (attestor : Attestor) (accountId : AccountId) (id : InvoiceId) :
    Except GetProofError ProofOfPayment := do
  require (O.accountOf id = accountId) .depositRequestNotFound
  let row ← orError .depositRequestNotFound (D.store.ledger.invoices.find? id)
  let document ← orError .depositRequestNotFound (D.documents.find? id)
  (Proofs.getProof P attestor (document.decode P row) (settledOf row)
    (settlementTransfers D.store.ledger id)
    ((attemptsForInvoice D.store accountId id).map (·.summary))).mapError .refused

/-- A proof is read from a row and its document. -/
lemma Database.getProof_eq_ok {D : Database} {attestor : Attestor} {accountId : AccountId} {id : InvoiceId}
    {proof : ProofOfPayment} : D.getProof P O attestor accountId id = .ok proof ↔
      O.accountOf id = accountId ∧ ∃ row, D.store.ledger.invoices.find? id = some row ∧
        ∃ document, D.documents.find? id = some document ∧
          Proofs.getProof P attestor (document.decode P row) (settledOf row)
            (settlementTransfers D.store.ledger id)
            ((attemptsForInvoice D.store accountId id).map (·.summary)) = .ok proof := by
  simp only [Database.getProof, require_bind_eq_ok, orError_bind_eq_ok, mapError_eq_ok]

end Proofs

end Payday
