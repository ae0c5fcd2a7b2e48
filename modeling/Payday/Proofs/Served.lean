/-
# Serving a proof

`get_proof` of `gum-server/src/api/proof.rs`.  A proof is built from the request, its credited
transfers and its verification attempts, and the attestor signs what they say.
-/
import Payday.Proofs.Verify

namespace Payday.Proofs

variable (P : Primitives)

/-- A credited transfer, joined with the filled intent it was attributed to (`DbSettlementTransfer`). -/
structure SettlementTransfer where
  sender : Address
  recipient : Address
  amount : ℕ
  transactionHash : Hash
  logIndex : ℕ
  blockNumber : ℕ
  relayRequestId : Option Hash
  relayOriginChainId : Option ChainId
  relayOriginTxHash : Option Hash
  relayPayerWallet : Option Address
  relayAttributionSource : Option String
deriving DecidableEq, Repr

inductive AttemptKind
  | email
  | wallet
  | merchantSession
deriving DecidableEq, Repr

inductive AttemptStatus
  | pending
  | approved
  | abandoned
deriving DecidableEq, Repr

/-- A row of `payer_verifications` (`DbVerificationAttempt`). -/
structure VerificationAttempt where
  kind : AttemptKind
  status : AttemptStatus
  verifiedAt : Option Time
deriving DecidableEq, Repr

/-- The columns of the request's row that a proof reads besides the document and the binding. -/
structure Settled where
  status : InvoiceStatus
  settlementTxHash : Option Hash
  verificationCompletedAt : Option Time
deriving DecidableEq, Repr

inductive ProofRequestError
  | depositRequestNotSettled
  | depositSenderMismatch
  | internal (message : String)
deriving DecidableEq, Repr

/-- The attestor's address and its signature of a digest. -/
structure Attestor where
  address : Address
  sign : Hash → List UInt8

/-- `VerificationAttestor::attest`. -/
def Attestor.attest (attestor : Attestor) (payload : VerificationAttestationPayload) :
    Except ProofError SignedVerificationAttestation := do
  let digest ← attestationDigest P payload
  return ⟨payload, P.toChecksum attestor.address, bytesText (attestor.sign digest)⟩

/-- The hyphenated form of a UUID. -/
def uuidText (id : ℕ) : String :=
  let digits := hexDigits 32 id
  String.ofList (digits.take 8 ++ '-' :: (digits.drop 8).take 4 ++ '-' :: (digits.drop 12).take 4 ++
    '-' :: (digits.drop 16).take 4 ++ '-' :: digits.drop 20)

/-- `to_string` of an `InvoiceId`. -/
def paymentId (id : InvoiceId) : String := "dr_" ++ uuidText id

/-! ### The transfers -/

/-- A relayed transfer's origin, when the transfer has one. -/
def SettlementTransfer.relay (transfer : SettlementTransfer) : Option RelayAttribution :=
  match transfer.relayRequestId, transfer.relayOriginChainId, transfer.relayOriginTxHash,
      transfer.relayPayerWallet, transfer.relayAttributionSource with
  | some requestId, some originChainId, some originTx, some wallet, some source =>
    some ⟨wordText requestId, originChainId.repr, wordText originTx, P.toChecksum wallet, source⟩
  | _, _, _, _, _ => none

def SettlementTransfer.proofTransfer (transfer : SettlementTransfer) : ProofTransfer where
  transactionHash := wordText transfer.transactionHash
  logIndex := transfer.logIndex.repr
  sender := P.toChecksum transfer.sender
  recipient := P.toChecksum transfer.recipient
  amountBaseUnits := transfer.amount.repr
  blockNumber := transfer.blockNumber.repr
  relay := transfer.relay P

/-- Money from somebody other than the wallet, which no relay explains. -/
def foreign (payerWallet : String) (transfer : ProofTransfer) : Bool :=
  decide (transfer.sender ≠ payerWallet) &&
    transfer.relay.all fun relay => decide (relay.originSender ≠ payerWallet)

/-- A proof about a wallet is served only if every transfer is the wallet's. -/
def checkSenders (scope : ProofScope) (payerWallet : Option String) (transfers : List ProofTransfer) :
    Except ProofRequestError Unit :=
  match scope with
  | .settlement => .ok ()
  | .walletAttributed => do
    let payerWallet ← orError (.internal "attested request has no attested wallet") payerWallet
    require (transfers.any (foreign payerWallet) = false) .depositSenderMismatch

/-- The relayed transfers the attestation vouches for. -/
def relayFills (payerWallet : Option String) (transfers : List ProofTransfer) : List AttestedRelayFill :=
  match payerWallet with
  | none => []
  | some payerWallet => (transfers.filter fun transfer => decide (transfer.sender ≠ payerWallet)).filterMap
      fun transfer => transfer.relay.map fun relay => ⟨transfer.transactionHash, transfer.logIndex, relay⟩

/-! ### The attestation -/

/-- The outcome of the verification, as the attestation states it. -/
def verificationResult (addons : PayerVerification) (completedAt : Option Time) : String :=
  if !addons.isGated then "not_required"
  else if completedAt.isSome then "approved"
  else "pending"

/-- When an attempt of the kind was first approved. -/
def firstApproved (kind : AttemptKind) (attempts : List VerificationAttempt) : Option Time :=
  ((attempts.filter fun attempt => decide (attempt.kind = kind ∧ attempt.status = .approved)).filterMap
    (·.verifiedAt)).min?

/-- The facts the attestation states, for the attached add-ons only. -/
def verificationFacts (addons : PayerVerification) (attempts : List VerificationAttempt)
    (wallet : Option WalletEvidence) : List VerificationFact :=
  (if addons.email.isSome then (firstApproved .email attempts).toList.map fun moment =>
      ⟨"mailbox", "auth0", P.rfc3339 moment⟩
    else []) ++
  (if addons.merchantAuth.isSome then (firstApproved .merchantSession attempts).toList.map fun moment =>
      ⟨"merchant_session", "merchant", P.rfc3339 moment⟩
    else []) ++
  wallet.toList.map fun wallet => ⟨"wallet", "gum", wallet.boundAt⟩

/-- What the attestor is asked to sign. -/
def attestationPayload (invoice : Invoice) (binding : PaymentBinding) (settled : Settled)
    (transfers : List ProofTransfer) (attempts : List VerificationAttempt) :
    VerificationAttestationPayload where
  version := attestationVersion
  paymentId := paymentId invoice.id
  scope := scopeOf invoice.issuanceSnapshot
  attributionHash := wordText invoice.attributionHash
  issuanceNonce := wordText invoice.issuanceNonce
  chainId := binding.network.chainId.repr
  paymentAddress := P.toChecksum binding.paymentAddress
  payerWallet := binding.wallet.map fun wallet => P.toChecksum wallet.payerWallet
  walletNonce := binding.wallet.map fun wallet => wallet.attestation.typedData.message.nonce
  result := verificationResult invoice.issuanceSnapshot.payerVerification settled.verificationCompletedAt
  verifiedAt := settled.verificationCompletedAt.map P.rfc3339
  walletBoundAt := binding.wallet.map (·.boundAt)
  facts := verificationFacts P invoice.issuanceSnapshot.payerVerification attempts binding.wallet
  relayFills := relayFills (binding.wallet.map fun wallet => P.toChecksum wallet.payerWallet) transfers

/-- The proof with a signed attestation. -/
def proofOf (invoice : Invoice) (binding : PaymentBinding) (settlementTxHash : Hash)
    (transfers : List ProofTransfer) (verification : SignedVerificationAttestation) : ProofOfPayment where
  version := proofVersion
  paymentId := paymentId invoice.id
  scope := scopeOf invoice.issuanceSnapshot
  canonicalIssuanceSnapshot := invoice.issuanceSnapshot
  canonicalization := canonicalizationScheme
  attributionHash := wordText invoice.attributionHash
  issuanceNonce := wordText invoice.issuanceNonce
  payerWallet := binding.wallet.map (·.attestation)
  salt := wordText binding.salt
  chainId := binding.network.chainId.repr
  factoryAddress := P.toChecksum binding.network.factory
  paymentAddress := P.toChecksum binding.paymentAddress
  tokenAddress := P.toChecksum binding.network.token
  recoveryAddress := P.toChecksum binding.recovery
  settlementTransactionHash := wordText settlementTxHash
  transfers := transfers
  verification := verification

/-- `get_proof`, past the cache. -/
def getProof (attestor : Attestor) (invoice : Invoice) (settled : Settled)
    (transfers : List SettlementTransfer) (attempts : List VerificationAttempt) :
    Except ProofRequestError ProofOfPayment := do
  require (settled.status = .fulfilled) .depositRequestNotSettled
  let settlementTxHash ← orError .depositRequestNotSettled settled.settlementTxHash
  let binding ← orError (.internal "fulfilled invoice has no payer wallet binding") invoice.binding
  let proofTransfers := transfers.map (SettlementTransfer.proofTransfer P)
  checkSenders (scopeOf invoice.issuanceSnapshot)
    (binding.wallet.map fun wallet => P.toChecksum wallet.payerWallet) proofTransfers
  let verification ← (attestor.attest P (attestationPayload P invoice binding settled proofTransfers attempts)).mapError
    fun _ => .internal "failed to sign the verification attestation"
  return proofOf P invoice binding settlementTxHash proofTransfers verification

end Payday.Proofs
