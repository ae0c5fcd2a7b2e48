/-
# Verifying a proof

`verify_proof` of `gum-core/src/proof.rs`, stage by stage in its order: the versions and the scope,
the document's hash, the chosen network, the wallet's attestation, the salt and the address, the
attachment, the attestor's statement, and the transfers.
-/
import Payday.Proofs.Issuance

namespace Payday.Proofs

variable (P : Primitives)

inductive ProofError
  | unsupported (what : String)
  | malformed (field : String)
  | canonicalization (error : String)
  | attributionHashMismatch
  | payerAttestation (error : PayerAttestationError)
  | saltMismatch
  | chainParametersMismatch
  | chainNotOffered
  | scopeMismatch
  | recoveryAddressMismatch
  | paymentAddressMismatch
  | attachmentNotCommitted
  | attachmentLengthMismatch
  | attachmentHashMismatch
  | attestationSignatureInvalid
  | attestationSignerMismatch
  | untrustedAttestor
  | attestationPaymentIdMismatch
  | attestationScopeMismatch
  | attestationNotPassed
  | attestationCommitmentMismatch
  | attestationWalletFactMissing
  | transferRecipientMismatch
  | transferSenderMismatch
  | relayFillNotAttested
  | relayOriginNotVerified
  | transfersBelowInvoiceAmount
deriving DecidableEq, Repr

structure ProofVerification where
  attributionHash : Hash
  scope : ProofScope
  payerWallet : Option Address
  attestationDigest : Option Hash
  salt : Hash
  paymentAddress : Address
  attestationSigner : Address
  attachmentVerified : Bool
deriving DecidableEq, Repr

def proofVersion : String := "gum.proof.v5"
def attestationVersion : String := "gum.attestation.v5"
def attestationDomain : List UInt8 := utf8 "GUM_VERIFICATION_ATTESTATION_V5"

/-- `word`. -/
def word (field text : String) : Except ProofError Hash := orError (.malformed field) (parseWord text)

/-- `address`. -/
def address (field text : String) : Except ProofError Address :=
  orError (.malformed field) (parseAddress text)

/-- `parse::<u64>()`. -/
def number (field text : String) : Except ProofError ℕ := orError (.malformed field) (parseU64 text)

/-- `U256::from_str_radix`. -/
def units (field text : String) : Except ProofError ℕ := orError (.malformed field) (parseU256 text)

/-- `attestation_digest`. -/
def attestationDigest (payload : VerificationAttestationPayload) : Except ProofError Hash :=
  match P.payloadBytes payload with
  | .error e => .error (.canonicalization e)
  | .ok bytes => .ok (P.keccak256 (attestationDomain ++ bytes))

/-- The scope that a request's add-ons decide. -/
def scopeOf (snapshot : CanonicalIssuanceSnapshot) : ProofScope :=
  if snapshot.payerVerification.walletAttestation then .walletAttributed else .settlement

/-- The outcome that a request's add-ons call for. -/
def passedResult (snapshot : CanonicalIssuanceSnapshot) : String :=
  if snapshot.payerVerification.isGated then "approved" else "not_required"

/-- The versions and the scope. -/
def checkKind (proof : ProofOfPayment) : Except ProofError Unit := do
  require (proof.version = proofVersion) (.unsupported "proof version")
  require (proof.canonicalization = canonicalizationScheme ∧
    proof.canonicalIssuanceSnapshot.canonicalization = canonicalizationScheme)
    (.unsupported "canonicalization")
  require (proof.canonicalIssuanceSnapshot.schema = snapshotSchema) (.unsupported "invoice schema")
  require (proof.scope = scopeOf proof.canonicalIssuanceSnapshot) .scopeMismatch

/-- The hash of the document, which the proof states. -/
def checkAttribution (proof : ProofOfPayment) : Except ProofError Hash :=
  match P.snapshotBytes proof.canonicalIssuanceSnapshot with
  | .error e => .error (.canonicalization e)
  | .ok bytes => do
    let stated ← word "attribution_hash" proof.attributionHash
    require (attributionHash P bytes = stated) .attributionHashMismatch
    return attributionHash P bytes

/-- The network the payer chose: one of the document's, with the stated factory and token. -/
def checkNetwork (proof : ProofOfPayment) : Except ProofError NetworkTerms := do
  let chainId ← number "chain_id" proof.chainId
  let networks ← orError (.malformed "networks") proof.canonicalIssuanceSnapshot.networkTerms
  let network ← orError .chainNotOffered (networks.find? fun network => decide (network.chainId = chainId))
  let factory ← address "factory_address" proof.factoryAddress
  require (factory = network.factory) .chainParametersMismatch
  let token ← address "token_address" proof.tokenAddress
  require (token = network.token) .chainParametersMismatch
  return network

/-- The wallet's attestation, in the scope that has one. -/
def checkWallet (proof : ProofOfPayment) (network : NetworkTerms) (hash : Hash) :
    Except ProofError (Option VerifiedPayerAttestation) :=
  match scopeOf proof.canonicalIssuanceSnapshot, proof.payerWallet with
  | .walletAttributed, some attestation => do
    let attested ← (verifyPayerAttestation P attestation ⟨network.chainId, network.factory, hash⟩).mapError
      .payerAttestation
    return some attested
  | .walletAttributed, none => .error (.malformed "payer_wallet")
  | .settlement, none => .ok none
  | .settlement, some _ => .error (.malformed "payer_wallet")

/-- The address that the document, the network and the salt give, and the amount. -/
def checkAddress (proof : ProofOfPayment) (network : NetworkTerms) (salt : Hash) :
    Except ProofError (PaymentTerms × Address) := do
  let recovery ← address "recovery_address" proof.recoveryAddress
  let committed ← address "recovery_address" proof.canonicalIssuanceSnapshot.recoveryAddress
  require (recovery = committed) .recoveryAddressMismatch
  let amount ← units "amount_base_units" proof.canonicalIssuanceSnapshot.amountBaseUnits
  let receiver ← address "receiver_address" proof.canonicalIssuanceSnapshot.receiverAddress
  let expirationTimestamp ← number "expiration_timestamp" proof.canonicalIssuanceSnapshot.expirationTimestamp
  let terms : PaymentTerms := ⟨network.factory, network.token, amount, receiver, expirationTimestamp,
    recovery, salt, network.chainId⟩
  let stated ← address "payment_address" proof.paymentAddress
  require (predictPaymentAddress P terms = stated) .paymentAddressMismatch
  return (terms, predictPaymentAddress P terms)

/-- The attachment, when the holder has it. -/
def checkAttachment (snapshot : CanonicalIssuanceSnapshot) : Option (List UInt8) → Except ProofError Bool
  | none => .ok false
  | some bytes => do
    let commitment ← orError .attachmentNotCommitted snapshot.attachment
    require (commitment.byteLength = bytes.length.repr) .attachmentLengthMismatch
    let stated ← word "attachment sha256" commitment.sha256
    require (P.sha256 bytes = stated) .attachmentHashMismatch
    return true

/-- Who signed the attestation. -/
def checkSigner (attestation : SignedVerificationAttestation) (trusted : List Address) :
    Except ProofError Address := do
  let digest ← attestationDigest P attestation.payload
  let signature ← orError .attestationSignatureInvalid (parseHex attestation.signature)
  let recovered ← orError .attestationSignatureInvalid (P.recover signature digest)
  let stated ← address "verification.signer" attestation.signer
  require (recovered = stated) .attestationSignerMismatch
  require (trusted = [] ∨ recovered ∈ trusted) .untrustedAttestor
  return recovered

/-- The wallet and the nonce that the payload states. -/
def checkPayloadWallet (payload : VerificationAttestationPayload)
    (attested : Option VerifiedPayerAttestation) : Except ProofError Unit :=
  match payload.payerWallet, attested with
  | some payloadWallet, some attested => do
    let wallet ← address "verification.payload.payer_wallet" payloadWallet
    require (wallet = attested.wallet) .attestationCommitmentMismatch
    let walletNonce ← orError .attestationCommitmentMismatch payload.walletNonce
    let nonce ← word "verification.payload.wallet_nonce" walletNonce
    require (nonce = attested.nonce) .attestationCommitmentMismatch
  | none, none => .ok ()
  | _, _ => .error .attestationCommitmentMismatch

/-- The payload commits to the request, the network, the address and the wallet. -/
def checkPayload (proof : ProofOfPayment) (hash nonce : Hash) (attested : Option VerifiedPayerAttestation)
    (paymentAddress : Address) : Except ProofError Unit := do
  let payload := proof.verification.payload
  let snapshot := proof.canonicalIssuanceSnapshot
  require (payload.version = attestationVersion) (.unsupported "attestation version")
  require (payload.paymentId = proof.paymentId) .attestationPaymentIdMismatch
  require (payload.scope = scopeOf snapshot) .attestationScopeMismatch
  require (payload.result = passedResult snapshot) .attestationNotPassed
  checkPayloadWallet payload attested
  let statedHash ← word "verification.payload.attribution_hash" payload.attributionHash
  require (statedHash = hash) .attestationCommitmentMismatch
  let statedNonce ← word "verification.payload.issuance_nonce" payload.issuanceNonce
  require (statedNonce = nonce) .attestationCommitmentMismatch
  let statedAddress ← address "verification.payload.payment_address" payload.paymentAddress
  require (statedAddress = paymentAddress) .attestationCommitmentMismatch
  require (payload.chainId = proof.chainId) .attestationCommitmentMismatch
  require (scopeOf snapshot = .walletAttributed → payload.facts.any (fun fact => decide (fact.kind = "wallet")))
    .attestationWalletFactMissing

/-- The shape of a relayed transfer's provenance. -/
def checkRelayShape (relay : RelayAttribution) : Except ProofError Unit := do
  let _ ← word "transfer relay.request_id" relay.requestId
  let _ ← word "transfer relay.origin_transaction_hash" relay.originTransactionHash
  let _ ← number "transfer relay.origin_chain_id" relay.originChainId

/-- The payload vouches for the transfer's provenance, verbatim. -/
def vouched (payload : VerificationAttestationPayload) (transfer : ProofTransfer)
    (relay : RelayAttribution) : Bool :=
  payload.relayFills.any fun fill => decide (fill.transactionHash = transfer.transactionHash ∧
    fill.logIndex = transfer.logIndex ∧ fill.relay = relay)

/-- The sender of a transfer: in the wallet's scope the wallet, or a relay that is vouched for. -/
def checkSender (payload : VerificationAttestationPayload) (wallet : Option Address)
    (transfer : ProofTransfer) : Except ProofError Unit :=
  match wallet with
  | some wallet => do
    let sender ← address "transfer sender" transfer.sender
    if sender = wallet then return ()
    else do
      let relay ← orError .transferSenderMismatch transfer.relay
      require (relay.attributionSource = "receipt") .relayOriginNotVerified
      checkRelayShape relay
      let originSender ← address "transfer relay.origin_sender" relay.originSender
      require (originSender = wallet) .transferSenderMismatch
      require (vouched payload transfer relay = true) .relayFillNotAttested
  | none =>
    match transfer.relay with
    | none => .ok ()
    | some relay => do
      checkRelayShape relay
      let _ ← address "transfer relay.origin_sender" relay.originSender
      require (relay.attributionSource ≠ "") (.malformed "transfer relay.attribution_source")

/-- A transfer's event and amount. -/
structure Credited where
  transactionHash : Hash
  logIndex : ℕ
  amount : ℕ
deriving DecidableEq, Repr

/-- The identity of the event on chain. -/
def Credited.event (credited : Credited) : Hash × ℕ := (credited.transactionHash, credited.logIndex)

/-- One transfer of the proof. -/
def checkTransfer (payload : VerificationAttestationPayload) (wallet : Option Address)
    (paymentAddress : Address) (transfer : ProofTransfer) : Except ProofError Credited := do
  let hash ← word "transfer transaction_hash" transfer.transactionHash
  let logIndex ← number "transfer log_index" transfer.logIndex
  let recipient ← address "transfer recipient" transfer.recipient
  require (recipient = paymentAddress) .transferRecipientMismatch
  checkSender payload wallet transfer
  let amount ← units "transfer amount_base_units" transfer.amountBaseUnits
  let _ ← number "transfer block_number" transfer.blockNumber
  return ⟨hash, logIndex, amount⟩

/-- The loop over the transfers: each event is counted once. -/
def sumTransfers (payload : VerificationAttestationPayload) (wallet : Option Address)
    (paymentAddress : Address) : List ProofTransfer → ℕ → List (Hash × ℕ) → Except ProofError ℕ
  | [], total, _ => .ok total
  | transfer :: rest, total, seen => do
    let credited ← checkTransfer payload wallet paymentAddress transfer
    if credited.event ∈ seen then sumTransfers payload wallet paymentAddress rest total seen
    else do
      require (total + credited.amount < 2 ^ 256) (.malformed "transfer amount_base_units")
      sumTransfers payload wallet paymentAddress rest (total + credited.amount) (credited.event :: seen)

/-- `verify_proof`. -/
def verifyProof (proof : ProofOfPayment) (attachment : Option (List UInt8)) (trusted : List Address) :
    Except ProofError ProofVerification := do
  checkKind proof
  let hash ← checkAttribution P proof
  let nonce ← word "issuance_nonce" proof.issuanceNonce
  let network ← checkNetwork proof
  let attested ← checkWallet P proof network hash
  let salt := recomputeSalt P nonce hash (attested.map (·.digest))
  let statedSalt ← word "salt" proof.salt
  require (salt = statedSalt) .saltMismatch
  let (terms, paymentAddress) ← checkAddress P proof network salt
  let attachmentVerified ← checkAttachment P proof.canonicalIssuanceSnapshot attachment
  let signer ← checkSigner P proof.verification trusted
  checkPayload proof hash nonce attested paymentAddress
  let _ ← word "settlement_transaction_hash" proof.settlementTransactionHash
  let total ← sumTransfers proof.verification.payload (attested.map (·.wallet)) paymentAddress
    proof.transfers 0 []
  require (terms.amount ≤ total) .transfersBelowInvoiceAmount
  return ⟨hash, scopeOf proof.canonicalIssuanceSnapshot, attested.map (·.wallet), attested.map (·.digest), salt,
    paymentAddress, signer, attachmentVerified⟩

end Payday.Proofs
