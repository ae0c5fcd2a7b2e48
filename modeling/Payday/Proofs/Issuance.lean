/-
# Issuing and binding a request

`gum-core/src/invoice.rs` with the derivations it uses (`attribution.rs`, `payer_attestation.rs`,
`deterministic_address.rs`): the request's document is hashed, the salt commits to the hash and, when
a wallet must be attested, to what the wallet signed, and the payment address commits to the salt
and to the terms on one of the document's networks.
-/
import Payday.Lib.Checks
import Payday.Proofs.Documents

namespace Payday.Proofs

/-- One network a request may be paid on. -/
structure NetworkTerms where
  chainId : ChainId
  token : Address
  factory : Address
deriving DecidableEq, Repr

variable (P : Primitives)

/-! ### Texts of the snapshot -/

def snapshotSchema : String := "gum.invoice.v5"
def canonicalizationScheme : String := "RFC8785"

def currencyCode : Currency → String
  | .usdc => "USDC"
  | .usdt => "USDT"

def currencyDecimals : Currency → ℕ
  | .usdc | .usdt => 6

def SnapshotNetwork.ofTerms (network : NetworkTerms) : SnapshotNetwork :=
  ⟨network.chainId.repr, P.toChecksum network.token, P.toChecksum network.factory⟩

/-- `terms`: the typed terms, if every field parses. -/
def SnapshotNetwork.terms (network : SnapshotNetwork) : Option NetworkTerms := do
  let chainId ← parseU64 network.chainId
  let token ← parseAddress network.tokenAddress
  let factory ← parseAddress network.factoryAddress
  return ⟨chainId, token, factory⟩

/-- `CanonicalIssuanceSnapshot::new`. -/
def CanonicalIssuanceSnapshot.new (issuer billTo : Party) (payerVerification : PayerVerification)
    (currency : Currency) (networks : List NetworkTerms) (receiver recovery : Address) (amount : ℕ)
    (expirationTimestamp : ℕ) : CanonicalIssuanceSnapshot where
  schema := snapshotSchema
  canonicalization := canonicalizationScheme
  issuer := issuer
  billTo := billTo
  currency := currencyCode currency
  decimals := (currencyDecimals currency).repr
  amountBaseUnits := amount.repr
  notes := none
  heading := none
  reference := none
  expirationTimestamp := expirationTimestamp.repr
  payerVerification := payerVerification
  attachment := none
  networks := (networks.mergeSort fun a b => decide (a.chainId ≤ b.chainId)).map (SnapshotNetwork.ofTerms P)
  receiverAddress := P.toChecksum receiver
  recoveryAddress := P.toChecksum recovery

/-- `networks`: `None` when an entry is malformed. -/
def CanonicalIssuanceSnapshot.networkTerms (snapshot : CanonicalIssuanceSnapshot) :
    Option (List NetworkTerms) :=
  snapshot.networks.mapM SnapshotNetwork.terms

/-! ### Hashes -/

def attributionDomain : List UInt8 := utf8 "GUM_ATTRIBUTION_V5"
def saltDomain : List UInt8 := utf8 "GUM_SALT_V5"

/-- `attribution_hash`. -/
def attributionHash (canonicalBytes : List UInt8) : Hash :=
  P.keccak256 (attributionDomain ++ canonicalBytes)

/-- What `recompute_salt` hashes. -/
def saltInput (issuanceNonce attributionHash : Hash) (attestationDigest : Option Hash) : List UInt8 :=
  saltDomain ++ toBE 32 issuanceNonce ++ toBE 32 attributionHash ++
    (attestationDigest.map (toBE 32)).getD []

/-- `recompute_salt`. -/
def recomputeSalt (issuanceNonce attributionHash : Hash) (attestationDigest : Option Hash) : Hash :=
  P.keccak256 (saltInput issuanceNonce attributionHash attestationDigest)

def proxyInitcodeHash : Hash := 0x21c35dbe1b344a2488cf3321d6ce542f8e9f305544ff09e4993a62319a497c1f

/-- What a payment address commits to. -/
structure PaymentTerms where
  factory : Address
  token : Address
  amount : ℕ
  receiver : Address
  expirationTimestamp : ℕ
  recovery : Address
  salt : Hash
  chainId : ChainId
deriving DecidableEq, Repr

/-- `predict_payment_address`: the CREATE3 address. -/
def predictPaymentAddress (terms : PaymentTerms) : Address :=
  let deploymentSalt := P.keccak256 (toBE 32 terms.token ++ toBE 32 terms.amount ++ toBE 32 terms.receiver ++
    toBE 32 terms.expirationTimestamp ++ toBE 32 terms.recovery ++ toBE 32 terms.salt ++
    toBE 32 terms.chainId)
  let proxy := P.keccak256 ([0xff] ++ toBE 20 terms.factory ++ toBE 32 deploymentSalt ++
    toBE 32 proxyInitcodeHash) % 2 ^ 160
  P.keccak256 ([0xd6, 0x94] ++ toBE 20 proxy ++ [0x01]) % 2 ^ 160

/-! ### The payer's attestation -/

def payerAttestationStatement : String :=
  "I control this wallet and will pay this Gum deposit request from it. Only transfers from this wallet count toward the request."

structure PayerAttestation where
  statement : String
  attributionHash : Hash
  wallet : Address
  nonce : Hash
  expiresAt : ℕ
deriving DecidableEq, Repr

/-- `PayerAttestation::new`. -/
def PayerAttestation.new (attributionHash : Hash) (wallet : Address) (nonce : Hash) (expiresAt : ℕ) :
    PayerAttestation :=
  ⟨payerAttestationStatement, attributionHash, wallet, nonce, expiresAt⟩

/-- The separator of the EIP-712 domain of a deployment. -/
def domainSeparator (chainId : ChainId) (factory : Address) : Hash :=
  P.keccak256 (toBE 32 (P.keccak256 (utf8 "EIP712Domain(string name,string version,uint256 chainId,address verifyingContract)")) ++
    toBE 32 (P.keccak256 (utf8 "Gum")) ++ toBE 32 (P.keccak256 (utf8 "2")) ++ toBE 32 chainId ++ toBE 32 factory)

/-- The EIP-712 hash of the message. -/
def PayerAttestation.hashStruct (message : PayerAttestation) : Hash :=
  P.keccak256 (toBE 32 (P.keccak256 (utf8 "PayerAttestation(string statement,bytes32 attributionHash,address wallet,bytes32 nonce,uint256 expiresAt)")) ++
    toBE 32 (P.keccak256 (utf8 message.statement)) ++ toBE 32 message.attributionHash ++
    toBE 32 message.wallet ++ toBE 32 message.nonce ++ toBE 32 message.expiresAt)

/-- `digest`: the EIP-712 signing hash. -/
def PayerAttestation.digest (message : PayerAttestation) (chainId : ChainId) (factory : Address) : Hash :=
  P.keccak256 ([0x19, 0x01] ++ toBE 32 (domainSeparator P chainId factory) ++ toBE 32 (message.hashStruct P))

/-- `typed_data`: the document a wallet signs. -/
def PayerAttestation.typedData (message : PayerAttestation) (chainId : ChainId) (factory : Address) :
    PayerAttestationTypedData where
  domain := ⟨"Gum", "2", chainId, P.toChecksum factory⟩
  primaryType := "PayerAttestation"
  types :=
    ⟨[⟨"name", "string"⟩, ⟨"version", "string"⟩, ⟨"chainId", "uint256"⟩, ⟨"verifyingContract", "address"⟩],
      [⟨"statement", "string"⟩, ⟨"attributionHash", "bytes32"⟩, ⟨"wallet", "address"⟩,
        ⟨"nonce", "bytes32"⟩, ⟨"expiresAt", "uint256"⟩]⟩
  message := ⟨message.statement, wordText message.attributionHash, P.toChecksum message.wallet,
    wordText message.nonce, message.expiresAt⟩

/-- `hex::encode_prefixed`. -/
def bytesText (bytes : List UInt8) : String := fixedText bytes.length (ofBE bytes)

@[simp] lemma parseHex_bytesText (bytes : List UInt8) : parseHex (bytesText bytes) = some bytes :=
  parseHex_fixedText bytes

/-- `payer_wallet_attestation`. -/
def payerWalletAttestation (message : PayerAttestation) (chainId : ChainId) (factory : Address)
    (signature : List UInt8) : PayerWalletAttestation where
  address := P.toChecksum message.wallet
  typedData := message.typedData P chainId factory
  digest := wordText (message.digest P chainId factory)
  signature := bytesText signature
  method := "ecdsa"

structure PayerAttestationScope where
  chainId : ChainId
  factory : Address
  attributionHash : Hash
deriving DecidableEq, Repr

structure VerifiedPayerAttestation where
  wallet : Address
  digest : Hash
  nonce : Hash
  expiresAt : ℕ
deriving DecidableEq, Repr

inductive PayerAttestationError
  | malformed (field : String)
  | unsupportedMethod
  | unexpectedTypedData
  | domainMismatch
  | attributionHashMismatch
  | digestMismatch
  | signatureInvalid
  | signerMismatch
deriving DecidableEq, Repr

/-- `verify_payer_attestation`. -/
def verifyPayerAttestation (attestation : PayerWalletAttestation) (scope : PayerAttestationScope) :
    Except PayerAttestationError VerifiedPayerAttestation := do
  let typed := attestation.typedData
  require (attestation.method = "ecdsa") .unsupportedMethod
  require (typed.primaryType = "PayerAttestation" ∧ typed.message.statement = payerAttestationStatement)
    .unexpectedTypedData
  let verifyingContract ← orError (.malformed "domain.verifyingContract")
    (parseAddress typed.domain.verifyingContract)
  require (typed.domain.name = "Gum" ∧ typed.domain.version = "2" ∧ typed.domain.chainId = scope.chainId ∧
    verifyingContract = scope.factory) .domainMismatch
  let attributionHash ← orError (.malformed "message.attributionHash")
    (parseWord typed.message.attributionHash)
  require (attributionHash = scope.attributionHash) .attributionHashMismatch
  let wallet ← orError (.malformed "message.wallet") (parseAddress typed.message.wallet)
  let stated ← orError (.malformed "address") (parseAddress attestation.address)
  require (wallet ≠ 0 ∧ wallet = stated) .signerMismatch
  let nonce ← orError (.malformed "message.nonce") (parseWord typed.message.nonce)
  let message := PayerAttestation.new attributionHash wallet nonce typed.message.expiresAt
  let digest := message.digest P scope.chainId scope.factory
  let statedDigest ← orError (.malformed "digest") (parseWord attestation.digest)
  require (digest = statedDigest) .digestMismatch
  let signature ← orError .signatureInvalid (parseHex attestation.signature)
  let recovered ← orError .signatureInvalid (P.recover signature digest)
  require (recovered = wallet) .signerMismatch
  return ⟨wallet, digest, nonce, typed.message.expiresAt⟩

/-! ### Binding -/

inductive BindError
  | unsupportedChain (chainId : ChainId)
  | attestation (error : PayerAttestationError)
  | walletAttestationNotAttached
  /-- An `expect` failed. -/
  | panic (message : String)
deriving DecidableEq, Repr

structure WalletEvidence where
  payerWallet : Address
  attestation : PayerWalletAttestation
  boundAt : String
deriving DecidableEq, Repr

structure PaymentBinding where
  network : NetworkTerms
  recovery : Address
  salt : Hash
  paymentAddress : Address
  readyAt : String
  wallet : Option WalletEvidence
deriving DecidableEq, Repr

/-- A request, with what the address and the proof are derived from. -/
structure Invoice where
  id : InvoiceId
  networks : List NetworkTerms
  beneficiary : Address
  expirationTimestamp : ℕ
  amount : ℕ
  issuanceNonce : Hash
  binding : Option PaymentBinding
  attributionVersion : ℕ
  attributionHash : Hash
  issuanceSnapshot : CanonicalIssuanceSnapshot
deriving DecidableEq, Repr

inductive AttributionError
  | canonicalization (error : String)
  | snapshotMismatch (field : String)
deriving DecidableEq, Repr

/-- `derive_attribution`, the hash. -/
def deriveAttribution (snapshot : CanonicalIssuanceSnapshot) : Except AttributionError Hash :=
  match P.snapshotBytes snapshot with
  | .error e => .error (.canonicalization e)
  | .ok bytes => .ok (attributionHash P bytes)

namespace Invoice

/-- `Invoice::issue`, with the id and the nonce it draws. -/
def issue (id : InvoiceId) (nonce : Hash) (currency : Currency) (networks : List NetworkTerms)
    (beneficiary recovery : Address) (amount expirationTimestamp : ℕ) (snapshot : CanonicalIssuanceSnapshot) :
    Except AttributionError Invoice := do
  let expected := CanonicalIssuanceSnapshot.new P snapshot.issuer snapshot.billTo snapshot.payerVerification
    currency networks beneficiary recovery amount expirationTimestamp
  require (snapshot.schema = snapshotSchema) (.snapshotMismatch "schema")
  require (snapshot.canonicalization = canonicalizationScheme) (.snapshotMismatch "canonicalization")
  require (snapshot.currency = expected.currency) (.snapshotMismatch "currency")
  require (snapshot.decimals = expected.decimals) (.snapshotMismatch "decimals")
  require (snapshot.networks = expected.networks) (.snapshotMismatch "networks")
  require (snapshot.receiverAddress = expected.receiverAddress) (.snapshotMismatch "receiver_address")
  require (snapshot.recoveryAddress = expected.recoveryAddress) (.snapshotMismatch "recovery_address")
  require (snapshot.amountBaseUnits = expected.amountBaseUnits) (.snapshotMismatch "amount_base_units")
  require (snapshot.expirationTimestamp = expected.expirationTimestamp)
    (.snapshotMismatch "expiration_timestamp")
  require (networks ≠ []) (.snapshotMismatch "networks")
  let attribution ← deriveAttribution P snapshot
  return {
    id := id
    -- the networks that were rendered parse back
    networks := expected.networkTerms.getD []
    beneficiary := beneficiary
    expirationTimestamp := expirationTimestamp
    amount := amount
    issuanceNonce := nonce
    binding := none
    attributionVersion := 5
    attributionHash := attribution
    issuanceSnapshot := snapshot }

variable (invoice : Invoice)

/-- `network_for`. -/
def networkFor (chainId : ChainId) : Option NetworkTerms :=
  invoice.networks.find? fun network => decide (network.chainId = chainId)

def walletAttestationRequired : Bool := invoice.issuanceSnapshot.payerVerification.walletAttestation

/-- `recovery`: the snapshot's term, which must parse. -/
def recovery : Except BindError Address :=
  orError (.panic "a stored snapshot's recovery address parses")
    (parseAddress invoice.issuanceSnapshot.recoveryAddress)

/-- `attestation_scope`, on a network of the request. -/
def attestationScope (network : NetworkTerms) : PayerAttestationScope :=
  ⟨network.chainId, network.factory, invoice.attributionHash⟩

/-- What the address on a network commits to. -/
def termsOn (network : NetworkTerms) (recovery : Address) (salt : Hash) : PaymentTerms :=
  ⟨network.factory, network.token, invoice.amount, invoice.beneficiary, invoice.expirationTimestamp,
    recovery, salt, network.chainId⟩

/-- `bind_network`. -/
def bindNetwork (chainId : ChainId) (readyAt : String) : Except BindError PaymentBinding := do
  require (invoice.walletAttestationRequired = false) .walletAttestationNotAttached
  let network ← orError (.unsupportedChain chainId) (invoice.networkFor chainId)
  let recovery ← invoice.recovery
  let salt := recomputeSalt P invoice.issuanceNonce invoice.attributionHash none
  return ⟨network, recovery, salt, predictPaymentAddress P (invoice.termsOn network recovery salt), readyAt,
    none⟩

/-- `bind_payer_wallet`. -/
def bindPayerWallet (chainId : ChainId) (attestation : PayerWalletAttestation) (boundAt : String) :
    Except BindError PaymentBinding := do
  require (invoice.walletAttestationRequired = true) .walletAttestationNotAttached
  let network ← orError (.unsupportedChain chainId) (invoice.networkFor chainId)
  let verified ← (verifyPayerAttestation P attestation (invoice.attestationScope network)).mapError
    .attestation
  let recovery ← invoice.recovery
  let salt := recomputeSalt P invoice.issuanceNonce invoice.attributionHash (some verified.digest)
  return ⟨network, recovery, salt, predictPaymentAddress P (invoice.termsOn network recovery salt), boundAt,
    some ⟨verified.wallet, attestation, boundAt⟩⟩

/-- `address_matches_parameters`. -/
def addressMatchesParameters : Bool :=
  invoice.binding.all fun binding =>
    decide (predictPaymentAddress P (invoice.termsOn binding.network binding.recovery binding.salt) =
      binding.paymentAddress)

end Invoice

end Payday.Proofs
