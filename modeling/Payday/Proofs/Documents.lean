/-
# The documents of a proof of payment

What a deposit request commits to, what its payer signs and what a proof carries
(`gum-core/src/attribution.rs`, `payer_attestation.rs` and `proof.rs`).  Every field of these is a
text, as in the JSON documents; the words and addresses in them are read where they are used.
-/
import Payday.Ledger.Schema
import Payday.Lib.Text

namespace Payday.Proofs

/-! ### The issuance snapshot -/

/-- One side of an invoice. -/
structure Party where
  name : String
  email : Option String
  details : Option String
deriving DecidableEq, Repr

/-- The verification add-ons of a request: the expected mailbox, the merchant's reference of the
payer it has authenticated, and whether a wallet must be attested. -/
structure PayerVerification where
  email : Option String
  merchantAuth : Option String
  walletAttestation : Bool
deriving DecidableEq, Repr

/-- `is_gated`: an identity add-on is attached. -/
def PayerVerification.isGated (verification : PayerVerification) : Bool :=
  verification.email.isSome || verification.merchantAuth.isSome

structure AttachmentCommitment where
  id : ℕ
  byteLength : String
  sha256 : String
deriving DecidableEq, Repr

structure SnapshotNetwork where
  chainId : String
  tokenAddress : String
  factoryAddress : String
deriving DecidableEq, Repr

/-- Everything an issued request commits to. -/
structure CanonicalIssuanceSnapshot where
  schema : String
  canonicalization : String
  issuer : Party
  billTo : Party
  currency : String
  decimals : String
  amountBaseUnits : String
  notes : Option String
  heading : Option String
  reference : Option String
  expirationTimestamp : String
  payerVerification : PayerVerification
  attachment : Option AttachmentCommitment
  networks : List SnapshotNetwork
  receiverAddress : String
  recoveryAddress : String
deriving DecidableEq, Repr

/-! ### The payer's attestation -/

structure TypedDataDomain where
  name : String
  version : String
  chainId : ℕ
  verifyingContract : String
deriving DecidableEq, Repr

structure TypedDataField where
  name : String
  kind : String
deriving DecidableEq, Repr

structure TypedDataTypes where
  eip712Domain : List TypedDataField
  payerAttestation : List TypedDataField
deriving DecidableEq, Repr

structure PayerAttestationMessage where
  statement : String
  attributionHash : String
  wallet : String
  nonce : String
  expiresAt : ℕ
deriving DecidableEq, Repr

structure PayerAttestationTypedData where
  domain : TypedDataDomain
  primaryType : String
  types : TypedDataTypes
  message : PayerAttestationMessage
deriving DecidableEq, Repr

structure PayerWalletAttestation where
  address : String
  typedData : PayerAttestationTypedData
  digest : String
  signature : String
  method : String
deriving DecidableEq, Repr

/-! ### The proof -/

inductive ProofScope
  | settlement
  | walletAttributed
deriving DecidableEq, Repr

/-- Where a relayed transfer's funds came from. -/
structure RelayAttribution where
  requestId : String
  originChainId : String
  originTransactionHash : String
  originSender : String
  attributionSource : String
deriving DecidableEq, Repr

structure ProofTransfer where
  transactionHash : String
  logIndex : String
  sender : String
  recipient : String
  amountBaseUnits : String
  blockNumber : String
  relay : Option RelayAttribution
deriving DecidableEq, Repr

/-- A relayed transfer as the attestation vouches for it. -/
structure AttestedRelayFill where
  transactionHash : String
  logIndex : String
  relay : RelayAttribution
deriving DecidableEq, Repr

structure VerificationFact where
  kind : String
  provider : String
  observedAt : String
deriving DecidableEq, Repr

/-- What the attestor signs. -/
structure VerificationAttestationPayload where
  version : String
  paymentId : String
  scope : ProofScope
  attributionHash : String
  issuanceNonce : String
  chainId : String
  paymentAddress : String
  payerWallet : Option String
  walletNonce : Option String
  result : String
  verifiedAt : Option String
  walletBoundAt : Option String
  facts : List VerificationFact
  relayFills : List AttestedRelayFill
deriving DecidableEq, Repr

structure SignedVerificationAttestation where
  payload : VerificationAttestationPayload
  signer : String
  signature : String
deriving DecidableEq, Repr

structure ProofOfPayment where
  version : String
  paymentId : String
  scope : ProofScope
  canonicalIssuanceSnapshot : CanonicalIssuanceSnapshot
  canonicalization : String
  attributionHash : String
  issuanceNonce : String
  payerWallet : Option PayerWalletAttestation
  salt : String
  chainId : String
  factoryAddress : String
  paymentAddress : String
  tokenAddress : String
  recoveryAddress : String
  settlementTransactionHash : String
  transfers : List ProofTransfer
  verification : SignedVerificationAttestation
deriving DecidableEq, Repr

/-! ### Primitives -/

/-- The hash functions, the recovery of a signer, the canonical JSON and the dates of the libraries. -/
structure Primitives where
  keccak256 : List UInt8 → Hash
  keccak256_lt : ∀ bytes, keccak256 bytes < 2 ^ 256
  sha256 : List UInt8 → Hash
  sha256_lt : ∀ bytes, sha256 bytes < 2 ^ 256
  /-- `Signature::from_raw`, then `recover_address_from_prehash`. -/
  recover : List UInt8 → Hash → Option Address
  recover_lt : ∀ signature digest wallet, recover signature digest = some wallet → wallet < 2 ^ 160
  /-- `serde_jcs::to_vec` of a snapshot. -/
  snapshotBytes : CanonicalIssuanceSnapshot → Except String (List UInt8)
  /-- `serde_jcs::to_vec` of a payload. -/
  payloadBytes : VerificationAttestationPayload → Except String (List UInt8)
  /-- `to_rfc3339_opts`, to the second. -/
  rfc3339 : Time → String

/-- `B256::from_str`. -/
def parseWord (text : String) : Option Hash := parseFixed 32 text

/-- `Address::from_str`. -/
def parseAddress (text : String) : Option Address := parseFixed 20 text

/-- `u64::from_str`. -/
def parseU64 (text : String) : Option ℕ := parseNat (2 ^ 64) text

/-- `U256::from_str_radix`, to base ten. -/
def parseU256 (text : String) : Option ℕ := parseDigits (2 ^ 256) text

/-- `to_string` of a `B256`. -/
def wordText (word : Hash) : String := fixedText 32 word

/-- The bytes of a text. -/
def utf8 (text : String) : List UInt8 := text.toUTF8.toList

/-- `to_checksum`: the letters are raised where the hash of the digits has a high nibble. -/
def Primitives.toChecksum (P : Primitives) (address : Address) : String :=
  let digits := hexDigits 40 address
  let hash := P.keccak256 (utf8 (String.ofList digits))
  String.ofList ('0' :: 'x' :: raise (fun i => decide (8 ≤ hash / 16 ^ (63 - i) % 16)) digits)

lemma parseWord_wordText {word : Hash} (h : word < 2 ^ 256) : parseWord (wordText word) = some word :=
  parseFixed_fixedText h

lemma parseAddress_toChecksum (P : Primitives) {address : Address} (h : address < 2 ^ 160) :
    parseAddress (P.toChecksum address) = some address :=
  parseFixed_raise _ h

lemma parseU64_repr {n : ℕ} (h : n < 2 ^ 64) : parseU64 n.repr = some n := parseNat_repr h

lemma parseU256_repr {n : ℕ} (h : n < 2 ^ 256) : parseU256 n.repr = some n := parseDigits_repr h

end Payday.Proofs
