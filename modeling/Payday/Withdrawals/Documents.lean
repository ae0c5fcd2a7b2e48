/-
# The documents of a withdrawal

`POST /v1/withdrawals` answers with one typed-data document for every leg that awaits a signature:
`typed_data` of `gum-core/src/withdrawal_authorization.rs`, `response` and `leg_response` of
`gum-server/src/api/withdrawals.rs`.  A client reads the answer as texts: addresses and words in
hexadecimal, amounts and times in decimal.
-/
import Payday.Lib.Javascript
import Payday.Proofs.Served
import Payday.Withdrawals.SignedDestination

namespace Payday.Withdrawals

open Proofs (utf8)

/-! ### Texts of the server -/

/-- `to_checksum`: the letters are raised where the hash of the digits has a high nibble. -/
def toChecksum (keccak : List UInt8 → Hash) (address : Address) : String :=
  let digits := hexDigits 40 address
  let hash := keccak (utf8 (String.ofList digits))
  String.ofList ('0' :: 'x' :: raise (fun i => decide (8 ≤ hash / 16 ^ (63 - i) % 16)) digits)

lemma hexText_fixedText {size n : ℕ} (h : n < 2 ^ (8 * size)) : hexText size (fixedText size n) = some n := by
  rw [two_pow_bytes] at h
  exact hexText_eq_some.2 ⟨hexDigits (2 * size) n, String.toList_ofList, length_hexDigits .., ofHex_hexDigits h⟩

lemma hexText_toChecksum (keccak : List UInt8 → Hash) {address : Address} (h : address < 2 ^ 160) :
    hexText 20 (toChecksum keccak address) = some address := by
  have hlt : address < 16 ^ 40 := lt_of_lt_of_eq h (by norm_num)
  exact hexText_eq_some.2 ⟨_, String.toList_ofList, by simp [raise], ofHex_raise_hexDigits _ hlt⟩

/-! ### Documents -/

structure TypedDataDomain where
  name : String
  version : String
  chainId : ℕ
  verifyingContract : String
deriving DecidableEq, Repr

structure TypedDataField where
  name : String
  type : String
deriving DecidableEq, Repr

/-- The members `from`, `to`, `value`, `validAfter`, `validBefore` and `nonce`. -/
structure AuthorizationMessage where
  payer : String
  payee : String
  value : String
  validAfter : String
  validBefore : String
  nonce : String
deriving DecidableEq, Repr

/-- EIP-712 typed data, as JSON has it. -/
structure AuthorizationTypedData where
  domain : TypedDataDomain
  primaryType : String
  types : List (String × List TypedDataField)
  message : AuthorizationMessage
deriving DecidableEq, Repr

structure NoncePreimage where
  destinationDomain : ℕ
  mintRecipient : String
  salt : String
deriving DecidableEq, Repr

/-- What to sign for a leg. -/
structure AuthorizationResponse where
  primaryType : String
  typedData : AuthorizationTypedData
  forwarder : Option String
  noncePreimage : Option NoncePreimage
deriving DecidableEq, Repr

structure LegResponse where
  id : String
  kind : String
  /-- `source_chain.id`. -/
  sourceChain : String
  /-- `token.address`. -/
  token : String
  amountBaseUnits : String
  state : String
  authorization : Option AuthorizationResponse
deriving DecidableEq, Repr

structure WithdrawalResponse where
  walletAddress : String
  currency : String
  /-- `destination.chain.id`. -/
  destinationChain : String
  /-- `destination.address`. -/
  destinationAddress : String
  legs : List LegResponse
deriving DecidableEq, Repr

/-- `primary_type`. -/
def AuthorizationKind.primaryType : AuthorizationKind → String
  | transfer => "TransferWithAuthorization"
  | receive => "ReceiveWithAuthorization"

/-- `domain_fields`. -/
def domainFields : List TypedDataField :=
  [⟨"name", "string"⟩, ⟨"version", "string"⟩, ⟨"chainId", "uint256"⟩, ⟨"verifyingContract", "address"⟩]

/-- `message_fields`: the members of EIP-3009, in the token's order. -/
def messageFields : List TypedDataField :=
  [⟨"from", "address"⟩, ⟨"to", "address"⟩, ⟨"value", "uint256"⟩, ⟨"validAfter", "uint256"⟩,
    ⟨"validBefore", "uint256"⟩, ⟨"nonce", "bytes32"⟩]

/-- `typed_data`. -/
def WithdrawalAuthorization.typedData (keccak : List UInt8 → Hash) (a : WithdrawalAuthorization)
    (domain : TokenDomain) : AuthorizationTypedData where
  domain := ⟨domain.name, domain.version, domain.chainId, toChecksum keccak domain.token⟩
  primaryType := a.kind.primaryType
  types := [("EIP712Domain", domainFields), (a.kind.primaryType, messageFields)]
  message := ⟨toChecksum keccak a.payer, toChecksum keccak a.payee, a.value.repr, "0", a.validBefore.repr,
    fixedText 32 a.nonce⟩

/-- `as_str`. -/
def LegKind.asStr : LegKind → String
  | transfer => "transfer"
  | bridge => "bridge"

/-- `leg_response`, of a leg with its columns `domain_name` and `domain_version`. -/
def legResponse (keccak : List UInt8 → Hash) (leg : Leg) (domainName domainVersion : String)
    (wallet destination : Address) (destinationDomain : Option ℕ) : LegResponse where
  id := "wdl_" ++ Proofs.uuidText leg.id
  kind := leg.kind.asStr
  sourceChain := leg.sourceChainId.repr
  token := toChecksum keccak leg.tokenAddress
  amountBaseUnits := leg.amount.repr
  state := leg.state.asStr
  authorization :=
    if leg.state = .awaitingSignature then
      let authorization := legAuthorization leg domainName domainVersion wallet
      some {
        primaryType := authorization.1.kind.primaryType
        typedData := authorization.1.typedData keccak authorization.2
        forwarder := if leg.kind = .bridge then some (toChecksum keccak leg.authorizationTo) else none
        noncePreimage :=
          match leg.kind, leg.salt, destinationDomain with
          | .bridge, some salt, some domain =>
            some ⟨domain, toChecksum keccak destination, fixedText 32 salt⟩
          | _, _, _ => none }
    else none

/-- `response`, of a withdrawal and its legs with their domains' columns. -/
def response (keccak : List UInt8 → Hash) (networks : ChainRegistry) (row : Withdrawal)
    (legs : List (Leg × TokenDomain)) : WithdrawalResponse where
  walletAddress := toChecksum keccak row.walletAddress
  currency := Proofs.currencyCode row.currency
  destinationChain := row.destinationChainId.repr
  destinationAddress := toChecksum keccak row.destinationAddress
  legs := legs.map fun leg =>
    legResponse keccak leg.1 leg.2.name leg.2.version row.walletAddress row.destinationAddress
      ((networks.cctp row.destinationChainId).map CctpConfig.domain)

end Payday.Withdrawals
