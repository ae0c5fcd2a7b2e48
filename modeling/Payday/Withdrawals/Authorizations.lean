/-
# Withdrawal authorizations

`gum-core/src/withdrawal_authorization.rs`, with `leg_authorization` of
`gum-server/src/api/withdrawals.rs`: what a merchant signs for a leg, and under which domain.  Then
the contracts that take the signature: an EIP-3009 token, and `WithdrawalForwarder.bridge` of
`foundry/src/WithdrawalForwarder.sol`, which computes the nonce again from the destination it is
asked to burn towards.
-/
import Payday.Lib.Checks
import Payday.Proofs.Documents
import Payday.Withdrawals.Orchestrator

namespace Payday.Withdrawals

open Proofs (utf8)

/-- What is taken from libraries and from the chain's precompiles. -/
structure Cryptography where
  keccak : List UInt8 → Hash
  keccak_lt : ∀ bytes, keccak bytes < 2 ^ 256
  /-- `Signature::from_raw`, then `as_bytes`. -/
  fromRaw : List UInt8 → Option (List UInt8)
  fromRaw_length : ∀ raw signature, fromRaw raw = some signature → signature.length = 65
  /-- `recover_address_from_prehash`, and the token's own recovery. -/
  recover : List UInt8 → Hash → Option Address

/-! ### The signed message -/

/-- A stablecoin contract as an EIP-712 domain. -/
structure TokenDomain where
  name : String
  version : String
  chainId : ChainId
  token : Address
deriving DecidableEq, Repr

inductive AuthorizationKind
  /-- `TransferWithAuthorization`: anyone may relay it to the payee. -/
  | transfer
  /-- `ReceiveWithAuthorization`: only the payee may consume it. -/
  | receive
deriving DecidableEq, Repr

/-- The message of EIP-3009. -/
structure Eip3009 where
  kind : AuthorizationKind
  payer : Address
  payee : Address
  value : ℕ
  validAfter : ℕ
  validBefore : ℕ
  nonce : Hash
deriving DecidableEq, Repr

/-- The fields are values of the message's types. -/
structure Eip3009.InRange (m : Eip3009) : Prop where
  payer : m.payer < 2 ^ 160
  payee : m.payee < 2 ^ 160
  value : m.value < 2 ^ 256
  validAfter : m.validAfter < 2 ^ 256
  validBefore : m.validBefore < 2 ^ 256
  nonce : m.nonce < 2 ^ 256

/-- The message a merchant signs for one leg. -/
structure WithdrawalAuthorization where
  kind : AuthorizationKind
  payer : Address
  payee : Address
  value : ℕ
  validBefore : ℕ
  nonce : Hash
deriving DecidableEq, Repr

/-- `validAfter` is always 0. -/
def WithdrawalAuthorization.message (a : WithdrawalAuthorization) : Eip3009 :=
  ⟨a.kind, a.payer, a.payee, a.value, 0, a.validBefore, a.nonce⟩

variable (P : Cryptography)

def eip712DomainType : List UInt8 :=
  utf8 "EIP712Domain(string name,string version,uint256 chainId,address verifyingContract)"

/-- `eip712_encode_type`. -/
def AuthorizationKind.encodeType : AuthorizationKind → List UInt8
  | transfer => utf8 "TransferWithAuthorization(address from,address to,uint256 value,uint256 validAfter,uint256 validBefore,bytes32 nonce)"
  | receive => utf8 "ReceiveWithAuthorization(address from,address to,uint256 value,uint256 validAfter,uint256 validBefore,bytes32 nonce)"

/-- What the separator of a domain hashes. -/
def TokenDomain.input (domain : TokenDomain) : List UInt8 :=
  [P.keccak eip712DomainType, P.keccak (utf8 domain.name), P.keccak (utf8 domain.version), domain.chainId,
    domain.token].flatMap abiWord

/-- `separator`. -/
def TokenDomain.separator (domain : TokenDomain) : Hash := P.keccak (domain.input P)

/-- What `hashStruct` hashes. -/
def Eip3009.input (m : Eip3009) : List UInt8 :=
  [P.keccak m.kind.encodeType, m.payer, m.payee, m.value, m.validAfter, m.validBefore, m.nonce].flatMap abiWord

/-- `hashStruct`. -/
def Eip3009.structHash (m : Eip3009) : Hash := P.keccak (m.input P)

/-- What the signing hash under a domain hashes. -/
def Eip3009.signingInput (domain : TokenDomain) (m : Eip3009) : List UInt8 :=
  [0x19, 0x01] ++ [domain.separator P, m.structHash P].flatMap abiWord

/-- The signing hash under a domain. -/
def Eip3009.digest (domain : TokenDomain) (m : Eip3009) : Hash := P.keccak (m.signingInput P domain)

/-- `struct_hash`. -/
def WithdrawalAuthorization.structHash (a : WithdrawalAuthorization) : Hash := a.message.structHash P

/-- `digest`. -/
def WithdrawalAuthorization.digest (a : WithdrawalAuthorization) (domain : TokenDomain) : Hash :=
  P.keccak ([0x19, 0x01] ++ [domain.separator P, a.structHash P].flatMap abiWord)

inductive AuthorizationError
  | signatureMalformed
  | signatureInvalid
  | signerMismatch
deriving DecidableEq, Repr

/-- `verify_authorization`. -/
def verifyAuthorization (a : WithdrawalAuthorization) (domain : TokenDomain) (signature : String) :
    Except AuthorizationError (List UInt8) :=
  match parseHex signature with
  | none => .error .signatureMalformed
  | some raw =>
    if raw.length ≠ 65 then .error .signatureMalformed
    else
      match P.fromRaw raw with
      | none => .error .signatureMalformed
      | some signature =>
        match P.recover signature (a.digest P domain) with
        | none => .error .signatureInvalid
        | some recovered =>
          if recovered = 0 ∨ recovered ≠ a.payer then .error .signerMismatch else .ok signature

/-! ### The authorization of a leg -/

/-- `leg_authorization`: what a stored leg asks the wallet to sign, and the domain it is signed under,
with the leg's columns `domain_name` and `domain_version`. -/
def legAuthorization (leg : Leg) (domainName domainVersion : String) (wallet : Address) :
    WithdrawalAuthorization × TokenDomain :=
  (⟨match leg.kind with
      | .transfer => .transfer
      | .bridge => .receive,
    wallet, leg.authorizationTo, leg.amount, leg.validBefore, leg.nonce⟩,
    ⟨domainName, domainVersion, leg.sourceChainId, leg.tokenAddress⟩)

/-- One round of the loop of `plan_legs`, with the domain that a leg's columns are taken from. -/
def LegPlan.planOnto (plan : LegPlan) (reader : ChainId → Address → Option TokenDomain)
    (draws : ℕ → LegDraw) (legs : List (NewWithdrawalLeg × TokenDomain))
    (balance : ChainId × Address × ℕ) : Except PlanError (List (NewWithdrawalLeg × TokenDomain)) :=
  if balance.2.2 = 0 ∨ (balance.1 ≠ plan.destinationChainId ∧ plan.bridges = false) then .ok legs
  else
    match reader balance.1 balance.2.1 with
    | none => .error (.notReadable balance.1)
    | some domain =>
      (plan.planLeg legs.length (draws legs.length) balance.1 balance.2.1 balance.2.2).map fun leg =>
        legs ++ [(leg, domain)]

/-- `plan_legs`, each leg with the domain that it is to be signed under. -/
def LegPlan.planLegsUnder (plan : LegPlan) (reader : ChainId → Address → Option TokenDomain)
    (draws : ℕ → LegDraw) (balances : List (ChainId × Address × ℕ)) :
    Except PlanError (List (NewWithdrawalLeg × TokenDomain)) :=
  balances.foldlM (plan.planOnto reader draws) []

/-- The legs are those of `plan_legs`. -/
lemma LegPlan.planLegs_of_planLegsUnder {plan : LegPlan} {reader : ChainId → Address → Option TokenDomain}
    {draws : ℕ → LegDraw} {balances : List (ChainId × Address × ℕ)}
    {legs : List (NewWithdrawalLeg × TokenDomain)}
    (h : plan.planLegsUnder reader draws balances = .ok legs) :
    plan.planLegs draws balances = .ok (legs.map Prod.fst) := by
  -- round by round, from any legs so far
  suffices hloop : ∀ (before : List (NewWithdrawalLeg × TokenDomain)),
      balances.foldlM (plan.planOnto reader draws) before = .ok legs →
      balances.foldlM (fun legs balance =>
        if balance.2.2 = 0 ∨ (balance.1 ≠ plan.destinationChainId ∧ plan.bridges = false) then .ok legs
        else (plan.planLeg legs.length (draws legs.length) balance.1 balance.2.1 balance.2.2).map fun leg =>
          legs ++ [leg]) (before.map Prod.fst) = .ok (legs.map Prod.fst) from hloop [] h
  clear h
  induction balances with
  | nil =>
    intro before h
    cases h
    rfl
  | cons balance balances ih =>
    intro before h
    rw [List.foldlM_cons, bind_eq_ok] at h ⊢
    obtain ⟨after, hround, h⟩ := h
    refine ⟨after.map Prod.fst, ?_, ih after h⟩
    unfold planOnto at hround
    split at hround
    · rename_i hskip
      cases hround
      rw [if_pos hskip]
    · rename_i hskip
      rw [if_neg hskip, List.length_map]
      split at hround
      · cases hround
      · obtain ⟨leg, hleg, rfl⟩ := map_eq_ok.1 hround
        rw [hleg, List.map_append]
        rfl

/-! ### Contracts -/

/-- An EIP-3009 token. -/
structure Token where
  domain : TokenDomain
  balance : Address → ℕ
  /-- `authorizationState`. -/
  used : Address → Hash → Bool

inductive Contract
  | token (token : Token)
  /-- A `WithdrawalForwarder`, with its token messenger. -/
  | forwarder (tokenMessenger : Address)

/-- A deposit that a token messenger took. -/
structure Deposit where
  tokenMessenger : Address
  depositor : Address
  amount : ℕ
  destinationDomain : ℕ
  mintRecipient : Hash
  burnToken : Address
  destinationCaller : ℕ
  maxFee : ℕ
  minFinalityThreshold : ℕ
deriving DecidableEq, Repr

/-- A chain, as far as withdrawals go.  A token's domain is that of its own address. -/
structure SourceChain where
  chainId : ChainId
  chainId_lt : chainId < 2 ^ 256
  /-- The block's timestamp. -/
  now : ℕ
  now_pos : 0 < now
  code : Address → Option Contract
  own : ∀ address token, code address = some (.token token) →
    token.domain.chainId = chainId ∧ token.domain.token = address ∧ address < 2 ^ 160
  /-- The burns so far, the latest first. -/
  deposits : List Deposit

/-- The token takes the authorization from the caller. -/
def Token.authorizes (token : Token) (now : ℕ) (caller : Address) (m : Eip3009) (signature : List UInt8) :
    Bool :=
  decide (m.validAfter < now) && decide (now < m.validBefore) && !token.used m.payer m.nonce &&
    (decide (m.kind = .transfer) || decide (caller = m.payee)) &&
    decide (P.recover signature (m.digest P token.domain) = some m.payer)

/-- `transferWithAuthorization` and `receiveWithAuthorization`. -/
def Token.withAuthorization (token : Token) (now : ℕ) (caller : Address) (m : Eip3009)
    (signature : List UInt8) : Option Token :=
  if token.authorizes P now caller m signature ∧ m.value ≤ token.balance m.payer then
    some { token with
      balance := fun a => token.balance a - (if a = m.payer then m.value else 0) +
        (if a = m.payee then m.value else 0)
      used := fun payer nonce => token.used payer nonce || decide (payer = m.payer ∧ nonce = m.nonce) }
  else none

/-- The token burns what the account holds. -/
def Token.burn (token : Token) (account : Address) (amount : ℕ) : Option Token :=
  if amount ≤ token.balance account then
    some { token with balance := fun a => token.balance a - (if a = account then amount else 0) }
  else none

namespace SourceChain

variable (chain : SourceChain)

/-- The token at an address is updated. -/
def updateToken (address : Address) (f : Token → Option Token)
    (hf : ∀ token token', f token = some token' → token'.domain = token.domain) : Option SourceChain :=
  match h : chain.code address with
  | some (.token token) =>
    match h' : f token with
    | none => none
    | some token' => some { chain with
        code := fun a => if a = address then some (.token token') else chain.code a
        own := by
          intro a t hcode
          by_cases ha : a = address
          · rw [if_pos ha] at hcode
            cases hcode
            rw [hf token token' h', ha]
            exact chain.own address token h
          · rw [if_neg ha] at hcode
            exact chain.own a t hcode }
  | _ => none

/-- A call of one of the token's two functions. -/
def callToken (caller address : Address) (m : Eip3009) (signature : List UInt8) : Option SourceChain :=
  chain.updateToken address (fun token => token.withAuthorization P chain.now caller m signature) (by
    intro token token' h
    unfold Token.withAuthorization at h
    split at h
    · cases h
      rfl
    · cases h)

/-- `depositForBurn`: the messenger may refuse; else it burns the caller's tokens. -/
def depositForBurn (takes : Deposit → Bool) (deposit : Deposit) : Option SourceChain :=
  if takes deposit then
    (chain.updateToken deposit.burnToken (fun token => token.burn deposit.depositor deposit.amount) (by
      intro token token' h
      unfold Token.burn at h
      split at h
      · cases h
        rfl
      · cases h)).map fun chain' => { chain' with deposits := deposit :: chain'.deposits }
  else none

/-- `bridge`, of the forwarder at `self`.  The deposit spends the approval that is made for it. -/
def bridge (takes : Deposit → Bool) (self tokenMessenger token payer : Address)
    (value destinationDomain : ℕ) (mintRecipient salt : Hash) (validBefore : ℕ) (signature : List UInt8) :
    Option SourceChain := do
  let nonce := bridgeNonce P.keccak destinationDomain mintRecipient salt
  let chain' ← chain.callToken P self token ⟨.receive, payer, self, value, 0, validBefore, nonce⟩ signature
  chain'.depositForBurn takes
    ⟨tokenMessenger, self, value, destinationDomain, mintRecipient, token, 0, 0, 2000⟩

end SourceChain

/-! ### Calldata -/

/-- The static argument at a position. -/
def argumentWord (calldata : List UInt8) (i : ℕ) : ℕ := ofBE ((calldata.drop (4 + 32 * i)).take 32)

/-- The dynamic argument whose offset stands at a position. -/
def argumentBytes (calldata : List UInt8) (i : ℕ) : Option (List UInt8) :=
  let offset := argumentWord calldata i
  let tail := calldata.drop (4 + offset)
  let length := ofBE (tail.take 32)
  if offset < 2 ^ 64 ∧ 32 ≤ tail.length ∧ length < 2 ^ 64 ∧ length ≤ tail.length - 32 then
    some ((tail.drop 32).take length)
  else none

/-- The token's decoding of a `transferWithAuthorization`. -/
def decodeTransfer (calldata : List UInt8) : Option (Eip3009 × List UInt8) :=
  let word := argumentWord calldata
  if calldata.take 4 = [0xcf, 0x09, 0x29, 0x95] ∧ 4 + 32 * 7 ≤ calldata.length ∧ word 0 < 2 ^ 160 ∧
      word 1 < 2 ^ 160 then
    (argumentBytes calldata 6).map fun signature =>
      (⟨.transfer, word 0, word 1, word 2, word 3, word 4, word 5⟩, signature)
  else none

/-- The arguments of a `bridge`. -/
structure BridgeArguments where
  token : Address
  payer : Address
  value : ℕ
  destinationDomain : ℕ
  mintRecipient : Hash
  salt : Hash
  validBefore : ℕ
  signature : List UInt8
deriving DecidableEq, Repr

/-- The forwarder's decoding of a `bridge`. -/
def decodeBridge (calldata : List UInt8) : Option BridgeArguments :=
  let word := argumentWord calldata
  if calldata.take 4 = [0x54, 0xb7, 0xda, 0xcd] ∧ 4 + 32 * 8 ≤ calldata.length ∧ word 0 < 2 ^ 160 ∧
      word 1 < 2 ^ 160 ∧ word 3 < 2 ^ 32 then
    (argumentBytes calldata 7).map fun signature =>
      ⟨word 0, word 1, word 2, word 3, word 4, word 5, word 6, signature⟩
  else none

/-- A transaction that makes one of the two calls a withdrawal makes on its source chain; `none` if
it reverts. -/
def SourceChain.execute (chain : SourceChain) (takes : Deposit → Bool) (caller target : Address)
    (calldata : List UInt8) : Option SourceChain :=
  match chain.code target with
  | none => none
  | some (.token _) =>
    (decodeTransfer calldata).bind fun call => chain.callToken P caller target call.1 call.2
  | some (.forwarder tokenMessenger) =>
    (decodeBridge calldata).bind fun call =>
      chain.bridge P takes target tokenMessenger call.token call.payer call.value call.destinationDomain
        call.mintRecipient call.salt call.validBefore call.signature

end Payday.Withdrawals
