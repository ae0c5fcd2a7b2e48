/-
# The withdrawal orchestrator

`gum-server/src/withdrawal_orchestrator.rs` and the part of `gum-server/src/api/withdrawals.rs` that
plans the legs: which authorization a leg asks the merchant to sign, which call the next step of a
leg makes, and which of the attestation service's messages is the leg's burn.
-/
import Payday.Lib.Bytes
import Payday.Withdrawals.Operations

namespace Payday.Withdrawals

open Signers (WithdrawalStepKind WithdrawalStepCommand StepPrecondition Calldata)

/-- Circle's contracts on a chain, and the forwarder. -/
structure CctpConfig where
  domain : ℕ
  tokenMessenger : Address
  messageTransmitter : Address
  forwarder : Address
deriving DecidableEq, Repr

structure ChainConfig where
  chainId : ChainId
  startBlock : ℕ
  blockTimeMs : ℕ
  cctp : Option CctpConfig
deriving DecidableEq, Repr

abbrev ChainRegistry := List ChainConfig

def ChainRegistry.get (registry : ChainRegistry) (chainId : ChainId) : Option ChainConfig :=
  registry.find? fun config => decide (config.chainId = chainId)

def ChainRegistry.cctp (registry : ChainRegistry) (chainId : ChainId) : Option CctpConfig :=
  (registry.get chainId).bind ChainConfig.cctp

/-! ### Calls -/

/-- A static argument. -/
def abiWord (n : ℕ) : List UInt8 := toBE 32 n

/-- A dynamic argument: its length, and its bytes up to a whole number of words. -/
def abiBytes (bytes : List UInt8) : List UInt8 :=
  abiWord bytes.length ++ bytes ++ List.replicate ((32 - bytes.length % 32) % 32) 0

/-- The calls that the steps make. -/
inductive StepCall
  | transferWithAuthorization (payer payee : Address) (value validAfter validBefore : ℕ) (nonce : Hash)
      (signature : List UInt8)
  | bridge (token payer : Address) (value destinationDomain : ℕ) (mintRecipient : Address) (salt : Hash)
      (validBefore : ℕ) (signature : List UInt8)
  | receiveMessage (message attestation : List UInt8)
deriving DecidableEq, Repr

/-- `abi_encode`: the selector, the heads, and the dynamic arguments behind their offsets. -/
def StepCall.abiEncode : StepCall → List UInt8
  | transferWithAuthorization payer payee value validAfter validBefore nonce signature =>
    [0xcf, 0x09, 0x29, 0x95] ++ abiWord payer ++ abiWord payee ++ abiWord value ++ abiWord validAfter ++
      abiWord validBefore ++ abiWord nonce ++ abiWord 224 ++ abiBytes signature
  | bridge token payer value destinationDomain mintRecipient salt validBefore signature =>
    [0x54, 0xb7, 0xda, 0xcd] ++ abiWord token ++ abiWord payer ++ abiWord value ++
      abiWord destinationDomain ++ abiWord mintRecipient ++ abiWord salt ++ abiWord validBefore ++
      abiWord 256 ++ abiBytes signature
  | receiveMessage message attestation =>
    [0x57, 0xec, 0xfd, 0x28] ++ abiWord 64 ++ abiWord (64 + (abiBytes message).length) ++
      abiBytes message ++ abiBytes attestation

/-- `bridge_nonce`: the commitment to the destination that a bridge leg's authorization has for a
nonce. -/
def bridgeNonce (keccak : List UInt8 → Hash) (destinationDomain : ℕ) (mintRecipient : Address)
    (salt : Hash) : Hash :=
  keccak (abiWord destinationDomain ++ abiWord mintRecipient ++ abiWord salt)

/-! ### Planning the legs -/

/-- What is drawn for one leg: its id and 32 random bytes. -/
structure LegDraw where
  id : LegId
  random : Hash
deriving DecidableEq, Repr

/-- Why a withdrawal cannot be planned. -/
inductive PlanError
  | notReadable (chainId : ChainId)
  | bridgingFrom (chainId : ChainId)
  | bridgingTo (chainId : ChainId)
  | exceedsBridgeLimit (chainId : ChainId) (balance : ℕ)
deriving DecidableEq, Repr

/-- `MAX_CCTP_BURN_PER_MESSAGE`. -/
def maxCctpBurnPerMessage : ℕ := 10_000_000_000_000

/-- What the planning of a withdrawal is given. -/
structure LegPlan where
  keccak : List UInt8 → Hash
  networks : ChainRegistry
  /-- `reader.domain`: the token of the signing domain. -/
  domain : ChainId → Address → Option Address
  /-- The currency has a 1:1 bridge. -/
  bridges : Bool
  destinationChainId : ChainId
  destination : Address
  validBefore : ℕ

/-- The leg of a balance, in the loop of `plan_legs`. -/
def LegPlan.planLeg (plan : LegPlan) (position : ℕ) (draw : LegDraw) (chainId : ChainId)
    (token : Address) (balance : ℕ) : Except PlanError NewWithdrawalLeg :=
  match plan.domain chainId token with
  | none => .error (.notReadable chainId)
  | some domainToken =>
    if chainId = plan.destinationChainId then
      .ok ⟨draw.id, position, .transfer, chainId, balance, domainToken, plan.destination, draw.random,
        none, plan.validBefore⟩
    else
      match plan.networks.cctp chainId, plan.networks.cctp plan.destinationChainId with
      | none, _ => .error (.bridgingFrom chainId)
      | some _, none => .error (.bridgingTo plan.destinationChainId)
      | some source, some target =>
        if maxCctpBurnPerMessage < balance then .error (.exceedsBridgeLimit chainId balance)
        else
          .ok ⟨draw.id, position, .bridge, chainId, balance, domainToken, source.forwarder,
            bridgeNonce plan.keccak target.domain plan.destination draw.random, some draw.random,
            plan.validBefore⟩

/-- `plan_legs`. -/
def LegPlan.planLegs (plan : LegPlan) (draws : ℕ → LegDraw) (balances : List (ChainId × Address × ℕ)) :
    Except PlanError (List NewWithdrawalLeg) :=
  balances.foldlM (fun legs balance =>
    if balance.2.2 = 0 ∨ (balance.1 ≠ plan.destinationChainId ∧ plan.bridges = false) then .ok legs
    else (plan.planLeg legs.length (draws legs.length) balance.1 balance.2.1 balance.2.2).map fun leg =>
      legs ++ [leg]) []

/-! ### The command of a step -/

def transferGas : ℕ := 120_000
def bridgeGas : ℕ := 350_000
def mintGas : ℕ := 350_000

/-- `NOT_AFTER_MARGIN`, in seconds. -/
def notAfterMargin : ℕ := 60

/-- `search_start`: where a backward search for the transaction that consumed the leg's
authorization may stop. -/
def searchStart (config : ChainConfig) (finalized : Option ℕ) (now : Time) (leg : Leg) : ℕ :=
  max (finalized.getD config.startBlock - ((now - leg.createdAt) / 1000 / max config.blockTimeMs 1 + 120))
    config.startBlock

/-- The 32 bytes at an offset. -/
def wordAt (message : List UInt8) (offset : ℕ) : ℕ := ofBE ((message.drop offset).take 32)

/-- The 4 bytes at an offset. -/
def domainAt (message : List UInt8) (offset : ℕ) : ℕ := ofBE ((message.drop offset).take 4)

def messageNonceOffset : ℕ := 12
def messageSenderOffset : ℕ := 44
def destinationCallerOffset : ℕ := 108
def burnTokenOffset : ℕ := 152
def mintRecipientOffset : ℕ := 184
def amountOffset : ℕ := 216
def bodyMessageSenderOffset : ℕ := 248
def maxFeeOffset : ℕ := 280
def minBurnMessageLen : ℕ := 376

/-- The nonce of a CCTP message. -/
def messageNonce (message : List UInt8) : Hash := wordAt message messageNonceOffset

/-- `command`: the command a leg's state calls for, from the stored authorization alone. -/
def command (registry : ChainRegistry) (config : ChainConfig) (finalized : Option ℕ) (now : Time)
    (jobId : JobId) (leg : Leg) (withdrawal : Withdrawal) : Except String WithdrawalStepCommand :=
  let unused := StepPrecondition.authorizationUnused leg.tokenAddress withdrawal.walletAddress leg.nonce
    (searchStart config finalized now leg)
  match leg.stepKind with
  | none => .error s!"leg in state {leg.state.asStr} has no step to run"
  | some .transfer =>
    match leg.signature with
    | none => .error "the leg is unsigned"
    | some (signature, _) =>
      .ok ⟨jobId, leg.id, config.chainId, .transfer, leg.tokenAddress,
        .bytes (StepCall.transferWithAuthorization withdrawal.walletAddress leg.authorizationTo
          leg.amount 0 leg.validBefore leg.nonce signature).abiEncode,
        transferGas, some unused, some (leg.validBefore - notAfterMargin)⟩
  | some .burn =>
    match registry.cctp leg.destinationChainId, leg.salt, leg.signature with
    | none, _, _ =>
      .error s!"the leg bridges to chain {leg.destinationChainId} which has no CCTP configured"
    | some _, none, _ => .error "the bridge leg has no salt"
    | some _, some _, none => .error "the leg is unsigned"
    | some target, some salt, some (signature, _) =>
      .ok ⟨jobId, leg.id, config.chainId, .burn, leg.authorizationTo,
        .bytes (StepCall.bridge leg.tokenAddress withdrawal.walletAddress leg.amount target.domain
          withdrawal.destinationAddress salt leg.validBefore signature).abiEncode,
        bridgeGas, some unused, some (leg.validBefore - notAfterMargin)⟩
  | some .mint =>
    match config.cctp, registry.cctp leg.sourceChainId, leg.attestation with
    | none, _, _ =>
      .error s!"chain {config.chainId} mints but has no CCTP configured"
    | some _, none, _ =>
      .error s!"the leg burned on chain {leg.sourceChainId} which has no CCTP configured"
    | some _, some _, none => .error "the attested leg has no message"
    | some cctp, some source, some (message, attestation) =>
      if message.length < messageNonceOffset + 32 then .error "the attestation message is too short"
      else
        .ok ⟨jobId, leg.id, config.chainId, .mint, cctp.messageTransmitter,
          .bytes (StepCall.receiveMessage message attestation).abiEncode, mintGas,
          some (.messageNonceUnused cctp.messageTransmitter source.domain (messageNonce message)), none⟩

/-! ### The leg's message -/

/-- `message_describes_burn`. -/
def messageDescribesBurn (leg : Leg) (withdrawal : Withdrawal) (cctp : CctpConfig)
    (registry : ChainRegistry) (message : List UInt8) : Except String Unit :=
  match registry.cctp leg.destinationChainId with
  | none => .error "the destination chain has no CCTP configured"
  | some destination =>
    if message.length < minBurnMessageLen then
      .error "the message is shorter than a CCTP V2 burn message"
    else if domainAt message 4 ≠ cctp.domain then .error "the message left another source domain"
    else if domainAt message 8 ≠ destination.domain then
      .error "the message heads for another destination domain"
    else if messageNonce message = 0 then
      .error "the message's nonce is zero, which no transmitter can consume"
    else if wordAt message messageSenderOffset ≠ cctp.tokenMessenger then
      .error "the message was not sent by this chain's token messenger"
    else if wordAt message destinationCallerOffset ≠ 0 then
      .error "the message names a designated destination caller Gum cannot satisfy"
    else if wordAt message burnTokenOffset ≠ leg.tokenAddress then
      .error "the message burns another token"
    else if wordAt message mintRecipientOffset ≠ withdrawal.destinationAddress then
      .error "the message mints to another recipient"
    else if wordAt message amountOffset ≠ leg.amount then .error "the message carries another amount"
    else if wordAt message bodyMessageSenderOffset ≠ cctp.forwarder then
      .error "the message was not deposited by this chain's forwarder"
    else if wordAt message maxFeeOffset ≠ 0 then
      .error "the message carries a fee the forwarder never pays"
    else .ok ()

def describesBurn (leg : Leg) (withdrawal : Withdrawal) (cctp : CctpConfig) (registry : ChainRegistry)
    (message : List UInt8) : Bool :=
  match messageDescribesBurn leg withdrawal cctp registry message with
  | .ok _ => true
  | .error _ => false

/-- What the attestation service answers. -/
inductive AttestationStatus
  /-- The transaction is not indexed yet. -/
  | notIndexed
  /-- The source chain is not final yet. -/
  | pending
  /-- Every complete message of the transaction, with its attestation. -/
  | complete (messages : List (List UInt8 × List UInt8))
deriving DecidableEq, Repr

/-- What `poll_attestations` does for one leg it has read, on the service's answer. -/
def pollLeg (registry : ChainRegistry) (cctp : CctpConfig) (attestationPoll : ℕ) (db : Store) (now : Time)
    (leg : Leg) (answer : Except String AttestationStatus) : Except Violation Store :=
  match leg.burnTxHash with
  | none => (db.failLeg now leg.id "burned leg has no burn transaction hash").map (·.1)
  | some _ =>
    match answer with
    | .ok (.complete messages) =>
      match db.withdrawals.find? leg.withdrawalId with
      | none => .ok db
      | some withdrawal =>
        match messages.find? fun p => describesBurn leg withdrawal cctp registry p.1 with
        | some (message, attestation) =>
          (db.recordAttestation now leg.id message attestation).map (·.1)
        | none => (db.deferAttestation now leg.id (now + attestationPoll)).map (·.1)
    | _ => (db.deferAttestation now leg.id (now + attestationPoll)).map (·.1)

end Payday.Withdrawals
