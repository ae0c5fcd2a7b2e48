/-
# Relaying a withdrawal

The server and the signers of one chain on the legs of withdrawals: the server reads a leg that is
due, opens a step for it and publishes the command in the same transaction; the signers take the
command, work on it and publish a conclusion; the server applies the conclusion to the leg.  Other
chains have signers of their own, whose conclusions are not looked into here.

What a transaction does on the chain is told by the contracts it calls: `WithdrawalForwarder.bridge`
of `foundry/src/WithdrawalForwarder.sol`, and the tokens' EIP-3009 functions.
-/
import Payday.Signers.StepEvidence
import Payday.Withdrawals.Orchestrator
import Payday.Withdrawals.StateMachine

namespace Payday.Withdrawals

open Signers (WithdrawalStepKind WithdrawalStepCommand StepResult ExecutionCommand
  ChainWorker FinalChain Consumption)

/-! ### Contracts -/

/-- The calls that move or burn the money of a leg. -/
inductive ContractCall
  | transferWithAuthorization (token payer payee : Address) (value validAfter validBefore : ℕ)
      (nonce : Hash) (signature : List UInt8)
  | receiveWithAuthorization (token payer payee : Address) (value validAfter validBefore : ℕ)
      (nonce : Hash) (signature : List UInt8)
  | approve (token spender : Address) (value : ℕ)
  | depositForBurn (tokenMessenger : Address) (amount destinationDomain : ℕ) (mintRecipient : Address)
      (burnToken : Address) (destinationCaller maxFee minFinalityThreshold : ℕ)
deriving DecidableEq, Repr

/-- The calls of `WithdrawalForwarder.bridge`, of the forwarder at `self`. -/
def forwarderBridge (keccak : List UInt8 → Hash) (self tokenMessenger token payer : Address)
    (value destinationDomain : ℕ) (mintRecipient : Address) (salt : Hash) (validBefore : ℕ)
    (signature : List UInt8) : List ContractCall :=
  let nonce := bridgeNonce keccak destinationDomain mintRecipient salt
  [.receiveWithAuthorization token payer self value 0 validBefore nonce signature,
    .approve token tokenMessenger value,
    .depositForBurn tokenMessenger value destinationDomain mintRecipient token 0 0 2000]

/-- The arguments are values of the functions' types. -/
def StepCall.InRange : StepCall → Prop
  | transferWithAuthorization payer payee value _ _ nonce _ =>
    payer < 2 ^ 160 ∧ payee < 2 ^ 160 ∧ value < 2 ^ 256 ∧ nonce < 2 ^ 256
  | bridge token payer value destinationDomain mintRecipient salt _ _ =>
    token < 2 ^ 160 ∧ payer < 2 ^ 160 ∧ value < 2 ^ 256 ∧ destinationDomain < 2 ^ 32 ∧
      mintRecipient < 2 ^ 160 ∧ salt < 2 ^ 256
  | receiveMessage _ _ => True

/-- Where the server's contracts are on the chain, and the server's configuration. -/
structure Deployment where
  registry : ChainRegistry
  keccak : List UInt8 → Hash
  keccak_lt : ∀ bytes, keccak bytes < 2 ^ 256
  domain_lt : ∀ chainId cctp, registry.cctp chainId = some cctp → cctp.domain < 2 ^ 32
  /-- An EIP-3009 token of the chain. -/
  isToken : Address → Prop
  /-- A forwarder of the chain, with its token messenger. -/
  isForwarder : Address → Address → Prop

/-- The final chain runs the contracts.  A transaction is successful only if every call it makes
is. -/
structure Deployment.Runs (D : Deployment) (W : ChainWorker) (C : FinalChain)
    (made : Hash → ContractCall → Prop) : Prop where
  /-- The configured forwarder is one. -/
  deployed : ∀ cctp, D.registry.cctp W.config.chainId = some cctp →
    D.isForwarder cctp.forwarder cctp.tokenMessenger
  /-- A call to a token. -/
  token : ∀ raw payer payee value validAfter validBefore nonce signature,
    C.Executed (W.keccak raw) → D.isToken raw.target →
    (StepCall.transferWithAuthorization payer payee value validAfter validBefore nonce signature).InRange →
    raw.calldata = .bytes (StepCall.transferWithAuthorization payer payee value validAfter validBefore
      nonce signature).abiEncode →
    made (W.keccak raw) (.transferWithAuthorization raw.target payer payee value validAfter validBefore
      nonce signature)
  /-- A call to a forwarder. -/
  forwarder : ∀ raw tokenMessenger token payer value destinationDomain mintRecipient salt validBefore
      signature, C.Executed (W.keccak raw) → D.isForwarder raw.target tokenMessenger →
    (StepCall.bridge token payer value destinationDomain mintRecipient salt validBefore signature).InRange →
    raw.calldata = .bytes (StepCall.bridge token payer value destinationDomain mintRecipient salt
      validBefore signature).abiEncode →
    ∀ call ∈ forwarderBridge D.keccak raw.target tokenMessenger token payer value destinationDomain
      mintRecipient salt validBefore signature, made (W.keccak raw) call
  /-- EIP-3009: the call consumes the authorization, and moves the money. -/
  transferred : ∀ txHash token payer payee value validAfter validBefore nonce signature,
    D.isToken token → (made txHash (.transferWithAuthorization token payer payee value validAfter
      validBefore nonce signature) ∨ made txHash (.receiveWithAuthorization token payer payee value
      validAfter validBefore nonce signature)) →
    ∃ block, C.consumption token payer nonce = some (.used txHash block payee value)

/-! ### Steps -/

structure Relay where
  db : Store
  /-- The signers of the chain. -/
  fleet : Signers.Fleet
  /-- The commands that were published. -/
  commands : List WithdrawalStepCommand
  /-- The legs that passes of the orchestrator found to be due on a chain. -/
  due : List (ChainConfig × Leg)
  /-- The same with their withdrawals, which are looked up afterwards. -/
  found : List (ChainConfig × Leg × Withdrawal)

namespace Relay

/-- Nothing was created yet. -/
def start : Relay := ⟨Store.empty, Signers.Fleet.start, [], [], []⟩

/-- The operations whose arguments come from neither the orchestrator nor the signers. -/
def isFree : Call → Bool
  | .create .. | .beginStep .. | .applyStepResult .. => false
  | _ => true

variable (D : Deployment) (W : ChainWorker)

/-- The withdrawal is planned from balances of the wallet; the domain reader knows EIP-3009 tokens
only. -/
structure Plans (plan : LegPlan) (draws : ℕ → LegDraw) (balances : List (ChainId × Address × ℕ))
    (input : NewWithdrawal) : Prop where
  keccak : plan.keccak = D.keccak
  networks : plan.networks = D.registry
  destinationChainId : plan.destinationChainId = input.destinationChainId
  destination : plan.destination = input.destinationAddress
  domain : ∀ token domainToken, plan.domain W.config.chainId token = some domainToken →
    D.isToken domainToken ∧ domainToken < 2 ^ 160
  random : ∀ i, (draws i).random < 2 ^ 256
  balance : ∀ balance ∈ balances, balance.2.2 < 2 ^ 256
  wallet_lt : input.walletAddress < 2 ^ 160
  destination_lt : input.destinationAddress < 2 ^ 160
  legs : plan.planLegs draws balances = .ok input.legs

/-- One step of the server, of the signers of the chain or of those of another chain. -/
inductive Step (s : Relay) : Relay → Prop
  | create (now : Time) (plan : LegPlan) (draws : ℕ → LegDraw)
      (balances : List (ChainId × Address × ℕ)) (input : NewWithdrawal) (db : Store)
      (hplan : Plans D W plan draws balances input) (h : s.db.create now input = .ok db) :
      Step s { s with db := db }
  | operation (now : Time) (call : Call) (db : Store) (hfree : isFree call = true)
      (h : s.db.perform now call = some db) : Step s { s with db := db }
  /-- A pass reads a leg that is due on a chain. -/
  | read (now : Time) (config : ChainConfig) (minValidity : ℕ) (leg : Leg)
      (h : leg ∈ s.db.relayable now config.chainId minValidity) :
      Step s { s with due := (config, leg) :: s.due }
  | lookUp (config : ChainConfig) (leg : Leg) (withdrawal : Withdrawal) (hdue : (config, leg) ∈ s.due)
      (h : s.db.withdrawals.find? leg.withdrawalId = some withdrawal) :
      Step s { s with found := (config, leg, withdrawal) :: s.found }
  /-- The step is opened and its command published, under a new job id. -/
  | openStep (config : ChainConfig) (leg : Leg) (withdrawal : Withdrawal) (finalized : Option ℕ)
      (asked now : Time) (jobId : JobId) (published : WithdrawalStepCommand) (db : Store)
      (hfound : (config, leg, withdrawal) ∈ s.found) (hnew : ∀ c ∈ s.commands, c.jobId ≠ jobId)
      (hcommand : command D.registry config finalized asked jobId leg withdrawal = .ok published)
      (h : s.db.beginStep now leg.id jobId config.chainId = .ok (db, true)) :
      Step s { s with db := db, commands := published :: s.commands }
  /-- The signers take a command of the topic: a step's, or a sweep's. -/
  | accept (now : Time) (taken : ExecutionCommand)
      (htaken : ∀ c, taken = .withdrawalStep c → c ∈ s.commands) :
      Step s { s with
        fleet := { s.fleet with db := (s.fleet.db.insertJob now taken .queued).1 } }
  | refuse (now : Time) (taken : ExecutionCommand) (reason : String) (db db' : Signers.Execution)
      (htaken : ∀ c, taken = .withdrawalStep c → c ∈ s.commands)
      (hinsert : s.fleet.db.insertJob now taken (.resolved .rejected now
        (.executionRejected taken.jobId taken.chainId reason)) = (db, true))
      (h : db.publish (.executionRejected taken.jobId taken.chainId reason) .accepting = .ok db') :
      Step s { s with fleet := { s.fleet with db := db' } }
  | execute (w : ℕ) (fleet : Signers.Fleet) (h : Signers.Fleet.WorkerStep W w s.fleet fleet) :
      Step s { s with fleet := fleet }
  /-- The server applies a conclusion of the chain's signers. -/
  | conclude (now : Time) (p : Signers.Publication) (jobId : JobId) (legId : LegId) (chainId : ChainId)
      (step : WithdrawalStepKind) (result : StepResult) (policy : StepPolicy) (db : Store)
      (applied : StepApplied) (hp : p ∈ s.fleet.db.events)
      (hevent : p.event = .withdrawalStepFinalized jobId legId chainId step result)
      (h : s.db.applyStepResult now jobId step result policy = .ok (db, applied)) :
      Step s { s with db := db }
  /-- It applies any conclusion of the signers of another chain, on a step for that chain. -/
  | concludeElsewhere (now : Time) (c : WithdrawalStepCommand) (result : StepResult)
      (policy : StepPolicy) (db : Store) (applied : StepApplied) (hc : c ∈ s.commands)
      (hchain : c.chainId ≠ W.config.chainId)
      (h : s.db.applyStepResult now c.jobId c.step result policy = .ok (db, applied)) :
      Step s { s with db := db }

end Relay

end Payday.Withdrawals
