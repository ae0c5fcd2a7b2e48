/-
# The relay poller

`RelayIntentPoller::poll` of `gum-server/src/relay_intents.rs`, and the receipt it judges a
payment on, `token_payment_receipt` of `gum-chain/src/lib.rs`.  A poll takes one intent, asks
Relay for its status and its record, reads the receipts of the origin transactions that Relay
names one after another, and ends in a ledger transaction.

Any number of polls run beside each other and beside every other ledger transaction.  Relay
answers anything, and the origin chains move between the reads: blocks above the finality
boundary may be replaced.
-/
import Mathlib.Data.List.Destutter
import Mathlib.Data.List.Sort
import Payday.Chain.Transfers
import Payday.Ledger.Operations

namespace Payday.Relay

/-! ### Receipts -/

/-- A receipt, as the provider returns it. -/
structure RpcReceipt where
  status : Bool
  blockNumber : Option ℕ
  blockHash : Option Hash
  logs : List TransferLog

structure TransactionOutcome where
  succeeded : Bool
  block : ℕ
  blockHash : Hash

structure TokenTransfer where
  logIndex : ℕ
  sender : Address
  recipient : Address
  amount : ℕ

/-- A transaction's execution and the `Transfer` logs one token emitted in it. -/
structure TokenPaymentReceipt where
  transactionHash : Hash
  sender : Address
  outcome : TransactionOutcome
  transfers : List TokenTransfer

/-- Every `Transfer` the requested token emitted; a malformed one is a node problem, not an
empty answer. -/
def tokenTransfersOf (token : Address) :
    List TransferLog → Except ChainError (List TokenTransfer)
  | [] => .ok []
  | log :: rest =>
    if log.address ≠ token then tokenTransfersOf token rest
    else match log.topics with
      | none => tokenTransfersOf token rest
      | some (sender, recipient) => do
        let amount ← orTransient log.amount
          "node returned a token Transfer with invalid amount data"
        let logIndex ← orTransient log.logIndex "token Transfer missing log index"
        let transfers ← tokenTransfersOf token rest
        return ⟨logIndex, sender, recipient, amount⟩ :: transfers

/-- `token_payment_receipt`, from what the node answers for the transaction (its signer, when
the node knows it) and for the receipt. -/
def tokenPaymentReceipt (txHash : Hash) (token : Address)
    (transaction : Except ChainError (Option Address))
    (receipt : Except ChainError (Option RpcReceipt)) :
    Except ChainError (Option TokenPaymentReceipt) := do
  match ← transaction with
  | none => return none
  | some sender =>
    match ← receipt with
    | none => return none
    | some receipt =>
      let block ← orTransient receipt.blockNumber "receipt has no block number"
      let blockHash ← orTransient receipt.blockHash "receipt has no block hash"
      let transfers ← tokenTransfersOf token receipt.logs
      return some ⟨txHash, sender, ⟨receipt.status, block, blockHash⟩, transfers⟩

/-! ### Relay's answers -/

inductive IntentState
  | waiting
  | pending
  | success
  | refund
  | failure
deriving DecidableEq, Repr

/-- `IntentState::parse`. -/
def IntentState.parse (status : String) : IntentState :=
  if status = "success" then success
  else if status = "refund" then refund
  else if status = "failure" then failure
  else if status = "waiting" ∨ status = "unknown" then waiting
  else pending

/-- Relay's record of a request. -/
structure RelayRequest where
  status : String
  inTxs : List (ChainId × Hash)
  outTxs : List (ChainId × Hash)

/-! ### One poll -/

def RELAY_POLL : Time := 3000000
def RELAY_ERROR_BACKOFF : Time := 15000000
def RELAY_UNSERVED_BACKOFF : Time := 300000000

/-- The last transaction of a poll that does not fill its intent. -/
inductive Ending
  | defer (nextCheckAt : Time) (relayStatus : Option String)
  | fail (failure : RelayFailure) (relayStatus : String)
deriving DecidableEq

def Ending.op (id : IntentId) : Ending → Op
  | defer nextCheckAt relayStatus => .deferRelayIntent id nextCheckAt relayStatus
  | fail failure relayStatus => .resolveFailed id failure relayStatus

/-- Where a poll stands. -/
inductive Phase
  /-- Relay was asked for the status. -/
  | status
  /-- Relay was asked for the record of a request it calls successful. -/
  | record (raw : String) (later : Time)
  /-- The receipts of the candidates are read one by one. -/
  | receipts (raw : String) (later : Time) (fills : List Hash) (candidate : Hash)
      (rest : List Hash) (successful conclusiveForeign : ℕ)
  /-- A receipt was accepted: `resolve_filled` comes next. -/
  | filling (raw : String) (fills : List Hash) (originTx : Hash)
  | ending (e : Ending)
  /-- `RelayIntentPoller::defer`, whose own failure is only logged. -/
  | deferring (nextCheckAt : Time)
  | done
deriving DecidableEq

/-- A poll of `intent`, as `due_for_poll` returned it. -/
structure Poll where
  intent : RelayIntent
  phase : Phase
deriving DecidableEq

/-- A poll that met an error is retried later. -/
def Phase.failed (now : Time) : Phase := .deferring (now + RELAY_ERROR_BACKOFF)

/-- The start of a poll.  An amount that is no word is malformed, and without the origin
chain's receipts there is no evidence to be had. -/
def Phase.start (served : ChainId → Bool) (now : Time) (intent : RelayIntent) : Phase :=
  if 2 ^ 256 ≤ intent.quotedInAmount then failed now
  else if served intent.originChainId then .status
  else .deferring (now + RELAY_UNSERVED_BACKOFF)

/-- Relay's status. -/
def Phase.afterStatus (now : Time) : Except String String → Phase
  | .error _ => failed now
  | .ok raw =>
    let later := now + RELAY_POLL
    match IntentState.parse raw with
    | .waiting | .pending => .ending (.defer later (some raw))
    | .failure => .ending (.fail .failed raw)
    | .refund => .ending (.fail .refunded raw)
    | .success => .record raw later

/-- The next candidate, or the end of the loop without a proof: every successful transaction
was somebody else's, or the evidence is still to come. -/
def Phase.next (raw : String) (later : Time) (fills : List Hash) (successful conclusiveForeign : ℕ) :
    List Hash → Phase
  | candidate :: rest => .receipts raw later fills candidate rest successful conclusiveForeign
  | [] =>
    if 0 < successful ∧ conclusiveForeign = successful then
      .ending (.fail .failed "depositor_mismatch")
    else .ending (.defer later (some raw))

/-- Relay's record. -/
def Phase.afterRecord (intent : RelayIntent) (now : Time) (raw : String) (later : Time) :
    Except String (Option RelayRequest) → Phase
  | .error _ => failed now
  | .ok none => .ending (.defer later (some raw))
  | .ok (some request) =>
    let fills := (request.outTxs.filter fun tx => tx.1 = intent.destinationChainId).map Prod.snd
    let candidates :=
      (((request.inTxs.filter fun tx => tx.1 = intent.originChainId).map Prod.snd).insertionSort
        (· ≤ ·)).destutter (· ≠ ·)
    if request.status ≠ "success" ∨ fills.isEmpty ∨ candidates.isEmpty then
      .ending (.defer later (some raw))
    else next raw later fills 0 0 candidates

/-- The receipt debits the payer for exactly the quoted amount. -/
def TokenPaymentReceipt.debits (receipt : TokenPaymentReceipt) (intent : RelayIntent) : Bool :=
  receipt.transfers.any fun transfer =>
    decide (transfer.sender = intent.payerWallet ∧ transfer.amount = intent.quotedInAmount)

/-- One pass of the loop over the candidates. -/
def Phase.afterReceipt (intent : RelayIntent) (now : Time) (raw : String) (later : Time)
    (fills : List Hash) (candidate : Hash) (rest : List Hash) (successful conclusiveForeign : ℕ) :
    Except ChainError (Option TokenPaymentReceipt) → Phase
  | .error _ => failed now
  | .ok none => .ending (.defer later (some raw))
  | .ok (some receipt) =>
    if receipt.outcome.succeeded = false then next raw later fills successful conclusiveForeign rest
    else if receipt.sender ≠ intent.payerWallet then
      next raw later fills (successful + 1) (conclusiveForeign + 1) rest
    else if receipt.debits intent then .filling raw fills candidate
    else next raw later fills (successful + 1) conclusiveForeign rest

inductive FillResolution
  | resolved
  | originTransactionClaimed
  | notPending
deriving DecidableEq, Repr

/-- What `resolve_filled` answers. -/
def fillResolution (L : Ledger) (id : IntentId) (fills : List Hash) (originTx : Hash) :
    FillResolution :=
  match (L.relayIntents.find? id).filter (·.status.isPending) with
  | none => .notPending
  | some intent =>
    if fills.isEmpty then .notPending
    else if L.relayIntents.rows.any (fun r =>
        decide (r.id ≠ id ∧ r.originChainId = intent.originChainId ∧
          r.verifiedOriginTxHash = some originTx)) then .originTransactionClaimed
    else .resolved

/-- After `resolve_filled`: a transaction that is another intent's fails this one. -/
def Phase.afterFill : FillResolution → Phase
  | .originTransactionClaimed => .ending (.fail .failed "origin_transaction_claimed")
  | .resolved | .notPending => .done

/-- The intents `due_for_poll` chooses from: the sent ones, and a quoted or expired one whose
exact amount was already observed unattributed. -/
def dueForPoll (L : Ledger) (now : Time) (r : RelayIntent) : Bool :=
  decide (r.nextCheckAt.getD r.createdAt ≤ now) &&
    (decide (r.status = .sent) ||
      (decide (r.status = .quoted ∨ r.status = .expired) &&
        decide (now ≤ r.expiresAt + 86400000000) &&
        L.observations.rows.any fun o =>
          decide (o.invoiceId = r.invoiceId) && o.relayIntentId.isNone &&
            decide (o.chainId = r.destinationChainId) &&
            ((L.invoices.find? o.invoiceId).bind (·.binding)).any (fun b =>
              decide (o.observation.token = b.token ∧ o.observation.recipient = b.paymentAddress)) &&
            decide (o.observation.sender ≠ r.payerWallet) && o.disposition.kind != .error &&
            decide (0 < o.observation.amount ∧ o.observation.amount = r.quotedOutAmount)))

/-! ### The origin chains -/

/-- A log as it stands on the chain: the contract, sender and recipient of a `Transfer`, and
the amount when the data is one word. -/
structure TokenLog where
  address : Address
  topics : Option (Address × Address)
  amount : Option ℕ
deriving DecidableEq

structure MinedTransaction where
  hash : Hash
  succeeded : Bool
  logs : List TokenLog
deriving DecidableEq

structure OriginChain where
  blocks : ℕ → List MinedTransaction
  /-- The finality boundary. -/
  finalized : ℕ

/-- The chain grows and reorganizes above the boundary; what is final stays. -/
structure OriginChain.Evolves (c c' : OriginChain) : Prop where
  advances : c.finalized ≤ c'.finalized
  keeps : ∀ n ≤ c.finalized, c'.blocks n = c.blocks n

/-- What a provider's log says. -/
def tokenLog (log : TransferLog) : TokenLog := ⟨log.address, log.topics, log.amount⟩

/-- The node's receipt is that of the transaction on the chain; fields may be missing. -/
def OriginChain.Reports (c : OriginChain) (txHash : Hash) (receipt : RpcReceipt) : Prop :=
  ∀ n, receipt.blockNumber = some n → ∃ tx ∈ c.blocks n, tx.hash = txHash ∧
    tx.succeeded = receipt.status ∧ tx.logs = receipt.logs.map tokenLog

/-! ### Runs -/

/-- What a deployment fixes: the chains it serves, the token each intent was quoted in
(`origin_currency`, written with the quote and never changed), and the account that a
transaction's hash commits to. -/
structure Setting where
  served : ChainId → Bool
  originCurrency : IntentId → Address
  signer : ChainId → Hash → Address

structure State where
  ledger : Ledger
  chains : ChainId → OriginChain
  polls : List Poll

/-- One step of the system. -/
inductive Event
  /-- A ledger transaction of somebody else. -/
  | commit (now : Time) (op : Op)
  | mine (chainId : ChainId) (chain : OriginChain)
  /-- `due_for_poll` returned the intent. -/
  | poll (now : Time) (id : IntentId)
  | status (i : ℕ) (now : Time) (answer : Except String String)
  | record (i : ℕ) (now : Time) (answer : Except String (Option RelayRequest))
  | receipt (i : ℕ) (now : Time) (transaction : Except ChainError (Option Address))
      (receipt : Except ChainError (Option RpcReceipt))
  /-- The transaction a poll is about to make, or its failure. -/
  | write (i : ℕ) (now : Time) (failed : Bool)

/-- The events of the poller. -/
def Event.ofPoll : Event → Bool
  | .commit .. | .mine .. => false
  | _ => true

namespace State

def setPhase (s : State) (i : ℕ) (phase : Phase) : State :=
  { s with polls := s.polls.modify i fun p => { p with phase } }

/-- The transaction of a poll. -/
def write (s : State) (i : ℕ) (p : Poll) (now : Time) (failed : Bool) : State :=
  match p.phase, failed with
  | .filling _ _ _, true => s.setPhase i (.failed now)
  | .filling raw fills originTx, false =>
    { s with ledger := step s.ledger now (.resolveFilled p.intent.id fills originTx raw) }.setPhase i
      (.afterFill (fillResolution s.ledger p.intent.id fills originTx))
  | .ending _, true => s.setPhase i (.failed now)
  | .ending e, false =>
    { s with ledger := step s.ledger now (e.op p.intent.id) }.setPhase i .done
  | .deferring _, true => s.setPhase i .done
  | .deferring nextCheckAt, false =>
    { s with ledger := step s.ledger now (.deferRelayIntent p.intent.id nextCheckAt none) }.setPhase i
      .done
  | _, _ => s

/-- The state after an event; an answer nobody waits for changes nothing. -/
def step (S : Setting) (s : State) : Event → State
  | .commit now op => { s with ledger := Payday.step s.ledger now op }
  | .mine chainId chain => { s with chains := Function.update s.chains chainId chain }
  | .poll now id =>
    match (s.ledger.relayIntents.find? id).filter (dueForPoll s.ledger now) with
    | none => s
    | some intent => { s with polls := s.polls ++ [⟨intent, .start S.served now intent⟩] }
  | .status i now answer =>
    match s.polls[i]? with
    | some ⟨_, .status⟩ => s.setPhase i (.afterStatus now answer)
    | _ => s
  | .record i now answer =>
    match s.polls[i]? with
    | some ⟨intent, .record raw later⟩ => s.setPhase i (.afterRecord intent now raw later answer)
    | _ => s
  | .receipt i now transaction receipt =>
    match s.polls[i]? with
    | some ⟨intent, .receipts raw later fills candidate rest successful conclusiveForeign⟩ =>
      s.setPhase i (.afterReceipt intent now raw later fills candidate rest successful
        conclusiveForeign
        (tokenPaymentReceipt candidate (S.originCurrency intent.id) transaction receipt))
    | _ => s
  | .write i now failed =>
    match s.polls[i]? with
    | some p => s.write i p now failed
    | none => s

/-- The state after a run. -/
def run (S : Setting) (s : State) (events : List Event) : State := events.foldl (step S) s

/-- No intent yet, on chains with any past. -/
def start (chains : ChainId → OriginChain) : State := ⟨Ledger.empty, chains, []⟩

/-- What the surroundings may do.  Only the poller fills intents, a chain keeps what is final,
and the node's receipts are those of the chain at the moment of the read. -/
def Allows (S : Setting) (s : State) : Event → Prop
  | .commit _ op => ∀ id fills originTx relayStatus, op ≠ .resolveFilled id fills originTx relayStatus
  | .mine chainId chain => (s.chains chainId).Evolves chain
  | .receipt i _ transaction receipt =>
    ∀ intent raw later fills candidate rest successful conclusiveForeign,
      s.polls[i]? = some
        ⟨intent, .receipts raw later fills candidate rest successful conclusiveForeign⟩ →
      (∀ sender, transaction = .ok (some sender) →
        sender = S.signer intent.originChainId candidate) ∧
      ∀ r, receipt = .ok (some r) → (s.chains intent.originChainId).Reports candidate r
  | _ => True

/-- A property of every event of a run, at the state it meets. -/
def Along (S : Setting) (P : State → Event → Prop) : State → List Event → Prop
  | _, [] => True
  | s, e :: events => P s e ∧ Along S P (s.step S e) events

end State

end Payday.Relay
