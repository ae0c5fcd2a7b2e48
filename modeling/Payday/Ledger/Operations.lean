/-
# Runs of the ledger

Every transaction that writes the ledger is an operation, and a run is a list of operations,
each with the time its transaction stamps.  Operations of different processes interleave in
any order.  A transaction that fails is rolled back, so `step` leaves the ledger as it was.

`Ledger.event` says what an operation means for one request.
-/
import Payday.Ledger.ExecutionEvents
import Payday.Ledger.RangeLoop
import Payday.Ledger.RelayIntents
import Payday.Ledger.Requests

namespace Payday

/-- A ledger transaction. -/
inductive Op
  | insertIssued (input : IssuedRequest)
  | bindPayerWallet (nowSecs : ℕ) (id : InvoiceId) (wallet : Address) (binding : Binding)
  | bindNetwork (id : InvoiceId) (binding : Binding)
  | expireUnbound (chainTime : ℕ)
  | completeVerification (id : InvoiceId) (verifiedAt : Time)
  | requestCancellation (id : InvoiceId)
  | raiseFault (faultId : ℕ) (chainId : ChainId) (reason : String) (block : Option ℕ)
  | clearFault (chainId : ChainId)
  | insertRelayIntent (intent : RelayIntent)
  | markSent (id : IntentId) (invoiceId : InvoiceId) (payerWallet : Address) (originTxHash : Hash)
  | deferRelayIntent (id : IntentId) (nextCheckAt : Time) (relayStatus : Option String)
  | expireQuoted (destinationChainId : ChainId)
  | resolveFilled (id : IntentId) (fills : List Hash) (verifiedOriginTxHash : Hash)
      (relayStatus : String)
  | resolveFailed (id : IntentId) (failure : RelayFailure) (relayStatus : String)
  | applyFinalizedRange (range : FinalizedRange)
  | scheduleSweepJob (policy : SweepPolicy) (chainId : ChainId) (jobId : JobId)
      (correlationId : ℕ) (scan : SweepScan)
  | flagAttention (id : InvoiceId) (reason : String)
  | releaseAttention (id : InvoiceId)
  | deliver (policy : SweepPolicy) (event : ExecutionEvent)

/-- The ledger after one transaction; a failed one is rolled back. -/
def step (L : Ledger) (now : Time) : Op → Ledger
  | .insertIssued input => insertIssued L now input
  | .bindPayerWallet nowSecs id wallet binding => bindPayerWallet L now nowSecs id wallet binding
  | .bindNetwork id binding => bindNetwork L now id binding
  | .expireUnbound chainTime => expireUnbound L now chainTime
  | .completeVerification id verifiedAt => completeVerification L now id verifiedAt
  | .requestCancellation id => requestCancellation L now id
  | .raiseFault faultId chainId reason block => raiseFault L now faultId chainId reason block
  | .clearFault chainId => clearFault L now chainId
  | .insertRelayIntent intent => insertRelayIntent L now intent
  | .markSent id invoiceId payerWallet originTxHash =>
    markSent L now id invoiceId payerWallet originTxHash
  | .deferRelayIntent id nextCheckAt relayStatus => deferRelayIntent L id nextCheckAt relayStatus
  | .expireQuoted destinationChainId => expireQuoted L now destinationChainId
  | .resolveFilled id fills verifiedOriginTxHash relayStatus =>
    resolveFilled L now id fills verifiedOriginTxHash relayStatus
  | .resolveFailed id failure relayStatus => resolveFailed L now id failure relayStatus
  | .applyFinalizedRange range =>
    match applyFinalizedRange L now range with
    | .ok (L', _) => L'
    | .error _ => L
  | .scheduleSweepJob policy chainId jobId correlationId scan =>
    match scheduleSweepJob L now policy chainId jobId correlationId scan with
    | .ok (L', _) => L'
    | .error _ => L
  | .flagAttention id reason => flagAttentionIn L now id reason
  | .releaseAttention id => releaseAttention L now id
  | .deliver policy event => handleOne L now policy event

/-- The ledger after a run. -/
def run (L : Ledger) (ops : List (Time × Op)) : Ledger :=
  ops.foldl (fun L op => step L op.1 op.2) L

@[simp] lemma run_nil (L : Ledger) : run L [] = L := rfl

@[simp] lemma run_cons (L : Ledger) (op : Time × Op) (ops : List (Time × Op)) :
    run L (op :: ops) = run (step L op.1 op.2) ops := rfl

lemma run_append (L : Ledger) (ops ops' : List (Time × Op)) :
    run L (ops ++ ops') = run (run L ops) ops' := by
  simp [run]

/-- The states the ledger can be in. -/
def Reachable (L : Ledger) : Prop := ∃ ops, L = run Ledger.empty ops

lemma reachable_step {L : Ledger} (h : Reachable L) (now : Time) (op : Op) :
    Reachable (step L now op) := by
  obtain ⟨ops, hops⟩ := h
  exact ⟨ops ++ [(now, op)], by rw [run_append, ← hops]; rfl⟩

/-- An invariant of the empty ledger that every transaction keeps holds in every reachable
state. -/
lemma Reachable.induction {P : Ledger → Prop} (hempty : P Ledger.empty)
    (hstep : ∀ L now op, P L → P (step L now op)) {L : Ledger} (h : Reachable L) : P L := by
  obtain ⟨ops, rfl⟩ := h
  have hrun : ∀ (ops : List (Time × Op)) L, P L → P (run L ops) := by
    intro ops
    induction ops with
    | nil => exact fun L h => h
    | cons op rest ih => exact fun L h => ih _ (hstep L op.1 op.2 h)
  exact hrun ops _ hempty

/-- The same for an invariant whose steps need the ledger to be reachable. -/
lemma Reachable.induction_reachable {P : Ledger → Prop} (hempty : P Ledger.empty)
    (hstep : ∀ L now op, Reachable L → P L → P (step L now op)) {L : Ledger} (h : Reachable L) :
    P L := by
  refine (Reachable.induction (P := fun L => Reachable L ∧ P L) ⟨⟨[], rfl⟩, hempty⟩ ?_ h).2
  rintro L now op ⟨hr, hP⟩
  exact ⟨reachable_step hr now op, hstep L now op hr hP⟩

/-! ### What a transaction means for one request -/

/-- The event of a range. -/
def rangeEvent (L : Ledger) (now : Time) (id : InvoiceId) (row : Invoice) (range : FinalizedRange) :
    Event :=
  match applyFinalizedRange L now range with
  | .ok (L', .applied _ _ _) =>
    if row.binding.map (·.chainId) = some range.chainId then
      .range (newTransfers L L' id) range.endBlockTimestamp
    else .quiet
  | _ => .quiet

/-- The event of a scheduling transaction. -/
def scheduleEvent (L : Ledger) (now : Time) (id : InvoiceId) (policy : SweepPolicy)
    (chainId : ChainId) (jobId : JobId) (correlationId : ℕ) (scan : SweepScan) : Event :=
  match scheduleSweepJob L now policy chainId jobId correlationId scan with
  | .ok (_, some job) => if id ∈ job.invoiceIds then .claim jobId else .quiet
  | _ => .quiet

/-- The event of a finalized receipt. -/
def receiptEvent (L : Ledger) (now : Time) (id : InvoiceId) (row : Invoice) (policy : SweepPolicy)
    (receipt : FinalizedSweep) : Event :=
  match (applySweepFinalized L now receipt policy).2,
      receipt.items.find? (fun item => item.invoiceId = id) with
  | .ok _, some item => if row.sweepJobId = some receipt.jobId then .receipt receipt item.outcome
    else .quiet
  | _, _ => .quiet

/-- The event of closing a job without a receipt. -/
def closeEvent (L : Ledger) (row : Invoice) (jobId : JobId) : Event :=
  if row.sweepJobId = some jobId ∧ L.jobOpen jobId then .requeue jobId else .quiet

/-- The event of a write of the binding. -/
def bindEvent (L : Ledger) (row : Invoice) (bindable : Invoice → Bool) (binding : Binding) :
    Event :=
  if bindable row ∧ ¬ L.addressTaken binding then .bind binding else .quiet

/-- What an operation means for a request with the given row. -/
def eventOf (L : Ledger) (now : Time) (id : InvoiceId) (row : Invoice) : Op → Event
  | .bindPayerWallet nowSecs id' wallet binding =>
    if id' = id then
      bindEvent L row (walletBindable nowSecs) { binding with payerWallet := some wallet }
    else .quiet
  | .bindNetwork id' binding =>
    if id' = id then bindEvent L row networkBindable { binding with payerWallet := none }
    else .quiet
  | .expireUnbound chainTime =>
    if row.binding = none ∧ row.status = .created ∧ row.expirationTimestamp < chainTime then
      .expireUnbound
    else .quiet
  | .applyFinalizedRange range => rangeEvent L now id row range
  | .scheduleSweepJob policy chainId jobId correlationId scan =>
    scheduleEvent L now id policy chainId jobId correlationId scan
  | .deliver policy (.sweepFinalized receipt) => receiptEvent L now id row policy receipt
  | .deliver _ (.sweepAbandoned jobId _) => closeEvent L row jobId
  | .deliver _ (.executionRejected jobId _) => closeEvent L row jobId
  | _ => .quiet

/-- What an operation means for a request. -/
def Ledger.event (L : Ledger) (now : Time) (op : Op) (id : InvoiceId) : Event :=
  match L.invoices.find? id with
  | none => .quiet
  | some row => eventOf L now id row op

/-- Only the delivery of a receipt with an item for the request is a receipt event. -/
lemma event_eq_receipt {L : Ledger} {now : Time} {op : Op} {id : InvoiceId}
    {receipt : FinalizedSweep} {outcome : SweepItemOutcome}
    (h : L.event now op id = .receipt receipt outcome) :
    ∃ policy applied, op = .deliver policy (.sweepFinalized receipt) ∧
      (applySweepFinalized L now receipt policy).2 = .ok applied ∧ ⟨id, outcome⟩ ∈ receipt.items := by
  unfold Ledger.event at h
  split at h
  · cases h
  · cases op with
    | bindPayerWallet nowSecs id' wallet binding =>
      simp only [eventOf, bindEvent] at h
      split_ifs at h
    | bindNetwork id' binding =>
      simp only [eventOf, bindEvent] at h
      split_ifs at h
    | expireUnbound chainTime =>
      simp only [eventOf] at h
      split_ifs at h
    | applyFinalizedRange range =>
      simp only [eventOf, rangeEvent] at h
      split at h
      · split_ifs at h
      · cases h
    | scheduleSweepJob policy chainId jobId correlationId scan =>
      simp only [eventOf, scheduleEvent] at h
      split at h
      · split_ifs at h
      · cases h
    | deliver policy event =>
      cases event with
      | sweepFinalized receipt' =>
        simp only [eventOf, receiptEvent] at h
        split at h
        · rename_i applied item hok hitem
          split_ifs at h
          obtain ⟨rfl, rfl⟩ := Event.receipt.inj h
          have hid : item.invoiceId = id := by simpa using List.find?_some hitem
          refine ⟨policy, applied, rfl, hok, ?_⟩
          rw [← hid]
          exact List.mem_of_find?_eq_some hitem
        · cases h
      | sweepAbandoned jobId reason =>
        simp only [eventOf, closeEvent] at h
        split_ifs at h
      | executionRejected jobId reason =>
        simp only [eventOf, closeEvent] at h
        split_ifs at h
      | _ => cases h
    | _ => cases h

/-- What a run means for a request. -/
def Ledger.history (id : InvoiceId) : Ledger → List (Time × Op) → List Event
  | _, [] => []
  | L, op :: rest => L.event op.1 op.2 id :: Ledger.history id (step L op.1 op.2) rest

/-! ### A small ledger -/

/-- A request for 100 units of token 20 on chain 1, payable at address 40 until second
1000. -/
def sampleRequest : IssuedRequest where
  id := 7
  currency := .usdc
  beneficiary := 50
  recovery := 60
  amount := 100
  amount_pos := by decide
  expirationTimestamp := 1000
  walletAttestationRequired := false
  expectedEmail := none
  payerReference := none
  initialBinding := some ⟨1, 10, 20, 30, 40, 0, none⟩

/-- A transfer to the sample request; a block's timestamp is its number. -/
def sampleTransfer (block index logIndex amount : ℕ) : PaymentObservation where
  token := 20
  blockNumber := block
  blockHash := block
  blockTimestamp := block
  transactionHash := 1000 * block + index
  transactionIndex := index
  logIndex := logIndex
  sender := 90
  recipient := 40
  amount := amount

/-- The cursor at a block of chain 1. -/
def sampleCursor (block : ℕ) : IndexerCursor := ⟨block, block, some block⟩

/-- A range of chain 1. -/
def sampleRange (expected : Option IndexerCursor) (endBlock : ℕ)
    (observations : List PaymentObservation) : FinalizedRange where
  chainId := 1
  expectedCursor := expected
  endBlock := endBlock
  endBlockHash := endBlock
  endBlockTimestamp := endBlock
  observations := observations

/-- The receipt of a job for the sample request, in the first transaction of a block. -/
def sampleReceipt (jobId block : ℕ) (outcome : SweepItemOutcome) : FinalizedSweep where
  jobId := jobId
  txHash := 1000 * block
  block := block
  blockHash := block
  blockTimestamp := block
  transactionIndex := 0
  items := [⟨7, outcome⟩]

/-- Two transfers pay the sample request, and a sweep settles it. -/
def paidRun : List (Time × Op) :=
  [(0, .insertIssued sampleRequest),
    (1, .applyFinalizedRange
      (sampleRange none 5 [sampleTransfer 3 0 0 60, sampleTransfer 4 1 0 50])),
    (2, .scheduleSweepJob .default 1 9 0 {}),
    (3, .deliver .default (.sweepFinalized (sampleReceipt 9 8 (.settled 10))))]

end Payday
