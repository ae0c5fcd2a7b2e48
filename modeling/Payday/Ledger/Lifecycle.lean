/-
# The life cycle of one request

An abstract machine for a single deposit request.  A `Request` keeps the columns the life
cycle turns on and the transfers recorded for the request; an `Event` is what one ledger
transaction means for it.  Everything about other requests, jobs, mails, attempts and Relay
is gone, and what remains is a function of the event.

`Simulation` shows that the ledger, seen from one request, is this machine.
-/
import Payday.Ledger.Sweeps

namespace Payday

/-- A recorded transfer, as far as the life cycle reads it. -/
structure Transfer where
  observation : PaymentObservation
  disposition : Disposition
  collectedAt : Option Position
deriving DecidableEq

namespace Transfer

def isUncollected (t : Transfer) : Bool := t.disposition.kind != .error && t.collectedAt.isNone

def isCredited (t : Transfer) : Bool := t.disposition.kind == .credited

end Transfer

/-- The number of transfers that still sit at the address. -/
def uncollectedOf (transfers : List Transfer) : ℕ := transfers.countP (·.isUncollected)

/-- The sum of the credited transfers. -/
def creditedOf (transfers : List Transfer) : ℕ :=
  ((transfers.filter (·.isCredited)).map (·.observation.amount)).sum

@[simp] lemma uncollectedOf_append (ts us : List Transfer) :
    uncollectedOf (ts ++ us) = uncollectedOf ts + uncollectedOf us :=
  List.countP_append

@[simp] lemma creditedOf_append (ts us : List Transfer) :
    creditedOf (ts ++ us) = creditedOf ts + creditedOf us := by
  simp [creditedOf]

/-- One request. -/
structure Request where
  id : InvoiceId
  amount : ℕ
  expirationTimestamp : ℕ
  binding : Option Binding
  status : InvoiceStatus
  received : ℕ
  uncollected : ℕ
  settlementTxHash : Option Hash
  settlementTransactionIndex : Option ℕ
  resolvedAtBlock : Option ℕ
  drainedAt : Option Position
  sweepJobId : Option JobId
  transfers : List Transfer
deriving DecidableEq

/-- What one ledger transaction means for one request. -/
inductive Event
  | quiet
  | bind (binding : Binding)
  | expireUnbound
  /-- New transfers were recorded, and the chain's clock moved. -/
  | range (fresh : List PaymentObservation) (endBlockTimestamp : ℕ)
  | claim (jobId : JobId)
  | requeue (jobId : JobId)
  | receipt (receipt : FinalizedSweep) (outcome : SweepItemOutcome)
deriving DecidableEq

/-- The drain of an item's evidence, which reads of the row only whether the request is
terminal and whether a settlement is recorded; `none` when the item failed. -/
def drainOf (id : InvoiceId) (terminal recorded : Bool) (receipt : FinalizedSweep) :
    SweepItemOutcome → Option Drain
  | .settled overpaymentRecovered =>
    some (ownDrain receipt (some .fulfilled) true (recovered id overpaymentRecovered .overpayment
      receipt.txHash receipt.block receipt.blockTimestamp).toList none)
  | .returned amount =>
    some (ownDrain receipt (some .recovered) true (recovered id amount .expired
      receipt.txHash receipt.block receipt.blockTimestamp).toList none)
  | .lateCollected amount none =>
    some (ownDrain receipt none false (recovered id amount .lateTransfer
      receipt.txHash receipt.block receipt.blockTimestamp).toList
      (if terminal || recorded then none else some SETTLEMENT_UNKNOWN))
  | .lateCollected amount (some evidence) =>
    some {
      status := if terminal then none
        else if evidence.settled.isSome then some .fulfilled else some .recovered
      executeTx := false
      settlementTxHash := evidence.txHash
      settlementBlock := evidence.block
      settlementTransactionIndex := evidence.transactionIndex
      settlementTimestamp := evidence.blockTimestamp
      recoveries := (if terminal then [] else (recovered id evidence.recovered
          (if evidence.settled.isSome then .overpayment else .expired) evidence.txHash
          evidence.block evidence.blockTimestamp).toList) ++
        (recovered id amount .lateTransfer receipt.txHash receipt.block
          receipt.blockTimestamp).toList
      attention := none }
  | .failed _ => none

/-- `decide` drains an item exactly when its evidence does. -/
lemma decideItem_drained_iff {row : Invoice} {receipt : FinalizedSweep}
    {outcome : SweepItemOutcome} {policy : SweepPolicy} {drain : Drain} :
    decideItem row receipt outcome policy = .drained drain ↔
      drainOf row.id row.status.isTerminal row.settlementTxHash.isSome receipt outcome =
        some drain := by
  rcases outcome with x | x | ⟨x, _ | e⟩ | cause
  · simp [decideItem, drainOf]
  · simp [decideItem, drainOf]
  · simp only [decideItem, drainOf]
    split <;> simp
  · simp [decideItem, drainOf]
  · cases cause with
    | unknown =>
      simp only [decideItem, drainOf]
      split <;> simp
    | _ => simp [decideItem, drainOf]

namespace Request

/-- The recorded settlement's position: both coordinates, or none. -/
def settlementAt (q : Request) : Option Position :=
  match q.resolvedAtBlock, q.settlementTransactionIndex with
  | some block, some index => some (position block index)
  | _, _ => none

/-- Whether a transfer counts toward the amount. -/
def accepting (q : Request) (o : PaymentObservation) : Bool :=
  (match q.settlementAt with
    | none => true
    | some at' => decide (o.position < at')) &&
  decide (o.blockTimestamp ≤ q.expirationTimestamp) && (q.status.isOpen || q.settlementAt.isSome)

def disposition (q : Request) (o : PaymentObservation) : Disposition :=
  if o.amount = 0 then .error .zeroAmount
  else if q.accepting o then .credited
  else if q.status.isOpen then .late (.invoice .expired)
  else .late (.invoice q.status)

/-- A transfer as it is recorded. -/
def record (q : Request) (o : PaymentObservation) : Transfer where
  observation := o
  disposition := q.disposition o
  collectedAt := if o.amount = 0 then none
    else q.drainedAt.filter (fun at' => decide (o.position < at'))

/-- The status once the recorded transfers are counted. -/
def fundedStatus (q : Request) (fresh : List Transfer) : InvoiceStatus :=
  if q.status = .created ∧ fresh.any (·.isCredited) ∧ q.amount ≤ q.received + creditedOf fresh then
    .funded
  else q.status

/-- A range of the request's chain. -/
def range (q : Request) (fresh : List PaymentObservation) (endBlockTimestamp : ℕ) : Request :=
  let new := fresh.map q.record
  { q with
    transfers := q.transfers ++ new
    received := q.received + creditedOf new
    uncollected := q.uncollected + uncollectedOf new
    status := if (q.fundedStatus new).isOpen ∧ q.expirationTimestamp < endBlockTimestamp then
        .expired
      else q.fundedStatus new }

/-- The position a drain classifies against: the recorded settlement, or the one the
receipt reports. -/
def drainPosition (q : Request) (drain : Drain) : Position :=
  q.settlementAt.getD (position drain.settlementBlock drain.settlementTransactionIndex)

end Request

namespace Transfer

/-- A drain on one transfer: collect it if it lies before the receipt, then classify it
against the settlement position. -/
def drain (receiptPosition settlement : Position) (expirationTimestamp : ℕ)
    (reason : DispositionReason) (t : Transfer) : Transfer where
  observation := t.observation
  collectedAt :=
    if t.isUncollected && decide (t.observation.position < receiptPosition) then
      some receiptPosition
    else t.collectedAt
  disposition :=
    if t.disposition.kind = .error then t.disposition
    else if t.observation.blockTimestamp ≤ expirationTimestamp ∧
        t.observation.position < settlement then .credited
    else if expirationTimestamp < t.observation.blockTimestamp then .late (.invoice .expired)
    else .late reason

end Transfer

namespace Request

/-- The drain of a receipt. -/
def drain (q : Request) (receipt : FinalizedSweep) (drain : Drain) : Request :=
  let transfers := q.transfers.map (Transfer.drain receipt.position (q.drainPosition drain)
    q.expirationTimestamp (.invoice (drain.status.getD q.status)))
  { q with
    status := drain.status.getD q.status
    settlementTxHash := q.settlementTxHash.or (some drain.settlementTxHash)
    settlementTransactionIndex :=
      q.settlementTransactionIndex.or (some drain.settlementTransactionIndex)
    resolvedAtBlock := if drain.status.isNone then q.resolvedAtBlock
      else q.resolvedAtBlock.or (some drain.settlementBlock)
    drainedAt := some receipt.position
    uncollected := uncollectedOf transfers
    received := creditedOf transfers
    sweepJobId := none
    transfers := transfers }

/-- The drain the evidence of an outcome calls for. -/
def drain? (q : Request) (receipt : FinalizedSweep) (outcome : SweepItemOutcome) : Option Drain :=
  drainOf q.id q.status.isTerminal q.settlementTxHash.isSome receipt outcome

/-- One event. -/
def apply (q : Request) : Event → Request
  | .quiet => q
  | .bind binding => { q with binding := some binding }
  | .expireUnbound => { q with status := .expired }
  | .range fresh endBlockTimestamp => q.range fresh endBlockTimestamp
  | .claim jobId => { q with sweepJobId := some jobId }
  | .requeue _ => { q with sweepJobId := none }
  | .receipt receipt outcome =>
    match q.drain? receipt outcome with
    | some drain => q.drain receipt drain
    | none => { q with sweepJobId := none }

/-- What the ledger has checked when it makes an event happen. -/
def Enabled (q : Request) : Event → Prop
  | .quiet => True
  | .bind _ => q.binding = none ∧ q.status = .created
  | .expireUnbound => q.binding = none ∧ q.status = .created
  | .range fresh _ => ∃ b, q.binding = some b ∧
      ∀ o ∈ fresh, o.recipient = b.paymentAddress ∧ o.token = b.token
  | .claim _ => q.sweepJobId = none ∧ q.status ≠ .created ∧ 0 < q.uncollected ∧ q.binding.isSome
  | .requeue jobId => q.sweepJobId = some jobId
  | .receipt receipt _ => q.sweepJobId = some receipt.jobId

/-- A run of the machine. -/
def run (q : Request) (events : List Event) : Request := events.foldl apply q

/-- Every event of the list is enabled when its turn comes. -/
def Runs : Request → List Event → Prop
  | _, [] => True
  | q, e :: rest => q.Enabled e ∧ Runs (q.apply e) rest

/-- What holds at the start and is kept by every enabled event holds after every run. -/
lemma run_induction {P : Request → Prop} (hstep : ∀ q e, P q → q.Enabled e → P (q.apply e))
    {q : Request} {events : List Event} (h : P q) (hr : q.Runs events) : P (q.run events) := by
  induction events generalizing q with
  | nil => exact h
  | cons e rest ih => exact ih (hstep q e h hr.1) hr.2

end Request

/-- The transfer of a row. -/
def ObservationRow.transfer (r : ObservationRow) : Transfer where
  observation := r.observation
  disposition := r.disposition
  collectedAt := r.collectedAt

lemma uncollectedIn_eq (rows : List ObservationRow) :
    uncollectedIn rows = uncollectedOf (rows.map (·.transfer)) := by
  rw [uncollectedIn, uncollectedOf, List.countP_map]
  rfl

lemma creditedIn_eq (rows : List ObservationRow) :
    creditedIn rows = creditedOf (rows.map (·.transfer)) := by
  rw [creditedIn, creditedOf, List.filter_map, List.map_map]
  rfl

/-- The request of a row and its observations. -/
def Invoice.request (row : Invoice) (rows : List ObservationRow) : Request where
  id := row.id
  amount := row.amount
  expirationTimestamp := row.expirationTimestamp
  binding := row.binding
  status := row.status
  received := row.confirmedReceived
  uncollected := row.uncollectedCount
  settlementTxHash := row.settlementTxHash
  settlementTransactionIndex := row.settlementTransactionIndex
  resolvedAtBlock := row.resolvedAtBlock
  drainedAt := row.drainedAt
  sweepJobId := row.sweepJobId
  transfers := rows.map (·.transfer)

/-- The request the ledger holds under an id. -/
def Ledger.request? (L : Ledger) (id : InvoiceId) : Option Request :=
  (L.invoices.find? id).map (fun row => row.request (L.observationsOf id))

end Payday
