/-
# Applying a finalized range

`InvoiceRepository::apply_finalized_range`: one contiguous finalized log range is recorded
and the chain's cursor is advanced, in one transaction.  The requests whose addresses occur
in the range are loaded once, with their Relay intents in the order the database returns them,
every observation is classified against the loaded row and inserted unless its log is already
recorded, the counters of the touched requests are written back, and open requests whose deadline
lies before the range's end expire.

`applyFinalizedRange` is the compare-and-set on the cursor followed by `recordRange`, the
rest of the transaction.
-/
import Mathlib.Data.List.Sort
import Payday.Ledger.Schema

namespace Payday

inductive SqlxError
  | decode (message : String)
  | database (message : String)
deriving DecidableEq, Repr

/-- The largest value of an `INTEGER` column. -/
def maxInteger : ℕ := 2 ^ 31 - 1

/-- Cumulative credit, block, block hash and block timestamp at which a `created` request's
credit first reached its amount. -/
structure Crossing where
  observed : ℕ
  block : ℕ
  blockHash : Hash
  blockTimestamp : ℕ
deriving DecidableEq, Repr

/-- The in-memory state of one request while a range is applied. -/
structure InvoiceCredit where
  id : InvoiceId
  /-- The key of the `credits` map. -/
  paymentAddress : Address
  status : InvoiceStatus
  expirationTimestamp : ℕ
  required : ℕ
  received : ℕ
  drainedAt : Option Position
  settlementAt : Option Position
  uncollected : ℕ
  touched : Bool
  token : Address
  payerWallet : Option Address
  firstForeignTimestamp : Option ℕ
  crossing : Option Crossing
  /-- The `sent` and `filled` Relay intents of the request. -/
  relay : List RelayIntent
deriving DecidableEq

/-- `resolved_at_block.zip(settlement_transaction_index)`. -/
def Invoice.settlementAt (row : Invoice) : Option Position :=
  match row.resolvedAtBlock, row.settlementTransactionIndex with
  | some block, some index => some (position block index)
  | _, _ => none

/-- Who a transfer is from, as far as the crediting path can tell. -/
inductive Attribution
  | payer
  | relay (id : IntentId)
  | parked
  | foreign
deriving DecidableEq, Repr

namespace InvoiceCredit

/-- The credit a locked row starts with. -/
def ofRow (intents : List RelayIntent) (row : Invoice) (binding : Binding) : InvoiceCredit where
  id := row.id
  paymentAddress := binding.paymentAddress
  status := row.status
  expirationTimestamp := row.expirationTimestamp
  required := row.amount
  received := row.confirmedReceived
  drainedAt := row.drainedAt
  settlementAt := row.settlementAt
  uncollected := row.uncollectedCount
  touched := false
  token := binding.token
  payerWallet := binding.payerWallet
  firstForeignTimestamp := none
  crossing := none
  relay := intents.filter (fun intent =>
    intent.invoiceId = row.id && (intent.status = .sent || intent.status = .filled))

/-- Whether the transfer counts toward the amount. -/
def accepting (credit : InvoiceCredit) (o : PaymentObservation) : Bool :=
  let beforeSettlement := match credit.settlementAt with
    | none => true
    | some at' => decide (o.position < at')
  beforeSettlement && decide (o.blockTimestamp ≤ credit.expirationTimestamp) &&
    (credit.status.isOpen || credit.settlementAt.isSome)

def disposition (credit : InvoiceCredit) (o : PaymentObservation) : Disposition :=
  if o.amount = 0 then .error .zeroAmount
  else if credit.accepting o then .credited
  else if credit.status.isOpen then .late (.invoice .expired)
  else .late (.invoice credit.status)

/-- The drain that already moved the transfer, if there is one. -/
def collectedAt (credit : InvoiceCredit) (o : PaymentObservation) : Option Position :=
  if o.amount = 0 then none
  else credit.drainedAt.filter (fun at' => decide (o.position < at'))

/-- The filled intent whose quoted output this log is. -/
def filledIntent (credit : InvoiceCredit) (o : PaymentObservation) : Option RelayIntent :=
  credit.relay.find? (fun intent =>
    intent.status = .filled && intent.quotedOutAmount = o.amount &&
      intent.fillTxHashes.contains o.transactionHash)

def attribution (credit : InvoiceCredit) (o : PaymentObservation) : Attribution :=
  match credit.payerWallet with
  | none =>
    if o.amount = 0 then .foreign
    else match credit.filledIntent o with
      | some filled => .relay filled.id
      | none => .payer
  | some wallet =>
    if o.sender = wallet then .payer
    else if o.amount = 0 then .foreign
    else match credit.filledIntent o with
      | some filled => .relay filled.id
      | none =>
        if credit.relay.any (fun intent =>
            intent.status = .sent && intent.quotedOutAmount = o.amount) then .parked
        else .foreign

/-- The row the transfer is recorded as. -/
def observationRow (credit : InvoiceCredit) (chainId : ChainId) (now : Time)
    (o : PaymentObservation) : ObservationRow where
  chainId := chainId
  observation := o
  invoiceId := credit.id
  disposition := credit.disposition o
  collectedAt := credit.collectedAt o
  relayIntentId := match credit.attribution o with
    | .relay id => some id
    | _ => none
  relayParkedAt := if credit.attribution o = .parked then some now else none

/-- Note a newly recorded nonzero transfer: its sender and whether it still sits at the
address. -/
def note (credit : InvoiceCredit) (o : PaymentObservation) : InvoiceCredit :=
  { credit with
    touched := true
    firstForeignTimestamp :=
      if credit.attribution o = .foreign then
        some (match credit.firstForeignTimestamp with
          | none => o.blockTimestamp
          | some first => min first o.blockTimestamp)
      else credit.firstForeignTimestamp
    uncollected := credit.uncollected + (if (credit.collectedAt o).isNone then 1 else 0) }

/-- Add a credited transfer to the received total. -/
def add (credit : InvoiceCredit) (o : PaymentObservation) : InvoiceCredit :=
  let received := credit.received + o.amount
  { credit with
    received := received
    crossing :=
      if credit.status = .created ∧ credit.crossing = none ∧ credit.required ≤ received then
        some ⟨received, o.blockNumber, o.blockHash, o.blockTimestamp⟩
      else credit.crossing }

/-- Count a newly recorded nonzero transfer. -/
def count (credit : InvoiceCredit) (o : PaymentObservation) : Except SqlxError InvoiceCredit :=
  -- the counter is an `i32`, and the column refuses what would wrap
  if maxInteger < (credit.note o).uncollected then .error (.database "integer out of range")
  else if (credit.disposition o).kind ≠ .credited then .ok (credit.note o)
  else if 2 ^ 256 ≤ credit.received + o.amount then
    .error (.decode "observation total overflowed uint256")
  else .ok ((credit.note o).add o)

end InvoiceCredit

/-- The `credits` map: in-memory credits by payment address. -/
abbrev Credits := Table InvoiceCredit.paymentAddress

/-- The observations table. -/
abbrev Observations := Table ObservationRow.key

/-- One iteration of the loop over the range's observations. -/
def recordObservation (chainId : ChainId) (now : Time) (state : Credits × Observations)
    (o : PaymentObservation) : Except SqlxError (Credits × Observations) :=
  match state.1.find? o.recipient with
  | none => .ok state
  | some credit =>
    if credit.token ≠ o.token then .ok state
    else match state.2.insert? (credit.observationRow chainId now o) with
      | none => .ok state
      | some observations =>
        if o.amount = 0 then .ok (state.1, observations)
        else match credit.count o with
          | .error e => .error e
          | .ok counted => .ok (state.1.upsert counted, observations)

/-- The loop over the range's observations. -/
def recordObservations (chainId : ChainId) (now : Time) :
    List PaymentObservation → Credits × Observations → Except SqlxError (Credits × Observations)
  | [], state => .ok state
  | o :: rest, state =>
    match recordObservation chainId now state o with
    | .error e => .error e
    | .ok state' => recordObservations chainId now rest state'

/-- `CASE WHEN $8 IS NOT NULL AND likely_unsolicited_at IS NULL THEN … END`. -/
def firstFlag (stored first : Option ℕ) : Option ℕ := stored.or first

/-- Whether the row is the target of the write-back of `credit`. -/
def InvoiceCredit.writesTo (credit : InvoiceCredit) (row : Invoice) : Bool :=
  credit.touched && decide (row.id = credit.id) &&
    (credit.crossing.isNone || decide (row.status = .created))

/-- The write-back of one credit to its row. -/
def InvoiceCredit.write (credit : InvoiceCredit) (now : Time) (row : Invoice) : Invoice :=
  match credit.crossing with
  | some crossing => { row with
      confirmedReceived := credit.received
      uncollectedCount := credit.uncollected
      status := .funded
      observedAmount := some crossing.observed
      fundedAtBlock := some crossing.block
      fundedAtBlockHash := some crossing.blockHash
      paidAt := some crossing.blockTimestamp
      likelyUnsolicitedAt := firstFlag row.likelyUnsolicitedAt credit.firstForeignTimestamp
      updatedAt := now }
  | none => { row with
      confirmedReceived := credit.received
      uncollectedCount := credit.uncollected
      likelyUnsolicitedAt := firstFlag row.likelyUnsolicitedAt credit.firstForeignTimestamp
      updatedAt := now }

lemma InvoiceCredit.write_id (credit : InvoiceCredit) (now : Time) (row : Invoice) :
    (credit.write now row).id = row.id := by
  unfold InvoiceCredit.write
  cases credit.crossing <;> rfl

/-- Write the touched credits back, one `UPDATE` for each. -/
def writeCredits (now : Time) (credits : List InvoiceCredit) (invoices : Table Invoice.id) :
    Table Invoice.id :=
  credits.foldl (fun table credit =>
    table.updateWhere credit.writesTo (credit.write now) (credit.write_id now)) invoices

/-- Open requests of the chain whose deadline lies before the range's end block. -/
def expires (chainId : ChainId) (endBlockTimestamp : ℕ) (row : Invoice) : Bool :=
  decide (row.binding.map (·.chainId) = some chainId) && row.status.isOpen &&
    decide (row.expirationTimestamp < endBlockTimestamp)

def Invoice.expire (now : Time) (endBlockTimestamp : ℕ) (row : Invoice) : Invoice :=
  { row with status := .expired, expiredAt := some endBlockTimestamp, updatedAt := now }

inductive RangeApplied
  | applied (funded expired : List InvoiceId) (cursor : IndexerCursor)
  | alreadyApplied (cursor : IndexerCursor)
  | cursorMismatch (cursor : Option IndexerCursor)
deriving DecidableEq, Repr

/-- One `RecordFinalizedRange` request. -/
structure FinalizedRange where
  chainId : ChainId
  expectedCursor : Option IndexerCursor
  endBlock : ℕ
  endBlockHash : Hash
  endBlockTimestamp : ℕ
  observations : List PaymentObservation
  /-- No part of the request: the order in which the database returns the Relay intents, which the
  query that loads them leaves open.  Intents that are not listed come last. -/
  intentOrder : List IntentId := []
deriving DecidableEq, Repr

/-- The cursor the range leaves behind. -/
def FinalizedRange.cursor (range : FinalizedRange) : IndexerCursor :=
  ⟨range.endBlock, range.endBlockHash, some range.endBlockTimestamp⟩

/-- The intents in the order in which they are returned. -/
def FinalizedRange.loads (range : FinalizedRange) (intents : List RelayIntent) : List RelayIntent :=
  intents.insertionSort (fun a b => range.intentOrder.idxOf a.id ≤ range.intentOrder.idxOf b.id)

lemma FinalizedRange.loads_perm (range : FinalizedRange) (intents : List RelayIntent) :
    (range.loads intents).Perm intents := List.perm_insertionSort _ _

/-- The credit of a row, when its address occurs in the range: the rows of the chain whose
`payment_address = ANY(recipients)`. -/
def rangeCredit (L : Ledger) (range : FinalizedRange) (row : Invoice) : Option InvoiceCredit :=
  match row.binding with
  | none => none
  | some binding =>
    if binding.chainId = range.chainId ∧
        binding.paymentAddress ∈ range.observations.map (·.recipient) then
      some (.ofRow (range.loads L.relayIntents.rows) row binding)
    else none

/-- The loaded credits, by address. -/
def loadCredits (L : Ledger) (range : FinalizedRange) : Credits :=
  (L.invoices.rows.filterMap (rangeCredit L range)).foldl Table.upsert Table.empty

/-- The transaction after its cursor check. -/
def recordRange (L : Ledger) (now : Time) (range : FinalizedRange) :
    Except SqlxError (Ledger × RangeApplied) :=
  match recordObservations range.chainId now range.observations
      (loadCredits L range, L.observations) with
  | .error e => .error e
  | .ok (credits, observations) =>
    let funded := (credits.rows.filter (fun credit =>
      credit.touched && credit.crossing.isSome)).map (·.id)
    let written := writeCredits now credits.rows L.invoices
    let expired := (written.rows.filter (expires range.chainId range.endBlockTimestamp)).map (·.id)
    .ok ({ L with
      observations := observations
      invoices := written.updateWhere (expires range.chainId range.endBlockTimestamp)
        (Invoice.expire now range.endBlockTimestamp)
      indexerCursor := L.indexerCursor.upsert (range.chainId, range.cursor) },
      .applied funded expired range.cursor)

/-- `apply_finalized_range`: the stored cursor is compared with the expected one, then the
range is recorded. -/
def applyFinalizedRange (L : Ledger) (now : Time) (range : FinalizedRange) :
    Except SqlxError (Ledger × RangeApplied) :=
  if L.cursor range.chainId ≠ range.expectedCursor then
    match L.cursor range.chainId with
    | some cursor =>
      if range.endBlock ≤ cursor.block then .ok (L, .alreadyApplied cursor)
      else .ok (L, .cursorMismatch (some cursor))
    | none => .ok (L, .cursorMismatch none)
  else recordRange L now range

end Payday
