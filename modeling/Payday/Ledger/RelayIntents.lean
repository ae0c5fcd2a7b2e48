/-
# Relay intents

Cross-chain payments through Relay (`gum-ledger/src/relay_intents.rs`), one row per quote.
An intent is quoted, reported as sent by the page, and resolved by the destination chain's
poller.  Resolving one attributes the transfers of its fill and hands the parked rest back
to the ordinary path unless another sent intent may still explain them.
-/
import Payday.Ledger.Schema

namespace Payday

/-- `RelayIntentRepository::insert`. -/
def insertRelayIntent (L : Ledger) (now : Time) (intent : RelayIntent) : Ledger :=
  if L.relayIntents.rows.any (fun other => decide (other.requestId = intent.requestId)) then L
  else { L with
    relayIntents := L.relayIntents.insertNew { intent with
      status := .quoted
      originTxHash := none
      verifiedOriginTxHash := none
      fillTxHashes := []
      relayStatus := none
      nextCheckAt := none
      createdAt := now
      sentAt := none
      resolvedAt := none } }

/-- The page reported the origin transaction.  A report never reopens a terminal attempt
and never replaces a recorded hash. -/
def RelayIntent.markSent (now : Time) (originTxHash : Hash) (intent : RelayIntent) : RelayIntent :=
  match intent.originTxHash with
  | some _ =>
    if intent.originTxHash ≠ some originTxHash then intent
    else if intent.status = .quoted ∨ intent.status = .expired then
      { intent with status := .sent, sentAt := some now, nextCheckAt := some now, resolvedAt := none }
    else intent
  | none =>
    if intent.status = .filled then
      if intent.verifiedOriginTxHash = some originTxHash then
        { intent with originTxHash := some originTxHash }
      else intent
    else if intent.status = .quoted ∨ intent.status = .expired then
      { intent with
        status := .sent, originTxHash := some originTxHash, sentAt := some now,
        nextCheckAt := some now, resolvedAt := none }
    else { intent with originTxHash := some originTxHash }

lemma RelayIntent.markSent_id (now : Time) (h : Hash) (intent : RelayIntent) :
    (intent.markSent now h).id = intent.id := by
  unfold RelayIntent.markSent
  split <;> split_ifs <;> rfl

/-- `RelayIntentRepository::mark_sent`. -/
def markSent (L : Ledger) (now : Time) (id : IntentId) (invoiceId : InvoiceId)
    (payerWallet : Address) (originTxHash : Hash) : Ledger :=
  { L with
    relayIntents := L.relayIntents.updateWhere
      (fun r => decide (r.id = id ∧ r.invoiceId = invoiceId ∧ r.payerWallet = payerWallet))
      (RelayIntent.markSent now originTxHash) (RelayIntent.markSent_id now originTxHash) }

/-- Statuses an intent can still be resolved from. -/
def RelayIntentStatus.isPending : RelayIntentStatus → Bool
  | quoted | sent | expired => true
  | _ => false

/-- `RelayIntentRepository::defer`. -/
def deferRelayIntent (L : Ledger) (id : IntentId) (nextCheckAt : Time)
    (relayStatus : Option String) : Ledger :=
  { L with
    relayIntents := L.relayIntents.updateWhere
      (fun r => decide (r.id = id) && r.status.isPending)
      (fun r => { r with
        nextCheckAt := some nextCheckAt, relayStatus := relayStatus.or r.relayStatus }) }

/-- Quotes nobody sent, past their expiry: forgotten. -/
def expireQuoted (L : Ledger) (now : Time) (destinationChainId : ChainId) : Ledger :=
  { L with
    relayIntents := L.relayIntents.updateWhere
      (fun r => decide (r.destinationChainId = destinationChainId ∧ r.status = .quoted ∧
        r.expiresAt < now))
      (fun r => { r with status := .expired, resolvedAt := some now }) }

/-- Hand every still-parked transfer of the request back to the ordinary path, unless
another sent intent may still be the one that made them. -/
def unparkUnlessPending (L : Ledger) (now : Time) (invoiceId : InvoiceId) : Ledger :=
  if L.relayIntents.rows.any (fun r => decide (r.invoiceId = invoiceId ∧ r.status = .sent)) then L
  else
    let parked := L.observations.rows.filter (fun o =>
      decide (o.invoiceId = invoiceId) && o.relayParkedAt.isSome)
    match (parked.map (·.observation.blockTimestamp)).min? with
    | none => L
    | some earliest => { L with
        observations := L.observations.updateWhere
          (fun o => decide (o.invoiceId = invoiceId) && o.relayParkedAt.isSome)
          (fun o => { o with relayParkedAt := none })
        invoices := L.invoices.updateWhere (fun row => decide (row.id = invoiceId))
          (fun row => { row with
            likelyUnsolicitedAt := row.likelyUnsolicitedAt.or (some earliest)
            updatedAt := now }) }

/-- The transfers a fill made: the exact quoted amount of the request's own token, from
somebody other than the payer, in one of the fill's transactions, owned by no intent. -/
def fillMade (intent : RelayIntent) (binding : Binding) (fills : List Hash)
    (o : ObservationRow) : Bool :=
  decide (o.invoiceId = intent.invoiceId) && o.relayIntentId.isNone &&
    fills.contains o.observation.transactionHash && decide (o.chainId = binding.chainId) &&
    decide (o.observation.token = binding.token) &&
    decide (o.observation.recipient = binding.paymentAddress) &&
    decide (o.observation.sender ≠ intent.payerWallet) && o.disposition.kind != .error &&
    decide (0 < o.observation.amount) && decide (o.observation.amount = intent.quotedOutAmount)

/-- Relay filled the request; the verified origin transaction pays for one intent only. -/
def resolveFilled (L : Ledger) (now : Time) (id : IntentId) (fills : List Hash)
    (verifiedOriginTxHash : Hash) (relayStatus : String) : Ledger :=
  match (L.relayIntents.find? id).filter (·.status.isPending) with
  | none => L
  | some intent =>
    if fills.isEmpty || L.relayIntents.rows.any (fun r =>
        decide (r.id ≠ id ∧ r.originChainId = intent.originChainId ∧
          r.verifiedOriginTxHash = some verifiedOriginTxHash)) then L
    else
      let filled := { L with
        relayIntents := L.relayIntents.updateWhere (fun r => decide (r.id = id))
          (fun r => { r with
            status := .filled
            fillTxHashes := fills
            verifiedOriginTxHash := some verifiedOriginTxHash
            relayStatus := some relayStatus
            nextCheckAt := none
            resolvedAt := some now }) }
      let attributed := match (L.invoices.find? intent.invoiceId).bind (·.binding) with
        | none => filled
        | some binding => { filled with
            observations := filled.observations.updateWhere (fillMade intent binding fills)
              (fun o => { o with relayIntentId := some id, relayParkedAt := none }) }
      unparkUnlessPending attributed now intent.invoiceId

/-- How an intent ends without a fill. -/
inductive RelayFailure
  | failed
  | refunded
deriving DecidableEq, Repr

def RelayFailure.status : RelayFailure → RelayIntentStatus
  | failed => .failed
  | refunded => .refunded

/-- Relay failed or refunded the request, or the origin evidence named somebody else. -/
def resolveFailed (L : Ledger) (now : Time) (id : IntentId) (failure : RelayFailure)
    (relayStatus : String) : Ledger :=
  match (L.relayIntents.find? id).filter (·.status.isPending) with
  | none => L
  | some intent =>
    unparkUnlessPending { L with
      relayIntents := L.relayIntents.updateWhere (fun r => decide (r.id = id))
        (fun r => { r with
          status := failure.status
          relayStatus := some relayStatus
          nextCheckAt := none
          resolvedAt := some now }) } now intent.invoiceId

end Payday
