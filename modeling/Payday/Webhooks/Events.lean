/-
# Webhook events

The triggers that write `webhook_events` (`gum-schema/migrations/0001_application.sql`) beside the
ledger's transactions.  `enqueue_payment_webhook` runs after the insert of a request and after each
statement that updates it, and compares the two versions of the row; it picks one kind for a new
attention reason or a new status, and looks at the other columns one by one.  A recovery has its own
trigger.  An event is inserted unless the request already has one of its kind, and fans out to the
endpoints of the account that are active when it is written.

The statements a transaction makes on a row are those of `Ledger.writes`.  The events of one
transaction are independent rows; they are written here request by request.
-/
import Payday.Ledger.Recoveries
import Payday.Ledger.Writes
import Payday.Webhooks.Deliveries

namespace Payday.Webhooks

inductive EventType
  /-- `deposit_request.deposited`, and so on. -/
  | deposited
  | settled
  | expired
  | returned
  | needsAttention
  | likelyUnsolicited
  | recoveredFunds
  | ready
  /-- `verification.approved`. -/
  | approved
  /-- `webhook.test`. -/
  | test
deriving DecidableEq, Repr

/-- A row of `webhook_events`. -/
structure WebhookEvent where
  id : EventId
  accountId : ℕ
  invoiceId : Option InvoiceId
  eventType : EventType
  occurredAt : Time
  /-- The version of the request that `data.deposit_request` renders. -/
  depositRequest : Option Invoice
  /-- The code of the `attention` object, in `needs_attention` only. -/
  attention : Option String
  /-- What `data.recovery` renders, in `recovered_funds` only. -/
  recovery : Option RecoveredFunds
  fanout : Bool
deriving DecidableEq

/-- The ledger with the tables of the webhooks. -/
structure State where
  ledger : Ledger
  endpoints : Table WebhookEndpoint.id
  events : List WebhookEvent
  deliveries : List WebhookDelivery

/-- One call of `enqueue_invoice_webhook_event`. -/
structure Call where
  invoiceId : InvoiceId
  eventType : EventType
  occurred : Option Time
  depositRequest : Invoice
  attention : Option String
  recovery : Option RecoveredFunds

/-! ### The triggers -/

/-- A timestamp of a block, as a database timestamp. -/
def blockTime (seconds : ℕ) : Time := seconds * 10 ^ 6

/-- The kind a new status stands for. -/
def statusKind : InvoiceStatus → Option EventType
  | .created => none
  | .funded => some .deposited
  | .fulfilled => some .settled
  | .expired => some .expired
  | .recovered => some .returned

/-- When a status was reached. -/
def statusTime (row : Invoice) : Option Time :=
  (match row.status with
    | .created => none
    | .funded => row.paidAt
    | .expired => row.expiredAt
    | .fulfilled | .recovered => row.settledAt).map blockTime

/-- The attention reason is new in the second version. -/
def newlyFlagged (old : Option Invoice) (new : Invoice) : Bool :=
  new.attentionReason.isSome && (old.bind (·.attentionReason)).isNone

/-- The one kind that is picked for a new attention reason or a new status. -/
def lifecycleKind (old : Option Invoice) (new : Invoice) : Option EventType :=
  if decide (old.map (·.status) ≠ some new.status) || newlyFlagged old new then
    if newlyFlagged old new then some .needsAttention else statusKind new.status
  else none

/-- `enqueue_payment_webhook`, for two versions of a row; the insert has no old one. -/
def enqueuePaymentWebhook (old : Option Invoice) (new : Invoice) : List Call :=
  (lifecycleKind old new).toList.map (fun kind => ⟨new.id, kind, statusTime new, new,
      if newlyFlagged old new then new.attentionReason else none, none⟩) ++
    (if new.verificationCompletedAt.isSome && (old.bind (·.verificationCompletedAt)).isNone then
      [⟨new.id, .approved, new.verificationCompletedAt, new, none, none⟩] else []) ++
    (if new.binding.isSome && (old.bind (·.binding)).isNone then
      [⟨new.id, .ready, new.binding.map (·.readyAt), new, none, none⟩] else []) ++
    (if new.likelyUnsolicitedAt.isSome && (old.bind (·.likelyUnsolicitedAt)).isNone then
      [⟨new.id, .likelyUnsolicited, new.likelyUnsolicitedAt.map blockTime, new, none, none⟩] else [])

/-- `enqueue_recovered_funds_webhook`. -/
def enqueueRecoveredFundsWebhook (invoice : Invoice) (recovery : RecoveredFunds) : Call :=
  ⟨recovery.invoiceId, .recoveredFunds, some (blockTime recovery.blockTimestamp), invoice, none,
    some recovery⟩

namespace State

def empty : State := ⟨Ledger.empty, Table.empty, [], []⟩

/-- The endpoints an event of the account fans out to. -/
def active (s : State) (account : ℕ) : List EndpointId :=
  (s.endpoints.rows.filter (fun endpoint =>
    endpoint.accountId = account && endpoint.disabledAt.isNone)).map (·.id)

/-- The endpoints an event is delivered to. -/
def targets (s : State) (event : EventId) : List EndpointId :=
  (s.deliveries.filter (fun delivery => delivery.eventId = event)).map (·.endpointId)

/-- Insert an event, with its deliveries to the given endpoints. -/
def insertEvent (s : State) (now : Time) (event : WebhookEvent) (endpoints : List EndpointId) :
    State :=
  { s with
    events := s.events ++ [event]
    deliveries := s.deliveries ++ endpoints.mapIdx (fun i endpoint =>
      .new (s.deliveries.length + i) event.id endpoint now) }

variable (accountOf : InvoiceId → ℕ)

/-- The row the call inserts; `gen_random_uuid()` gives a new id. -/
def eventOf (s : State) (now : Time) (call : Call) : WebhookEvent where
  id := s.events.length
  accountId := accountOf call.invoiceId
  invoiceId := some call.invoiceId
  eventType := call.eventType
  occurredAt := call.occurred.getD now
  depositRequest := some call.depositRequest
  attention := call.attention
  recovery := call.recovery
  fanout := true

/-- Whether `webhook_lifecycle_event_once` has a row for the call. -/
def conflicts (s : State) (call : Call) : Bool :=
  s.events.any (fun event => event.invoiceId = some call.invoiceId &&
    event.eventType = call.eventType && event.fanout && event.eventType ≠ .recoveredFunds)

/-- `enqueue_invoice_webhook_event` and the trigger `webhook_event_fanout`. -/
def enqueueInvoiceWebhookEvent (now : Time) (s : State) (call : Call) : State :=
  if s.conflicts call then s
  else s.insertEvent now (s.eventOf accountOf now call) (s.active (accountOf call.invoiceId))

/-- `test_event`. -/
def testEvent (s : State) (now : Time) (account : ℕ) (endpoint : EndpointId) : State :=
  if endpoint ∈ s.active account then
    s.insertEvent now ⟨s.events.length, account, none, .test, now, none, none, none, false⟩ [endpoint]
  else s

end State

/-! ### Transactions -/

/-- The versions of a row that some statements leave, in order. -/
def rowVersions (now : Time) : Invoice → List Write → List Invoice
  | _, [] => []
  | row, w :: ws => w.apply now row :: rowVersions now (w.apply now row) ws

/-- The calls of the row trigger for some statements. -/
def updateCalls (now : Time) : Invoice → List Write → List Call
  | _, [] => []
  | row, w :: ws =>
    enqueuePaymentWebhook (some row) (w.apply now row) ++ updateCalls now (w.apply now row) ws

/-- The row as the drain left it: recoveries are inserted right behind that statement. -/
def afterDrain (now : Time) (row : Invoice) (ws : List Write) : Invoice :=
  row.writeAll now (ws.take 1)

/-- The recoveries a transaction adds to a request. -/
def newRecoveries (L : Ledger) (now : Time) (op : Op) (id : InvoiceId) : List RecoveredFunds :=
  ((step L now op).recoveriesOf id).drop (L.recoveriesOf id).length

/-- The calls a transaction makes for one request. -/
def rowCalls (L : Ledger) (now : Time) (op : Op) (row : Invoice) : List Call :=
  updateCalls now row (L.writes now row op) ++
    (newRecoveries L now op row.id).map
      (enqueueRecoveredFundsWebhook (afterDrain now row (L.writes now row op)))

/-- The requests a transaction inserts. -/
def issuedRows (L : Ledger) (now : Time) (op : Op) : List Invoice :=
  (step L now op).invoices.rows.filter (fun row => (L.invoices.find? row.id).isNone)

/-- The calls of a transaction. -/
def calls (L : Ledger) (now : Time) (op : Op) : List Call :=
  L.invoices.rows.flatMap (rowCalls L now op) ++
    (issuedRows L now op).flatMap (enqueuePaymentWebhook none)

/-- What can happen to the ledger and its webhooks. -/
inductive Action
  | transact (op : Op)
  | addEndpoint (endpoint : WebhookEndpoint)
  | disable (account : ℕ) (id : EndpointId)
  | testEvent (account : ℕ) (endpoint : EndpointId)

namespace State

variable (accountOf : InvoiceId → ℕ)

def act (s : State) (now : Time) : Action → State
  | .transact op =>
    { (calls s.ledger now op).foldl (enqueueInvoiceWebhookEvent accountOf now) s with
      ledger := step s.ledger now op }
  | .addEndpoint endpoint => { s with endpoints := s.endpoints.insertNew endpoint }
  | .disable account id => { s with endpoints := Webhooks.disable s.endpoints now account id }
  | .testEvent account endpoint => s.testEvent now account endpoint

def runActions (s : State) (actions : List (Time × Action)) : State :=
  actions.foldl (fun s action => s.act accountOf action.1 action.2) s

/-- The events of a request of one kind. -/
def eventsOf (s : State) (id : InvoiceId) (kind : EventType) : List WebhookEvent :=
  s.events.filter (fun event => event.invoiceId = some id && event.eventType = kind)

end State

/-! ### What the events report -/

/-- The versions of a request that a transaction leaves. -/
def versions (L : Ledger) (now : Time) (op : Op) (id : InvoiceId) : List Invoice :=
  match L.invoices.find? id with
  | some row => rowVersions now row (L.writes now row op)
  | none => ((step L now op).invoices.find? id).toList

/-- The versions of a request in a run. -/
def runVersions (id : InvoiceId) : Ledger → List (Time × Action) → List Invoice
  | _, [] => []
  | L, (now, .transact op) :: rest =>
    versions L now op id ++ runVersions id (step L now op) rest
  | L, _ :: rest => runVersions id L rest

/-- The version is in the state, or has the column set, that the kind of event reports. -/
def Reports : EventType → Invoice → Prop
  | .deposited, row => row.status = .funded
  | .settled, row => row.status = .fulfilled
  | .expired, row => row.status = .expired
  | .returned, row => row.status = .recovered
  | .needsAttention, row => row.attentionReason.isSome
  | .likelyUnsolicited, row => row.likelyUnsolicitedAt.isSome
  | .ready, row => row.binding.isSome
  | .approved, row => row.verificationCompletedAt.isSome
  | .recoveredFunds, _ | .test, _ => False

end Payday.Webhooks
