/-
# Webhook deliveries

The tables `webhook_endpoints`, `webhook_deliveries` and `webhook_delivery_attempts`, the
statements of `WebhookRepository` that write them, and the loop of the delivery workers
(`webhook_worker::run`).  A worker claims one due delivery under a lease, posts it, and records
what came of it; the record is retried until it is known to be stored, so it may run again
although it was stored.  An attempt is counted when the delivery is claimed, and whether it was
the last one is decided when its result is recorded.
-/
import Payday.Ledger.Range

namespace Payday.Webhooks

abbrev EndpointId := ℕ
abbrev EventId := ℕ
abbrev DeliveryId := ℕ
abbrev LeaseToken := ℕ

def maxAttempts : ℕ := 12

/-- The lease of a claim: 60 seconds, in microseconds. -/
def leaseTime : Time := 60 * 10 ^ 6

structure WebhookEndpoint where
  id : EndpointId
  accountId : ℕ
  disabledAt : Option Time
deriving DecidableEq, Repr

inductive DeliveryState
  | pending
  | delivered
  | failed
deriving DecidableEq, Repr

structure WebhookDelivery where
  id : DeliveryId
  eventId : EventId
  endpointId : EndpointId
  attemptCount : ℕ
  nextAttemptAt : Time
  leaseUntil : Option Time
  leaseToken : Option LeaseToken
  state : DeliveryState
  deliveredAt : Option Time
deriving DecidableEq, Repr

/-- A delivery as it is inserted. -/
def WebhookDelivery.new (id : DeliveryId) (eventId : EventId) (endpointId : EndpointId)
    (now : Time) : WebhookDelivery :=
  ⟨id, eventId, endpointId, 0, now, none, none, .pending, none⟩

structure WebhookAttempt where
  deliveryId : DeliveryId
  attemptNumber : ℕ
  attemptedAt : Time
  durationMs : ℕ
  status : Option ℕ
  error : Option String
deriving DecidableEq, Repr

/-- `UNIQUE(delivery_id, attempt_number)`. -/
def WebhookAttempt.key (row : WebhookAttempt) : DeliveryId × ℕ := (row.deliveryId, row.attemptNumber)

structure Store where
  endpoints : Table WebhookEndpoint.id
  deliveries : Table WebhookDelivery.id
  attempts : Table WebhookAttempt.key

/-- What a claim tells the worker about its attempt. -/
structure DeliveryClaim where
  deliveryId : DeliveryId
  attemptNumber : ℕ
  leaseToken : LeaseToken
deriving DecidableEq, Repr

/-! ### The statements -/

/-- `disable`. -/
def disable (endpoints : Table WebhookEndpoint.id) (now : Time) (account : ℕ) (id : EndpointId) :
    Table WebhookEndpoint.id :=
  endpoints.updateWhere (fun endpoint => endpoint.accountId = account && endpoint.id = id)
    (fun endpoint => { endpoint with disabledAt := endpoint.disabledAt.or (some now) })

/-- The `WHERE` of the claim. -/
def ready (store : Store) (now : Time) (row : WebhookDelivery) : Bool :=
  row.state = .pending && decide (row.nextAttemptAt ≤ now) &&
    row.leaseUntil.all (fun until' => decide (until' < now)) &&
    (store.endpoints.find? row.endpointId).any (fun endpoint => endpoint.disabledAt.isNone)

/-- The claim may take the row: it is due, no other transaction has locked it, and none of those
that could be taken is due earlier. -/
def Picks (store : Store) (now : Time) (skip : WebhookDelivery → Bool) (row : WebhookDelivery) :
    Prop :=
  row ∈ store.deliveries.rows ∧ ready store now row = true ∧ skip row = false ∧
    ∀ other ∈ store.deliveries.rows, ready store now other = true → skip other = false →
      row.nextAttemptAt ≤ other.nextAttemptAt

/-- The row under its new lease. -/
def WebhookDelivery.leased (row : WebhookDelivery) (now : Time) (token : LeaseToken) :
    WebhookDelivery :=
  { row with
    attemptCount := row.attemptCount + 1
    leaseUntil := some (now + leaseTime)
    leaseToken := some token }

/-- `claim`, for the row that was picked. -/
def claim (store : Store) (now : Time) (token : LeaseToken) (row : WebhookDelivery) :
    Store × DeliveryClaim :=
  ({ store with
    deliveries := store.deliveries.updateWhere (fun d => d.id = row.id) (·.leased now token) },
    ⟨row.id, row.attemptCount + 1, token⟩)

/-- `(200..300).contains(&s)`. -/
def isSuccess (status : Option ℕ) : Bool :=
  status.any (fun s => decide (200 ≤ s) && decide (s < 300))

/-- The row after its attempt was recorded.  The power is taken only below `maxAttempts`. -/
def WebhookDelivery.completed (row : WebhookDelivery) (now : Time) (success terminal : Bool) :
    WebhookDelivery :=
  { row with
    state := if success then .delivered else if terminal then .failed else .pending
    deliveredAt := if success then some now else row.deliveredAt
    nextAttemptAt := if !success && !terminal then
      now + min 3600 (2 ^ row.attemptCount) * 10 ^ 6 else row.nextAttemptAt
    leaseUntil := none
    leaseToken := none }

/-- `&x[..n]` on the characters of a text: `none` is the panic inside a character. -/
def sliceTo : ℕ → List Char → Option (List Char)
  | _, [] => some []
  | n, c :: rest =>
    if n = 0 then some []
    else if c.utf8Size ≤ n then (sliceTo (n - c.utf8Size) rest).map (c :: ·)
    else none

/-- `&x[..x.len().min(500)]`. -/
def clip (error : String) : Option String :=
  (sliceTo (min error.utf8ByteSize 500) error.toList).map String.ofList

/-- The attempt is recorded unless it already is. -/
def recordAttempt (attempts : Table WebhookAttempt.key) (job : DeliveryClaim) (attemptedAt : Time)
    (durationMs : ℕ) (status : Option ℕ) (error : Option String) : Table WebhookAttempt.key :=
  attempts.insertNew ⟨job.deliveryId, job.attemptNumber, attemptedAt, durationMs, status, error⟩

/-- The row is still leased to the holder of the claim. -/
def DeliveryClaim.holds (job : DeliveryClaim) (row : WebhookDelivery) : Bool :=
  row.id = job.deliveryId && row.leaseToken = some job.leaseToken && row.state = .pending

/-- The attempt failed, and it was the last one. -/
def DeliveryClaim.terminal (job : DeliveryClaim) (status : Option ℕ) : Bool :=
  !isSuccess status && decide (maxAttempts ≤ job.attemptNumber)

/-- `complete`; `none` is the panic. -/
def complete (store : Store) (now : Time) (job : DeliveryClaim) (attemptedAt : Time)
    (durationMs : ℕ) (status : Option ℕ) (error : Option String) : Option Store :=
  match error.mapM clip with
  | none => none
  | some error => some { store with
      attempts := recordAttempt store.attempts job attemptedAt durationMs status error
      deliveries := store.deliveries.updateWhere job.holds
        (·.completed now (isSuccess status) (job.terminal status)) }

/-! ### The workers -/

/-- What `run` records: the status, and the error of an attempt that did not succeed. -/
def outcome : Except String ℕ → Option ℕ × Option String
  | .ok status =>
    if isSuccess (some status) then (some status, none)
    else (some status, some s!"endpoint returned HTTP {status}")
  | .error message => (none, some message)

/-- Where a worker is in its loop. -/
inductive Worker
  | idle
  | delivering (job : DeliveryClaim)
  /-- `complete` is tried until it is known to have worked. -/
  | completing (job : DeliveryClaim) (attemptedAt : Time) (durationMs : ℕ) (status : Option ℕ)
      (error : Option String)

structure System where
  store : Store
  workers : ℕ → Worker
  /-- Every claim that was ever given, in order. -/
  claims : List DeliveryClaim

/-- What happens in a step. -/
inductive Event
  /-- A trigger, or `test_event`, inserts a delivery. -/
  | enqueue
  | addEndpoint
  | disable
  | claim (w : ℕ) (now : Time) (job : DeliveryClaim)
  /-- The endpoint answered, or the request failed or timed out. -/
  | respond (w : ℕ)
  | complete (w : ℕ) (job : DeliveryClaim) (status : Option ℕ)
  | crash (w : ℕ)

namespace System

def start : System where
  store := ⟨Table.empty, Table.empty, Table.empty⟩
  workers := fun _ => .idle
  claims := []

def setWorker (s : System) (w : ℕ) (worker : Worker) : System :=
  { s with workers := Function.update s.workers w worker }

/-- One step of the system.  A claim that finds nothing and a statement that fails change
nothing, and time passes between the steps. -/
inductive Step (s : System) : Event → System → Prop
  | enqueue (id : DeliveryId) (eventId : EventId) (endpointId : EndpointId) (now : Time)
      (deliveries : Table WebhookDelivery.id)
      (h : s.store.deliveries.insert? (.new id eventId endpointId now) = some deliveries)
      (once : ∀ row ∈ s.store.deliveries.rows, row.eventId = eventId → row.endpointId ≠ endpointId) :
      Step s .enqueue { s with store := { s.store with deliveries := deliveries } }
  | addEndpoint (endpoint : WebhookEndpoint) (endpoints : Table WebhookEndpoint.id)
      (h : s.store.endpoints.insert? endpoint = some endpoints) :
      Step s .addEndpoint { s with store := { s.store with endpoints := endpoints } }
  | disable (now : Time) (account : ℕ) (id : EndpointId) :
      Step s .disable { s with store := { s.store with
        endpoints := Webhooks.disable s.store.endpoints now account id } }
  /-- `Uuid::now_v7()` never gives a token twice, and the counter is an `INTEGER`. -/
  | claim (w : ℕ) (now : Time) (skip : WebhookDelivery → Bool) (token : LeaseToken)
      (row : WebhookDelivery) (store : Store) (job : DeliveryClaim) (h : s.workers w = .idle)
      (picks : Picks s.store now skip row) (fits : row.attemptCount < maxInteger)
      (new : token ∉ s.claims.map (·.leaseToken))
      (hclaim : Webhooks.claim s.store now token row = (store, job)) :
      Step s (.claim w now job)
        { store := store
          workers := Function.update s.workers w (.delivering job)
          claims := s.claims ++ [job] }
  | respond (w : ℕ) (job : DeliveryClaim) (attemptedAt : Time) (durationMs : ℕ)
      (result : Except String ℕ) (h : s.workers w = .delivering job) :
      Step s (.respond w) (s.setWorker w
        (.completing job attemptedAt durationMs (outcome result).1 (outcome result).2))
  /-- The transaction commits.  The worker goes on, or does not hear of it and tries again. -/
  | complete (w : ℕ) (now : Time) (job : DeliveryClaim) (attemptedAt : Time) (durationMs : ℕ)
      (status : Option ℕ) (error : Option String) (store : Store) (next : Worker)
      (h : s.workers w = .completing job attemptedAt durationMs status error)
      (hcomplete : Webhooks.complete s.store now job attemptedAt durationMs status error =
        some store)
      (hnext : next = .idle ∨ next = .completing job attemptedAt durationMs status error) :
      Step s (.complete w job status)
        { s with store := store, workers := Function.update s.workers w next }
  /-- The worker stops, also in a panic, and another one takes its place. -/
  | crash (w : ℕ) : Step s (.crash w) (s.setWorker w .idle)

/-- The steps of a run, each with the state it was taken in, and the state they lead to. -/
inductive Run : List (System × Event) → System → Prop
  | start : Run [] start
  | step {past : List (System × Event)} {s s' : System} {e : Event} (h : Run past s)
      (hstep : Step s e s') : Run (past ++ [(s, e)]) s'

end System

end Payday.Webhooks
