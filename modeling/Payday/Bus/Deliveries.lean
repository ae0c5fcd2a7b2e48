/-
# The message bus

The `bus` schema (`gum-schema/migrations/0002_bus.sql`) and the statements that `gum-bus` runs
against it.  A published message fans out to one delivery for each subscribed consumer; a
consumer claims deliveries under a lease, and every later statement about a delivery names the
lease's token.  `bus_deliveries_lease_complete` ties the two lease columns together, so they are
one field here.
-/
import Mathlib.Data.List.Sort
import Payday.Ledger.Schema

namespace Payday.Bus

abbrev MessageId := ℕ
abbrev LeaseToken := ℕ

inductive DeliveryState
  | pending
  | done
  | dead
deriving DecidableEq, Repr

structure Lease where
  token : LeaseToken
  /-- `leased_until`. -/
  expires : Time
deriving DecidableEq, Repr

/-- A row of `bus.deliveries`. -/
structure DeliveryRow where
  messageId : MessageId
  consumer : String
  state : DeliveryState
  /-- An `INTEGER` column; a claim that would overflow it is not modelled. -/
  attemptCount : ℕ
  availableAt : Time
  lease : Option Lease
  lastError : Option String
  lastAttemptAt : Option Time
  doneAt : Option Time
deriving DecidableEq, Repr

/-- The primary key. -/
def DeliveryRow.key (row : DeliveryRow) : MessageId × String := (row.messageId, row.consumer)

/-- A row of `bus.messages`. -/
structure MessageRow where
  id : MessageId
  topic : String
  kind : String
  schemaVersion : ℤ
  /-- The JSON text. -/
  payload : String
  payloadHash : Hash
  deduplicationKey : String
  correlationId : ℕ
  publishedAt : Time
deriving DecidableEq, Repr

/-- `bus.subscriptions`: consumer and topic. -/
def subscriptions : List (String × String) :=
  [("gum-signers", "execution.commands"), ("gum-signers", "chain.control"),
    ("gum-server", "execution.events")]

structure Database where
  messages : Table MessageRow.id
  deliveries : Table DeliveryRow.key

namespace Database

def empty : Database := ⟨Table.empty, Table.empty⟩

end Database

inductive BusError
  | database (message : String)
  | conflictingPayload (messageId : MessageId) (expected actual : Hash)
  | leaseLost (messageId : MessageId) (consumer : String)
deriving DecidableEq, Repr

/-- How a handler failed.  `permanent` skips the remaining attempts. -/
inductive HandlerError
  | retryable (message : String)
  | permanent (message : String)
deriving DecidableEq, Repr

namespace BusError

def text : BusError → String
  | database message => s!"database error: {message}"
  | conflictingPayload messageId expected actual =>
    s!"message {messageId} encodes as {actual} but was published under the same key as {expected}"
  | leaseLost messageId consumer =>
    s!"lease on delivery {messageId} for {consumer} was lost before acknowledgement"

/-- The conversion that `?` applies in a handler. -/
def toHandlerError (error : BusError) : HandlerError :=
  match error with
  | conflictingPayload .. => .permanent error.text
  | database _ | leaseLost .. => .retryable error.text

end BusError

namespace HandlerError

def text : HandlerError → String
  | retryable message | permanent message => message

def isPermanent : HandlerError → Bool
  | permanent _ => true
  | retryable _ => false

end HandlerError

/-! ### Publishing -/

inductive PublishOutcome
  | published (id : MessageId)
  | duplicate (id : MessageId)
deriving DecidableEq, Repr

/-- The row that the fan-out inserts, with the columns' defaults. -/
def newDelivery (now : Time) (messageId : MessageId) (consumer : String) : DeliveryRow where
  messageId := messageId
  consumer := consumer
  state := .pending
  attemptCount := 0
  availableAt := now
  lease := none
  lastError := none
  lastAttemptAt := none
  doneAt := none

/-- The trigger `bus.fan_out`: one delivery for each consumer of the topic. -/
def fanOut (deliveries : Table DeliveryRow.key) (now : Time) (message : MessageRow) :
    Option (Table DeliveryRow.key) :=
  (subscriptions.filter (fun s => decide (s.2 = message.topic))).foldlM
    (fun t s => t.insert? (newDelivery now message.id s.1)) deliveries

/-- `Publisher::publish`, in the caller's transaction. -/
def publish (db : Database) (now : Time) (message : MessageRow) :
    Except BusError (Database × PublishOutcome) :=
  match db.messages.rows.find? (fun m => decide (m.topic = message.topic ∧
      m.deduplicationKey = message.deduplicationKey)) with
  | some existing =>
    if existing.payloadHash = message.payloadHash then .ok (db, .duplicate existing.id)
    else .error (.conflictingPayload existing.id existing.payloadHash message.payloadHash)
  | none =>
    match db.messages.insert? { message with publishedAt := now }, fanOut db.deliveries now message with
    | some messages, some deliveries => .ok (⟨messages, deliveries⟩, .published message.id)
    | _, _ => .error (.database "duplicate key value violates unique constraint")

/-! ### Claiming -/

/-- What `Consumer` is configured with. -/
structure ConsumerOptions where
  lease : Time
  maxAttempts : ℕ
  batchSize : ℕ
deriving DecidableEq, Repr

/-- The static side of a `BusMessage`: its topic, the schema version this binary was compiled
against, and the decoder that `serde` derives. -/
structure MessageType (M : Type) where
  topic : String
  schemaVersion : ℕ
  fromValue : String → Except String M

structure Consumer (M : Type) where
  name : String
  options : ConsumerOptions
  messageType : MessageType M

/-- A claimed message with the lease that proves the claim. -/
structure Delivery (M : Type) where
  messageId : MessageId
  message : M
  kind : String
  correlationId : ℕ
  publishedAt : Time
  attempt : ℕ
  leaseToken : LeaseToken

/-- The `WHERE` clause of the claim. -/
def claimable (db : Database) (name topic : String) (now : Time) (row : DeliveryRow) : Bool :=
  decide (row.consumer = name ∧ row.state = .pending ∧ row.availableAt ≤ now) &&
    (row.lease.all fun lease => decide (lease.expires < now)) &&
    ((db.messages.find? row.messageId).any fun message => decide (message.topic = topic))

/-- When the message of a delivery was published. -/
def publishedAt (db : Database) (row : DeliveryRow) : Time :=
  ((db.messages.find? row.messageId).map (·.publishedAt)).getD 0

/-- `picked`: the oldest claimable deliveries that are not skipped. -/
def picked (db : Database) (name topic : String) (now : Time) (batchSize : ℕ)
    (skip : DeliveryRow → Bool) : List MessageId :=
  (((db.deliveries.rows.filter fun row => claimable db name topic now row && !skip row).mergeSort
    fun a b => decide (publishedAt db a ≤ publishedAt db b)).take batchSize).map (·.messageId)

/-- Lease the picked deliveries. -/
def lease (deliveries : Table DeliveryRow.key) (name : String) (now duration : Time)
    (ids : List MessageId) (tokens : MessageId → LeaseToken) : Table DeliveryRow.key :=
  deliveries.updateWhere (fun row => decide (row.messageId ∈ ids ∧ row.consumer = name))
    (fun row => { row with
      lease := some ⟨tokens row.messageId, now + duration⟩
      attemptCount := row.attemptCount + 1
      lastAttemptAt := some now })

/-- A row that the claim returns. -/
structure Claimed where
  messageId : MessageId
  attemptCount : ℕ
  leaseToken : LeaseToken
deriving DecidableEq, Repr

/-- The `RETURNING` clause, on the leased table. -/
def returning (deliveries : Table DeliveryRow.key) (name : String) (ids : List MessageId)
    (tokens : MessageId → LeaseToken) : List Claimed :=
  (deliveries.rows.filter fun row => decide (row.messageId ∈ ids ∧ row.consumer = name)).map
    fun row => ⟨row.messageId, row.attemptCount, tokens row.messageId⟩

/-- The claimed messages in order of publication, each with its claim. -/
def claimedMessages (db : Database) (claimed : List Claimed) : List (MessageRow × Claimed) :=
  ((db.messages.rows.filter fun m => (claimed.map (·.messageId)).contains m.id).mergeSort
    fun a b => decide (a.publishedAt ≤ b.publishedAt)).filterMap fun m =>
      (claimed.find? fun c => decide (c.messageId = m.id)).map (m, ·)

/-- An `i16` read as a `u16`. -/
def asU16 (n : ℤ) : ℕ := (n % 65536).toNat

/-- Decode a claimed message, or say why no retry would decode it. -/
def decode {M : Type} (T : MessageType M) (raw : MessageRow) : Except String M :=
  if T.schemaVersion < asU16 raw.schemaVersion then
    .error s!"message schema version {raw.schemaVersion} is newer than the {T.schemaVersion} this binary supports"
  else
    match T.fromValue raw.payload with
    | .ok message => .ok message
    | .error error => .error s!"payload does not decode: {error}"

/-- The delivery that `claim` pushes for a decoded message. -/
def Claimed.delivery {M : Type} (c : Claimed) (raw : MessageRow) (message : M) : Delivery M where
  messageId := raw.id
  message := message
  kind := raw.kind
  correlationId := raw.correlationId
  publishedAt := raw.publishedAt
  attempt := c.attemptCount
  leaseToken := c.leaseToken

/-! ### Statements under a lease -/

/-- The `WHERE` clause of every statement that names a lease. -/
def holds (name : String) (messageId : MessageId) (token : LeaseToken) (row : DeliveryRow) : Bool :=
  decide (row.messageId = messageId ∧ row.consumer = name ∧
    row.lease.map (·.token) = some token ∧ row.state = .pending)

/-- `Consumer::ack`, in the handler's transaction. -/
def ack (deliveries : Table DeliveryRow.key) (now : Time) (name : String) (messageId : MessageId)
    (token : LeaseToken) : Except BusError (Table DeliveryRow.key) :=
  if (deliveries.rows.filter (holds name messageId token)).length = 1 then
    .ok (deliveries.updateWhere (holds name messageId token)
      (fun row => { row with state := .done, doneAt := some now, lease := none, lastError := none }))
  else .error (.leaseLost messageId name)

/-- `Consumer::park_dead`. -/
def parkDead (deliveries : Table DeliveryRow.key) (name : String) (messageId : MessageId)
    (token : LeaseToken) (error : String) : Table DeliveryRow.key :=
  deliveries.updateWhere (holds name messageId token)
    (fun row => { row with state := .dead, lease := none, lastError := some error })

/-- What a failed attempt became. -/
inductive Disposition
  | retry (availableAt : Time)
  | dead
deriving DecidableEq, Repr

/-- `Consumer::fail`: reschedule after `delay`, or park after the last allowed attempt or on a
permanent error. -/
def fail {M : Type} (deliveries : Table DeliveryRow.key) (now delay : Time) (consumer : Consumer M)
    (delivery : Delivery M) (error : HandlerError) : Table DeliveryRow.key × Disposition :=
  if error.isPermanent || decide (consumer.options.maxAttempts ≤ delivery.attempt) then
    (parkDead deliveries consumer.name delivery.messageId delivery.leaseToken error.text, .dead)
  else
    (deliveries.updateWhere (holds consumer.name delivery.messageId delivery.leaseToken)
      (fun row => { row with
        availableAt := now + delay
        lease := none
        lastError := some error.text }), .retry (now + delay))

/-- `Consumer::retry_dead`. -/
def retryDead (deliveries : Table DeliveryRow.key) (now : Time) (name : String)
    (messageId : MessageId) : Table DeliveryRow.key :=
  deliveries.updateWhere
    (fun row => decide (row.messageId = messageId ∧ row.consumer = name ∧ row.state = .dead))
    (fun row => { row with
      state := .pending
      attemptCount := 0
      availableAt := now
      lastError := none })

/-! ### What the statements do to the rows -/

lemma holds_eq_true {name : String} {messageId : MessageId} {token : LeaseToken}
    {row : DeliveryRow} : holds name messageId token row = true ↔ row.key = (messageId, name) ∧
      (∃ lease, row.lease = some lease ∧ lease.token = token) ∧ row.state = .pending := by
  unfold holds DeliveryRow.key
  simp only [decide_eq_true_eq, Option.map_eq_some_iff, Prod.mk.injEq]
  tauto

/-- A delivery that no row holds under the token cannot be acknowledged. -/
lemma ack_of_lost {deliveries : Table DeliveryRow.key} {name : String} {messageId : MessageId}
    {token : LeaseToken} (h : ∀ row ∈ deliveries.rows, holds name messageId token row = false)
    (now : Time) :
    ack deliveries now name messageId token = .error (.leaseLost messageId name) := by
  have hnone : deliveries.rows.filter (holds name messageId token) = [] := by
    rw [List.filter_eq_nil_iff]
    intro row hrow
    simp [h row hrow]
  simp [ack, hnone]

/-- An acknowledged delivery was held under the token. -/
lemma holds_of_ack {deliveries t : Table DeliveryRow.key} {name : String} {messageId : MessageId}
    {token : LeaseToken} {now : Time} (h : ack deliveries now name messageId token = .ok t) :
    ∃ row ∈ deliveries.rows, holds name messageId token row = true := by
  by_contra hno
  push Not at hno
  have hlost := ack_of_lost (fun row hrow => by simpa using hno row hrow) now
  rw [hlost] at h
  cases h

/-- A delivery that is held under the token is acknowledged. -/
lemma ack_of_holds {deliveries : Table DeliveryRow.key} {name : String} {messageId : MessageId}
    {token : LeaseToken} {row : DeliveryRow} (hrow : row ∈ deliveries.rows)
    (h : holds name messageId token row = true) (now : Time) :
    ack deliveries now name messageId token =
      .ok (deliveries.updateWhere (holds name messageId token) (fun row => { row with
        state := .done, doneAt := some now, lease := none, lastError := none })) := by
  have hkey : ∀ row' ∈ deliveries.rows, holds name messageId token row' = true →
      row'.key = row.key := by
    intro row' _ h'
    rw [(holds_eq_true.1 h).1, (holds_eq_true.1 h').1]
  simp [ack, Table.filter_eq_singleton hrow h hkey]

/-- A failure rewrites the row that is held under the token, and takes the lease away. -/
lemma fail_rows {M : Type} (deliveries : Table DeliveryRow.key) (now delay : Time)
    (consumer : Consumer M) (delivery : Delivery M) (error : HandlerError) :
    ∃ (f : DeliveryRow → DeliveryRow) (hf : ∀ row, (f row).key = row.key),
      (∀ row, (f row).lease = none) ∧ (fail deliveries now delay consumer delivery error).1 =
        deliveries.updateWhere (holds consumer.name delivery.messageId delivery.leaseToken) f hf := by
  unfold fail
  split
  · exact ⟨fun row => { row with state := .dead, lease := none, lastError := some error.text },
      fun _ => rfl, fun _ => rfl, rfl⟩
  · exact ⟨fun row => { row with
        availableAt := now + delay, lease := none, lastError := some error.text },
      fun _ => rfl, fun _ => rfl, rfl⟩

/-- A row after a claim is leased by it, or as it was. -/
lemma mem_rows_lease {deliveries : Table DeliveryRow.key} {name : String} {now duration : Time}
    {ids : List MessageId} {tokens : MessageId → LeaseToken} {row : DeliveryRow}
    (h : row ∈ (lease deliveries name now duration ids tokens).rows) :
    (row.messageId ∈ ids ∧ row.consumer = name ∧
      row.lease = some ⟨tokens row.messageId, now + duration⟩ ∧
      ∃ row₀ ∈ deliveries.rows, row₀.key = row.key ∧ row₀.state = row.state) ∨
    (row ∈ deliveries.rows ∧ ¬ (row.messageId ∈ ids ∧ row.consumer = name)) := by
  rcases Table.mem_updateWhere h with ⟨row₀, hrow₀, hp, rfl⟩ | ⟨hrow, hp⟩
  · have hp : row₀.messageId ∈ ids ∧ row₀.consumer = name := by simpa using hp
    exact Or.inl ⟨hp.1, hp.2, rfl, row₀, hrow₀, rfl, rfl⟩
  · exact Or.inr ⟨hrow, by simpa using hp⟩

/-- A picked delivery is pending, and was not skipped. -/
lemma mem_picked {db : Database} {name topic : String} {now : Time} {batchSize : ℕ}
    {skip : DeliveryRow → Bool} {id : MessageId}
    (h : id ∈ picked db name topic now batchSize skip) :
    ∃ row ∈ db.deliveries.rows, row.key = (id, name) ∧ row.state = .pending ∧ skip row = false := by
  obtain ⟨row, hrow, rfl⟩ := List.mem_map.1 h
  have hrow := List.mem_of_mem_take hrow
  rw [List.mem_mergeSort, List.mem_filter] at hrow
  obtain ⟨hmem, hc⟩ := hrow
  simp only [claimable, Bool.and_eq_true, decide_eq_true_eq, Bool.not_eq_true'] at hc
  obtain ⟨⟨⟨⟨hname, hstate, -⟩, -⟩, -⟩, hskip⟩ := hc
  exact ⟨row, hmem, by rw [DeliveryRow.key, hname], hstate, hskip⟩

/-- Publishing keeps the deliveries there are, and adds unleased pending ones. -/
lemma publish_rows {db db' : Database} {now : Time} {message : MessageRow}
    {outcome : PublishOutcome} (h : publish db now message = .ok (db', outcome)) :
    ∃ new, db'.deliveries.rows = db.deliveries.rows ++ new ∧ ∀ row ∈ new, row.lease = none := by
  have hfan : ∀ (subs : List (String × String)) (t t' : Table DeliveryRow.key),
      subs.foldlM (fun t s => t.insert? (newDelivery now message.id s.1)) t = some t' →
        ∃ new, t'.rows = t.rows ++ new ∧ ∀ row ∈ new, row.lease = none := by
    intro subs
    induction subs with
    | nil =>
      intro t t' ht
      cases ht
      exact ⟨[], by simp, by simp⟩
    | cons s rest ih =>
      intro t t' ht
      rw [List.foldlM_cons, Option.bind_eq_bind, Option.bind_eq_some_iff] at ht
      obtain ⟨t₁, h₁, ht⟩ := ht
      obtain ⟨-, hrows⟩ := Table.insert?_eq_some_iff.1 h₁
      obtain ⟨new, hnew, hnone⟩ := ih t₁ t' ht
      refine ⟨newDelivery now message.id s.1 :: new, by rw [hnew, hrows]; simp, ?_⟩
      intro row hrow
      rcases List.mem_cons.1 hrow with rfl | hrow
      · rfl
      · exact hnone row hrow
  unfold publish at h
  split at h
  · split at h
    · cases h
      exact ⟨[], by simp, by simp⟩
    · cases h
  · split at h
    · rename_i messages deliveries _ hout
      cases h
      exact hfan _ _ _ hout
    · cases h

end Payday.Bus
