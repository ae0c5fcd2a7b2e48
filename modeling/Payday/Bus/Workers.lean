/-
# Consumer workers

Any number of workers share the bus.  A worker claims a batch, decodes it, and takes the
deliveries one by one: the handler's writes and the acknowledgement are one transaction, and a
failure is recorded by a statement of its own.  The acknowledgement locks the delivery's row until
the transaction ends; a claim skips a locked row and any other statement that qualifies for it
waits.  A worker can stop at any point, a lease can run out at any point, and the answer to a
commit can be lost.
-/
import Mathlib.Logic.Relation
import Payday.Bus.Deliveries

namespace Payday.Bus

/-- What a handler wrote in its transaction. -/
structure Writes (W : Type) where
  changes : W
  /-- The messages it published. -/
  published : List MessageRow

/-- Where `handle_batch` is. -/
inductive WorkerState (M W : Type)
  | idle
  /-- `claim` is going through the messages of its batch. -/
  | decoding (raws : List (MessageRow × Claimed)) (batch : List (Delivery M))
  | batch (rest : List (Delivery M))
  /-- The handler returned, its transaction is open. -/
  | handled (delivery : Delivery M) (writes : Writes W) (rest : List (Delivery M))
  /-- The acknowledgement has run in the open transaction. -/
  | acked (delivery : Delivery M) (writes : Writes W) (rest : List (Delivery M))
  /-- The transaction did not commit, as far as the worker knows. -/
  | failed (delivery : Delivery M) (error : HandlerError) (rest : List (Delivery M))

structure System (M W : Type) where
  db : Database
  workers : ℕ → WorkerState M W
  /-- Every lease that was ever given, in order. -/
  claims : List ((MessageId × String) × LeaseToken)
  /-- The handler writes that were committed, in order. -/
  effects : List ((MessageId × String) × W)

/-- Publish one message after the other. -/
def publishAll (db : Database) (now : Time) : List MessageRow → Except BusError Database
  | [] => .ok db
  | message :: rest =>
    match publish db now message with
    | .ok (db', _) => publishAll db' now rest
    | .error error => .error error

namespace System

variable {M W : Type}

/-- A bus without messages. -/
def start : System M W where
  db := Database.empty
  workers := fun _ => .idle
  claims := []
  effects := []

def setWorker (s : System M W) (w : ℕ) (state : WorkerState M W) : System M W :=
  { s with workers := Function.update s.workers w state }

def setDeliveries (s : System M W) (deliveries : Table DeliveryRow.key) : System M W :=
  { s with db := { s.db with deliveries := deliveries } }

variable (C : ℕ → Consumer M)

/-- The primary key of the delivery that worker `w` works on. -/
def key (w : ℕ) (delivery : Delivery M) : MessageId × String := (delivery.messageId, (C w).name)

/-- Worker `w` holds the lock of the delivery's row. -/
def Locks (s : System M W) (w : ℕ) (k : MessageId × String) : Prop :=
  ∃ delivery writes rest, s.workers w = .acked delivery writes rest ∧ key C w delivery = k

/-- A statement of worker `w` under the lease need not wait: no other worker has locked a row
that qualifies. -/
def Free (s : System M W) (w : ℕ) (messageId : MessageId) (token : LeaseToken) : Prop :=
  ∀ row ∈ s.db.deliveries.rows, holds (C w).name messageId token row = true →
    ∀ w', ¬ s.Locks C w' row.key

/-- One step of the system. -/
inductive Step (s : System M W) : System M W → Prop
  /-- A producer's transaction. -/
  | publish (now : Time) (message : MessageRow) (db : Database) (outcome : PublishOutcome)
      (h : publish s.db now message = .ok (db, outcome)) : Step s { s with db := db }
  /-- The claim's statement.  It skips the locked rows, and those that its snapshot does not
  show; `gen_random_uuid()` never gives a token twice. -/
  | claim (w : ℕ) (now : Time) (skip : DeliveryRow → Bool) (tokens : MessageId → LeaseToken)
      (ids : List MessageId) (t : Table DeliveryRow.key)
      (h : s.workers w = .idle) (locked : ∀ row w', s.Locks C w' row.key → skip row = true)
      (hids : ids = picked s.db (C w).name (C w).messageType.topic now (C w).options.batchSize skip)
      (new : ∀ id ∈ ids, tokens id ∉ s.claims.map Prod.snd) (distinct : (ids.map tokens).Nodup)
      (ht : t = lease s.db.deliveries (C w).name now (C w).options.lease ids tokens) :
      Step s { s.setDeliveries t with
        workers := Function.update s.workers w
          (.decoding (claimedMessages s.db (returning t (C w).name ids tokens)) [])
        claims := s.claims ++ ids.map (fun id => ((id, (C w).name), tokens id)) }
  | decode (w : ℕ) (raw : MessageRow) (c : Claimed) (raws : List (MessageRow × Claimed))
      (batch : List (Delivery M)) (message : M) (h : s.workers w = .decoding ((raw, c) :: raws) batch)
      (hdecode : decode (C w).messageType raw = .ok message) :
      Step s (s.setWorker w (.decoding raws (batch ++ [c.delivery raw message])))
  /-- The payload is not for this binary: `park_dead`. -/
  | refuse (w : ℕ) (raw : MessageRow) (c : Claimed) (raws : List (MessageRow × Claimed))
      (batch : List (Delivery M)) (reason : String)
      (h : s.workers w = .decoding ((raw, c) :: raws) batch)
      (hdecode : decode (C w).messageType raw = .error reason) (free : s.Free C w raw.id c.leaseToken) :
      Step s ((s.setDeliveries (parkDead s.db.deliveries (C w).name raw.id c.leaseToken reason)).setWorker
        w (.decoding raws batch))
  | decoded (w : ℕ) (batch : List (Delivery M)) (h : s.workers w = .decoding [] batch) :
      Step s (s.setWorker w (.batch batch))
  | handle (w : ℕ) (delivery : Delivery M) (writes : Writes W) (rest : List (Delivery M))
      (h : s.workers w = .batch (delivery :: rest)) : Step s (s.setWorker w (.handled delivery writes rest))
  /-- The transaction could not be opened, or the handler returned an error. -/
  | handleFailed (w : ℕ) (delivery : Delivery M) (error : HandlerError) (rest : List (Delivery M))
      (h : s.workers w = .batch (delivery :: rest)) : Step s (s.setWorker w (.failed delivery error rest))
  | ack (w : ℕ) (now : Time) (delivery : Delivery M) (writes : Writes W) (rest : List (Delivery M))
      (t : Table DeliveryRow.key) (h : s.workers w = .handled delivery writes rest)
      (free : s.Free C w delivery.messageId delivery.leaseToken)
      (hack : ack s.db.deliveries now (C w).name delivery.messageId delivery.leaseToken = .ok t) :
      Step s (s.setWorker w (.acked delivery writes rest))
  | ackLost (w : ℕ) (now : Time) (delivery : Delivery M) (writes : Writes W)
      (rest : List (Delivery M)) (error : BusError) (h : s.workers w = .handled delivery writes rest)
      (hack : ack s.db.deliveries now (C w).name delivery.messageId delivery.leaseToken = .error error) :
      Step s (s.setWorker w (.failed delivery error.toHandlerError rest))
  /-- A database error before the commit: the transaction is rolled back. -/
  | rollback (w : ℕ) (delivery : Delivery M) (writes : Writes W) (error : String)
      (rest : List (Delivery M))
      (h : s.workers w = .handled delivery writes rest ∨ s.workers w = .acked delivery writes rest) :
      Step s (s.setWorker w (.failed delivery (.retryable error) rest))
  /-- The commit.  The worker goes on, or does not hear of it and takes it for a failure. -/
  | commit (w : ℕ) (now : Time) (delivery : Delivery M) (writes : Writes W)
      (rest : List (Delivery M)) (t : Table DeliveryRow.key) (db : Database) (next : WorkerState M W)
      (h : s.workers w = .acked delivery writes rest)
      (hack : ack s.db.deliveries now (C w).name delivery.messageId delivery.leaseToken = .ok t)
      (hpublish : publishAll { s.db with deliveries := t } now writes.published = .ok db)
      (hnext : next = .batch rest ∨ ∃ error, next = .failed delivery (.retryable error) rest) :
      Step s { s with
        db := db
        workers := Function.update s.workers w next
        effects := s.effects ++ [(key C w delivery, writes.changes)] }
  | fail (w : ℕ) (now delay : Time) (delivery : Delivery M) (error : HandlerError)
      (rest : List (Delivery M)) (h : s.workers w = .failed delivery error rest)
      (free : s.Free C w delivery.messageId delivery.leaseToken) :
      Step s ((s.setDeliveries (fail s.db.deliveries now delay (C w) delivery error).1).setWorker w
        (.batch rest))
  /-- The failure could not be recorded. -/
  | failLost (w : ℕ) (delivery : Delivery M) (error : HandlerError) (rest : List (Delivery M))
      (h : s.workers w = .failed delivery error rest) : Step s (s.setWorker w (.batch rest))
  | finish (w : ℕ) (h : s.workers w = .batch []) : Step s (s.setWorker w .idle)
  /-- The worker stops, and its open transaction is rolled back. -/
  | crash (w : ℕ) : Step s (s.setWorker w .idle)
  /-- An operator returns a dead delivery to the queue. -/
  | retryDead (now : Time) (name : String) (messageId : MessageId) :
      Step s (s.setDeliveries (retryDead s.db.deliveries now name messageId))

/-- The states of all runs. -/
def Reachable (s : System M W) : Prop := Relation.ReflTransGen (Step C) start s

/-- The token of the last lease that was given on a delivery. -/
def latest (claims : List ((MessageId × String) × LeaseToken)) (k : MessageId × String) :
    Option LeaseToken :=
  ((claims.filter fun c => decide (c.1 = k)).getLast?).map Prod.snd

/-- The delivery was claimed again after the lease with this token was given. -/
def TakenOver (s : System M W) (k : MessageId × String) (token : LeaseToken) : Prop :=
  ∃ before after, s.claims = before ++ (k, token) :: after ∧ ∃ c ∈ after, c.1 = k

end System

end Payday.Bus
