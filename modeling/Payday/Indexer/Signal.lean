/-
# The transfer signal

`gum-indexer/src/signal.rs`: one session of the WebSocket subscriptions that wake the indexer.
A session holds one subscription for each chunk of the watch list.  When the list changes it
keeps the subscriptions of the chunks that are still there, subscribes the others, and then
unsubscribes what is left of the old ones.  Each subscription has a task that forwards its stream
into the session's channel and sends `Ended` when the stream ends; the task of a chunk that was
replaced may still have one on its way.
-/
import Mathlib.Data.List.Basic
import Mathlib.Data.List.Infix
import Payday.Ledger.Schema

namespace Payday

/-! ### Notifications -/

/-- Node-side commit state of a `monadLogs` notification. -/
inductive CommitState
  | proposed
  | voted
  | finalized
  | verified
  | unknown
deriving DecidableEq, Repr

structure SignalLog where
  blockNumber : Option ℕ
  commitState : Option CommitState
  removed : Bool
deriving DecidableEq, Repr

/-- The block to wake the indexer for. -/
def SignalLog.wakeBlock (log : SignalLog) : Option ℕ :=
  if log.removed then none
  else match log.commitState with
    | none | some .finalized | some .verified => log.blockNumber
    | some .proposed | some .voted | some .unknown => none

inductive SubscriptionKind
  | monadLogs
  | logs
deriving DecidableEq, Repr

/-- `text.contains(part)`. -/
def containsText (text part : String) : Bool := decide (part.toList <:+: text.toList)

/-- Whether an `eth_subscribe` rejection means that the node does not know the kind. -/
def isUnsupportedSubscription (error : String) : Bool :=
  let error := error.toLower
  containsText error "-32601" || containsText error "method not found"
    || containsText error "invalid method" || containsText error "unknown method"
    || (containsText error "-32602"
      && (containsText error "unknown variant" || containsText error "did not match any variant"))

/-! ### The session -/

/-- Recipients per subscription. -/
def subscriptionChunk : ℕ := 500

/-- A chunk's forwarded notification, or the end of its stream, with the chunk's identity. -/
inductive ChunkMessage
  | log (log : SignalLog)
  | ended (id : Hash) (generation : ℕ)
deriving DecidableEq, Repr

structure ActiveChunk where
  addresses : List Address
  id : Hash
  generation : ℕ
  /-- The handle of the task: its place among the tasks the session spawned. -/
  task : ℕ
deriving DecidableEq, Repr

inductive SessionEnd
  | shutdown
  | failed (reason : String)
  | idle
deriving DecidableEq, Repr

/-- Does this termination belong to a chunk the session still holds? -/
def endingIsCurrent (chunks : List ActiveChunk) (id : Hash) (generation : ℕ) : Bool :=
  chunks.any fun chunk => decide (chunk.id = id ∧ chunk.generation = generation)

/-- What became of a subscription's stream. -/
inductive StreamState
  | live
  /-- The provider ended it on its own. -/
  | dropped
  /-- An unsubscription of its id ended it. -/
  | unsubscribed
deriving DecidableEq, Repr

/-- A forwarding task with its stream. -/
structure ForwardTask where
  id : Hash
  generation : ℕ
  stream : StreamState := .live
  aborted : Bool := false
  /-- Its `Ended` is in the channel, or was. -/
  sent : Bool := false
deriving DecidableEq, Repr

/-- A session, with the tasks it spawned and the channel they send into. -/
structure Session where
  kind : SubscriptionKind := .monadLogs
  list : List Address
  chunks : List ActiveChunk := []
  nextGeneration : ℕ
  tasks : List ForwardTask := []
  /-- The channel: who sent what. -/
  queue : List (ℕ × ChunkMessage) := []
  /-- The ids that were unsubscribed, in order. -/
  unsubscribed : List Hash := []
  /-- The highest block the indexer is woken for. -/
  target : ℕ := 0
  outcome : Option SessionEnd := none
deriving DecidableEq, Repr

/-- The settings of the signal. -/
structure TransferSignal where
  chainId : ChainId
  /-- The subscription's id: the hash of the request, of which only the kind and the recipients
  vary. -/
  subscriptionId : SubscriptionKind → List Address → Hash

/-- `unsubscribe(id)` ends every stream with the id. -/
def ForwardTask.unsubscribe (ids : List Hash) (task : ForwardTask) : ForwardTask :=
  if task.stream = .live ∧ task.id ∈ ids then { task with stream := .unsubscribed } else task

namespace Session

def wake (s : Session) (block : Option ℕ) : Session :=
  { s with target := max s.target (block.getD 0) }

/-- Abort the tasks of the chunks and unsubscribe their ids. -/
def discard (s : Session) (old : List ActiveChunk) : Session :=
  { s with
    tasks := (s.tasks.mapIdx fun i task =>
      if i ∈ old.map (·.task) then { task with aborted := true } else task).map
        (ForwardTask.unsubscribe (old.map (·.id)))
    unsubscribed := s.unsubscribed ++ old.map (·.id) }

end Session

namespace TransferSignal

variable (S : TransferSignal)

/-- Subscribe one chunk.  `answer n` is what the node says to the subscription of generation
`n`. -/
def subscribeChunk (answer : ℕ → Except String Unit) (chunk : List Address) (s : Session) :
    Session × Except String ActiveChunk :=
  match answer s.nextGeneration with
  | .error error => ({ s with nextGeneration := s.nextGeneration + 1 }, .error error)
  | .ok () =>
    ({ s with
        nextGeneration := s.nextGeneration + 1
        tasks := s.tasks ++ [{ id := S.subscriptionId s.kind chunk, generation := s.nextGeneration }] },
      .ok {
        addresses := chunk
        id := S.subscriptionId s.kind chunk
        generation := s.nextGeneration
        task := s.tasks.length })

/-- Subscribe one chunk, discovering on the session's first whether the node speaks
`monadLogs`. -/
def subscribeChunkDiscovering (answer : ℕ → Except String Unit) (chunk : List Address)
    (first : Bool) (s : Session) : Session × Except String ActiveChunk :=
  match S.subscribeChunk answer chunk s with
  | (s', .ok subscribed) => (s', .ok subscribed)
  | (s', .error error) =>
    if s'.kind = .monadLogs ∧ first = true ∧ isUnsupportedSubscription error = true then
      S.subscribeChunk answer chunk { s' with kind := .logs }
    else (s', .error error)

/-- Subscribe every chunk of the list. -/
def subscribeAll (answer : ℕ → Except String Unit) :
    List (List Address) → List ActiveChunk → Session → Except String (List ActiveChunk × Session)
  | [], active, s => .ok (active, s)
  | chunk :: rest, active, s =>
    match S.subscribeChunkDiscovering answer chunk active.isEmpty s with
    | (s', .ok subscribed) => subscribeAll answer rest (active ++ [subscribed]) s'
    | (_, .error error) => .error error

/-- The loop of a refresh over the chunks of the new list: a chunk the session holds is retained,
another one is subscribed.  It returns the old chunks that are left and the replacement.
`shutdown n` is the flag when `n` chunks follow. -/
def replaceChunks (answer : ℕ → Except String Unit) (shutdown : ℕ → Bool) :
    List (List Address) → Bool → List ActiveChunk → List ActiveChunk → Session →
      Except SessionEnd (List ActiveChunk × List ActiveChunk × Session)
  | [], _, old, replacement, s => .ok (old, replacement, s)
  | chunk :: rest, discover, old, replacement, s =>
    if shutdown rest.length then .error .shutdown
    else match old.find? (fun active => decide (active.addresses = chunk)) with
      | some retained =>
        replaceChunks answer shutdown rest discover
          (old.eraseP fun active => decide (active.addresses = chunk)) (replacement ++ [retained]) s
      | none =>
        match S.subscribeChunkDiscovering answer chunk discover s with
        | (s', .ok subscribed) =>
          replaceChunks answer shutdown rest false old (replacement ++ [subscribed]) s'
        | (_, .error error) => .error (.failed error)

/-- The session follows a change of the watch list.  `tip` is the block the provider is at after
the subscriptions, if it could be read. -/
def refresh (answer : ℕ → Except String Unit) (shutdown : ℕ → Bool) (tip : Option ℕ)
    (next : List Address) (s : Session) : Session :=
  if next = s.list then s
  else if next = [] then { s.discard s.chunks with outcome := some .idle }
  else match S.replaceChunks answer shutdown (next.toChunks subscriptionChunk) s.chunks.isEmpty
      s.chunks [] s with
    | .error ending => { s with outcome := some ending }
    | .ok (old, replacement, s') =>
      { (s'.discard old).wake tip with chunks := replacement, list := next }

/-- A session's start over a list.  `generation` counts the subscriptions of the process. -/
def establish (answer : ℕ → Except String Unit) (tip : Option ℕ) (generation : ℕ)
    (list : List Address) : Session :=
  match S.subscribeAll answer (list.toChunks subscriptionChunk) []
      { list := list, nextGeneration := generation } with
  | .error error => { list := list, nextGeneration := generation, outcome := some (.failed error) }
  | .ok (active, s) => { s.wake (if list = [] then none else tip) with chunks := active }

/-- What happens around a session. -/
inductive Event
  /-- The watch list changed. -/
  | watchList (next : List Address) (answer : ℕ → Except String Unit) (shutdown : ℕ → Bool)
    (tip : Option ℕ)
  /-- The provider ends a stream on its own. -/
  | drop (task : ℕ)
  /-- A task forwards a notification. -/
  | notify (task : ℕ) (log : SignalLog)
  /-- A task whose stream ended sends its `Ended`, an aborted one perhaps as well. -/
  | send (task : ℕ)
  /-- The session receives a message, any of those in the channel. -/
  | receive (i : ℕ)
  /-- The keepalive read `eth_chainId`. -/
  | keepalive (answer : Except String ℕ)
  | shutdown

/-- The session receives a message. -/
def receive (s : Session) (i : ℕ) : Session :=
  if s.chunks.isEmpty then s
  else match s.queue[i]? with
    | none => s
    | some (_, .log log) => { s.wake log.wakeBlock with queue := s.queue.eraseIdx i }
    | some (_, .ended id generation) =>
      if endingIsCurrent s.chunks id generation then
        { s with queue := s.queue.eraseIdx i, outcome := some (.failed "subscription stream ended") }
      else { s with queue := s.queue.eraseIdx i }

/-- A step of a running session. -/
def step (s : Session) : Event → Session
  | .watchList next answer shutdown tip => S.refresh answer shutdown tip next s
  | .drop task =>
    match s.tasks[task]? with
    | none => s
    | some t =>
      if t.stream = .live then { s with tasks := s.tasks.set task { t with stream := .dropped } }
      else s
  | .notify task log =>
    match s.tasks[task]? with
    | none => s
    | some t =>
      if t.stream = .live ∧ t.aborted = false then { s with queue := s.queue ++ [(task, .log log)] }
      else s
  | .send task =>
    match s.tasks[task]? with
    | none => s
    | some t =>
      if t.stream ≠ .live ∧ t.sent = false then
        { s with
          tasks := s.tasks.set task { t with sent := true }
          queue := s.queue ++ [(task, .ended t.id t.generation)] }
      else s
  | .receive i => receive s i
  | .keepalive (.ok id) =>
    if id = S.chainId then s
    else { s with outcome := some (.failed s!"websocket endpoint now serves chain {id}, expected {S.chainId}") }
  | .keepalive (.error error) => { s with outcome := some (.failed error) }
  | .shutdown => { s with outcome := some .shutdown }

/-- A session that ended does nothing any more. -/
def run (events : List Event) (s : Session) : Session :=
  events.foldl (fun s e => if s.outcome.isSome then s else S.step s e) s

end TransferSignal

end Payday
