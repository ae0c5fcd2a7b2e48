/-
# Passes of the chain's executors

A pass reads the open slots and reconciles them one after the other; then it reads the queue and
the busy signers and starts jobs on the free ones, several at a time.  Between two commits an
executor only has what it read and what it computed, and a crash loses it.  Any number of executors
can run passes on the same chain.  The chain answers what it likes, a statement or a call to the
node can fail, and a commit either is known to have happened or did not happen.
-/
import Mathlib.Logic.Relation
import Mathlib.Data.List.Perm.Basic
import Payday.Signers.Executor

namespace Payday.Signers

open ChainWorker (minedOf)

/-- What a reconcile, or a start, does next. -/
inductive Task
  | reconcile (t : OpenTransaction)
  | recordMined (t : OpenTransaction) (txHash : Hash) (receipt : Receipt)
  | onMined (t : OpenTransaction) (txHash : Hash) (receipt : Receipt)
  | clearMined (t : OpenTransaction)
  | resolve (t : OpenTransaction) (conclusion : Conclusion) (state : TxState) (event : ExecutionEvent)
  | reportStall (t : OpenTransaction) (resend : Option Attempt)
  | insertAttempt (t : OpenTransaction) (attempt : Attempt)
  /-- The replacement is stored, the slot's clock not yet restarted. -/
  | touch (t : OpenTransaction) (attempt : Attempt)
  | broadcast (t : OpenTransaction) (attempt : Attempt)
  /-- The bytes have left. -/
  | markBroadcast (t : OpenTransaction) (attempt : Attempt)
  | start (job : Job) (lane : List Address)
  /-- `conclude_step`. -/
  | conclude (job : Job) (event : ExecutionEvent) (lane : List Address)
  | beginTransaction (job : Job) (new : Execution.NewTransaction) (rest : List Address)
  /-- `try_start` returned an error. -/
  | fail (job : Job) (error : ExecutorError) (lane : List Address)
  | deferJob (job : Job) (error : String) (lane : List Address)
  /-- `reject_job`. -/
  | rejectJob (job : Job) (event : ExecutionEvent) (lane : List Address)

/-- What comes after a step of a task. -/
inductive Next
  | go (task : Task)
  /-- The task ended; a signer it had stays out of this pass. -/
  | finished
  /-- `Resolved` or `Deferred`: the lane's signers can take another job. -/
  | released (lane : List Address)
  /-- `NoSigner`. -/
  | returned (job : Job)

namespace ChainWorker

variable (W : ChainWorker)

/-- The task that carries out what `reconcile` decided. -/
def Action.next (t : OpenTransaction) : Action → Next
  | wait => .finished
  | onMined txHash receipt =>
    if t.slot.mined = some (minedOf txHash receipt) then .go (.onMined t txHash receipt)
    else .go (.recordMined t txHash receipt)
  | broadcast attempt => .go (.broadcast t attempt)
  | reportStall resend => .go (.reportStall t resend)
  | replace attempt => .go (.insertAttempt t attempt)
  | resolve conclusion state event => .go (.resolve t conclusion state event)

/-- The task that carries out what `on_mined` decided. -/
def Finality.next (t : OpenTransaction) : Finality → Next
  | wait => .finished
  | clear => .go (.clearMined t)
  | resolve conclusion state event => .go (.resolve t conclusion state event)

/-- The task that carries out what `try_start` decided. -/
def StartAction.next (job : Job) (lane : List Address) : StartAction → Next
  | conclude event => .go (.conclude job event lane)
  | noSigner => .returned job
  | beginTx new rest => .go (.beginTransaction job new rest)

/-- The task that carries out what `start` makes of an error. -/
def Failure.next (job : Job) (lane : List Address) : Failure → Next
  | defer error => .go (.deferJob job error lane)
  | reject event => .go (.rejectJob job event lane)

/-- After a stall was reported: resend the newest attempt, or leave the lane. -/
def resendNext (t : OpenTransaction) : Option Attempt → Next
  | some attempt => .go (.broadcast t attempt)
  | none => .finished

/-- `resolve`: the slot, the job and the event in one transaction. -/
def resolveSlot (db : Execution) (now : Time) (t : OpenTransaction) (conclusion : Conclusion)
    (state : TxState) (event : ExecutionEvent) : Except ExecutorError Execution :=
  (db.resolveTransaction t.slot.id state).concludeJob now t.job.id conclusion event .reconciling

/-- `report_stall`, when the stall was not reported yet. -/
def reportStall (db : Execution) (now : Time) (t : OpenTransaction) : Except ExecutorError Execution :=
  match db.publish (.executionStalled t.job.id W.config.chainId t.slot.signer t.attempts.length)
      .reconciling with
  | .error e => .error e
  | .ok db' => .ok (db'.markStallReported now t.slot.id)

/-- What `broadcast` commits once the bytes have left: a sweep's first submission is published. -/
def recordBroadcast (db : Execution) (now : Time) (t : OpenTransaction) (attempt : Attempt) :
    Except ExecutorError Execution :=
  let db' := db.markBroadcast now t.slot.id attempt.replacementNumber
  match attempt.broadcastAt, t.job.command with
  | none, .sweepBatch _ =>
    db'.publish (.sweepSubmitted t.job.id W.config.chainId t.slot.signer t.slot.nonce attempt.txHash
      attempt.replacementNumber) .reconciling
  | _, _ => .ok db'

/-- One step of a task: a decision, a commit or a broadcast. -/
inductive TaskStep (db : Execution) (sent : List SignedTransaction) :
    Task → Execution → List SignedTransaction → Next → Prop
  | reconcile (t : OpenTransaction) (newest : Attempt) (answers : Answers) (now : Time)
      (action : Action) (hnode : W.node answers) (hnewest : t.attempts.getLast? = some newest)
      (h : W.reconcile answers now t newest = .ok action) :
      TaskStep db sent (.reconcile t) db sent (action.next t)
  | recordMined (t : OpenTransaction) (txHash : Hash) (receipt : Receipt) :
      TaskStep db sent (.recordMined t txHash receipt)
        (db.recordMined t.slot.id (minedOf txHash receipt)) sent (.go (.onMined t txHash receipt))
  | onMined (t : OpenTransaction) (txHash : Hash) (receipt : Receipt) (answers : Answers)
      (finality : Finality) (hnode : W.node answers)
      (h : W.onMined answers t txHash receipt = .ok finality) :
      TaskStep db sent (.onMined t txHash receipt) db sent (finality.next t)
  | clearMined (t : OpenTransaction) :
      TaskStep db sent (.clearMined t) (db.clearMined t.slot.id) sent .finished
  | resolve (t : OpenTransaction) (conclusion : Conclusion) (state : TxState) (event : ExecutionEvent)
      (now : Time) (db' : Execution) (h : resolveSlot db now t conclusion state event = .ok db') :
      TaskStep db sent (.resolve t conclusion state event) db' sent .finished
  | reportStall (t : OpenTransaction) (resend : Option Attempt) (now : Time) (db' : Execution)
      (new : t.slot.stallReportedAt = none) (h : W.reportStall db now t = .ok db') :
      TaskStep db sent (.reportStall t resend) db' sent (resendNext t resend)
  | stallReported (t : OpenTransaction) (resend : Option Attempt) (old : t.slot.stallReportedAt ≠ none) :
      TaskStep db sent (.reportStall t resend) db sent (resendNext t resend)
  | insertAttempt (t : OpenTransaction) (attempt : Attempt) (db' : Execution)
      (h : db.insertAttemptRow t.slot.id attempt = .ok db') :
      TaskStep db sent (.insertAttempt t attempt) db' sent (.go (.touch t attempt))
  | touch (t : OpenTransaction) (attempt : Attempt) (now : Time) :
      TaskStep db sent (.touch t attempt) (db.touch now t.slot.id) sent (.go (.broadcast t attempt))
  | broadcast (t : OpenTransaction) (attempt : Attempt) :
      TaskStep db sent (.broadcast t attempt) db (sent ++ [attempt.rawTransaction])
        (.go (.markBroadcast t attempt))
  /-- The node answered with an error, or its answer was lost; the bytes may have left. -/
  | broadcastUncertain (t : OpenTransaction) (attempt : Attempt) :
      TaskStep db sent (.broadcast t attempt) db (sent ++ [attempt.rawTransaction]) .finished
  | markBroadcast (t : OpenTransaction) (attempt : Attempt) (now : Time) (db' : Execution)
      (h : W.recordBroadcast db now t attempt = .ok db') :
      TaskStep db sent (.markBroadcast t attempt) db' sent .finished
  | start (job : Job) (lane : List Address) (answers : Answers) (seconds : ℕ) (action : StartAction)
      (hnode : W.node answers) (h : W.tryStart answers seconds job lane = .ok action) :
      TaskStep db sent (.start job lane) db sent (action.next job lane)
  | startFailed (job : Job) (lane : List Address) (answers : Answers) (seconds : ℕ)
      (error : ExecutorError) (hnode : W.node answers)
      (h : W.tryStart answers seconds job lane = .error error) :
      TaskStep db sent (.start job lane) db sent (.go (.fail job error lane))
  | conclude (job : Job) (event : ExecutionEvent) (lane : List Address) (now : Time) (db' : Execution)
      (h : db.concludeJob now job.id .finalized event .starting = .ok db') :
      TaskStep db sent (.conclude job event lane) db' sent (.released lane)
  | concludeFailed (job : Job) (event : ExecutionEvent) (lane : List Address) (error : ExecutorError) :
      TaskStep db sent (.conclude job event lane) db sent (.go (.fail job error lane))
  | beginTransaction (job : Job) (new : Execution.NewTransaction) (rest : List Address) (now : Time)
      (id : TransactionId) (db' : Execution) (h : db.beginTransaction now id new = .ok db') :
      TaskStep db sent (.beginTransaction job new rest) db' sent
        (.go (.broadcast ⟨new.slot now id, job, [new.attempt]⟩ new.attempt))
  | beginFailed (job : Job) (new : Execution.NewTransaction) (rest : List Address)
      (error : ExecutorError) :
      TaskStep db sent (.beginTransaction job new rest) db sent
        (.go (.fail job error (new.signer :: rest)))
  | fail (job : Job) (error : ExecutorError) (lane : List Address) :
      TaskStep db sent (.fail job error lane) db sent ((W.onError job error).next job lane)
  | deferJob (job : Job) (error : String) (lane : List Address) (nextAttemptAt : Time)
      (db' : Execution) (h : db.deferJob job.id nextAttemptAt error = .ok db') :
      TaskStep db sent (.deferJob job error lane) db' sent (.released lane)
  | rejectJob (job : Job) (event : ExecutionEvent) (lane : List Address) (now : Time) (db' : Execution)
      (h : db.concludeJob now job.id .abandoned event .starting = .ok db') :
      TaskStep db sent (.rejectJob job event lane) db' sent (.released lane)
  /-- A call or a statement fails, and the task ends with the error. -/
  | stop (task : Task) : TaskStep db sent task db sent .finished

end ChainWorker

/-- Where a pass is. -/
inductive Pass
  | idle
  | reconciling (task : Option Task) (rest : List OpenTransaction)
  /-- The queue is read, the busy signers not yet. -/
  | queued (jobs : List Job)
  | starting (pending : List Job) (free : List Address) (running : List Task)
  /-- Every lane is taken; jobs that conclude without a signer still conclude. -/
  | draining (task : Option Task) (rest : List Job)

/-- A pass that reconciles, after a step of its task. -/
def Pass.reconciled (rest : List OpenTransaction) : Next → Pass
  | .go task => .reconciling (some task) rest
  | _ => .reconciling none rest

/-- A pass that starts jobs, after a step of one of its tasks. -/
def Pass.started (pending : List Job) (free : List Address) (before after : List Task) : Next → Pass
  | .go task => .starting pending free (before ++ task :: after)
  | .finished => .starting pending free (before ++ after)
  | .released lane => .starting pending (free ++ lane) (before ++ after)
  | .returned job => .starting (job :: pending) free (before ++ after)

/-- A pass without free signers, after a step of its task. -/
def Pass.drained (rest : List Job) : Next → Pass
  | .go task => .draining (some task) rest
  | _ => .draining none rest

structure Fleet where
  db : Execution
  /-- The bytes that were handed to a node, in order. -/
  sent : List SignedTransaction
  passes : ℕ → Pass

namespace Fleet

/-- Nothing was accepted yet. -/
def start : Fleet := ⟨Execution.empty, [], fun _ => .idle⟩

def setPass (f : Fleet) (w : ℕ) (pass : Pass) : Fleet :=
  { f with passes := Function.update f.passes w pass }

variable (W : ChainWorker)

/-- One step of executor `w`. -/
inductive WorkerStep (w : ℕ) (f : Fleet) : Fleet → Prop
  | openTransactions (h : f.passes w = .idle) :
      WorkerStep w f (f.setPass w (.reconciling none (f.db.openTransactions W.config.chainId)))
  | nextSlot (t : OpenTransaction) (rest : List OpenTransaction)
      (h : f.passes w = .reconciling none (t :: rest)) :
      WorkerStep w f (f.setPass w (.reconciling (some (.reconcile t)) rest))
  | reconcile (task : Task) (rest : List OpenTransaction) (db : Execution)
      (sent : List SignedTransaction) (next : Next)
      (h : f.passes w = .reconciling (some task) rest)
      (hstep : W.TaskStep f.db f.sent task db sent next) :
      WorkerStep w f ⟨db, sent, Function.update f.passes w (.reconciled rest next)⟩
  | queuedJobs (now : Time) (h : f.passes w = .reconciling none []) :
      WorkerStep w f (f.setPass w (.queued (f.db.queuedJobs now W.config.chainId)))
  /-- The signers without an open lane, in any order of their balances. -/
  | busySigners (jobs : List Job) (free : List Address) (h : f.passes w = .queued jobs)
      (hfree : free.Perm (W.signers.filter fun signer =>
        !(f.db.busySigners W.config.chainId).contains signer)) :
      WorkerStep w f (f.setPass w (.starting jobs free []))
  | fill (job : Job) (pending : List Job) (signer : Address) (free : List Address)
      (running : List Task) (h : f.passes w = .starting (job :: pending) (signer :: free) running) :
      WorkerStep w f (f.setPass w (.starting pending free (running ++ [.start job [signer]])))
  | run (pending : List Job) (free : List Address) (before after : List Task) (task : Task)
      (db : Execution) (sent : List SignedTransaction) (next : Next)
      (h : f.passes w = .starting pending free (before ++ task :: after))
      (hstep : W.TaskStep f.db f.sent task db sent next) :
      WorkerStep w f ⟨db, sent, Function.update f.passes w (.started pending free before after next)⟩
  | drain (pending : List Job) (free : List Address) (h : f.passes w = .starting pending free [])
      (idle : pending = [] ∨ free = []) : WorkerStep w f (f.setPass w (.draining none pending))
  | nextJob (job : Job) (rest : List Job) (h : f.passes w = .draining none (job :: rest)) :
      WorkerStep w f (f.setPass w (.draining (some (.start job [])) rest))
  | runDrained (task : Task) (rest : List Job) (db : Execution) (sent : List SignedTransaction)
      (next : Next) (h : f.passes w = .draining (some task) rest)
      (hstep : W.TaskStep f.db f.sent task db sent next) :
      WorkerStep w f ⟨db, sent, Function.update f.passes w (.drained rest next)⟩
  /-- The pass ends, by itself, because the chain is halted, by an error or by a crash. -/
  | stop : WorkerStep w f (f.setPass w .idle)

/-- A step of the command handler. -/
inductive HandlerStep (f : Fleet) : Fleet → Prop
  | accept (now : Time) (command : ExecutionCommand) :
      HandlerStep f { f with db := (f.db.insertJob now command .queued).1 }
  /-- The chain is not served: the job is inserted rejected, and its event published with it. -/
  | refuse (now : Time) (command : ExecutionCommand) (reason : String) (db db' : Execution)
      (hinsert : f.db.insertJob now command (.resolved .rejected now
        (.executionRejected command.jobId command.chainId reason)) = (db, true))
      (h : db.publish (.executionRejected command.jobId command.chainId reason) .accepting = .ok db') :
      HandlerStep f { f with db := db' }

/-- One step of the system: the handler, or any of the executors. -/
def Step (f f' : Fleet) : Prop := HandlerStep f f' ∨ ∃ w, WorkerStep W w f f'

/-- One step of the system when one executor runs. -/
def SoloStep (f f' : Fleet) : Prop := HandlerStep f f' ∨ WorkerStep W 0 f f'

end Fleet

end Payday.Signers
