/-
# Consuming the signers' events

`gum-server/src/execution_events.rs` on top of `gum-bus/src/consumer.rs`: an event is handled
on a transaction that also acknowledges the delivery, so the handler's writes are committed
exactly when it succeeds.  Events of withdrawal steps write other tables only and do nothing
to this ledger.
-/
import Payday.Ledger.Sweeps

namespace Payday

inductive ExecutionEvent
  | sweepSubmitted (jobId : JobId) (txHash : Hash)
  | sweepFinalized (receipt : FinalizedSweep)
  | sweepAbandoned (jobId : JobId) (reason : AbandonReason)
  | withdrawalStepFinalized (jobId : JobId)
  | executionStalled (jobId : JobId)
  | executionRejected (jobId : JobId) (reason : String)
deriving DecidableEq, Repr

def ExecutionEvent.jobId : ExecutionEvent → JobId
  | sweepSubmitted jobId _ => jobId
  | sweepFinalized receipt => receipt.jobId
  | sweepAbandoned jobId _ => jobId
  | withdrawalStepFinalized jobId => jobId
  | executionStalled jobId => jobId
  | executionRejected jobId _ => jobId

/-- The events that resolve a sweep job. -/
def ExecutionEvent.resolves : ExecutionEvent → Bool
  | sweepFinalized _ | sweepAbandoned _ _ | executionRejected _ _ => true
  | _ => false

inductive HandlerError
  | retryable (error : SweepError)
  | permanent (error : SweepError)
deriving DecidableEq, Repr

/-- How the ledger's verdict on sweep evidence maps onto the bus: evidence for a resolved
job is a duplicate delivery and is acknowledged. -/
def sweepOutcome {α : Type} : Except SweepError α → Except HandlerError Unit
  | .ok _ => .ok ()
  | .error (.notOpen _) => .ok ()
  | .error (.database e) => .error (.retryable (.database e))
  | .error e => .error (.permanent e)

/-- The handler's writes on the transaction, and its verdict. -/
def handle (L : Ledger) (now : Time) (policy : SweepPolicy) :
    ExecutionEvent → Ledger × Except HandlerError Unit
  | .sweepSubmitted jobId txHash => (recordSweepSubmission L now jobId txHash, .ok ())
  | .sweepFinalized receipt =>
    ((applySweepFinalized L now receipt policy).1,
      sweepOutcome (applySweepFinalized L now receipt policy).2)
  | .sweepAbandoned jobId reason =>
    ((applySweepAbandoned L now jobId reason).1,
      sweepOutcome (applySweepAbandoned L now jobId reason).2)
  | .withdrawalStepFinalized _ => (L, .ok ())
  | .executionStalled _ => (L, .ok ())
  | .executionRejected jobId reason =>
    -- an id that names no open sweep job is a withdrawal step's, in other tables
    ((applySweepRejected L now jobId reason).1,
      sweepOutcome (applySweepRejected L now jobId reason).2)

/-- One delivery: handle, acknowledge and commit, or roll everything back. -/
def handleOne (L : Ledger) (now : Time) (policy : SweepPolicy) (event : ExecutionEvent) : Ledger :=
  match handle L now policy event with
  | (L', .ok ()) => L'
  | (_, .error _) => L

end Payday
