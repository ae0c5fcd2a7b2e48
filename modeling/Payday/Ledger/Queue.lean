/-
# The sweep queue, seen from one request

A `Ticket` is what the queue knows of a request: the job that holds it, the failures counted
since the last drain or release, why an operator must look at it, and when it was last tried.
Five kinds of events move a ticket, and `ticket_step` says that every transaction moves the
ticket of every request by the event it brings.  Whatever the queue promises is then a
statement about lists of events.
-/
import Payday.Ledger.Writes

namespace Payday

/-- The columns of the queue. -/
structure Ticket where
  jobId : Option JobId
  attempts : ℕ
  attention : Option String
  lastAttemptAt : Option Time
deriving DecidableEq

def Invoice.ticket (row : Invoice) : Ticket :=
  ⟨row.sweepJobId, row.sweepAttempts, row.attentionReason, row.lastAttemptAt⟩

/-- What a sweep that moved nothing reports about a request. -/
inductive SweepResult
  | failed (cause : SweepFailureCause)
  | abandoned
  | rejected
deriving DecidableEq, Repr

namespace SweepResult

/-- Automation cannot attribute the result to a paused token, nor to the request itself. -/
def isUnexplained : SweepResult → Bool
  | .failed .unknown | .abandoned | .rejected => true
  | .failed _ => false

/-- The token was paused. -/
def isPaused : SweepResult → Bool
  | .failed .tokenPaused => true
  | _ => false

/-- The attention a result raises on a request with some counted failures. -/
def attention (maxAttempts attempts : ℕ) : SweepResult → Option String
  | .failed .tokenPaused => none
  | .failed .unknown => if maxAttempts ≤ attempts + 1 then some RETRIES_EXHAUSTED else none
  | .failed cause => some cause.asStr
  | .abandoned | .rejected => none

end SweepResult

/-- What happens to a ticket. -/
inductive QueueEvent
  | claimed (jobId : JobId)
  /-- The sweep moved nothing, and the request goes back behind backoff. -/
  | returned (maxAttempts : ℕ) (result : SweepResult)
  | drained (attention : Option String)
  | flagged (reason : String)
  | released
deriving DecidableEq

/-- The ticket after an event. -/
def Ticket.next (now : Time) (t : Ticket) : QueueEvent → Ticket
  | .claimed jobId => { t with jobId := some jobId, lastAttemptAt := some now }
  | .returned maxAttempts result =>
    ⟨none, t.attempts + 1, t.attention.or (result.attention maxAttempts t.attempts), some now⟩
  | .drained attention => ⟨none, 0, t.attention.or attention, none⟩
  | .flagged reason => { t with attention := t.attention.or (some reason) }
  | .released => { t with attempts := 0, attention := none, lastAttemptAt := none }

/-- What the ledger has checked when it brings an event. -/
def Ticket.Enabled (t : Ticket) : QueueEvent → Prop
  | .claimed _ => t.jobId = none ∧ t.attention = none
  | .returned _ _ | .drained _ => t.jobId.isSome
  | .flagged _ => True
  | .released => t.attention.isSome ∧ t.jobId = none

/-! ### The event of a transaction -/

/-- The event of an item's evidence. -/
def decisionEvent (row : Invoice) (receipt : FinalizedSweep) (outcome : SweepItemOutcome)
    (policy : SweepPolicy) : QueueEvent :=
  match outcome with
  | .failed cause => .returned policy.maxAttempts (.failed cause)
  | _ => match decideItem row receipt outcome policy with
    | .drained drain => .drained drain.attention
    | _ => .drained none

/-- The event of a job closed without effect. -/
def closeQueueEvent? (L : Ledger) (row : Invoice) (policy : SweepPolicy) (jobId : JobId)
    (result : SweepResult) : Option QueueEvent :=
  if row.sweepJobId = some jobId ∧ L.jobOpen jobId then some (.returned policy.maxAttempts result)
  else none

/-- The event a transaction brings for the ticket of a row. -/
def Ledger.queueEvent? (L : Ledger) (now : Time) (row : Invoice) : Op → Option QueueEvent
  | .scheduleSweepJob policy chainId jobId correlationId scan =>
    match scheduleSweepJob L now policy chainId jobId correlationId scan with
    | .ok (_, some job) => if row.id ∈ job.invoiceIds then some (.claimed jobId) else none
    | _ => none
  | .flagAttention id reason => if row.id = id then some (.flagged reason) else none
  | .releaseAttention id =>
    if row.id = id ∧ row.attentionReason.isSome ∧ row.sweepJobId.isNone then some .released
    else none
  | .deliver policy (.sweepFinalized receipt) =>
    match (applySweepFinalized L now receipt policy).2,
        receipt.items.find? (fun item => item.invoiceId = row.id) with
    | .ok _, some item =>
      if row.sweepJobId = some receipt.jobId then
        some (decisionEvent row receipt item.outcome policy)
      else none
    | _, _ => none
  | .deliver policy (.sweepAbandoned jobId _) => closeQueueEvent? L row policy jobId .abandoned
  | .deliver policy (.executionRejected jobId _) => closeQueueEvent? L row policy jobId .rejected
  | _ => none

/-- The ticket after the event of a transaction, if there is one. -/
def Ticket.nextOf (now : Time) (t : Ticket) (e : Option QueueEvent) : Ticket :=
  match e with
  | none => t
  | some e => t.next now e

section

variable {L : Ledger} {now : Time} {id : InvoiceId} {row : Invoice}

/-- A column that none of the statements writes. -/
lemma Invoice.writeAll_column {β : Type} (column : Invoice → β) {ws : List Write}
    (h : ∀ w ∈ ws, ∀ row : Invoice, column (w.apply now row) = column row) (row : Invoice) :
    column (row.writeAll now ws) = column row := by
  induction ws generalizing row with
  | nil => rfl
  | cons w rest ih =>
    rw [Invoice.writeAll_cons, ih (fun w' hw' => h w' (List.mem_cons_of_mem _ hw')),
      h w List.mem_cons_self]

lemma InvoiceCredit.write_ticket (c : InvoiceCredit) (now : Time) (row : Invoice) :
    (c.write now row).ticket = row.ticket := by
  unfold InvoiceCredit.write
  cases c.crossing <;> rfl

lemma flagWrites_ticket (row row' : Invoice) (reason : String)
    (hsame : row'.attentionReason = row.attentionReason) :
    (row'.writeAll now (flagWrites row reason)).ticket =
      { row'.ticket with attention := row.attentionReason.or (some reason) } := by
  unfold flagWrites
  rcases hr : row.attentionReason with _ | old
  · rfl
  · show row'.ticket = _
    rw [Invoice.ticket, hsame, hr]
    rfl

/-- The statements of a range do not touch the queue. -/
lemma rangeWrites_ticket (range : FinalizedRange) :
    (row.writeAll now (rangeWrites L now range row)).ticket = row.ticket := by
  refine Invoice.writeAll_column Invoice.ticket (fun w hw row' => ?_) row
  unfold rangeWrites at hw
  split at hw
  · cases hw
  · split at hw
    · cases hw
    · simp only [List.mem_append, List.mem_map] at hw
      rcases hw with ⟨c, -, rfl⟩ | hw
      · exact c.write_ticket now row'
      · split at hw
        · obtain rfl := List.mem_singleton.1 hw
          rfl
        · cases hw

lemma unparkWrites_ticket (L' : Ledger) (invoiceId : InvoiceId) :
    (row.writeAll now (unparkWrites L' invoiceId row)).ticket = row.ticket := by
  unfold unparkWrites
  split
  · rfl
  · split <;> rfl

/-- An item's evidence moves the ticket by its event. -/
lemma decisionWrites_ticket (receipt : FinalizedSweep) (outcome : SweepItemOutcome)
    (policy : SweepPolicy) :
    (row.writeAll now (decisionWrites L row receipt
        (decideItem row receipt outcome policy))).ticket =
      row.ticket.next now (decisionEvent row receipt outcome policy) := by
  -- a drain, with or without attention
  have hdrain : ∀ drain, (row.writeAll now (decisionWrites L row receipt (.drained drain))).ticket =
      row.ticket.next now (.drained drain.attention) := by
    intro drain
    simp only [decisionWrites, Invoice.writeAll_cons]
    rcases drain.attention with _ | reason
    · simp only [Ticket.next, Option.or_none]
      rfl
    · exact flagWrites_ticket row _ reason rfl
  have hrequeue : ∀ reason,
      (row.writeAll now (decisionWrites L row receipt (.attention reason))).ticket =
        ⟨none, row.sweepAttempts + 1, row.attentionReason.or (some reason), some now⟩ := by
    intro reason
    exact flagWrites_ticket row (row.requeue now) reason rfl
  rcases outcome with x | x | ⟨x, _ | e⟩ | cause
  · exact hdrain _
  · exact hdrain _
  · simp only [decideItem, decisionEvent]
    split <;> exact hdrain _
  · exact hdrain _
  · cases cause with
    | tokenPaused =>
      simp only [decisionEvent, Ticket.next, SweepResult.attention, Option.or_none]
      rfl
    | unknown =>
      simp only [decideItem, decisionEvent, Ticket.next, SweepResult.attention]
      by_cases hmax : policy.maxAttempts ≤ row.sweepAttempts + 1
      · have hticket : policy.maxAttempts ≤ row.ticket.attempts + 1 := hmax
        rw [if_pos hmax, hrequeue, if_pos hticket]
        rfl
      · have hticket : ¬ policy.maxAttempts ≤ row.ticket.attempts + 1 := hmax
        rw [if_neg hmax, if_neg hticket, Option.or_none]
        rfl
    | _ => exact hrequeue _

lemma closeWrites_ticket (policy : SweepPolicy) (jobId : JobId) {result : SweepResult}
    (hresult : ∀ maxAttempts attempts, result.attention maxAttempts attempts = none) :
    (row.writeAll now (closeWrites L jobId row)).ticket =
      row.ticket.nextOf now (closeQueueEvent? L row policy jobId result) := by
  unfold closeWrites closeQueueEvent?
  split
  · simp only [Ticket.nextOf, Ticket.next, hresult, Option.or_none]
    rfl
  · rfl

/-- Every transaction moves the ticket of every request by the event it brings. -/
theorem ticket_step (now : Time) (op : Op) (hrow : L.invoices.find? id = some row) :
    ∃ row', (step L now op).invoices.find? id = some row' ∧
      row'.ticket = row.ticket.nextOf now (L.queueEvent? now row op) := by
  refine ⟨_, (find?_step now op hrow).found, ?_⟩
  cases op with
  | bindPayerWallet nowSecs id' wallet binding =>
    simp only [Ledger.writes, bindWrites]
    split_ifs <;> rfl
  | bindNetwork id' binding =>
    simp only [Ledger.writes, bindWrites]
    split_ifs <;> rfl
  | expireUnbound chainTime =>
    simp only [Ledger.writes]
    split_ifs <;> rfl
  | completeVerification id' verifiedAt =>
    simp only [Ledger.writes]
    split_ifs <;> rfl
  | requestCancellation id' =>
    simp only [Ledger.writes]
    split_ifs <;> rfl
  | resolveFilled id' fills origin relayStatus =>
    simp only [Ledger.writes]
    split
    · rfl
    · split_ifs
      · rfl
      · exact unparkWrites_ticket _ _
  | resolveFailed id' failure relayStatus =>
    simp only [Ledger.writes]
    split
    · rfl
    · exact unparkWrites_ticket _ _
  | applyFinalizedRange range => exact rangeWrites_ticket range
  | scheduleSweepJob policy chainId jobId correlationId scan =>
    simp only [Ledger.writes, Ledger.queueEvent?]
    rcases scheduleSweepJob L now policy chainId jobId correlationId scan with e | ⟨L', _ | job⟩
    · rfl
    · rfl
    · simp only
      split_ifs <;> rfl
  | flagAttention id' reason =>
    simp only [Ledger.writes, Ledger.queueEvent?]
    split_ifs
    · exact flagWrites_ticket row row reason rfl
    · rfl
  | releaseAttention id' =>
    simp only [Ledger.writes, Ledger.queueEvent?]
    split_ifs <;> rfl
  | deliver policy event =>
    cases event with
    | sweepFinalized receipt =>
      simp only [Ledger.writes, receiptWrites, Ledger.queueEvent?]
      rcases (applySweepFinalized L now receipt policy).2 with e | applied
      · rfl
      · generalize receipt.items.find? (fun item => decide (item.invoiceId = row.id)) = found
        rcases found with _ | item
        · rfl
        · simp only
          split_ifs
          · exact decisionWrites_ticket receipt item.outcome policy
          · rfl
    | sweepAbandoned jobId reason => exact closeWrites_ticket policy jobId (fun _ _ => rfl)
    | executionRejected jobId reason => exact closeWrites_ticket policy jobId (fun _ _ => rfl)
    | _ => rfl
  | _ => rfl

/-- An event finds the ticket the ledger checked for. -/
lemma queueEvent?_enabled {op : Op} {e : QueueEvent} (hrow : L.invoices.find? id = some row)
    (h : L.queueEvent? now row op = some e) : row.ticket.Enabled e := by
  have hclose : ∀ policy jobId result, closeQueueEvent? L row policy jobId result = some e →
      row.ticket.Enabled e := by
    intro policy jobId result he
    unfold closeQueueEvent? at he
    split at he
    · rename_i hmem
      obtain rfl := Option.some.inj he
      simp [Ticket.Enabled, Invoice.ticket, hmem.1]
    · cases he
  cases op with
  | scheduleSweepJob policy chainId jobId correlationId scan =>
    have hallowed := (find?_step now (.scheduleSweepJob policy chainId jobId correlationId scan)
      hrow).allowed
    simp only [Ledger.writes] at hallowed
    simp only [Ledger.queueEvent?] at h
    rcases hsched : scheduleSweepJob L now policy chainId jobId correlationId scan with
      err | ⟨L', _ | job⟩
    · rw [hsched] at h
      cases h
    · rw [hsched] at h
      cases h
    · rw [hsched] at h hallowed
      simp only at h hallowed
      split_ifs at h hallowed with hin
      obtain rfl := Option.some.inj h
      exact hallowed.1
  | flagAttention id' reason =>
    simp only [Ledger.queueEvent?] at h
    split_ifs at h
    obtain rfl := Option.some.inj h
    trivial
  | releaseAttention id' =>
    simp only [Ledger.queueEvent?] at h
    split_ifs at h with hcond
    obtain rfl := Option.some.inj h
    exact ⟨hcond.2.1, Option.isNone_iff_eq_none.1 hcond.2.2⟩
  | deliver policy event =>
    cases event with
    | sweepFinalized receipt =>
      simp only [Ledger.queueEvent?] at h
      split at h
      · rename_i item _ _
        split_ifs at h with hmem
        obtain rfl := Option.some.inj h
        have hsome : row.ticket.jobId.isSome := by
          simp [Invoice.ticket, hmem]
        rcases hout : item.outcome with x | x | ⟨x, _ | ev⟩ | cause
        all_goals
          simp only [decisionEvent]
          try split
        all_goals exact hsome
      · cases h
    | sweepAbandoned jobId reason => exact hclose policy jobId .abandoned h
    | executionRejected jobId reason => exact hclose policy jobId .rejected h
    | _ => cases h
  | _ => cases h

end

/-- A result comes back with the policy of the event that brings it. -/
lemma queueEvent?_returned {L : Ledger} {now : Time} {row : Invoice} {op : Op} {maxAttempts : ℕ}
    {result : SweepResult} (h : L.queueEvent? now row op = some (.returned maxAttempts result)) :
    ∃ policy event, op = .deliver policy event ∧ maxAttempts = policy.maxAttempts := by
  have hclose : ∀ policy jobId result', closeQueueEvent? L row policy jobId result' =
      some (.returned maxAttempts result) → maxAttempts = policy.maxAttempts := by
    intro policy jobId result' he
    unfold closeQueueEvent? at he
    split at he
    · cases he
      rfl
    · cases he
  cases op with
  | deliver policy event =>
    refine ⟨policy, event, rfl, ?_⟩
    cases event with
    | sweepFinalized receipt =>
      simp only [Ledger.queueEvent?] at h
      split at h
      · rename_i item _ _
        split_ifs at h
        rcases hout : item.outcome with x | x | ⟨x, _ | ev⟩ | cause
        all_goals
          rw [hout] at h
          simp only [decisionEvent, decideItem] at h
        · cases h
        · cases h
        · split at h <;> cases h
        · cases h
        · cases h
          rfl
      · cases h
    | sweepAbandoned jobId reason => exact hclose policy jobId .abandoned h
    | executionRejected jobId reason => exact hclose policy jobId .rejected h
    | _ => cases h
  | scheduleSweepJob policy chainId jobId correlationId scan =>
    simp only [Ledger.queueEvent?] at h
    split at h
    · split_ifs at h
      cases h
    · cases h
  | flagAttention id' reason =>
    simp only [Ledger.queueEvent?] at h
    split_ifs at h
    cases h
  | releaseAttention id' =>
    simp only [Ledger.queueEvent?] at h
    split_ifs at h
    cases h
  | _ => cases h

/-! ### Runs -/

/-- The events of a run for one request. -/
def Ledger.queueHistory (id : InvoiceId) : Ledger → List (Time × Op) → List QueueEvent
  | _, [] => []
  | L, op :: rest =>
    ((L.invoices.find? id).bind (fun row => L.queueEvent? op.1 row op.2)).toList ++
      Ledger.queueHistory id (step L op.1 op.2) rest

lemma Ledger.queueHistory_append (id : InvoiceId) (L : Ledger) (ops ops' : List (Time × Op)) :
    L.queueHistory id (ops ++ ops') = L.queueHistory id ops ++ (run L ops).queueHistory id ops' := by
  induction ops generalizing L with
  | nil => rfl
  | cons op rest ih =>
    simp only [List.cons_append, Ledger.queueHistory, run_cons, ih, List.append_assoc]

/-- Before a request is issued, nothing happens to its ticket. -/
lemma queueHistory_of_none {id : InvoiceId} {ops : List (Time × Op)}
    (h : (run Ledger.empty ops).invoices.find? id = none) :
    Ledger.empty.queueHistory id ops = [] := by
  induction ops using List.reverseRecOn with
  | nil => rfl
  | append_singleton ops op ih =>
    rcases hprev : (run Ledger.empty ops).invoices.find? id with _ | row
    · rw [Ledger.queueHistory_append, ih hprev]
      simp [Ledger.queueHistory, hprev]
    · rw [run_append] at h
      have hfound : (step (run Ledger.empty ops) op.1 op.2).invoices.find? id = some _ :=
        (find?_step op.1 op.2 hprev).found
      exact absurd (hfound.symm.trans h) (by simp)

/-- The history after one more transaction on an issued request. -/
lemma queueHistory_concat {id : InvoiceId} {ops : List (Time × Op)} {row : Invoice}
    (h : (run Ledger.empty ops).invoices.find? id = some row) (op : Time × Op) :
    Ledger.empty.queueHistory id (ops ++ [op]) = Ledger.empty.queueHistory id ops ++
      ((run Ledger.empty ops).queueEvent? op.1 row op.2).toList := by
  rw [Ledger.queueHistory_append]
  simp [Ledger.queueHistory, h]

/-- The ticket a request is issued with. -/
def Ticket.issued : Ticket := ⟨none, 0, none, none⟩

/-- What holds of an issued ticket with no history and is kept by every enabled event holds of
every request after every run, with its history. -/
theorem ticket_induction {P : List QueueEvent → Ticket → Prop} (hissued : P [] Ticket.issued)
    (hstep : ∀ now events t e, P events t → t.Enabled e → P (events ++ [e]) (t.next now e))
    {ops : List (Time × Op)} {id : InvoiceId} {row : Invoice}
    (hrow : (run Ledger.empty ops).invoices.find? id = some row) :
    P (Ledger.empty.queueHistory id ops) row.ticket := by
  induction ops using List.reverseRecOn generalizing row with
  | nil => cases hrow
  | append_singleton ops op ih =>
    rw [run_append] at hrow
    rcases hprev : (run Ledger.empty ops).invoices.find? id with _ | row₀
    · obtain ⟨input, -, rfl⟩ := find?_step_issued op.2 hprev hrow
      rw [Ledger.queueHistory_append, queueHistory_of_none hprev]
      simp only [Ledger.queueHistory, hprev]
      exact hissued
    · obtain ⟨row', hrow', hticket⟩ := ticket_step op.1 op.2 hprev
      obtain rfl := Option.some.inj (hrow'.symm.trans hrow)
      rw [hticket, queueHistory_concat hprev]
      have hP := ih hprev
      rcases hevent : (run Ledger.empty ops).queueEvent? op.1 row₀ op.2 with _ | e
      · simpa [Ticket.nextOf] using hP
      · exact hstep op.1 _ _ e hP (queueEvent?_enabled hprev hevent)

end Payday
