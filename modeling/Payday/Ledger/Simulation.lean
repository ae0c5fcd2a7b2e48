/-
# The ledger, seen from one request

Every ledger transaction moves each request by the event it means for that request, and by
nothing else: `request?_step`.  A run of the ledger is therefore, for each request, a run of
the life-cycle machine over the run's history, and what the machine never does, the ledger
never does to any request.
-/
import Mathlib.Data.List.Induction
import Payday.Ledger.Recorded
import Payday.Ledger.SweepLoop

namespace Payday

/-- The ledger moves a request by an enabled event. -/
structure Moves (L L' : Ledger) (id : InvoiceId) (q : Request) (e : Event) : Prop where
  enabled : q.Enabled e
  moved : L'.request? id = some (q.apply e)

variable {L : Ledger} {now : Time} {id : InvoiceId} {q : Request} {row : Invoice}

lemma Moves.quiet {L' : Ledger} (hq : L.request? id = some q)
    (h : L'.request? id = L.request? id) : Moves L L' id q .quiet :=
  ⟨trivial, h.trans hq⟩

/-- The row behind a request. -/
lemma request_of_row (hrow : L.invoices.find? id = some row) (hq : L.request? id = some q) :
    row.request (L.observationsOf id) = q := by
  rw [Ledger.request?, hrow] at hq
  exact Option.some.inj hq

lemma insertIssued_request (input : IssuedRequest) (hq : L.request? id = some q) :
    Moves L (insertIssued L now input) id q .quiet := by
  refine Moves.quiet hq ?_
  unfold insertIssued
  split
  · rfl
  · split
    · rfl
    · rename_i invoices hins
      obtain ⟨row, hrow, -⟩ := Ledger.request?_eq_some.1 hq
      have hne : id ≠ (input.row now).id := by
        rintro rfl
        exact (Table.insert?_eq_some_iff.1 hins).1 (List.mem_map.2
          ⟨row, Table.mem_of_find? hrow, Table.key_of_find? hrow⟩)
      refine request?_frame (fun row => row) ?_ (fun _ _ => rfl) rfl
      rw [Option.map_id']
      exact (Table.find?_of_insert? hins id).trans (if_neg hne)

lemma writeBinding_request {id' : InvoiceId} {bindable : Invoice → Bool} {binding : Binding}
    (hbindable : ∀ row, bindable row → row.binding = none ∧ row.status = .created)
    (hrow : L.invoices.find? id = some row) (hq : L.request? id = some q) :
    Moves L (writeBinding L now id' bindable binding) id q
      (if id' = id then bindEvent L row bindable binding else .quiet) := by
  have hid : row.id = id := Table.key_of_find? hrow
  have hqr := request_of_row hrow hq
  have hfind : ¬ L.addressTaken binding →
      (writeBinding L now id' bindable binding).invoices.find? id =
        some (if id' = id ∧ bindable row then
          { row with binding := some binding, updatedAt := now } else row) := by
    intro hfree
    unfold writeBinding
    rw [if_neg hfree]
    refine (Table.find?_of_rows_map rfl (fun r => ?_) id).trans ?_
    · split <;> rfl
    · rw [hrow, Option.map_some]
      refine congrArg some (if_congr ?_ rfl rfl)
      rw [Bool.and_eq_true, decide_eq_true_eq, hid, eq_comm]
  have hobs : (writeBinding L now id' bindable binding).observationsOf id = L.observationsOf id := by
    unfold writeBinding
    split <;> rfl
  by_cases htaken : L.addressTaken binding
  · have hsame : writeBinding L now id' bindable binding = L := by
      unfold writeBinding
      rw [if_pos htaken]
    have hquiet : (if id' = id then bindEvent L row bindable binding else .quiet) = .quiet := by
      simp [bindEvent, htaken]
    rw [hsame, hquiet]
    exact Moves.quiet hq rfl
  · by_cases hwrite : id' = id ∧ bindable row
    · have hevent : (if id' = id then bindEvent L row bindable binding else .quiet) =
          .bind binding := by
        simp [bindEvent, htaken, hwrite.1, hwrite.2]
      rw [hevent]
      refine ⟨?_, ?_⟩
      · rw [← hqr]
        exact hbindable row hwrite.2
      · rw [Ledger.request?, hfind htaken, if_pos hwrite, Option.map_some, hobs, ← hqr]
        rfl
    · have hevent : (if id' = id then bindEvent L row bindable binding else .quiet) = .quiet := by
        split
        · rename_i hid'
          have : ¬ bindable row := fun hb => hwrite ⟨hid', hb⟩
          simp [bindEvent, this]
        · rfl
      rw [hevent]
      refine ⟨trivial, ?_⟩
      rw [Ledger.request?, hfind htaken, if_neg hwrite, Option.map_some, hobs, hqr]
      rfl

lemma expireUnbound_request (chainTime : ℕ) (hrow : L.invoices.find? id = some row)
    (hq : L.request? id = some q) :
    Moves L (expireUnbound L now chainTime) id q
      (eventOf L now id row (.expireUnbound chainTime)) := by
  have hqr := request_of_row hrow hq
  have hfind : (expireUnbound L now chainTime).invoices.find? id =
      some (if row.binding = none ∧ row.status = .created ∧ row.expirationTimestamp < chainTime
        then row.expire now chainTime else row) := by
    refine (Table.find?_of_rows_map rfl (fun r => ?_) id).trans ?_
    · split <;> rfl
    · rw [hrow, Option.map_some]
      simp only [Bool.and_eq_true, decide_eq_true_eq, Option.isNone_iff_eq_none, and_assoc]
  simp only [eventOf]
  by_cases hcond : row.binding = none ∧ row.status = .created ∧ row.expirationTimestamp < chainTime
  · rw [if_pos hcond]
    refine ⟨?_, ?_⟩
    · rw [← hqr]
      exact ⟨hcond.1, hcond.2.1⟩
    · rw [Ledger.request?, hfind, if_pos hcond, Option.map_some, ← hqr]
      rfl
  · rw [if_neg hcond]
    refine ⟨trivial, ?_⟩
    rw [Ledger.request?, hfind, if_neg hcond, Option.map_some]
    exact congrArg some hqr

lemma applyFinalizedRange_request (range : FinalizedRange) (hrow : L.invoices.find? id = some row)
    (hq : L.request? id = some q) :
    Moves L (step L now (.applyFinalizedRange range)) id q (rangeEvent L now id row range) := by
  have hqr := request_of_row hrow hq
  simp only [step, rangeEvent]
  rcases happly : applyFinalizedRange L now range with e | ⟨L', result⟩
  · exact Moves.quiet hq rfl
  · rcases applyFinalizedRange_cases happly with
      ⟨rfl, hnot⟩ | ⟨-, hrecord, funded, expired, rfl⟩
    · rcases result with ⟨funded, expired, cursor⟩ | cursor | cursor
      · exact absurd rfl (hnot funded expired cursor)
      · exact Moves.quiet hq rfl
      · exact Moves.quiet hq rfl
    · simp only
      split
      · rename_i hchain
        obtain ⟨b, hb, hbc⟩ := Option.map_eq_some_iff.1 hchain
        obtain ⟨hmove, hown⟩ := recordRange_request hrecord hrow hb hbc
        refine ⟨⟨b, ?_, hown⟩, ?_⟩
        · rw [← hqr]
          exact hb
        · rw [hmove, hqr]
          rfl
      · rename_i hchain
        obtain ⟨hobs, hfind⟩ := recordRange_unbound hrecord hrow hchain
        refine ⟨trivial, ?_⟩
        rw [Ledger.request?, hfind, hobs, Option.map_some]
        exact congrArg some hqr

lemma scheduleSweepJob_request (policy : SweepPolicy) (chainId : ChainId) (jobId : JobId)
    (correlationId : ℕ) (scan : SweepScan) (hq : L.request? id = some q) :
    Moves L (step L now (.scheduleSweepJob policy chainId jobId correlationId scan)) id q
      (scheduleEvent L now id policy chainId jobId correlationId scan) := by
  simp only [step, scheduleEvent]
  rcases hsched : scheduleSweepJob L now policy chainId jobId correlationId scan with
    e | ⟨L', result⟩
  · exact Moves.quiet hq rfl
  · rcases scheduleSweepJob_cases hsched with ⟨rfl, rfl⟩ | ⟨rows, items, rfl, h⟩
    · exact Moves.quiet hq rfl
    · obtain ⟨hout, hin⟩ := h.request hq
      simp only
      split
      · rename_i hmem
        exact ⟨(hin hmem).1, (hin hmem).2⟩
      · rename_i hmem
        exact ⟨trivial, hout hmem⟩

lemma deliver_sweepFinalized_request (policy : SweepPolicy) (receipt : FinalizedSweep)
    (hrow : L.invoices.find? id = some row) (hq : L.request? id = some q) :
    Moves L (handleOne L now policy (.sweepFinalized receipt)) id q
      (receiptEvent L now id row policy receipt) := by
  have hqr := request_of_row hrow hq
  have hjob : q.sweepJobId = row.sweepJobId := by
    rw [← hqr]
    rfl
  unfold receiptEvent
  rcases handleOne_sweepFinalized L now policy receipt with ⟨hsame, e, he⟩ | ⟨applied, L₁, hok, h⟩
  · rw [hsame, he]
    exact Moves.quiet hq rfl
  · obtain ⟨hother, hmember⟩ := h.request hq
    rw [hok]
    by_cases hin : row.sweepJobId = some receipt.jobId
    · obtain ⟨item, hitem, hmove⟩ := hmember (hjob.trans hin)
      rw [hitem]
      simp only [if_pos hin]
      exact ⟨hjob.trans hin, hmove⟩
    · have hkeep := hother (fun e => hin (hjob.symm.trans e))
      split
      · rw [if_neg hin]
        exact ⟨trivial, hkeep⟩
      · exact ⟨trivial, hkeep⟩

lemma deliver_close_request {policy : SweepPolicy} {event : ExecutionEvent} {jobId : JobId}
    {resolution : JobResolution} {txHash : Option Hash}
    (h : handle L now policy event = ((closeWithoutEffect L now jobId resolution txHash).1,
      sweepOutcome (closeWithoutEffect L now jobId resolution txHash).2))
    (hrow : L.invoices.find? id = some row) (hq : L.request? id = some q) :
    Moves L (handleOne L now policy event) id q (closeEvent L row jobId) := by
  have hqr := request_of_row hrow hq
  have hjob : q.sweepJobId = row.sweepJobId := by
    rw [← hqr]
    rfl
  unfold closeEvent
  rcases handleOne_close L now policy event h with ⟨hclosed, hsame⟩ | hclose
  · rw [hsame, if_neg (by simp [hclosed])]
    exact Moves.quiet hq rfl
  · have hmove := hclose.request hq
    by_cases hin : row.sweepJobId = some jobId
    · rw [if_pos ⟨hin, hclose.job_open⟩]
      rw [if_pos (hjob.trans hin)] at hmove
      exact ⟨hjob.trans hin, hmove⟩
    · rw [if_neg (fun e => hin e.1)]
      rw [if_neg (fun e => hin (hjob.symm.trans e))] at hmove
      exact ⟨trivial, hmove⟩

/-- A transaction moves each request by the event it means for it. -/
theorem request?_step (now : Time) (op : Op) (hq : L.request? id = some q) :
    Moves L (step L now op) id q (L.event now op id) := by
  obtain ⟨row, hrow, -⟩ := Ledger.request?_eq_some.1 hq
  rw [Ledger.event, hrow]
  cases op with
  | insertIssued input => exact insertIssued_request input hq
  | bindPayerWallet nowSecs id' wallet binding =>
    refine writeBinding_request (fun row h => ?_) hrow hq
    simp only [walletBindable, Bool.and_eq_true, decide_eq_true_eq, Option.isNone_iff_eq_none] at h
    exact ⟨h.1.1.1, h.1.1.2⟩
  | bindNetwork id' binding =>
    refine writeBinding_request (fun row h => ?_) hrow hq
    simp only [networkBindable, Bool.and_eq_true, decide_eq_true_eq, Option.isNone_iff_eq_none] at h
    exact ⟨h.1.1, h.1.2⟩
  | expireUnbound chainTime => exact expireUnbound_request chainTime hrow hq
  | completeVerification id' verifiedAt =>
    refine Moves.quiet hq ?_
    apply request?_side
    · rfl
    · exact fun _ _ => rfl
    · rfl
  | requestCancellation id' =>
    refine Moves.quiet hq ?_
    apply request?_side
    · rfl
    · exact fun _ _ => rfl
    · rfl
  | raiseFault faultId chainId reason block =>
    refine Moves.quiet hq ?_
    simp only [step, raiseFault]
    split <;> rfl
  | clearFault chainId => exact Moves.quiet hq rfl
  | insertRelayIntent intent =>
    refine Moves.quiet hq ?_
    simp only [step, insertRelayIntent]
    split <;> rfl
  | markSent id' invoiceId payerWallet originTxHash => exact Moves.quiet hq rfl
  | deferRelayIntent id' nextCheckAt relayStatus => exact Moves.quiet hq rfl
  | expireQuoted destinationChainId => exact Moves.quiet hq rfl
  | resolveFilled id' fills origin relayStatus =>
    exact Moves.quiet hq (resolveFilled_request ..)
  | resolveFailed id' failure relayStatus => exact Moves.quiet hq (resolveFailed_request ..)
  | applyFinalizedRange range => exact applyFinalizedRange_request range hrow hq
  | scheduleSweepJob policy chainId jobId correlationId scan =>
    exact scheduleSweepJob_request policy chainId jobId correlationId scan hq
  | flagAttention id' reason => exact Moves.quiet hq (flagAttentionIn_request ..)
  | releaseAttention id' =>
    refine Moves.quiet hq ?_
    apply request?_side
    · rfl
    · exact fun _ _ => rfl
    · rfl
  | deliver policy event =>
    cases event with
    | sweepSubmitted jobId txHash => exact Moves.quiet hq rfl
    | sweepFinalized receipt => exact deliver_sweepFinalized_request policy receipt hrow hq
    | sweepAbandoned jobId reason => exact deliver_close_request rfl hrow hq
    | withdrawalStepFinalized jobId => exact Moves.quiet hq rfl
    | executionStalled jobId => exact Moves.quiet hq rfl
    | executionRejected jobId reason => exact deliver_close_request rfl hrow hq

/-- A run moves each request along its history. -/
theorem request?_run (ops : List (Time × Op)) (hq : L.request? id = some q) :
    q.Runs (L.history id ops) ∧ (run L ops).request? id = some (q.run (L.history id ops)) := by
  induction ops generalizing L q with
  | nil => exact ⟨trivial, hq⟩
  | cons op rest ih =>
    obtain ⟨henabled, hmoved⟩ := request?_step op.1 op.2 hq
    obtain ⟨hruns, hfinal⟩ := ih hmoved
    exact ⟨⟨henabled, hruns⟩, hfinal⟩

/-! ### Requests that do not exist yet -/

/-- No transaction records a transfer for a request that does not exist. -/
lemma step_observationsOf_none (op : Op) (hnone : L.invoices.find? id = none)
    (h : L.observationsOf id = []) : (step L now op).observationsOf id = [] := by
  rw [Ledger.observationsOf_eq_nil_iff] at h ⊢
  rcases step_scan L now op with hsame | ⟨range, _, _, -, -, hrecord⟩
  · rw [hsame.recorded]
    exact h
  · obtain ⟨new, happend, hnew⟩ := recordRange_recorded hrecord
    rw [happend]
    intro x hx hid
    rcases List.mem_append.1 hx with hold | hx
    · exact h x hold hid
    · obtain ⟨-, -, row, -, hrow, -⟩ := hnew x hx
      rw [hid, hnone] at hrow
      cases hrow

/-- The ids of the requests. -/
def Ledger.ids (L : Ledger) : List InvoiceId := L.invoices.rows.map Invoice.id

/-- What a request asks of its payer: the columns that only issuance and the payer's
verification write. -/
structure Gate where
  id : InvoiceId
  expirationTimestamp : ℕ
  expectedEmail : Option String
  payerReference : Option String
  verificationCompletedAt : Option Time
deriving DecidableEq

/-- The gate of a request. -/
def Invoice.gate (row : Invoice) : Gate where
  id := row.id
  expirationTimestamp := row.expirationTimestamp
  expectedEmail := row.expectedEmail
  payerReference := row.payerReference
  verificationCompletedAt := row.verificationCompletedAt

/-- The gates of the requests. -/
def Ledger.gates (L : Ledger) : List Gate := L.invoices.rows.map Invoice.gate

lemma Ledger.map_id_gates (L : Ledger) : L.gates.map Gate.id = L.ids := by
  simp only [Ledger.gates, Ledger.ids, List.map_map]
  rfl

lemma ids_of_gates {L L' : Ledger} (h : L'.gates = L.gates) : L'.ids = L.ids := by
  rw [← L'.map_id_gates, h, L.map_id_gates]

/-- An update of rows that keeps their gates. -/
lemma gates_of_rows_map {L L' : Ledger} {p : Invoice → Bool} {f : Invoice → Invoice}
    (h : L'.invoices.rows = L.invoices.rows.map (fun r => if p r then f r else r))
    (hf : ∀ r, (f r).gate = r.gate) : L'.gates = L.gates := by
  refine Table.column_of_rows_map h (fun r => ?_)
  split
  · exact hf r
  · rfl

lemma flagAttentionIn_gates (L : Ledger) (now : Time) (id : InvoiceId) (reason : String) :
    (flagAttentionIn L now id reason).gates = L.gates := by
  unfold flagAttentionIn
  split
  · rfl
  · apply gates_of_rows_map
    · rfl
    · exact fun _ => rfl

lemma unparkUnlessPending_gates (L : Ledger) (now : Time) (id : InvoiceId) :
    (unparkUnlessPending L now id).gates = L.gates := by
  unfold unparkUnlessPending
  split
  · rfl
  · simp only
    split
    · rfl
    · apply gates_of_rows_map
      · rfl
      · exact fun _ => rfl

lemma writeBinding_gates (L : Ledger) (now : Time) (id : InvoiceId) (bindable : Invoice → Bool)
    (binding : Binding) : (writeBinding L now id bindable binding).gates = L.gates := by
  unfold writeBinding
  split
  · rfl
  · apply gates_of_rows_map
    · rfl
    · exact fun _ => rfl

lemma applyDecision_gates (L : Ledger) (now : Time) (row : Invoice) (receipt : FinalizedSweep)
    (decision : ItemDecision) : (applyDecision L now row receipt decision).gates = L.gates := by
  have hrequeue : (requeue L now row.id).gates = L.gates := by
    apply gates_of_rows_map
    · rfl
    · exact fun _ => rfl
  rcases decision with drain | _ | reason
  · have hwrite : (writeDrain L now row receipt drain).gates = L.gates := by
      apply gates_of_rows_map
      · rfl
      · exact fun _ => rfl
    simp only [applyDecision, applyDrain]
    split
    · exact hwrite
    · rw [flagAttentionIn_gates, hwrite]
  · exact hrequeue
  · simp only [applyDecision]
    rw [flagAttentionIn_gates, hrequeue]

lemma applyItems_gates (now : Time) (receipt : FinalizedSweep) (policy : SweepPolicy)
    (items : List SweepItemResult) (applied : AppliedSweep) (L : Ledger) :
    (applyItems now receipt policy items applied L).1.gates = L.gates := by
  induction items generalizing applied L with
  | nil => rfl
  | cons item rest ih =>
    unfold applyItems
    split
    · rfl
    · rw [ih]
      exact applyDecision_gates L now _ receipt _

lemma InvoiceCredit.write_gate (credit : InvoiceCredit) (now : Time) (row : Invoice) :
    (credit.write now row).gate = row.gate := by
  unfold InvoiceCredit.write
  cases credit.crossing <;> rfl

lemma writeCredits_gates (now : Time) (credits : List InvoiceCredit) (invoices : Table Invoice.id) :
    (writeCredits now credits invoices).rows.map Invoice.gate = invoices.rows.map Invoice.gate := by
  induction credits generalizing invoices with
  | nil => rfl
  | cons c rest ih =>
    refine (ih _).trans (Table.column_of_rows_map rfl (fun r => ?_))
    split
    · exact c.write_gate now r
    · rfl

lemma recordRange_gates {L' : Ledger} {range : FinalizedRange} {applied : RangeApplied}
    (h : recordRange L now range = .ok (L', applied)) : L'.gates = L.gates := by
  unfold recordRange at h
  split at h
  · cases h
  · rename_i credits observations hloop
    obtain rfl := congrArg Prod.fst (Except.ok.inj h)
    refine Eq.trans (Table.column_of_rows_map rfl (fun r => ?_)) (writeCredits_gates now credits.rows _)
    split <;> rfl

/-- Only issuance and the payer's verification touch the gates. -/
lemma step_gates (L : Ledger) (now : Time) (op : Op) (hissue : ∀ input, op ≠ .insertIssued input)
    (hverify : ∀ id verifiedAt, op ≠ .completeVerification id verifiedAt) :
    (step L now op).gates = L.gates := by
  cases op with
  | insertIssued input => exact absurd rfl (hissue input)
  | completeVerification id' verifiedAt => exact absurd rfl (hverify id' verifiedAt)
  | bindPayerWallet nowSecs id' wallet binding => exact writeBinding_gates ..
  | bindNetwork id' binding => exact writeBinding_gates ..
  | expireUnbound chainTime =>
    apply gates_of_rows_map
    · rfl
    · exact fun _ => rfl
  | requestCancellation id' =>
    apply gates_of_rows_map
    · rfl
    · exact fun _ => rfl
  | raiseFault faultId chainId reason block =>
    simp only [step, raiseFault]
    split <;> rfl
  | insertRelayIntent intent =>
    simp only [step, insertRelayIntent]
    split <;> rfl
  | resolveFilled id' fills origin relayStatus =>
    simp only [step, resolveFilled]
    split
    · rfl
    · split
      · rfl
      · rw [unparkUnlessPending_gates]
        split <;> rfl
  | resolveFailed id' failure relayStatus =>
    simp only [step, resolveFailed]
    split
    · rfl
    · rw [unparkUnlessPending_gates]
      rfl
  | applyFinalizedRange range =>
    simp only [step]
    rcases happly : applyFinalizedRange L now range with e | ⟨L', result⟩
    · rfl
    · rcases applyFinalizedRange_cases happly with ⟨rfl, -⟩ | ⟨-, hrecord, -⟩
      · rfl
      · exact recordRange_gates hrecord
  | scheduleSweepJob policy chainId jobId correlationId scan =>
    simp only [step]
    rcases hsched : scheduleSweepJob L now policy chainId jobId correlationId scan with
      e | ⟨L', result⟩
    · rfl
    · rcases scheduleSweepJob_cases hsched with ⟨rfl, -⟩ | ⟨rows, items, -, hs⟩
      · rfl
      · exact gates_of_rows_map hs.invoices (fun _ => rfl)
  | flagAttention id' reason => exact flagAttentionIn_gates ..
  | releaseAttention id' =>
    apply gates_of_rows_map
    · rfl
    · exact fun _ => rfl
  | deliver policy event =>
    cases event with
    | sweepFinalized receipt =>
      rcases handleOne_sweepFinalized L now policy receipt with ⟨hsame, -⟩ | ⟨applied, L₁, -, hf⟩
      · simp only [step, hsame]
      · simp only [step]
        rw [hf.frame]
        have := applyItems_gates now receipt policy receipt.items {} L
        rw [hf.items] at this
        exact this
    | sweepAbandoned jobId reason =>
      rcases handleOne_close L now policy (.sweepAbandoned jobId reason) rfl with ⟨-, hsame⟩ | hc
      · simp only [step, hsame]
      · exact gates_of_rows_map hc.invoices (fun _ => rfl)
    | executionRejected jobId reason =>
      rcases handleOne_close L now policy (.executionRejected jobId reason) rfl with ⟨-, hsame⟩ | hc
      · simp only [step, hsame]
      · exact gates_of_rows_map hc.invoices (fun _ => rfl)
    | _ => rfl
  | _ => rfl

/-- Only issuance adds a request, and none is removed. -/
lemma step_ids (L : Ledger) (now : Time) (op : Op) (hop : ∀ input, op ≠ .insertIssued input) :
    (step L now op).ids = L.ids := by
  by_cases hverify : ∃ id verifiedAt, op = .completeVerification id verifiedAt
  · obtain ⟨id', verifiedAt, rfl⟩ := hverify
    refine Table.column_of_rows_map rfl (fun r => ?_)
    split <;> rfl
  · exact ids_of_gates (step_gates L now op hop fun id' verifiedAt h => hverify ⟨id', verifiedAt, h⟩)

lemma request?_eq_none_iff : L.request? id = none ↔ id ∉ L.ids := by
  rw [Ledger.request?, Option.map_eq_none_iff, Table.find?_eq_none_iff, Ledger.ids]

/-- A request as it is issued. -/
def IssuedRequest.request (input : IssuedRequest) : Request where
  id := input.id
  amount := input.amount
  expirationTimestamp := input.expirationTimestamp
  binding := input.initialBinding
  status := .created
  received := 0
  uncollected := 0
  settlementTxHash := none
  settlementTransactionIndex := none
  resolvedAtBlock := none
  drainedAt := none
  sweepJobId := none
  transfers := []

/-- A request that appears in a step was issued by it. -/
lemma request?_step_issued (op : Op) (hnone : L.request? id = none)
    (hq : (step L now op).request? id = some q) :
    ∃ input, op = .insertIssued input ∧
      q = { input.request with transfers := (L.observationsOf id).map (·.transfer) } := by
  have hfresh := request?_eq_none_iff.1 hnone
  have hop : ∃ input, op = .insertIssued input := by
    by_contra hno
    have hids := step_ids L now op (fun input h => hno ⟨input, h⟩)
    rw [← hids, ← request?_eq_none_iff, hq] at hfresh
    cases hfresh
  obtain ⟨input, rfl⟩ := hop
  refine ⟨input, rfl, ?_⟩
  simp only [step, insertIssued] at hq
  split at hq
  · rw [hnone] at hq
    cases hq
  · split at hq
    · rw [hnone] at hq
      cases hq
    · rename_i invoices hins
      obtain ⟨row, hrow, rfl⟩ := Ledger.request?_eq_some.1 hq
      have hfind := (Table.find?_of_insert? hins id).symm.trans hrow
      split at hfind
      · obtain rfl := Option.some.inj hfind
        rfl
      · exact absurd (request?_eq_none_iff.2 hfresh) (by simp [Ledger.request?, hfind])

lemma request?_step_none (op : Op) (hnone : L.request? id = none) (hobs : L.observationsOf id = [])
    (hq : (step L now op).request? id = some q) :
    ∃ input, op = .insertIssued input ∧ q = input.request := by
  obtain ⟨input, hop, hrequest⟩ := request?_step_issued op hnone hq
  rw [hobs] at hrequest
  exact ⟨input, hop, hrequest⟩

/-- The observations of a reachable ledger belong to its requests. -/
lemma Reachable.observationsOf_none (h : Reachable L) (hnone : L.request? id = none) :
    L.observationsOf id = [] := by
  refine Reachable.induction (P := fun L => L.request? id = none → L.observationsOf id = [])
    (fun _ => rfl) (fun L now op ih hnone' => ?_) h hnone
  rcases hq : L.request? id with _ | q
  · refine step_observationsOf_none op ?_ (ih hq)
    exact Option.map_eq_none_iff.1 hq
  · rw [(request?_step now op hq).moved] at hnone'
    cases hnone'

/-- What holds of every issued request and is kept by every event of the life cycle holds of
every request of every reachable ledger. -/
theorem Reachable.request_induction {P : Request → Prop}
    (hissued : ∀ input : IssuedRequest, P input.request)
    (hstep : ∀ q e, P q → q.Enabled e → P (q.apply e)) (h : Reachable L)
    (hq : L.request? id = some q) : P q := by
  obtain ⟨ops, rfl⟩ := h
  -- from the last transaction backwards: the request was there before it, or it was issued
  induction ops using List.reverseRecOn generalizing q with
  | nil => cases hq
  | append_singleton ops op ih =>
    rw [run_append] at hq
    rcases hprev : (run Ledger.empty ops).request? id with _ | q₀
    · have hobs := Reachable.observationsOf_none ⟨ops, rfl⟩ hprev
      obtain ⟨input, -, rfl⟩ := request?_step_none op.2 hprev hobs hq
      exact hissued input
    · obtain ⟨henabled, hmoved⟩ := request?_step op.1 op.2 hprev
      obtain rfl := Option.some.inj (hmoved.symm.trans hq)
      exact hstep q₀ _ (ih hprev) henabled

end Payday
