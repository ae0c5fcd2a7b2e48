/-
# What a sweep does to one request

The scheduler claims a slice of the queue, and a receipt is applied item by item.  Seen from
one request: it is claimed when it is among the candidates, and a receipt that is accepted
reports on it exactly once if it is a member of the job, and not at all otherwise.
-/
import Payday.Ledger.ExecutionEvents
import Payday.Ledger.Frame

namespace Payday

/-! ### Scheduling -/

lemma dueRows_subset {policy : SweepPolicy} {now : Time} {rows due : List Invoice}
    (h : dueRows policy now rows = .ok due) : due.Sublist rows := by
  induction rows generalizing due with
  | nil =>
    obtain rfl := Except.ok.inj h
    exact List.Sublist.refl _
  | cons row rest ih =>
    unfold dueRows at h
    split at h
    · cases h
    · cases h
    · rename_i isDue rows' _ hrest
      obtain rfl := Except.ok.inj h
      split
      · exact (ih hrest).cons_cons row
      · exact (ih hrest).cons row

/-- What was read are rows of the list. -/
lemma readTo_subset {α : Type*} (picks : α → Bool) (n : ℕ) (rows : List α) :
    readTo picks n rows ⊆ rows := by
  induction rows generalizing n with
  | nil => cases n <;> exact List.nil_subset _
  | cons row rest ih =>
    cases n with
    | zero => exact List.nil_subset _
    | succ n => exact List.cons_subset_cons row (ih _)

lemma SweepScan.mem_of_mem_reads {scan : SweepScan} {L : Ledger} {now : Time}
    {policy : SweepPolicy} {chainId : ChainId} {row : Invoice}
    (h : row ∈ scan.reads L now policy chainId) : row ∈ L.invoices.rows :=
  (List.mem_insertionSort _).1 (readTo_subset _ _ _ h)

lemma Ledger.waits_iff {L : Ledger} {chainId : ChainId} {row : Invoice} :
    L.waits chainId row = true ↔
      row.binding.map (·.chainId) = some chainId ∧ eligible L chainId row = true := by
  rw [Ledger.waits, Bool.and_eq_true, decide_eq_true_eq]

/-- A candidate is a row of the ledger, bound on the chain, eligible and not locked. -/
lemma mem_candidates {L : Ledger} {now : Time} {policy : SweepPolicy} {chainId : ChainId}
    {scan : SweepScan} {rows : List Invoice}
    (h : candidates L now policy chainId scan = .ok rows) {row : Invoice} (hrow : row ∈ rows) :
    row ∈ L.invoices.rows ∧ row.binding.map (·.chainId) = some chainId ∧
      eligible L chainId row = true ∧ row.id ∉ scan.locked := by
  unfold candidates at h
  split at h
  · cases h
  · rename_i due hdue
    obtain rfl := Except.ok.inj h
    obtain ⟨hmem, hcond⟩ := List.mem_filter.1 (List.mem_of_mem_take hrow)
    have hread := (List.mem_filter.1 ((dueRows_subset hdue).subset hmem)).1
    simp only [Bool.and_eq_true, Bool.not_eq_true', List.contains_eq_mem,
      decide_eq_false_iff_not] at hcond
    obtain ⟨hchain, helig⟩ := Ledger.waits_iff.1 hcond.1
    exact ⟨SweepScan.mem_of_mem_reads hread, hchain, helig, hcond.2⟩

/-- The fields of an eligible row. -/
lemma eligible_iff {L : Ledger} {chainId : ChainId} {row : Invoice}
    (h : eligible L chainId row = true) :
    0 < row.uncollectedCount ∧ row.sweepJobId = none ∧ row.status ≠ .created := by
  simp only [eligible, Bool.and_eq_true, Bool.or_eq_true, decide_eq_true_eq,
    Option.isNone_iff_eq_none] at h
  obtain ⟨⟨⟨hcount, hjob⟩, -⟩, hstatus⟩ := h
  refine ⟨hcount, hjob, fun hcreated => ?_⟩
  rw [hcreated] at hstatus
  simp at hstatus

/-- The effect of a scheduling transaction that opened a job for `rows`. -/
structure Scheduled (L L' : Ledger) (now : Time) (policy : SweepPolicy) (chainId : ChainId)
    (jobId : JobId) (correlationId : ℕ) (scan : SweepScan) (rows : List Invoice)
    (items : List SweepItem) : Prop where
  rows_ne_nil : rows ≠ []
  candidates_eq : candidates L now policy chainId scan = .ok rows
  items_eq : sweepItems L rows = .ok items
  job_new : jobId ∉ L.sweepJobs.rows.map SweepJob.id
  sweepJobs : L'.sweepJobs.rows =
    L.sweepJobs.rows ++ [⟨jobId, chainId, correlationId, now, none, none, none⟩]
  invoices : L'.invoices.rows = L.invoices.rows.map (fun row =>
    if (rows.map (·.id)).contains row.id then row.claim jobId now else row)
  sweepJobItems : L'.sweepJobItems = rows.foldl (fun table row =>
    table.insertNew ⟨jobId, row.id, row.sweepAttempts, none, none⟩) L.sweepJobItems
  commands : L'.commands = L.commands.insertNew ⟨jobId, chainId, items⟩
  frame : L' = { L with
    sweepJobs := L'.sweepJobs
    invoices := L'.invoices
    sweepJobItems := L'.sweepJobItems
    commands := L'.commands }

/-- What one scheduling transaction does: nothing, or one job with its claims, its items and
its command. -/
lemma scheduleSweepJob_cases {L L' : Ledger} {now : Time} {policy : SweepPolicy}
    {chainId : ChainId} {jobId : JobId} {correlationId : ℕ} {scan : SweepScan}
    {result : Option ScheduledSweepJob}
    (h : scheduleSweepJob L now policy chainId jobId correlationId scan = .ok (L', result)) :
    (L' = L ∧ result = none) ∨
      ∃ rows items, result = some ⟨jobId, correlationId, rows.map (·.id)⟩ ∧
        Scheduled L L' now policy chainId jobId correlationId scan rows items := by
  unfold scheduleSweepJob at h
  split at h
  · exact Or.inl ⟨(Prod.mk.inj (Except.ok.inj h)).1.symm, (Prod.mk.inj (Except.ok.inj h)).2.symm⟩
  · split at h
    · cases h
    · rename_i jobs hjobs
      obtain ⟨hnew, hrows⟩ := Table.insert?_eq_some_iff.1 hjobs
      split at h
      · cases h
      · exact Or.inl ⟨(Prod.mk.inj (Except.ok.inj h)).1.symm,
          (Prod.mk.inj (Except.ok.inj h)).2.symm⟩
      · rename_i first rest hcand
        simp only at h
        split at h
        · cases h
        · rename_i items hitems
          obtain ⟨hL, hres⟩ := Prod.mk.inj (Except.ok.inj h)
          refine Or.inr ⟨first :: rest, items, hres.symm, ?_⟩
          subst hL
          exact ⟨by simp, hcand, hitems, hnew, hrows, rfl, rfl, rfl, rfl⟩

/-- Scheduling claims the candidates and leaves the other requests alone. -/
lemma Scheduled.request {L L' : Ledger} {now : Time} {policy : SweepPolicy}
    {chainId : ChainId} {jobId : JobId} {correlationId : ℕ} {scan : SweepScan}
    {rows : List Invoice} {items : List SweepItem} {id : InvoiceId} {q : Request}
    (h : Scheduled L L' now policy chainId jobId correlationId scan rows items)
    (hq : L.request? id = some q) :
    (id ∉ rows.map (·.id) → L'.request? id = some q) ∧
      (id ∈ rows.map (·.id) → q.Enabled (.claim jobId) ∧
        L'.request? id = some (q.apply (.claim jobId))) := by
  obtain ⟨row, hrow, rfl⟩ := Ledger.request?_eq_some.1 hq
  have hid : row.id = id := Table.key_of_find? hrow
  have hobs : L'.observationsOf id = L.observationsOf id := by
    rw [h.frame]
    rfl
  have hfind : L'.invoices.find? id =
      some (if (rows.map (·.id)).contains id then row.claim jobId now else row) := by
    rw [Table.find?_of_rows_map h.invoices (fun r => by split <;> rfl), hrow, Option.map_some, hid]
  rw [Ledger.request?, hfind, Option.map_some, hobs]
  constructor
  · intro hout
    rw [if_neg (by simpa using hout)]
  · intro hin
    obtain ⟨row', hrow', hid'⟩ := List.mem_map.1 hin
    obtain ⟨hrows, hchain, helig, -⟩ := mem_candidates h.candidates_eq hrow'
    have hsame : row' = row := L.invoices.eq_of_key_eq hrows (Table.mem_of_find? hrow)
      (hid'.trans hid.symm)
    subst hsame
    obtain ⟨hcount, hjob, hstatus⟩ := eligible_iff helig
    have hbound : row'.binding.isSome := by
      rcases hb : row'.binding with _ | b
      · rw [hb] at hchain
        cases hchain
      · rfl
    rw [if_pos (by simpa using hin)]
    exact ⟨⟨hjob, hstatus, hcount, hbound⟩, rfl⟩

/-! ### One decision -/

/-- A drain of an observation is a drain of its transfer. -/
lemma transfer_drainObservation (row : Invoice) (rows : List ObservationRow)
    (receipt : FinalizedSweep) (drain : Drain) (r : ObservationRow) :
    (drainObservation row receipt drain r).transfer =
      Transfer.drain receipt.position ((row.request rows).drainPosition drain)
        row.expirationTimestamp (.invoice (drain.status.getD row.status)) r.transfer := by
  have hcollect : (r.collect receipt.position).transfer =
      ⟨r.observation, r.disposition,
        if r.isUncollected && decide (r.observation.position < receipt.position) then
          some receipt.position else r.collectedAt⟩ := by
    unfold ObservationRow.collect
    split <;> rfl
  have hreclassify : ∀ (s : ObservationRow) p t reason,
      (s.reclassify p t reason).transfer = ⟨s.observation,
        if s.disposition.kind = .error then s.disposition
        else if s.observation.blockTimestamp ≤ t ∧ s.observation.position < p then .credited
        else if t < s.observation.blockTimestamp then .late (.invoice .expired)
        else .late reason, s.collectedAt⟩ := by
    intro s p t reason
    unfold ObservationRow.reclassify
    split_ifs <;> rfl
  have hobservation := congrArg Transfer.observation hcollect
  have hdisposition := congrArg Transfer.disposition hcollect
  have hcollectedAt := congrArg Transfer.collectedAt hcollect
  simp only [ObservationRow.transfer] at hobservation hdisposition hcollectedAt
  rw [drainObservation, hreclassify, hobservation, hdisposition, hcollectedAt]
  rfl

lemma drainObservation_invoiceId (row : Invoice) (receipt : FinalizedSweep) (drain : Drain)
    (r : ObservationRow) : (drainObservation row receipt drain r).invoiceId = r.invoiceId := by
  unfold drainObservation ObservationRow.reclassify ObservationRow.collect
  split_ifs <;> rfl

lemma writeDrain_observationsOf (L : Ledger) (now : Time) (row : Invoice)
    (receipt : FinalizedSweep) (drain : Drain) (id : InvoiceId) :
    (writeDrain L now row receipt drain).observationsOf id = (L.observationsOf id).map (fun r =>
      if decide (r.invoiceId = row.id) then drainObservation row receipt drain r else r) :=
  observationsOf_updateWhere rfl (drainObservation_invoiceId row receipt drain) id

/-- The observations of the drained request are drained. -/
lemma writeDrain_observationsOf_self (L : Ledger) (now : Time) (row : Invoice)
    (receipt : FinalizedSweep) (drain : Drain) :
    (writeDrain L now row receipt drain).observationsOf row.id =
      (L.observationsOf row.id).map (drainObservation row receipt drain) := by
  rw [writeDrain_observationsOf]
  refine List.map_congr_left fun r hr => ?_
  rw [if_pos (by simpa using (List.mem_filter.1 hr).2)]

lemma writeDrain_find? {L : Ledger} {now : Time} {row r : Invoice} {receipt : FinalizedSweep}
    {drain : Drain} {id : InvoiceId} (hr : L.invoices.find? id = some r) :
    (writeDrain L now row receipt drain).invoices.find? id =
      some (if r.id = row.id then r.drain receipt drain
        (uncollectedIn ((writeDrain L now row receipt drain).observationsOf row.id))
        (creditedIn ((writeDrain L now row receipt drain).observationsOf row.id)) now else r) := by
  refine (Table.find?_of_rows_map rfl (fun r => ?_) id).trans ?_
  · split <;> rfl
  · rw [hr, Option.map_some]
    simp only [decide_eq_true_eq]
    rfl

/-- A drained request moves by its drain. -/
lemma applyDrain_self {L : Ledger} {now : Time} {row : Invoice} {receipt : FinalizedSweep}
    {drain : Drain} (hrow : L.invoices.find? row.id = some row) :
    (applyDrain L now row receipt drain).request? row.id =
      some ((row.request (L.observationsOf row.id)).drain receipt drain) := by
  have htransfers : ((L.observationsOf row.id).map (drainObservation row receipt drain)).map
      (·.transfer) = (row.request (L.observationsOf row.id)).transfers.map
        (Transfer.drain receipt.position
          ((row.request (L.observationsOf row.id)).drainPosition drain)
          row.expirationTimestamp (.invoice (drain.status.getD row.status))) := by
    simp only [Invoice.request, List.map_map]
    refine List.map_congr_left fun r _ => ?_
    exact transfer_drainObservation row _ receipt drain r
  have hwrite : (writeDrain L now row receipt drain).request? row.id =
      some ((row.request (L.observationsOf row.id)).drain receipt drain) := by
    rw [Ledger.request?, writeDrain_find? hrow, if_pos rfl, Option.map_some,
      writeDrain_observationsOf_self]
    simp only [Invoice.request, Invoice.drain, uncollectedIn_eq, creditedIn_eq, htransfers]
    rfl
  unfold applyDrain
  split
  · exact hwrite
  · rw [flagAttentionIn_request, hwrite]

/-- The observations of other requests are not drained. -/
lemma writeDrain_observationsOf_other {L : Ledger} {now : Time} {row : Invoice}
    {receipt : FinalizedSweep} {drain : Drain} {id : InvoiceId} (hne : id ≠ row.id) :
    (writeDrain L now row receipt drain).observationsOf id = L.observationsOf id := by
  rw [writeDrain_observationsOf]
  conv_rhs => rw [← List.map_id (L.observationsOf id)]
  refine List.map_congr_left fun r hr => ?_
  have hr' : r.invoiceId = id := by simpa using (List.mem_filter.1 hr).2
  rw [if_neg (by simpa [hr'] using hne)]
  rfl

/-- Other requests are not drained. -/
lemma applyDrain_other {L : Ledger} {now : Time} {row : Invoice} {receipt : FinalizedSweep}
    {drain : Drain} {id : InvoiceId} (hne : id ≠ row.id) :
    (applyDrain L now row receipt drain).request? id = L.request? id := by
  have hobs : (writeDrain L now row receipt drain).observationsOf id = L.observationsOf id :=
    writeDrain_observationsOf_other hne
  have hwrite : (writeDrain L now row receipt drain).request? id = L.request? id := by
    rcases hr : L.invoices.find? id with _ | r
    · have hnone : (writeDrain L now row receipt drain).invoices.find? id = none := by
        refine (Table.find?_of_rows_map rfl (fun r => ?_) id).trans ?_
        · split <;> rfl
        · rw [hr, Option.map_none]
      rw [Ledger.request?, Ledger.request?, hnone, hr]
      rfl
    · have hid : r.id ≠ row.id := by
        rw [Table.key_of_find? hr]
        exact hne
      rw [Ledger.request?, Ledger.request?, writeDrain_find? hr, if_neg hid, hobs, hr]
  unfold applyDrain
  split
  · exact hwrite
  · rw [flagAttentionIn_request, hwrite]

/-- A request that is returned to the queue. -/
lemma requeue_request {L : Ledger} {now : Time} {id id' : InvoiceId} {q : Request}
    (hq : L.request? id = some q) :
    (requeue L now id').request? id = some (if id = id' then { q with sweepJobId := none } else q) := by
  obtain ⟨row, hrow, rfl⟩ := Ledger.request?_eq_some.1 hq
  have hid : row.id = id := Table.key_of_find? hrow
  have hfind : (requeue L now id').invoices.find? id =
      some (if id = id' then row.requeue now else row) := by
    refine (Table.find?_of_rows_map rfl (fun r => ?_) id).trans ?_
    · split <;> rfl
    · rw [hrow, Option.map_some]
      simp only [decide_eq_true_eq, hid]
  rw [Ledger.request?, hfind, Option.map_some]
  split <;> rfl

/-- One item's decision moves its request by the receipt and no other request. -/
lemma applyDecision_request {L : Ledger} {now : Time} {row : Invoice} {receipt : FinalizedSweep}
    {outcome : SweepItemOutcome} {policy : SweepPolicy} {id : InvoiceId} {q : Request}
    (hrow : L.invoices.find? row.id = some row) (hq : L.request? id = some q) :
    (applyDecision L now row receipt (decideItem row receipt outcome policy)).request? id =
      some (if id = row.id then q.apply (.receipt receipt outcome) else q) := by
  have hself : id = row.id → row.request (L.observationsOf row.id) = q := by
    rintro rfl
    rw [Ledger.request?, hrow] at hq
    exact Option.some.inj hq
  -- whatever is not a drain returns the request to the queue
  have hfail : (∀ drain, decideItem row receipt outcome policy ≠ .drained drain) → id = row.id →
      q.apply (.receipt receipt outcome) = { q with sweepJobId := none } := by
    intro hno hid
    have hnone : q.drain? receipt outcome = none := by
      rw [Option.eq_none_iff_forall_ne_some]
      intro drain hdrain
      rw [← hself hid] at hdrain
      exact hno drain (decideItem_drained_iff.2 hdrain)
    rw [Request.apply, hnone]
  rcases hd : decideItem row receipt outcome policy with drain | _ | reason
  · by_cases hid : id = row.id
    · have hdrain : q.drain? receipt outcome = some drain := by
        rw [← hself hid]
        exact decideItem_drained_iff.1 hd
      rw [if_pos hid, Request.apply, hdrain, ← hself hid, hid]
      exact applyDrain_self hrow
    · rw [if_neg hid, ← hq]
      exact applyDrain_other hid
  · simp only [applyDecision]
    rw [requeue_request hq]
    split
    · rename_i hid
      rw [hfail (by rw [hd]; simp) hid]
    · rfl
  · simp only [applyDecision]
    rw [flagAttentionIn_request, requeue_request hq]
    split
    · rename_i hid
      rw [hfail (by rw [hd]; simp) hid]
    · rfl

/-! ### The loop over the items -/

lemma Request.apply_receipt_sweepJobId (q : Request) (receipt : FinalizedSweep)
    (outcome : SweepItemOutcome) : (q.apply (.receipt receipt outcome)).sweepJobId = none := by
  simp only [Request.apply]
  split <;> rfl

/-- A loop that ends without an error reports on a request at most once, and only while the
request is a member of the job. -/
lemma applyItems_request {now : Time} {receipt : FinalizedSweep} {policy : SweepPolicy}
    {items : List SweepItemResult} {applied applied' : AppliedSweep} {L L' : Ledger}
    (h : applyItems now receipt policy items applied L = (L', .ok applied')) {id : InvoiceId}
    {q : Request} (hq : L.request? id = some q) :
    (L'.request? id = some q ∧ items.find? (fun item => item.invoiceId = id) = none) ∨
      ∃ item, items.find? (fun item => item.invoiceId = id) = some item ∧
        q.sweepJobId = some receipt.jobId ∧
        L'.request? id = some (q.apply (.receipt receipt item.outcome)) := by
  induction items generalizing applied L q with
  | nil =>
    obtain rfl := (Prod.mk.inj h).1
    exact Or.inl ⟨hq, rfl⟩
  | cons item rest ih =>
    unfold applyItems at h
    split at h
    · cases (Prod.mk.inj h).2
    · rename_i row hmember
      obtain ⟨hrow, hjob⟩ := Option.filter_eq_some_iff.1 hmember
      have hid : row.id = item.invoiceId := Table.key_of_find? hrow
      have hstep : (recordOutcome (applyDecision L now row receipt
          (decideItem row receipt item.outcome policy)) receipt.jobId item).request? id =
          some (if id = row.id then q.apply (.receipt receipt item.outcome) else q) :=
        (request?_congr id rfl rfl).trans (applyDecision_request (hid ▸ hrow) hq)
      by_cases hi : item.invoiceId = id
      · right
        have hq' : q.sweepJobId = some receipt.jobId := by
          obtain ⟨row', hrow', rfl⟩ := Ledger.request?_eq_some.1 hq
          rw [hi, hrow'] at hrow
          obtain rfl := Option.some.inj hrow
          exact of_decide_eq_true hjob
        rw [if_pos (hi.symm.trans hid.symm)] at hstep
        refine ⟨item, by simp [hi], hq', ?_⟩
        -- the request left the job, so no later item is about it
        rcases ih h hstep with ⟨hsame, -⟩ | ⟨_, _, habsurd, _⟩
        · exact hsame
        · rw [Request.apply_receipt_sweepJobId] at habsurd
          cases habsurd
      · rw [if_neg (fun e => hi (hid.symm.trans e.symm))] at hstep
        have hskip : (item :: rest).find? (fun item => item.invoiceId = id) =
            rest.find? (fun item => item.invoiceId = id) := by
          rw [List.find?_cons_of_neg (by simpa using hi)]
        rw [hskip]
        exact ih h hstep

/-! ### Resolving a job -/

@[simp] lemma flagAttentionIn_sweepJobs (L : Ledger) (now : Time) (id : InvoiceId)
    (reason : String) : (flagAttentionIn L now id reason).sweepJobs = L.sweepJobs := by
  unfold flagAttentionIn
  split <;> rfl

lemma applyDecision_sweepJobs (L : Ledger) (now : Time) (row : Invoice)
    (receipt : FinalizedSweep) (decision : ItemDecision) :
    (applyDecision L now row receipt decision).sweepJobs = L.sweepJobs := by
  rcases decision with drain | _ | reason
  · simp only [applyDecision, applyDrain]
    split
    · rfl
    · rw [flagAttentionIn_sweepJobs]
      rfl
  · rfl
  · simp only [applyDecision, flagAttentionIn_sweepJobs]
    rfl

/-- Applying items resolves no job. -/
lemma applyItems_sweepJobs (now : Time) (receipt : FinalizedSweep) (policy : SweepPolicy)
    (items : List SweepItemResult) (applied : AppliedSweep) (L : Ledger) :
    (applyItems now receipt policy items applied L).1.sweepJobs = L.sweepJobs := by
  induction items generalizing applied L with
  | nil => rfl
  | cons item rest ih =>
    unfold applyItems
    split
    · rfl
    · rw [ih]
      exact applyDecision_sweepJobs ..

/-- The loop fails on a foreign item only. -/
lemma applyItems_error {now : Time} {receipt : FinalizedSweep} {policy : SweepPolicy}
    {items : List SweepItemResult} {applied : AppliedSweep} {L L' : Ledger} {e : SweepError}
    (h : applyItems now receipt policy items applied L = (L', .error e)) :
    ∃ id, e = .foreignItem receipt.jobId id := by
  induction items generalizing applied L with
  | nil => cases (Prod.mk.inj h).2
  | cons item rest ih =>
    unfold applyItems at h
    split at h
    · exact ⟨item.invoiceId, (Except.error.inj (Prod.mk.inj h).2).symm⟩
    · exact ih h

/-- The job a resolution leaves behind. -/
def SweepJob.resolve (resolution : JobResolution) (now : Time) (txHash : Option Hash)
    (job : SweepJob) : SweepJob :=
  { job with
    resolution := some (resolution, now)
    submittedTxHash := txHash.or job.submittedTxHash }

/-- Resolving succeeds exactly on an open job, and writes that job only. -/
lemma resolveJob_of_open {L : Ledger} {jobId : JobId} (hopen : L.jobOpen jobId = true) (now : Time)
    (resolution : JobResolution) (txHash : Option Hash) :
    ∃ L', resolveJob L now jobId resolution txHash = (L', .ok ()) ∧
      L'.sweepJobs.rows = L.sweepJobs.rows.map (fun job =>
        if decide (job.id = jobId) && job.resolution.isNone then job.resolve resolution now txHash
        else job) ∧
      L' = { L with sweepJobs := L'.sweepJobs } := by
  refine ⟨(resolveJob L now jobId resolution txHash).1, ?_, ?_, ?_⟩
  · unfold resolveJob
    rw [if_pos hopen]
  · unfold resolveJob
    rw [if_pos hopen]
    rfl
  · unfold resolveJob
    rw [if_pos hopen]

/-- The effect of an accepted receipt. -/
structure Finalized (L L' : Ledger) (now : Time) (policy : SweepPolicy) (receipt : FinalizedSweep)
    (applied : AppliedSweep) (L₁ : Ledger) : Prop where
  job_open : L.jobOpen receipt.jobId = true
  items : applyItems now receipt policy receipt.items {} L = (L₁, .ok applied)
  members : L₁.memberCount receipt.jobId = 0
  sweepJobs : L'.sweepJobs.rows = L.sweepJobs.rows.map (fun job =>
    if decide (job.id = receipt.jobId) && job.resolution.isNone then
      job.resolve .finalized now (some receipt.txHash)
    else job)
  frame : L' = { L₁ with sweepJobs := L'.sweepJobs }

/-- What a receipt does: it is a duplicate, or it is refused, or it is applied. -/
lemma applySweepFinalized_cases (L : Ledger) (now : Time) (receipt : FinalizedSweep)
    (policy : SweepPolicy) :
    (L.jobOpen receipt.jobId = false ∧
      applySweepFinalized L now receipt policy = (L, .error (.notOpen receipt.jobId))) ∨
    (L.jobOpen receipt.jobId = true ∧ ∃ L' e, (∀ jobId, e ≠ .notOpen jobId) ∧
      applySweepFinalized L now receipt policy = (L', .error e)) ∨
    (∃ L' applied L₁, applySweepFinalized L now receipt policy = (L', .ok applied) ∧
      Finalized L L' now policy receipt applied L₁) := by
  rcases hopen : L.jobOpen receipt.jobId with _ | _
  · left
    simp [applySweepFinalized, hopen]
  · right
    rcases hitems : applyItems now receipt policy receipt.items {} L with ⟨L₁, e | applied⟩
    · left
      obtain ⟨id, rfl⟩ := applyItems_error hitems
      refine ⟨rfl, L₁, .foreignItem receipt.jobId id, by simp, ?_⟩
      simp [applySweepFinalized, hopen, hitems]
    · by_cases hcount : L₁.memberCount receipt.jobId = 0
      · right
        have hjobs : L₁.sweepJobs = L.sweepJobs := by
          have := applyItems_sweepJobs now receipt policy receipt.items {} L
          rw [hitems] at this
          exact this
        have hopen₁ : L₁.jobOpen receipt.jobId = true := by
          rw [← hopen, Ledger.jobOpen, Ledger.jobOpen, hjobs]
        obtain ⟨L', hresolve, hrows, hframe⟩ :=
          resolveJob_of_open hopen₁ now .finalized (some receipt.txHash)
        refine ⟨L', applied, L₁, ?_, hopen, hitems, hcount, hjobs ▸ hrows, hframe⟩
        simp [applySweepFinalized, hopen, hitems, hcount, hresolve]
      · left
        refine ⟨rfl, L₁, .missingOutcomes receipt.jobId (L₁.memberCount receipt.jobId), by simp, ?_⟩
        simp [applySweepFinalized, hopen, hitems, hcount]

/-- An accepted receipt moves the members of its job, each by its own item, and nobody
else. -/
lemma Finalized.request {L L' L₁ : Ledger} {now : Time} {policy : SweepPolicy}
    {receipt : FinalizedSweep} {applied : AppliedSweep} {id : InvoiceId} {q : Request}
    (h : Finalized L L' now policy receipt applied L₁) (hq : L.request? id = some q) :
    (q.sweepJobId ≠ some receipt.jobId → L'.request? id = some q) ∧
      (q.sweepJobId = some receipt.jobId →
        ∃ item, receipt.items.find? (fun item => item.invoiceId = id) = some item ∧
          L'.request? id = some (q.apply (.receipt receipt item.outcome))) := by
  have hsame : L'.request? id = L₁.request? id := by
    rw [h.frame]
    exact request?_congr id rfl rfl
  rw [hsame]
  rcases applyItems_request h.items hq with ⟨hkeep, -⟩ | ⟨item, hitem, hjob, hmove⟩
  · refine ⟨fun _ => hkeep, fun hjob => ?_⟩
    -- a member without an item would still be a member
    exfalso
    obtain ⟨row, hrow, rfl⟩ := Ledger.request?_eq_some.1 hkeep
    have hpos : 0 < L₁.memberCount receipt.jobId :=
      List.countP_pos_iff.2 ⟨row, Table.mem_of_find? hrow, decide_eq_true hjob⟩
    rw [h.members] at hpos
    exact absurd hpos (lt_irrefl 0)
  · exact ⟨fun hne => absurd hjob hne, fun _ => ⟨item, hitem, hmove⟩⟩

/-- The effect of closing a job without a receipt. -/
structure Closed (L L' : Ledger) (now : Time) (jobId : JobId) (resolution : JobResolution)
    (txHash : Option Hash) : Prop where
  job_open : L.jobOpen jobId = true
  invoices : L'.invoices.rows = L.invoices.rows.map (fun row =>
    if decide (row.sweepJobId = some jobId) then row.requeue now else row)
  sweepJobItems : L'.sweepJobItems.rows = L.sweepJobItems.rows.map (fun i =>
    if decide (i.jobId = jobId) then { i with outcome := some resolution.asStr } else i)
  sweepJobs : L'.sweepJobs.rows = L.sweepJobs.rows.map (fun job =>
    if decide (job.id = jobId) && job.resolution.isNone then job.resolve resolution now txHash
    else job)
  frame : L' = { L with
    invoices := L'.invoices
    sweepJobItems := L'.sweepJobItems
    sweepJobs := L'.sweepJobs }

lemma closeWithoutEffect_cases (L : Ledger) (now : Time) (jobId : JobId)
    (resolution : JobResolution) (txHash : Option Hash) :
    (L.jobOpen jobId = false ∧
      closeWithoutEffect L now jobId resolution txHash = (L, .error (.notOpen jobId))) ∨
    (∃ L' n, closeWithoutEffect L now jobId resolution txHash = (L', .ok n) ∧
      Closed L L' now jobId resolution txHash) := by
  rcases hopen : L.jobOpen jobId with _ | _
  · left
    simp [closeWithoutEffect, hopen]
  · right
    obtain ⟨L', hresolve, hrows, hframe⟩ := resolveJob_of_open
      (L := { L with
        invoices := L.invoices.updateWhere (fun row => decide (row.sweepJobId = some jobId))
          (Invoice.requeue now)
        sweepJobItems := L.sweepJobItems.updateWhere (fun i => decide (i.jobId = jobId))
          (fun i => { i with outcome := some resolution.asStr }) }) hopen now resolution txHash
    refine ⟨L', L.memberCount jobId, ?_, hopen, ?_, ?_, hrows, ?_⟩
    · simp only [closeWithoutEffect, hopen, not_true_eq_false, if_false, hresolve]
    · rw [hframe]
      rfl
    · rw [hframe]
      rfl
    · rw [hframe]

/-- Closing a job returns its members to the queue. -/
lemma Closed.request {L L' : Ledger} {now : Time} {jobId : JobId} {resolution : JobResolution}
    {txHash : Option Hash} {id : InvoiceId} {q : Request}
    (h : Closed L L' now jobId resolution txHash) (hq : L.request? id = some q) :
    L'.request? id =
      some (if q.sweepJobId = some jobId then q.apply (.requeue jobId) else q) := by
  obtain ⟨row, hrow, rfl⟩ := Ledger.request?_eq_some.1 hq
  have hfind : L'.invoices.find? id =
      some (if decide (row.sweepJobId = some jobId) then row.requeue now else row) := by
    rw [Table.find?_of_rows_map h.invoices (fun r => by split <;> rfl), hrow, Option.map_some]
  have hobs : L'.observationsOf id = L.observationsOf id := by
    rw [h.frame]
    rfl
  have hjob : (row.request (L.observationsOf id)).sweepJobId = row.sweepJobId := rfl
  rw [Ledger.request?, hfind, Option.map_some, hobs, hjob]
  by_cases hmember : row.sweepJobId = some jobId
  · rw [if_pos hmember, if_pos (by simpa using hmember)]
    rfl
  · rw [if_neg hmember, if_neg (by simpa using hmember)]

/-! ### Deliveries -/

/-- A delivered receipt is applied or leaves the ledger as it was. -/
lemma handleOne_sweepFinalized (L : Ledger) (now : Time) (policy : SweepPolicy)
    (receipt : FinalizedSweep) :
    (handleOne L now policy (.sweepFinalized receipt) = L ∧
      ∃ e, (applySweepFinalized L now receipt policy).2 = .error e) ∨
    (∃ applied L₁, (applySweepFinalized L now receipt policy).2 = .ok applied ∧
      Finalized L (handleOne L now policy (.sweepFinalized receipt)) now policy receipt
        applied L₁) := by
  rcases applySweepFinalized_cases L now receipt policy with
    ⟨-, heq⟩ | ⟨-, L', e, hne, heq⟩ | ⟨L', applied, L₁, heq, hfin⟩
  · left
    simp [handleOne, handle, heq, sweepOutcome]
  · left
    refine ⟨?_, e, by rw [heq]⟩
    rcases e with e | id | jobId | ⟨jobId, id⟩ | ⟨jobId, n⟩
    · simp [handleOne, handle, heq, sweepOutcome]
    · simp [handleOne, handle, heq, sweepOutcome]
    · exact absurd rfl (hne jobId)
    · simp [handleOne, handle, heq, sweepOutcome]
    · simp [handleOne, handle, heq, sweepOutcome]
  · right
    refine ⟨applied, L₁, by rw [heq], ?_⟩
    simpa [handleOne, handle, heq, sweepOutcome] using hfin

/-- A delivered abandonment or rejection closes an open job, or leaves the ledger as it
was. -/
lemma handleOne_close (L : Ledger) (now : Time) (policy : SweepPolicy) (event : ExecutionEvent)
    {jobId : JobId} {resolution : JobResolution} {txHash : Option Hash}
    (h : handle L now policy event = ((closeWithoutEffect L now jobId resolution txHash).1,
      sweepOutcome (closeWithoutEffect L now jobId resolution txHash).2)) :
    (L.jobOpen jobId = false ∧ handleOne L now policy event = L) ∨
      Closed L (handleOne L now policy event) now jobId resolution txHash := by
  rcases closeWithoutEffect_cases L now jobId resolution txHash with
    ⟨hclosed, heq⟩ | ⟨L', n, heq, hclose⟩
  · left
    exact ⟨hclosed, by simp [handleOne, h, heq, sweepOutcome]⟩
  · right
    simpa [handleOne, h, heq, sweepOutcome] using hclose

end Payday
