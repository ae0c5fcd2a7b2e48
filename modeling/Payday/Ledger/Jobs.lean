/-
# What a transaction does to the jobs

The jobs, their items and their commands change in two ways only: scheduling opens a job with
its items and its command, and an accepted event resolves an open job.  `step_jobEffect` says
so for every transaction.
-/
import Payday.Ledger.Operations
import Payday.Ledger.SweepLoop

namespace Payday

/-- The keys of `sweep_job_items`. -/
def Ledger.jobItems (L : Ledger) : List (JobId × InvoiceId) :=
  L.sweepJobItems.rows.map (fun i => (i.jobId, i.invoiceId))

/-- The resolution of a job, if the job exists. -/
def Ledger.resolution? (L : Ledger) (jobId : JobId) : Option (Option (JobResolution × Time)) :=
  (L.sweepJobs.find? jobId).map (·.resolution)

lemma jobOpen_iff {L : Ledger} {jobId : JobId} :
    L.jobOpen jobId = true ↔ L.resolution? jobId = some none := by
  rw [Ledger.jobOpen, Ledger.resolution?]
  rcases L.sweepJobs.find? jobId with _ | job
  · simp
  · simp

/-- Jobs, items and commands are as they were. -/
structure SameJobs (L L' : Ledger) : Prop where
  resolution? : ∀ jobId, L'.resolution? jobId = L.resolution? jobId
  jobItems : L'.jobItems = L.jobItems
  commands : L'.commands = L.commands

lemma SameJobs.of_eq {L L' : Ledger} (hjobs : L'.sweepJobs = L.sweepJobs)
    (hitems : L'.sweepJobItems = L.sweepJobItems) (hcommands : L'.commands = L.commands) :
    SameJobs L L' :=
  ⟨fun jobId => by rw [Ledger.resolution?, hjobs, Ledger.resolution?],
    by rw [Ledger.jobItems, hitems, Ledger.jobItems], hcommands⟩

lemma SameJobs.refl (L : Ledger) : SameJobs L L := SameJobs.of_eq rfl rfl rfl

lemma SameJobs.trans {L₁ L₂ L₃ : Ledger} (h : SameJobs L₁ L₂) (h' : SameJobs L₂ L₃) :
    SameJobs L₁ L₃ :=
  ⟨fun jobId => (h'.resolution? jobId).trans (h.resolution? jobId),
    h'.jobItems.trans h.jobItems, h'.commands.trans h.commands⟩

/-- One job was resolved; items and commands are as they were. -/
structure Resolves (L L' : Ledger) (jobId : JobId) (resolution : JobResolution) (now : Time) :
    Prop where
  job_open : L.resolution? jobId = some none
  resolution? : ∀ j, L'.resolution? j =
    if j = jobId then some (some (resolution, now)) else L.resolution? j
  jobItems : L'.jobItems = L.jobItems
  commands : L'.commands = L.commands

/-- The operations that write jobs or claims: scheduling, and the events that resolve a job. -/
def Op.writesJobs : Op → Bool
  | .scheduleSweepJob .. => true
  | .deliver _ event => event.resolves
  | _ => false

/-- What a transaction can do to the jobs. -/
inductive JobEffect (L L' : Ledger) (now : Time) : Op → Prop
  | opened {policy : SweepPolicy} {chainId : ChainId} {jobId : JobId} {correlationId : ℕ}
      {scan : SweepScan} {rows : List Invoice} {items : List SweepItem}
      (h : Scheduled L L' now policy chainId jobId correlationId scan rows items) :
      JobEffect L L' now (.scheduleSweepJob policy chainId jobId correlationId scan)
  | finalized {policy : SweepPolicy} {receipt : FinalizedSweep} {applied : AppliedSweep}
      {L₁ : Ledger} (hf : Finalized L L' now policy receipt applied L₁)
      (h : Resolves L L' receipt.jobId .finalized now) :
      JobEffect L L' now (.deliver policy (.sweepFinalized receipt))
  | closed {policy : SweepPolicy} {event : ExecutionEvent} {resolution : JobResolution}
      {txHash : Option Hash} (he : event.resolves = true)
      (hc : Closed L L' now event.jobId resolution txHash)
      (h : Resolves L L' event.jobId resolution now) :
      JobEffect L L' now (.deliver policy event)
  | kept {op : Op} (h : SameJobs L L') (hop : op.writesJobs = false) : JobEffect L L' now op
  | unchanged {op : Op} (h : L' = L) : JobEffect L L' now op

lemma flagAttentionIn_sameJobs (L : Ledger) (now : Time) (id : InvoiceId) (reason : String) :
    SameJobs L (flagAttentionIn L now id reason) := by
  unfold flagAttentionIn
  split <;> exact SameJobs.of_eq rfl rfl rfl

lemma unparkUnlessPending_sameJobs (L : Ledger) (now : Time) (id : InvoiceId) :
    SameJobs L (unparkUnlessPending L now id) := by
  unfold unparkUnlessPending
  split
  · exact SameJobs.refl L
  · simp only
    split <;> exact SameJobs.of_eq rfl rfl rfl

lemma recordOutcome_sameJobs (L : Ledger) (jobId : JobId) (item : SweepItemResult) :
    SameJobs L (recordOutcome L jobId item) := by
  refine ⟨fun _ => rfl, ?_, rfl⟩
  refine Table.column_of_rows_map rfl (fun i => ?_)
  split <;> rfl

lemma applyDecision_sameJobs (L : Ledger) (now : Time) (row : Invoice) (receipt : FinalizedSweep)
    (decision : ItemDecision) : SameJobs L (applyDecision L now row receipt decision) := by
  rcases decision with drain | _ | reason
  · have hwrite : SameJobs L (writeDrain L now row receipt drain) := SameJobs.of_eq rfl rfl rfl
    simp only [applyDecision, applyDrain]
    split
    · exact hwrite
    · exact hwrite.trans (flagAttentionIn_sameJobs ..)
  · exact SameJobs.of_eq rfl rfl rfl
  · exact (SameJobs.of_eq rfl rfl rfl : SameJobs L (requeue L now row.id)).trans
      (flagAttentionIn_sameJobs ..)

lemma applyItems_sameJobs (now : Time) (receipt : FinalizedSweep) (policy : SweepPolicy)
    (items : List SweepItemResult) (applied : AppliedSweep) (L : Ledger) :
    SameJobs L (applyItems now receipt policy items applied L).1 := by
  induction items generalizing applied L with
  | nil => exact SameJobs.refl L
  | cons item rest ih =>
    unfold applyItems
    split
    · exact SameJobs.refl L
    · exact ((applyDecision_sameJobs ..).trans (recordOutcome_sameJobs ..)).trans (ih _ _)

/-- The update of `resolve_job` on the table of jobs. -/
lemma resolution?_of_resolve {L L' : Ledger} {jobId : JobId} {resolution : JobResolution}
    {now : Time} {txHash : Option Hash} (hopen : L.jobOpen jobId = true)
    (h : L'.sweepJobs.rows = L.sweepJobs.rows.map (fun job =>
      if decide (job.id = jobId) && job.resolution.isNone then job.resolve resolution now txHash
      else job)) (j : JobId) :
    L'.resolution? j = if j = jobId then some (some (resolution, now)) else L.resolution? j := by
  have hfind : L'.sweepJobs.find? j = (L.sweepJobs.find? j).map (fun job =>
      if decide (job.id = jobId) && job.resolution.isNone then job.resolve resolution now txHash
      else job) :=
    Table.find?_of_rows_map h (fun job => by split <;> rfl) j
  rw [Ledger.resolution?, hfind, Option.map_map]
  split
  · rename_i hj
    subst hj
    obtain ⟨job, hjob, hnone⟩ := Option.map_eq_some_iff.1 (jobOpen_iff.1 hopen)
    rw [hjob, Option.map_some]
    simp [Table.key_of_find? hjob, hnone, SweepJob.resolve]
  · rename_i hj
    rcases hfindj : L.sweepJobs.find? j with _ | job
    · rw [Ledger.resolution?, hfindj]
      rfl
    · have hid : job.id ≠ jobId := by
        rw [Table.key_of_find? hfindj]
        exact hj
      rw [Ledger.resolution?, hfindj]
      simp [hid]

lemma Finalized.resolves {L L' L₁ : Ledger} {now : Time} {policy : SweepPolicy}
    {receipt : FinalizedSweep} {applied : AppliedSweep}
    (h : Finalized L L' now policy receipt applied L₁) :
    Resolves L L' receipt.jobId .finalized now := by
  have hsame := applyItems_sameJobs now receipt policy receipt.items {} L
  rw [h.items] at hsame
  refine ⟨jobOpen_iff.1 h.job_open, resolution?_of_resolve h.job_open h.sweepJobs, ?_, ?_⟩
  · rw [h.frame]
    exact hsame.jobItems
  · rw [h.frame]
    exact hsame.commands

lemma Closed.resolves {L L' : Ledger} {now : Time} {jobId : JobId} {resolution : JobResolution}
    {txHash : Option Hash} (h : Closed L L' now jobId resolution txHash) :
    Resolves L L' jobId resolution now := by
  refine ⟨jobOpen_iff.1 h.job_open, resolution?_of_resolve h.job_open h.sweepJobs, ?_, ?_⟩
  · refine Table.column_of_rows_map h.sweepJobItems (fun i => ?_)
    split <;> rfl
  · rw [h.frame]

lemma deliver_close_jobEffect {L : Ledger} {now : Time} {policy : SweepPolicy}
    {event : ExecutionEvent} {resolution : JobResolution} {txHash : Option Hash}
    (he : event.resolves = true) (h : handle L now policy event = ((closeWithoutEffect L now event.jobId resolution txHash).1,
      sweepOutcome (closeWithoutEffect L now event.jobId resolution txHash).2)) :
    JobEffect L (handleOne L now policy event) now (.deliver policy event) := by
  rcases handleOne_close L now policy event h with ⟨-, hsame⟩ | hc
  · exact .unchanged hsame
  · exact .closed he hc hc.resolves

/-- Every transaction opens a job, resolves one, or leaves the jobs as they were. -/
theorem step_jobEffect (L : Ledger) (now : Time) (op : Op) :
    JobEffect L (step L now op) now op := by
  cases op with
  | insertIssued input =>
    refine .kept ?_ rfl
    simp only [step, insertIssued]
    split
    · exact SameJobs.refl L
    · split <;> exact SameJobs.of_eq rfl rfl rfl
  | bindPayerWallet nowSecs id' wallet binding =>
    refine .kept ?_ rfl
    simp only [step, bindPayerWallet, writeBinding]
    split <;> exact SameJobs.of_eq rfl rfl rfl
  | bindNetwork id' binding =>
    refine .kept ?_ rfl
    simp only [step, bindNetwork, writeBinding]
    split <;> exact SameJobs.of_eq rfl rfl rfl
  | raiseFault faultId chainId reason block =>
    refine .kept ?_ rfl
    simp only [step, raiseFault]
    split <;> exact SameJobs.of_eq rfl rfl rfl
  | insertRelayIntent intent =>
    refine .kept ?_ rfl
    simp only [step, insertRelayIntent]
    split <;> exact SameJobs.of_eq rfl rfl rfl
  | resolveFilled id' fills origin relayStatus =>
    refine .kept ?_ rfl
    simp only [step, resolveFilled]
    split
    · exact SameJobs.refl L
    · split
      · exact SameJobs.refl L
      · refine SameJobs.trans ?_ (unparkUnlessPending_sameJobs ..)
        split <;> exact SameJobs.of_eq rfl rfl rfl
  | resolveFailed id' failure relayStatus =>
    refine .kept ?_ rfl
    simp only [step, resolveFailed]
    split
    · exact SameJobs.refl L
    · refine SameJobs.trans ?_ (unparkUnlessPending_sameJobs ..)
      exact SameJobs.of_eq rfl rfl rfl
  | applyFinalizedRange range =>
    refine .kept ?_ rfl
    simp only [step]
    rcases happly : applyFinalizedRange L now range with e | ⟨L', result⟩
    · exact SameJobs.refl L
    · rcases applyFinalizedRange_cases happly with ⟨rfl, -⟩ | ⟨-, hrecord, -⟩
      · exact SameJobs.refl L'
      · obtain ⟨-, -, -, hframe⟩ := recordRange_eq_ok hrecord
        simp only
        rw [hframe]
        exact SameJobs.of_eq rfl rfl rfl
  | scheduleSweepJob policy chainId jobId correlationId scan =>
    simp only [step]
    rcases hsched : scheduleSweepJob L now policy chainId jobId correlationId scan with
      e | ⟨L', result⟩
    · exact .unchanged rfl
    · rcases scheduleSweepJob_cases hsched with ⟨rfl, -⟩ | ⟨rows, items, -, hs⟩
      · exact .unchanged rfl
      · exact .opened hs
  | flagAttention id' reason => exact .kept (flagAttentionIn_sameJobs ..) rfl
  | deliver policy event =>
    cases event with
    | sweepSubmitted jobId txHash =>
      refine .kept ⟨fun j => ?_, rfl, rfl⟩ rfl
      rw [Ledger.resolution?]
      have hfind : ((step L now (.deliver policy (.sweepSubmitted jobId txHash))).sweepJobs.find? j) =
          (L.sweepJobs.find? j).map (fun job =>
            if decide (job.id = jobId) && job.resolution.isNone then
              { job with submittedTxHash := some txHash, submittedAt := some now }
            else job) :=
        Table.find?_of_rows_map rfl (fun job => by split <;> rfl) j
      rw [hfind, Option.map_map, Ledger.resolution?]
      congr 1
      funext job
      simp only [Function.comp_apply]
      split <;> rfl
    | sweepFinalized receipt =>
      rcases handleOne_sweepFinalized L now policy receipt with ⟨hsame, -⟩ | ⟨applied, L₁, -, hf⟩
      · exact .unchanged hsame
      · exact .finalized hf hf.resolves
    | sweepAbandoned jobId reason => exact deliver_close_jobEffect rfl rfl
    | executionRejected jobId reason => exact deliver_close_jobEffect rfl rfl
    | _ => exact .unchanged rfl
  | _ => exact .kept (SameJobs.of_eq rfl rfl rfl) rfl

/-- A transaction that writes no claims leaves the claim of every request. -/
lemma event_keeps_job {L : Ledger} {now : Time} {op : Op} (hop : op.writesJobs = false)
    (id : InvoiceId) (q : Request) :
    (q.apply (L.event now op id)).sweepJobId = q.sweepJobId := by
  unfold Ledger.event
  split
  · rfl
  · cases op with
    | bindPayerWallet nowSecs id' wallet binding =>
      simp only [eventOf, bindEvent]
      split_ifs <;> rfl
    | bindNetwork id' binding =>
      simp only [eventOf, bindEvent]
      split_ifs <;> rfl
    | expireUnbound chainTime =>
      simp only [eventOf]
      split_ifs <;> rfl
    | applyFinalizedRange range =>
      simp only [eventOf, rangeEvent]
      split
      · split_ifs <;> rfl
      · rfl
    | scheduleSweepJob policy chainId jobId correlationId scan => cases hop
    | deliver policy event =>
      cases event with
      | sweepFinalized receipt => cases hop
      | sweepAbandoned jobId reason => cases hop
      | executionRejected jobId reason => cases hop
      | _ => rfl
    | _ => rfl

end Payday
