/-
# The backoff and its range

The scheduler computes `LEAST(base * pow(2, sweep_attempts), cap)` for every request it looks
at, in `double precision`, and the cap comes after the power.  The exponent is the number of
failures since the last drain or release, which nothing bounds; the query succeeds exactly as
long as the power and the product of every request it looks at are representable, and a single
request beyond that stops the whole chain.
-/
import Mathlib.Data.Nat.Cast.Order.Ring
import Mathlib.Tactic.Linarith
import Payday.Ledger.Exhaustion

namespace Payday

/-- The failures counted after one more event. -/
def QueueEvent.countFailure (failures : ℕ) : QueueEvent → ℕ
  | .drained _ | .released => 0
  | .returned _ _ => failures + 1
  | .claimed _ | .flagged _ => failures

/-- The failures since the last drain or release. -/
def failuresIn (events : List QueueEvent) : ℕ := events.foldl QueueEvent.countFailure 0

/-- `pow(2, failures)` and its product with the base are `double precision` values. -/
def Representable (policy : SweepPolicy) (failures : ℕ) : Prop :=
  ((2 ^ failures : ℕ) : ℚ) ≤ maxDouble ∧ policy.backoffBaseSecs * (2 ^ failures : ℕ) ≤ maxDouble

/-- The counter of a request is the number of its failures, and a request outside a job has been
tried exactly if it failed. -/
lemma attempts_of_run {ops : List (Time × Op)} {id : InvoiceId} {row : Invoice}
    (hrow : (run Ledger.empty ops).invoices.find? id = some row) :
    row.sweepAttempts = failuresIn (Ledger.empty.queueHistory id ops) ∧
      (row.sweepJobId = none → (row.lastAttemptAt = none ↔ row.sweepAttempts = 0)) := by
  refine ticket_induction (P := fun events t => t.attempts = failuresIn events ∧
    (t.jobId = none → (t.lastAttemptAt = none ↔ t.attempts = 0))) ⟨rfl, by simp [Ticket.issued]⟩
    (fun now events t e ⟨hattempts, htried⟩ henabled => ?_) hrow
  have hcount : failuresIn (events ++ [e]) = e.countFailure (failuresIn events) := by
    simp [failuresIn]
  rw [hcount, ← hattempts]
  cases e with
  | claimed jobId => exact ⟨rfl, by simp [Ticket.next]⟩
  | returned n result => exact ⟨rfl, by simp [Ticket.next]⟩
  | drained attention => exact ⟨rfl, by simp [Ticket.next]⟩
  | flagged reason => exact ⟨rfl, htried⟩
  | released => exact ⟨rfl, by simp [Ticket.next]⟩

lemma backoffSecs_ok_iff {policy : SweepPolicy} {failures : ℕ} :
    (∃ secs, backoffSecs policy failures = .ok secs) ↔ Representable policy failures := by
  unfold backoffSecs Representable
  simp only
  split
  · rename_i hover
    simp only [reduceCtorEq, exists_false, false_iff, not_and_or, not_le]
    exact hover
  · rename_i hover
    rw [not_or, not_lt, not_lt] at hover
    exact ⟨fun _ => hover, fun _ => ⟨_, rfl⟩⟩

/-- Every row is evaluated, so one of them can fail the query. -/
lemma dueRows_ok_iff {policy : SweepPolicy} {now : Time} {rows : List Invoice} :
    (∃ due, dueRows policy now rows = .ok due) ↔
      ∀ row ∈ rows, row.lastAttemptAt ≠ none → Representable policy row.sweepAttempts := by
  induction rows with
  | nil => simp [dueRows]
  | cons row rest ih =>
    have hrow : (∃ due, backoffElapsed policy now row = .ok due) ↔
        (row.lastAttemptAt ≠ none → Representable policy row.sweepAttempts) := by
      unfold backoffElapsed
      rcases row.lastAttemptAt with _ | last
      · simp
      · rw [← backoffSecs_ok_iff]
        rcases backoffSecs policy row.sweepAttempts with e | secs <;> simp
    rw [List.forall_mem_cons, ← ih, ← hrow]
    simp only [dueRows]
    rcases backoffElapsed policy now row with e | due
    · simp
    · rcases dueRows policy now rest with e | rows' <;> simp

/-- A row of a list in strict order is read exactly if fewer than `n` rows before it are picked. -/
lemma mem_readTo_iff {α : Type*} {key : α → ℕ} {picks : α → Bool} {n : ℕ} {rows : List α}
    (hsorted : rows.Pairwise (fun a b => key a < key b)) {row : α} :
    row ∈ readTo picks n rows ↔
      row ∈ rows ∧ rows.countP (fun other => picks other && decide (key other < key row)) < n := by
  induction rows generalizing n with
  | nil => cases n <;> simp [readTo]
  | cons first rest ih =>
    obtain ⟨hfirst, hrest⟩ := List.pairwise_cons.1 hsorted
    cases n with
    | zero => simp [readTo]
    | succ n =>
      rw [readTo, List.mem_cons, List.mem_cons, ih hrest, List.countP_cons]
      constructor
      · rintro (rfl | ⟨hmem, hcount⟩)
        · have hnone : rest.countP (fun other => picks other && decide (key other < key row)) = 0 := by
            refine List.countP_eq_zero.2 fun other hother => ?_
            simp [(hfirst other hother).le]
          refine ⟨Or.inl rfl, ?_⟩
          rw [hnone]
          simp
        · refine ⟨Or.inr hmem, ?_⟩
          rw [decide_eq_true (hfirst row hmem), Bool.and_true]
          split at hcount <;> simp_all
      · rintro ⟨rfl | hmem, hcount⟩
        · exact Or.inl rfl
        · refine Or.inr ⟨hmem, ?_⟩
          rw [decide_eq_true (hfirst row hmem), Bool.and_true] at hcount
          split <;> simp_all

/-- Whether the row is read: a scan by id ends when the rows before fill the batch. -/
def SweepScan.Reaches (scan : SweepScan) (L : Ledger) (now : Time) (policy : SweepPolicy)
    (chainId : ChainId) (row : Invoice) : Prop :=
  (L.invoices.rows.countP fun other =>
    scan.byId && scan.picks L now policy chainId other && decide (other.id < row.id)) <
      policy.batchSize

lemma SweepScan.mem_reads_iff {scan : SweepScan} {L : Ledger} {now : Time} {policy : SweepPolicy}
    {chainId : ChainId} {row : Invoice} :
    row ∈ scan.reads L now policy chainId ↔
      row ∈ L.invoices.rows ∧ scan.Reaches L now policy chainId row := by
  have hperm := List.perm_insertionSort (fun a b : Invoice => a.id ≤ b.id) L.invoices.rows
  have hsorted : (L.invoices.rows.insertionSort (fun a b => a.id ≤ b.id)).Pairwise
      (fun a b => a.id < b.id) := by
    have hle := List.pairwise_insertionSort (fun a b : Invoice => a.id ≤ b.id) L.invoices.rows
    have hne := List.pairwise_map.1 ((hperm.map Invoice.id).nodup_iff.2 L.invoices.nodup)
    exact (hle.and hne).imp fun h => lt_of_le_of_ne h.1 h.2
  rw [SweepScan.reads, mem_readTo_iff hsorted, hperm.mem_iff, hperm.countP_eq, SweepScan.Reaches]

lemma candidates_ok_iff {L : Ledger} {now : Time} {policy : SweepPolicy} {chainId : ChainId}
    {scan : SweepScan} :
    (∃ rows, candidates L now policy chainId scan = .ok rows) ↔
      ∀ row ∈ L.invoices.rows, scan.Reaches L now policy chainId row →
        scan.computes L chainId row = true → row.lastAttemptAt ≠ none →
        Representable policy row.sweepAttempts := by
  have hdue : (∃ rows, candidates L now policy chainId scan = .ok rows) ↔
      ∃ due, dueRows policy now ((scan.reads L now policy chainId).filter
        (scan.computes L chainId)) = .ok due := by
    unfold candidates
    generalize dueRows policy now _ = result
    rcases result with e | due <;> simp
  rw [hdue, dueRows_ok_iff]
  simp only [List.mem_filter, SweepScan.mem_reads_iff, and_imp]

/-- After every run and for every plan of the database, the scheduler's query on a chain succeeds
exactly if the backoff of every tried request whose backoff it computes is representable: of every
eligible request, locked or not, that is reached before the batch is full. -/
theorem scheduling_query_succeeds_iff (ops : List (Time × Op)) (now : Time) (policy : SweepPolicy)
    (chainId : ChainId) (scan : SweepScan) :
    (∃ rows, candidates (run Ledger.empty ops) now policy chainId scan = .ok rows) ↔
      ∀ row ∈ (run Ledger.empty ops).invoices.rows,
        scan.Reaches (run Ledger.empty ops) now policy chainId row →
        scan.computes (run Ledger.empty ops) chainId row = true → row.lastAttemptAt ≠ none →
        Representable policy (failuresIn (Ledger.empty.queueHistory row.id ops)) := by
  rw [candidates_ok_iff]
  refine forall₂_congr fun row hmem => ?_
  rw [(attempts_of_run (Table.find?_of_mem hmem)).1]

/-! ### A request that keeps failing -/

/-- A second request on the sample chain, which waits for its payer's mailbox. -/
def waitingRequest : IssuedRequest :=
  { sampleRequest with
    id := 8
    expectedEmail := some "payer@example.com"
    initialBinding := some ⟨1, 10, 20, 31, 41, 0, none⟩ }

/-- Both requests are paid in one range. -/
def sharedRun : List (Time × Op) :=
  [(0, .insertIssued sampleRequest), (1, .insertIssued waitingRequest),
    (2, .applyFinalizedRange (sampleRange none 5
      [sampleTransfer 3 0 0 100, { sampleTransfer 3 0 1 100 with recipient := 41 }]))]

/-- A paid request after some failed sweeps. -/
def paidRow (input : IssuedRequest) (issuedAt : Time) (failures : ℕ) (lastAttemptAt : Option Time)
    (updatedAt : Time) : Invoice :=
  { input.row issuedAt with
    status := .funded
    confirmedReceived := 100
    uncollectedCount := 1
    fundedAtBlock := some 3
    fundedAtBlockHash := some 3
    observedAmount := some 100
    paidAt := some 3
    sweepAttempts := failures
    lastAttemptAt := lastAttemptAt
    updatedAt := updatedAt }

/-- The sample request failed some times, and the other one still waits. -/
structure Failing (failures : ℕ) (L : Ledger) : Prop where
  rows : ∃ last updated, L.invoices.rows =
    [paidRow sampleRequest 0 failures last updated, paidRow waitingRequest 1 0 none 2]
  faults : L.chainFaults.rows = []
  cursor : L.cursor 1 = some (sampleCursor 5)
  jobs : ∀ job ∈ L.sweepJobs.rows, job.id < failures

lemma failing_sharedRun : Failing 0 (run Ledger.empty sharedRun) :=
  ⟨⟨none, 2, by decide⟩, by decide, by decide, by decide⟩

lemma eligible_paidRow {L : Ledger} (hcursor : L.cursor 1 = some (sampleCursor 5))
    (failures : ℕ) (last : Option Time) (updated : Time) :
    eligible L 1 (paidRow sampleRequest 0 failures last updated) = true ∧
      eligible L 1 (paidRow waitingRequest 1 0 none 2) = false := by
  have hclock : L.clock 1 = 5 := by
    rw [Ledger.clock, hcursor]
    rfl
  constructor <;> simp [eligible, paidRow, IssuedRequest.row, sampleRequest, waitingRequest, hclock]

/-- The default backoff leaves the range of `double precision` at the 1020th failure. -/
lemma representable_default_iff {failures : ℕ} :
    Representable .default failures ↔ failures < 1020 := by
  have hproduct : SweepPolicy.default.backoffBaseSecs * ((2 ^ failures : ℕ) : ℚ) =
      ((30 * 2 ^ failures : ℕ) : ℚ) := by
    push_cast
    rfl
  rw [Representable, hproduct, maxDouble, Nat.cast_le, Nat.cast_le]
  have hpos := Nat.two_pow_pos 971
  have hbelow : ∀ a b, a + b ≤ failures → 2 ^ a * 2 ^ b ≤ 2 ^ failures := by
    intro a b hle
    rw [← pow_add]
    exact Nat.pow_le_pow_right two_pos hle
  have habove : ∀ a b, failures ≤ a + b → 2 ^ failures ≤ 2 ^ a * 2 ^ b := by
    intro a b hle
    rw [← pow_add]
    exact Nat.pow_le_pow_right two_pos hle
  constructor
  · rintro ⟨-, hle⟩
    by_contra hlarge
    have hpow := hbelow 49 971 (not_lt.1 hlarge)
    generalize 2 ^ 971 = unit at *
    omega
  · intro hlt
    have hpow := habove 48 971 (Nat.le_of_lt_succ hlt)
    generalize 2 ^ 971 = unit at *
    omega

/-- Below that, the backoff is at most an hour. -/
lemma dueRows_paidRow {failures : ℕ} (hfailures : failures < 1020) {last : Option Time}
    {updated now : Time} (hnow : ∀ t ∈ last, t + 3600 * 1000000 ≤ now) :
    dueRows .default now [paidRow sampleRequest 0 failures last updated] =
      .ok [paidRow sampleRequest 0 failures last updated] := by
  have helapsed : backoffElapsed .default now (paidRow sampleRequest 0 failures last updated) =
      .ok true := by
    rcases last with _ | t
    · rfl
    · obtain ⟨hpower, hproduct⟩ := representable_default_iff.2 hfailures
      have hsecs : backoffSecs .default failures = .ok (min
          (SweepPolicy.default.backoffBaseSecs * (2 ^ failures : ℕ))
          SweepPolicy.default.backoffCapSecs) := by
        unfold backoffSecs
        simp only
        rw [if_neg]
        rw [not_or, not_lt, not_lt]
        exact ⟨hpower, hproduct⟩
      have hdue : (t : ℚ) + min (SweepPolicy.default.backoffBaseSecs * (2 ^ failures : ℕ))
          SweepPolicy.default.backoffCapSecs * 1000000 ≤ now := by
        have hcap : min (SweepPolicy.default.backoffBaseSecs * ((2 ^ failures : ℕ) : ℚ))
            SweepPolicy.default.backoffCapSecs ≤ 3600 := min_le_right _ _
        have htime : ((t + 3600 * 1000000 : ℕ) : ℚ) ≤ now := Nat.cast_le.2 (hnow t rfl)
        push_cast at htime
        linarith
      simp only [backoffElapsed, paidRow, hsecs, decide_eq_true hdue]
  simp only [dueRows, helapsed, if_true]

/-- One more job, and its end without a receipt. -/
lemma Failing.round {failures : ℕ} {L : Ledger} (h : Failing failures L)
    (hfailures : failures < 1020) :
    ∃ now, Failing (failures + 1) (run L
      [(now, .scheduleSweepJob .default 1 failures 0 {}),
        (now, .deliver .default (.sweepAbandoned failures (.nonceConsumed 70 3)))]) := by
  obtain ⟨last, updated, hrows⟩ := h.rows
  obtain ⟨helig, hwaits⟩ := eligible_paidRow h.cursor failures last updated
  set row := paidRow sampleRequest 0 failures last updated with hrow
  set other := paidRow waitingRequest 1 0 none 2 with hother
  refine ⟨last.getD 0 + 3600 * 1000000, ?_⟩
  set now := last.getD 0 + 3600 * 1000000 with hnow
  have hcandidates : candidates L now .default 1 {} = .ok [row] := by
    have hreads : SweepScan.reads {} L now .default 1 = [row, other] := by
      rw [SweepScan.reads, hrows]
      rfl
    have hrow' : L.waits 1 row = true := by
      rw [Ledger.waits, helig]
      rfl
    have hother' : L.waits 1 other = false := by rw [Ledger.waits, hwaits, Bool.and_false]
    have hfilter : [row, other].filter (SweepScan.computes {} L 1) = [row] := by
      simp [SweepScan.computes, hrow', hother']
    have hdue : dueRows .default now [row] = .ok [row] := by
      refine dueRows_paidRow hfailures fun t ht => ?_
      rw [hnow, Option.mem_def.1 ht]
      rfl
    rw [candidates, hreads, hfilter, hdue]
    simp [hrow', SweepPolicy.default]
  have hnew : failures ∉ L.sweepJobs.rows.map SweepJob.id := by
    intro hin
    obtain ⟨job, hjob, hid⟩ := List.mem_map.1 hin
    exact absurd (h.jobs job hjob) (by rw [hid]; exact lt_irrefl _)
  have hhalted : L.isHalted 1 = false := by
    rw [Ledger.isHalted, h.faults]
    rfl
  -- the job is opened with the failing request alone
  obtain ⟨L₁, job, hsched⟩ : ∃ L₁ job,
      scheduleSweepJob L now .default 1 failures 0 {} = .ok (L₁, some job) := by
    obtain ⟨jobs, hjobs⟩ : ∃ jobs, L.sweepJobs.insert? ⟨failures, 1, 0, now, none, none, none⟩ =
        some jobs :=
      Option.ne_none_iff_exists'.1 (fun hnone => hnew (Table.insert?_eq_none_iff.1 hnone))
    obtain ⟨items, hitems⟩ : ∃ items, sweepItems L [row] = .ok items := ⟨_, rfl⟩
    simp only [scheduleSweepJob, hhalted, hjobs, hcandidates, hitems]
    exact ⟨_, _, rfl⟩
  rcases scheduleSweepJob_cases hsched with ⟨-, hnone⟩ | ⟨rows, items, -, hs⟩
  · cases hnone
  obtain rfl : rows = [row] := Except.ok.inj (hs.candidates_eq.symm.trans hcandidates)
  have hclaimed : L₁.invoices.rows = [row.claim failures now, other] := by
    rw [hs.invoices, hrows]
    rfl
  have hopen : L₁.jobOpen failures = true := by
    have hfind : L₁.sweepJobs.find? failures = some ⟨failures, 1, 0, now, none, none, none⟩ := by
      rw [Table.find?_eq_some_iff, hs.sweepJobs]
      simp
    rw [Ledger.jobOpen, hfind]
    rfl
  rcases handleOne_close L₁ now .default (.sweepAbandoned failures (.nonceConsumed 70 3)) rfl with
    ⟨hclosed, -⟩ | hclosed
  · rw [hopen] at hclosed
    cases hclosed
  have hstep : run L [(now, .scheduleSweepJob .default 1 failures 0 {}),
      (now, .deliver .default (.sweepAbandoned failures (.nonceConsumed 70 3)))] =
      handleOne L₁ now .default (.sweepAbandoned failures (.nonceConsumed 70 3)) := by
    simp only [run_cons, run_nil, step, hsched]
  rw [hstep]
  refine ⟨⟨some now, now, ?_⟩, ?_, ?_, ?_⟩
  · rw [hclosed.invoices, hclaimed]
    simp only [List.map_cons, List.map_nil]
    rw [if_pos (by simp [Invoice.claim]), if_neg (by simp [hother, paidRow, IssuedRequest.row])]
    rfl
  · rw [hclosed.frame, hs.frame]
    exact h.faults
  · rw [hclosed.frame, hs.frame]
    exact h.cursor
  · have hids : (handleOne L₁ now .default (.sweepAbandoned failures (.nonceConsumed 70 3))
        ).sweepJobs.rows.map SweepJob.id = L.sweepJobs.rows.map SweepJob.id ++ [failures] := by
      rw [Table.column_of_rows_map hclosed.sweepJobs (fun job => by split <;> rfl), hs.sweepJobs,
        List.map_append]
      rfl
    intro job' hjob'
    have hin : job'.id ∈ L.sweepJobs.rows.map SweepJob.id ++ [failures] := by
      rw [← hids]
      exact List.mem_map.2 ⟨job', hjob', rfl⟩
    rcases List.mem_append.1 hin with hold | hlast
    · obtain ⟨job₀, hjob₀, hid⟩ := List.mem_map.1 hold
      rw [← hid]
      exact Nat.lt_succ_of_lt (h.jobs job₀ hjob₀)
    · rw [List.mem_singleton.1 hlast]
      exact Nat.lt_succ_self failures

/-- Every number of failures up to the limit is reached. -/
lemma exists_failing {failures : ℕ} (h : failures ≤ 1020) :
    ∃ ops, Failing failures (run Ledger.empty ops) := by
  induction failures with
  | zero => exact ⟨sharedRun, failing_sharedRun⟩
  | succ n ih =>
    obtain ⟨ops, hn⟩ := ih (by omega)
    obtain ⟨now, hround⟩ := hn.round (by omega)
    refine ⟨ops ++ [(now, .scheduleSweepJob .default 1 n 0 {}),
      (now, .deliver .default (.sweepAbandoned n (.nonceConsumed 70 3)))], ?_⟩
    rw [run_append]
    exact hround

/-- After 1020 abandoned jobs of one request, the default policy's query fails on its chain at
all times and under every plan, while another request that never failed is eligible. -/
theorem failing_request_stops_its_chain :
    ∃ ops, (∃ row, (run Ledger.empty ops).invoices.find? 8 = some row ∧
        eligible (run Ledger.empty ops) 1 row = true ∧ row.sweepAttempts = 0) ∧
      ∀ now scan, ∃ e, candidates (run Ledger.empty ops) now .default 1 scan = .error e := by
  obtain ⟨ops, hfailing⟩ := exists_failing le_rfl
  obtain ⟨last, updated, hrows⟩ := hfailing.rows
  have hrun : run Ledger.empty (ops ++ [(2, .completeVerification 8 2)]) =
      completeVerification (run Ledger.empty ops) 2 8 2 := by
    rw [run_append]
    rfl
  have hverified : (completeVerification (run Ledger.empty ops) 2 8 2).invoices.rows =
      [paidRow sampleRequest 0 1020 last updated,
        { paidRow waitingRequest 1 0 none 2 with verificationCompletedAt := some 2 }] := by
    rw [completeVerification, Table.rows_updateWhere, hrows]
    rfl
  refine ⟨ops ++ [(2, .completeVerification 8 2)],
    ⟨{ paidRow waitingRequest 1 0 none 2 with verificationCompletedAt := some 2 }, ?_, ?_, rfl⟩,
    fun now scan => ?_⟩
  · rw [hrun, Table.find?_eq_some_iff, hverified]
    exact ⟨by simp, rfl⟩
  · rw [hrun]
    have hclock : (completeVerification (run Ledger.empty ops) 2 8 2).clock 1 = 5 := by
      show ((((run Ledger.empty ops).cursor 1).bind (·.blockTimestamp)).getD 0) = 5
      rw [hfailing.cursor]
      rfl
    simp [eligible, paidRow, IssuedRequest.row, waitingRequest, sampleRequest, hclock]
  · -- the failing request is looked at, and its power is not representable
    have hmem : paidRow sampleRequest 0 1020 last updated ∈
        (run Ledger.empty (ops ++ [(2, .completeVerification 8 2)])).invoices.rows := by
      rw [hrun, hverified]
      exact List.mem_cons_self
    have htried : last ≠ none := by
      intro hnone
      have hzero := ((attempts_of_run (Table.find?_of_mem hmem)).2 rfl).1 hnone
      cases hzero
    rcases hcand : candidates (run Ledger.empty (ops ++ [(2, .completeVerification 8 2)])) now
        .default 1 scan with e | rows
    · exact ⟨e, hcand⟩
    · have hcursor : (run Ledger.empty (ops ++ [(2, .completeVerification 8 2)])).cursor 1 =
          some (sampleCursor 5) := by
        rw [hrun]
        exact hfailing.cursor
      have helig := (eligible_paidRow hcursor 1020 last updated).1
      have hcomputes : scan.computes (run Ledger.empty (ops ++ [(2, .completeVerification 8 2)])) 1
          (paidRow sampleRequest 0 1020 last updated) = true := by
        rw [SweepScan.computes, Ledger.waits_iff.2 ⟨rfl, helig⟩, Bool.true_or]
      -- it has the lowest id, so it is read first
      have hreaches : scan.Reaches (run Ledger.empty (ops ++ [(2, .completeVerification 8 2)])) now
          .default 1 (paidRow sampleRequest 0 1020 last updated) := by
        rw [SweepScan.Reaches, hrun, hverified, List.countP_eq_zero.2]
        · decide
        · intro other hother
          rcases List.mem_pair.1 hother with rfl | rfl <;>
            simp [paidRow, IssuedRequest.row, sampleRequest, waitingRequest]
      have hrep := candidates_ok_iff.1 ⟨rows, hcand⟩ _ hmem hreaches hcomputes htried
      exact absurd (representable_default_iff.1 hrep) (lt_irrefl _)

end Payday
