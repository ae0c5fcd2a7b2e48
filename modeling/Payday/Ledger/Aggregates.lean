/-
# The counters agree with the observations

`uncollected_count` and `confirmed_received` are kept incrementally by the range path and
recomputed by the sweep path.  In every reachable ledger they equal the aggregates of the
observation rows, and a request that is still `created` is short of its amount and has never
been in a sweep job.
-/
import Payday.Ledger.Jobs
import Payday.Ledger.Simulation

namespace Payday

namespace Request

/-- The counters of a request agree with its transfers, and a created request is short of
its amount and in no job. -/
structure Balanced (q : Request) : Prop where
  uncollected : q.uncollected = uncollectedOf q.transfers
  received : q.received = creditedOf q.transfers
  short : q.status = .created → q.received < q.amount
  unclaimed : q.status = .created → q.sweepJobId = none

lemma creditedOf_eq_zero {ts : List Transfer} (h : ts.any (·.isCredited) = false) :
    creditedOf ts = 0 := by
  rw [creditedOf, List.filter_eq_nil_iff.2]
  · rfl
  · simpa using h

/-- The drain of an outcome ends in a terminal status, or keeps the status. -/
lemma status_of_drain? {q : Request} {receipt : FinalizedSweep} {outcome : SweepItemOutcome}
    {drain : Drain} (h : q.drain? receipt outcome = some drain) :
    drain.status = none ∨ drain.status = some .fulfilled ∨ drain.status = some .recovered := by
  rcases outcome with x | x | ⟨x, _ | e⟩ | cause
  · obtain rfl := Option.some.inj h
    exact Or.inr (Or.inl rfl)
  · obtain rfl := Option.some.inj h
    exact Or.inr (Or.inr rfl)
  · obtain rfl := Option.some.inj h
    exact Or.inl rfl
  · obtain rfl := Option.some.inj h
    simp only
    split_ifs
    · exact Or.inl rfl
    · exact Or.inr (Or.inl rfl)
    · exact Or.inr (Or.inr rfl)
  · cases h

/-- A request that left `created` does not return to it. -/
lemma status_apply_ne_created {q : Request} (e : Event) (h : q.status ≠ .created) :
    (q.apply e).status ≠ .created := by
  cases e with
  | quiet => exact h
  | bind binding => exact h
  | expireUnbound => exact (by simp : InvoiceStatus.expired ≠ .created)
  | range fresh endBlockTimestamp =>
    have hfunded : q.fundedStatus (fresh.map q.record) ≠ .created := by
      unfold fundedStatus
      split
      · simp
      · exact h
    simp only [apply, range]
    split
    · simp
    · exact hfunded
  | claim jobId => exact h
  | requeue jobId => exact h
  | receipt receipt outcome =>
    simp only [apply]
    split
    · rename_i drain hdrain
      rcases status_of_drain? hdrain with hs | hs | hs
      · simpa [Request.drain, hs] using h
      · simp [Request.drain, hs]
      · simp [Request.drain, hs]
    · exact h

lemma Balanced.range {q : Request} (h : q.Balanced) (fresh : List PaymentObservation)
    (endBlockTimestamp : ℕ) : (q.range fresh endBlockTimestamp).Balanced := by
  have hcreated : (q.range fresh endBlockTimestamp).status = .created →
      q.fundedStatus (fresh.map q.record) = .created := by
    intro hs
    simp only [Request.range] at hs
    split at hs
    · cases hs
    · exact hs
  have hstatus : q.fundedStatus (fresh.map q.record) = .created → q.status = .created ∧
      ((fresh.map q.record).any (·.isCredited) →
        q.received + creditedOf (fresh.map q.record) < q.amount) := by
    intro hs
    unfold fundedStatus at hs
    split at hs
    · cases hs
    · rename_i hcond
      refine ⟨hs, fun hany => ?_⟩
      by_contra hle
      exact hcond ⟨hs, hany, not_lt.1 hle⟩
  refine ⟨?_, ?_, fun hs => ?_, fun hs => ?_⟩
  · simp only [Request.range, uncollectedOf_append, h.uncollected]
  · simp only [Request.range, creditedOf_append, h.received]
  · obtain ⟨hq, hshort⟩ := hstatus (hcreated hs)
    simp only [Request.range]
    rcases hany : (fresh.map q.record).any (·.isCredited) with _ | _
    · have := h.short hq
      rw [creditedOf_eq_zero hany]
      exact this
    · exact hshort hany
  · exact h.unclaimed (hstatus (hcreated hs)).1

/-- Every event keeps the counters in agreement. -/
lemma Balanced.apply {q : Request} (h : q.Balanced) {e : Event} (he : q.Enabled e) :
    (q.apply e).Balanced := by
  cases e with
  | quiet => exact h
  | bind binding => exact ⟨h.uncollected, h.received, h.short, h.unclaimed⟩
  | expireUnbound =>
    exact ⟨h.uncollected, h.received, fun hs => (by cases hs), fun hs => (by cases hs)⟩
  | range fresh endBlockTimestamp => exact h.range fresh endBlockTimestamp
  | claim jobId =>
    exact ⟨h.uncollected, h.received, fun hs => absurd hs he.2.1, fun hs => absurd hs he.2.1⟩
  | requeue jobId => exact ⟨h.uncollected, h.received, h.short, fun _ => rfl⟩
  | receipt receipt outcome =>
    -- a member of a job is no longer created
    have hnot : q.status ≠ .created := by
      intro hs
      rw [Enabled, h.unclaimed hs] at he
      cases he
    have hnot' := status_apply_ne_created (.receipt receipt outcome) hnot
    refine ⟨?_, ?_, fun hs => absurd hs hnot', fun hs => absurd hs hnot'⟩
    · simp only [Request.apply]
      split
      · rfl
      · exact h.uncollected
    · simp only [Request.apply]
      split
      · rfl
      · exact h.received

end Request

lemma IssuedRequest.balanced (input : IssuedRequest) : input.request.Balanced :=
  ⟨rfl, rfl, fun _ => input.amount_pos, fun _ => rfl⟩

lemma Reachable.balanced {L : Ledger} (h : Reachable L) {id : InvoiceId} {q : Request}
    (hq : L.request? id = some q) : q.Balanced :=
  h.request_induction IssuedRequest.balanced (fun _ _ hb he => hb.apply he) hq

/-- A request named by a job item exists and has left `created`. -/
def Ledger.ItemsFunded (L : Ledger) : Prop :=
  ∀ item ∈ L.jobItems, ∃ q, L.request? item.2 = some q ∧ q.status ≠ .created

lemma itemsFunded_step {L : Ledger} (now : Time) (op : Op) (h : L.ItemsFunded) :
    (step L now op).ItemsFunded := by
  -- a request that has left `created` stays there, whatever the transaction
  have hkeep : ∀ id, (∃ q, L.request? id = some q ∧ q.status ≠ .created) →
      ∃ q, (step L now op).request? id = some q ∧ q.status ≠ .created := by
    rintro id ⟨q, hq, hs⟩
    exact ⟨_, (request?_step now op hq).moved, Request.status_apply_ne_created _ hs⟩
  have hold : (step L now op).jobItems = L.jobItems → (step L now op).ItemsFunded := by
    intro hitems item hitem
    rw [hitems] at hitem
    exact hkeep _ (h item hitem)
  cases step_jobEffect L now op with
  | kept hs => exact hold hs.jobItems
  | unchanged hs => exact hold (by rw [hs])
  | finalized _ hr => exact hold hr.jobItems
  | closed _ _ hr => exact hold hr.jobItems
  | @opened _ _ jobId _ _ rows _ hs =>
    intro item hitem
    have hmem : item ∈ rows.map (fun row => (jobId, row.id)) ∨ item ∈ L.jobItems := by
      have := hitem
      rw [Ledger.jobItems, hs.sweepJobItems, ← List.foldl_map] at this
      simpa [Ledger.jobItems] using Table.mem_keys_foldl_insertNew.1 this
    rcases hmem with hnew | hold'
    · obtain ⟨row, hrow, rfl⟩ := List.mem_map.1 hnew
      obtain ⟨hrows, -, helig, -⟩ := mem_candidates hs.candidates_eq hrow
      refine hkeep _ ⟨row.request (L.observationsOf row.id), ?_, (eligible_iff helig).2.2⟩
      rw [Ledger.request?, Table.find?_of_mem hrows, Option.map_some]
    · exact hkeep _ (h item hold')

lemma Reachable.itemsFunded {L : Ledger} (h : Reachable L) : L.ItemsFunded :=
  h.induction (fun item hitem => by cases hitem) (fun _ now op ih => itemsFunded_step now op ih)

/-- In every reachable ledger the counters of every request are the aggregates of its
observations, and a created request is short of its amount, claimed by no job and named by no
job item. -/
theorem aggregates_never_drift {L : Ledger} (h : Reachable L) {row : Invoice}
    (hrow : row ∈ L.invoices.rows) :
    row.uncollectedCount = ((L.observations.rows.filter (fun r => r.invoiceId = row.id)).countP
        (fun r => r.disposition.kind != .error && r.collectedAt.isNone)) ∧
      row.confirmedReceived = (((L.observations.rows.filter (fun r => r.invoiceId = row.id)).filter
        (fun r => r.disposition.kind == .credited)).map (·.observation.amount)).sum ∧
      (row.status = .created → row.confirmedReceived < row.amount ∧ row.sweepJobId = none ∧
        ∀ item ∈ L.sweepJobItems.rows, item.invoiceId ≠ row.id) := by
  have hq : L.request? row.id = some (row.request (L.observationsOf row.id)) := by
    rw [Ledger.request?, Table.find?_of_mem hrow, Option.map_some]
  have hb := h.balanced hq
  refine ⟨?_, ?_, fun hs => ⟨hb.short hs, hb.unclaimed hs, fun item hitem hid => ?_⟩⟩
  · exact hb.uncollected.trans (uncollectedIn_eq _).symm
  · exact hb.received.trans (creditedIn_eq _).symm
  · obtain ⟨q, hq', hne⟩ := h.itemsFunded (item.jobId, item.invoiceId)
      (List.mem_map.2 ⟨item, hitem, rfl⟩)
    simp only [hid] at hq'
    obtain rfl := Option.some.inj (hq.symm.trans hq')
    exact hne hs

theorem aggregates_never_drift_paidRun :
    ∃ row ∈ (run Ledger.empty paidRun).invoices.rows, row.status = .fulfilled ∧
      row.uncollectedCount = (((run Ledger.empty paidRun).observations.rows.filter
        (fun r => r.invoiceId = row.id)).countP
          (fun r => r.disposition.kind != .error && r.collectedAt.isNone)) :=
  ⟨(run Ledger.empty paidRun).invoices.rows.head (by decide), List.head_mem _, by decide,
    (aggregates_never_drift ⟨paidRun, rfl⟩ (List.head_mem _)).1⟩

end Payday
