/-
# Replaying a range

`applyFinalizedRange` is a compare-and-set on the cursor of its chain: an answer other than
`applied` comes with an untouched ledger.  When the cursor does match, the logs of the range
may have been recorded long before, by other ranges and against rows that have settled,
drained or expired since.  Such a log is classified again, but the insert conflicts and the
iteration ends there (`recordObservation_of_recorded`), so the loop over any range is the loop
over its unrecorded logs.  A credit the loop did not touch writes nothing back, and all that
is left of a replayed range is the new cursor and the expiry of the requests whose deadline
has passed.
-/
import Payday.Ledger.Recorded

namespace Payday

/-- The log is in the observations table, under its chain, token, transaction and index. -/
def HasLog (observations : Observations) (chainId : ChainId) (o : PaymentObservation) : Prop :=
  observationKey chainId o ∈ observations.rows.map ObservationRow.key

instance (observations : Observations) (chainId : ChainId) (o : PaymentObservation) :
    Decidable (HasLog observations chainId o) :=
  inferInstanceAs (Decidable (_ ∈ _))

/-! ### The compare-and-set -/

section

variable {L L' : Ledger} {now : Time} {range : FinalizedRange}

/-- A range that is not recorded leaves the ledger, and its answer is read off the cursor. -/
lemma applyFinalizedRange_refused (now : Time)
    (hcursor : L.cursor range.chainId ≠ range.expectedCursor) :
    (∃ cursor, L.cursor range.chainId = some cursor ∧ range.endBlock ≤ cursor.block ∧
      applyFinalizedRange L now range = .ok (L, .alreadyApplied cursor)) ∨
    ((∀ cursor, L.cursor range.chainId = some cursor → cursor.block < range.endBlock) ∧
      applyFinalizedRange L now range = .ok (L, .cursorMismatch (L.cursor range.chainId))) := by
  rw [applyFinalizedRange, if_pos hcursor]
  rcases hstored : L.cursor range.chainId with _ | cursor
  · exact Or.inr ⟨by simp, rfl⟩
  · by_cases hend : range.endBlock ≤ cursor.block
    · exact Or.inl ⟨cursor, rfl, hend, if_pos hend⟩
    · refine Or.inr ⟨?_, if_neg hend⟩
      rintro _ ⟨⟩
      omega

/-- A range that meets its cursor is answered `applied`, if it does not fail. -/
lemma recordRange_applied {answer : RangeApplied}
    (h : recordRange L now range = .ok (L', answer)) :
    ∃ funded expired, answer = .applied funded expired range.cursor := by
  unfold recordRange at h
  split at h
  · cases h
  · exact ⟨_, _, (Prod.mk.inj (Except.ok.inj h)).2.symm⟩

/-- Either the cursor was not the expected one and nothing was written, or the range was
recorded. -/
lemma applyFinalizedRange_answer {answer : RangeApplied}
    (h : applyFinalizedRange L now range = .ok (L', answer)) :
    (L' = L ∧ ((∃ cursor, answer = .alreadyApplied cursor ∧
        L.cursor range.chainId = some cursor ∧ range.endBlock ≤ cursor.block) ∨
      answer = .cursorMismatch (L.cursor range.chainId))) ∨
    ∃ funded expired, answer = .applied funded expired range.cursor := by
  by_cases hcursor : L.cursor range.chainId = range.expectedCursor
  · rw [applyFinalizedRange, if_neg (not_not.2 hcursor)] at h
    exact Or.inr (recordRange_applied h)
  · rcases applyFinalizedRange_refused now hcursor with
      ⟨cursor, hstored, hend, heq⟩ | ⟨-, heq⟩
    · obtain ⟨rfl, rfl⟩ := Prod.mk.inj (Except.ok.inj (h.symm.trans heq))
      exact Or.inl ⟨rfl, Or.inl ⟨cursor, rfl, hstored, hend⟩⟩
    · obtain ⟨rfl, rfl⟩ := Prod.mk.inj (Except.ok.inj (h.symm.trans heq))
      exact Or.inl ⟨rfl, Or.inr rfl⟩

end

/-! ### Recorded logs in the loop -/

section

variable {chainId : ChainId} {now : Time}

/-- The iteration of a recorded log ends at the conflict of its insert. -/
lemma recordObservation_of_recorded {st : Credits × Observations} {o : PaymentObservation}
    (h : HasLog st.2 chainId o) : recordObservation chainId now st o = .ok st := by
  unfold recordObservation
  split
  · rfl
  · rename_i credit hcredit
    split
    · rfl
    · -- the key of the row does not depend on how the log is classified
      have hkey : (credit.observationRow chainId now o).key ∈ st.2.rows.map ObservationRow.key := h
      rw [Table.insert?_eq_none_iff.2 hkey]

/-- An iteration only adds to the recorded logs. -/
lemma HasLog.step_loop {st st' : Credits × Observations} {o p : PaymentObservation}
    (h : HasLog st.2 chainId o) (hstep : recordObservation chainId now st p = .ok st') :
    HasLog st'.2 chainId o := by
  have hloop : recordObservations chainId now [p] st = .ok st' := by
    simp only [recordObservations, hstep]
  obtain ⟨new, hrows, -⟩ := recordObservations_rows hloop
  rw [HasLog, hrows, List.map_append]
  exact List.mem_append_left _ h

/-- The loop over a range is the loop over those of its logs that were not recorded before
it. -/
lemma recordObservations_unrecorded (observations : Observations) (obs : List PaymentObservation)
    {st : Credits × Observations}
    (h : ∀ o, HasLog observations chainId o → HasLog st.2 chainId o) :
    recordObservations chainId now obs st =
      recordObservations chainId now (obs.filter (fun o => ¬ HasLog observations chainId o)) st := by
  induction obs generalizing st with
  | nil => rfl
  | cons o rest ih =>
    by_cases ho : HasLog observations chainId o
    · rw [List.filter_cons_of_neg (by simpa using ho), recordObservations,
        recordObservation_of_recorded (h o ho)]
      exact ih h
    · rw [List.filter_cons_of_pos (by simpa using ho), recordObservations, recordObservations]
      rcases hstep : recordObservation chainId now st o with e | st'
      · rfl
      · exact ih fun p hp => (h p hp).step_loop hstep

end

/-! ### A range of recorded logs -/

section

variable {L : Ledger} {now : Time} {range : FinalizedRange}

/-- A credit is loaded untouched. -/
lemma loadCredits_untouched {c : InvoiceCredit} (h : c ∈ (loadCredits L range).rows) :
    c.touched = false := by
  obtain ⟨row, b, -, -, -, -, rfl⟩ := loadCredits_find? (Table.find?_of_mem h)
  rfl

/-- Untouched credits write nothing back. -/
lemma writeCredits_untouched {credits : List InvoiceCredit} (invoices : Table Invoice.id)
    (h : ∀ c ∈ credits, c.touched = false) : writeCredits now credits invoices = invoices := by
  unfold writeCredits
  induction credits with
  | nil => rfl
  | cons c rest ih =>
    have hself : invoices.updateWhere c.writesTo (c.write now) (c.write_id now) = invoices := by
      refine Table.updateWhere_eq_self (c.write_id now) fun row _ => ?_
      simp [InvoiceCredit.writesTo, h c (List.mem_cons_self ..)]
    rw [List.foldl_cons, hself]
    exact ih fun c' hc' => h c' (List.mem_cons_of_mem _ hc')

lemma Invoice.id_expire (now : Time) (range : FinalizedRange) (row : Invoice) :
    (row.expire now range.endBlockTimestamp).id = row.id := rfl

/-- What is left of a range whose logs are all recorded. -/
def replayed (L : Ledger) (now : Time) (range : FinalizedRange) : Ledger :=
  { L with
    invoices := L.invoices.updateWhere (expires range.chainId range.endBlockTimestamp)
      (Invoice.expire now range.endBlockTimestamp) (Invoice.id_expire now range)
    indexerCursor := L.indexerCursor.upsert (range.chainId, range.cursor) }

lemma recordRange_of_recorded (now : Time)
    (h : ∀ o ∈ range.observations, HasLog L.observations range.chainId o) :
    ∃ expired, recordRange L now range =
      .ok (replayed L now range, .applied [] expired range.cursor) := by
  have hfilter :
      range.observations.filter (fun o => ¬ HasLog L.observations range.chainId o) = [] := by
    simpa [List.filter_eq_nil_iff] using h
  have hloop : recordObservations range.chainId now range.observations
      (loadCredits L range, L.observations) = .ok (loadCredits L range, L.observations) := by
    rw [recordObservations_unrecorded L.observations _ (fun _ ho => ho), hfilter]
    rfl
  have hfunded : (loadCredits L range).rows.filter
      (fun credit => credit.touched && credit.crossing.isSome) = [] := by
    refine List.filter_eq_nil_iff.2 fun c hc => ?_
    simp [loadCredits_untouched hc]
  refine ⟨(L.invoices.rows.filter (expires range.chainId range.endBlockTimestamp)).map (·.id), ?_⟩
  simp only [recordRange, hloop, hfunded,
    writeCredits_untouched L.invoices fun c hc => loadCredits_untouched hc]
  rfl

/-- A recorded log stays recorded. -/
lemma HasLog.step_ledger {chainId : ChainId} {o : PaymentObservation}
    (h : HasLog L.observations chainId o) (op : Op) :
    HasLog (step L now op).observations chainId o := by
  rw [HasLog, ← Ledger.recorded_keys] at h ⊢
  rcases step_scan L now op with hsame | ⟨range, funded, expired, -, -, hrecord⟩
  · rw [hsame.recorded]
    exact h
  · obtain ⟨new, hnew, -⟩ := recordRange_recorded hrecord
    rw [hnew, List.map_append]
    exact List.mem_append_left _ h

lemma HasLog.run_ledger {chainId : ChainId} {o : PaymentObservation}
    (h : HasLog L.observations chainId o) (ops : List (Time × Op)) :
    HasLog (run L ops).observations chainId o := by
  induction ops generalizing L with
  | nil => exact h
  | cons op rest ih => exact ih (h.step_ledger op.2)

end

/-- The two rows agree on what the request received, on its flags and on everything else but
its expiry, and the second is expired where its deadline lies before the end block. -/
structure OnlyExpires (range : FinalizedRange) (row row' : Invoice) : Prop where
  confirmedReceived : row'.confirmedReceived = row.confirmedReceived
  uncollectedCount : row'.uncollectedCount = row.uncollectedCount
  attentionReason : row'.attentionReason = row.attentionReason
  likelyUnsolicitedAt : row'.likelyUnsolicitedAt = row.likelyUnsolicitedAt
  status : row'.status =
    if expires range.chainId range.endBlockTimestamp row then .expired else row.status
  rest : row' = { row with
    status := row'.status, expiredAt := row'.expiredAt, updatedAt := row'.updatedAt }

lemma onlyExpires_expireAt (range : FinalizedRange) (now : Time) (row : Invoice) :
    OnlyExpires range row (row.expireAt now range.chainId range.endBlockTimestamp) := by
  unfold Invoice.expireAt
  by_cases hexpires : expires range.chainId range.endBlockTimestamp row = true
  · rw [if_pos hexpires]
    exact ⟨rfl, rfl, rfl, rfl, by rw [if_pos hexpires]; rfl, rfl⟩
  · rw [if_neg hexpires]
    exact ⟨rfl, rfl, rfl, rfl, by rw [if_neg hexpires], rfl⟩

/-- A range that does not meet its cursor changes nothing, and it is called already applied
only when the stored cursor is at its end block or past it; and a range of logs that were
recorded before, whatever ran since, fails on no input, and records nothing: besides the
cursor it writes the expiry of requests whose deadline it passes. -/
theorem finalized_range_replays_to_nothing (L : Ledger) (now : Time) (range : FinalizedRange) :
    (∀ L' cursor, applyFinalizedRange L now range = .ok (L', .alreadyApplied cursor) →
      L' = L ∧ L.cursor range.chainId = some cursor ∧ range.endBlock ≤ cursor.block) ∧
    (∀ L' cursor, applyFinalizedRange L now range = .ok (L', .cursorMismatch cursor) → L' = L) ∧
    ((∀ o ∈ range.observations, HasLog L.observations range.chainId o) → ∀ ops,
      ∃ L' answer, applyFinalizedRange (run L ops) now range = .ok (L', answer) ∧
        L'.observations = (run L ops).observations ∧
        (∀ id row, (run L ops).invoices.find? id = some row → ∃ row',
          L'.invoices.find? id = some row' ∧ (row' = row ∨ OnlyExpires range row row')) ∧
        L' = { run L ops with invoices := L'.invoices, indexerCursor := L'.indexerCursor }) := by
  refine ⟨?_, ?_, ?_⟩
  · intro L' cursor h
    rcases applyFinalizedRange_answer h with
      ⟨hL, ⟨_, hanswer, hstored, hend⟩ | hanswer⟩ | ⟨_, _, hanswer⟩
    · cases hanswer
      exact ⟨hL, hstored, hend⟩
    · cases hanswer
    · cases hanswer
  · intro L' cursor h
    rcases applyFinalizedRange_answer h with ⟨hL, -⟩ | ⟨_, _, hanswer⟩
    · exact hL
    · cases hanswer
  · intro hrecorded ops
    have hrun : ∀ o ∈ range.observations, HasLog (run L ops).observations range.chainId o :=
      fun o ho => (hrecorded o ho).run_ledger ops
    by_cases hcursor : (run L ops).cursor range.chainId = range.expectedCursor
    · obtain ⟨expired, hrange⟩ := recordRange_of_recorded now hrun
      refine ⟨replayed (run L ops) now range, .applied [] expired range.cursor, ?_, rfl, ?_, rfl⟩
      · rw [applyFinalizedRange, if_neg (not_not.2 hcursor)]
        exact hrange
      · intro id row hrow
        refine ⟨row.expireAt now range.chainId range.endBlockTimestamp, ?_,
          Or.inr (onlyExpires_expireAt range now row)⟩
        have hfind := Table.find?_updateWhere (run L ops).invoices
          (expires range.chainId range.endBlockTimestamp)
          (Invoice.expire now range.endBlockTimestamp) (fun _ => rfl) id
        rw [hrow] at hfind
        exact hfind
    · rcases applyFinalizedRange_refused now hcursor with ⟨_, -, -, heq⟩ | ⟨-, heq⟩
      · exact ⟨_, _, heq, rfl, fun _ row hrow => ⟨row, hrow, Or.inl rfl⟩, rfl⟩
      · exact ⟨_, _, heq, rfl, fun _ row hrow => ⟨row, hrow, Or.inl rfl⟩, rfl⟩

/-- The two transfers of `paidRun`, scanned again in a longer range after the request was
settled. -/
theorem finalized_range_replays_to_nothing_paidRun :
    ∃ L' answer, applyFinalizedRange (run Ledger.empty paidRun) 4
        (sampleRange (some (sampleCursor 5)) 2000
          [sampleTransfer 4 1 0 50, sampleTransfer 3 0 0 60]) = .ok (L', answer) ∧
      L'.observations = (run Ledger.empty paidRun).observations := by
  have h := (finalized_range_replays_to_nothing (run Ledger.empty (paidRun.take 2)) 4
    (sampleRange (some (sampleCursor 5)) 2000
      [sampleTransfer 4 1 0 50, sampleTransfer 3 0 0 60])).2.2 (by decide) (paidRun.drop 2)
  obtain ⟨L', answer, hrange, hobservations, -⟩ := h
  exact ⟨L', answer, hrange, hobservations⟩

end Payday
