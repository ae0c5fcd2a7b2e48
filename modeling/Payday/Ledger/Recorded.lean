/-
# What is recorded stays recorded

A row of `payment_observations` is inserted by a finalized range and only ever updated in its
disposition, its collection mark and its Relay columns.  `Ledger.recorded` keeps the rest: the
chain, the request and the log.  No transaction changes it except a range that is applied,
which adds logs of its own; the same holds of the cursors.
-/
import Payday.Ledger.Operations
import Payday.Ledger.SweepLoop

namespace Payday

/-- What no transaction changes about an observation. -/
structure Recorded where
  chainId : ChainId
  invoiceId : InvoiceId
  observation : PaymentObservation
deriving DecidableEq

def ObservationRow.recorded (r : ObservationRow) : Recorded := ⟨r.chainId, r.invoiceId, r.observation⟩

/-- The recorded logs, in the order they were recorded. -/
def Ledger.recorded (L : Ledger) : List Recorded := L.observations.rows.map (·.recorded)

def Recorded.key (x : Recorded) : ChainId × Address × Hash × ℕ := observationKey x.chainId x.observation

lemma Ledger.recorded_keys (L : Ledger) :
    L.recorded.map (·.key) = L.observations.rows.map ObservationRow.key := by
  rw [Ledger.recorded, List.map_map]
  rfl

lemma Ledger.observationsOf_eq_nil_iff {L : Ledger} {id : InvoiceId} :
    L.observationsOf id = [] ↔ ∀ x ∈ L.recorded, x.invoiceId ≠ id := by
  simp [Ledger.observationsOf, Ledger.recorded, List.filter_eq_nil_iff, ObservationRow.recorded]

section

variable {L L' : Ledger}

/-- What only a range writes is the same in both ledgers. -/
structure SameScan (L L' : Ledger) : Prop where
  recorded : L'.recorded = L.recorded
  indexerCursor : L'.indexerCursor = L.indexerCursor

lemma SameScan.refl (L : Ledger) : SameScan L L := ⟨rfl, rfl⟩

lemma SameScan.trans {L₁ L₂ L₃ : Ledger} (h : SameScan L₁ L₂) (h' : SameScan L₂ L₃) :
    SameScan L₁ L₃ :=
  ⟨h'.recorded.trans h.recorded, h'.indexerCursor.trans h.indexerCursor⟩

/-- An update of the other columns. -/
lemma SameScan.of_rows_map {p : ObservationRow → Bool} {f : ObservationRow → ObservationRow}
    (h : L'.observations.rows = L.observations.rows.map (fun r => if p r then f r else r))
    (hf : ∀ r, (f r).recorded = r.recorded) (hcursor : L'.indexerCursor = L.indexerCursor) :
    SameScan L L' := by
  refine ⟨?_, hcursor⟩
  rw [Ledger.recorded, Ledger.recorded, h, List.map_map]
  refine List.map_congr_left fun r _ => ?_
  simp only [Function.comp_apply]
  split
  · exact hf r
  · rfl

lemma flagAttentionIn_sameScan (L : Ledger) (now : Time) (id : InvoiceId) (reason : String) :
    SameScan L (flagAttentionIn L now id reason) := by
  unfold flagAttentionIn
  split <;> exact ⟨rfl, rfl⟩

lemma unparkUnlessPending_sameScan (L : Ledger) (now : Time) (id : InvoiceId) :
    SameScan L (unparkUnlessPending L now id) := by
  unfold unparkUnlessPending
  split
  · exact SameScan.refl L
  · simp only
    split
    · exact SameScan.refl L
    · apply SameScan.of_rows_map
      · rfl
      · exact fun _ => rfl
      · rfl

lemma resolveFilled_sameScan (L : Ledger) (now : Time) (intentId : IntentId) (fills : List Hash)
    (origin : Hash) (relayStatus : String) :
    SameScan L (resolveFilled L now intentId fills origin relayStatus) := by
  unfold resolveFilled
  split
  · exact SameScan.refl L
  · split
    · exact SameScan.refl L
    · simp only
      refine SameScan.trans ?_ (unparkUnlessPending_sameScan _ now _)
      split
      · exact ⟨rfl, rfl⟩
      · apply SameScan.of_rows_map
        · rfl
        · exact fun _ => rfl
        · rfl

lemma drainObservation_recorded (row : Invoice) (receipt : FinalizedSweep) (drain : Drain)
    (r : ObservationRow) : (drainObservation row receipt drain r).recorded = r.recorded := by
  unfold drainObservation ObservationRow.reclassify ObservationRow.collect
  split_ifs <;> rfl

lemma applyDecision_sameScan (L : Ledger) (now : Time) (row : Invoice) (receipt : FinalizedSweep)
    (decision : ItemDecision) : SameScan L (applyDecision L now row receipt decision) := by
  rcases decision with drain | _ | reason
  · have hwrite : SameScan L (writeDrain L now row receipt drain) :=
      SameScan.of_rows_map rfl (drainObservation_recorded row receipt drain) rfl
    simp only [applyDecision, applyDrain]
    split
    · exact hwrite
    · exact hwrite.trans (flagAttentionIn_sameScan _ _ _ _)
  · exact ⟨rfl, rfl⟩
  · have hrequeue : SameScan L (requeue L now row.id) := ⟨rfl, rfl⟩
    exact hrequeue.trans (flagAttentionIn_sameScan _ _ _ _)

lemma applyItems_sameScan (now : Time) (receipt : FinalizedSweep) (policy : SweepPolicy)
    (items : List SweepItemResult) (applied : AppliedSweep) (L : Ledger) :
    SameScan L (applyItems now receipt policy items applied L).1 := by
  induction items generalizing applied L with
  | nil => exact SameScan.refl L
  | cons item rest ih =>
    unfold applyItems
    split
    · exact SameScan.refl L
    · rename_i row _
      have hdecision := applyDecision_sameScan L now row receipt
        (decideItem row receipt item.outcome policy)
      have hfirst : SameScan L (recordOutcome (applyDecision L now row receipt
          (decideItem row receipt item.outcome policy)) receipt.jobId item) :=
        ⟨hdecision.recorded, hdecision.indexerCursor⟩
      exact hfirst.trans (ih _ _)

/-! ### What a range records -/

/-- The loop records logs of the range, each as the credit at its recipient says. -/
lemma recordObservations_rows {chainId : ChainId} {now : Time} {obs : List PaymentObservation}
    {st st' : Credits × Observations} (h : recordObservations chainId now obs st = .ok st') :
    ∃ new, st'.2.rows = st.2.rows ++ new ∧ ∀ r ∈ new, r.observation ∈ obs ∧
      ∃ c, st.1.find? r.observation.recipient = some c ∧ c.token = r.observation.token ∧
        r = c.observationRow chainId now r.observation := by
  induction obs generalizing st with
  | nil =>
    obtain rfl := Except.ok.inj h
    exact ⟨[], by simp, by simp⟩
  | cons o rest ih =>
    unfold recordObservations at h
    split at h
    · cases h
    · rename_i st₁ hstep
      obtain ⟨new, hrows, hnew⟩ := ih h
      rcases recordObservation_cases hstep with ⟨rfl, -⟩ | ⟨c, c', hc, htoken, -, hrow, hcount, hfind⟩
      · exact ⟨new, hrows, fun r hr => ⟨by simp [(hnew r hr).1], (hnew r hr).2⟩⟩
      · refine ⟨c.observationRow chainId now o :: new, by rw [hrows, hrow]; simp, ?_⟩
        intro r hr
        rcases List.mem_cons.1 hr with rfl | hr
        · exact ⟨by simp [InvoiceCredit.observationRow], c, hc, htoken, rfl⟩
        · obtain ⟨hmem, d, hd, hdtoken, hrow'⟩ := hnew r hr
          refine ⟨by simp [hmem], ?_⟩
          -- the credit of the recipient kept its terms in the first iteration
          rw [hfind] at hd
          split at hd
          · rename_i heq
            obtain rfl := Option.some.inj hd
            have hterms := InvoiceCredit.countAll_terms hcount
            refine ⟨c, heq ▸ hc, ?_, ?_⟩
            · rw [← InvoiceCredit.token_of_terms hterms, hdtoken]
            · rw [← InvoiceCredit.observationRow_congr hterms]
              exact hrow'
          · exact ⟨d, hd, hdtoken, hrow'⟩

/-- The rows a recorded range adds, each as the request bound to its recipient and token
classifies it. -/
lemma recordRange_rows {now : Time} {range : FinalizedRange} {applied : RangeApplied}
    (h : recordRange L now range = .ok (L', applied)) :
    ∃ new, L'.observations.rows = L.observations.rows ++ new ∧ ∀ r ∈ new,
      r.observation ∈ range.observations ∧ ∃ row b, L.invoices.find? r.invoiceId = some row ∧
        row.binding = some b ∧ b.chainId = range.chainId ∧
        b.paymentAddress = r.observation.recipient ∧ b.token = r.observation.token ∧
        r = (InvoiceCredit.ofRow (range.loads L.relayIntents.rows) row b).observationRow range.chainId now
          r.observation := by
  obtain ⟨credits, hloop, -, -⟩ := recordRange_eq_ok h
  obtain ⟨new, hrows, hnew⟩ := recordObservations_rows hloop
  refine ⟨new, hrows, fun r hr => ?_⟩
  obtain ⟨hmem, c, hc, htoken, hrecord⟩ := hnew r hr
  obtain ⟨row, b, hrow, hb, hbc, haddr, rfl⟩ := loadCredits_find? hc
  have hid : r.invoiceId = row.id := by rw [hrecord]; rfl
  refine ⟨hmem, row, b, ?_, hb, hbc, haddr, htoken, hrecord⟩
  rw [hid]
  exact Table.find?_of_mem hrow

/-- The logs a recorded range adds, each for a request bound to its recipient and token. -/
lemma recordRange_recorded {now : Time} {range : FinalizedRange} {applied : RangeApplied}
    (h : recordRange L now range = .ok (L', applied)) :
    ∃ new, L'.recorded = L.recorded ++ new ∧ ∀ x ∈ new, x.chainId = range.chainId ∧
      x.observation ∈ range.observations ∧ ∃ row b, L.invoices.find? x.invoiceId = some row ∧
        row.binding = some b ∧ b.chainId = range.chainId ∧
        b.paymentAddress = x.observation.recipient ∧ b.token = x.observation.token := by
  obtain ⟨new, hrows, hnew⟩ := recordRange_rows h
  refine ⟨new.map (·.recorded), by rw [Ledger.recorded, hrows, List.map_append]; rfl, ?_⟩
  intro x hx
  obtain ⟨r, hr, rfl⟩ := List.mem_map.1 hx
  obtain ⟨hmem, row, b, hrow, hb, hbc, haddr, htoken, hrecord⟩ := hnew r hr
  have hchain : r.chainId = range.chainId := by rw [hrecord]; rfl
  exact ⟨hchain, hmem, row, b, hrow, hb, hbc, haddr, htoken⟩

/-- After the loop every log that matches a credit is recorded, now or before. -/
lemma recordObservations_seen {chainId : ChainId} {now : Time} {obs : List PaymentObservation}
    {st st' : Credits × Observations} (h : recordObservations chainId now obs st = .ok st')
    {o : PaymentObservation} (ho : o ∈ obs) {c : InvoiceCredit}
    (hc : st.1.find? o.recipient = some c) (htoken : c.token = o.token) :
    observationKey chainId o ∈ st'.2.rows.map ObservationRow.key := by
  induction obs generalizing st c with
  | nil => cases ho
  | cons first rest ih =>
    unfold recordObservations at h
    split at h
    · cases h
    · rename_i st₁ hstep
      obtain ⟨new, hrows, -⟩ := recordObservations_rows h
      have hkept : ∀ k, k ∈ st₁.2.rows.map ObservationRow.key →
          k ∈ st'.2.rows.map ObservationRow.key := by
        intro k hk
        rw [hrows, List.map_append]
        exact List.mem_append_left _ hk
      rcases List.mem_cons.1 ho with rfl | ho
      · -- the log's own iteration
        rcases recordObservation_cases hstep with ⟨rfl, hseen⟩ | ⟨d, d', -, -, -, hrow, -, -⟩
        · exact hkept _ (hseen c hc htoken)
        · refine hkept _ ?_
          rw [hrow, List.map_append]
          exact List.mem_append_right _ (by simp [InvoiceCredit.observationRow, ObservationRow.key])
      · rcases recordObservation_cases hstep with ⟨rfl, -⟩ | ⟨d, d', hd, -, -, -, hcount, hfind⟩
        · exact ih h ho hc htoken
        · -- the credit may have been counted up, with the same terms
          by_cases hsame : o.recipient = first.recipient
          · rw [hsame] at hc
            obtain rfl := Option.some.inj (hd.symm.trans hc)
            refine ih h ho (by rw [hfind, if_pos hsame]) ?_
            rw [InvoiceCredit.token_of_terms (InvoiceCredit.countAll_terms hcount), htoken]
          · exact ih h ho (by rw [hfind, if_neg hsame]; exact hc) htoken

/-- After a range every transfer of a request's own token that is in it is recorded. -/
lemma recordRange_seen {now : Time} {range : FinalizedRange} {applied : RangeApplied}
    (h : recordRange L now range = .ok (L', applied)) {row : Invoice} {b : Binding}
    (hrow : row ∈ L.invoices.rows) (hb : row.binding = some b) (hchain : b.chainId = range.chainId)
    (huniq : ∀ row' ∈ L.invoices.rows, ∀ b', row'.binding = some b' → b'.chainId = b.chainId →
      b'.paymentAddress = b.paymentAddress → row' = row)
    {o : PaymentObservation} (ho : o ∈ range.observations) (hrecipient : o.recipient = b.paymentAddress)
    (htoken : o.token = b.token) :
    ∃ x ∈ L'.recorded, x.key = observationKey range.chainId o := by
  obtain ⟨credits, hloop, -, -⟩ := recordRange_eq_ok h
  have hload := loadCredits_bound hrow hb hchain huniq ho hrecipient
  have hseen := recordObservations_seen hloop ho (hrecipient ▸ hload) htoken.symm
  rw [← Ledger.recorded_keys] at hseen
  exact List.mem_map.1 hseen

/-- What a request is bound to, for every request. -/
def Ledger.bindings (L : Ledger) : List (InvoiceId × Option Binding) :=
  L.invoices.rows.map (fun row => (row.id, row.binding))

/-- A range binds nothing. -/
lemma recordRange_bindings {now : Time} {range : FinalizedRange} {applied : RangeApplied}
    (h : recordRange L now range = .ok (L', applied)) : L'.bindings = L.bindings := by
  have hupdate : ∀ (t : Table Invoice.id) (p : Invoice → Bool) (g : Invoice → Invoice)
      (hid : ∀ row, (g row).id = row.id), (∀ row, (g row).binding = row.binding) →
      (t.updateWhere p g hid).rows.map (fun row => (row.id, row.binding)) =
        t.rows.map (fun row => (row.id, row.binding)) := by
    intro t p g hid hbinding
    rw [Table.rows_updateWhere, List.map_map]
    refine List.map_congr_left fun row _ => ?_
    simp only [Function.comp_apply]
    split
    · rw [hid, hbinding]
    · rfl
  have hwrite : ∀ (credits : List InvoiceCredit) (t : Table Invoice.id),
      (writeCredits now credits t).rows.map (fun row => (row.id, row.binding)) =
        t.rows.map (fun row => (row.id, row.binding)) := by
    intro credits
    induction credits with
    | nil => exact fun t => rfl
    | cons c rest ih =>
      intro t
      refine (ih _).trans (hupdate _ _ _ _ fun row => ?_)
      unfold InvoiceCredit.write
      split <;> rfl
  unfold recordRange at h
  split at h
  · cases h
  · rename_i credits observations _
    obtain ⟨rfl, -⟩ := Prod.mk.inj (Except.ok.inj h)
    exact (hupdate (writeCredits now credits.rows L.invoices)
      (expires range.chainId range.endBlockTimestamp) (Invoice.expire now range.endBlockTimestamp)
      (fun _ => rfl) (fun _ => rfl)).trans (hwrite credits.rows L.invoices)

/-- The recorded logs and the cursors change only when a range is applied. -/
lemma step_scan (L : Ledger) (now : Time) (op : Op) :
    SameScan L (step L now op) ∨ ∃ range funded expired,
      op = .applyFinalizedRange range ∧ L.cursor range.chainId = range.expectedCursor ∧
      recordRange L now range = .ok (step L now op, .applied funded expired range.cursor) := by
  have hsame : SameScan L L := SameScan.refl L
  cases op with
  | insertIssued input =>
    simp only [step, insertIssued]
    split
    · exact Or.inl hsame
    · split <;> exact Or.inl ⟨rfl, rfl⟩
  | bindPayerWallet nowSecs id' wallet binding =>
    simp only [step, bindPayerWallet, writeBinding]
    split <;> exact Or.inl ⟨rfl, rfl⟩
  | bindNetwork id' binding =>
    simp only [step, bindNetwork, writeBinding]
    split <;> exact Or.inl ⟨rfl, rfl⟩
  | raiseFault faultId chainId reason block =>
    simp only [step, raiseFault]
    split <;> exact Or.inl ⟨rfl, rfl⟩
  | insertRelayIntent intent =>
    simp only [step, insertRelayIntent]
    split <;> exact Or.inl ⟨rfl, rfl⟩
  | resolveFilled id' fills origin relayStatus => exact Or.inl (resolveFilled_sameScan ..)
  | resolveFailed id' failure relayStatus =>
    simp only [step, resolveFailed]
    split
    · exact Or.inl hsame
    · left
      refine SameScan.trans ?_ (unparkUnlessPending_sameScan _ now _)
      exact ⟨rfl, rfl⟩
  | applyFinalizedRange range =>
    simp only [step]
    rcases happly : applyFinalizedRange L now range with e | ⟨L', result⟩
    · exact Or.inl hsame
    · rcases applyFinalizedRange_cases happly with ⟨rfl, -⟩ | ⟨hcursor, hrecord, funded, expired, rfl⟩
      · exact Or.inl hsame
      · exact Or.inr ⟨range, funded, expired, rfl, hcursor, hrecord⟩
  | scheduleSweepJob policy chainId jobId correlationId scan =>
    left
    simp only [step]
    rcases hsched : scheduleSweepJob L now policy chainId jobId correlationId scan with
      e | ⟨L', result⟩
    · exact hsame
    · rcases scheduleSweepJob_cases hsched with ⟨rfl, -⟩ | ⟨rows, items, -, hs⟩
      · exact hsame
      · simp only
        rw [hs.frame]
        exact ⟨rfl, rfl⟩
  | flagAttention id' reason => exact Or.inl (flagAttentionIn_sameScan ..)
  | deliver policy event =>
    left
    cases event with
    | sweepFinalized receipt =>
      rcases handleOne_sweepFinalized L now policy receipt with ⟨hkept, -⟩ | ⟨applied, L₁, -, hf⟩
      · simp only [step, hkept]
        exact hsame
      · simp only [step]
        have hitems := applyItems_sameScan now receipt policy receipt.items {} L
        rw [hf.items] at hitems
        rw [hf.frame]
        exact hitems.trans ⟨rfl, rfl⟩
    | sweepAbandoned jobId reason =>
      rcases handleOne_close L now policy (.sweepAbandoned jobId reason) rfl with ⟨-, hkept⟩ | hc
      · simp only [step, hkept]
        exact hsame
      · simp only [step]
        rw [hc.frame]
        exact ⟨rfl, rfl⟩
    | executionRejected jobId reason =>
      rcases handleOne_close L now policy (.executionRejected jobId reason) rfl with ⟨-, hkept⟩ | hc
      · simp only [step, hkept]
        exact hsame
      · simp only [step]
        rw [hc.frame]
        exact ⟨rfl, rfl⟩
    | _ => exact ⟨rfl, rfl⟩
  | _ => exact Or.inl ⟨rfl, rfl⟩

/-- The cursors after a range. -/
lemma recordRange_cursor {now : Time} {range : FinalizedRange} {applied : RangeApplied}
    (h : recordRange L now range = .ok (L', applied)) (chainId : ChainId) :
    L'.cursor chainId = if chainId = range.chainId then some range.cursor else L.cursor chainId := by
  obtain ⟨credits, -, -, hframe⟩ := recordRange_eq_ok h
  rw [Ledger.cursor, hframe]
  simp only [Table.find?_upsert]
  split <;> rfl

end

end Payday
