/-
# The recovery ledger

Rows of `recovered_funds` are only ever added, by the receipt of the job that claims the
request: `step_recoveries`.  What is added is what the drain of the request's own item says,
less the rows whose key is taken.
-/
import Payday.Ledger.Simulation

namespace Payday

/-- The recoveries of one request. -/
def Ledger.recoveriesOf (L : Ledger) (id : InvoiceId) : List RecoveredFunds :=
  L.recoveredFunds.rows.filter (fun r => decide (r.invoiceId = id))

variable {L L' : Ledger} {now : Time} {id : InvoiceId}

/-- Every recovery of a drain is the request's own. -/
lemma recoveries_invoiceId {terminal recorded : Bool} {receipt : FinalizedSweep}
    {outcome : SweepItemOutcome} {drain : Drain}
    (h : drainOf id terminal recorded receipt outcome = some drain) {r : RecoveredFunds}
    (hr : r ∈ drain.recoveries) : r.invoiceId = id := by
  have hown : ∀ {amount reason txHash block time},
      r ∈ (recovered id amount reason txHash block time).toList → r.invoiceId = id := by
    intro amount reason txHash block time hmem
    unfold recovered at hmem
    split at hmem
    · cases hmem
    · rw [Option.toList_some, List.mem_singleton] at hmem
      rw [hmem]
  rcases outcome with x | x | ⟨x, _ | e⟩ | cause
  · obtain rfl := Option.some.inj h
    exact hown hr
  · obtain rfl := Option.some.inj h
    exact hown hr
  · obtain rfl := Option.some.inj h
    exact hown hr
  · obtain rfl := Option.some.inj h
    rcases List.mem_append.1 hr with hfound | hcollected
    · split at hfound
      · cases hfound
      · exact hown hfound
    · exact hown hcollected
  · cases h

lemma recoveredFunds_flagAttentionIn (L : Ledger) (now : Time) (id : InvoiceId) (reason : String) :
    (flagAttentionIn L now id reason).recoveredFunds = L.recoveredFunds := by
  unfold flagAttentionIn
  split <;> rfl

lemma recoveredFunds_unparkUnlessPending (L : Ledger) (now : Time) (id : InvoiceId) :
    (unparkUnlessPending L now id).recoveredFunds = L.recoveredFunds := by
  unfold unparkUnlessPending
  split
  · rfl
  · simp only
    split <;> rfl

/-- What one decision adds. -/
lemma applyDecision_recoveries (L : Ledger) (now : Time) (row : Invoice)
    (receipt : FinalizedSweep) (outcome : SweepItemOutcome) (policy : SweepPolicy)
    (id : InvoiceId) :
    ∃ new, (applyDecision L now row receipt
        (decideItem row receipt outcome policy)).recoveriesOf id = L.recoveriesOf id ++ new ∧
      (new = [] ∨ (id = row.id ∧ ∃ drain, drainOf row.id row.status.isTerminal
        row.settlementTxHash.isSome receipt outcome = some drain ∧ new.Sublist drain.recoveries)) := by
  rcases hd : decideItem row receipt outcome policy with drain | _ | reason
  · have hdrain := decideItem_drained_iff.1 hd
    obtain ⟨new, hrows, hsub⟩ := Table.rows_foldl_insertNew L.recoveredFunds drain.recoveries
    have hwrite : (applyDecision L now row receipt (.drained drain)).recoveredFunds =
        drain.recoveries.foldl Table.insertNew L.recoveredFunds := by
      simp only [applyDecision, applyDrain]
      split
      · rfl
      · rw [recoveredFunds_flagAttentionIn]
        rfl
    refine ⟨new.filter (fun r => decide (r.invoiceId = id)), ?_, ?_⟩
    · rw [Ledger.recoveriesOf, hwrite, hrows, List.filter_append]
      rfl
    · by_cases hid : id = row.id
      · exact Or.inr ⟨hid, drain, hdrain, List.filter_sublist.trans hsub⟩
      · left
        rw [List.filter_eq_nil_iff]
        intro r hr hown
        have hrow := recoveries_invoiceId hdrain (hsub.subset hr)
        exact hid ((of_decide_eq_true hown).symm.trans hrow)
  · exact ⟨[], (List.append_nil _).symm, Or.inl rfl⟩
  · refine ⟨[], ?_, Or.inl rfl⟩
    rw [List.append_nil, Ledger.recoveriesOf, applyDecision, recoveredFunds_flagAttentionIn]
    rfl

/-- What the loop over the items adds for a request. -/
lemma applyItems_recoveries {receipt : FinalizedSweep} {policy : SweepPolicy}
    {items : List SweepItemResult} {applied applied' : AppliedSweep}
    (h : applyItems now receipt policy items applied L = (L', .ok applied')) (id : InvoiceId) :
    ∃ new, L'.recoveriesOf id = L.recoveriesOf id ++ new ∧
      (new = [] ∨ ∃ q item drain, L.request? id = some q ∧ q.sweepJobId = some receipt.jobId ∧
        items.find? (fun item => item.invoiceId = id) = some item ∧
        q.drain? receipt item.outcome = some drain ∧ new.Sublist drain.recoveries) := by
  induction items generalizing applied L with
  | nil =>
    obtain rfl := (Prod.mk.inj h).1
    exact ⟨[], (List.append_nil _).symm, Or.inl rfl⟩
  | cons item rest ih =>
    unfold applyItems at h
    split at h
    · cases (Prod.mk.inj h).2
    · rename_i row hmember
      obtain ⟨hrow, hjob⟩ := Option.filter_eq_some_iff.1 hmember
      have hid : row.id = item.invoiceId := Table.key_of_find? hrow
      have hjob : row.sweepJobId = some receipt.jobId := of_decide_eq_true hjob
      obtain ⟨new₁, happend₁, hnew₁⟩ :=
        applyDecision_recoveries L now row receipt item.outcome policy id
      obtain ⟨new₂, happend₂, hnew₂⟩ := ih h
      -- the rest works on the ledger that the item left
      have happend₂ : L'.recoveriesOf id = L.recoveriesOf id ++ (new₁ ++ new₂) := by
        rw [happend₂, ← List.append_assoc, ← happend₁]
        rfl
      refine ⟨new₁ ++ new₂, happend₂, ?_⟩
      by_cases hi : item.invoiceId = id
      · have hq : L.request? id = some (row.request (L.observationsOf id)) :=
          Ledger.request?_eq_some.2 ⟨row, hi ▸ hrow, rfl⟩
        -- the request left the job, so no later item is about it
        have hnone : new₂ = [] := by
          rcases hnew₂ with hnil | ⟨q, item', drain, hq', hjob', -⟩
          · exact hnil
          · have hmoved : (recordOutcome (applyDecision L now row receipt
                (decideItem row receipt item.outcome policy)) receipt.jobId item).request? id =
                some _ := (request?_congr id rfl rfl).trans (applyDecision_request (hid ▸ hrow) hq)
            rw [if_pos (hi.symm.trans hid.symm)] at hmoved
            obtain rfl := Option.some.inj (hmoved.symm.trans hq')
            rw [Request.apply_receipt_sweepJobId] at hjob'
            cases hjob'
        rw [hnone, List.append_nil]
        rcases hnew₁ with hnil | ⟨-, drain, hdrain, hsub⟩
        · exact Or.inl hnil
        · exact Or.inr ⟨_, item, drain, hq, hjob, by simp [hi], hdrain, hsub⟩
      · have hfirst : new₁ = [] := by
          rcases hnew₁ with hnil | ⟨heq, -⟩
          · exact hnil
          · exact absurd (hid.symm.trans heq.symm) hi
        have hskip : (item :: rest).find? (fun item => item.invoiceId = id) =
            rest.find? (fun item => item.invoiceId = id) := by
          rw [List.find?_cons_of_neg (by simpa using hi)]
        rw [hfirst, List.nil_append, hskip]
        rcases hnew₂ with hnil | ⟨q, item', drain, hq', hrest⟩
        · exact Or.inl hnil
        · right
          rcases hq : L.request? id with _ | q₀
          · -- applying an item adds no request
            have hids := ids_of_gates (applyDecision_gates L now row receipt
              (decideItem row receipt item.outcome policy))
            rw [request?_eq_none_iff, ← hids] at hq
            have hnone := request?_eq_none_iff.2 hq
            have hsome : (applyDecision L now row receipt
              (decideItem row receipt item.outcome policy)).request? id = some q :=
                (request?_congr id rfl rfl).trans hq'
            rw [hnone] at hsome
            cases hsome
          · have hkept : (recordOutcome (applyDecision L now row receipt
                (decideItem row receipt item.outcome policy)) receipt.jobId item).request? id =
                some _ := (request?_congr id rfl rfl).trans (applyDecision_request (hid ▸ hrow) hq)
            rw [if_neg (fun heq => hi (hid.symm.trans heq.symm))] at hkept
            obtain rfl := Option.some.inj (hkept.symm.trans hq')
            exact ⟨q₀, item', drain, rfl, hrest⟩

/-- A transaction adds to the recoveries of a request what the drain of its receipt says, and
nothing else. -/
lemma step_recoveries (L : Ledger) (now : Time) (op : Op) (id : InvoiceId) :
    ∃ new, (step L now op).recoveriesOf id = L.recoveriesOf id ++ new ∧
      (new = [] ∨ ∃ q receipt outcome drain, L.request? id = some q ∧
        L.event now op id = .receipt receipt outcome ∧
        q.drain? receipt outcome = some drain ∧ new.Sublist drain.recoveries) := by
  have hsame : (step L now op).recoveredFunds = L.recoveredFunds →
      ∃ new, (step L now op).recoveriesOf id = L.recoveriesOf id ++ new ∧
        (new = [] ∨ ∃ q receipt outcome drain, L.request? id = some q ∧
          L.event now op id = .receipt receipt outcome ∧
          q.drain? receipt outcome = some drain ∧ new.Sublist drain.recoveries) := by
    intro h
    exact ⟨[], by rw [Ledger.recoveriesOf, h, List.append_nil]; rfl, Or.inl rfl⟩
  cases op with
  | insertIssued input =>
    refine hsame ?_
    simp only [step, insertIssued]
    split
    · rfl
    · split <;> rfl
  | bindPayerWallet nowSecs id' wallet binding =>
    refine hsame ?_
    simp only [step, bindPayerWallet, writeBinding]
    split <;> rfl
  | bindNetwork id' binding =>
    refine hsame ?_
    simp only [step, bindNetwork, writeBinding]
    split <;> rfl
  | raiseFault faultId chainId reason block =>
    refine hsame ?_
    simp only [step, raiseFault]
    split <;> rfl
  | insertRelayIntent intent =>
    refine hsame ?_
    simp only [step, insertRelayIntent]
    split <;> rfl
  | resolveFilled id' fills origin relayStatus =>
    refine hsame ?_
    simp only [step, resolveFilled]
    split
    · rfl
    · split
      · rfl
      · rw [recoveredFunds_unparkUnlessPending]
        split <;> rfl
  | resolveFailed id' failure relayStatus =>
    refine hsame ?_
    simp only [step, resolveFailed]
    split
    · rfl
    · rw [recoveredFunds_unparkUnlessPending]
  | applyFinalizedRange range =>
    refine hsame ?_
    simp only [step]
    rcases happly : applyFinalizedRange L now range with e | ⟨L', result⟩
    · rfl
    · rcases applyFinalizedRange_cases happly with ⟨rfl, -⟩ | ⟨-, hrecord, -⟩
      · rfl
      · obtain ⟨credits, -, -, hframe⟩ := recordRange_eq_ok hrecord
        simp only
        rw [hframe]
  | scheduleSweepJob policy chainId jobId correlationId scan =>
    refine hsame ?_
    simp only [step]
    rcases hsched : scheduleSweepJob L now policy chainId jobId correlationId scan with
      e | ⟨L', result⟩
    · rfl
    · rcases scheduleSweepJob_cases hsched with ⟨rfl, -⟩ | ⟨rows, items, -, hs⟩
      · rfl
      · simp only
        rw [hs.frame]
  | flagAttention id' reason => exact hsame (recoveredFunds_flagAttentionIn ..)
  | deliver policy event =>
    cases event with
    | sweepFinalized receipt =>
      rcases handleOne_sweepFinalized L now policy receipt with ⟨hkept, -⟩ | ⟨applied, L₁, hok, hf⟩
      · exact hsame (by simp only [step, hkept])
      · obtain ⟨new, happend, hnew⟩ := applyItems_recoveries hf.items id
        refine ⟨new, ?_, ?_⟩
        · simp only [step]
          rw [Ledger.recoveriesOf, hf.frame]
          exact happend
        · rcases hnew with hnil | ⟨q, item, drain, hq, hjob, hitem, hdrain, hsub⟩
          · exact Or.inl hnil
          · refine Or.inr ⟨q, receipt, item.outcome, drain, hq, ?_, hdrain, hsub⟩
            obtain ⟨row, hrow, rfl⟩ := Ledger.request?_eq_some.1 hq
            have hmember : row.sweepJobId = some receipt.jobId := hjob
            simp only [Ledger.event, hrow, eventOf, receiptEvent, hok, hitem, if_pos hmember]
    | sweepAbandoned jobId reason =>
      rcases handleOne_close L now policy (.sweepAbandoned jobId reason) rfl with ⟨-, hkept⟩ | hc
      · exact hsame (by simp only [step, hkept])
      · refine hsame ?_
        simp only [step]
        rw [hc.frame]
    | executionRejected jobId reason =>
      rcases handleOne_close L now policy (.executionRejected jobId reason) rfl with ⟨-, hkept⟩ | hc
      · exact hsame (by simp only [step, hkept])
      · refine hsame ?_
        simp only [step]
        rw [hc.frame]
    | _ => exact hsame rfl
  | _ => exact hsame rfl

end Payday
