/-
# The settlement record

`settlement_tx_hash`, `settlement_transaction_index` and `resolved_at_block` are written by
three expressions with different guards.  As long as no item collects an open request whose
settlement nobody described, the three are written together, by the first receipt that names
a settlement, and never again: `settlement_record_is_one_transaction`.  The one branch of
`decide` that flags `settlement_unknown` breaks this: it stores the collecting transaction's
hash and index without its block, and a later receipt then adds the block of another
transaction.
-/
import Payday.Ledger.Simulation

namespace Payday

/-- A transaction, as the settlement columns name it. -/
structure SettlementTx where
  txHash : Hash
  transactionIndex : ℕ
  block : ℕ
deriving DecidableEq, Repr

/-- The transaction an item's evidence names as the settlement. -/
def settlementTx (receipt : FinalizedSweep) : SweepItemOutcome → Option SettlementTx
  | .settled _ | .returned _ | .lateCollected _ none =>
    some ⟨receipt.txHash, receipt.transactionIndex, receipt.block⟩
  | .lateCollected _ (some e) => some ⟨e.txHash, e.transactionIndex, e.block⟩
  | .failed _ => none

namespace Request

/-- No settlement is recorded, and the request is not terminal. -/
structure Unrecorded (q : Request) : Prop where
  txHash : q.settlementTxHash = none
  index : q.settlementTransactionIndex = none
  block : q.resolvedAtBlock = none
  open' : q.status.isTerminal = false

/-- The three columns hold the transaction `t`. -/
structure RecordedAs (q : Request) (t : SettlementTx) : Prop where
  txHash : q.settlementTxHash = some t.txHash
  index : q.settlementTransactionIndex = some t.transactionIndex
  block : q.resolvedAtBlock = some t.block

/-- The event does not collect an open request without a described settlement. -/
def Known (q : Request) : Event → Prop
  | .receipt _ (.lateCollected _ none) => q.status.isTerminal = true ∨ q.settlementTxHash.isSome
  | _ => True

/-- A recorded settlement stays, whatever happens. -/
lemma RecordedAs.apply {q : Request} {t : SettlementTx} (h : q.RecordedAs t) (e : Event) :
    (q.apply e).RecordedAs t := by
  cases e with
  | receipt receipt outcome =>
    simp only [Request.apply]
    split
    · rename_i drain _
      refine ⟨by simp [Request.drain, h.txHash], by simp [Request.drain, h.index], ?_⟩
      simp only [Request.drain, h.block, Option.some_or]
      split <;> rfl
    · exact ⟨h.txHash, h.index, h.block⟩
  | _ => exact ⟨h.txHash, h.index, h.block⟩

lemma isTerminal_fundedStatus {q : Request} (fresh : List Transfer)
    (h : q.status.isTerminal = false) : (q.fundedStatus fresh).isTerminal = false := by
  unfold fundedStatus
  split
  · rfl
  · exact h

/-- A known event leaves an unrecorded request unrecorded, or records the transaction its
evidence names. -/
lemma Unrecorded.apply {q : Request} (h : q.Unrecorded) {e : Event} (hknown : q.Known e) :
    (q.apply e).Unrecorded ∨ ∃ receipt outcome t, e = .receipt receipt outcome ∧
      settlementTx receipt outcome = some t ∧ (q.apply e).RecordedAs t := by
  cases e with
  | expireUnbound => exact Or.inl ⟨h.txHash, h.index, h.block, rfl⟩
  | range fresh endBlockTimestamp =>
    refine Or.inl ⟨h.txHash, h.index, h.block, ?_⟩
    simp only [Request.apply, Request.range]
    split
    · rfl
    · exact isTerminal_fundedStatus _ h.open'
  | receipt receipt outcome =>
    -- the evidence of an unrecorded request decides its status, and so writes the block too
    have hrecord : ∀ drain, q.drain? receipt outcome = some drain → drain.status ≠ none →
        (q.apply (.receipt receipt outcome)).RecordedAs
          ⟨drain.settlementTxHash, drain.settlementTransactionIndex, drain.settlementBlock⟩ := by
      intro drain hdrain hstatus
      simp only [Request.apply, hdrain]
      refine ⟨by simp [Request.drain, h.txHash], by simp [Request.drain, h.index], ?_⟩
      simp [Request.drain, h.block, Option.isNone_iff_eq_none, hstatus]
    rcases outcome with x | x | ⟨x, _ | evidence⟩ | cause
    · exact Or.inr ⟨receipt, _, _, rfl, rfl, hrecord _ rfl (by simp [ownDrain])⟩
    · exact Or.inr ⟨receipt, _, _, rfl, rfl, hrecord _ rfl (by simp [ownDrain])⟩
    · rcases hknown with hterminal | hsome
      · rw [h.open'] at hterminal
        cases hterminal
      · rw [h.txHash] at hsome
        cases hsome
    · refine Or.inr ⟨receipt, _, _, rfl, rfl, hrecord _ rfl ?_⟩
      simp only [h.open', Bool.false_eq_true, if_false]
      split <;> simp
    · exact Or.inl ⟨h.txHash, h.index, h.block, h.open'⟩
  | _ => exact Or.inl ⟨h.txHash, h.index, h.block, h.open'⟩

end Request

/-- The transaction does not collect an open request without a described settlement: `decide`
does not flag `settlement_unknown`.  A receipt that is refused changes nothing. -/
def SettlementKnown (L : Ledger) (now : Time) : Op → Prop
  | .deliver policy (.sweepFinalized receipt) =>
    (∃ applied, (applySweepFinalized L now receipt policy).2 = .ok applied) → ∀ item ∈ receipt.items,
      ∀ amount, item.outcome = .lateCollected amount none → ∀ row,
        L.invoices.find? item.invoiceId = some row →
          row.status.isTerminal = true ∨ row.settlementTxHash.isSome
  | _ => True

/-- Every transaction of the run finds the settlements it relies on described. -/
def SettlementsKnown : Ledger → List (Time × Op) → Prop
  | _, [] => True
  | L, op :: rest => SettlementKnown L op.1 op.2 ∧ SettlementsKnown (step L op.1 op.2) rest

lemma settlementsKnown_append {L : Ledger} {ops ops' : List (Time × Op)} :
    SettlementsKnown L (ops ++ ops') ↔ SettlementsKnown L ops ∧ SettlementsKnown (run L ops) ops' := by
  induction ops generalizing L with
  | nil => simp [SettlementsKnown]
  | cons op rest ih => simp only [List.cons_append, SettlementsKnown, ih, run_cons, and_assoc]

/-- A receipt of the run reported `t` as the settlement of the request. -/
def Reported (ops : List (Time × Op)) (id : InvoiceId) (t : SettlementTx) : Prop :=
  ∃ now policy receipt outcome, (now, Op.deliver policy (.sweepFinalized receipt)) ∈ ops ∧
    ⟨id, outcome⟩ ∈ receipt.items ∧ settlementTx receipt outcome = some t

/-- The settlement columns are all unset, or all set from one reported transaction. -/
def SettlementRecord (ops : List (Time × Op)) (id : InvoiceId) (row : Invoice) : Prop :=
  (row.settlementTxHash = none ∧ row.settlementTransactionIndex = none ∧
    row.resolvedAtBlock = none) ∨
  ∃ t, Reported ops id t ∧ row.settlementTxHash = some t.txHash ∧
    row.settlementTransactionIndex = some t.transactionIndex ∧ row.resolvedAtBlock = some t.block

lemma Reported.append {ops : List (Time × Op)} {id : InvoiceId} {t : SettlementTx}
    (h : Reported ops id t) (ops' : List (Time × Op)) : Reported (ops ++ ops') id t := by
  obtain ⟨now, policy, receipt, outcome, hmem, hitem, ht⟩ := h
  exact ⟨now, policy, receipt, outcome, List.mem_append_left _ hmem, hitem, ht⟩

/-- A known transaction is a known event for each request. -/
lemma SettlementKnown.event {L : Ledger} {now : Time} {op : Op} (h : SettlementKnown L now op)
    {id : InvoiceId} {q : Request} (hq : L.request? id = some q) :
    q.Known (L.event now op id) := by
  rcases he : L.event now op id with _ | _ | _ | _ | _ | _ | ⟨receipt, outcome⟩
  all_goals try trivial
  rcases outcome with x | x | ⟨x, _ | evidence⟩ | cause
  all_goals try trivial
  obtain ⟨policy, applied, rfl, happlied, hitem⟩ := event_eq_receipt he
  obtain ⟨row, hrow, rfl⟩ := Ledger.request?_eq_some.1 hq
  exact h ⟨applied, happlied⟩ _ hitem x rfl row hrow

/-- The state of the settlement columns after a run. -/
lemma settlement_after_run {ops : List (Time × Op)} (hknown : SettlementsKnown Ledger.empty ops)
    {id : InvoiceId} {q : Request} (hq : (run Ledger.empty ops).request? id = some q) :
    q.Unrecorded ∨ ∃ t, Reported ops id t ∧ q.RecordedAs t := by
  -- by the last transaction: it issued the request, or it moved it by one event
  induction ops using List.reverseRecOn generalizing q with
  | nil => cases hq
  | append_singleton ops op ih =>
    rw [run_append] at hq
    obtain ⟨hbefore, hlast, -⟩ := settlementsKnown_append.1 hknown
    rcases hprev : (run Ledger.empty ops).request? id with _ | q₀
    · have hobs := Reachable.observationsOf_none ⟨ops, rfl⟩ hprev
      obtain ⟨input, -, rfl⟩ := request?_step_none op.2 hprev hobs hq
      exact Or.inl ⟨rfl, rfl, rfl, rfl⟩
    · obtain ⟨-, hmoved⟩ := request?_step op.1 op.2 hprev
      obtain rfl := Option.some.inj (hmoved.symm.trans hq)
      rcases ih hbefore hprev with hun | ⟨t, hrep, hrec⟩
      · rcases hun.apply (hlast.event hprev) with hun' | ⟨receipt, outcome, t, he, ht, hrec⟩
        · exact Or.inl hun'
        · obtain ⟨policy, applied, hop, -, hitem⟩ := event_eq_receipt he
          refine Or.inr ⟨t, ⟨op.1, policy, receipt, outcome, ?_, hitem, ht⟩, hrec⟩
          rw [← hop]
          simp
      · exact Or.inr ⟨t, hrep.append [op], hrec.apply _⟩

/-- In every run that never collects an open request without a described settlement, the
settlement columns of every request are all unset or all set from one reported transaction,
and once one of them is set none of them changes. -/
theorem settlement_record_is_one_transaction {ops : List (Time × Op)}
    (hknown : SettlementsKnown Ledger.empty ops) {id : InvoiceId} {row : Invoice}
    (hrow : (run Ledger.empty ops).invoices.find? id = some row) :
    SettlementRecord ops id row ∧
      ∀ ops₁ ops₂ row₁, ops = ops₁ ++ ops₂ → (run Ledger.empty ops₁).invoices.find? id = some row₁ →
        (row₁.settlementTxHash ≠ none ∨ row₁.settlementTransactionIndex ≠ none ∨
          row₁.resolvedAtBlock ≠ none) →
        row.settlementTxHash = row₁.settlementTxHash ∧
          row.settlementTransactionIndex = row₁.settlementTransactionIndex ∧
          row.resolvedAtBlock = row₁.resolvedAtBlock := by
  have hq : (run Ledger.empty ops).request? id = some _ :=
    Ledger.request?_eq_some.2 ⟨row, hrow, rfl⟩
  refine ⟨?_, ?_⟩
  · rcases settlement_after_run hknown hq with h | ⟨t, hrep, h⟩
    · exact Or.inl ⟨h.txHash, h.index, h.block⟩
    · exact Or.inr ⟨t, hrep, h.txHash, h.index, h.block⟩
  · rintro ops₁ ops₂ row₁ rfl hrow₁ hset
    have hq₁ : (run Ledger.empty ops₁).request? id = some _ :=
      Ledger.request?_eq_some.2 ⟨row₁, hrow₁, rfl⟩
    rcases settlement_after_run (settlementsKnown_append.1 hknown).1 hq₁ with h | ⟨t, -, h⟩
    · -- nothing was recorded at the earlier point, against the hypothesis
      rcases hset with hs | hs | hs
      · exact absurd h.txHash hs
      · exact absurd h.index hs
      · exact absurd h.block hs
    · -- what was recorded then is carried along the rest of the run
      obtain ⟨-, hfinal⟩ := request?_run ops₂ hq₁
      rw [run_append] at hq
      have hsame := Option.some.inj (hq.symm.trans hfinal)
      have hkeep : ∀ (events : List Event) (q : Request), q.RecordedAs t →
          (q.run events).RecordedAs t := by
        intro events
        induction events with
        | nil => exact fun _ hr => hr
        | cons e rest ih => exact fun q hr => ih _ (hr.apply e)
      have hrec := hkeep (Ledger.history id (run Ledger.empty ops₁) ops₂) _ h
      rw [← hsame] at hrec
      exact ⟨hrec.txHash.trans h.txHash.symm, hrec.index.trans h.index.symm,
        hrec.block.trans h.block.symm⟩

theorem settlement_record_is_one_transaction_paidRun :
    ∃ row, (run Ledger.empty paidRun).invoices.find? 7 = some row ∧ SettlementRecord paidRun 7 row := by
  have hknown : SettlementsKnown Ledger.empty paidRun := by
    refine ⟨trivial, trivial, trivial, ?_, trivial⟩
    intro _ item hitem amount houtcome
    obtain rfl : item = ⟨7, .settled 10⟩ := by simpa [sampleReceipt] using hitem
    cases houtcome
  refine ⟨((run Ledger.empty paidRun).invoices.find? 7).get (by decide), by simp, ?_⟩
  exact (settlement_record_is_one_transaction hknown (by simp)).1

/-- Somebody deployed the contract of the funded sample request, and the receipt collects what
arrived later without saying how the deployment settled. -/
def unknownRun : List (Time × Op) :=
  [(0, .insertIssued sampleRequest),
    (1, .applyFinalizedRange (sampleRange none 5 [sampleTransfer 3 0 0 100])),
    (2, .scheduleSweepJob .default 1 9 0 {}),
    (3, .deliver .default (.sweepFinalized (sampleReceipt 9 8 (.lateCollected 5 none))))]

/-- After the attention is released, a later receipt settles the same request. -/
def mixedRun : List (Time × Op) :=
  unknownRun ++
    [(4, .releaseAttention 7),
      (5, .applyFinalizedRange (sampleRange (some (sampleCursor 5)) 12 [sampleTransfer 10 0 0 7])),
      (6, .scheduleSweepJob .default 1 11 0 {}),
      (7, .deliver .default (.sweepFinalized (sampleReceipt 11 20 (.settled 0))))]

/-- The `settlement_unknown` branch records a hash and an index without a block, and the next
receipt completes the record with the block of another transaction. -/
theorem settlement_record_mixes_transactions :
    (∃ row, (run Ledger.empty unknownRun).invoices.find? 7 = some row ∧
      ¬ SettlementRecord unknownRun 7 row) ∧
    ((run Ledger.empty mixedRun).invoices.find? 7).map (fun row =>
      (row.settlementTxHash, row.settlementTransactionIndex, row.resolvedAtBlock)) =
        some (some 8000, some 0, some 20) := by
  refine ⟨⟨((run Ledger.empty unknownRun).invoices.find? 7).get (by decide), by simp, ?_⟩,
    by decide⟩
  rintro (⟨hnone, -, -⟩ | ⟨t, -, -, -, hblock⟩)
  · exact absurd hnone (by decide)
  · have hunset : (((run Ledger.empty unknownRun).invoices.find? 7).get
        (by decide)).resolvedAtBlock = none := by decide
    rw [hunset] at hblock
    cases hblock

end Payday
