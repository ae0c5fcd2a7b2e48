/-
# The evidence the ledger receives

`settlement_recorded` is a snapshot: the scheduler writes it into the command, and the signers
consult it when the transaction is final, long after.  The ledger reads the row again when it
applies the receipt.  The two cannot disagree, because only the receipt of its own job writes
the settlement of a claimed request.  So the ledger never has to collect a request whose
settlement nobody described, and never receives a settlement for a request that has one.
-/
import Payday.Ledger.Membership
import Payday.Ledger.Settlement
import Payday.Signers.Classify

namespace Payday

/-! ### A claimed request and its item -/

/-- The item describes the request. -/
structure Describes (item : SweepItem) (q : Request) : Prop where
  settlement : item.settlementRecorded = q.settlementTxHash.isSome
  closed : item.status = .closed ↔ q.status.isTerminal = true
  terms : ∃ b, q.binding = some b ∧ item.paymentAddress = b.paymentAddress ∧ item.token = b.token ∧
    item.amount = q.amount ∧ item.expirationTimestamp = q.expirationTimestamp

namespace Request

/-- A range neither makes a request terminal nor moves a terminal one. -/
lemma status_range (q : Request) (fresh : List PaymentObservation) (endBlockTimestamp : ℕ) :
    (q.range fresh endBlockTimestamp).status.isTerminal = q.status.isTerminal ∧
      (q.status.isTerminal = true → (q.range fresh endBlockTimestamp).status = q.status) := by
  rcases hs : q.status.isTerminal with _ | _
  · refine ⟨?_, fun h => (by cases h)⟩
    simp only [range]
    split
    · rfl
    · exact isTerminal_fundedStatus _ hs
  · have hfunded : q.fundedStatus (fresh.map q.record) = q.status := by
      rw [fundedStatus, if_neg]
      rintro ⟨hcreated, -⟩
      rw [hcreated] at hs
      cases hs
    have hsame : (q.range fresh endBlockTimestamp).status = q.status := by
      simp only [range, hfunded]
      rw [if_neg]
      rintro ⟨hopen, -⟩
      cases hq : q.status <;> simp_all [InvoiceStatus.isOpen, InvoiceStatus.isTerminal]
    exact ⟨by rw [hsame, hs], fun _ => hsame⟩

/-- Only a receipt writes the settlement of a claimed request or makes it terminal, and a
receipt ends the claim. -/
lemma describes_apply {item : SweepItem} {q : Request} (h : Describes item q) {e : Event}
    (he : q.Enabled e) (hclaimed : (q.apply e).sweepJobId ≠ none) : Describes item (q.apply e) := by
  obtain ⟨b, hb, hterms⟩ := h.terms
  cases e with
  | quiet => exact h
  | bind binding =>
    have hnone := he.1
    rw [hb] at hnone
    cases hnone
  | expireUnbound =>
    have hnone := he.1
    rw [hb] at hnone
    cases hnone
  | range fresh endBlockTimestamp =>
    refine ⟨h.settlement, ?_, b, hb, hterms⟩
    rw [Request.apply, (q.status_range fresh endBlockTimestamp).1]
    exact h.closed
  | claim jobId => exact ⟨h.settlement, h.closed, b, hb, hterms⟩
  | requeue jobId => exact absurd rfl hclaimed
  | receipt receipt outcome => exact absurd (apply_receipt_sweepJobId q receipt outcome) hclaimed

/-- A terminal request has a settlement transaction. -/
lemma settled_apply {q : Request} (h : q.status.isTerminal = true → q.settlementTxHash.isSome)
    (e : Event) : (q.apply e).status.isTerminal = true → (q.apply e).settlementTxHash.isSome := by
  cases e with
  | expireUnbound => exact fun hs => (by cases hs)
  | range fresh endBlockTimestamp =>
    rw [Request.apply, (q.status_range fresh endBlockTimestamp).1]
    exact h
  | receipt receipt outcome =>
    simp only [Request.apply]
    split
    · exact fun _ => by simp [Request.drain]
    · exact h
  | _ => exact h

end Request

lemma Reachable.settled_of_terminal {L : Ledger} (h : Reachable L) {id : InvoiceId} {q : Request}
    (hq : L.request? id = some q) (hs : q.status.isTerminal = true) : q.settlementTxHash.isSome :=
  h.request_induction (P := fun q => q.status.isTerminal = true → q.settlementTxHash.isSome)
    (fun _ hs => by cases hs) (fun _ e hp _ => Request.settled_apply hp e) hq hs

/-- The item of a claimed request in the command of its job. -/
structure ClaimedBy (L : Ledger) (id : InvoiceId) (q : Request) (j : JobId) (item : SweepItem) :
    Prop where
  request : L.request? id = some q
  claimed : q.sweepJobId = some j
  command : ∃ command, L.commands.find? j = some command ∧ item ∈ command.items
  invoiceId : item.invoiceId = id

/-- The item of every claimed request describes it. -/
def Ledger.Described (L : Ledger) : Prop :=
  ∀ id q j item, ClaimedBy L id q j item → Describes item q

/-- The item built for a row describes the row's request. -/
lemma describes_of_sweepItem {row : Invoice} {first : Option ℕ} {item : SweepItem}
    (h : sweepItem row first = .ok item) (rows : List ObservationRow) :
    Describes item (row.request rows) := by
  unfold sweepItem at h
  split at h
  · cases h
  · rename_i b hb
    obtain rfl := Except.ok.inj h
    refine ⟨rfl, ?_, b, hb, rfl, rfl, rfl, rfl⟩
    simp only [Invoice.request]
    split
    · rename_i hs
      simp [hs]
    · rename_i hs
      simp [hs]

lemma mem_sweepItems {L : Ledger} {rows : List Invoice} {items : List SweepItem}
    (h : sweepItems L rows = .ok items) {item : SweepItem} (hitem : item ∈ items) :
    ∃ row ∈ rows, sweepItem row (firstObservedBlock L row.id) = .ok item := by
  have hall := sweepItems_forall₂ h
  clear h
  induction hall with
  | nil => cases hitem
  | @cons row item' rows' items' hrow _ ih =>
    rcases List.mem_cons.1 hitem with rfl | hitem
    · exact ⟨row, by simp, hrow⟩
    · obtain ⟨row', hmem, hrow'⟩ := ih hitem
      exact ⟨row', by simp [hmem], hrow'⟩

/-- Where a claim comes from: it was there before, with the same command, or the transaction
scheduled the job. -/
lemma claim_cases {L : Ledger} (hm : L.Membership) {now : Time} {op : Op} {id : InvoiceId}
    {q' : Request} {j : JobId} (hq' : (step L now op).request? id = some q')
    (hj : q'.sweepJobId = some j) :
    ∃ q, L.request? id = some q ∧ q' = q.apply (L.event now op id) ∧
      q.Enabled (L.event now op id) ∧
      ((q.sweepJobId = some j ∧ (step L now op).commands.find? j = L.commands.find? j) ∨
        (q.sweepJobId = none ∧ ∃ policy chainId correlationId scan rows items,
          op = .scheduleSweepJob policy chainId j correlationId scan ∧
          Scheduled L (step L now op) now policy chainId j correlationId scan rows items ∧
          id ∈ rows.map (·.id) ∧ (step L now op).commands.find? j = some ⟨j, chainId, items⟩)) := by
  rcases hprev : L.request? id with _ | q
  · obtain ⟨input, -, rfl⟩ := request?_step_issued op hprev hq'
    cases hj
  obtain ⟨henabled, hmoved⟩ := request?_step now op hprev
  obtain rfl := Option.some.inj (hmoved.symm.trans hq')
  refine ⟨q, rfl, rfl, henabled, ?_⟩
  cases step_jobEffect L now op with
  | unchanged hs =>
    rw [hs, hprev] at hq'
    rw [← Option.some.inj hq'] at hj
    exact Or.inl ⟨hj, by rw [hs]⟩
  | kept hs hop =>
    rw [event_keeps_job hop] at hj
    exact Or.inl ⟨hj, by rw [hs.commands]⟩
  | @finalized policy receipt applied L₁ hf hr =>
    obtain ⟨hother, hmember⟩ := hf.request hprev
    by_cases hown : q.sweepJobId = some receipt.jobId
    · obtain ⟨item, -, hq''⟩ := hmember hown
      rw [Option.some.inj (hmoved.symm.trans hq''), Request.apply_receipt_sweepJobId] at hj
      cases hj
    · rw [Option.some.inj (hmoved.symm.trans (hother hown))] at hj
      exact Or.inl ⟨hj, by rw [hr.commands]⟩
  | @closed policy event resolution txHash he hc hr =>
    have hq'' := hmoved.symm.trans (hc.request hprev)
    rw [Option.some.inj hq''] at hj
    split at hj
    · cases hj
    · exact Or.inl ⟨hj, by rw [hr.commands]⟩
  | @opened policy chainId jobId correlationId scan rows items hs =>
    obtain ⟨hout, hin⟩ := hs.request hprev
    by_cases hmem : id ∈ rows.map (·.id)
    · obtain ⟨hclaim, hq''⟩ := hin hmem
      rw [Option.some.inj (hmoved.symm.trans hq'')] at hj
      obtain rfl : jobId = j := Option.some.inj hj
      refine Or.inr ⟨hclaim.1, policy, chainId, correlationId, scan, rows, items, rfl, hs, hmem, ?_⟩
      rw [hs.find?_commands hm, if_pos rfl]
    · rw [Option.some.inj (hmoved.symm.trans (hout hmem))] at hj
      refine Or.inl ⟨hj, ?_⟩
      have hne : j ≠ jobId := by
        rintro rfl
        have hres := (hm.claimed id q j hprev hj).1
        rw [hs.job_unknown] at hres
        cases hres
      rw [hs.find?_commands hm, if_neg hne]

/-- Where the item of a claimed request comes from: it was there before, or it was built from
the row as it was, for a job that had no command. -/
lemma ClaimedBy.before {L : Ledger} (hm : L.Membership) {now : Time} {op : Op} {id : InvoiceId}
    {q' : Request} {j : JobId} {item : SweepItem} (h : ClaimedBy (step L now op) id q' j item) :
    ∃ q, L.request? id = some q ∧ q' = q.apply (L.event now op id) ∧
      q.Enabled (L.event now op id) ∧
      (ClaimedBy L id q j item ∨ (L.commands.find? j = none ∧ ∃ row,
        L.invoices.find? id = some row ∧ sweepItem row (firstObservedBlock L id) = .ok item)) := by
  obtain ⟨command, hcommand, hitem⟩ := h.command
  obtain ⟨q, hq, hq', henabled, hcases⟩ := claim_cases hm h.request h.claimed
  refine ⟨q, hq, hq', henabled, ?_⟩
  rcases hcases with ⟨hj, hsame⟩ | ⟨-, policy, chainId, correlationId, scan, rows, items, -, hs,
    hmem, hnew⟩
  · exact Or.inl ⟨hq, hj, ⟨command, hsame ▸ hcommand, hitem⟩, h.invoiceId⟩
  · right
    refine ⟨?_, ?_⟩
    · rcases hc : L.commands.find? j with _ | old
      · rfl
      · have hknown := hm.commands_known old (Table.mem_of_find? hc)
        rw [Table.key_of_find? hc] at hknown
        exact absurd hs.job_unknown hknown
    · obtain rfl := Option.some.inj (hnew.symm.trans hcommand)
      obtain ⟨row, hrow, hbuilt⟩ := mem_sweepItems hs.items_eq hitem
      have hrowId : row.id = id := (sweepItem_invoiceId hbuilt).symm.trans h.invoiceId
      have hfind := Table.find?_of_mem (mem_candidates hs.candidates_eq hrow).1
      rw [hrowId] at hfind hbuilt
      exact ⟨row, hfind, hbuilt⟩

lemma described_step {L : Ledger} (hm : L.Membership) (h : L.Described) (now : Time) (op : Op) :
    (step L now op).Described := by
  intro id q' j item hclaimed
  have hne : q'.sweepJobId ≠ none := by
    rw [hclaimed.claimed]
    simp
  obtain ⟨q, hq, rfl, henabled, hcases⟩ := hclaimed.before hm
  refine Request.describes_apply ?_ henabled hne
  rcases hcases with hold | ⟨-, row, hrow, hbuilt⟩
  · exact h id q j item hold
  · obtain ⟨row', hrow', rfl⟩ := Ledger.request?_eq_some.1 hq
    obtain rfl := Option.some.inj (hrow.symm.trans hrow')
    exact describes_of_sweepItem hbuilt _

lemma Reachable.described {L : Ledger} (h : Reachable L) : L.Described := by
  refine (Reachable.induction (P := fun L => L.Membership ∧ L.Described)
    ⟨Membership.empty, fun id q j item hc => by cases hc.request⟩ (fun L now op ih => ?_) h).2
  exact ⟨membership_step ih.1 now op, described_step ih.1 ih.2 now op⟩

/-! ### What the signers can report -/

/-- The receipt was built by `classify_items` from the items of its job's command, with
whatever the chain answered. -/
def Classified (L : Ledger) (receipt : FinalizedSweep) : Prop :=
  ∃ command chain config sweepReceipt header,
    L.commands.find? receipt.jobId = some command ∧
      classifyItems chain config sweepReceipt header command.items = .ok receipt.items

/-- `apply_sweep_finalized` decides on an item: the items before it were applied, and the row
is the one it reads then. -/
def DecidesOn (L : Ledger) (now : Time) (policy : SweepPolicy) (receipt : FinalizedSweep)
    (item : SweepItemResult) (row : Invoice) : Prop :=
  ∃ before after applied L', receipt.items = before ++ item :: after ∧
    applyItems now receipt policy before {} L = (L', .ok applied) ∧
    L'.member? receipt.jobId item.invoiceId = some row

/-- The row a decision reads is the claimed request as it was before the receipt. -/
lemma DecidesOn.request {L : Ledger} {now : Time} {policy : SweepPolicy} {receipt : FinalizedSweep}
    {item : SweepItemResult} {row : Invoice} (h : DecidesOn L now policy receipt item row) :
    ∃ q, L.request? item.invoiceId = some q ∧ q.sweepJobId = some receipt.jobId ∧
      row.status = q.status ∧ row.settlementTxHash = q.settlementTxHash := by
  obtain ⟨before, after, applied, L', -, happly, hmember⟩ := h
  obtain ⟨hrow, hjob⟩ := Option.filter_eq_some_iff.1 hmember
  have hjob : row.sweepJobId = some receipt.jobId := of_decide_eq_true hjob
  have hq' : L'.request? item.invoiceId = some (row.request (L'.observationsOf item.invoiceId)) :=
    Ledger.request?_eq_some.2 ⟨row, hrow, rfl⟩
  rcases hq : L.request? item.invoiceId with _ | q
  · -- applying items adds no request
    have hids := ids_of_gates (applyItems_gates now receipt policy before {} L)
    rw [happly] at hids
    rw [request?_eq_none_iff, ← hids, ← request?_eq_none_iff, hq'] at hq
    cases hq
  · refine ⟨q, rfl, ?_⟩
    rcases applyItems_request happly hq with ⟨hkept, -⟩ | ⟨other, -, -, hmoved⟩
    · obtain rfl := Option.some.inj (hq'.symm.trans hkept)
      exact ⟨hjob, rfl, rfl⟩
    · -- a request that an earlier item was about has left the job
      have hleft := Request.apply_receipt_sweepJobId q receipt other.outcome
      rw [← Option.some.inj (hq'.symm.trans hmoved)] at hleft
      rw [show row.sweepJobId = none from hleft] at hjob
      cases hjob

/-- What the signers report on an item goes back to an item of the command. -/
lemma Classified.item {L : Ledger} {receipt : FinalizedSweep} (h : Classified L receipt)
    {result : SweepItemResult} (hresult : result ∈ receipt.items) :
    ∃ command chain config header item outcome, L.commands.find? receipt.jobId = some command ∧
      item ∈ command.items ∧ item.invoiceId = result.invoiceId ∧
      classifyItem chain config item outcome header = .ok result.outcome := by
  obtain ⟨command, chain, config, sweepReceipt, header, hcommand, hclassify⟩ := h
  obtain ⟨item, hmem, hid, outcome, -, houtcome⟩ := mem_classifyItems hclassify hresult
  exact ⟨command, chain, config, header, item, outcome, hcommand, hmem, hid.symm, houtcome⟩

/-- With the evidence of the signers, `decide` never flags `settlement_unknown`, and no
settlement is reported for a request that is terminal. -/
theorem settlement_unknown_is_unreachable {L : Ledger} (hL : Reachable L)
    {receipt : FinalizedSweep} (hclassified : Classified L receipt) (now : Time)
    (policy : SweepPolicy) {item : SweepItemResult} {row : Invoice}
    (hdecides : DecidesOn L now policy receipt item row) :
    (∀ drain, decideItem row receipt item.outcome policy = .drained drain →
      drain.attention ≠ some SETTLEMENT_UNKNOWN) ∧
    ∀ amount evidence, item.outcome = .lateCollected amount (some evidence) →
      row.status.isTerminal = false := by
  obtain ⟨q, hq, hjob, hstatus, hhash⟩ := hdecides.request
  have hmem : item ∈ receipt.items := by
    obtain ⟨before, after, -, -, hsplit, -⟩ := hdecides
    rw [hsplit]
    simp
  obtain ⟨command, chain, config, header, sweepItem, outcome, hcommand, hitem, hid, houtcome⟩ :=
    hclassified.item hmem
  have hdescribes := hL.described item.invoiceId q receipt.jobId sweepItem
    ⟨hq, hjob, ⟨command, hcommand, hitem⟩, hid⟩
  -- the settlement is reported exactly when the row holds none
  have hreported : ∀ amount settlement, item.outcome = .lateCollected amount settlement →
      (settlement = none ↔ row.settlementTxHash.isSome = true) := by
    intro amount settlement hlate
    rw [hlate] at houtcome
    rw [hhash, ← hdescribes.settlement]
    exact (classifyItem_lateCollected houtcome).2
  refine ⟨fun drain hdrain hflag => ?_, fun amount evidence hlate => ?_⟩
  · rcases hout : item.outcome with x | x | ⟨x, _ | e⟩ | cause
    · rw [hout, decideItem] at hdrain
      obtain rfl := ItemDecision.drained.inj hdrain
      cases hflag
    · rw [hout, decideItem] at hdrain
      obtain rfl := ItemDecision.drained.inj hdrain
      cases hflag
    · have hsome := (hreported x none hout).1 rfl
      rw [hout, decideItem, hsome, Bool.or_true, if_pos rfl] at hdrain
      obtain rfl := ItemDecision.drained.inj hdrain
      cases hflag
    · rw [hout, decideItem] at hdrain
      obtain rfl := ItemDecision.drained.inj hdrain
      cases hflag
    · rw [hout, decideItem_drained_iff] at hdrain
      cases hdrain
  · by_contra hterminal
    rw [Bool.not_eq_false, hstatus] at hterminal
    have hsettled := hL.settled_of_terminal hq hterminal
    rw [← hhash] at hsettled
    have hnone := (hreported amount (some evidence) hlate).2 hsettled
    cases hnone

/-- A chain on which somebody deployed the sample request's contract at block 4. -/
def sampleReader : ChainReader where
  blockHeader := fun n => .ok ⟨n, n, n⟩
  paymentSettlementTx := fun _ _ _ _ => .ok (some ⟨4002, 4, 4, 2, some 100, 0⟩)
  probeFailure := fun _ _ _ _ _ _ => .error .readOnly

/-- The funded sample request in a job. -/
def claimedLedger : Ledger :=
  run Ledger.empty
    [(0, .insertIssued sampleRequest),
      (1, .applyFinalizedRange (sampleRange none 5 [sampleTransfer 3 0 0 100])),
      (2, .scheduleSweepJob .default 1 9 0 {})]

/-- The item of the sample request in the job's command. -/
def sampleItem : SweepItem := ⟨7, 40, .usdc, 20, 100, 50, 1000, 60, 30, .open, false, some 3⟩

theorem settlement_unknown_is_unreachable_claimedLedger :
    ∃ receipt item row, Classified claimedLedger receipt ∧
      DecidesOn claimedLedger 3 .default receipt item row ∧ row.status.isTerminal = false ∧
      ∃ evidence, item.outcome = .lateCollected 5 (some evidence) := by
  have hclassified : Classified claimedLedger (sampleReceipt 9 8
      (.lateCollected 5 (some ⟨4002, 4, 2, 4, some 100, 0⟩))) := by
    refine ⟨⟨9, 1, [sampleItem]⟩, sampleReader, ⟨1, 70, 0, 100⟩,
      ⟨true, 8, 8, 0, Table.empty.upsert (40, .collected 5)⟩, ⟨8, 8, 8⟩, by decide, ?_⟩
    have houtcome : classifyItem sampleReader ⟨1, 70, 0, 100⟩ sampleItem (.collected 5) ⟨8, 8, 8⟩ =
        .ok (.lateCollected 5 (some ⟨4002, 4, 2, 4, some 100, 0⟩)) := by
      simp only [classifyItem, sampleItem, findSettlement]
      rw [findSettlementLoop]
      rfl
    rw [classifyItems, show SweepReceipt.outcome? _ sampleItem.paymentAddress =
      some (.collected 5) from rfl]
    simp only [houtcome, classifyItems]
    rfl
  have hdecides : DecidesOn claimedLedger 3 .default (sampleReceipt 9 8
      (.lateCollected 5 (some ⟨4002, 4, 2, 4, some 100, 0⟩)))
      ⟨7, .lateCollected 5 (some ⟨4002, 4, 2, 4, some 100, 0⟩)⟩
      ((claimedLedger.member? 9 7).get (by decide)) :=
    ⟨[], [], {}, claimedLedger, rfl, rfl, by simp [sampleReceipt]⟩
  refine ⟨_, _, _, hclassified, hdecides, ?_, _, rfl⟩
  exact (settlement_unknown_is_unreachable ⟨_, rfl⟩ hclassified 3 .default hdecides).2 _ _ rfl

end Payday
