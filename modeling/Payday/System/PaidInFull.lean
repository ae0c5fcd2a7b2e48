/-
# What a fulfilled request was credited with

Transfers count toward the amount when their transaction comes before the settlement's.  So the
credit of a fulfilled request is exactly what its address held before the transaction that
deployed the contract, and the request was paid in full on the ledger if and only if that was
enough.  A transaction that transfers and deploys at once breaks this: the contract checks the
balance it finds, the ledger compares transactions.
-/
import Payday.System.Lifecycle

namespace Payday

namespace Request

variable {q : Request}

/-- Every transfer is classified against the recorded settlement. -/
def SettledBy (q : Request) : Prop :=
  ∀ p, q.settlementAt = some p → ∀ t ∈ q.transfers,
    t.disposition.kind = dispositionFor q.expirationTimestamp (some p) t.observation

/-- The range path classifies against the recorded settlement. -/
lemma record_of_settlementAt {p : Position} (hp : q.settlementAt = some p)
    (o : PaymentObservation) :
    (q.record o).disposition.kind = dispositionFor q.expirationTimestamp (some p) o := by
  have haccepting : q.accepting o = true ↔
      o.blockTimestamp ≤ q.expirationTimestamp ∧ ∀ p' ∈ some p, o.position < p' := by
    rw [accepting, hp]
    simp only [Option.isSome_some, Bool.or_true, Bool.and_true, Bool.and_eq_true,
      decide_eq_true_eq, Option.mem_def, Option.some.injEq, forall_eq']
    exact and_comm
  show (q.disposition o).kind = _
  unfold disposition dispositionFor
  by_cases hzero : o.amount = 0
  · rw [if_pos hzero, if_pos hzero]
    rfl
  · rw [if_neg hzero, if_neg hzero]
    by_cases hacc : q.accepting o = true
    · rw [if_pos hacc, if_pos (haccepting.1 hacc)]
      rfl
    · rw [if_neg hacc, if_neg (fun hc => hacc (haccepting.2 hc))]
      split <;> rfl

/-- A drain classifies against the position that is then recorded. -/
lemma drainPosition_of_settlementAt (h : q.Unrecorded ∨ ∃ t, q.RecordedAs t)
    {receipt : FinalizedSweep} {drain : Drain} {p : Position}
    (hp : (q.drain receipt drain).settlementAt = some p) : q.drainPosition drain = p := by
  rcases h with hun | ⟨t, hrec⟩
  · have hnone : q.settlementAt = none := by
      rw [settlementAt, hun.block]
    rw [drainPosition, hnone, Option.getD_none]
    simp only [settlementAt, Request.drain, hun.block, hun.index, Option.none_or] at hp
    rcases hstatus : drain.status with _ | status
    · simp [hstatus] at hp
    · simpa [hstatus] using hp
  · have hsome : q.settlementAt = some (position t.block t.transactionIndex) := by
      rw [settlementAt, hrec.block, hrec.index]
    rw [drainPosition, hsome, Option.getD_some]
    simp only [settlementAt, Request.drain, hrec.block, hrec.index, Option.some_or] at hp
    rcases hstatus : drain.status with _ | status
    · simpa [hstatus] using hp
    · simpa [hstatus] using hp

lemma SettledBy.apply (h : q.SettledBy) (hgraded : q.Graded)
    (hrecord : q.Unrecorded ∨ ∃ t, q.RecordedAs t) (e : Event) : (q.apply e).SettledBy := by
  cases e with
  | range fresh endBlockTimestamp =>
    intro p hp t ht
    rcases List.mem_append.1 ht with hold | hnew
    · exact h p hp t hold
    · obtain ⟨o, -, rfl⟩ := List.mem_map.1 hnew
      have hsame : q.settlementAt = some p := hp
      exact record_of_settlementAt hsame o
  | receipt receipt outcome =>
    simp only [Request.apply]
    split
    · rename_i drain _
      intro p hp t ht
      obtain ⟨t', ht', rfl⟩ := List.mem_map.1 ht
      have hmark := congrArg Mark.disposition (mark_drain t' receipt.position
        (q.drainPosition drain) q.expirationTimestamp (.invoice (drain.status.getD q.status)))
      refine hmark.trans ?_
      rw [drainPosition_of_settlementAt hrecord hp]
      simp only [dispositionFor, Option.mem_def, Option.some.injEq, forall_eq', hgraded t' ht']
      rfl
    · exact h
  | _ => exact h

end Request

namespace Scene

variable {S : Scene} {w : World} {q : Request}

lemma Agrees.record {chain : List Tx} (h : S.Agrees chain q) :
    q.Unrecorded ∨ ∃ t, q.RecordedAs t := by
  cases h with
  | unrecorded hun => exact Or.inl hun
  | fulfilled _ _ _ _ _ recorded => exact Or.inr ⟨_, recorded⟩
  | recovered _ _ t recorded => exact Or.inr ⟨t, recorded⟩

lemma Reaches.settledBy (h : S.Reaches w) (hq : w.ledger.request? S.id = some q) : q.SettledBy := by
  obtain ⟨finalized, hrun⟩ := h
  induction hrun generalizing q with
  | refl => cases hq
  | @tail w w' hrun hstep ih =>
    have hreach : S.Reaches w := ⟨finalized, hrun⟩
    cases hstep with
    | mine tx htx => exact ih hq
    | finalize n hn => exact ih hq
    | commit now op honest derived =>
      rcases hprev : w.ledger.request? S.id with _ | q₀
      · obtain ⟨input, -, rfl⟩ := request?_step_issued op hprev hq
        intro p hp
        cases hp
      · obtain rfl := Option.some.inj ((request?_step now op hprev).moved.symm.trans hq)
        exact (ih hprev).apply (hreach.sound.reachable.graded hprev)
          (hreach.settles.agrees q₀ hprev).record _

end Scene

/-- A sum keeps its value without terms that are zero. -/
lemma sum_filter_of_zero {α : Type*} (p : α → Bool) (f : α → ℕ) {xs : List α}
    (h : ∀ x ∈ xs, p x = false → f x = 0) : ((xs.filter p).map f).sum = (xs.map f).sum := by
  induction xs with
  | nil => rfl
  | cons x rest ih =>
    have hrest := ih (fun y hy => h y (by simp [hy]))
    rcases hp : p x with _ | _
    · rw [List.filter_cons_of_neg (by simp [hp]), hrest, List.map_cons, List.sum_cons,
        h x (by simp) hp, Nat.zero_add]
    · rw [List.filter_cons_of_pos hp, List.map_cons, List.sum_cons, hrest, List.map_cons,
        List.sum_cons]

namespace Scene

variable {S : Scene} {w : World} {q : Request}

/-- Whether a transfer counts, given the deadline and the settlement. -/
def credits (expirationTimestamp : ℕ) (settlement : Position) (o : PaymentObservation) : Bool :=
  decide (dispositionFor expirationTimestamp (some settlement) o = .credited)

/-- The transfers that count for a contract that paid its receiver are those before its
deployment. -/
lemma credited_transfers {before after : List Tx} {tx : Tx} {hi : ℕ}
    (hordered : Site.Ordered (before ++ tx :: after)) (hfresh : (S.site.after before).settled = none)
    (hdeployed : (S.site.after (before ++ [tx])).settled = some true) (hhi : tx.block < hi) :
    (((S.transfersIn (before ++ tx :: after) 0 hi).filter
      (credits S.site.terms.expirationTimestamp tx.position)).map (·.amount)).sum =
        (S.site.after before).balance S.site.terms.token := by
  obtain ⟨-, hlater, hearlier⟩ := List.pairwise_append.1 hordered
  obtain ⟨-, -, -, hintime⟩ := (S.site.deployment_events hfresh hdeployed).1 rfl
  -- everything before the deployment was scanned, and counts unless it is empty
  have hwindow : window PaymentObservation.blockNumber 0 hi (S.site.ownTransfers before) =
      S.site.ownTransfers before := by
    rw [window, List.filter_eq_self]
    intro o ho
    obtain ⟨tx', htx', hmem, -⟩ := S.site.mem_ownTransfers ho
    have hle := Site.block_le_of_position_le (hearlier tx' htx' tx (by simp)).le
    rw [(S.site.mem_transfersOf hmem).2.1]
    simp only [Nat.zero_le, true_and, decide_eq_true_eq]
    omega
  have hcounted : (((S.site.ownTransfers before).filter
      (credits S.site.terms.expirationTimestamp tx.position)).map (·.amount)).sum =
        ((S.site.ownTransfers before).map (·.amount)).sum := by
    refine sum_filter_of_zero _ _ fun o ho hnot => ?_
    obtain ⟨tx', htx', hmem, -⟩ := S.site.mem_ownTransfers ho
    obtain ⟨hposition, -, htime⟩ := S.site.mem_transfersOf hmem
    have hlt := hearlier tx' htx' tx (by simp)
    have hle := Site.block_le_of_position_le hlt.le
    have hdeadline : o.blockTimestamp ≤ S.site.terms.expirationTimestamp := by
      rw [htime]
      exact (S.site.timestamp_mono hle).trans hintime
    by_contra hne
    have hcredited : credits S.site.terms.expirationTimestamp tx.position o = true := by
      have hbefore : ∀ p ∈ some tx.position, o.position < p := by
        intro p hp
        obtain rfl := Option.some.inj hp
        rw [hposition]
        exact hlt
      rw [credits, dispositionFor, if_neg hne, if_pos ⟨hdeadline, hbefore⟩]
      rfl
    rw [hcredited] at hnot
    cases hnot
  -- nothing from the deployment on does
  have hrest : (window PaymentObservation.blockNumber 0 hi
      (S.site.ownTransfers (tx :: after))).filter
        (credits S.site.terms.expirationTimestamp tx.position) = [] := by
    rw [List.filter_eq_nil_iff]
    intro o ho
    obtain ⟨tx', htx', hmem, -⟩ := S.site.mem_ownTransfers (mem_window.1 ho).1
    have hle : tx.position ≤ o.position := by
      rw [(S.site.mem_transfersOf hmem).1]
      rcases List.mem_cons.1 htx' with rfl | htx'
      · exact le_rfl
      · exact ((List.pairwise_cons.1 hlater).1 tx' htx').le
    rw [credits, decide_eq_true_eq, dispositionFor]
    split_ifs with hzero hin
    · simp
    · exact absurd (hin.2 tx.position rfl) (not_lt.2 hle)
    · simp
  rw [transfersIn, Site.ownTransfers_append, window_append, hwindow, List.filter_append, hrest,
    List.append_nil, hcounted, (S.site.undeployed hfresh).1]

/-- The credit of a fulfilled request, once the cursor has passed its settlement. -/
lemma Reaches.received_eq (h : S.Reaches w) (hq : w.ledger.request? S.id = some q)
    {before after : List Tx} {tx : Tx} (hdeploys : S.site.Deploys w.chain before tx after true)
    (hrec : q.RecordedAs ⟨tx.hash, tx.index, tx.block⟩)
    (hpassed : tx.block < S.scannedTo w.ledger) :
    q.received = (S.site.after before).balance S.site.terms.token := by
  have hsound := h.sound
  -- the request is bound, and its terms are the contract's
  have hne : w.chain ≠ [] := by
    rw [hdeploys.chain]
    simp
  obtain ⟨q', hq', hbound⟩ := hsound.bound hne
  obtain rfl := Option.some.inj (hq.symm.trans hq')
  obtain ⟨b, hb⟩ := Option.isSome_iff_exists.1 hbound
  obtain ⟨row, hrow, hrequest⟩ := Ledger.request?_eq_some.1 hq
  obtain ⟨-, -, -, -, hexp⟩ :=
    hsound.derived.terms row b hrow (by rw [← hrequest] at hb; exact hb)
  have hqexp : q.expirationTimestamp = S.site.terms.expirationTimestamp := by
    rw [← hrequest]
    exact hexp
  have hsettlement : q.settlementAt = some tx.position := by
    rw [Request.settlementAt, hrec.block, hrec.index]
    rfl
  have hsettled := h.settledBy hq tx.position hsettlement
  have hcredited : q.transfers.filter (·.isCredited) = q.transfers.filter (fun t =>
      credits S.site.terms.expirationTimestamp tx.position t.observation) := by
    refine List.filter_congr fun t ht => ?_
    rw [Transfer.isCredited, hsettled t ht, hqexp, credits, beq_eq_decide]
  have hlogs : (q.transfers.filter (fun t =>
      credits S.site.terms.expirationTimestamp tx.position t.observation)).map
        (·.observation.amount) =
      ((q.transfers.map (·.observation)).filter
        (credits S.site.terms.expirationTimestamp tx.position)).map (·.amount) := by
    rw [List.filter_map, List.map_map]
    rfl
  rw [(hsound.reachable.balanced hq).received, creditedOf, hcredited, hlogs,
    Ledger.logs_of_request hq, hsound.observed, hdeploys.chain]
  exact credited_transfers (hdeploys.chain ▸ hsound.ordered) hdeploys.fresh hdeploys.deployed hpassed

end Scene

/-- A fulfilled request whose settlement the cursor has passed was paid in full on the ledger if
and only if its address held the amount before the transaction that deployed its contract. -/
theorem fulfilled_is_paid_in_full_iff (S : Scene) {w : World} (h : S.Reaches w) {row : Invoice}
    (hrow : w.ledger.invoices.find? S.id = some row) (hfulfilled : row.status = .fulfilled)
    {cursor : IndexerCursor} (hcursor : w.ledger.cursor S.chainId = some cursor) {block : ℕ}
    (hblock : row.resolvedAtBlock = some block) (hpassed : block ≤ cursor.block) :
    ∃ before tx after, S.site.Deploys w.chain before tx after true ∧
      row.settlementTxHash = some tx.hash ∧
      (row.amount ≤ row.confirmedReceived ↔
        row.amount ≤ (S.site.after before).balance S.site.terms.token) := by
  have hq : w.ledger.request? S.id = some (row.request (w.ledger.observationsOf S.id)) :=
    Ledger.request?_eq_some.2 ⟨row, hrow, rfl⟩
  cases h.settles.agrees _ hq with
  | unrecorded hun =>
    have hopen : row.status.isTerminal = false := hun.open'
    rw [hfulfilled] at hopen
    cases hopen
  | recovered status =>
    have hstatus : row.status = .recovered := status
    rw [hfulfilled] at hstatus
    cases hstatus
  | fulfilled _ before tx after deploys recorded =>
    refine ⟨before, tx, after, deploys, recorded.txHash, ?_⟩
    have hsame : row.resolvedAtBlock = some tx.block := recorded.block
    obtain rfl := Option.some.inj (hblock.symm.trans hsame)
    have hscanned : tx.block < S.scannedTo w.ledger := by
      rw [Scene.scannedTo, hcursor]
      exact Nat.lt_succ_of_le hpassed
    have hreceived : row.confirmedReceived = (S.site.after before).balance S.site.terms.token :=
      h.received_eq hq deploys recorded hscanned
    rw [hreceived]

/-- The transfer and the deployment are one transaction: the request is fulfilled, the cursor has
passed the settlement, and nothing is credited. -/
theorem fulfilled_is_not_paid_in_full :
    sampleScene.Reaches fulfilledWorld ∧ ∃ row cursor,
      fulfilledWorld.ledger.invoices.find? 7 = some row ∧ row.status = .fulfilled ∧
      fulfilledWorld.ledger.cursor 1 = some cursor ∧ row.resolvedAtBlock = some 3 ∧
      3 ≤ cursor.block ∧ row.confirmedReceived = 0 ∧ row.confirmedReceived < row.amount :=
  ⟨fulfilledWorld_reached, (fulfilledWorld.ledger.invoices.find? 7).get (by decide),
    sampleCursor 5, by simp, by decide, by decide, by decide, by decide, by decide, by decide⟩

/-- The contract's own report, in the receipt of the job's transaction. -/
def sampleSettledLog : RpcLog where
  address := 40
  event := .settled (.ok 100)
  removed := false
  transactionHash := some 8000
  blockNumber := some 8
  blockHash := some 8
  transactionIndex := some 0
  logIndex := some 1

/-- The range after the sample job's transaction. -/
def emptyRange : FinalizedRange := sampleRange (some (sampleCursor 5)) 8 []

/-- The sample request is paid, the job's own transaction deploys its contract, and the cursor
passes it. -/
def paidWorld : World :=
  { sweptWorld [.transfer 20 90 100 0] (.settled 0) with
    ledger := step (run Ledger.empty (sweptRun (.settled 0))) 4 (.applyFinalizedRange emptyRange) }

lemma paidWorld_reached : sampleScene.Reaches paidWorld := by
  have hcommand : claimedLedger.commands.find? 9 = some ⟨9, 1, [sampleItem]⟩ := by decide
  have hderived : sampleScene.Derived (run Ledger.empty (sweptRun (.settled 0))) :=
    sampleScene_derived (by decide)
  have hswept : sampleScene.Reaches (sweptWorld [.transfer 20 90 100 0] (.settled 0)) := by
    refine sweptWorld_reached (by decide) ⟨rfl, le_rfl, rfl, rfl, rfl, rfl, ?_⟩ hderived
    refine ⟨false, ⟨9, 1, [sampleItem]⟩, [sampleSettledLog],
      Table.empty.upsert (40, .settled 100 0), sampleSite.provider (fun _ => 1)
        (claimedWorld [.transfer 20 90 100 0]).chain, fun n => .ok ⟨n, n, n⟩,
      fun _ _ _ _ _ _ => .error .readOnly, rfl, hcommand, ?_, rfl, ?_, rfl⟩
    · exact ⟨[sampleSettledLog], [], rfl, List.Forall₂.cons ⟨rfl, rfl⟩ List.Forall₂.nil,
        List.Forall₂.nil⟩
    · exact sampleSite.provider_complete (by decide) 8
  have hscanned : sampleScene.Scanned (sweptWorld [.transfer 20 90 100 0] (.settled 0))
      emptyRange := by
    refine ⟨le_rfl, by decide, rfl, by decide, fun o ho => ?_, by decide⟩
    cases ho
  exact hswept.tail (.commit 4 (.applyFinalizedRange emptyRange) (fun _ => hscanned)
    (sampleScene_derived (by decide)))

theorem fulfilled_is_paid_in_full_iff_paidWorld :
    ∃ row, paidWorld.ledger.invoices.find? 7 = some row ∧ row.amount ≤ row.confirmedReceived ∧
      ∃ before tx after, sampleSite.Deploys paidWorld.chain before tx after true ∧
        row.amount ≤ (sampleSite.after before).balance 20 := by
  have hrow : paidWorld.ledger.invoices.find? 7 =
      some ((paidWorld.ledger.invoices.find? 7).get (by decide)) := by simp
  have hcursor : paidWorld.ledger.cursor 1 = some (sampleCursor 8) := by decide
  have hblock : ((paidWorld.ledger.invoices.find? 7).get (by decide)).resolvedAtBlock = some 8 := by
    decide
  have hpaid : ((paidWorld.ledger.invoices.find? 7).get (by decide)).amount ≤
      ((paidWorld.ledger.invoices.find? 7).get (by decide)).confirmedReceived := by decide
  obtain ⟨before, tx, after, hdeploys, -, hiff⟩ := fulfilled_is_paid_in_full_iff sampleScene
    paidWorld_reached hrow (by decide) hcursor hblock (le_refl 8)
  exact ⟨_, hrow, hpaid, before, tx, after, hdeploys, hiff.1 hpaid⟩

end Payday
