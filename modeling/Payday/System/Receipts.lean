/-
# What a receipt says about the history

The receipt of a claimed request's job, read against the history of the payment address: each
outcome the signers report is what the job's transaction did, and a settlement they searched
for is a transaction of the history.  When the contract paid its receiver, the search cannot
miss the deployment: a transfer reached the address no later, and the search starts at or
before the first nonzero transfer.
-/
import Payday.System.Scan

namespace Payday

/-! ### The first observed block -/

namespace Request

/-- Exactly the empty transfers are recorded as errors. -/
def Graded (q : Request) : Prop :=
  ∀ t ∈ q.transfers, t.disposition.kind = .error ↔ t.observation.amount = 0

lemma graded_record (q : Request) (o : PaymentObservation) :
    (q.record o).disposition.kind = .error ↔ (q.record o).observation.amount = 0 := by
  simp only [record, disposition]
  split_ifs with hzero
  · simp [Disposition.kind, hzero]
  · simp [Disposition.kind, hzero]
  · simp [Disposition.kind, hzero]
  · simp [Disposition.kind, hzero]

lemma graded_drain (t : Transfer) (p p' : Position) (expirationTimestamp : ℕ)
    (reason : DispositionReason) :
    (t.drain p p' expirationTimestamp reason).disposition.kind = .error ↔
      t.disposition.kind = .error := by
  simp only [Transfer.drain]
  split_ifs with herror
  · rfl
  all_goals exact ⟨fun hkind => (by cases hkind), fun hkind => absurd hkind herror⟩

lemma Graded.apply {q : Request} (h : q.Graded) (e : Event) : (q.apply e).Graded := by
  cases e with
  | range fresh endBlockTimestamp =>
    intro t ht
    rcases List.mem_append.1 ht with hold | hnew
    · exact h t hold
    · obtain ⟨o, -, rfl⟩ := List.mem_map.1 hnew
      exact q.graded_record o
  | receipt receipt outcome =>
    simp only [Request.apply]
    split
    · intro t ht
      obtain ⟨t', ht', rfl⟩ := List.mem_map.1 ht
      rw [graded_drain]
      exact h t' ht'
    · exact h
  | _ => exact h

end Request

lemma Reachable.graded {L : Ledger} (h : Reachable L) {id : InvoiceId} {q : Request}
    (hq : L.request? id = some q) : q.Graded :=
  h.request_induction (P := Request.Graded) (fun _ t ht => by cases ht)
    (fun _ e hg _ => hg.apply e) hq

/-- The first observed block is the block of a log, and no nonzero log is before it. -/
lemma Reachable.firstObservedBlock {L : Ledger} (h : Reachable L) {id : InvoiceId} {q : Request}
    (hq : L.request? id = some q) {f : ℕ} (hf : firstObservedBlock L id = some f) :
    (∃ o ∈ L.logs id, o.blockNumber = f) ∧ ∀ o ∈ L.logs id, o.amount ≠ 0 → f ≤ o.blockNumber := by
  have hgraded := h.graded hq
  obtain ⟨row, -, rfl⟩ := Ledger.request?_eq_some.1 hq
  obtain ⟨hmem, hmin⟩ := List.min?_eq_some_iff.1 hf
  rw [L.logs_eq]
  refine ⟨?_, fun o ho hne => ?_⟩
  · obtain ⟨r, hr, rfl⟩ := List.mem_map.1 hmem
    exact ⟨r.observation, List.mem_map.2 ⟨r, (List.mem_filter.1 hr).1, rfl⟩, rfl⟩
  · obtain ⟨r, hr, rfl⟩ := List.mem_map.1 ho
    refine hmin _ (List.mem_map.2 ⟨r, List.mem_filter.2 ⟨hr, ?_⟩, rfl⟩)
    have hkind := (hgraded r.transfer (List.mem_map.2 ⟨r, hr, rfl⟩)).not.2 hne
    simpa [ObservationRow.transfer] using hkind

namespace Scene

variable (S : Scene) {w : World} {q : Request} {j : JobId} {item : SweepItem}

/-- The block a search for the item's settlement starts from. -/
def searchStart (item : SweepItem) : ℕ := item.firstObservedBlock.getD S.config.startBlock

/-- No nonzero transfer of the history is before the first observed block of a claimed
request's item. -/
def Claims (w : World) : Prop :=
  ∀ q j item f, ClaimedBy w.ledger S.id q j item → item.firstObservedBlock = some f →
    f < S.scannedTo w.ledger ∧ ∀ o ∈ S.site.ownTransfers w.chain, o.amount ≠ 0 → f ≤ o.blockNumber

variable {S}

/-- The scanned blocks only grow. -/
lemma scannedTo_mono (now : Time) {op : Op} (honest : S.Honest w op) :
    S.scannedTo w.ledger ≤ S.scannedTo (step w.ledger now op) := by
  rcases step_scan w.ledger now op with hsame | ⟨range, funded, expired, rfl, hcursor, hrecord⟩
  · rw [scannedTo, scannedTo, Ledger.cursor, Ledger.cursor, hsame.indexerCursor]
  · have hc := recordRange_cursor hrecord S.chainId
    by_cases hchain : range.chainId = S.chainId
    · have hle := (honest hchain).nonempty
      rw [← hcursor, hchain] at hle
      rw [if_pos hchain.symm] at hc
      rw [scannedTo, scannedTo, hc]
      exact hle.trans (Nat.le_succ _)
    · rw [if_neg (Ne.symm hchain)] at hc
      rw [scannedTo, scannedTo, hc]

/-- The item of a new claim starts at or before every nonzero transfer. -/
lemma Sound.first_scheduled (h : S.Sound w) (hq : w.ledger.request? S.id = some q) {f : ℕ}
    (hf : firstObservedBlock w.ledger S.id = some f) :
    f < S.scannedTo w.ledger ∧
      ∀ o ∈ S.site.ownTransfers w.chain, o.amount ≠ 0 → f ≤ o.blockNumber := by
  obtain ⟨⟨o, ho, rfl⟩, hmin⟩ := h.reachable.firstObservedBlock hq hf
  rw [h.observed] at ho hmin
  have hlt := (mem_window.1 ho).2.2
  refine ⟨hlt, fun o' ho' hne => ?_⟩
  -- a transfer that is not recorded yet lies beyond the scanned blocks
  by_cases hscanned : o'.blockNumber < S.scannedTo w.ledger
  · exact hmin o' (mem_window.2 ⟨ho', Nat.zero_le _, hscanned⟩) hne
  · omega

lemma claims_step {w' : World} (h : S.Claims w) (hsound : S.Sound w) (hstep : S.Step w w') :
    S.Claims w' := by
  cases hstep with
  | mine tx htx =>
    intro q j item f hclaim hf
    obtain ⟨hlt, hmin⟩ := h q j item f hclaim hf
    refine ⟨hlt, fun o ho hne => ?_⟩
    rw [Site.ownTransfers_append] at ho
    rcases List.mem_append.1 ho with hold | hnew
    · exact hmin o hold hne
    · obtain ⟨tx', htx', hmem, -⟩ := S.site.mem_ownTransfers hnew
      obtain rfl := List.mem_singleton.1 htx'
      rw [(S.site.mem_transfersOf hmem).2.1]
      exact (hlt.trans_le (hsound.scannedTo_le htx)).le
  | finalize n hn => exact h
  | commit now op honest derived =>
    intro q' j item f hclaim hf
    have hmono := scannedTo_mono now honest
    obtain ⟨q, hq, -, -, hcases⟩ := hclaim.before hsound.reachable.membership
    have hfirst : f < S.scannedTo w.ledger ∧
        ∀ o ∈ S.site.ownTransfers w.chain, o.amount ≠ 0 → f ≤ o.blockNumber := by
      rcases hcases with hold | ⟨-, row, hrow, hbuilt⟩
      · exact h q j item f hold hf
      · rw [firstObservedBlock_sweepItem hbuilt] at hf
        exact hsound.first_scheduled hq hf
    exact ⟨hfirst.1.trans_le hmono, hfirst.2⟩

lemma Reaches.claims (h : S.Reaches w) : S.Claims w := by
  obtain ⟨finalized, hrun⟩ := h
  induction hrun with
  | refl =>
    intro q j item f hclaim
    cases hclaim.request
  | tail hrun hstep ih => exact claims_step ih (Reaches.sound ⟨finalized, hrun⟩) hstep

/-- The search of a claimed request's item starts at or before every nonzero transfer. -/
lemma Claims.searchStart_le (h : S.Claims w) (hsound : S.Sound w)
    (hclaim : ClaimedBy w.ledger S.id q j item) {o : PaymentObservation}
    (ho : o ∈ S.site.ownTransfers w.chain) (hne : o.amount ≠ 0) :
    S.searchStart item ≤ o.blockNumber := by
  rcases hf : item.firstObservedBlock with _ | f
  · obtain ⟨tx, htx, hmem, -⟩ := S.site.mem_ownTransfers ho
    rw [searchStart, hf, (S.site.mem_transfersOf hmem).2.1]
    exact hsound.start tx htx
  · rw [searchStart, hf]
    exact (h q j item f hclaim hf).2 o ho hne

/-! ### The receipt -/

variable (S)

/-- The settlement that a search reported is the transaction `origin` of the history. -/
structure Source (w : World) (item : SweepItem) (before : List Tx) (e : SettlementEvidence)
    (earlier : List Tx) (origin : Tx) (later : List Tx) : Prop where
  chain : w.chain = earlier ++ origin :: later
  txHash : e.txHash = origin.hash
  block : e.block = origin.block
  index : e.transactionIndex = origin.index
  recovered : e.recovered ≤
    S.site.forwardedOf (S.site.exec origin (S.site.after earlier)).forwarded
  settled : e.settled.isSome = true ↔ (S.site.after before).settled = some true
  deployment : (S.site.after before).settled = some true →
    (S.site.after earlier).settled = none ∧
      (S.site.after (earlier ++ [origin])).settled = some true
  /-- It is not the job's own transaction when an earlier one could be found. -/
  located : ∀ x ∈ S.site.events before, S.site.settlementLog x ≠ none →
    S.searchStart item ≤ x.1.block → origin ∈ before

/-- What the job's transaction `tx` did, by the outcome that is reported. -/
inductive Verdict (w : World) (q : Request) (item : SweepItem) (before : List Tx) (tx : Tx) :
    SweepItemOutcome → Prop
  | failed (cause : SweepFailureCause) : Verdict w q item before tx (.failed cause)
  | settled (fresh : (S.site.after before).settled = none)
      (deployed : (S.site.after (before ++ [tx])).settled = some true) :
      Verdict w q item before tx
        (.settled (S.site.forwardedOf (S.site.exec tx (S.site.after before)).forwarded))
  | returned (fresh : (S.site.after before).settled = none)
      (deployed : (S.site.after (before ++ [tx])).settled = some false) :
      Verdict w q item before tx
        (.returned (S.site.forwardedOf (S.site.exec tx (S.site.after before)).forwarded))
  | known (recorded : q.settlementTxHash.isSome) (deployed : (S.site.after before).settled ≠ none) :
      Verdict w q item before tx (.lateCollected
        (S.site.forwardedOf (S.site.exec tx (S.site.after before)).forwarded) none)
  | found (unrecorded : q.settlementTxHash = none)
      (deployed : (S.site.after before).settled ≠ none) (e : SettlementEvidence)
      (source : ∃ earlier origin later, S.Source w item before e earlier origin later) :
      Verdict w q item before tx (.lateCollected
        (S.site.forwardedOf (S.site.exec tx (S.site.after before)).forwarded) (some e))

variable {S}

/-- The search of a claimed request's item finds a transaction of the history. -/
lemma Sound.source (h : S.Sound w) (hclaims : S.Claims w)
    (hclaim : ClaimedBy w.ledger S.id q j item) {before after : List Tx} {tx : Tx}
    (hchain : w.chain = before ++ tx :: after) (hdeployed : (S.site.after before).settled ≠ none)
    {event : SettlementEvent} {first : SettlementLog} {rest : List SettlementLog}
    (hfinds : Site.Finds (S.site.settlements w.chain (S.searchStart item) (tx.block + 1)) event first
      rest) {e : SettlementEvidence} (htxHash : e.txHash = event.transactionHash)
    (hblock : e.block = event.blockNumber) (hindex : e.transactionIndex = event.transactionIndex)
    (hsettled : e.settled = event.settled) (hrecovered : e.recovered = event.recovered) :
    ∃ earlier origin later, S.Source w item before e earlier origin later := by
  have hnodup := h.hashes
  have hordered := h.ordered
  rw [hchain] at hordered
  -- the transactions before the job's are in blocks that were searched
  have hle : ∀ tx' ∈ before, tx'.block ≤ tx.block := by
    intro tx' htx'
    exact Site.block_le_of_position_le
      ((List.pairwise_append.1 hordered).2.2 tx' htx' tx (by simp)).le
  -- the first settlement, told by its hash
  have hbuild : ∀ earlier origin later, w.chain = earlier ++ origin :: later →
      first.transactionHash = origin.hash → first.blockNumber = origin.block →
      first.transactionIndex = origin.index →
      (event.settled.isSome = true ↔ (S.site.after before).settled = some true) →
      ((S.site.after before).settled = some true → (S.site.after earlier).settled = none ∧
        (S.site.after (earlier ++ [origin])).settled = some true) →
      S.Source w item before e earlier origin later := by
    intro earlier origin later hsplit hhash hb hi hiff hdeployment
    refine ⟨hsplit, htxHash.trans (hfinds.transactionHash.trans hhash),
      hblock.trans (hfinds.blockNumber.trans hb), hindex.trans (hfinds.transactionIndex.trans hi),
      ?_, by rw [hsettled]; exact hiff, hdeployment, ?_⟩
    · rw [hrecovered]
      rw [hsplit] at hfinds hnodup
      exact hfinds.recovered_le_forwarded hnodup hhash
    · intro x hx hlog hlo
      have hhi : x.1.block < tx.block + 1 := Nat.lt_succ_of_le (hle x.1 (S.site.mem_log hx))
      have hlogs := hfinds.logs_eq
      rw [hchain] at hlogs
      obtain ⟨y, hy, hyl⟩ := S.site.first_settlement_mem hlogs hx hlog hlo hhi
      have hmem : y.1 ∈ before := S.site.mem_log hy
      have hsame : y.1 = origin := by
        refine List.inj_on_of_nodup_map hnodup ?_ ?_
          ((S.site.settlementLog_eq_some hyl).1.symm.trans hhash)
        · rw [hchain]
          exact List.mem_append_left _ hmem
        · rw [hsplit]
          simp
      exact hsame ▸ hmem
  by_cases htrue : (S.site.after before).settled = some true
  · -- the deployment paid the receiver: it is the first settlement of the range
    obtain ⟨earlier, origin, later, hsplit, hnone, hpaid⟩ := S.site.deployment htrue
    have hsplit' : w.chain = earlier ++ origin :: (later ++ tx :: after) := by
      rw [hchain, hsplit]
      simp
    obtain ⟨o, ho, hne⟩ := S.site.deployment_transfer hnone hpaid
    have hstart : S.searchStart item ≤ origin.block := by
      have hin : o ∈ S.site.ownTransfers w.chain := by
        rw [hsplit', ← List.singleton_append, ← List.append_assoc, Site.ownTransfers_append]
        exact List.mem_append_left _ ho
      refine (hclaims.searchStart_le h hclaim hin hne).trans ?_
      obtain ⟨tx', htx', hmem, -⟩ := S.site.mem_ownTransfers ho
      rw [(S.site.mem_transfersOf hmem).2.1]
      rcases List.mem_append.1 htx' with hin' | hin'
      · have hord := h.ordered
        rw [hsplit'] at hord
        exact Site.block_le_of_position_le
          ((List.pairwise_append.1 hord).2.2 tx' hin' origin (by simp)).le
      · obtain rfl := List.mem_singleton.1 hin'
        exact le_rfl
    have hend : origin.block < tx.block + 1 :=
      Nat.lt_succ_of_le (hle origin (by rw [hsplit]; simp))
    obtain ⟨first', rest', hlogs, hhash, hamount, hb, hi⟩ :=
      S.site.settlements_deployment (later ++ tx :: after) hnone hpaid hstart hend
    rw [← hsplit', hfinds.logs_eq] at hlogs
    obtain ⟨rfl, -⟩ := List.cons.inj hlogs
    exact ⟨earlier, origin, _, hbuild earlier origin _ hsplit' hhash hb hi
      ⟨fun _ => htrue, fun _ => hfinds.settled_of_first _ hamount⟩ (fun _ => ⟨hnone, hpaid⟩)⟩
  · -- otherwise nothing reported a payment
    have hfirst : first ∈ S.site.settlements w.chain (S.searchStart item) (tx.block + 1) := by
      rw [hfinds.logs_eq]
      simp
    obtain ⟨y, hy, hyl⟩ := List.mem_filterMap.1 hfirst
    obtain ⟨earlier, later, hsplit, -⟩ := S.site.mem_events (mem_window.1 hy).1
    obtain ⟨hhash, hb, hi, -⟩ := S.site.settlementLog_eq_some hyl
    refine ⟨earlier, y.1, later, hbuild earlier y.1 later hsplit hhash hb hi ?_
      (fun ht => absurd ht htrue)⟩
    refine ⟨fun hsome => ?_, fun ht => absurd ht htrue⟩
    obtain ⟨l, hl, a, hamount⟩ := hfinds.settled_of_some hsome
    obtain ⟨x, hx, hxl⟩ := List.mem_filterMap.1 hl
    have hevent := (S.site.settlementLog_eq_some hxl).2.2.2 a hamount
    have hmem : (x.1, PaymentEvent.settled a) ∈ S.site.events w.chain := by
      rw [← hevent]
      exact (mem_window.1 hx).1
    have hpaid := S.site.settled_of_mem_events hmem
    obtain ⟨b, hb'⟩ := Option.ne_none_iff_exists'.1 hdeployed
    rw [hchain, S.site.after_settled hb' (tx :: after)] at hpaid
    rw [hb', hpaid]

/-- What the receipt of a claimed request's job reports about it is true of the history. -/
lemma Evidence.verdict {receipt : FinalizedSweep} {before after : List Tx} {tx : Tx}
    (h : S.Evidence w receipt before tx after) (hsound : S.Sound w) (hclaims : S.Claims w)
    (hq : w.ledger.request? S.id = some q) (hjob : q.sweepJobId = some receipt.jobId)
    {result : SweepItemResult} (hresult : result ∈ receipt.items) (hid : result.invoiceId = S.id) :
    ∃ item, ClaimedBy w.ledger S.id q receipt.jobId item ∧
      S.Verdict w q item before tx result.outcome := by
  obtain ⟨refused, command, logs, outcomes, getLogs, blockHeader, probeFailure, hbody, hcommand,
    hreceipt, hdecode, hcomplete, hclassify⟩ := h.classified
  obtain ⟨item, hitem, hitemId, outcome, houtcome, hclass⟩ := mem_classifyItems hclassify hresult
  have hclaim : ClaimedBy w.ledger S.id q receipt.jobId item :=
    ⟨hq, hjob, ⟨command, hcommand, hitem⟩, hitemId.symm.trans hid⟩
  refine ⟨item, hclaim, ?_⟩
  -- the item is about the scene's address and token
  have hdescribes := hsound.reachable.described S.id q receipt.jobId item hclaim
  obtain ⟨b, hb, haddr, htoken, -, -⟩ := hdescribes.terms
  obtain ⟨row, hrow, rfl⟩ := Ledger.request?_eq_some.1 hq
  obtain ⟨-, hpayment, htok, -, -⟩ := hsound.derived.terms row b hrow hb
  rw [hpayment] at haddr
  rw [htok] at htoken
  -- the outcome is what the sweep did
  have hexec : S.site.exec tx (S.site.after before) =
      (S.site.sweep (S.site.timestamp tx.block) refused (S.site.after before)).1 := by
    rw [Site.exec, hbody]
  obtain ⟨x, hx, rfl⟩ := Option.map_eq_some_iff.1 houtcome
  rw [haddr] at hx
  have hswept := S.site.swept_of_decode hreceipt hdecode hx
  rw [← hexec] at hswept
  have hstate : (S.site.exec tx (S.site.after before)).state = S.site.after (before ++ [tx]) :=
    (S.site.after_append before tx).symm
  generalize x.2 = swept at hswept hclass
  cases hswept with
  | failed data =>
    simp only [classifyItem] at hclass
    split at hclass
    · cases hclass
    · rw [← Except.ok.inj hclass]
      exact .failed _
  | settled fresh deployed amount rest forwarded =>
    rw [hstate] at deployed
    rw [← Except.ok.inj hclass, ← forwarded]
    exact .settled fresh deployed
  | returned fresh deployed amount forwarded =>
    rw [hstate] at deployed
    rw [← Except.ok.inj hclass, ← forwarded]
    exact .returned fresh deployed
  | collected deployed amount forwarded =>
    simp only [classifyItem] at hclass
    split at hclass
    · rename_i hrecorded
      rw [← Except.ok.inj hclass, ← forwarded]
      exact .known (by rw [← hdescribes.settlement]; exact hrecorded) deployed
    · rename_i hrecorded
      split at hclass
      · cases hclass
      · rename_i event hfind
        split at hclass
        · cases hclass
        · rename_i e he
          rw [haddr, htoken] at hfind
          obtain ⟨first, rest, hfinds⟩ := S.site.findSettlement_finds hcomplete
            (S.site.events_pairwise hsound.ordered) h.final hfind
          rw [← Except.ok.inj hclass, ← forwarded]
          refine .found ?_ deployed e ?_
          · have hnone := hdescribes.settlement
            rw [Bool.not_eq_true] at hrecorded
            rw [hrecorded] at hnone
            exact Option.isNone_iff_eq_none.1 (Option.isSome_eq_false_iff.1 hnone.symm)
          · unfold settlementEvidence at he
            split at he
            · cases he
            · split at he
              · cases he
              · obtain rfl := Except.ok.inj he
                exact hsound.source hclaims hclaim h.chain deployed hfinds rfl rfl rfl rfl rfl

end Scene

end Payday
