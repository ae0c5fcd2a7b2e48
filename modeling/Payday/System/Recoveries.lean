/-
# Recovered funds and what the contract forwarded

A recovery row takes its amount from the job's own transaction, or from the settlement that the
search found.  Each is bounded by what the contract forwarded in the transaction the row names.
The two can name the same transaction: when the contract was deployed empty before the first
observed block and nothing was recovered since, the search finds the job's own transaction, and
the same tokens are ledgered twice.  `Locatable` is the state in which this cannot happen.
-/
import Payday.Ledger.Recoveries
import Payday.System.Lifecycle

namespace Payday

/-- The amounts that are ledgered under a transaction. -/
def amountsOf (rows : List RecoveredFunds) (txHash : Hash) : ℕ :=
  ((rows.filter (fun r => decide (r.txHash = txHash))).map (·.amount)).sum

lemma amountsOf_append (rows rows' : List RecoveredFunds) (txHash : Hash) :
    amountsOf (rows ++ rows') txHash = amountsOf rows txHash + amountsOf rows' txHash := by
  simp [amountsOf]

lemma amountsOf_eq_zero {rows : List RecoveredFunds} {txHash : Hash}
    (h : ∀ r ∈ rows, r.txHash ≠ txHash) : amountsOf rows txHash = 0 := by
  rw [amountsOf, List.filter_eq_nil_iff.2]
  · rfl
  · intro r hr
    simpa using h r hr

lemma amountsOf_sublist {rows rows' : List RecoveredFunds} (h : rows.Sublist rows') (txHash : Hash) :
    amountsOf rows txHash ≤ amountsOf rows' txHash :=
  ((h.filter _).map _).sum_le_sum (fun _ _ => Nat.zero_le _)

lemma amountsOf_recovered (id : InvoiceId) (amount : ℕ) (reason : RecoveryReason)
    (hash txHash : Hash) (block time : ℕ) :
    amountsOf (recovered id amount reason hash block time).toList txHash =
      if hash = txHash then amount else 0 := by
  unfold recovered
  by_cases hzero : amount = 0
  · rw [if_pos hzero, hzero]
    simp [amountsOf]
  · rw [if_neg hzero, Option.toList_some]
    by_cases hhash : hash = txHash
    · simp [amountsOf, hhash]
    · simp [amountsOf, hhash]

lemma recovered_txHash {id : InvoiceId} {amount : ℕ} {reason : RecoveryReason} {hash : Hash}
    {block time : ℕ} {r : RecoveredFunds}
    (h : r ∈ (recovered id amount reason hash block time).toList) : r.txHash = hash := by
  unfold recovered at h
  split at h
  · cases h
  · rw [Option.toList_some, List.mem_singleton] at h
    rw [h]

/-- A transaction has one place in a history. -/
lemma split_unique {txs b a b' a' : List Tx} {t t' : Tx} (hnodup : (txs.map Tx.hash).Nodup)
    (h : txs = b ++ t :: a) (h' : txs = b' ++ t' :: a') (hhash : t.hash = t'.hash) :
    b = b' ∧ t = t' := by
  induction b generalizing txs b' with
  | nil =>
    cases b' with
    | nil =>
      obtain ⟨rfl, -⟩ := List.cons.inj (h.symm.trans h')
      exact ⟨rfl, rfl⟩
    | cons x rest =>
      -- the first transaction would occur again later
      exfalso
      obtain ⟨rfl, rfl⟩ := List.cons.inj (h.symm.trans h')
      rw [h, List.nil_append, List.map_cons, hhash] at hnodup
      exact (List.nodup_cons.1 hnodup).1 (by simp)
  | cons x rest ih =>
    cases b' with
    | nil =>
      exfalso
      obtain ⟨rfl, rfl⟩ := List.cons.inj (h.symm.trans h')
      rw [h', List.nil_append, List.map_cons, ← hhash] at hnodup
      exact (List.nodup_cons.1 hnodup).1 (by simp)
    | cons y rest' =>
      obtain ⟨rfl, hrest⟩ := List.cons.inj (h.symm.trans h')
      rw [h, List.cons_append, List.map_cons] at hnodup
      obtain ⟨hb, ht⟩ := ih (List.nodup_cons.1 hnodup).2 rfl hrest
      exact ⟨by rw [hb], ht⟩

/-- A recorded settlement transaction stays. -/
lemma Request.settlementTxHash_of_apply {q : Request} {e : Event}
    (h : (q.apply e).settlementTxHash = none) : q.settlementTxHash = none := by
  cases e with
  | receipt receipt outcome =>
    simp only [Request.apply] at h
    split at h
    · simp [Request.drain] at h
    · exact h
  | _ => exact h

namespace Scene

variable (S : Scene) {w w' : World} {q : Request}

/-- What the contract forwarded of the request's token in the transaction after `before`. -/
def forwarded (before : List Tx) (tx : Tx) : ℕ :=
  S.site.forwardedOf (S.site.exec tx (S.site.after before)).forwarded

/-- When a job's transaction collects from a contract that it found deployed, and the ledger holds
no settlement, an earlier transaction at or after the block where the search starts emitted an
event that the search takes for the settlement. -/
def Locatable (w : World) : Prop :=
  ∀ q j item, ClaimedBy w.ledger S.id q j item → q.settlementTxHash = none →
    ∀ before tx after refused, w.chain = before ++ tx :: after → tx.body = .sweep j refused →
      (S.site.after before).settled ≠ none → S.forwarded before tx ≠ 0 →
        ∃ x ∈ S.site.events before, S.site.settlementLog x ≠ none ∧ S.searchStart item ≤ x.1.block

structure Ledgered (w : World) : Prop where
  absent : w.ledger.request? S.id = none → w.ledger.recoveriesOf S.id = []
  unrecorded : ∀ q, w.ledger.request? S.id = some q → q.settlementTxHash = none →
    w.ledger.recoveriesOf S.id = []
  onChain : ∀ r ∈ w.ledger.recoveriesOf S.id, ∃ tx ∈ w.chain, tx.hash = r.txHash
  bounded : ∀ before tx after, w.chain = before ++ tx :: after →
    amountsOf (w.ledger.recoveriesOf S.id) tx.hash ≤ S.forwarded before tx
  /-- No row names a transaction of the job that claims the request. -/
  claimed : ∀ q j, w.ledger.request? S.id = some q → q.sweepJobId = some j →
    ∀ tx ∈ w.chain, ∀ refused, tx.body = .sweep j refused →
      ∀ r ∈ w.ledger.recoveriesOf S.id, r.txHash ≠ tx.hash

variable {S}

lemma Ledgered.mine (h : S.Ledgered w) {tx : Tx} (htx : S.Minable w tx) :
    S.Ledgered { w with chain := w.chain ++ [tx] } := by
  have hnew : ∀ r ∈ w.ledger.recoveriesOf S.id, r.txHash ≠ tx.hash := by
    intro r hr heq
    obtain ⟨tx', htx', hhash⟩ := h.onChain r hr
    exact htx.hash_new tx' htx' (hhash.trans heq)
  refine ⟨h.absent, h.unrecorded, fun r hr => ?_, fun before tx' after hsplit => ?_,
    fun q j hq hj tx' htx' refused hbody => ?_⟩
  · obtain ⟨tx', htx', hhash⟩ := h.onChain r hr
    exact ⟨tx', List.mem_append_left _ htx', hhash⟩
  · rcases List.eq_nil_or_concat after with rfl | ⟨rest, last, rfl⟩
    · obtain ⟨-, htx'⟩ := List.append_inj' hsplit rfl
      obtain rfl := List.singleton_inj.1 htx'
      rw [amountsOf_eq_zero hnew]
      exact Nat.zero_le _
    · have hconcat : w.chain ++ [tx] = (before ++ tx' :: rest) ++ [last] := by
        simpa using hsplit
      exact h.bounded before tx' rest (List.append_inj' hconcat rfl).1
  · rcases List.mem_append.1 htx' with hold | hlast
    · exact h.claimed q j hq hj tx' hold refused hbody
    · obtain rfl := List.mem_singleton.1 hlast
      exact hnew

/-- A row about the job's own transaction adds what that transaction forwarded to nothing. -/
lemma Ledgered.own (h : S.Ledgered w) (hsound : S.Sound w) {receipt : FinalizedSweep}
    {before after : List Tx} {tx : Tx} (hev : S.Evidence w receipt before tx after)
    (hq : w.ledger.request? S.id = some q) (hjob : q.sweepJobId = some receipt.jobId)
    (reason : RecoveryReason) :
    (∀ r ∈ (recovered q.id (S.forwarded before tx) reason receipt.txHash receipt.block
        receipt.blockTimestamp).toList, ∃ tx ∈ w.chain, tx.hash = r.txHash) ∧
      ∀ before' tx' after', w.chain = before' ++ tx' :: after' →
        amountsOf (w.ledger.recoveriesOf S.id) tx'.hash +
          amountsOf (recovered q.id (S.forwarded before tx) reason receipt.txHash receipt.block
            receipt.blockTimestamp).toList tx'.hash ≤ S.forwarded before' tx' := by
  have htx : tx ∈ w.chain := by
    rw [hev.chain]
    simp
  refine ⟨fun r hr => ⟨tx, htx, hev.txHash.symm.trans (recovered_txHash hr).symm⟩,
    fun before' tx' after' hsplit => ?_⟩
  have hold := h.bounded before' tx' after' hsplit
  rw [amountsOf_recovered, hev.txHash]
  split_ifs with hhash
  · obtain ⟨refused, command, -, -, -, -, -, hbody, -⟩ := hev.classified
    obtain ⟨rfl, rfl⟩ := split_unique hsound.hashes hev.chain hsplit hhash
    rw [amountsOf_eq_zero (h.claimed q receipt.jobId hq hjob tx htx refused hbody), Nat.zero_add]
  · exact hold

/-- The rows of a receipt are bounded by what its transactions forwarded. -/
lemma Verdict.recoveries {item : SweepItem} {before after : List Tx} {tx : Tx}
    {outcome : SweepItemOutcome} (h : S.Verdict w q item before tx outcome) (hsound : S.Sound w)
    (hledgered : S.Ledgered w) {receipt : FinalizedSweep}
    (hev : S.Evidence w receipt before tx after) (hq : w.ledger.request? S.id = some q)
    (hjob : q.sweepJobId = some receipt.jobId)
    (hlocated : q.settlementTxHash = none → (S.site.after before).settled ≠ none →
      S.forwarded before tx ≠ 0 → ∃ x ∈ S.site.events before,
        S.site.settlementLog x ≠ none ∧ S.searchStart item ≤ x.1.block)
    {drain : Drain} (hdrain : q.drain? receipt outcome = some drain) :
    (∀ r ∈ drain.recoveries, ∃ tx ∈ w.chain, tx.hash = r.txHash) ∧
      ∀ before' tx' after', w.chain = before' ++ tx' :: after' →
        amountsOf (w.ledger.recoveriesOf S.id) tx'.hash + amountsOf drain.recoveries tx'.hash ≤
          S.forwarded before' tx' := by
  cases h with
  | failed cause => cases hdrain
  | settled fresh deployed =>
    obtain rfl := Option.some.inj hdrain
    exact hledgered.own hsound hev hq hjob .overpayment
  | returned fresh deployed =>
    obtain rfl := Option.some.inj hdrain
    exact hledgered.own hsound hev hq hjob .expired
  | known recorded deployed =>
    obtain rfl := Option.some.inj hdrain
    exact hledgered.own hsound hev hq hjob .lateTransfer
  | found unrecorded deployed e source =>
    obtain ⟨earlier, origin, later, hsource⟩ := source
    obtain ⟨hchain, hown⟩ := hledgered.own hsound hev hq hjob .lateTransfer
    obtain rfl := Option.some.inj hdrain
    have horigin : origin ∈ w.chain := by
      rw [hsource.chain]
      simp
    refine ⟨fun r hr => ?_, fun before' tx' after' hsplit => ?_⟩
    · rcases List.mem_append.1 hr with hfound | hlate
      · split at hfound
        · cases hfound
        · exact ⟨origin, horigin, hsource.txHash.symm.trans (recovered_txHash hfound).symm⟩
      · exact hchain r hlate
    · have hlate := hown before' tx' after' hsplit
      rw [hledgered.unrecorded q hq unrecorded] at hlate ⊢
      rw [amountsOf_append]
      -- the settlement's own row, if there is one, is about the origin
      by_cases hhash : origin.hash = tx'.hash
      · obtain ⟨rfl, rfl⟩ := split_unique hsound.hashes hsource.chain hsplit hhash
        have hzero : amountsOf (recovered q.id (S.forwarded before tx) .lateTransfer receipt.txHash
            receipt.block receipt.blockTimestamp).toList origin.hash = 0 := by
          rw [amountsOf_recovered, hev.txHash]
          split_ifs with hsame
          · -- an origin that is the job's transaction forwarded nothing
            by_contra hne
            obtain ⟨x, hx, hlog, hstart⟩ := hlocated unrecorded deployed hne
            have hbefore := hsource.located x hx hlog hstart
            have hnodup := hsound.hashes
            rw [hev.chain, List.map_append, List.map_cons] at hnodup
            exact (List.nodup_append.1 hnodup).2.2 origin.hash (List.mem_map_of_mem hbefore)
              tx.hash (by simp) hsame.symm
          · rfl
        have hfound : amountsOf (if q.status.isTerminal = true then [] else
            (recovered q.id e.recovered (if e.settled.isSome = true then .overpayment else .expired)
              e.txHash e.block e.blockTimestamp).toList) origin.hash ≤ S.forwarded earlier origin := by
          split
          · exact Nat.zero_le _
          · rw [amountsOf_recovered, if_pos hsource.txHash]
            exact hsource.recovered
        have hnil : amountsOf [] origin.hash = 0 := rfl
        rw [forwarded] at hzero
        omega
      · have hfound : amountsOf (if q.status.isTerminal = true then [] else
            (recovered q.id e.recovered (if e.settled.isSome = true then .overpayment else .expired)
              e.txHash e.block e.blockTimestamp).toList) tx'.hash = 0 := by
          split
          · rfl
          · rw [amountsOf_recovered, if_neg (by rw [hsource.txHash]; exact hhash)]
        rw [hfound, Nat.zero_add]
        exact hlate

/-- The claims of a ledger were there before its last transaction, or nothing of their job is
mined. -/
lemma Ledgered.claimed_commit (h : S.Ledgered w) (hsound : S.Sound w) (now : Time) {op : Op}
    {q' : Request} {j : JobId} (hq' : (step w.ledger now op).request? S.id = some q')
    (hj : q'.sweepJobId = some j) {tx : Tx} (htx : tx ∈ w.chain) {refused : Bool}
    (hbody : tx.body = .sweep j refused) :
    ∀ r ∈ w.ledger.recoveriesOf S.id, r.txHash ≠ tx.hash := by
  have hreach : Reachable (step w.ledger now op) := reachable_step hsound.reachable now op
  obtain ⟨item, hclaim⟩ := exists_claimedBy hreach hq' hj
  obtain ⟨q, hq, -, -, hcases⟩ := hclaim.before hsound.reachable.membership
  rcases hcases with hold | ⟨hnone, -⟩
  · exact h.claimed q j hq hold.claimed tx htx refused hbody
  · exact absurd hnone (hsound.commanded tx htx j refused hbody)

lemma Ledgered.commit (h : S.Ledgered w) (hsound : S.Sound w) (hclaims : S.Claims w)
    (hlocatable : S.Locatable w) (now : Time) {op : Op} (honest : S.Honest w op) :
    S.Ledgered { w with ledger := step w.ledger now op } := by
  obtain ⟨new, happend, hnew⟩ := step_recoveries w.ledger now op S.id
  rcases hnew with rfl | ⟨q, receipt, outcome, drain, hq, hevent, hdrain, hsub⟩
  · -- nothing is added
    rw [List.append_nil] at happend
    refine ⟨fun hnone => ?_, fun q' hq' hunrecorded => ?_, fun r hr => ?_,
      fun before tx after hsplit => ?_, fun q' j hq' hj tx htx refused hbody r hr => ?_⟩
    · rw [happend]
      rcases hq : w.ledger.request? S.id with _ | q
      · exact h.absent hq
      · have hmoved := (request?_step now op hq).moved
        rw [hnone] at hmoved
        cases hmoved
    · rw [happend]
      rcases hq : w.ledger.request? S.id with _ | q
      · exact h.absent hq
      · obtain rfl := Option.some.inj ((request?_step now op hq).moved.symm.trans hq')
        exact h.unrecorded q hq (Request.settlementTxHash_of_apply hunrecorded)
    · rw [happend] at hr
      exact h.onChain r hr
    · rw [happend]
      exact h.bounded before tx after hsplit
    · rw [happend] at hr
      exact h.claimed_commit hsound now hq' hj htx hbody r hr
  · -- the receipt of the job that claims the request
    obtain ⟨henabled, hmoved⟩ := request?_step now op hq
    rw [hevent] at henabled hmoved
    have hdrained : q.apply (.receipt receipt outcome) = q.drain receipt drain := by
      simp only [Request.apply, hdrain]
    rw [hdrained] at hmoved
    obtain ⟨policy, applied, rfl, -, hitem⟩ := event_eq_receipt hevent
    obtain ⟨before, tx, after, hev⟩ := honest q hq henabled
    obtain ⟨item, hclaim, hverdict⟩ := hev.verdict hsound hclaims hq henabled hitem rfl
    obtain ⟨refused, command, -, -, -, -, -, hbody, -⟩ := hev.classified
    obtain ⟨honChain, hbounded⟩ := hverdict.recoveries hsound h hev hq henabled
      (fun hunrecorded => hlocatable q receipt.jobId item hclaim hunrecorded before tx after refused
        hev.chain hbody) hdrain
    refine ⟨fun hnone => ?_, fun q' hq' hunrecorded => ?_, fun r hr => ?_,
      fun before' tx' after' hsplit => ?_, fun q' j hq' hj => ?_⟩
    · rw [hmoved] at hnone
      cases hnone
    · obtain rfl := Option.some.inj (hmoved.symm.trans hq')
      simp [Request.drain] at hunrecorded
    · rw [happend] at hr
      rcases List.mem_append.1 hr with hold | hfresh
      · exact h.onChain r hold
      · exact honChain r (hsub.subset hfresh)
    · rw [happend, amountsOf_append]
      exact (Nat.add_le_add_left (amountsOf_sublist hsub tx'.hash) _).trans
        (hbounded before' tx' after' hsplit)
    · obtain rfl := Option.some.inj (hmoved.symm.trans hq')
      cases hj

lemma ledgered_step (h : S.Ledgered w) (hsound : S.Sound w) (hclaims : S.Claims w)
    (hlocatable : S.Locatable w) (hstep : S.Step w w') : S.Ledgered w' := by
  cases hstep with
  | mine tx htx => exact h.mine htx
  | finalize n hn => exact ⟨h.absent, h.unrecorded, h.onChain, h.bounded, h.claimed⟩
  | commit now op honest derived => exact h.commit hsound hclaims hlocatable now honest

variable (S)

/-- A step from a state in which every settlement can be located. -/
def LocatableStep (w w' : World) : Prop := S.Locatable w ∧ S.Step w w'

variable {S}

lemma reaches_of_locatable {finalized : ℕ}
    (h : Relation.ReflTransGen S.LocatableStep (Scene.start finalized) w) : S.Reaches w :=
  ⟨finalized, Relation.ReflTransGen.mono (fun _ _ hstep => hstep.2) _ _ h⟩

lemma ledgered_of_locatable {finalized : ℕ}
    (h : Relation.ReflTransGen S.LocatableStep (Scene.start finalized) w) : S.Ledgered w := by
  induction h with
  | refl =>
    refine ⟨fun _ => rfl, fun q hq => (by cases hq), fun r hr => (by cases hr), fun before tx after hsplit => ?_,
      fun q j hq => (by cases hq)⟩
    simp [Scene.start] at hsplit
  | tail hrun hstep ih =>
    have hreach := reaches_of_locatable hrun
    exact ledgered_step ih hreach.sound hreach.claims hstep.1 hstep.2

end Scene

/-- In every run in which the settlements can be located, the amounts that are ledgered for the
request under a transaction are at most what the contract forwarded in it. -/
theorem recovered_funds_are_forwarded (S : Scene) {finalized : ℕ} {w : World}
    (h : Relation.ReflTransGen S.LocatableStep (Scene.start finalized) w) :
    (∀ r ∈ w.ledger.recoveredFunds.rows, r.invoiceId = S.id → ∃ tx ∈ w.chain, tx.hash = r.txHash) ∧
    ∀ before tx after, w.chain = before ++ tx :: after →
      ((w.ledger.recoveredFunds.rows.filter (fun r =>
        decide (r.invoiceId = S.id) && decide (r.txHash = tx.hash))).map (·.amount)).sum ≤
          S.site.forwardedOf (S.site.exec tx (S.site.after before)).forwarded := by
  have hledgered := Scene.ledgered_of_locatable h
  refine ⟨fun r hr hid => ?_, fun before tx after hsplit => ?_⟩
  · exact hledgered.onChain r (List.mem_filter.2 ⟨hr, by simpa using hid⟩)
  · have hbounded := hledgered.bounded before tx after hsplit
    rw [amountsOf, Ledger.recoveriesOf, List.filter_filter, Scene.forwarded] at hbounded
    simpa only [Bool.and_comm] using hbounded

/-! ### Small systems -/

/-- Without a transaction of a job every settlement can be located. -/
lemma Scene.locatable_of_calls {S : Scene} {w : World}
    (h : ∀ tx ∈ w.chain, ∃ calls, tx.body = .calls calls) : S.Locatable w := by
  intro q j item _ _ before tx after refused hsplit hbody
  obtain ⟨calls, hcalls⟩ := h tx (by rw [hsplit]; simp)
  rw [hcalls] at hbody
  cases hbody

lemma sampleTx_minable {w : World} {block : ℕ} {body : TxBody}
    (hbound : ∃ q, w.ledger.request? 7 = some q ∧ q.binding.isSome) (hpending : w.finalized < block)
    (hlater : ∀ tx ∈ w.chain, ∃ b c, tx = sampleTx b c ∧ b < block)
    (hjob : ∀ j refused, body = .sweep j refused → ∃ command,
      w.ledger.commands.find? j = some command ∧ 7 ∈ command.items.map (·.invoiceId)) :
    sampleScene.Minable w (sampleTx block body) := by
  refine ⟨hbound, Nat.zero_le _, hpending, fun tx htx => ?_, fun tx htx => ?_,
    sampleTx_blockOf block body, hjob⟩
  · obtain ⟨b, c, rfl, hlt⟩ := hlater tx htx
    exact Prod.Lex.toLex_lt_toLex.2 (Or.inl hlt)
  · obtain ⟨b, c, rfl, hlt⟩ := hlater tx htx
    have hne : 1000 * b ≠ 1000 * block := by omega
    exact hne

/-- The sample request in a job, after a range. -/
def jobLedger (endBlock : ℕ) (observations : List PaymentObservation) : Ledger :=
  run Ledger.empty
    [(0, .insertIssued sampleRequest),
      (1, .applyFinalizedRange (sampleRange none endBlock observations)),
      (2, .scheduleSweepJob .default 1 9 0 {})]

/-- Two transactions of anybody are scanned, and the job's transaction follows. -/
lemma jobLedger_reached {b₁ b₂ endBlock job : ℕ} {calls₁ calls₂ : List Call}
    {observations : List PaymentObservation} {item : SweepItem} (hb₁ : 0 < b₁) (hb₂ : b₁ < b₂)
    (hend : b₂ ≤ endBlock) (hjob : endBlock < job)
    (hscanned : sampleScene.Scanned ⟨issuedLedger,
      [sampleTx b₁ (.calls calls₁), sampleTx b₂ (.calls calls₂)], endBlock⟩
        (sampleRange none endBlock observations))
    (hrecorded : sampleScene.Derived (step issuedLedger 1
      (.applyFinalizedRange (sampleRange none endBlock observations))))
    (hscheduled : sampleScene.Derived (jobLedger endBlock observations))
    (hbound : ∃ q, (jobLedger endBlock observations).request? 7 = some q ∧ q.binding.isSome)
    (hcommand : (jobLedger endBlock observations).commands.find? 9 = some ⟨9, 1, [item]⟩)
    (hitem : item.invoiceId = 7) :
    Relation.ReflTransGen sampleScene.LocatableStep (Scene.start 0)
      ⟨jobLedger endBlock observations, [sampleTx b₁ (.calls calls₁), sampleTx b₂ (.calls calls₂),
        sampleTx job (.sweep 9 false)], endBlock⟩ := by
  have hcalls : ∀ tx ∈ [sampleTx b₁ (.calls calls₁), sampleTx b₂ (.calls calls₂)],
      ∃ calls, tx.body = .calls calls := by
    intro tx htx
    rcases List.mem_cons.1 htx with rfl | htx
    · exact ⟨calls₁, rfl⟩
    · obtain rfl := List.mem_singleton.1 htx
      exact ⟨calls₂, rfl⟩
  have hissued : sampleScene.LocatableStep (Scene.start 0) ⟨issuedLedger, [], 0⟩ :=
    ⟨Scene.locatable_of_calls (by simp [Scene.start]), .commit 0 (.insertIssued sampleRequest) trivial
      (sampleScene_derived (by decide))⟩
  have hmined₁ : sampleScene.LocatableStep ⟨issuedLedger, [], 0⟩
      ⟨issuedLedger, [sampleTx b₁ (.calls calls₁)], 0⟩ :=
    ⟨Scene.locatable_of_calls (by simp), .mine (sampleTx b₁ (.calls calls₁))
      (sampleTx_minable ⟨_, rfl, rfl⟩ hb₁ (by simp) (fun j refused h => by cases h))⟩
  have hmined₂ : sampleScene.LocatableStep ⟨issuedLedger, [sampleTx b₁ (.calls calls₁)], 0⟩
      ⟨issuedLedger, [sampleTx b₁ (.calls calls₁), sampleTx b₂ (.calls calls₂)], 0⟩ := by
    refine ⟨Scene.locatable_of_calls (fun tx htx => hcalls tx (List.mem_of_mem_take htx (i := 1))),
      .mine (sampleTx b₂ (.calls calls₂)) (sampleTx_minable ⟨_, rfl, rfl⟩ (hb₁.trans hb₂) ?_
        (fun j refused h => by cases h))⟩
    intro tx htx
    obtain rfl := List.mem_singleton.1 htx
    exact ⟨b₁, _, rfl, hb₂⟩
  have hledger : jobLedger endBlock observations = step (step issuedLedger 1
      (.applyFinalizedRange (sampleRange none endBlock observations))) 2
        (.scheduleSweepJob .default 1 9 0 {}) := by
    simp only [jobLedger, issuedLedger, run_cons, run_nil]
  have hclaimed : Relation.ReflTransGen sampleScene.LocatableStep (Scene.start 0)
      ⟨jobLedger endBlock observations,
        [sampleTx b₁ (.calls calls₁), sampleTx b₂ (.calls calls₂)], endBlock⟩ := by
    rw [hledger] at hscheduled ⊢
    have hfinal := ((Relation.ReflTransGen.single hissued).tail hmined₁).tail hmined₂ |>.tail
      ⟨Scene.locatable_of_calls hcalls, .finalize endBlock (Nat.zero_le _)⟩
    exact (hfinal.tail ⟨Scene.locatable_of_calls hcalls, .commit 1 (.applyFinalizedRange (sampleRange
      none endBlock observations)) (fun _ => hscanned) hrecorded⟩).tail
        ⟨Scene.locatable_of_calls hcalls, .commit 2 (.scheduleSweepJob .default 1 9 0 {}) trivial
          hscheduled⟩
  refine hclaimed.tail ⟨Scene.locatable_of_calls hcalls, .mine (sampleTx job (.sweep 9 false))
    (sampleTx_minable hbound hjob ?_ ?_)⟩
  · intro tx htx
    rcases List.mem_cons.1 htx with rfl | htx
    · exact ⟨b₁, _, rfl, by omega⟩
    · obtain rfl := List.mem_singleton.1 htx
      exact ⟨b₂, _, rfl, by omega⟩
  · intro j refused h
    obtain ⟨rfl, -⟩ := TxBody.sweep.inj h
    exact ⟨_, hcommand, by simp [hitem]⟩

/-- The world in which a receipt is delivered, as a job's transaction follows two others. -/
def jobWorld (b₁ b₂ endBlock job : ℕ) (calls₁ calls₂ : List Call)
    (observations : List PaymentObservation) : World :=
  ⟨jobLedger endBlock observations, [sampleTx b₁ (.calls calls₁), sampleTx b₂ (.calls calls₂),
    sampleTx job (.sweep 9 false)], job⟩

/-- A payment of 110 is routed by somebody's deployment, 30 more arrive and are swept. -/
def lateWorld : World :=
  jobWorld 3 4 5 8 [.transfer 20 90 110 0, .execute false] [.transfer 20 90 30 0]
    [sampleTransfer 3 0 0 110, sampleTransfer 4 0 0 30]

/-- Somebody deploys the expired and empty contract; then 30 arrive and are swept. -/
def emptyWorld : World :=
  jobWorld 1001 1003 1005 1008 [.execute false] [.transfer 20 90 30 0] [sampleTransfer 1003 0 0 30]

/-- The contract's report on a recovery, in the receipt of the job's transaction. -/
def sampleRecoveredLog (block amount : ℕ) : RpcLog where
  address := 40
  event := .recovered (.ok (20, amount))
  removed := false
  transactionHash := some (1000 * block)
  blockNumber := some block
  blockHash := some block
  transactionIndex := some 0
  logIndex := some 1

/-- A provider's log index: the settlement comes first. -/
def sampleLogIndex (x : Tx × PaymentEvent) : ℕ :=
  match x.2 with
  | .settled _ => 1
  | _ => 2

/-- The evidence about a late transfer that a job swept. -/
lemma jobWorld_evidence {b₁ b₂ endBlock job amount : ℕ} {calls₁ calls₂ : List Call}
    {observations : List PaymentObservation} {item : SweepItem} {e : SettlementEvidence}
    (hcommand : (jobLedger endBlock observations).commands.find? 9 = some ⟨9, 1, [item]⟩)
    (hid : item.invoiceId = 7) (haddress : item.paymentAddress = 40)
    (hevents : (sampleSite.sweep job false (sampleSite.after [sampleTx b₁ (.calls calls₁),
      sampleTx b₂ (.calls calls₂)])).1.events = [.recovered 20 amount])
    (hreported : (sampleSite.sweep job false (sampleSite.after [sampleTx b₁ (.calls calls₁),
      sampleTx b₂ (.calls calls₂)])).2 = some (.sweepRecovered amount))
    (hordered : (sampleSite.events
      (jobWorld b₁ b₂ endBlock job calls₁ calls₂ observations).chain).Pairwise (fun x y =>
        (sampleSite.report sampleLogIndex x).sortKey ≤ (sampleSite.report sampleLogIndex y).sortKey))
    (hitem : classifyItem (alloyChainClient (sampleSite.provider sampleLogIndex
      (jobWorld b₁ b₂ endBlock job calls₁ calls₂ observations).chain) (fun n => .ok ⟨n, n, n⟩)
      (fun _ _ _ _ _ _ => .error .readOnly)) ⟨1, 70, 0, 100⟩ item (.collected amount)
      ⟨job, job, job⟩ = .ok (.lateCollected amount (some e))) :
    sampleScene.Evidence (jobWorld b₁ b₂ endBlock job calls₁ calls₂ observations)
      (sampleReceipt 9 job (.lateCollected amount (some e)))
      [sampleTx b₁ (.calls calls₁), sampleTx b₂ (.calls calls₂)] (sampleTx job (.sweep 9 false)) [] := by
  refine ⟨rfl, le_rfl, rfl, rfl, rfl, rfl, false, ⟨9, 1, [item]⟩,
    [sampleRecoveredLog job amount, sampleSweepLog job amount],
    Table.empty.upsert (40, .collected amount), sampleSite.provider sampleLogIndex
      (jobWorld b₁ b₂ endBlock job calls₁ calls₂ observations).chain, fun n => .ok ⟨n, n, n⟩,
    fun _ _ _ _ _ _ => .error .readOnly, rfl, hcommand, ?_, rfl,
    sampleSite.provider_complete hordered job, ?_⟩
  · refine ⟨[sampleRecoveredLog job amount], [sampleSweepLog job amount], rfl, ?_, ?_⟩
    · show List.Forall₂ _ _ (sampleSite.sweep job false (sampleSite.after _)).1.events
      rw [hevents]
      exact List.Forall₂.cons ⟨rfl, rfl⟩ List.Forall₂.nil
    · show List.Forall₂ _ _ (sampleSite.sweep job false (sampleSite.after _)).2.toList
      rw [hreported]
      exact List.Forall₂.cons ⟨rfl, rfl⟩ List.Forall₂.nil
  · show classifyItems _ ⟨1, 70, 0, 100⟩ _ ⟨job, job, job⟩ [item] = _
    rw [classifyItems, haddress, show SweepReceipt.outcome? _ 40 = some (.collected amount) from rfl]
    simp only [hitem, classifyItems, hid]
    rfl

/-! The late transfer of a contract whose deployment is found. -/

lemma lateWorld_locatable (n : ℕ) : sampleScene.Locatable { lateWorld with finalized := n } := by
  intro q j item hclaim _ before tx after refused hsplit hbody _ _
  -- the claim is that of job 9, whose search starts at block 3
  have hjob : (lateWorld.ledger.request? 7).bind (·.sweepJobId) = some 9 := by decide
  have hcommand : lateWorld.ledger.commands.find? 9 = some ⟨9, 1, [sampleItem]⟩ := by decide
  have hrequest : lateWorld.ledger.request? 7 = some q := hclaim.request
  rw [hrequest, Option.bind_some, hclaim.claimed] at hjob
  obtain rfl := Option.some.inj hjob
  obtain ⟨command, hfind, hmem⟩ := hclaim.command
  obtain rfl := Option.some.inj (hcommand.symm.trans hfind)
  obtain rfl := List.mem_singleton.1 hmem
  have hdeployment : (sampleTx 3 (.calls [.transfer 20 90 110 0, .execute false]), PaymentEvent.settled 100) ∈
      sampleSite.events [sampleTx 3 (.calls [.transfer 20 90 110 0, .execute false]),
        sampleTx 4 (.calls [.transfer 20 90 30 0])] := by decide
  have hchain : [sampleTx 3 (.calls [.transfer 20 90 110 0, .execute false]),
      sampleTx 4 (.calls [.transfer 20 90 30 0]), sampleTx 8 (.sweep 9 false)] =
        before ++ tx :: after := hsplit
  rcases before with _ | ⟨x, _ | ⟨y, _ | ⟨z, rest⟩⟩⟩
  · obtain ⟨rfl, -⟩ := List.cons.inj hchain
    cases hbody
  · obtain ⟨-, hchain⟩ := List.cons.inj hchain
    obtain ⟨rfl, -⟩ := List.cons.inj hchain
    cases hbody
  · obtain ⟨rfl, hrest⟩ := List.cons.inj hchain
    obtain ⟨rfl, -⟩ := List.cons.inj hrest
    exact ⟨_, hdeployment, by simp [Site.settlementLog], (le_refl 3)⟩
  · simp at hchain

/-- The deployment as the signers find it. -/
def foundOverpayment : SettlementEvidence := ⟨3000, 3, 0, 3, some 100, 10⟩

def collectedWorld : World :=
  { lateWorld with ledger := step lateWorld.ledger 3 (.deliver .default (.sweepFinalized
      (sampleReceipt 9 8 (.lateCollected 30 (some foundOverpayment))))) }

lemma collectedWorld_reached :
    Relation.ReflTransGen sampleScene.LocatableStep (Scene.start 0) collectedWorld := by
  have hcommand : lateWorld.ledger.commands.find? 9 = some ⟨9, 1, [sampleItem]⟩ := by decide
  have hscanned : sampleScene.Scanned ⟨issuedLedger,
      [sampleTx 3 (.calls [.transfer 20 90 110 0, .execute false]),
        sampleTx 4 (.calls [.transfer 20 90 30 0])], 5⟩
      (sampleRange none 5 [sampleTransfer 3 0 0 110, sampleTransfer 4 0 0 30]) :=
    ⟨le_rfl, by decide, rfl, by decide, by decide, by decide⟩
  have hderived : sampleScene.Derived collectedWorld.ledger := sampleScene_derived (by decide)
  have hitem : classifyItem (alloyChainClient (sampleSite.provider sampleLogIndex lateWorld.chain)
      (fun n => .ok ⟨n, n, n⟩) (fun _ _ _ _ _ _ => .error .readOnly)) ⟨1, 70, 0, 100⟩ sampleItem
      (.collected 30) ⟨8, 8, 8⟩ = .ok (.lateCollected 30 (some foundOverpayment)) := by
    simp only [classifyItem, sampleItem, findSettlement]
    rw [findSettlementLoop]
    rfl
  have hev := jobWorld_evidence hcommand rfl rfl rfl rfl (by decide) hitem
  have hmined := jobLedger_reached (by decide : 0 < 3) (by decide : 3 < 4) (by decide : 4 ≤ 5) (by decide : 5 < 8) hscanned
    (sampleScene_derived (by decide)) (sampleScene_derived (by decide)) ⟨_, rfl, rfl⟩ hcommand rfl
  exact (hmined.tail ⟨lateWorld_locatable 5, .finalize 8 (by decide : 5 ≤ 8)⟩).tail
    ⟨lateWorld_locatable 8, .commit 3 _ (fun _ _ _ => ⟨_, _, _, hev⟩) hderived⟩

theorem recovered_funds_are_forwarded_collectedWorld :
    collectedWorld.ledger.recoveredFunds.rows =
      [⟨7, 3000, .overpayment, 10, 3, 3⟩, ⟨7, 8000, .lateTransfer, 30, 8, 8⟩] ∧
    ∀ before tx after, collectedWorld.chain = before ++ tx :: after →
      ((collectedWorld.ledger.recoveredFunds.rows.filter (fun r =>
        decide (r.invoiceId = 7) && decide (r.txHash = tx.hash))).map (·.amount)).sum ≤
          sampleSite.forwardedOf (sampleSite.exec tx (sampleSite.after before)).forwarded :=
  ⟨by decide, (recovered_funds_are_forwarded sampleScene collectedWorld_reached).2⟩

/-! The late transfer of a contract that was deployed empty. -/

/-- The job's own transaction, taken for the settlement. -/
def foundItself : SettlementEvidence := ⟨1008000, 1008, 0, 1008, none, 30⟩

def doubledWorld : World :=
  { emptyWorld with ledger := step emptyWorld.ledger 3 (.deliver .default (.sweepFinalized
      (sampleReceipt 9 1008 (.lateCollected 30 (some foundItself))))) }

lemma doubledWorld_reached : sampleScene.Reaches doubledWorld := by
  have hcommand : emptyWorld.ledger.commands.find? 9 =
      some ⟨9, 1, [{ sampleItem with firstObservedBlock := some 1003 }]⟩ := by decide
  have hscanned : sampleScene.Scanned ⟨issuedLedger,
      [sampleTx 1001 (.calls [.execute false]), sampleTx 1003 (.calls [.transfer 20 90 30 0])], 1005⟩
      (sampleRange none 1005 [sampleTransfer 1003 0 0 30]) :=
    ⟨le_rfl, by decide, rfl, by decide, by decide, by decide⟩
  have hderived : sampleScene.Derived doubledWorld.ledger := sampleScene_derived (by decide)
  have hitem : classifyItem (alloyChainClient (sampleSite.provider sampleLogIndex emptyWorld.chain)
      (fun n => .ok ⟨n, n, n⟩) (fun _ _ _ _ _ _ => .error .readOnly)) ⟨1, 70, 0, 100⟩
      { sampleItem with firstObservedBlock := some 1003 } (.collected 30) ⟨1008, 1008, 1008⟩ =
        .ok (.lateCollected 30 (some foundItself)) := by
    simp only [classifyItem, sampleItem, findSettlement]
    rw [findSettlementLoop]
    rfl
  have hev := jobWorld_evidence hcommand rfl rfl rfl rfl (by decide) hitem
  have hmined := Scene.reaches_of_locatable (jobLedger_reached (by decide : 0 < 1001)
    (by decide : 1001 < 1003) (by decide : 1003 ≤ 1005) (by decide : 1005 < 1008) hscanned
    (sampleScene_derived (by decide)) (sampleScene_derived (by decide)) ⟨_, rfl, rfl⟩ hcommand rfl)
  exact (hmined.tail (.finalize 1008 (by decide : 1005 ≤ 1008))).tail
    (.commit 3 _ (fun _ _ _ => ⟨_, _, _, hev⟩) hderived)

/-- The job's transaction forwarded 30, and 60 are ledgered under it. -/
theorem recovered_funds_are_ledgered_twice :
    sampleScene.Reaches doubledWorld ∧ ∃ before tx after,
      doubledWorld.chain = before ++ tx :: after ∧
      sampleSite.forwardedOf (sampleSite.exec tx (sampleSite.after before)).forwarded = 30 ∧
      ((doubledWorld.ledger.recoveredFunds.rows.filter (fun r =>
        decide (r.invoiceId = 7) && decide (r.txHash = tx.hash))).map (·.amount)).sum = 60 :=
  ⟨doubledWorld_reached, [sampleTx 1001 (.calls [.execute false]),
    sampleTx 1003 (.calls [.transfer 20 90 30 0])], sampleTx 1008 (.sweep 9 false), [], rfl,
    by decide, by decide⟩

end Payday
