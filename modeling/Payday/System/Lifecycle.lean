/-
# The life cycle agrees with the contract

`decide` does not guard terminal requests: a receipt that reports a settlement makes its request
`fulfilled` whatever it was before.  The law that a terminal status stays, and says what the
contract did, rests on the three components together.  A contract is deployed once; a request
is terminal only after its contract was deployed; and a job that claims a terminal request is
newer than the deployment, so its transaction can only collect.
-/
import Payday.System.Receipts

namespace Payday

/-- The statuses a request can move to. -/
def InvoiceStatus.next : InvoiceStatus → List InvoiceStatus
  | created => [funded, expired]
  | funded => [expired, fulfilled, recovered]
  | expired => [fulfilled, recovered]
  | fulfilled | recovered => []

lemma InvoiceStatus.next_of_isTerminal {s : InvoiceStatus} (h : s.isTerminal = true) :
    s.next = [] := by
  cases s <;> simp_all [isTerminal, next]

namespace Request

variable {q : Request}

/-- A range funds a created request, expires an open one, or keeps the status. -/
lemma next_range (q : Request) (fresh : List PaymentObservation) (endBlockTimestamp : ℕ) :
    (q.range fresh endBlockTimestamp).status = q.status ∨
      (q.range fresh endBlockTimestamp).status ∈ q.status.next := by
  have hfunded : q.fundedStatus (fresh.map q.record) = q.status ∨
      (q.status = .created ∧ q.fundedStatus (fresh.map q.record) = .funded) := by
    unfold fundedStatus
    split
    · rename_i hcond
      exact Or.inr ⟨hcond.1, rfl⟩
    · exact Or.inl rfl
  simp only [range]
  split
  · rename_i hexpire
    right
    rcases hfunded with hsame | ⟨hcreated, -⟩
    · rw [hsame] at hexpire
      rcases hs : q.status <;> simp_all [InvoiceStatus.isOpen, InvoiceStatus.next]
    · simp [hcreated, InvoiceStatus.next]
  · rcases hfunded with hsame | ⟨hcreated, hfunded⟩
    · exact Or.inl hsame
    · exact Or.inr (by rw [hfunded, hcreated]; simp [InvoiceStatus.next])

/-- Only a receipt makes a request terminal, and nothing but a receipt moves a terminal one. -/
lemma status_apply_of_not_receipt {e : Event} (he : q.Enabled e)
    (hnot : ∀ receipt outcome, e ≠ .receipt receipt outcome) :
    (q.apply e).status.isTerminal = q.status.isTerminal ∧
      ((q.apply e).status = q.status ∨ (q.apply e).status ∈ q.status.next) := by
  cases e with
  | expireUnbound =>
    rw [he.2]
    exact ⟨rfl, Or.inr (by simp [apply, InvoiceStatus.next])⟩
  | range fresh endBlockTimestamp =>
    exact ⟨(q.status_range fresh endBlockTimestamp).1, q.next_range fresh endBlockTimestamp⟩
  | receipt receipt outcome => exact absurd rfl (hnot receipt outcome)
  | _ => exact ⟨rfl, Or.inl rfl⟩

lemma RecordedAs.not_unrecorded {t : SettlementTx} (h : q.RecordedAs t) : ¬ q.Unrecorded := by
  intro hun
  have hnone := hun.txHash
  rw [h.txHash] at hnone
  cases hnone

end Request

namespace Site

variable (S : Site)

/-- The transaction `tx` of the history deployed the contract. -/
structure Deploys (txs before : List Tx) (tx : Tx) (after : List Tx) (settled : Bool) : Prop where
  chain : txs = before ++ tx :: after
  fresh : (S.after before).settled = none
  deployed : (S.after (before ++ [tx])).settled = some settled

variable {S}

lemma Deploys.settled {txs before after : List Tx} {tx : Tx} {b : Bool}
    (h : S.Deploys txs before tx after b) : (S.after txs).settled = some b := by
  have hsplit : txs = before ++ [tx] ++ after := by
    rw [h.chain]
    simp
  rw [hsplit]
  exact S.after_settled h.deployed after

lemma Deploys.mine {txs before after : List Tx} {tx : Tx} {b : Bool}
    (h : S.Deploys txs before tx after b) (tx' : Tx) :
    S.Deploys (txs ++ [tx']) before tx (after ++ [tx']) b :=
  ⟨by rw [h.chain]; simp, h.fresh, h.deployed⟩

end Site

namespace Scene

variable (S : Scene) {w w' : World} {q : Request}

/-- The request agrees with the contract. -/
inductive Agrees (chain : List Tx) (q : Request) : Prop
  | unrecorded (unrecorded : q.Unrecorded)
  | fulfilled (status : q.status = .fulfilled) (before : List Tx) (tx : Tx) (after : List Tx)
      (deploys : S.site.Deploys chain before tx after true)
      (recorded : q.RecordedAs ⟨tx.hash, tx.index, tx.block⟩)
  | recovered (status : q.status = .recovered)
      (deployed : (S.site.after chain).settled = some false) (t : SettlementTx)
      (recorded : q.RecordedAs t)

structure Settles (w : World) : Prop where
  agrees : ∀ q, w.ledger.request? S.id = some q → S.Agrees w.chain q
  /-- The contract of a terminal request was deployed before the transactions of the job that
  claims it. -/
  claimed : ∀ q j, w.ledger.request? S.id = some q → q.sweepJobId = some j →
    q.status.isTerminal = true → ∀ before tx after refused, w.chain = before ++ tx :: after →
      tx.body = .sweep j refused → (S.site.after before).settled ≠ none

variable {S}

lemma Agrees.deployed {chain : List Tx} (h : S.Agrees chain q) (hs : q.status.isTerminal = true) :
    (S.site.after chain).settled ≠ none := by
  cases h with
  | unrecorded hun =>
    rw [hun.open'] at hs
    cases hs
  | fulfilled _ _ _ _ deploys =>
    rw [deploys.settled]
    simp
  | recovered _ deployed =>
    rw [deployed]
    simp

lemma Agrees.unrecorded_iff {chain : List Tx} (h : S.Agrees chain q) :
    q.Unrecorded ↔ q.status.isTerminal = false := by
  cases h with
  | unrecorded hun => exact ⟨fun _ => hun.open', fun _ => hun⟩
  | fulfilled status _ _ _ _ recorded =>
    rw [status]
    exact ⟨fun hun => absurd hun recorded.not_unrecorded, fun hs => (by cases hs)⟩
  | recovered status _ _ recorded =>
    rw [status]
    exact ⟨fun hun => absurd hun recorded.not_unrecorded, fun hs => (by cases hs)⟩

/-- An event that keeps the status of a settled request keeps the agreement. -/
lemma Agrees.keep {chain : List Tx} (h : S.Agrees chain q) (hs : q.status.isTerminal = true) {e : Event}
    (hstatus : (q.apply e).status = q.status) : S.Agrees chain (q.apply e) := by
  cases h with
  | unrecorded hun =>
    rw [hun.open'] at hs
    cases hs
  | fulfilled status before tx after deploys recorded =>
    exact .fulfilled (hstatus.trans status) before tx after deploys (recorded.apply e)
  | recovered status deployed t recorded =>
    exact .recovered (hstatus.trans status) deployed t (recorded.apply e)

/-- A receipt keeps the status, or it settles a request that was not settled. -/
lemma Verdict.agrees {item : SweepItem} {before after : List Tx} {tx : Tx}
    {outcome : SweepItemOutcome} (h : S.Verdict w q item before tx outcome) (hagrees : S.Agrees w.chain q)
    (hterminal : q.status.isTerminal = true → (S.site.after before).settled ≠ none)
    {receipt : FinalizedSweep} (hev : S.Evidence w receipt before tx after) :
    S.Agrees w.chain (q.apply (.receipt receipt outcome)) ∧
      ((q.apply (.receipt receipt outcome)).status = q.status ∨
        (q.status.isTerminal = false ∧
          ((q.apply (.receipt receipt outcome)).status = .fulfilled ∨
            (q.apply (.receipt receipt outcome)).status = .recovered))) := by
  -- a deployment by the job's own transaction, or one that was found, settles an open request
  have hnew : ∀ t, settlementTx receipt outcome = some t → q.Unrecorded → q.Known (.receipt receipt
      outcome) → (q.apply (.receipt receipt outcome)).status.isTerminal = true →
      (q.apply (.receipt receipt outcome)).RecordedAs t := by
    intro t ht hun hknown hs
    rcases hun.apply hknown with hun' | ⟨receipt', outcome', t', he, ht', hrec⟩
    · rw [hun'.open'] at hs
      cases hs
    · obtain ⟨rfl, rfl⟩ := Event.receipt.inj he
      obtain rfl := Option.some.inj (ht.symm.trans ht')
      exact hrec
  have hown : (⟨receipt.txHash, receipt.transactionIndex, receipt.block⟩ : SettlementTx) =
      ⟨tx.hash, tx.index, tx.block⟩ := by
    rw [hev.txHash, hev.index, hev.block]
  cases h with
  | failed cause =>
    have hsame : q.apply (.receipt receipt (.failed cause)) = { q with sweepJobId := none } := rfl
    rw [hsame]
    refine ⟨?_, Or.inl rfl⟩
    cases hagrees with
    | unrecorded hun => exact .unrecorded ⟨hun.txHash, hun.index, hun.block, hun.open'⟩
    | fulfilled status before tx after deploys recorded =>
      exact .fulfilled status before tx after deploys ⟨recorded.txHash, recorded.index, recorded.block⟩
    | recovered status deployed t recorded =>
      exact .recovered status deployed t ⟨recorded.txHash, recorded.index, recorded.block⟩
  | settled fresh deployed =>
    have hopen : q.status.isTerminal = false := by
      by_contra hs
      exact hterminal (by simpa using hs) fresh
    have hun := hagrees.unrecorded_iff.2 hopen
    have hrec := hnew _ rfl hun trivial rfl
    rw [hown] at hrec
    exact ⟨.fulfilled rfl before tx after ⟨hev.chain, fresh, deployed⟩ hrec,
      Or.inr ⟨hopen, Or.inl rfl⟩⟩
  | returned fresh deployed =>
    have hopen : q.status.isTerminal = false := by
      by_contra hs
      exact hterminal (by simpa using hs) fresh
    have hun := hagrees.unrecorded_iff.2 hopen
    have hsettled : (S.site.after w.chain).settled = some false :=
      (⟨hev.chain, fresh, deployed⟩ : S.site.Deploys w.chain before tx after false).settled
    exact ⟨.recovered rfl hsettled _ (hnew _ rfl hun trivial rfl), Or.inr ⟨hopen, Or.inr rfl⟩⟩
  | known recorded deployed =>
    have hs : q.status.isTerminal = true := by
      by_contra hopen
      have hnone := (hagrees.unrecorded_iff.2 (by simpa using hopen)).txHash
      rw [hnone] at recorded
      cases recorded
    exact ⟨hagrees.keep hs rfl, Or.inl rfl⟩
  | found unrecorded deployed e source =>
    obtain ⟨earlier, origin, later, hsource⟩ := source
    have hopen : q.status.isTerminal = false := by
      rw [← hagrees.unrecorded_iff]
      cases hagrees with
      | unrecorded hun => exact hun
      | fulfilled _ _ _ _ _ recorded =>
        rw [recorded.txHash] at unrecorded
        cases unrecorded
      | recovered _ _ _ recorded =>
        rw [recorded.txHash] at unrecorded
        cases unrecorded
    have hun := hagrees.unrecorded_iff.2 hopen
    have hstatus : ∀ amount, (q.apply (.receipt receipt (.lateCollected amount (some e)))).status =
        if e.settled.isSome then .fulfilled else .recovered := by
      intro amount
      simp only [Request.apply, Request.drain?, drainOf, Request.drain, hopen, Bool.false_eq_true,
        if_false]
      split <;> rfl
    have horigin : (⟨e.txHash, e.transactionIndex, e.block⟩ : SettlementTx) =
        ⟨origin.hash, origin.index, origin.block⟩ := by
      rw [hsource.txHash, hsource.index, hsource.block]
    by_cases hpaid : (S.site.after before).settled = some true
    · have hs := hstatus (S.site.forwardedOf (S.site.exec tx (S.site.after before)).forwarded)
      rw [if_pos (hsource.settled.2 hpaid)] at hs
      have hrec := hnew _ rfl hun trivial (by rw [hs]; rfl)
      rw [horigin] at hrec
      obtain ⟨hfresh, hdeployed⟩ := hsource.deployment hpaid
      exact ⟨.fulfilled hs earlier origin later ⟨hsource.chain, hfresh, hdeployed⟩ hrec,
        Or.inr ⟨hopen, Or.inl hs⟩⟩
    · have hs := hstatus (S.site.forwardedOf (S.site.exec tx (S.site.after before)).forwarded)
      rw [if_neg (fun hsome => hpaid (hsource.settled.1 hsome))] at hs
      have hsettled : (S.site.after w.chain).settled = some false := by
        obtain ⟨b, hb⟩ := Option.ne_none_iff_exists'.1 deployed
        rw [hev.chain, S.site.after_settled hb]
        cases b with
        | false => rfl
        | true => exact absurd hb hpaid
      exact ⟨.recovered hs hsettled _ (hnew _ rfl hun trivial (by rw [hs]; rfl)),
        Or.inr ⟨hopen, Or.inr hs⟩⟩

/-! ### Every step -/

/-- A claim has an item in its job's command. -/
lemma exists_claimedBy {L : Ledger} (h : Reachable L) {id : InvoiceId} {j : JobId}
    (hq : L.request? id = some q) (hj : q.sweepJobId = some j) :
    ∃ item, ClaimedBy L id q j item := by
  have hm := h.membership
  obtain ⟨command, hcommand, hmem⟩ := (hm.commanded j id).1 (hm.claimed id q j hq hj).2
  obtain ⟨item, hitem, hid⟩ := List.mem_map.1 hmem
  exact ⟨item, hq, hj, ⟨command, hcommand, hitem⟩, hid⟩

/-- A transaction of the ledger keeps the agreement and moves the status along its edges. -/
lemma Settles.agrees_commit (h : S.Settles w) (hsound : S.Sound w) (hclaims : S.Claims w)
    (now : Time) {op : Op} (honest : S.Honest w op) (hq : w.ledger.request? S.id = some q) :
    S.Agrees w.chain (q.apply (w.ledger.event now op S.id)) ∧
      ((q.apply (w.ledger.event now op S.id)).status = q.status ∨
        (q.apply (w.ledger.event now op S.id)).status ∈ q.status.next) := by
  obtain ⟨henabled, -⟩ := request?_step now op hq
  have hagrees := h.agrees q hq
  by_cases hreceipt : ∃ receipt outcome, w.ledger.event now op S.id = .receipt receipt outcome
  · obtain ⟨receipt, outcome, he⟩ := hreceipt
    rw [he] at henabled ⊢
    obtain ⟨policy, applied, rfl, -, hitem⟩ := event_eq_receipt he
    obtain ⟨before, tx, after, hev⟩ := honest q hq henabled
    obtain ⟨item, -, hverdict⟩ := hev.verdict hsound hclaims hq henabled hitem rfl
    obtain ⟨refused, command, -, -, -, -, -, hbody, -⟩ := hev.classified
    obtain ⟨hagrees', hstatus⟩ := hverdict.agrees hagrees
      (fun hs => h.claimed q receipt.jobId hq henabled hs before tx after refused hev.chain hbody) hev
    refine ⟨hagrees', ?_⟩
    rcases hstatus with hsame | ⟨hopen, hsettled⟩
    · exact Or.inl hsame
    · -- a claimed request has left `created`
      have hcreated : q.status ≠ .created := by
        intro hs
        rw [Request.Enabled, (hsound.reachable.balanced hq).unclaimed hs] at henabled
        cases henabled
      right
      rcases hs : q.status
      all_goals rw [hs] at hopen hcreated
      · exact absurd rfl hcreated
      · rcases hsettled with hf | hf <;> simp [hf, InvoiceStatus.next]
      · cases hopen
      · cases hopen
      · rcases hsettled with hf | hf <;> simp [hf, InvoiceStatus.next]
  · have hnot : ∀ receipt outcome, w.ledger.event now op S.id ≠ .receipt receipt outcome :=
      fun receipt outcome he => hreceipt ⟨receipt, outcome, he⟩
    obtain ⟨hterminal, hnext⟩ := Request.status_apply_of_not_receipt henabled hnot
    refine ⟨?_, hnext⟩
    rcases hs : q.status.isTerminal with _ | _
    · have hun := hagrees.unrecorded_iff.2 hs
      have hknown : q.Known (w.ledger.event now op S.id) := by
        generalize w.ledger.event now op S.id = e at hnot
        cases e with
        | receipt receipt outcome => exact absurd rfl (hnot receipt outcome)
        | _ => trivial
      rcases hun.apply hknown with hun' | ⟨receipt, outcome, t, he, -, -⟩
      · exact .unrecorded hun'
      · exact absurd he (hnot receipt outcome)
    · refine hagrees.keep hs ?_
      rcases hnext with hsame | hmove
      · exact hsame
      · rw [InvoiceStatus.next_of_isTerminal hs] at hmove
        cases hmove

lemma Settles.mine (h : S.Settles w) (tx : Tx) :
    S.Settles { w with chain := w.chain ++ [tx] } := by
  refine ⟨fun q hq => ?_, fun q j hq hj hs before tx' after refused hsplit hbody => ?_⟩
  · cases h.agrees q hq with
    | unrecorded hun => exact .unrecorded hun
    | fulfilled status before tx' after deploys recorded =>
      exact .fulfilled status before tx' _ (deploys.mine tx) recorded
    | recovered status deployed t recorded =>
      exact .recovered status (S.site.after_settled deployed [tx]) t recorded
  · -- the transaction is the new one, or it was there before
    rcases List.eq_nil_or_concat after with rfl | ⟨rest, last, rfl⟩
    · obtain ⟨hbefore, -⟩ := List.append_inj' hsplit rfl
      rw [← hbefore]
      exact (h.agrees q hq).deployed hs
    · have hconcat : w.chain ++ [tx] = (before ++ tx' :: rest) ++ [last] := by
        simpa using hsplit
      have hold : w.chain = before ++ tx' :: rest := (List.append_inj' hconcat rfl).1
      exact h.claimed q j hq hj hs before tx' rest refused hold hbody

lemma Settles.commit (h : S.Settles w) (hsound : S.Sound w) (hclaims : S.Claims w) (now : Time)
    {op : Op} (honest : S.Honest w op) :
    S.Settles { w with ledger := step w.ledger now op } := by
  refine ⟨fun q' hq' => ?_, fun q' j hq' hj hs before tx after refused hsplit hbody => ?_⟩
  · rcases hq : w.ledger.request? S.id with _ | q
    · obtain ⟨input, -, rfl⟩ := request?_step_issued op hq hq'
      exact .unrecorded ⟨rfl, rfl, rfl, rfl⟩
    · obtain rfl := Option.some.inj ((request?_step now op hq).moved.symm.trans hq')
      exact (h.agrees_commit hsound hclaims now honest hq).1
  · have hreach : Reachable (step w.ledger now op) := reachable_step hsound.reachable now op
    obtain ⟨item, hclaim⟩ := exists_claimedBy hreach hq' hj
    obtain ⟨q, hq, rfl, henabled, hcases⟩ := hclaim.before hsound.reachable.membership
    rcases hcases with hold | ⟨hnone, -⟩
    · -- the claim is older, and a claimed request becomes terminal by its receipt only
      have hnot : ∀ receipt outcome, w.ledger.event now op S.id ≠ .receipt receipt outcome := by
        intro receipt outcome he
        rw [he, Request.apply_receipt_sweepJobId] at hj
        cases hj
      rw [(Request.status_apply_of_not_receipt henabled hnot).1] at hs
      exact h.claimed q j hq hold.claimed hs before tx after refused hsplit hbody
    · -- the job is new, so none of its transactions is mined yet
      have hmem : tx ∈ w.chain := by
        have hsplit : w.chain = before ++ tx :: after := hsplit
        rw [hsplit]
        simp
      exact absurd hnone (hsound.commanded tx hmem j refused hbody)

lemma settles_step (h : S.Settles w) (hsound : S.Sound w) (hclaims : S.Claims w)
    (hstep : S.Step w w') : S.Settles w' := by
  cases hstep with
  | mine tx htx => exact h.mine tx
  | finalize n hn => exact ⟨h.agrees, h.claimed⟩
  | commit now op honest derived => exact h.commit hsound hclaims now honest

lemma Reaches.settles (h : S.Reaches w) : S.Settles w := by
  obtain ⟨finalized, hrun⟩ := h
  induction hrun with
  | refl =>
    exact ⟨fun q hq => (by cases hq), fun q j hq => (by cases hq)⟩
  | tail hrun hstep ih =>
    exact settles_step ih (Reaches.sound ⟨finalized, hrun⟩) (Reaches.claims ⟨finalized, hrun⟩) hstep

lemma Reaches.tail (h : S.Reaches w) (hstep : S.Step w w') : S.Reaches w' := by
  obtain ⟨finalized, hrun⟩ := h
  exact ⟨finalized, hrun.tail hstep⟩

/-- One step keeps the request and moves its status along its edges. -/
lemma Reaches.status_step (h : S.Reaches w) (hstep : S.Step w w')
    (hq : w.ledger.request? S.id = some q) :
    ∃ q', w'.ledger.request? S.id = some q' ∧
      (q'.status = q.status ∨ q'.status ∈ q.status.next) := by
  cases hstep with
  | mine tx htx => exact ⟨q, hq, Or.inl rfl⟩
  | finalize n hn => exact ⟨q, hq, Or.inl rfl⟩
  | commit now op honest derived =>
    exact ⟨_, (request?_step now op hq).moved,
      (h.settles.agrees_commit h.sound h.claims now honest hq).2⟩

end Scene

/-- The status of a request only moves along the edges of the life cycle, says what its contract
did once it is terminal, and then stays. -/
theorem lifecycle_agrees_with_the_chain (S : Scene) {w : World} (h : S.Reaches w) {row : Invoice}
    (hrow : w.ledger.invoices.find? S.id = some row) :
    (∀ w', S.Step w w' → ∃ row', w'.ledger.invoices.find? S.id = some row' ∧
      (row'.status = row.status ∨ row'.status ∈ row.status.next)) ∧
    (row.status = .fulfilled → (S.site.after w.chain).settled = some true) ∧
    (row.status = .recovered → (S.site.after w.chain).settled = some false) ∧
    (row.status = .fulfilled ∨ row.status = .recovered → ∀ w', Relation.ReflTransGen S.Step w w' →
      ∃ row', w'.ledger.invoices.find? S.id = some row' ∧ row'.status = row.status) := by
  have hq : w.ledger.request? S.id = some (row.request (w.ledger.observationsOf S.id)) :=
    Ledger.request?_eq_some.2 ⟨row, hrow, rfl⟩
  refine ⟨fun w' hstep => ?_, fun hs => ?_, fun hs => ?_, fun hs w' hrun => ?_⟩
  · obtain ⟨q', hq', hnext⟩ := h.status_step hstep hq
    obtain ⟨row', hrow', rfl⟩ := Ledger.request?_eq_some.1 hq'
    exact ⟨row', hrow', hnext⟩
  · cases h.settles.agrees _ hq with
    | unrecorded hun =>
      have hopen : row.status.isTerminal = false := hun.open'
      rw [hs] at hopen
      cases hopen
    | fulfilled _ _ _ _ deploys => exact deploys.settled
    | recovered status =>
      have hstatus : row.status = .recovered := status
      rw [hs] at hstatus
      cases hstatus
  · cases h.settles.agrees _ hq with
    | unrecorded hun =>
      have hopen : row.status.isTerminal = false := hun.open'
      rw [hs] at hopen
      cases hopen
    | fulfilled status =>
      have hstatus : row.status = .fulfilled := status
      rw [hs] at hstatus
      cases hstatus
    | recovered _ deployed => exact deployed
  · have hterminal : row.status.isTerminal = true := by
      rcases hs with hs | hs <;> rw [hs] <;> rfl
    have hrun' : S.Reaches w' ∧ ∃ q', w'.ledger.request? S.id = some q' ∧ q'.status = row.status := by
      induction hrun with
      | refl => exact ⟨h, _, hq, rfl⟩
      | tail _ hstep ih =>
        obtain ⟨hreach, q, hq, hsame⟩ := ih
        obtain ⟨q', hq', hnext⟩ := hreach.status_step hstep hq
        refine ⟨hreach.tail hstep, q', hq', ?_⟩
        rw [hsame, InvoiceStatus.next_of_isTerminal hterminal] at hnext
        rcases hnext with hkept | hmove
        · exact hkept
        · cases hmove
    obtain ⟨-, q', hq', hsame⟩ := hrun'
    obtain ⟨row', hrow', rfl⟩ := Ledger.request?_eq_some.1 hq'
    exact ⟨row', hrow', hsame⟩

/-! ### A small system -/

/-- The payment address of the sample request; a block's timestamp and hash are its number. -/
def sampleSite : Site where
  payment := 40
  terms := ⟨20, 100, 50, 1000, 60, 1⟩
  amount_pos := by decide
  timestamp := id
  timestamp_mono := monotone_id
  blockHash := id

def sampleScene : Scene where
  site := sampleSite
  id := 7
  config := ⟨1, 70, 0, 100⟩
  blockOf := fun hash => hash / 1000

/-- A transaction in the first place of a block. -/
def sampleTx (block : ℕ) (body : TxBody) : Tx := ⟨block, 0, 1000 * block, body⟩

lemma sampleTx_blockOf (block : ℕ) (body : TxBody) :
    sampleScene.blockOf (sampleTx block body).hash = (sampleTx block body).block := by
  simp [sampleScene, sampleTx]

/-- The sweeper's report on the sample request, in the receipt of the job's transaction. -/
def sampleSweepLog (block amount : ℕ) : RpcLog where
  address := 70
  event := .sweepRecovered (.ok (40, amount))
  removed := false
  transactionHash := some (1000 * block)
  blockNumber := some block
  blockHash := some block
  transactionIndex := some 0
  logIndex := some 1

/-- The sample request's row decides what the scene assumes about addresses. -/
lemma sampleScene_derived {L : Ledger}
    (h : L.invoices.rows.map (fun r => (r.id, r.binding, r.amount, r.expirationTimestamp)) =
      [(7, some ⟨1, 10, 20, 30, 40, 0, none⟩, 100, 1000)]) : sampleScene.Derived L := by
  have hrow : ∀ row ∈ L.invoices.rows, row.id = 7 ∧ row.binding = some ⟨1, 10, 20, 30, 40, 0, none⟩ ∧
      row.amount = 100 ∧ row.expirationTimestamp = 1000 := by
    intro row hrow
    have hmem := List.mem_map_of_mem (f := fun r : Invoice =>
      (r.id, r.binding, r.amount, r.expirationTimestamp)) hrow
    rw [h] at hmem
    simpa using hmem
  refine ⟨fun row hmem _ _ _ _ => (hrow row hmem).1, fun row b hfind hb => ?_⟩
  obtain ⟨-, hbinding, hamount, hexp⟩ := hrow row (Table.mem_of_find? hfind)
  rw [hbinding] at hb
  obtain rfl := Option.some.inj hb
  exact ⟨rfl, rfl, rfl, hamount, hexp⟩

/-- The ledger's transactions: a transfer is recorded, a job is scheduled, and its receipt
comes. -/
def sweptRun (outcome : SweepItemOutcome) : List (Time × Op) :=
  [(0, .insertIssued sampleRequest),
    (1, .applyFinalizedRange (sampleRange none 5 [sampleTransfer 3 0 0 100])),
    (2, .scheduleSweepJob .default 1 9 0 {}),
    (3, .deliver .default (.sweepFinalized (sampleReceipt 9 8 outcome)))]

/-- The sample request was paid at block 3 by somebody's calls, and swept at block 8. -/
def sweptWorld (calls : List Call) (outcome : SweepItemOutcome) : World :=
  ⟨run Ledger.empty (sweptRun outcome), [sampleTx 3 (.calls calls), sampleTx 8 (.sweep 9 false)], 8⟩

/-- The world just before the receipt. -/
def claimedWorld (calls : List Call) : World :=
  ⟨claimedLedger, [sampleTx 3 (.calls calls), sampleTx 8 (.sweep 9 false)], 8⟩

lemma sweptWorld_reached {calls : List Call} {outcome : SweepItemOutcome}
    (hpaid : sampleSite.ownTransfers [sampleTx 3 (.calls calls)] = [sampleTransfer 3 0 0 100])
    (hev : sampleScene.Evidence (claimedWorld calls) (sampleReceipt 9 8 outcome)
      [sampleTx 3 (.calls calls)] (sampleTx 8 (.sweep 9 false)) [])
    (hderived : sampleScene.Derived (run Ledger.empty (sweptRun outcome))) :
    sampleScene.Reaches (sweptWorld calls outcome) := by
  have hissued : sampleScene.Reaches ⟨issuedLedger, [], 0⟩ :=
    Scene.Reaches.tail ⟨0, .refl⟩ (.commit 0 (.insertIssued sampleRequest) trivial
      (sampleScene_derived (by decide)))
  have hmined : sampleScene.Reaches ⟨issuedLedger, [sampleTx 3 (.calls calls)], 5⟩ :=
    (hissued.tail (.mine (sampleTx 3 (.calls calls)) ⟨⟨_, rfl, rfl⟩, Nat.zero_le _, Nat.zero_lt_succ _,
      by simp, by simp, sampleTx_blockOf 3 _, fun j refused h => by cases h⟩)).tail (.finalize 5 (Nat.zero_le _))
  have hscanned : sampleScene.Scanned ⟨issuedLedger, [sampleTx 3 (.calls calls)], 5⟩
      (sampleRange none 5 [sampleTransfer 3 0 0 100]) := by
    refine ⟨le_rfl, by decide, rfl, ?_, fun o ho => ?_, by decide⟩
    · rw [Scene.transfersIn, show sampleScene.site = sampleSite from rfl, hpaid]
      decide
    · obtain rfl := List.mem_singleton.1 ho
      decide
  have hrecorded : sampleScene.Derived (step issuedLedger 1
      (.applyFinalizedRange (sampleRange none 5 [sampleTransfer 3 0 0 100]))) :=
    sampleScene_derived (by decide)
  have hscheduled : sampleScene.Derived claimedLedger := sampleScene_derived (by decide)
  have hledger : claimedLedger = step (step issuedLedger 1
      (.applyFinalizedRange (sampleRange none 5 [sampleTransfer 3 0 0 100]))) 2
        (.scheduleSweepJob .default 1 9 0 {}) := by
    simp only [claimedLedger, issuedLedger, run_cons, run_nil]
  have hclaimed : sampleScene.Reaches ⟨claimedLedger, [sampleTx 3 (.calls calls)], 5⟩ := by
    rw [hledger] at hscheduled ⊢
    exact (hmined.tail (.commit 1 (.applyFinalizedRange (sampleRange none 5
      [sampleTransfer 3 0 0 100])) (fun _ => hscanned) hrecorded)).tail
        (.commit 2 (.scheduleSweepJob .default 1 9 0 {}) trivial hscheduled)
  have hminable : sampleScene.Minable ⟨claimedLedger, [sampleTx 3 (.calls calls)], 5⟩
      (sampleTx 8 (.sweep 9 false)) := by
    have hbound : ∃ q, claimedLedger.request? 7 = some q ∧ q.binding.isSome := ⟨_, rfl, rfl⟩
    refine ⟨hbound, Nat.zero_le _, (by decide : 5 < 8), fun tx htx => ?_, fun tx htx => ?_,
      sampleTx_blockOf 8 _, fun j refused h => ?_⟩
    · obtain rfl := List.mem_singleton.1 htx
      exact Prod.Lex.toLex_lt_toLex.2 (Or.inl (by decide : 3 < 8))
    · obtain rfl := List.mem_singleton.1 htx
      exact (by decide : 3000 ≠ 8000)
    · obtain ⟨rfl, -⟩ := TxBody.sweep.inj h
      have hcommand : claimedLedger.commands.find? 9 = some ⟨9, 1, [sampleItem]⟩ := by decide
      exact ⟨⟨9, 1, [sampleItem]⟩, hcommand, by decide⟩
  have hswept : sampleScene.Reaches (claimedWorld calls) :=
    (hclaimed.tail (.mine _ hminable)).tail (.finalize 8 (by decide : 5 ≤ 8))
  exact hswept.tail (.commit 3 (.deliver .default (.sweepFinalized (sampleReceipt 9 8 outcome)))
    (fun _ _ _ => ⟨_, _, _, hev⟩) hderived)

/-- Somebody pays the sample request and deploys its contract in one transaction. -/
def payAndDeploy : List Call := [.transfer 20 90 100 0, .execute false]

/-- The deployment as the signers find it. -/
def foundDeployment : SettlementEvidence := ⟨3000, 3, 0, 3, some 100, 0⟩

def fulfilledWorld : World := sweptWorld payAndDeploy (.lateCollected 0 (some foundDeployment))

lemma fulfilledWorld_reached : sampleScene.Reaches fulfilledWorld := by
  have hcommand : claimedLedger.commands.find? 9 = some ⟨9, 1, [sampleItem]⟩ := by decide
  have hderived : sampleScene.Derived
      (run Ledger.empty (sweptRun (.lateCollected 0 (some foundDeployment)))) :=
    sampleScene_derived (by decide)
  refine sweptWorld_reached (by decide) ⟨rfl, le_rfl, rfl, rfl, rfl, rfl, ?_⟩ hderived
  refine ⟨false, ⟨9, 1, [sampleItem]⟩, [sampleSweepLog 8 0], Table.empty.upsert (40, .collected 0),
    sampleSite.provider (fun _ => 2) (claimedWorld payAndDeploy).chain, fun n => .ok ⟨n, n, n⟩,
    fun _ _ _ _ _ _ => .error .readOnly, rfl, hcommand, ?_, rfl, ?_, ?_⟩
  · exact ⟨[], [sampleSweepLog 8 0], rfl, List.Forall₂.nil,
      List.Forall₂.cons ⟨rfl, rfl⟩ List.Forall₂.nil⟩
  · exact sampleSite.provider_complete (by decide) 8
  · have hitem : classifyItem (alloyChainClient (sampleSite.provider (fun _ => 2)
        (claimedWorld payAndDeploy).chain) (fun n => .ok ⟨n, n, n⟩)
        (fun _ _ _ _ _ _ => .error .readOnly)) ⟨1, 70, 0, 100⟩ sampleItem (.collected 0) ⟨8, 8, 8⟩ =
          .ok (.lateCollected 0 (some foundDeployment)) := by
      simp only [classifyItem, sampleItem, findSettlement]
      rw [findSettlementLoop]
      rfl
    show classifyItems _ ⟨1, 70, 0, 100⟩ _ ⟨8, 8, 8⟩ [sampleItem] = _
    rw [classifyItems, show SweepReceipt.outcome? _ sampleItem.paymentAddress =
      some (.collected 0) from rfl]
    simp only [hitem, classifyItems]
    rfl

theorem lifecycle_agrees_with_the_chain_fulfilledWorld :
    ∃ row, fulfilledWorld.ledger.invoices.find? 7 = some row ∧ row.status = .fulfilled ∧
      (sampleSite.after fulfilledWorld.chain).settled = some true := by
  have hrow : fulfilledWorld.ledger.invoices.find? 7 =
      some ((fulfilledWorld.ledger.invoices.find? 7).get (by decide)) := by simp
  exact ⟨_, hrow, by decide,
    (lifecycle_agrees_with_the_chain sampleScene fulfilledWorld_reached hrow).2.1 (by decide)⟩

end Payday
