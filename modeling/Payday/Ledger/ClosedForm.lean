/-
# A request as a function of what was applied to it

The range path classifies each log against the row as it is stored at that moment; the sweep
path reclassifies every recorded log with another expression.  Both compute the same thing:
which transfers were recorded, which receipts were applied and how far the chain's clock got
determine a request's status, marks and counters, whatever the order in which ranges and
receipts came.  `ClosedForm` is that function as an invariant of the life cycle.
-/
import Payday.Ledger.Aggregates
import Payday.Ledger.Settlement

namespace Payday

/-! ### What was applied -/

/-- The transfers an event records. -/
def Event.transfers : Event → List PaymentObservation
  | .range fresh _ => fresh
  | _ => []

/-- The clock an event brings. -/
def Event.clock : Event → ℕ
  | .range _ endBlockTimestamp => endBlockTimestamp
  | _ => 0

/-- A receipt and what it reported about the request. -/
abbrev Report := FinalizedSweep × SweepItemOutcome

/-- The report an event applies. -/
def Event.report? : Event → Option Report
  | .receipt r outcome => some (r, outcome)
  | _ => none

/-- The transfers recorded by a run, in order. -/
def transfersIn (events : List Event) : List PaymentObservation := events.flatMap Event.transfers

/-- The reports applied by a run, in order. -/
def reportsIn (events : List Event) : List Report := events.filterMap Event.report?

lemma reportsIn_cons (e : Event) (rest : List Event) :
    reportsIn (e :: rest) = e.report?.toList ++ reportsIn rest := by
  rw [reportsIn, List.filterMap_cons]
  rcases e.report? with _ | r <;> rfl

/-- The clock a run reaches from `c`. -/
def clockIn (c : ℕ) (events : List Event) : ℕ := events.foldl (fun c e => max c e.clock) c

/-- A range records transfers that are no older than the ranges before it. -/
def TimeOrdered : ℕ → List Event → Prop
  | _, [] => True
  | c, e :: rest => (∀ o ∈ e.transfers, c ≤ o.blockTimestamp) ∧ TimeOrdered (max c e.clock) rest

/-- The outcomes that empty the payment address. -/
def SweepItemOutcome.drains : SweepItemOutcome → Bool
  | .failed _ => false
  | _ => true

/-- The reports that drained. -/
def drainsIn (reports : List Report) : List Report := reports.filter (·.2.drains)

/-- Reports in chain order, in which a collection without evidence follows an earlier drain:
the settlement of the request is then on record. -/
structure ChainReports (reports : List Report) : Prop where
  ordered : reports.Pairwise (fun r r' => r.1.position < r'.1.position)
  described : ∀ before receipt amount after,
    reports = before ++ (receipt, .lateCollected amount none) :: after → drainsIn before ≠ []

lemma ChainReports.before {reports reports' : List Report}
    (h : ChainReports (reports ++ reports')) : ChainReports reports := by
  refine ⟨(List.pairwise_append.1 h.ordered).1, ?_⟩
  rintro before receipt amount after rfl
  refine h.described before receipt amount (after ++ reports') ?_
  simp

/-- The position of the settlement: the first drain's. -/
def settlementIn (reports : List Report) : Option Position :=
  ((drainsIn reports).head?.bind (fun r => settlementTx r.1 r.2)).map
    (fun t => position t.block t.transactionIndex)

/-- The position of the last drain. -/
def drainedIn (reports : List Report) : Option Position :=
  (drainsIn reports).getLast?.map (·.1.position)

/-- The terminal status after one more report. -/
def nextTerminal (status : Option InvoiceStatus) : SweepItemOutcome → Option InvoiceStatus
  | .settled _ => some .fulfilled
  | .returned _ => some .recovered
  | .lateCollected _ (some e) =>
    status.or (some (if e.settled.isSome then .fulfilled else .recovered))
  | .lateCollected _ none | .failed _ => status

/-- The terminal status the reports lead to. -/
def terminalIn (reports : List Report) : Option InvoiceStatus :=
  reports.foldl (fun status r => nextTerminal status r.2) none

/-- The disposition of a transfer, given the deadline and the settlement. -/
def dispositionFor (expirationTimestamp : ℕ) (settlement : Option Position)
    (o : PaymentObservation) : DispositionKind :=
  if o.amount = 0 then .error
  else if o.blockTimestamp ≤ expirationTimestamp ∧ (∀ p ∈ settlement, o.position < p) then .credited
  else .late

/-- Whether a transfer is collected, given the last drain. -/
def collectedFor (drained : Option Position) (o : PaymentObservation) : Bool :=
  decide (o.amount ≠ 0) && drained.any (fun p => decide (o.position < p))

/-- A recorded transfer with its disposition and whether it is collected. -/
structure Mark where
  observation : PaymentObservation
  disposition : DispositionKind
  collected : Bool
deriving DecidableEq

def Transfer.mark (t : Transfer) : Mark := ⟨t.observation, t.disposition.kind, t.collectedAt.isSome⟩

/-- The mark of a transfer, given what was applied. -/
def markFor (expirationTimestamp : ℕ) (reports : List Report) (o : PaymentObservation) : Mark :=
  ⟨o, dispositionFor expirationTimestamp (settlementIn reports) o,
    collectedFor (drainedIn reports) o⟩

/-- The credited sum of marked transfers. -/
def creditedMarks (marks : List Mark) : ℕ :=
  ((marks.filter (fun m => m.disposition == .credited)).map (·.observation.amount)).sum

/-- The number of marked transfers that still sit at the address. -/
def uncollectedMarks (marks : List Mark) : ℕ :=
  marks.countP (fun m => m.disposition != .error && !m.collected)

lemma creditedOf_eq_marks (ts : List Transfer) : creditedOf ts = creditedMarks (ts.map (·.mark)) := by
  rw [creditedOf, creditedMarks, List.filter_map, List.map_map]
  rfl

lemma uncollectedOf_eq_marks (ts : List Transfer) :
    uncollectedOf ts = uncollectedMarks (ts.map (·.mark)) := by
  rw [uncollectedOf, uncollectedMarks, List.countP_map]
  refine List.countP_congr fun t _ => ?_
  simp [Transfer.isUncollected, Transfer.mark]

/-- The status, given what was applied. -/
def statusFor (amount expirationTimestamp : ℕ) (transfers : List PaymentObservation)
    (reports : List Report) (clock : ℕ) : InvoiceStatus :=
  match terminalIn reports with
  | some status => status
  | none =>
    if expirationTimestamp < clock then .expired
    else if amount ≤ creditedMarks (transfers.map (markFor expirationTimestamp reports)) then .funded
    else .created

/-! ### One more report -/

@[simp] lemma terminalIn_append (reports : List Report) (r : Report) :
    terminalIn (reports ++ [r]) = nextTerminal (terminalIn reports) r.2 := by
  simp [terminalIn]

lemma drainsIn_append_of_drains (reports : List Report) {r : Report} (h : r.2.drains = true) :
    drainsIn (reports ++ [r]) = drainsIn reports ++ [r] := by
  simp [drainsIn, h]

lemma drainsIn_append_of_failed (reports : List Report) {r : Report} (h : r.2.drains = false) :
    drainsIn (reports ++ [r]) = drainsIn reports := by
  simp [drainsIn, h]

/-- The marks depend on the drains only. -/
lemma markFor_congr {reports reports' : List Report} (h : drainsIn reports = drainsIn reports')
    (expirationTimestamp : ℕ) :
    markFor expirationTimestamp reports = markFor expirationTimestamp reports' := by
  funext o
  rw [markFor, markFor, settlementIn, settlementIn, drainedIn, drainedIn, h]

/-- An item's evidence drains unless the item failed. -/
lemma drains_iff_drain? (q : Request) (receipt : FinalizedSweep) (outcome : SweepItemOutcome) :
    outcome.drains = true ↔ (q.drain? receipt outcome).isSome := by
  rcases outcome with x | x | ⟨x, _ | e⟩ | cause
  all_goals simp [SweepItemOutcome.drains, Request.drain?, drainOf]

lemma drains_of_drain? {q : Request} {receipt : FinalizedSweep} {outcome : SweepItemOutcome}
    {drain : Drain} (h : q.drain? receipt outcome = some drain) : outcome.drains = true := by
  rw [drains_iff_drain? q receipt, h]
  rfl

/-- The transaction a drain records is the one its evidence names. -/
lemma settlementTx_of_drain? {q : Request} {receipt : FinalizedSweep} {outcome : SweepItemOutcome}
    {drain : Drain} (h : q.drain? receipt outcome = some drain) :
    settlementTx receipt outcome = some
      ⟨drain.settlementTxHash, drain.settlementTransactionIndex, drain.settlementBlock⟩ := by
  rcases outcome with x | x | ⟨x, _ | e⟩ | cause
  · obtain rfl := Option.some.inj h
    rfl
  · obtain rfl := Option.some.inj h
    rfl
  · obtain rfl := Option.some.inj h
    rfl
  · obtain rfl := Option.some.inj h
    rfl
  · cases h

/-- A drain on the mark of a transfer. -/
lemma mark_drain (t : Transfer) (receiptPosition settlement : Position) (expirationTimestamp : ℕ)
    (reason : DispositionReason) :
    (t.drain receiptPosition settlement expirationTimestamp reason).mark =
      ⟨t.observation,
        if t.disposition.kind = .error then .error
        else if t.observation.blockTimestamp ≤ expirationTimestamp ∧
          t.observation.position < settlement then .credited else .late,
        t.collectedAt.isSome || (decide (t.disposition.kind ≠ .error) &&
          decide (t.observation.position < receiptPosition))⟩ := by
  obtain ⟨o, disposition, collectedAt⟩ := t
  simp only [Transfer.drain, Transfer.mark, Mark.mk.injEq, true_and]
  refine ⟨?_, ?_⟩
  · by_cases herror : disposition.kind = .error
    · rw [if_pos herror, if_pos herror, herror]
    · rw [if_neg herror, if_neg herror]
      split_ifs <;> rfl
  · rcases collectedAt with _ | p
    · by_cases herror : disposition.kind = .error <;>
        by_cases hp : o.position < receiptPosition <;>
        simp [Transfer.isUncollected, herror, hp]
    · simp [Transfer.isUncollected]

/-! ### The invariant -/

/-- The request is the function of what was applied to it. -/
structure ClosedForm (q : Request) (transfers : List PaymentObservation) (reports : List Report)
    (clock : ℕ) : Prop where
  bound : q.binding.isSome
  balanced : q.Balanced
  record : (drainsIn reports = [] ∧ q.Unrecorded) ∨ ∃ r t, (drainsIn reports).head? = some r ∧
    settlementTx r.1 r.2 = some t ∧ q.RecordedAs t
  terminal : drainsIn reports = [] ↔ terminalIn reports = none
  drainedAt : q.drainedAt = drainedIn reports
  status : q.status = statusFor q.amount q.expirationTimestamp transfers reports clock
  marks : q.transfers.map (·.mark) = transfers.map (markFor q.expirationTimestamp reports)

namespace ClosedForm

variable {q : Request} {transfers : List PaymentObservation} {reports : List Report} {clock : ℕ}

/-- The recorded transfers are those that were applied. -/
lemma observed (h : ClosedForm q transfers reports clock) :
    q.transfers.map (·.observation) = transfers := by
  have hobs := congrArg (List.map Mark.observation) h.marks
  rw [List.map_map, List.map_map] at hobs
  exact hobs.trans (List.map_id _)

lemma mark_of_mem (h : ClosedForm q transfers reports clock) {t : Transfer} (ht : t ∈ q.transfers) :
    t.mark = markFor q.expirationTimestamp reports t.observation := by
  have hmarks := h.marks
  rw [← h.observed, List.map_map] at hmarks
  exact List.map_inj_left.1 hmarks t ht

/-- The stored settlement position is that of the first drain. -/
lemma settlementAt (h : ClosedForm q transfers reports clock) :
    q.settlementAt = settlementIn reports := by
  rcases h.record with ⟨hnil, hun⟩ | ⟨r, t, hhead, ht, hrec⟩
  · rw [settlementIn, hnil, Request.settlementAt, hun.block]
    rfl
  · rw [settlementIn, hhead, Option.bind_some, ht, Request.settlementAt, hrec.block, hrec.index]
    rfl

lemma isTerminal_of_terminalIn {status : InvoiceStatus} (h : terminalIn reports = some status) :
    status.isTerminal = true := by
  have hnext : ∀ (cur : Option InvoiceStatus) (outcome : SweepItemOutcome),
      (∀ s ∈ cur, s.isTerminal = true) → ∀ s ∈ nextTerminal cur outcome, s.isTerminal = true := by
    intro cur outcome hcur s hs
    rcases outcome with x | x | ⟨x, _ | e⟩ | cause
    · obtain rfl := Option.some.inj hs
      rfl
    · obtain rfl := Option.some.inj hs
      rfl
    · exact hcur s hs
    · rcases cur with _ | s'
      · obtain rfl := Option.some.inj hs
        split <;> rfl
      · exact hcur s hs
    · exact hcur s hs
  have hfold : ∀ (rs : List Report) (cur : Option InvoiceStatus), (∀ s ∈ cur, s.isTerminal = true) →
      ∀ s ∈ rs.foldl (fun status r => nextTerminal status r.2) cur, s.isTerminal = true := by
    intro rs
    induction rs with
    | nil => exact fun cur hcur => hcur
    | cons r rest ih => exact fun cur hcur => ih _ (hnext cur r.2 hcur)
  exact hfold reports none (by simp) status h

/-- The request is terminal exactly when a report made it so. -/
lemma isTerminal_iff (h : ClosedForm q transfers reports clock) :
    q.status.isTerminal = true ↔ terminalIn reports ≠ none := by
  rw [h.status, statusFor]
  rcases ht : terminalIn reports with _ | status
  · simp only [ne_eq, not_true_eq_false, iff_false, Bool.not_eq_true]
    split
    · rfl
    · split <;> rfl
  · simpa using isTerminal_of_terminalIn ht

/-- While no settlement is stored, no report drained. -/
lemma terminalIn_eq_none (h : ClosedForm q transfers reports clock)
    (hnone : settlementIn reports = none) : terminalIn reports = none := by
  rcases h.record with ⟨hnil, -⟩ | ⟨r, t, hhead, ht, -⟩
  · exact h.terminal.1 hnil
  · rw [settlementIn, hhead, Option.bind_some, ht] at hnone
    cases hnone

/-- A transfer that is no older than the clock counts exactly when it is in time and before the
settlement. -/
lemma accepting_iff (h : ClosedForm q transfers reports clock) {o : PaymentObservation}
    (ho : clock ≤ o.blockTimestamp) :
    q.accepting o = true ↔ o.blockTimestamp ≤ q.expirationTimestamp ∧
      ∀ p ∈ settlementIn reports, o.position < p := by
  rw [Request.accepting, h.settlementAt]
  rcases hs : settlementIn reports with _ | p
  · -- nothing is settled: the status is open unless the deadline passed before this transfer
    have hstatus := h.status
    rw [statusFor, h.terminalIn_eq_none hs] at hstatus
    simp only at hstatus
    have hopen : o.blockTimestamp ≤ q.expirationTimestamp → q.status.isOpen = true := by
      intro hle
      rw [hstatus, if_neg (not_lt.2 (ho.trans hle))]
      split <;> rfl
    simp only [Bool.true_and, Option.isSome_none, Bool.or_false, Bool.and_eq_true,
      decide_eq_true_eq, Option.mem_def, reduceCtorEq, false_implies, implies_true, and_true]
    exact ⟨fun hle => hle.1, fun hle => ⟨hle, hopen hle⟩⟩
  · simp only [Option.isSome_some, Bool.or_true, Bool.and_true, Bool.and_eq_true,
      decide_eq_true_eq, Option.mem_def, Option.some.injEq, forall_eq']
    exact and_comm

/-- A transfer that is no older than the clock is recorded with its mark. -/
lemma record_mark (h : ClosedForm q transfers reports clock) {o : PaymentObservation}
    (ho : clock ≤ o.blockTimestamp) :
    (q.record o).mark = markFor q.expirationTimestamp reports o := by
  by_cases hzero : o.amount = 0
  · simp [Request.record, Request.disposition, Transfer.mark, markFor, dispositionFor, collectedFor,
      hzero, Disposition.kind]
  have hcollected : (q.drainedAt.filter (fun p => decide (o.position < p))).isSome =
      collectedFor (drainedIn reports) o := by
    rw [h.drainedAt, collectedFor]
    rcases drainedIn reports with _ | p
    · simp
    · by_cases hp : o.position < p <;> simp [hzero, hp]
  have haccepting := h.accepting_iff ho
  have hkind : (q.disposition o).kind =
      dispositionFor q.expirationTimestamp (settlementIn reports) o := by
    rw [Request.disposition, dispositionFor, if_neg hzero, if_neg hzero]
    by_cases hacc : q.accepting o = true
    · rw [if_pos hacc, if_pos (haccepting.1 hacc)]
      rfl
    · rw [if_neg hacc, if_neg (fun hc => hacc (haccepting.2 hc))]
      split <;> rfl
  simp only [Request.record, Transfer.mark, markFor, hkind, if_neg hzero, hcollected]

/-- A range keeps the closed form. -/
lemma range (h : ClosedForm q transfers reports clock) {fresh : List PaymentObservation}
    (hfresh : ∀ o ∈ fresh, clock ≤ o.blockTimestamp) (endBlockTimestamp : ℕ) :
    ClosedForm (q.range fresh endBlockTimestamp) (transfers ++ fresh) reports
      (max clock endBlockTimestamp) := by
  have hnew : (fresh.map q.record).map (·.mark) =
      fresh.map (markFor q.expirationTimestamp reports) := by
    rw [List.map_map]
    exact List.map_congr_left fun o ho => h.record_mark (hfresh o ho)
  have hmarks : (q.range fresh endBlockTimestamp).transfers.map (·.mark) =
      (transfers ++ fresh).map (markFor q.expirationTimestamp reports) := by
    rw [List.map_append, ← h.marks, ← hnew, ← List.map_append]
    rfl
  have htotal : creditedMarks ((transfers ++ fresh).map (markFor q.expirationTimestamp reports)) =
      q.received + creditedOf (fresh.map q.record) := by
    rw [← hmarks, ← creditedOf_eq_marks, h.balanced.received]
    simp [Request.range]
  have hold : creditedMarks (transfers.map (markFor q.expirationTimestamp reports)) = q.received := by
    rw [← h.marks, ← creditedOf_eq_marks, h.balanced.received]
  refine ⟨h.bound, h.balanced.range fresh endBlockTimestamp, ?_, h.terminal, h.drainedAt, ?_, hmarks⟩
  · rcases h.record with ⟨hnil, hun⟩ | ⟨r, t, hhead, ht, hrec⟩
    · rcases hun.apply (e := .range fresh endBlockTimestamp) trivial with hun' | ⟨_, _, _, he, _⟩
      · exact Or.inl ⟨hnil, hun'⟩
      · cases he
    · exact Or.inr ⟨r, t, hhead, ht, hrec.apply (.range fresh endBlockTimestamp)⟩
  · have hstatus := h.status
    have hrange : (q.range fresh endBlockTimestamp).status =
        if (q.fundedStatus (fresh.map q.record)).isOpen ∧
          q.expirationTimestamp < endBlockTimestamp then .expired
        else q.fundedStatus (fresh.map q.record) := rfl
    rw [hrange]
    have hkeep : q.status ≠ .created → q.fundedStatus (fresh.map q.record) = q.status := by
      intro hne
      rw [Request.fundedStatus, if_neg (fun hc => hne hc.1)]
    show _ = statusFor q.amount q.expirationTimestamp (transfers ++ fresh) reports _
    rw [statusFor] at hstatus ⊢
    rcases hterm : terminalIn reports with _ | status
    · rw [hterm] at hstatus
      simp only at hstatus ⊢
      by_cases hclock : q.expirationTimestamp < clock
      · -- the deadline had passed
        rw [if_pos hclock] at hstatus
        rw [hkeep (by simp [hstatus]), hstatus, if_neg (by simp [InvoiceStatus.isOpen]),
          if_pos (lt_max_of_lt_left hclock)]
      · rw [if_neg hclock, hold] at hstatus
        have hopen : (q.fundedStatus (fresh.map q.record)).isOpen = true := by
          unfold Request.fundedStatus
          split
          · rfl
          · rw [hstatus]
            split <;> rfl
        by_cases hend : q.expirationTimestamp < endBlockTimestamp
        · rw [if_pos ⟨hopen, hend⟩, if_pos (lt_max_of_lt_right hend)]
        · rw [if_neg (fun hc => hend hc.2), if_neg (by simp only [lt_max_iff]; tauto), htotal]
          by_cases hpaid : q.amount ≤ q.received
          · rw [if_pos hpaid] at hstatus
            rw [hkeep (by simp [hstatus]), hstatus, if_pos (by omega)]
          · rw [if_neg hpaid] at hstatus
            rw [Request.fundedStatus, hstatus]
            refine if_congr ⟨fun hc => hc.2.2, fun hle => ⟨rfl, ?_, hle⟩⟩ rfl rfl
            -- the total crossed the amount, so something was credited
            by_contra hany
            have hzero : creditedOf (fresh.map q.record) = 0 :=
              Request.creditedOf_eq_zero (by simpa using hany)
            omega
    · rw [hterm] at hstatus
      simp only at hstatus ⊢
      have hterminal := isTerminal_of_terminalIn hterm
      have hne : q.status ≠ .created := by
        rw [hstatus]
        rintro rfl
        cases hterminal
      rw [hkeep hne, hstatus, if_neg]
      rintro ⟨hopen, -⟩
      cases status <;> simp_all [InvoiceStatus.isOpen, InvoiceStatus.isTerminal]

/-- After a drain, a settlement is recorded, and the request is terminal. -/
lemma recorded (h : ClosedForm q transfers reports clock) (hne : drainsIn reports ≠ []) :
    (∃ t, q.RecordedAs t) ∧ terminalIn reports = some q.status := by
  rcases h.record with ⟨hnil, -⟩ | ⟨r, t, -, -, hrec⟩
  · exact absurd hnil hne
  · refine ⟨⟨t, hrec⟩, ?_⟩
    obtain ⟨status, hs⟩ := Option.ne_none_iff_exists'.1 (fun hc => hne (h.terminal.2 hc))
    rw [h.status, statusFor, hs]

/-- A report of the chain finds the settlement it relies on recorded. -/
lemma known (h : ClosedForm q transfers reports clock) {receipt : FinalizedSweep}
    {outcome : SweepItemOutcome} (hchain : ChainReports (reports ++ [(receipt, outcome)])) :
    q.Known (.receipt receipt outcome) := by
  rcases outcome with x | x | ⟨x, _ | e⟩ | cause
  all_goals try trivial
  obtain ⟨⟨t, hrec⟩, -⟩ := h.recorded (hchain.described reports receipt x [] rfl)
  right
  rw [hrec.txHash]
  rfl

/-- The status a drain stores is the terminal status of the reports. -/
lemma drain_status (h : ClosedForm q transfers reports clock) {receipt : FinalizedSweep}
    {outcome : SweepItemOutcome} {drain : Drain}
    (hchain : ChainReports (reports ++ [(receipt, outcome)]))
    (hdrain : q.drain? receipt outcome = some drain) :
    nextTerminal (terminalIn reports) outcome = some (drain.status.getD q.status) := by
  rcases outcome with x | x | ⟨x, _ | e⟩ | cause
  · obtain rfl := Option.some.inj hdrain
    rfl
  · obtain rfl := Option.some.inj hdrain
    rfl
  · obtain rfl := Option.some.inj hdrain
    exact (h.recorded (hchain.described reports receipt x [] rfl)).2
  · obtain rfl := Option.some.inj hdrain
    by_cases hnil : drainsIn reports = []
    · -- the evidence decides the status of an open request
      have hopen : q.status.isTerminal = false := by
        rw [← Bool.not_eq_true, h.isTerminal_iff, not_not]
        exact h.terminal.1 hnil
      simp only [nextTerminal, h.terminal.1 hnil, hopen, Option.none_or]
      split <;> rfl
    · have hterminal : q.status.isTerminal = true := by
        rw [h.isTerminal_iff, (h.recorded hnil).2]
        simp
      simp [nextTerminal, (h.recorded hnil).2, hterminal]
  · cases hdrain

/-- The settlement the marks refer to after a drain. -/
lemma settlementIn_append (h : ClosedForm q transfers reports clock) {receipt : FinalizedSweep}
    {outcome : SweepItemOutcome} {drain : Drain}
    (hdrain : q.drain? receipt outcome = some drain) :
    settlementIn (reports ++ [(receipt, outcome)]) = some (q.drainPosition drain) := by
  have hdrains : outcome.drains = true := drains_of_drain? hdrain
  have hat := h.settlementAt
  rw [settlementIn, drainsIn_append_of_drains _ hdrains, Request.drainPosition, hat]
  rcases h.record with ⟨hnil, -⟩ | ⟨r, t, hhead, ht, -⟩
  · rw [settlementIn, hnil]
    simp [settlementTx_of_drain? hdrain]
  · rw [settlementIn, List.head?_append, hhead]
    simp [ht]

/-- A drain moves the mark of every recorded transfer to the mark of the new reports. -/
lemma drain_mark (h : ClosedForm q transfers reports clock) {receipt : FinalizedSweep}
    {outcome : SweepItemOutcome} {drain : Drain}
    (hchain : ChainReports (reports ++ [(receipt, outcome)]))
    (hdrain : q.drain? receipt outcome = some drain) (reason : DispositionReason) {t : Transfer}
    (ht : t.mark = markFor q.expirationTimestamp reports t.observation) :
    (t.drain receipt.position (q.drainPosition drain) q.expirationTimestamp reason).mark =
      markFor q.expirationTimestamp (reports ++ [(receipt, outcome)]) t.observation := by
  have hdrains : outcome.drains = true := drains_of_drain? hdrain
  have hlast : drainedIn (reports ++ [(receipt, outcome)]) = some receipt.position := by
    rw [drainedIn, drainsIn_append_of_drains _ hdrains, List.getLast?_append]
    rfl
  -- what an earlier drain collected lies before this receipt too
  have hearlier : ∀ p ∈ drainedIn reports, p < receipt.position := by
    intro p hp
    obtain ⟨r, hr, rfl⟩ := Option.map_eq_some_iff.1 hp
    have hmem : r ∈ reports := List.mem_of_mem_filter (List.mem_of_getLast? hr)
    exact (List.pairwise_append.1 hchain.ordered).2.2 r hmem (receipt, outcome) (by simp)
  have hkind : t.disposition.kind =
      dispositionFor q.expirationTimestamp (settlementIn reports) t.observation :=
    congrArg Mark.disposition ht
  have hmark : t.collectedAt.isSome = collectedFor (drainedIn reports) t.observation :=
    congrArg Mark.collected ht
  have herror : t.disposition.kind = .error ↔ t.observation.amount = 0 := by
    rw [hkind, dispositionFor]
    split_ifs with hzero hin <;> simp [hzero]
  rw [mark_drain, markFor, h.settlementIn_append hdrain, hlast, hmark]
  simp only [Mark.mk.injEq, true_and, herror, ne_eq]
  refine ⟨?_, ?_⟩
  · simp only [dispositionFor, Option.mem_def, Option.some.injEq, forall_eq']
  · by_cases hzero : t.observation.amount = 0
    · simp [collectedFor, hzero]
    · rcases hd : drainedIn reports with _ | p
      · simp [collectedFor, hzero]
      · have hlt := hearlier p hd
        simp only [collectedFor, hzero, ne_eq, not_false_eq_true, decide_true, Bool.true_and,
          Option.any_some]
        rw [← Bool.decide_or, decide_eq_decide]
        exact ⟨fun hc => hc.elim (fun hp => hp.trans hlt) id, Or.inr⟩

/-- A receipt of the chain keeps the closed form. -/
lemma receipt (h : ClosedForm q transfers reports clock) {receipt : FinalizedSweep}
    {outcome : SweepItemOutcome} (hchain : ChainReports (reports ++ [(receipt, outcome)]))
    (he : q.Enabled (.receipt receipt outcome)) :
    ClosedForm (q.apply (.receipt receipt outcome)) transfers (reports ++ [(receipt, outcome)])
      clock := by
  rcases hdrain : q.drain? receipt outcome with _ | drain
  · -- the item failed: the row is released and nothing else changes
    have hfailed : outcome.drains = false := by
      rw [← Bool.not_eq_true, drains_iff_drain? q receipt, hdrain]
      simp
    have hsame : drainsIn (reports ++ [(receipt, outcome)]) = drainsIn reports :=
      drainsIn_append_of_failed _ hfailed
    have hterm : terminalIn (reports ++ [(receipt, outcome)]) = terminalIn reports := by
      rw [terminalIn_append]
      rcases outcome with x | x | ⟨x, _ | e⟩ | cause
      all_goals first | rfl | cases hfailed
    have happly : q.apply (.receipt receipt outcome) = { q with sweepJobId := none } := by
      simp only [Request.apply, hdrain]
    have hbalanced := h.balanced.apply he
    rw [happly] at hbalanced ⊢
    refine ⟨h.bound, hbalanced, ?_, ?_, ?_, ?_, ?_⟩
    · rw [hsame]
      rcases h.record with ⟨hnil, hun⟩ | ⟨r, t, hhead, ht, hrec⟩
      · exact Or.inl ⟨hnil, hun.txHash, hun.index, hun.block, hun.open'⟩
      · exact Or.inr ⟨r, t, hhead, ht, hrec.txHash, hrec.index, hrec.block⟩
    · rw [hsame, hterm]
      exact h.terminal
    · rw [drainedIn, hsame]
      exact h.drainedAt
    · rw [statusFor, hterm, markFor_congr hsame]
      exact h.status
    · rw [markFor_congr hsame]
      exact h.marks
  · have hdrains : outcome.drains = true := drains_of_drain? hdrain
    have hdrained := drainsIn_append_of_drains reports (r := (receipt, outcome)) hdrains
    have hterm : terminalIn (reports ++ [(receipt, outcome)]) =
        some (drain.status.getD q.status) := by
      rw [terminalIn_append]
      exact h.drain_status hchain hdrain
    have hrecord := h.known hchain
    have hbalanced := h.balanced.apply he
    have happly : q.apply (.receipt receipt outcome) = q.drain receipt drain := by
      simp only [Request.apply, hdrain]
    refine ⟨?_, hbalanced, Or.inr ?_, ?_, ?_, ?_, ?_⟩
    · rw [happly]
      exact h.bound
    · rw [hdrained]
      rcases h.record with ⟨hnil, hun⟩ | ⟨r, t, hhead, ht, hrec⟩
      · rcases hun.apply hrecord with hun' | ⟨_, _, t, heq, ht, hrec⟩
        · -- a drain of an unrecorded request is not unrecorded
          have hsome := hun'.txHash
          rw [happly] at hsome
          simp [Request.drain, hun.txHash] at hsome
        · cases heq
          exact ⟨(receipt, outcome), t, by simp [hnil], ht, hrec⟩
      · exact ⟨r, t, by rw [List.head?_append, hhead]; rfl, ht, hrec.apply _⟩
    · rw [hdrained, hterm]
      simp
    · rw [happly, drainedIn, hdrained, List.getLast?_append]
      rfl
    · rw [happly, statusFor, hterm]
      rfl
    · rw [happly]
      show (q.transfers.map _).map _ = transfers.map _
      rw [← h.observed, List.map_map, List.map_map]
      exact List.map_congr_left fun t ht => h.drain_mark hchain hdrain _ (h.mark_of_mem ht)

/-- One event of a run whose reports and ranges are those of the chain. -/
lemma step {e : Event} (h : ClosedForm q transfers reports clock) (he : q.Enabled e)
    (hchain : ChainReports (reports ++ e.report?.toList)) (htime : ∀ o ∈ e.transfers, clock ≤ o.blockTimestamp) :
    ClosedForm (q.apply e) (transfers ++ e.transfers) (reports ++ e.report?.toList) (max clock e.clock) := by
  have hquiet : e.transfers = [] → e.report? = none → e.clock = 0 →
      ClosedForm (q.apply e) transfers reports clock →
      ClosedForm (q.apply e) (transfers ++ e.transfers) (reports ++ e.report?.toList)
        (max clock e.clock) := by
    intro ht hr hc h'
    simpa [ht, hr, hc] using h'
  cases e with
  | quiet => exact hquiet rfl rfl rfl h
  | bind binding =>
    have hbound := h.bound
    rw [he.1] at hbound
    cases hbound
  | expireUnbound =>
    have hbound := h.bound
    rw [he.1] at hbound
    cases hbound
  | range fresh endBlockTimestamp =>
    simpa [Event.transfers, Event.report?, Event.clock, Request.apply] using
      h.range htime endBlockTimestamp
  | claim jobId =>
    refine hquiet rfl rfl rfl ⟨h.bound, h.balanced.apply he, ?_, h.terminal, h.drainedAt,
      h.status, h.marks⟩
    rcases h.record with ⟨hnil, hun⟩ | ⟨r, t, hhead, ht, hrec⟩
    · exact Or.inl ⟨hnil, hun.txHash, hun.index, hun.block, hun.open'⟩
    · exact Or.inr ⟨r, t, hhead, ht, hrec.apply _⟩
  | requeue jobId =>
    refine hquiet rfl rfl rfl ⟨h.bound, h.balanced.apply he, ?_, h.terminal, h.drainedAt,
      h.status, h.marks⟩
    rcases h.record with ⟨hnil, hun⟩ | ⟨r, t, hhead, ht, hrec⟩
    · exact Or.inl ⟨hnil, hun.txHash, hun.index, hun.block, hun.open'⟩
    · exact Or.inr ⟨r, t, hhead, ht, hrec.apply _⟩
  | receipt receipt outcome =>
    simpa [Event.transfers, Event.report?, Event.clock] using h.receipt hchain he

/-- The closed form follows a run whose reports and ranges are those of the chain. -/
lemma run {events : List Event} (h : ClosedForm q transfers reports clock)
    (hruns : q.Runs events) (hchain : ChainReports (reports ++ reportsIn events))
    (htime : TimeOrdered clock events) :
    ClosedForm (q.run events) (transfers ++ transfersIn events) (reports ++ reportsIn events)
      (clockIn clock events) := by
  induction events generalizing q transfers reports clock with
  | nil => simpa [Request.run, transfersIn, reportsIn, clockIn] using h
  | cons e rest ih =>
    obtain ⟨he, hrest⟩ := hruns
    rw [reportsIn_cons, ← List.append_assoc] at hchain
    -- one event, and then the rest of the run from where it leads
    have hfinal := ih (h.step he hchain.before htime.1) hrest hchain htime.2
    rw [List.append_assoc, List.append_assoc, ← reportsIn_cons] at hfinal
    exact hfinal

/-- A request nothing was applied to. -/
lemma fresh (hbound : q.binding.isSome) (hbalanced : q.Balanced) (hun : q.Unrecorded)
    (hcreated : q.status = .created) (hdrained : q.drainedAt = none) (htransfers : q.transfers = [])
    (hamount : 0 < q.amount) : ClosedForm q [] [] 0 := by
  refine ⟨hbound, hbalanced, Or.inl ⟨rfl, hun⟩, by simp [drainsIn, terminalIn], hdrained, ?_, ?_⟩
  · rw [hcreated, statusFor]
    simp [terminalIn, creditedMarks, hamount.ne']
  · rw [htransfers]
    rfl

end ClosedForm

end Payday
