/-
# Why a transfer is late

The range path and the sweep path store the reason of a late transfer with two expressions.
The range path asks for the status first, the sweep path for the deadline first.  They differ
on a transfer that is late twice over, after the deadline and after the settlement: recorded
by a range that comes after the last drain it is late because of the status, reconciled by a
drain it is late because of the deadline.  `Reasoned` says which of the two a request's
transfers carry, and two interleavings agree on every reason exactly when they record the same
transfers of that kind after their last drains.
-/
import Payday.Ledger.OrderIndependence

namespace Payday

/-- The `disposition_reason` column. -/
def Disposition.reason? : Disposition → Option DispositionReason
  | .credited => none
  | .late reason | .error reason => some reason

/-- The event reconciles every recorded transfer: it is a receipt that drained. -/
def Event.drains : Event → Bool
  | .receipt _ outcome => outcome.drains
  | _ => false

/-- The transfers recorded since the last drain, `none` while nothing drained, after one more
event. -/
def nextUnswept (unswept : Option (List PaymentObservation)) (e : Event) :
    Option (List PaymentObservation) :=
  if e.drains then some [] else unswept.map (· ++ e.transfers)

/-- The transfers a run records after its last drain; none when it never drains. -/
def recordedAfterDrains (events : List Event) : List PaymentObservation :=
  (events.foldl nextUnswept none).getD []

/-- The disposition of a transfer with its reason, given the reports that were applied and
whether the transfer was recorded after the last drain. -/
def reasonedFor (expirationTimestamp : ℕ) (reports : List Report) (unswept : Bool)
    (o : PaymentObservation) : Disposition :=
  if o.amount = 0 then .error .zeroAmount
  else if o.blockTimestamp ≤ expirationTimestamp ∧ (∀ p ∈ settlementIn reports, o.position < p) then
    .credited
  else if expirationTimestamp < o.blockTimestamp ∧ unswept = false then .late (.invoice .expired)
  else .late (.invoice ((terminalIn reports).getD .expired))

lemma kind_reasonedFor (expirationTimestamp : ℕ) (reports : List Report) (unswept : Bool)
    (o : PaymentObservation) :
    (reasonedFor expirationTimestamp reports unswept o).kind = .error ↔ o.amount = 0 := by
  unfold reasonedFor
  split_ifs with hzero <;> simp [Disposition.kind, hzero]

/-- The reason depends on the last drain only for a nonzero transfer after the deadline, and
there it does as soon as the terminal status is another one than `expired`. -/
lemma reason_reasonedFor_eq_iff {expirationTimestamp : ℕ} {reports : List Report}
    {unswept unswept' : Bool} {o : PaymentObservation}
    (h : unswept ≠ unswept' → (terminalIn reports).getD .expired ≠ .expired) :
    (reasonedFor expirationTimestamp reports unswept o).reason? =
        (reasonedFor expirationTimestamp reports unswept' o).reason? ↔
      (o.amount ≠ 0 → expirationTimestamp < o.blockTimestamp → unswept = unswept') := by
  by_cases heq : unswept = unswept'
  · simp [heq]
  · have hne := h heq
    by_cases hzero : o.amount = 0
    · simp [reasonedFor, hzero]
    · by_cases hlate : expirationTimestamp < o.blockTimestamp
      · have hnot : ¬ (o.blockTimestamp ≤ expirationTimestamp ∧
            ∀ p ∈ settlementIn reports, o.position < p) := fun hc => absurd hc.1 (not_le.2 hlate)
        -- one of the two is late because of the status and the other because of the deadline
        simp only [reasonedFor, if_neg hnot, hlate, true_and, ne_eq, hzero,
          not_false_eq_true, true_implies, heq, iff_false]
        rcases unswept with _ | _ <;> rcases unswept' with _ | _
        · exact absurd rfl heq
        · simpa [Disposition.reason?] using Ne.symm hne
        · simpa [Disposition.reason?] using hne
        · exact absurd rfl heq
      · simp [reasonedFor, hlate]

/-- The recorded transfers carry the reasons of the reports, those in `unswept` as the range
path gives them and the others as the last drain gave them. -/
structure Reasoned (q : Request) (reports : List Report)
    (unswept : Option (List PaymentObservation)) : Prop where
  drained : unswept = none ↔ drainsIn reports = []
  reasons : ∃ swept new, q.transfers = swept ++ new ∧ new.map (·.observation) = unswept.getD [] ∧
    (∀ t ∈ swept, t.disposition = reasonedFor q.expirationTimestamp reports false t.observation) ∧
    ∀ t ∈ new, t.disposition = reasonedFor q.expirationTimestamp reports true t.observation

namespace Reasoned

variable {q : Request} {transfers : List PaymentObservation} {reports : List Report} {clock : ℕ}
  {unswept : Option (List PaymentObservation)}

/-- Each transfer carries one of the two reasons. -/
lemma of_mem (h : Reasoned q reports unswept) {t : Transfer} (ht : t ∈ q.transfers) :
    ∃ flag, t.disposition = reasonedFor q.expirationTimestamp reports flag t.observation := by
  obtain ⟨swept, new, hsplit, -, hswept, hnew⟩ := h.reasons
  rw [hsplit, List.mem_append] at ht
  rcases ht with ht | ht
  · exact ⟨false, hswept t ht⟩
  · exact ⟨true, hnew t ht⟩

/-- The range path's expression. -/
lemma record (hclosed : ClosedForm q transfers reports clock) {o : PaymentObservation}
    (ho : clock ≤ o.blockTimestamp) :
    (q.record o).disposition =
      reasonedFor q.expirationTimestamp reports (decide (drainsIn reports ≠ [])) o := by
  show q.disposition o = _
  have hacc := hclosed.accepting_iff ho
  rw [Request.disposition, reasonedFor]
  by_cases hzero : o.amount = 0
  · rw [if_pos hzero, if_pos hzero]
  rw [if_neg hzero, if_neg hzero]
  by_cases haccepting : q.accepting o = true
  · rw [if_pos haccepting, if_pos (hacc.1 haccepting)]
  rw [if_neg haccepting, if_neg (fun hc => haccepting (hacc.2 hc))]
  by_cases hnil : drainsIn reports = []
  · -- nothing is settled, so the transfer is late because of the deadline
    have hterm := hclosed.terminal.1 hnil
    have hsettled : settlementIn reports = none := by
      rw [settlementIn, hnil]
      rfl
    have hlate : q.expirationTimestamp < o.blockTimestamp := by
      by_contra hle
      refine haccepting (hacc.2 ⟨not_lt.1 hle, ?_⟩)
      simp [hsettled]
    have hdeadline : q.expirationTimestamp < o.blockTimestamp ∧
        decide (drainsIn reports ≠ []) = false := ⟨hlate, by simp [hnil]⟩
    rw [if_pos hdeadline]
    have hnot : ¬ q.status.isTerminal = true := by
      rw [hclosed.isTerminal_iff, hterm]
      simp
    by_cases hopen : q.status.isOpen = true
    · rw [if_pos hopen]
    · have hexpired : q.status = .expired := by
        cases hs : q.status <;> simp_all [InvoiceStatus.isOpen, InvoiceStatus.isTerminal]
      rw [if_neg hopen, hexpired]
  · obtain ⟨-, hterm⟩ := hclosed.recorded hnil
    have hterminal : q.status.isTerminal = true := ClosedForm.isTerminal_of_terminalIn hterm
    have hopen : ¬ q.status.isOpen = true := by
      cases hs : q.status <;> simp_all [InvoiceStatus.isOpen, InvoiceStatus.isTerminal]
    rw [if_neg hopen, if_neg (by simp [hnil]), hterm]
    rfl

/-- The sweep path's expression. -/
lemma drain (hclosed : ClosedForm q transfers reports clock) {receipt : FinalizedSweep}
    {outcome : SweepItemOutcome} {drain : Drain}
    (hchain : ChainReports (reports ++ [(receipt, outcome)]))
    (hdrain : q.drain? receipt outcome = some drain) {t : Transfer} {flag : Bool}
    (ht : t.disposition = reasonedFor q.expirationTimestamp reports flag t.observation) :
    (t.drain receipt.position (q.drainPosition drain) q.expirationTimestamp
        (.invoice (drain.status.getD q.status))).disposition =
      reasonedFor q.expirationTimestamp (reports ++ [(receipt, outcome)]) false t.observation := by
  have hterm : terminalIn (reports ++ [(receipt, outcome)]) = some (drain.status.getD q.status) := by
    rw [terminalIn_append]
    exact hclosed.drain_status hchain hdrain
  have herror : t.disposition.kind = .error ↔ t.observation.amount = 0 := by
    rw [ht]
    exact kind_reasonedFor _ _ _ _
  simp only [Transfer.drain, reasonedFor, hclosed.settlementIn_append hdrain, Option.mem_def,
    Option.some.injEq, forall_eq', hterm, Option.getD_some, herror, and_true]
  by_cases hzero : t.observation.amount = 0
  · rw [if_pos hzero, if_pos hzero, ht, reasonedFor, if_pos hzero]
  · rw [if_neg hzero, if_neg hzero]

/-- One event keeps the reasons. -/
lemma step (h : Reasoned q reports unswept) (hclosed : ClosedForm q transfers reports clock)
    {e : Event} (hchain : ChainReports (reports ++ e.report?.toList))
    (htime : ∀ o ∈ e.transfers, clock ≤ o.blockTimestamp) :
    Reasoned (q.apply e) (reports ++ e.report?.toList) (nextUnswept unswept e) := by
  obtain ⟨swept, new, hsplit, hobs, hswept, hnew⟩ := h.reasons
  -- an event that neither records nor reports leaves the transfers alone
  have hquiet : ∀ e' : Event, e'.transfers = [] → e'.drains = false → e'.report? = none →
      (q.apply e').transfers = q.transfers →
      (q.apply e').expirationTimestamp = q.expirationTimestamp →
      Reasoned (q.apply e') (reports ++ e'.report?.toList) (nextUnswept unswept e') := by
    intro e' htransfers hdrains hreport hsame hexp
    have hnext : nextUnswept unswept e' = unswept := by
      simp [nextUnswept, hdrains, htransfers]
    rw [hnext, hreport, Option.toList_none, List.append_nil]
    refine ⟨h.drained, swept, new, hsame.trans hsplit, hobs, ?_⟩
    rw [hexp]
    exact ⟨hswept, hnew⟩
  cases e with
  | range fresh endBlockTimestamp =>
    have hrecord : ∀ t ∈ fresh.map q.record, t.disposition = reasonedFor q.expirationTimestamp
        reports (decide (drainsIn reports ≠ [])) t.observation := by
      intro t ht
      obtain ⟨o, ho, rfl⟩ := List.mem_map.1 ht
      exact record hclosed (htime o ho)
    have htransfers : (q.range fresh endBlockTimestamp).transfers =
        swept ++ (new ++ fresh.map q.record) := by
      rw [← List.append_assoc, ← hsplit]
      rfl
    have hobserved : (fresh.map q.record).map (·.observation) = fresh := by
      rw [List.map_map]
      exact List.map_id fresh
    have hreports : reports ++ (Event.range fresh endBlockTimestamp).report?.toList = reports :=
      List.append_nil reports
    rw [hreports]
    rcases unswept with _ | recorded
    · -- nothing drained yet: the new transfers count as reconciled, there is nothing to differ
      have hnil : drainsIn reports = [] := h.drained.1 rfl
      have hempty : new = [] := List.map_eq_nil_iff.1 hobs
      subst hempty
      refine ⟨h.drained, swept ++ fresh.map q.record, [], ?_, rfl, ?_, by simp⟩
      · rw [List.append_nil]
        exact htransfers
      · rw [hnil] at hrecord
        intro t ht
        rcases List.mem_append.1 ht with hold | hfresh
        · exact hswept t hold
        · exact hrecord t hfresh
    · have hne : drainsIn reports ≠ [] := fun hc => by simpa using h.drained.2 hc
      refine ⟨?_, swept, new ++ fresh.map q.record, htransfers, ?_, hswept, ?_⟩
      · simpa [nextUnswept, Event.drains] using hne
      · rw [List.map_append, hobs, hobserved]
        rfl
      · rw [decide_eq_true hne] at hrecord
        intro t ht
        rcases List.mem_append.1 ht with hold | hfresh
        · exact hnew t hold
        · exact hrecord t hfresh
  | receipt receipt outcome =>
    have hreports : reports ++ (Event.receipt receipt outcome).report?.toList =
        reports ++ [(receipt, outcome)] := rfl
    rw [hreports] at hchain ⊢
    rcases hdrain : q.drain? receipt outcome with _ | drain
    · have hfailed : outcome.drains = false := by
        rw [← Bool.not_eq_true, drains_iff_drain? q receipt, hdrain]
        simp
      have hsame := drainsIn_append_of_failed reports (r := (receipt, outcome)) hfailed
      have hreason : reasonedFor q.expirationTimestamp (reports ++ [(receipt, outcome)]) =
          reasonedFor q.expirationTimestamp reports := by
        have hterm : terminalIn (reports ++ [(receipt, outcome)]) = terminalIn reports := by
          rw [terminalIn_append]
          rcases outcome with x | x | ⟨x, _ | e⟩ | cause
          all_goals first | rfl | cases hfailed
        funext flag o
        rw [reasonedFor, reasonedFor, hterm, settlementIn, settlementIn, hsame]
      have hnext : nextUnswept unswept (.receipt receipt outcome) = unswept := by
        simp [nextUnswept, Event.drains, hfailed, Event.transfers]
      have happly : q.apply (.receipt receipt outcome) = { q with sweepJobId := none } := by
        simp only [Request.apply, hdrain]
      rw [hnext, happly]
      refine ⟨by rw [hsame]; exact h.drained, swept, new, hsplit, hobs, ?_⟩
      rw [hreason]
      exact ⟨hswept, hnew⟩
    · -- a drain reconciles every transfer
      have hdrains : outcome.drains = true := drains_of_drain? hdrain
      have happly : q.apply (.receipt receipt outcome) = q.drain receipt drain := by
        simp only [Request.apply, hdrain]
      have hnext : nextUnswept unswept (.receipt receipt outcome) = some [] := by
        simp [nextUnswept, Event.drains, hdrains]
      rw [hnext, happly]
      refine ⟨?_, (q.drain receipt drain).transfers, [], by simp, rfl, ?_, by simp⟩
      · rw [drainsIn_append_of_drains _ hdrains]
        simp
      · intro t ht
        obtain ⟨t', ht', rfl⟩ := List.mem_map.1 ht
        obtain ⟨flag, hflag⟩ := h.of_mem ht'
        exact Reasoned.drain hclosed hchain hdrain hflag
  | quiet => exact hquiet .quiet rfl rfl rfl rfl rfl
  | bind binding => exact hquiet (.bind binding) rfl rfl rfl rfl rfl
  | expireUnbound => exact hquiet .expireUnbound rfl rfl rfl rfl rfl
  | claim jobId => exact hquiet (.claim jobId) rfl rfl rfl rfl rfl
  | requeue jobId => exact hquiet (.requeue jobId) rfl rfl rfl rfl rfl

/-- The reasons follow a run whose reports and ranges are those of the chain. -/
lemma run {events : List Event} (h : Reasoned q reports unswept)
    (hclosed : ClosedForm q transfers reports clock) (hruns : q.Runs events)
    (hchain : ChainReports (reports ++ reportsIn events)) (htime : TimeOrdered clock events) :
    Reasoned (q.run events) (reports ++ reportsIn events) (events.foldl nextUnswept unswept) := by
  induction events generalizing q transfers reports clock unswept with
  | nil => simpa [Request.run, reportsIn] using h
  | cons e rest ih =>
    obtain ⟨he, hrest⟩ := hruns
    rw [reportsIn_cons, ← List.append_assoc] at hchain
    have hnext := hclosed.step he hchain.before htime.1
    have hfinal := ih (h.step hclosed hchain.before htime.1) hnext hrest hchain htime.2
    rw [List.append_assoc, ← reportsIn_cons] at hfinal
    exact hfinal

end Reasoned

/-! ### Two interleavings -/

/-- Logs with distinct keys are distinct. -/
lemma Applies.nodup {timestamp : ℕ → ℕ} {id : InvoiceId} {b : Binding}
    {transfers : List PaymentObservation} {reports : List Report} {last : Option ℕ} {L : Ledger}
    {ops : List (Time × Op)} (h : Applies timestamp id b transfers reports last L ops) :
    transfers.Nodup := by
  rw [← h.transfers]
  exact h.once.of_map.filter _

/-- The reasons after a run that applies some transfers and reports. -/
lemma Applies.reasons {timestamp : ℕ → ℕ} (hmono : Monotone timestamp) {L : Ledger}
    (hL : Reachable L) {id : InvoiceId} {row : Invoice} {b : Binding}
    (hrow : L.invoices.find? id = some row) (hb : row.binding = some b)
    (hcreated : row.status = .created) (hnone : L.observationsOf id = [])
    {transfers : List PaymentObservation} {reports : List Report} (hreports : ChainReports reports)
    {last : Option ℕ} {ops : List (Time × Op)}
    (h : Applies timestamp id b transfers reports last L ops) :
    (recordedAfterDrains (L.history id ops) ≠ [] → drainsIn reports ≠ []) ∧
    ((run L ops).observationsOf id).map (fun r => (r.observation, r.disposition.reason?)) =
      transfers.map (fun o => (o, (reasonedFor row.expirationTimestamp reports
        (decide (o ∈ recordedAfterDrains (L.history id ops))) o).reason?)) := by
  have hq : L.request? id = some (row.request (L.observationsOf id)) :=
    Ledger.request?_eq_some.2 ⟨row, hrow, rfl⟩
  have htransfers : (row.request (L.observationsOf id)).transfers = [] := by
    rw [Invoice.request, hnone]
    rfl
  obtain ⟨hruns, hfinal⟩ := request?_run ops hq
  obtain ⟨first, hcons⟩ := h.consecutive
  obtain ⟨-, -, htime⟩ := history_applied hq hb h.alone h.unseen h.once
  have huntouched := hL.untouched hq
  have hfresh : ClosedForm (row.request (L.observationsOf id)) [] [] 0 :=
    ClosedForm.fresh (by rw [Invoice.request, hb]; rfl) (hL.balanced hq)
      (huntouched.unrecorded hcreated) hcreated (huntouched.undrained hcreated) htransfers
      huntouched.amount
  have hstart : Reasoned (row.request (L.observationsOf id)) [] none :=
    ⟨by simp [drainsIn], [], [], htransfers, rfl, by simp, by simp⟩
  have hchain : ChainReports ([] ++ reportsIn (L.history id ops)) := by
    rw [List.nil_append, h.reports]
    exact hreports
  have hreasoned := hstart.run hfresh hruns hchain
    (htime timestamp first 0 hmono (Nat.zero_le _) hcons)
  rw [List.nil_append, h.reports] at hreasoned
  obtain ⟨q', hq', -, -, hclosed⟩ := h.closedForm hmono hL hq hb hcreated htransfers hreports
  obtain rfl := Option.some.inj (hfinal.symm.trans hq')
  have hexp := (Request.run_terms (row.request (L.observationsOf id)) (L.history id ops)).2
  obtain ⟨row', hrow', heq⟩ := Ledger.request?_eq_some.1 hfinal
  rw [← heq] at hreasoned hclosed hexp
  obtain ⟨swept, new, hsplit, hobs, hswept, hnew⟩ := hreasoned.reasons
  have hobserved : (swept ++ new).map (·.observation) = transfers := by
    rw [← hsplit]
    exact hclosed.observed
  have hnodup := h.nodup
  rw [← hobserved, List.map_append, List.nodup_append] at hnodup
  refine ⟨fun hne hnil => ?_, ?_⟩
  · rw [recordedAfterDrains, hreasoned.drained.2 hnil] at hne
    exact hne rfl
  · -- the split of the recorded transfers decides which reason each carries
    have hreason : ∀ t ∈ swept ++ new, t.disposition = reasonedFor row.expirationTimestamp reports
        (decide (t.observation ∈ recordedAfterDrains (L.history id ops))) t.observation := by
      intro t ht
      rw [recordedAfterDrains, ← hobs]
      rw [hexp] at hswept hnew
      rcases List.mem_append.1 ht with hold | hnew'
      · have hnot : t.observation ∉ new.map (·.observation) := fun hin =>
          hnodup.2.2 _ (List.mem_map.2 ⟨t, hold, rfl⟩) _ hin rfl
        rw [decide_eq_false hnot]
        exact hswept t hold
      · rw [decide_eq_true (List.mem_map.2 ⟨t, hnew', rfl⟩)]
        exact hnew t hnew'
    have hrows : ((run L ops).observationsOf id).map (·.transfer) = swept ++ new := hsplit
    calc ((run L ops).observationsOf id).map (fun r => (r.observation, r.disposition.reason?))
        = (((run L ops).observationsOf id).map (·.transfer)).map
            (fun t => (t.observation, t.disposition.reason?)) := by
          rw [List.map_map]
          rfl
      _ = (swept ++ new).map (fun t => (t.observation, (reasonedFor row.expirationTimestamp reports
            (decide (t.observation ∈ recordedAfterDrains (L.history id ops)))
            t.observation).reason?)) := by
          rw [hrows]
          exact List.map_congr_left fun t ht => by rw [hreason t ht]
      _ = _ := by
          rw [← hobserved, List.map_map]
          rfl

/-- Two interleavings of the same ranges and receipts store the same reason for every transfer
exactly when each nonzero transfer after the deadline is recorded after the last drain in both
or in neither. -/
theorem reasons_agree_iff_recorded_alike {timestamp : ℕ → ℕ} (hmono : Monotone timestamp)
    {L : Ledger} (hL : Reachable L) {id : InvoiceId} {row : Invoice} {b : Binding}
    (hrow : L.invoices.find? id = some row) (hb : row.binding = some b)
    (hcreated : row.status = .created) (hnone : L.observationsOf id = [])
    {transfers : List PaymentObservation} {reports : List Report} (hreports : ChainReports reports)
    {last : Option ℕ} {ops₁ ops₂ : List (Time × Op)}
    (h₁ : Applies timestamp id b transfers reports last L ops₁)
    (h₂ : Applies timestamp id b transfers reports last L ops₂) :
    ((run L ops₁).observationsOf id).map (fun r => (r.observation, r.disposition.reason?)) =
        ((run L ops₂).observationsOf id).map (fun r => (r.observation, r.disposition.reason?)) ↔
      ∀ o ∈ transfers, o.amount ≠ 0 → row.expirationTimestamp < o.blockTimestamp →
        (o ∈ recordedAfterDrains (L.history id ops₁) ↔
          o ∈ recordedAfterDrains (L.history id ops₂)) := by
  obtain ⟨hdrained₁, hreasons₁⟩ := h₁.reasons hmono hL hrow hb hcreated hnone hreports
  obtain ⟨hdrained₂, hreasons₂⟩ := h₂.reasons hmono hL hrow hb hcreated hnone hreports
  have hq : L.request? id = some (row.request (L.observationsOf id)) :=
    Ledger.request?_eq_some.2 ⟨row, hrow, rfl⟩
  have htransfers : (row.request (L.observationsOf id)).transfers = [] := by
    rw [Invoice.request, hnone]
    rfl
  obtain ⟨q, -, -, -, hclosed⟩ := h₁.closedForm hmono hL hq hb hcreated htransfers hreports
  -- a drain leads to a terminal status, and `expired` is none
  have hterminal : drainsIn reports ≠ [] → (terminalIn reports).getD .expired ≠ .expired := by
    intro hne
    obtain ⟨-, hterm⟩ := hclosed.recorded hne
    have his := ClosedForm.isTerminal_of_terminalIn hterm
    rw [hterm]
    rintro hexpired
    rw [Option.getD_some] at hexpired
    rw [hexpired] at his
    cases his
  rw [hreasons₁, hreasons₂, List.map_inj_left]
  refine forall₂_congr fun o _ => ?_
  rw [Prod.mk.injEq, reason_reasonedFor_eq_iff]
  · simp only [true_and, decide_eq_decide]
  · intro hne
    rw [ne_eq, decide_eq_decide] at hne
    by_cases hin : o ∈ recordedAfterDrains (L.history id ops₁)
    · exact hterminal (hdrained₁ (List.ne_nil_of_mem hin))
    · have hin₂ : o ∈ recordedAfterDrains (L.history id ops₂) := by tauto
      exact hterminal (hdrained₂ (List.ne_nil_of_mem hin₂))

/-- No transfer of the two sample interleavings is after the deadline, and they agree. -/
theorem reasons_agree_iff_recorded_alike_sample :
    ((run issuedLedger receiptFirst).observationsOf 7).map
        (fun r => (r.observation, r.disposition.reason?)) =
      ((run issuedLedger receiptLast).observationsOf 7).map
        (fun r => (r.observation, r.disposition.reason?)) := by
  have hrow : issuedLedger.invoices.find? 7 = some (sampleRequest.row 0) := by decide
  refine (reasons_agree_iff_recorded_alike monotone_id ⟨_, rfl⟩ hrow rfl rfl (by decide)
    (chainReports_settled _ _) receiptFirst_applies receiptLast_applies).2 ?_
  intro o ho _ hlate
  have hin : o.blockTimestamp ≤ 1000 := by
    simp only [List.mem_cons, List.not_mem_nil, or_false] at ho
    rcases ho with rfl | rfl | rfl <;> decide
  exact absurd hin (not_le.2 hlate)

/-- The receipt is applied before the range with a transfer after the deadline. -/
def lateAfterReceipt : List (Time × Op) :=
  [(1, .applyFinalizedRange (sampleRange none 5 [sampleTransfer 3 0 0 60, sampleTransfer 4 1 0 50])),
    (2, .scheduleSweepJob .default 1 9 0 {}),
    (3, .deliver .default (.sweepFinalized (sampleReceipt 9 8 (.settled 10)))),
    (4, .applyFinalizedRange
      (sampleRange (some (sampleCursor 5)) 1012 [sampleTransfer 1010 0 0 7]))]

/-- The same range is applied before the receipt. -/
def lateBeforeReceipt : List (Time × Op) :=
  [(1, .applyFinalizedRange (sampleRange none 5 [sampleTransfer 3 0 0 60, sampleTransfer 4 1 0 50])),
    (2, .scheduleSweepJob .default 1 9 0 {}),
    (3, .applyFinalizedRange
      (sampleRange (some (sampleCursor 5)) 1012 [sampleTransfer 1010 0 0 7])),
    (4, .deliver .default (.sweepFinalized (sampleReceipt 9 8 (.settled 10))))]

/-- The two interleavings apply the same transfers and the same receipt, and store different
reasons for the transfer after the deadline. -/
theorem reasons_depend_on_the_interleaving :
    (∃ row, issuedLedger.invoices.find? 7 = some row ∧
      row.binding = some ⟨1, 10, 20, 30, 40, 0, none⟩ ∧ row.status = .created) ∧
    issuedLedger.observationsOf 7 = [] ∧ Reachable issuedLedger ∧
    ChainReports [(sampleReceipt 9 8 (.settled 10), .settled 10)] ∧
    Applies id 7 ⟨1, 10, 20, 30, 40, 0, none⟩
      [sampleTransfer 3 0 0 60, sampleTransfer 4 1 0 50, sampleTransfer 1010 0 0 7]
      [(sampleReceipt 9 8 (.settled 10), .settled 10)] (some 1012) issuedLedger lateAfterReceipt ∧
    Applies id 7 ⟨1, 10, 20, 30, 40, 0, none⟩
      [sampleTransfer 3 0 0 60, sampleTransfer 4 1 0 50, sampleTransfer 1010 0 0 7]
      [(sampleReceipt 9 8 (.settled 10), .settled 10)] (some 1012) issuedLedger lateBeforeReceipt ∧
    ((run issuedLedger lateAfterReceipt).observationsOf 7).map (·.disposition.reason?) =
      [none, none, some (.invoice .fulfilled)] ∧
    ((run issuedLedger lateBeforeReceipt).observationsOf 7).map (·.disposition.reason?) =
      [none, none, some (.invoice .expired)] := by
  have happlies : ∀ ops, (run issuedLedger ops).ids = [7] →
      rangesApplied 1 issuedLedger ops =
        [sampleRange none 5 [sampleTransfer 3 0 0 60, sampleTransfer 4 1 0 50],
          sampleRange (some (sampleCursor 5)) 1012 [sampleTransfer 1010 0 0 7]] →
      reportsIn (issuedLedger.history 7 ops) = [(sampleReceipt 9 8 (.settled 10), .settled 10)] →
      Applies id 7 ⟨1, 10, 20, 30, 40, 0, none⟩
        [sampleTransfer 3 0 0 60, sampleTransfer 4 1 0 50, sampleTransfer 1010 0 0 7]
        [(sampleReceipt 9 8 (.settled 10), .settled 10)] (some 1012) issuedLedger ops := by
    intro ops hids hranges hreports
    refine issuedLedger_applies hids hranges (by decide) ?_ rfl (by decide) hreports
    simp [Consecutive, sampleRange, sampleTransfer]
  refine ⟨⟨sampleRequest.row 0, by decide, rfl, rfl⟩, by decide, ⟨_, rfl⟩,
    chainReports_settled _ _, happlies _ (by decide) (by decide) (by decide),
    happlies _ (by decide) (by decide) (by decide), by decide, by decide⟩

end Payday
