/-
# Observation and settlement commute

The indexer applies the ranges of a chain in order, the receipts of a request's jobs arrive in
order, and nothing orders the two streams against each other.  Two runs that apply the same
transfers and the same receipts leave the request with the same status, the same marks and the
same counters: both are the closed form of what was applied.
-/
import Payday.Ledger.ClosedForm

namespace Payday

/-- The transfers among some logs that are a request's own. -/
def Binding.own (b : Binding) (logs : List PaymentObservation) : List PaymentObservation :=
  logs.filter (fun o => decide (o.recipient = b.paymentAddress ∧ o.token = b.token))

@[simp] lemma Binding.own_append (b : Binding) (logs logs' : List PaymentObservation) :
    b.own (logs ++ logs') = b.own logs ++ b.own logs' :=
  List.filter_append _ _

/-- The range of a chain that a transaction applies. -/
def appliedRange? (chainId : ChainId) (L : Ledger) (now : Time) : Op → Option FinalizedRange
  | .applyFinalizedRange range =>
    match applyFinalizedRange L now range with
    | .ok (_, .applied _ _ _) => if range.chainId = chainId then some range else none
    | _ => none
  | _ => none

/-- The ranges of a chain that a run applies. -/
def rangesApplied (chainId : ChainId) : Ledger → List (Time × Op) → List FinalizedRange
  | _, [] => []
  | L, op :: rest =>
    (appliedRange? chainId L op.1 op.2).toList ++ rangesApplied chainId (step L op.1 op.2) rest

/-- The logs of some ranges. -/
def logsOf (ranges : List FinalizedRange) : List PaymentObservation :=
  ranges.flatMap (·.observations)

/-- Consecutive ranges of a chain from block `first`, on which `timestamp` gives the time of a
block. -/
def Consecutive (timestamp : ℕ → ℕ) : ℕ → List FinalizedRange → Prop
  | _, [] => True
  | first, range :: rest =>
    first ≤ range.endBlock ∧ range.endBlockTimestamp = timestamp range.endBlock ∧
      (∀ o ∈ range.observations, first ≤ o.blockNumber ∧ o.blockNumber ≤ range.endBlock ∧
        o.blockTimestamp = timestamp o.blockNumber) ∧
      Consecutive timestamp (range.endBlock + 1) rest

/-- The run applies these transfers of the request, cut into consecutive ranges up to the
block `last`, and these reports of its jobs. -/
structure Applies (timestamp : ℕ → ℕ) (id : InvoiceId) (b : Binding)
    (transfers : List PaymentObservation) (reports : List Report) (last : Option ℕ) (L : Ledger)
    (ops : List (Time × Op)) : Prop where
  transfers : b.own (logsOf (rangesApplied b.chainId L ops)) = transfers
  consecutive : ∃ first, Consecutive timestamp first (rangesApplied b.chainId L ops)
  last : (rangesApplied b.chainId L ops).getLast?.map (·.endBlock) = last
  /-- A log is reported once. -/
  once : ((logsOf (rangesApplied b.chainId L ops)).map (observationKey b.chainId)).Nodup
  unseen : ∀ o ∈ logsOf (rangesApplied b.chainId L ops),
    observationKey b.chainId o ∉ L.observations.rows.map ObservationRow.key
  reports : reportsIn (L.history id ops) = reports
  /-- The address is the request's alone. -/
  alone : ∀ row ∈ (run L ops).invoices.rows, ∀ b', row.binding = some b' →
    b'.chainId = b.chainId → b'.paymentAddress = b.paymentAddress → row.id = id

/-! ### What a transaction applies -/

section

variable {L : Ledger} {now : Time} {id : InvoiceId} {q : Request} {b : Binding}

/-- A binding stays. -/
lemma Request.run_binding (events : List Event) (hruns : q.Runs events) (hb : q.binding = some b) :
    (q.run events).binding = some b := by
  refine Request.run_induction (P := fun q => q.binding = some b) (fun q e hq he => ?_) hb hruns
  cases e with
  | bind binding =>
    have hnone := he.1
    rw [hq] at hnone
    cases hnone
  | receipt receipt outcome =>
    simp only [Request.apply]
    split <;> exact hq
  | _ => exact hq

/-- The amount and the deadline stay. -/
lemma Request.run_terms (q : Request) (events : List Event) :
    (q.run events).amount = q.amount ∧
      (q.run events).expirationTimestamp = q.expirationTimestamp := by
  induction events generalizing q with
  | nil => exact ⟨rfl, rfl⟩
  | cons e rest ih =>
    have hstep : (q.apply e).amount = q.amount ∧
        (q.apply e).expirationTimestamp = q.expirationTimestamp := by
      cases e with
      | receipt receipt outcome =>
        simp only [Request.apply]
        split <;> exact ⟨rfl, rfl⟩
      | _ => exact ⟨rfl, rfl⟩
    exact ⟨(ih _).1.trans hstep.1, (ih _).2.trans hstep.2⟩

/-- A request that is alone at its address after a run was alone before it. -/
lemma alone_before {ops : List (Time × Op)}
    (halone : ∀ row ∈ (run L ops).invoices.rows, ∀ b', row.binding = some b' →
      b'.chainId = b.chainId → b'.paymentAddress = b.paymentAddress → row.id = id) :
    ∀ row ∈ L.invoices.rows, ∀ b', row.binding = some b' → b'.chainId = b.chainId →
      b'.paymentAddress = b.paymentAddress → row.id = id := by
  intro row hrow b' hb' hchain haddr
  have hq : L.request? row.id = some (row.request (L.observationsOf row.id)) := by
    rw [Ledger.request?, Table.find?_of_mem hrow, Option.map_some]
  obtain ⟨hruns, hfinal⟩ := request?_run ops hq
  obtain ⟨row', hrow', heq⟩ := Ledger.request?_eq_some.1 hfinal
  have hbinding : row'.binding = some b' := by
    have hkept := Request.run_binding _ hruns (b := b') hb'
    rw [← heq] at hkept
    exact hkept
  have hid : row'.id = row.id := Table.key_of_find? hrow'
  rw [← hid]
  exact halone row' (Table.mem_of_find? hrow') b' hbinding hchain haddr

/-- Only a range brings transfers and moves the clock. -/
lemma event_of_not_range {op : Op} (hop : ∀ range, op ≠ .applyFinalizedRange range) :
    (L.event now op id).transfers = [] ∧ (L.event now op id).clock = 0 := by
  unfold Ledger.event
  split
  · exact ⟨rfl, rfl⟩
  · cases op with
    | applyFinalizedRange range => exact absurd rfl (hop range)
    | bindPayerWallet nowSecs id' wallet binding =>
      simp only [eventOf, bindEvent]
      split_ifs <;> exact ⟨rfl, rfl⟩
    | bindNetwork id' binding =>
      simp only [eventOf, bindEvent]
      split_ifs <;> exact ⟨rfl, rfl⟩
    | expireUnbound chainTime =>
      simp only [eventOf]
      split_ifs <;> exact ⟨rfl, rfl⟩
    | scheduleSweepJob policy chainId jobId correlationId scan =>
      simp only [eventOf, scheduleEvent]
      split
      · split_ifs <;> exact ⟨rfl, rfl⟩
      · exact ⟨rfl, rfl⟩
    | deliver policy event =>
      cases event with
      | sweepFinalized receipt =>
        simp only [eventOf, receiptEvent]
        split
        · split_ifs <;> exact ⟨rfl, rfl⟩
        · exact ⟨rfl, rfl⟩
      | sweepAbandoned jobId reason =>
        simp only [eventOf, closeEvent]
        split_ifs <;> exact ⟨rfl, rfl⟩
      | executionRejected jobId reason =>
        simp only [eventOf, closeEvent]
        split_ifs <;> exact ⟨rfl, rfl⟩
      | _ => exact ⟨rfl, rfl⟩
    | _ => exact ⟨rfl, rfl⟩

/-- The event of a transaction brings the request's own logs of the range that was applied. -/
lemma event_applied (now : Time) (op : Op) (hq : L.request? id = some q) (hb : q.binding = some b)
    (halone : ∀ row ∈ L.invoices.rows, ∀ b', row.binding = some b' → b'.chainId = b.chainId →
      b'.paymentAddress = b.paymentAddress → row.id = id)
    (hunseen : ∀ o ∈ logsOf (appliedRange? b.chainId L now op).toList,
      observationKey b.chainId o ∉ L.observations.rows.map ObservationRow.key)
    (honce : ((logsOf (appliedRange? b.chainId L now op).toList).map
      (observationKey b.chainId)).Nodup) :
    (L.event now op id).transfers = b.own (logsOf (appliedRange? b.chainId L now op).toList) ∧
      (L.event now op id).clock =
        ((appliedRange? b.chainId L now op).map (·.endBlockTimestamp)).getD 0 := by
  by_cases hop : ∃ range, op = .applyFinalizedRange range
  · obtain ⟨range, rfl⟩ := hop
    obtain ⟨row, hrow, rfl⟩ := Ledger.request?_eq_some.1 hq
    have hbr : row.binding = some b := hb
    simp only [Ledger.event, hrow, eventOf, rangeEvent, appliedRange?] at hunseen honce ⊢
    rcases happly : applyFinalizedRange L now range with e | ⟨L', result⟩
    · exact ⟨rfl, rfl⟩
    · rcases applyFinalizedRange_cases happly with
        ⟨rfl, hnot⟩ | ⟨-, hrecord, funded, expired, rfl⟩
      · rcases result with ⟨funded, expired, cursor⟩ | cursor | cursor
        · exact absurd rfl (hnot funded expired cursor)
        · exact ⟨rfl, rfl⟩
        · exact ⟨rfl, rfl⟩
      · rw [happly] at hunseen honce
        simp only [hbr, Option.map_some, Option.some.injEq] at hunseen honce ⊢
        by_cases hchain : range.chainId = b.chainId
        · rw [if_pos hchain] at hunseen honce
          rw [if_pos hchain.symm, if_pos hchain]
          simp only [logsOf, Option.toList_some, List.flatMap_cons, List.flatMap_nil,
            List.append_nil] at hunseen honce ⊢
          obtain ⟨fresh, c', -, hobs, -, -, hall⟩ := recordRange_bound hrecord hrow hbr hchain.symm
          rw [← hchain] at hunseen honce
          refine ⟨?_, rfl⟩
          show newTransfers L L' id = _
          rw [newTransfers_eq (fun _ => rfl) hobs, hall ?_ hunseen honce, Binding.own]
          intro row' hrow' b' hb' hc ha
          have hid : row'.id = row.id :=
            (halone row' hrow' b' hb' hc ha).trans (Table.key_of_find? hrow).symm
          exact L.invoices.eq_of_key_eq hrow' (Table.mem_of_find? hrow) hid
        · rw [if_neg (Ne.symm hchain), if_neg hchain]
          exact ⟨rfl, rfl⟩
  · have hnone : appliedRange? b.chainId L now op = none := by
      cases op with
      | applyFinalizedRange range => exact absurd ⟨range, rfl⟩ hop
      | _ => rfl
    rw [hnone]
    exact event_of_not_range (fun range h => hop ⟨range, h⟩)

/-- A range that finds the expected cursor is recorded. -/
lemma applyFinalizedRange_of_cursor {range : FinalizedRange}
    (h : L.cursor range.chainId = range.expectedCursor) :
    applyFinalizedRange L now range = recordRange L now range := by
  rw [applyFinalizedRange, if_neg (not_not.2 h)]

/-- A key of the chain that is recorded after a transaction was recorded before it, or is in
the range it applied. -/
lemma key_of_step {op : Op} {chainId : ChainId} {o : PaymentObservation}
    (h : observationKey chainId o ∈ (step L now op).observations.rows.map ObservationRow.key) :
    observationKey chainId o ∈ L.observations.rows.map ObservationRow.key ∨
      observationKey chainId o ∈
        (logsOf (appliedRange? chainId L now op).toList).map (observationKey chainId) := by
  rw [← Ledger.recorded_keys] at h ⊢
  rcases step_scan L now op with hsame | ⟨range, funded, expired, rfl, hcursor, hrecord⟩
  · rw [hsame.recorded] at h
    exact Or.inl h
  · obtain ⟨new, happend, hnew⟩ := recordRange_recorded hrecord
    rw [happend, List.map_append, List.mem_append] at h
    rcases h with hold | hin
    · exact Or.inl hold
    · obtain ⟨x, hx, hkey⟩ := List.mem_map.1 hin
      obtain ⟨hchain, hmem, -⟩ := hnew x hx
      have hid : range.chainId = chainId := by
        rw [← hchain]
        exact congrArg Prod.fst hkey
      have happly := hrecord
      rw [← applyFinalizedRange_of_cursor hcursor] at happly
      right
      simp only [appliedRange?, happly, if_pos hid, Option.toList_some, logsOf, List.flatMap_cons,
        List.flatMap_nil, List.append_nil]
      rw [← hkey]
      exact List.mem_map.2 ⟨x.observation, hmem, by rw [Recorded.key, hchain, hid]⟩

/-- What a run applies is what its history brings. -/
lemma history_applied {ops : List (Time × Op)} (hq : L.request? id = some q)
    (hb : q.binding = some b)
    (halone : ∀ row ∈ (run L ops).invoices.rows, ∀ b', row.binding = some b' →
      b'.chainId = b.chainId → b'.paymentAddress = b.paymentAddress → row.id = id)
    (hunseen : ∀ o ∈ logsOf (rangesApplied b.chainId L ops),
      observationKey b.chainId o ∉ L.observations.rows.map ObservationRow.key)
    (honce : ((logsOf (rangesApplied b.chainId L ops)).map (observationKey b.chainId)).Nodup) :
    transfersIn (L.history id ops) = b.own (logsOf (rangesApplied b.chainId L ops)) ∧
      (∀ c, clockIn c (L.history id ops) =
        ((rangesApplied b.chainId L ops).map (·.endBlockTimestamp)).foldl max c) ∧
      ∀ timestamp first c, Monotone timestamp → c ≤ timestamp first →
        Consecutive timestamp first (rangesApplied b.chainId L ops) →
        TimeOrdered c (L.history id ops) := by
  induction ops generalizing L q with
  | nil => exact ⟨rfl, fun _ => rfl, fun _ _ _ _ _ _ => trivial⟩
  | cons op rest ih =>
    have hlogs : logsOf (rangesApplied b.chainId L (op :: rest)) =
        logsOf (appliedRange? b.chainId L op.1 op.2).toList ++
          logsOf (rangesApplied b.chainId (step L op.1 op.2) rest) := by
      simp only [logsOf, rangesApplied, List.flatMap_append]
    rw [hlogs] at hunseen honce
    rw [List.map_append, List.nodup_append] at honce
    obtain ⟨htransfers, hclock⟩ := event_applied op.1 op.2 hq hb (alone_before halone)
      (fun o ho => hunseen o (List.mem_append_left _ ho)) honce.1
    obtain ⟨henabled, hmoved⟩ := request?_step op.1 op.2 hq
    have hb' : (q.apply (L.event op.1 op.2 id)).binding = some b :=
      Request.run_binding [L.event op.1 op.2 id] ⟨henabled, trivial⟩ hb
    -- the logs of the later ranges are still unseen after this one
    have hunseen' : ∀ o ∈ logsOf (rangesApplied b.chainId (step L op.1 op.2) rest),
        observationKey b.chainId o ∉
          (step L op.1 op.2).observations.rows.map ObservationRow.key := by
      intro o ho hin
      rcases key_of_step hin with hold | hnew
      · exact hunseen o (List.mem_append_right _ ho) hold
      · exact honce.2.2 _ hnew _ (List.mem_map.2 ⟨o, ho, rfl⟩) rfl
    obtain ⟨ihtransfers, ihclock, ihtime⟩ := ih hmoved hb' halone hunseen' honce.2.1
    refine ⟨?_, fun c => ?_, fun timestamp first c hmono hc hcons => ?_⟩
    · rw [hlogs, Binding.own_append, ← htransfers, ← ihtransfers]
      rfl
    · rw [Ledger.history, clockIn, List.foldl_cons, hclock]
      have hrest := ihclock (max c (((appliedRange? b.chainId L op.1 op.2).map
        (·.endBlockTimestamp)).getD 0))
      rw [clockIn] at hrest
      rw [hrest, rangesApplied, List.map_append, List.foldl_append]
      rcases appliedRange? b.chainId L op.1 op.2 with _ | range
      · simp
      · rfl
    · rw [Ledger.history, TimeOrdered, htransfers, hclock]
      rw [rangesApplied] at hcons
      rcases happ : appliedRange? b.chainId L op.1 op.2 with _ | range
      · rw [happ] at hcons
        refine ⟨by simp [logsOf, Binding.own], ?_⟩
        simpa using ihtime timestamp first c hmono hc hcons
      · rw [happ] at hcons
        obtain ⟨hfirst, hend, hin, hnext⟩ := hcons
        refine ⟨fun o ho => ?_, ?_⟩
        · have ho' : o ∈ range.observations := by
            simpa [logsOf] using List.mem_of_mem_filter ho
          obtain ⟨hlow, -, htime⟩ := hin o ho'
          rw [htime]
          exact hc.trans (hmono hlow)
        · refine ihtime timestamp (range.endBlock + 1) _ hmono ?_ hnext
          have hlater : timestamp first ≤ timestamp (range.endBlock + 1) := hmono (by omega)
          have hnextBlock : timestamp range.endBlock ≤ timestamp (range.endBlock + 1) :=
            hmono (by omega)
          simp only [Option.map_some, Option.getD_some, hend]
          omega

end

/-- The clock of consecutive ranges is the time of the last one's end. -/
lemma Consecutive.clock {timestamp : ℕ → ℕ} (hmono : Monotone timestamp) {ranges : List FinalizedRange}
    {first c : ℕ} (h : Consecutive timestamp first ranges) (hc : c ≤ timestamp first) :
    (ranges.map (·.endBlockTimestamp)).foldl max c =
      ((ranges.getLast?.map (·.endBlock)).map timestamp).getD c := by
  induction ranges generalizing first c with
  | nil => rfl
  | cons range rest ih =>
    obtain ⟨hfirst, hend, -, hnext⟩ := h
    have hle : c ≤ timestamp range.endBlock := hc.trans (hmono hfirst)
    rw [List.map_cons, List.foldl_cons, hend, max_eq_right hle,
      ih hnext (hmono (Nat.le_succ _))]
    rcases rest with _ | ⟨range', rest'⟩
    · rfl
    · rw [List.getLast?_cons_cons]
      have hsome : (range' :: rest').getLast? ≠ none := by simp
      rcases hlast : (range' :: rest').getLast? with _ | r
      · exact absurd hlast hsome
      · rfl

/-! ### The theorem -/

namespace Request

/-- Nothing was ever settled or drained for a request that is still `created`. -/
structure Untouched (q : Request) : Prop where
  amount : 0 < q.amount
  unrecorded : q.status = .created → q.Unrecorded
  undrained : q.status = .created → q.drainedAt = none

lemma Untouched.apply {q : Request} (h : q.Untouched) (hbalanced : q.Balanced) {e : Event}
    (he : q.Enabled e) : (q.apply e).Untouched := by
  -- only a request that was created is created
  have hbefore : (q.apply e).status = .created → q.status = .created := by
    intro hs
    by_contra hne
    exact status_apply_ne_created e hne hs
  cases e with
  | receipt receipt outcome =>
    have hclaimed : q.status ≠ .created := by
      intro hs
      rw [Enabled, hbalanced.unclaimed hs] at he
      cases he
    refine ⟨?_, fun hs => absurd (hbefore hs) hclaimed, fun hs => absurd (hbefore hs) hclaimed⟩
    simp only [Request.apply]
    split <;> exact h.amount
  | expireUnbound => exact ⟨h.amount, fun hs => (by cases hs), fun hs => (by cases hs)⟩
  | range fresh endBlockTimestamp =>
    refine ⟨h.amount, fun hs => ?_, fun hs => h.undrained (hbefore hs)⟩
    have hun := h.unrecorded (hbefore hs)
    exact ⟨hun.txHash, hun.index, hun.block, by rw [hs]; rfl⟩
  | _ =>
    refine ⟨h.amount, fun hs => ?_, fun hs => h.undrained (hbefore hs)⟩
    have hun := h.unrecorded (hbefore hs)
    exact ⟨hun.txHash, hun.index, hun.block, hun.open'⟩

end Request

lemma Reachable.untouched {L : Ledger} (h : Reachable L) {id : InvoiceId} {q : Request}
    (hq : L.request? id = some q) : q.Untouched := by
  refine (h.request_induction (P := fun q => q.Balanced ∧ q.Untouched) (fun input => ?_)
    (fun q e hp he => ⟨hp.1.apply he, hp.2.apply hp.1 he⟩) hq).2
  exact ⟨input.balanced, input.amount_pos, fun _ => ⟨rfl, rfl, rfl, rfl⟩, fun _ => rfl⟩

/-- The request after a run that applies some transfers and reports is their closed form. -/
lemma Applies.closedForm {timestamp : ℕ → ℕ} (hmono : Monotone timestamp) {L : Ledger}
    (hL : Reachable L) {id : InvoiceId} {q : Request} {b : Binding} (hq : L.request? id = some q)
    (hb : q.binding = some b) (hcreated : q.status = .created) (hnone : q.transfers = [])
    {transfers : List PaymentObservation} {reports : List Report} (hreports : ChainReports reports)
    {last : Option ℕ} {ops : List (Time × Op)}
    (h : Applies timestamp id b transfers reports last L ops) :
    ∃ q', (run L ops).request? id = some q' ∧ q'.amount = q.amount ∧
      q'.expirationTimestamp = q.expirationTimestamp ∧
      ClosedForm q' transfers reports ((last.map timestamp).getD 0) := by
  obtain ⟨hruns, hfinal⟩ := request?_run ops hq
  obtain ⟨first, hcons⟩ := h.consecutive
  obtain ⟨htransfers, hclock, htime⟩ := history_applied hq hb h.alone h.unseen h.once
  have huntouched := hL.untouched hq
  have hfresh : ClosedForm q [] [] 0 :=
    ClosedForm.fresh (by rw [hb]; rfl) (hL.balanced hq) (huntouched.unrecorded hcreated) hcreated
      (huntouched.undrained hcreated) hnone huntouched.amount
  have hchain : ChainReports ([] ++ reportsIn (L.history id ops)) := by
    rw [List.nil_append, h.reports]
    exact hreports
  have hrun := hfresh.run hruns hchain (htime timestamp first 0 hmono (Nat.zero_le _) hcons)
  rw [List.nil_append, List.nil_append, htransfers, h.transfers, h.reports, hclock,
    hcons.clock hmono (Nat.zero_le _), h.last] at hrun
  exact ⟨_, hfinal, (q.run_terms _).1, (q.run_terms _).2, hrun⟩

/-- The mark of an observation row: its log, its disposition and whether it is collected. -/
def ObservationRow.mark (r : ObservationRow) : Mark :=
  ⟨r.observation, r.disposition.kind, r.collectedAt.isSome⟩

lemma Invoice.request_marks (row : Invoice) (rows : List ObservationRow) :
    (row.request rows).transfers.map (·.mark) = rows.map (·.mark) := by
  rw [Invoice.request, List.map_map]
  rfl

/-- Two runs that apply the same transfers and the same receipts of a request, in any
interleaving and with any cuts into ranges, end with the same status, the same marks and the
same counters. -/
theorem observation_and_settlement_commute {timestamp : ℕ → ℕ} (hmono : Monotone timestamp)
    {L : Ledger} (hL : Reachable L) {id : InvoiceId} {row : Invoice} {b : Binding}
    (hrow : L.invoices.find? id = some row) (hb : row.binding = some b)
    (hcreated : row.status = .created) (hnone : L.observationsOf id = [])
    {transfers : List PaymentObservation} {reports : List Report} (hreports : ChainReports reports)
    {last : Option ℕ} {ops₁ ops₂ : List (Time × Op)}
    (h₁ : Applies timestamp id b transfers reports last L ops₁)
    (h₂ : Applies timestamp id b transfers reports last L ops₂) :
    ∃ row₁ row₂, (run L ops₁).invoices.find? id = some row₁ ∧
      (run L ops₂).invoices.find? id = some row₂ ∧ row₁.status = row₂.status ∧
      ((run L ops₁).observationsOf id).map (·.mark) = ((run L ops₂).observationsOf id).map (·.mark) ∧
      ((run L ops₁).observationsOf id).map (·.observation) = transfers ∧
      row₁.confirmedReceived = row₂.confirmedReceived ∧
      row₁.uncollectedCount = row₂.uncollectedCount := by
  have hq : L.request? id = some (row.request (L.observationsOf id)) :=
    Ledger.request?_eq_some.2 ⟨row, hrow, rfl⟩
  have htransfers : (row.request (L.observationsOf id)).transfers = [] := by
    rw [Invoice.request, hnone]
    rfl
  obtain ⟨q₁, hq₁, hamount₁, hexp₁, hclosed₁⟩ :=
    h₁.closedForm hmono hL hq hb hcreated htransfers hreports
  obtain ⟨q₂, hq₂, hamount₂, hexp₂, hclosed₂⟩ :=
    h₂.closedForm hmono hL hq hb hcreated htransfers hreports
  obtain ⟨row₁, hrow₁, rfl⟩ := Ledger.request?_eq_some.1 hq₁
  obtain ⟨row₂, hrow₂, rfl⟩ := Ledger.request?_eq_some.1 hq₂
  have hmarks : ((run L ops₁).observationsOf id).map (·.mark) =
      ((run L ops₂).observationsOf id).map (·.mark) := by
    have hm₁ := hclosed₁.marks
    have hm₂ := hclosed₂.marks
    rw [hexp₁, row₁.request_marks] at hm₁
    rw [hexp₂, row₂.request_marks] at hm₂
    exact hm₁.trans hm₂.symm
  refine ⟨row₁, row₂, hrow₁, hrow₂, ?_, hmarks, ?_, ?_, ?_⟩
  · have hs₁ := hclosed₁.status
    have hs₂ := hclosed₂.status
    rw [hamount₁, hexp₁] at hs₁
    rw [hamount₂, hexp₂] at hs₂
    exact hs₁.trans hs₂.symm
  · have hobserved := hclosed₁.observed
    rw [Invoice.request, List.map_map] at hobserved
    exact hobserved
  · -- the counters are aggregates of the marks
    have hr₁ := hclosed₁.balanced.received
    have hr₂ := hclosed₂.balanced.received
    rw [creditedOf_eq_marks, row₁.request_marks] at hr₁
    rw [creditedOf_eq_marks, row₂.request_marks, ← hmarks] at hr₂
    exact hr₁.trans hr₂.symm
  · have hu₁ := hclosed₁.balanced.uncollected
    have hu₂ := hclosed₂.balanced.uncollected
    rw [uncollectedOf_eq_marks, row₁.request_marks] at hu₁
    rw [uncollectedOf_eq_marks, row₂.request_marks, ← hmarks] at hu₂
    exact hu₁.trans hu₂.symm

/-- The sample request before anything was applied to it. -/
def issuedLedger : Ledger := run Ledger.empty [(0, .insertIssued sampleRequest)]

/-- The receipt is applied before the range with the late transfer. -/
def receiptFirst : List (Time × Op) :=
  [(1, .applyFinalizedRange (sampleRange none 5 [sampleTransfer 3 0 0 60, sampleTransfer 4 1 0 50])),
    (2, .scheduleSweepJob .default 1 9 0 {}),
    (3, .deliver .default (.sweepFinalized (sampleReceipt 9 8 (.settled 10)))),
    (4, .applyFinalizedRange (sampleRange (some (sampleCursor 5)) 12 [sampleTransfer 10 0 0 7]))]

/-- The ranges are cut elsewhere and all applied before the receipt. -/
def receiptLast : List (Time × Op) :=
  [(1, .applyFinalizedRange (sampleRange none 3 [sampleTransfer 3 0 0 60])),
    (2, .applyFinalizedRange (sampleRange (some (sampleCursor 3)) 4 [sampleTransfer 4 1 0 50])),
    (3, .scheduleSweepJob .default 1 9 0 {}),
    (4, .applyFinalizedRange (sampleRange (some (sampleCursor 4)) 12 [sampleTransfer 10 0 0 7])),
    (5, .deliver .default (.sweepFinalized (sampleReceipt 9 8 (.settled 10))))]

/-- A run over the sample request applies what its ranges and its history bring. -/
lemma issuedLedger_applies {ops : List (Time × Op)} {ranges : List FinalizedRange}
    {transfers : List PaymentObservation} {reports : List Report} {last : Option ℕ}
    (hids : (run issuedLedger ops).ids = [7]) (hranges : rangesApplied 1 issuedLedger ops = ranges)
    (htransfers : Binding.own ⟨1, 10, 20, 30, 40, 0, none⟩ (logsOf ranges) = transfers)
    (hcons : Consecutive id 0 ranges) (hlast : ranges.getLast?.map (·.endBlock) = last)
    (honce : ((logsOf ranges).map (observationKey 1)).Nodup)
    (hreports : reportsIn (issuedLedger.history 7 ops) = reports) :
    Applies id 7 ⟨1, 10, 20, 30, 40, 0, none⟩ transfers reports last issuedLedger ops := by
  subst hranges
  have hempty : issuedLedger.observations.rows = [] := by decide
  refine ⟨htransfers, ⟨0, hcons⟩, hlast, honce, fun o _ => by simp [hempty], hreports, ?_⟩
  intro row hmem _ _ _ _
  have hin : row.id ∈ (run issuedLedger ops).ids := List.mem_map.2 ⟨row, hmem, rfl⟩
  simpa [hids] using hin

/-- A single settlement is a chain's reports. -/
lemma chainReports_settled (receipt : FinalizedSweep) (overpaymentRecovered : ℕ) :
    ChainReports [(receipt, .settled overpaymentRecovered)] := by
  refine ⟨by simp, ?_⟩
  intro before receipt' amount after heq
  rcases before with _ | ⟨r, _ | ⟨r', rest⟩⟩ <;> simp at heq

lemma receiptFirst_applies : Applies id 7 ⟨1, 10, 20, 30, 40, 0, none⟩
    [sampleTransfer 3 0 0 60, sampleTransfer 4 1 0 50, sampleTransfer 10 0 0 7]
    [(sampleReceipt 9 8 (.settled 10), .settled 10)] (some 12) issuedLedger receiptFirst := by
  have hranges : rangesApplied 1 issuedLedger receiptFirst =
      [sampleRange none 5 [sampleTransfer 3 0 0 60, sampleTransfer 4 1 0 50],
        sampleRange (some (sampleCursor 5)) 12 [sampleTransfer 10 0 0 7]] := by decide
  refine issuedLedger_applies (by decide) hranges (by decide) ?_ rfl (by decide) (by decide)
  simp [Consecutive, sampleRange, sampleTransfer]

lemma receiptLast_applies : Applies id 7 ⟨1, 10, 20, 30, 40, 0, none⟩
    [sampleTransfer 3 0 0 60, sampleTransfer 4 1 0 50, sampleTransfer 10 0 0 7]
    [(sampleReceipt 9 8 (.settled 10), .settled 10)] (some 12) issuedLedger receiptLast := by
  have hranges : rangesApplied 1 issuedLedger receiptLast =
      [sampleRange none 3 [sampleTransfer 3 0 0 60],
        sampleRange (some (sampleCursor 3)) 4 [sampleTransfer 4 1 0 50],
        sampleRange (some (sampleCursor 4)) 12 [sampleTransfer 10 0 0 7]] := by decide
  refine issuedLedger_applies (by decide) hranges (by decide) ?_ rfl (by decide) (by decide)
  simp [Consecutive, sampleRange, sampleTransfer]

theorem observation_and_settlement_commute_sample :
    ∃ row₁ row₂, (run issuedLedger receiptFirst).invoices.find? 7 = some row₁ ∧
      (run issuedLedger receiptLast).invoices.find? 7 = some row₂ ∧ row₁.status = row₂.status ∧
      ((run issuedLedger receiptFirst).observationsOf 7).map (·.mark) =
        ((run issuedLedger receiptLast).observationsOf 7).map (·.mark) := by
  have hrow : issuedLedger.invoices.find? 7 = some (sampleRequest.row 0) := by decide
  obtain ⟨row₁, row₂, h₁, h₂, hstatus, hmarks, -⟩ :=
    observation_and_settlement_commute monotone_id ⟨_, rfl⟩ hrow rfl rfl (by decide)
      (chainReports_settled _ _) receiptFirst_applies receiptLast_applies
  exact ⟨row₁, row₂, h₁, h₂, hstatus, hmarks⟩

end Payday
