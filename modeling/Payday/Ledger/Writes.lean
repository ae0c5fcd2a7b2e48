/-
# The statements that write one row

A transaction changes the row of a request by a few `UPDATE`s, and between two of them the row
has a version that no other transaction sees but the row's triggers do.  `Write` is one such
statement on one row, `Ledger.writes` lists the statements of a transaction that hit a given
row, in order, and `find?_step` says that they account for everything the transaction does to
it.  What a column can go through is then a question about eleven statements.
-/
import Payday.Ledger.Jobs
import Payday.Ledger.Simulation

namespace Payday

/-- One `UPDATE` on one row of `invoices`. -/
inductive Write
  | bind (binding : Binding)
  | expire (chainTime : ℕ)
  | verify (verifiedAt : Time)
  | cancel
  | credit (credit : InvoiceCredit)
  | unpark (earliest : ℕ)
  | claim (jobId : JobId)
  | requeue
  | drain (receipt : FinalizedSweep) (drain : Drain) (uncollected received : ℕ)
  | flag (reason : String)
  | release

namespace Write

/-- The version of the row a statement leaves. -/
def apply (now : Time) (row : Invoice) : Write → Invoice
  | .bind binding => { row with binding := some binding, updatedAt := now }
  | .expire chainTime => row.expire now chainTime
  | .verify verifiedAt => { row with verificationCompletedAt := some verifiedAt, updatedAt := now }
  | .cancel => { row with cancellationRequestedAt := some now, updatedAt := now }
  | .credit c => c.write now row
  | .unpark earliest => { row with
      likelyUnsolicitedAt := row.likelyUnsolicitedAt.or (some earliest), updatedAt := now }
  | .claim jobId => row.claim jobId now
  | .requeue => row.requeue now
  | .drain receipt d uncollected received => row.drain receipt d uncollected received now
  | .flag reason => { row with attentionReason := some reason, updatedAt := now }
  | .release => { row with
      attentionReason := none, sweepAttempts := 0, lastAttemptAt := none, updatedAt := now }

/-- What the transaction has checked about the row a statement hits. -/
def Allowed (row : Invoice) : Write → Prop
  | .bind _ => row.binding = none ∧ row.status = .created
  | .expire _ => row.status.isOpen = true
  | .verify _ => row.verificationCompletedAt = none ∧ row.status.isOpen = true
  | .cancel => row.cancellationRequestedAt = none
  | .credit c => c.writesTo row = true
  | .unpark _ => True
  | .claim _ => row.sweepJobId = none ∧ row.attentionReason = none
  | .requeue => row.sweepJobId.isSome
  | .drain receipt _ _ _ => row.sweepJobId = some receipt.jobId
  | .flag _ => row.attentionReason = none
  | .release => row.attentionReason.isSome ∧ row.sweepJobId = none

lemma apply_id (now : Time) (row : Invoice) (w : Write) : (w.apply now row).id = row.id := by
  cases w with
  | credit c => exact c.write_id now row
  | _ => rfl

end Write

/-- The row after some statements. -/
def Invoice.writeAll (now : Time) (row : Invoice) (ws : List Write) : Invoice :=
  ws.foldl (Write.apply now) row

@[simp] lemma Invoice.writeAll_nil (now : Time) (row : Invoice) : row.writeAll now [] = row := rfl

@[simp] lemma Invoice.writeAll_cons (now : Time) (row : Invoice) (w : Write) (ws : List Write) :
    row.writeAll now (w :: ws) = (w.apply now row).writeAll now ws := rfl

lemma Invoice.writeAll_append (now : Time) (row : Invoice) (ws ws' : List Write) :
    row.writeAll now (ws ++ ws') = (row.writeAll now ws).writeAll now ws' := by
  simp [Invoice.writeAll]

/-- Each statement finds the row it checked for. -/
def WritesAllowed (now : Time) : Invoice → List Write → Prop
  | _, [] => True
  | row, w :: ws => w.Allowed row ∧ WritesAllowed now (w.apply now row) ws

lemma writesAllowed_append {now : Time} {row : Invoice} {ws ws' : List Write} :
    WritesAllowed now row (ws ++ ws') ↔
      WritesAllowed now row ws ∧ WritesAllowed now (row.writeAll now ws) ws' := by
  induction ws generalizing row with
  | nil => simp [WritesAllowed]
  | cons w rest ih => simp only [List.cons_append, WritesAllowed, ih, Invoice.writeAll_cons, and_assoc]

/-- What every allowed statement keeps, every list of them keeps. -/
lemma WritesAllowed.induction {now : Time} {P : Invoice → Prop}
    (hstep : ∀ (row : Invoice) (w : Write), w.Allowed row → P row → P (w.apply now row)) {row : Invoice} {ws : List Write}
    (h : WritesAllowed now row ws) (hrow : P row) : P (row.writeAll now ws) := by
  induction ws generalizing row with
  | nil => exact hrow
  | cons w rest ih => exact ih h.2 (hstep row w h.1 hrow)

/-! ### The statements of each transaction -/

/-- The statement of `bind_payer_wallet` and `bind_network`. -/
def bindWrites (L : Ledger) (row : Invoice) (bindable : Invoice → Bool) (binding : Binding) :
    List Write :=
  if bindable row ∧ ¬ L.addressTaken binding then [.bind binding] else []

/-- A fill keeps the intent's id. -/
lemma RelayIntent.id_attributeFill (now : Time) (fills : List Hash) (verifiedOriginTxHash : Hash)
    (relayStatus : String) (r : RelayIntent) : RelayIntent.id { r with
      status := .filled
      fillTxHashes := fills
      verifiedOriginTxHash := some verifiedOriginTxHash
      relayStatus := some relayStatus
      nextCheckAt := none
      resolvedAt := some now } = r.id := rfl

/-- A failure keeps the intent's id. -/
lemma RelayIntent.id_closeIntent (now : Time) (failure : RelayFailure) (relayStatus : String) (r : RelayIntent) :
    RelayIntent.id { r with
      status := failure.status
      relayStatus := some relayStatus
      nextCheckAt := none
      resolvedAt := some now } = r.id := rfl

/-- The ledger in which `resolve_filled` looks for parked transfers. -/
def attributeFill (L : Ledger) (now : Time) (intent : RelayIntent) (fills : List Hash)
    (verifiedOriginTxHash : Hash) (relayStatus : String) : Ledger :=
  let filled := { L with
    relayIntents := L.relayIntents.updateWhere (fun r => decide (r.id = intent.id))
      (fun r => { r with
        status := .filled
        fillTxHashes := fills
        verifiedOriginTxHash := some verifiedOriginTxHash
        relayStatus := some relayStatus
        nextCheckAt := none
        resolvedAt := some now })
      (RelayIntent.id_attributeFill now fills verifiedOriginTxHash relayStatus) }
  match (L.invoices.find? intent.invoiceId).bind (·.binding) with
  | none => filled
  | some binding => { filled with
      observations := filled.observations.updateWhere (fillMade intent binding fills)
        (fun o => { o with relayIntentId := some intent.id, relayParkedAt := none }) }

/-- The ledger in which `resolve_failed` looks for parked transfers. -/
def closeIntent (L : Ledger) (now : Time) (intent : RelayIntent) (failure : RelayFailure)
    (relayStatus : String) : Ledger :=
  { L with
    relayIntents := L.relayIntents.updateWhere (fun r => decide (r.id = intent.id))
      (fun r => { r with
        status := failure.status
        relayStatus := some relayStatus
        nextCheckAt := none
        resolvedAt := some now })
      (RelayIntent.id_closeIntent now failure relayStatus) }

/-- The statement of `unpark_unless_pending`. -/
def unparkWrites (L : Ledger) (invoiceId : InvoiceId) (row : Invoice) : List Write :=
  if row.id ≠ invoiceId ∨
      L.relayIntents.rows.any (fun r => decide (r.invoiceId = invoiceId ∧ r.status = .sent)) then []
  else match ((L.observations.rows.filter (fun o =>
      decide (o.invoiceId = invoiceId) && o.relayParkedAt.isSome)).map
        (·.observation.blockTimestamp)).min? with
    | none => []
    | some earliest => [.unpark earliest]

/-- The statements of a range: the write-back of the request's credit, and the expiry. -/
def rangeWrites (L : Ledger) (now : Time) (range : FinalizedRange) (row : Invoice) : List Write :=
  if L.cursor range.chainId ≠ range.expectedCursor then []
  else match recordObservations range.chainId now range.observations
      (loadCredits L range, L.observations) with
    | .error _ => []
    | .ok (credits, _) =>
      let credited := (credits.rows.filter (fun c => c.writesTo row)).map Write.credit
      credited ++ if expires range.chainId range.endBlockTimestamp (row.writeAll now credited) then
        [.expire range.endBlockTimestamp] else []

/-- The statement of `flag_attention`. -/
def flagWrites (row : Invoice) (reason : String) : List Write :=
  if row.attentionReason.isNone then [.flag reason] else []

/-- The statements one item's decision makes. -/
def decisionWrites (L : Ledger) (row : Invoice) (receipt : FinalizedSweep) :
    ItemDecision → List Write
  | .drained drain =>
    let own := (L.observationsOf row.id).map (drainObservation row receipt drain)
    .drain receipt drain (uncollectedIn own) (creditedIn own) ::
      (match drain.attention with
        | none => []
        | some reason => flagWrites row reason)
  | .retry => [.requeue]
  | .attention reason => .requeue :: flagWrites row reason

/-- The statements of a finalized receipt. -/
def receiptWrites (L : Ledger) (now : Time) (policy : SweepPolicy) (receipt : FinalizedSweep)
    (row : Invoice) : List Write :=
  match (applySweepFinalized L now receipt policy).2,
      receipt.items.find? (fun item => item.invoiceId = row.id) with
  | .ok _, some item =>
    if row.sweepJobId = some receipt.jobId then
      decisionWrites L row receipt (decideItem row receipt item.outcome policy)
    else []
  | _, _ => []

/-- The statement of a job closed without effect. -/
def closeWrites (L : Ledger) (jobId : JobId) (row : Invoice) : List Write :=
  if row.sweepJobId = some jobId ∧ L.jobOpen jobId then [.requeue] else []

/-- The statements of a transaction that hit the row, in order. -/
def Ledger.writes (L : Ledger) (now : Time) (row : Invoice) : Op → List Write
  | .bindPayerWallet nowSecs id wallet binding =>
    if id = row.id then
      bindWrites L row (walletBindable nowSecs) { binding with payerWallet := some wallet }
    else []
  | .bindNetwork id binding =>
    if id = row.id then bindWrites L row networkBindable { binding with payerWallet := none }
    else []
  | .expireUnbound chainTime =>
    if row.binding = none ∧ row.status = .created ∧ row.expirationTimestamp < chainTime then
      [.expire chainTime]
    else []
  | .completeVerification id verifiedAt =>
    if row.id = id ∧ row.verifiable verifiedAt then [.verify verifiedAt] else []
  | .requestCancellation id =>
    if row.id = id ∧ row.cancellationRequestedAt.isNone then [.cancel] else []
  | .resolveFilled id fills verifiedOriginTxHash relayStatus =>
    match (L.relayIntents.find? id).filter (·.status.isPending) with
    | none => []
    | some intent =>
      if fills.isEmpty || L.relayIntents.rows.any (fun r =>
          decide (r.id ≠ id ∧ r.originChainId = intent.originChainId ∧
            r.verifiedOriginTxHash = some verifiedOriginTxHash)) then []
      else unparkWrites (attributeFill L now intent fills verifiedOriginTxHash relayStatus)
        intent.invoiceId row
  | .resolveFailed id failure relayStatus =>
    match (L.relayIntents.find? id).filter (·.status.isPending) with
    | none => []
    | some intent =>
      unparkWrites (closeIntent L now intent failure relayStatus) intent.invoiceId row
  | .applyFinalizedRange range => rangeWrites L now range row
  | .scheduleSweepJob policy chainId jobId correlationId scan =>
    match scheduleSweepJob L now policy chainId jobId correlationId scan with
    | .ok (_, some job) => if row.id ∈ job.invoiceIds then [.claim jobId] else []
    | _ => []
  | .flagAttention id reason => if row.id = id then flagWrites row reason else []
  | .releaseAttention id =>
    if row.id = id ∧ row.attentionReason.isSome ∧ row.sweepJobId.isNone then [.release] else []
  | .deliver policy (.sweepFinalized receipt) => receiptWrites L now policy receipt row
  | .deliver _ (.sweepAbandoned jobId _) => closeWrites L jobId row
  | .deliver _ (.executionRejected jobId _) => closeWrites L jobId row
  | _ => []

/-! ### They account for everything -/

/-- A transaction writes a row by the listed statements, each of which finds what it checks. -/
structure WrittenBy (L' : Ledger) (now : Time) (id : InvoiceId) (row : Invoice) (ws : List Write) :
    Prop where
  found : L'.invoices.find? id = some (row.writeAll now ws)
  allowed : WritesAllowed now row ws

section

variable {L L' : Ledger} {now : Time} {id : InvoiceId} {row : Invoice}

lemma WrittenBy.same (hrow : L.invoices.find? id = some row)
    (h : L'.invoices = L.invoices) : WrittenBy L' now id row [] :=
  ⟨by rw [h]; exact hrow, trivial⟩

/-- One `UPDATE … WHERE` of the table, on one row. -/
lemma WrittenBy.update (p : Invoice → Bool) (w : Write) (hrow : L.invoices.find? id = some row)
    (h : L'.invoices.rows = L.invoices.rows.map (fun r => if p r then w.apply now r else r))
    (hallowed : p row = true → w.Allowed row) :
    WrittenBy L' now id row (if p row then [w] else []) := by
  have hfind : L'.invoices.find? id = some (if p row then w.apply now row else row) := by
    refine (Table.find?_of_rows_map h (fun r => ?_) id).trans ?_
    · split
      · exact w.apply_id now r
      · rfl
    · rw [hrow, Option.map_some]
  split
  · rename_i hp
    rw [if_pos hp] at hfind
    exact ⟨hfind, hallowed hp, trivial⟩
  · rename_i hp
    rw [if_neg hp] at hfind
    exact ⟨hfind, trivial⟩

/-- Statements after statements. -/
lemma WrittenBy.append {L₁ : Ledger} {ws ws' : List Write} (h : WrittenBy L₁ now id row ws)
    (h' : WrittenBy L' now id (row.writeAll now ws) ws') : WrittenBy L' now id row (ws ++ ws') :=
  ⟨by rw [Invoice.writeAll_append]; exact h'.found, writesAllowed_append.2 ⟨h.allowed, h'.allowed⟩⟩

lemma writeBinding_writes {id' : InvoiceId} {bindable : Invoice → Bool} {binding : Binding}
    (hbindable : ∀ row, bindable row → row.binding = none ∧ row.status = .created)
    (hrow : L.invoices.find? id = some row) :
    WrittenBy (writeBinding L now id' bindable binding) now id row
      (if id' = row.id then bindWrites L row bindable binding else []) := by
  by_cases htaken : L.addressTaken binding
  · have hsame : writeBinding L now id' bindable binding = L := by
      rw [writeBinding, if_pos htaken]
    have hnone : (if id' = row.id then bindWrites L row bindable binding else []) = [] := by
      simp [bindWrites, htaken]
    rw [hsame, hnone]
    exact WrittenBy.same hrow rfl
  · have hwrites : (if id' = row.id then bindWrites L row bindable binding else []) =
        if decide (row.id = id') && bindable row then [.bind binding] else [] := by
      by_cases hid : row.id = id'
      · simp [bindWrites, htaken, hid]
      · simp [hid, Ne.symm hid]
    rw [hwrites]
    refine WrittenBy.update (fun row => decide (row.id = id') && bindable row) (.bind binding) hrow
      ?_ (fun hp => ?_)
    · rw [writeBinding, if_neg htaken]
      rfl
    · rw [Bool.and_eq_true] at hp
      exact hbindable row hp.2

lemma flagAttentionIn_writes (id' : InvoiceId) (reason : String)
    (hrow : L.invoices.find? id = some row) :
    WrittenBy (flagAttentionIn L now id' reason) now id row
      (if row.id = id' then flagWrites row reason else []) := by
  have hid : row.id = id := Table.key_of_find? hrow
  have hwrites : (if row.id = id' then flagWrites row reason else []) =
      if decide (row.id = id') && row.attentionReason.isNone then [.flag reason] else [] := by
    by_cases h : row.id = id' <;> simp [flagWrites, h]
  rw [hwrites]
  unfold flagAttentionIn
  split
  · rename_i hnone
    -- no row is unflagged under this id, so this one is not written
    have hno : (decide (row.id = id') && row.attentionReason.isNone) = false := by
      rw [Bool.and_eq_false_iff, decide_eq_false_iff_not]
      by_contra hboth
      rw [not_or, not_not] at hboth
      rw [← hboth.1, hid, hrow, Option.filter_eq_none_iff] at hnone
      exact hnone row rfl (by simpa using hboth.2)
    rw [hno]
    exact WrittenBy.same hrow rfl
  · refine WrittenBy.update (fun row => decide (row.id = id') && row.attentionReason.isNone)
      (.flag reason) hrow rfl (fun hp => ?_)
    rw [Bool.and_eq_true, Option.isNone_iff_eq_none] at hp
    exact hp.2

lemma unparkUnlessPending_writes (invoiceId : InvoiceId) (hrow : L.invoices.find? id = some row) :
    WrittenBy (unparkUnlessPending L now invoiceId) now id row (unparkWrites L invoiceId row) := by
  by_cases hsent : L.relayIntents.rows.any (fun r => decide (r.invoiceId = invoiceId ∧ r.status = .sent)) = true
  · have hledger : unparkUnlessPending L now invoiceId = L := if_pos hsent
    have hwrites : unparkWrites L invoiceId row = [] := if_pos (Or.inr hsent)
    rw [hledger, hwrites]
    exact WrittenBy.same hrow rfl
  · rcases hmin : ((L.observations.rows.filter (fun o => decide (o.invoiceId = invoiceId) &&
      o.relayParkedAt.isSome)).map (·.observation.blockTimestamp)).min? with _ | earliest
    · have hledger : unparkUnlessPending L now invoiceId = L := by
        rw [unparkUnlessPending, if_neg hsent]
        dsimp only
        rw [hmin]
      have hwrites : unparkWrites L invoiceId row = [] := by
        rw [unparkWrites, hmin]
        exact ite_self _
      rw [hledger, hwrites]
      exact WrittenBy.same hrow rfl
    · have hwrites : unparkWrites L invoiceId row =
          if decide (row.id = invoiceId) then [Write.unpark earliest] else [] := by
        rw [unparkWrites, hmin]
        by_cases hid : row.id = invoiceId
        · rw [if_neg (fun hc => hc.elim (fun hne => hne hid) hsent), if_pos (by simpa using hid)]
        · rw [if_pos (Or.inl hid), if_neg (by simpa using hid)]
      rw [unparkUnlessPending, if_neg hsent, hwrites]
      dsimp only
      rw [hmin]
      exact WrittenBy.update (fun row => decide (row.id = invoiceId)) (.unpark earliest) hrow rfl
        (fun _ => trivial)

lemma resolveFilled_writes (intentId : IntentId) (fills : List Hash) (origin : Hash)
    (relayStatus : String) (hrow : L.invoices.find? id = some row) :
    WrittenBy (resolveFilled L now intentId fills origin relayStatus) now id row
      (L.writes now row (.resolveFilled intentId fills origin relayStatus)) := by
  rcases hintent : (L.relayIntents.find? intentId).filter (·.status.isPending) with _ | intent
  · simp only [resolveFilled, Ledger.writes, hintent]
    exact WrittenBy.same hrow rfl
  · have hid : intent.id = intentId := Table.key_of_find? (Option.filter_eq_some_iff.1 hintent).1
    subst hid
    have hfound : (attributeFill L now intent fills origin relayStatus).invoices.find? id =
        some row := by
      unfold attributeFill
      simp only
      split <;> exact hrow
    have hunpark : WrittenBy (unparkUnlessPending (attributeFill L now intent fills origin
        relayStatus) now intent.invoiceId) now id row _ :=
      unparkUnlessPending_writes intent.invoiceId hfound
    simp only [resolveFilled, Ledger.writes, hintent]
    split
    · exact WrittenBy.same hrow rfl
    · exact hunpark

lemma resolveFailed_writes (intentId : IntentId) (failure : RelayFailure) (relayStatus : String)
    (hrow : L.invoices.find? id = some row) :
    WrittenBy (resolveFailed L now intentId failure relayStatus) now id row
      (L.writes now row (.resolveFailed intentId failure relayStatus)) := by
  rcases hintent : (L.relayIntents.find? intentId).filter (·.status.isPending) with _ | intent
  · simp only [resolveFailed, Ledger.writes, hintent]
    exact WrittenBy.same hrow rfl
  · have hid : intent.id = intentId := Table.key_of_find? (Option.filter_eq_some_iff.1 hintent).1
    subst hid
    simp only [resolveFailed, Ledger.writes, hintent]
    exact unparkUnlessPending_writes intent.invoiceId hrow

/-- Among credits of distinct requests, at most one writes to the row. -/
lemma writeCredits_writes {credits : Credits} (hd : credits.Distinct)
    (hrow : L.invoices.find? id = some row) :
    WrittenBy { L with invoices := writeCredits now credits.rows L.invoices } now id row
      ((credits.rows.filter (fun c => c.writesTo row)).map Write.credit) := by
  have hid : row.id = id := Table.key_of_find? hrow
  obtain ⟨hnone, hone⟩ := writeCredits_find? now credits.rows hrow
  have hwrites : ∀ c : InvoiceCredit, c.writesTo row = true → c.id = id := by
    intro c hc
    simp only [InvoiceCredit.writesTo, Bool.and_eq_true, decide_eq_true_eq] at hc
    exact hc.1.2.symm.trans hid
  by_cases hex : ∃ c ∈ credits.rows, c.writesTo row = true
  · obtain ⟨c, hc, hw⟩ := hex
    have honly : credits.rows.filter (fun c => c.writesTo row) = [c] := by
      refine Table.filter_eq_singleton hc hw (fun d hdm hdw => ?_)
      exact hd _ _ d c (Table.find?_of_mem hdm) (Table.find?_of_mem hc)
        ((hwrites d hdw).trans (hwrites c hw).symm)
    have hfound := hone c hc (hwrites c hw) hd.nodup_ids
    rw [if_pos hw] at hfound
    rw [honly]
    exact ⟨hfound, hw, trivial⟩
  · have hempty : credits.rows.filter (fun c => c.writesTo row) = [] := by
      rw [List.filter_eq_nil_iff]
      exact fun c hc hw => hex ⟨c, hc, hw⟩
    rw [hempty]
    refine ⟨?_, trivial⟩
    by_cases hin : ∃ c ∈ credits.rows, c.id = id
    · obtain ⟨c, hc, hcid⟩ := hin
      have hfound := hone c hc hcid hd.nodup_ids
      rw [if_neg (fun hw => hex ⟨c, hc, hw⟩)] at hfound
      exact hfound
    · exact hnone (fun c hc hcid => hin ⟨c, hc, hcid⟩)

lemma applyFinalizedRange_writes (range : FinalizedRange) (hrow : L.invoices.find? id = some row) :
    WrittenBy (step L now (.applyFinalizedRange range)) now id row (rangeWrites L now range row) := by
  simp only [step, rangeWrites]
  by_cases hcursor : L.cursor range.chainId = range.expectedCursor
  · rw [applyFinalizedRange, if_neg (not_not.2 hcursor), if_neg (not_not.2 hcursor), recordRange]
    rcases hloop : recordObservations range.chainId now range.observations
        (loadCredits L range, L.observations) with e | ⟨credits, observations⟩
    · exact WrittenBy.same hrow rfl
    · have hd : credits.Distinct := recordObservations_distinct hloop (loadCredits_distinct L range)
      refine (writeCredits_writes hd hrow).append ?_
      refine WrittenBy.update (expires range.chainId range.endBlockTimestamp)
        (.expire range.endBlockTimestamp) (writeCredits_writes hd hrow).found rfl (fun hp => ?_)
      simp only [expires, Bool.and_eq_true] at hp
      exact hp.1.2
  · rw [if_pos hcursor]
    rcases happly : applyFinalizedRange L now range with e | ⟨L', result⟩
    · exact WrittenBy.same hrow rfl
    · rcases applyFinalizedRange_cases happly with ⟨rfl, -⟩ | ⟨hsame, -⟩
      · exact WrittenBy.same hrow rfl
      · exact absurd hsame hcursor

lemma scheduleSweepJob_writes (policy : SweepPolicy) (chainId : ChainId) (jobId : JobId)
    (correlationId : ℕ) (scan : SweepScan) (hrow : L.invoices.find? id = some row) :
    WrittenBy (step L now (.scheduleSweepJob policy chainId jobId correlationId scan)) now id row
      (L.writes now row (.scheduleSweepJob policy chainId jobId correlationId scan)) := by
  simp only [step, Ledger.writes]
  rcases hsched : scheduleSweepJob L now policy chainId jobId correlationId scan with
    e | ⟨L', result⟩
  · exact WrittenBy.same hrow rfl
  · rcases scheduleSweepJob_cases hsched with ⟨rfl, rfl⟩ | ⟨rows, items, rfl, h⟩
    · exact WrittenBy.same hrow rfl
    · have hwrites : (if row.id ∈ rows.map (·.id) then [Write.claim jobId] else []) =
          if (rows.map (·.id)).contains row.id then [Write.claim jobId] else [] := by
        by_cases hin : row.id ∈ rows.map (·.id)
        · rw [if_pos hin, if_pos (by simpa using hin)]
        · rw [if_neg hin, if_neg (by simpa using hin)]
      simp only
      rw [hwrites]
      refine WrittenBy.update (fun row => (rows.map (·.id)).contains row.id) (.claim jobId) hrow
        h.invoices (fun hp => ?_)
      obtain ⟨row', hrow', hid'⟩ := List.mem_map.1 (List.contains_iff_mem.1 hp)
      obtain ⟨hrows, -, helig, -⟩ := mem_candidates h.candidates_eq hrow'
      obtain rfl : row' = row := L.invoices.eq_of_key_eq hrows (Table.mem_of_find? hrow) hid'
      simp only [eligible, Bool.and_eq_true, Option.isNone_iff_eq_none] at helig
      exact ⟨helig.1.1.2, helig.1.2⟩

lemma deliver_close_writes {policy : SweepPolicy} {event : ExecutionEvent} {jobId : JobId}
    {resolution : JobResolution} {txHash : Option Hash}
    (h : handle L now policy event = ((closeWithoutEffect L now jobId resolution txHash).1,
      sweepOutcome (closeWithoutEffect L now jobId resolution txHash).2))
    (hrow : L.invoices.find? id = some row) :
    WrittenBy (handleOne L now policy event) now id row (closeWrites L jobId row) := by
  unfold closeWrites
  rcases handleOne_close L now policy event h with ⟨hclosed, hsame⟩ | hclose
  · rw [hsame, if_neg (by simp [hclosed])]
    exact WrittenBy.same hrow rfl
  · have hwrites : (if row.sweepJobId = some jobId ∧ L.jobOpen jobId = true then [Write.requeue]
        else []) = if decide (row.sweepJobId = some jobId) then [Write.requeue] else [] := by
      by_cases hin : row.sweepJobId = some jobId <;> simp [hin, hclose.job_open]
    rw [hwrites]
    refine WrittenBy.update (fun row => decide (row.sweepJobId = some jobId)) .requeue hrow
      hclose.invoices (fun hp => ?_)
    rw [decide_eq_true_eq] at hp
    simp [Write.Allowed, hp]

lemma decisionWrites_sweepJobId (receipt : FinalizedSweep) (decision : ItemDecision) :
    (row.writeAll now (decisionWrites L row receipt decision)).sweepJobId = none := by
  have hflag : ∀ (row' : Invoice) (reason : String), row'.sweepJobId = none →
      (row'.writeAll now (flagWrites row reason)).sweepJobId = none := by
    intro row' reason hnone
    unfold flagWrites
    split <;> exact hnone
  rcases decision with drain | _ | reason
  · simp only [decisionWrites, Invoice.writeAll_cons]
    split
    · rfl
    · exact hflag _ _ rfl
  · rfl
  · exact hflag _ _ rfl

/-- Flagging the row after statements that left its attention alone. -/
lemma WrittenBy.flag {L₁ : Ledger} {ws : List Write} (h : WrittenBy L₁ now row.id row ws)
    (hsame : (row.writeAll now ws).attentionReason = row.attentionReason) (reason : String) :
    WrittenBy (flagAttentionIn L₁ now row.id reason) now row.id row (ws ++ flagWrites row reason) := by
  have hflag : WrittenBy (flagAttentionIn L₁ now row.id reason) now row.id (row.writeAll now ws) _ :=
    flagAttentionIn_writes row.id reason h.found
  rw [if_pos (Table.key_of_find? h.found), flagWrites, hsame] at hflag
  exact h.append hflag

lemma applyDecision_writes {receipt : FinalizedSweep} (decision : ItemDecision)
    (hrow : L.invoices.find? row.id = some row) (hjob : row.sweepJobId = some receipt.jobId) :
    WrittenBy (applyDecision L now row receipt decision) now row.id row
      (decisionWrites L row receipt decision) := by
  have hrequeue : WrittenBy (requeue L now row.id) now row.id row [.requeue] := by
    have hwrite : WrittenBy (requeue L now row.id) now row.id row
        (if decide (row.id = row.id) then [.requeue] else []) :=
      WrittenBy.update (fun r => decide (r.id = row.id)) .requeue hrow rfl
        (fun _ => by simp [Write.Allowed, hjob])
    simpa using hwrite
  rcases decision with drain | _ | reason
  · have hdrain : WrittenBy (writeDrain L now row receipt drain) now row.id row
        [.drain receipt drain
          (uncollectedIn ((L.observationsOf row.id).map (drainObservation row receipt drain)))
          (creditedIn ((L.observationsOf row.id).map (drainObservation row receipt drain)))] := by
      have hfind : (writeDrain L now row receipt drain).invoices.find? row.id = some _ :=
        writeDrain_find? hrow
      rw [if_pos rfl, writeDrain_observationsOf_self] at hfind
      exact ⟨hfind, hjob, trivial⟩
    simp only [applyDecision, applyDrain, decisionWrites]
    rcases drain.attention with _ | reason
    · exact hdrain
    · exact hdrain.flag rfl reason
  · exact hrequeue
  · exact hrequeue.flag rfl reason

/-- A decision leaves the rows and the observations of other requests. -/
lemma applyDecision_other {receipt : FinalizedSweep} (decision : ItemDecision) {row' : Invoice}
    (hrow : L.invoices.find? id = some row) (hne : row.id ≠ row'.id) :
    (applyDecision L now row' receipt decision).invoices.find? id = some row ∧
      (applyDecision L now row' receipt decision).observationsOf id = L.observationsOf id := by
  have hid : row.id = id := Table.key_of_find? hrow
  have hflag : ∀ (L₁ : Ledger) (reason : String), L₁.invoices.find? id = some row →
      (flagAttentionIn L₁ now row'.id reason).invoices.find? id = some row ∧
        (flagAttentionIn L₁ now row'.id reason).observationsOf id = L₁.observationsOf id := by
    intro L₁ reason hfound
    have hwrites : WrittenBy (flagAttentionIn L₁ now row'.id reason) now id row _ :=
      flagAttentionIn_writes row'.id reason hfound
    rw [if_neg hne] at hwrites
    refine ⟨hwrites.found, ?_⟩
    unfold flagAttentionIn
    split <;> rfl
  have hrequeue : (requeue L now row'.id).invoices.find? id = some row := by
    refine (Table.find?_of_rows_map rfl (fun r => ?_) id).trans ?_
    · split <;> rfl
    · rw [hrow, Option.map_some, if_neg (by simpa using hne)]
  rcases decision with drain | _ | reason
  · have hdrain : (writeDrain L now row' receipt drain).invoices.find? id = some row := by
      rw [writeDrain_find? hrow, if_neg hne]
    have hobs : (writeDrain L now row' receipt drain).observationsOf id = L.observationsOf id :=
      writeDrain_observationsOf_other (hid ▸ hne)
    simp only [applyDecision, applyDrain]
    split
    · exact ⟨hdrain, hobs⟩
    · obtain ⟨hfound, hkept⟩ := hflag _ _ hdrain
      exact ⟨hfound, hkept.trans hobs⟩
  · exact ⟨hrequeue, rfl⟩
  · exact hflag _ reason hrequeue

/-- The statements of a decision read the request's own observations only. -/
lemma decisionWrites_congr {L₁ : Ledger} (h : L₁.observationsOf row.id = L.observationsOf row.id)
    (receipt : FinalizedSweep) (decision : ItemDecision) :
    decisionWrites L₁ row receipt decision = decisionWrites L row receipt decision := by
  rcases decision with drain | _ | reason
  · simp only [decisionWrites, h]
  · rfl
  · rfl

/-- A loop that ends without an error writes a request at most once, and only while the request
is a member of the job. -/
lemma applyItems_writes {receipt : FinalizedSweep} {policy : SweepPolicy}
    {items : List SweepItemResult} {applied applied' : AppliedSweep}
    (h : applyItems now receipt policy items applied L = (L', .ok applied'))
    (hrow : L.invoices.find? id = some row) :
    (L'.invoices.find? id = some row ∧ items.find? (fun item => item.invoiceId = id) = none) ∨
      ∃ item, items.find? (fun item => item.invoiceId = id) = some item ∧
        row.sweepJobId = some receipt.jobId ∧
        WrittenBy L' now id row
          (decisionWrites L row receipt (decideItem row receipt item.outcome policy)) := by
  have hid : row.id = id := Table.key_of_find? hrow
  induction items generalizing applied L row with
  | nil =>
    obtain rfl := (Prod.mk.inj h).1
    exact Or.inl ⟨hrow, rfl⟩
  | cons item rest ih =>
    unfold applyItems at h
    split at h
    · cases (Prod.mk.inj h).2
    · rename_i row' hmember
      obtain ⟨hrow', hjob⟩ := Option.filter_eq_some_iff.1 hmember
      have hid' : row'.id = item.invoiceId := Table.key_of_find? hrow'
      by_cases hi : item.invoiceId = id
      · right
        rw [hi, hrow] at hrow'
        obtain rfl := Option.some.inj hrow'
        have hmem : row.sweepJobId = some receipt.jobId := of_decide_eq_true hjob
        have hwritten : WrittenBy (applyDecision L now row receipt
            (decideItem row receipt item.outcome policy)) now row.id row _ :=
          applyDecision_writes (decideItem row receipt item.outcome policy) (hid ▸ hrow) hmem
        rw [hid] at hwritten
        refine ⟨item, by simp [hi], hmem, ?_⟩
        -- the request left the job, so no later item is about it
        rcases ih h hwritten.found (Table.key_of_find? hwritten.found) with
          ⟨hsame, -⟩ | ⟨_, _, habsurd, _⟩
        · exact ⟨hsame, hwritten.allowed⟩
        · rw [decisionWrites_sweepJobId] at habsurd
          cases habsurd
      · have hne : row.id ≠ row'.id := by
          rw [hid, hid']
          exact Ne.symm hi
        obtain ⟨hfound, hobs⟩ : (applyDecision L now row' receipt
              (decideItem row' receipt item.outcome policy)).invoices.find? id = some row ∧
            (applyDecision L now row' receipt
              (decideItem row' receipt item.outcome policy)).observationsOf id =
                L.observationsOf id :=
          applyDecision_other _ hrow hne
        have hskip : (item :: rest).find? (fun item => item.invoiceId = id) =
            rest.find? (fun item => item.invoiceId = id) := by
          rw [List.find?_cons_of_neg (by simpa using hi)]
        rw [hskip]
        rcases ih h hfound hid with hsame | ⟨item', hitem, hmem, hwritten⟩
        · exact Or.inl hsame
        · refine Or.inr ⟨item', hitem, hmem, ?_⟩
          rw [decisionWrites_congr] at hwritten
          · exact hwritten
          · rw [hid]
            exact hobs

lemma deliver_sweepFinalized_writes (policy : SweepPolicy) (receipt : FinalizedSweep)
    (hrow : L.invoices.find? id = some row) :
    WrittenBy (handleOne L now policy (.sweepFinalized receipt)) now id row
      (receiptWrites L now policy receipt row) := by
  have hid : row.id = id := Table.key_of_find? hrow
  unfold receiptWrites
  rw [hid]
  rcases handleOne_sweepFinalized L now policy receipt with ⟨hsame, e, he⟩ | ⟨applied, L₁, hok, h⟩
  · rw [hsame, he]
    exact WrittenBy.same hrow rfl
  · have hinvoices : (handleOne L now policy (.sweepFinalized receipt)).invoices = L₁.invoices := by
      rw [h.frame]
    rw [hok]
    rcases applyItems_writes h.items hrow with ⟨hsame, hnone⟩ | ⟨item, hitem, hmem, hwritten⟩
    · rw [hnone]
      exact ⟨by rw [hinvoices]; exact hsame, trivial⟩
    · rw [hitem]
      simp only [if_pos hmem]
      exact ⟨by rw [hinvoices]; exact hwritten.found, hwritten.allowed⟩

lemma insertIssued_writes (input : IssuedRequest) (hrow : L.invoices.find? id = some row) :
    WrittenBy (insertIssued L now input) now id row [] := by
  unfold insertIssued
  split
  · exact WrittenBy.same hrow rfl
  · split
    · exact WrittenBy.same hrow rfl
    · rename_i invoices hins
      have hne : id ≠ (input.row now).id := by
        rintro rfl
        exact (Table.insert?_eq_some_iff.1 hins).1 (List.mem_map.2
          ⟨row, Table.mem_of_find? hrow, Table.key_of_find? hrow⟩)
      refine ⟨?_, trivial⟩
      exact ((Table.find?_of_insert? hins id).trans (if_neg hne)).trans hrow

/-- The listed statements are all a transaction does to a row. -/
theorem find?_step (now : Time) (op : Op) (hrow : L.invoices.find? id = some row) :
    WrittenBy (step L now op) now id row (L.writes now row op) := by
  cases op with
  | insertIssued input => exact insertIssued_writes input hrow
  | bindPayerWallet nowSecs id' wallet binding =>
    refine writeBinding_writes (fun row h => ?_) hrow
    simp only [walletBindable, Bool.and_eq_true, decide_eq_true_eq, Option.isNone_iff_eq_none] at h
    exact ⟨h.1.1.1, h.1.1.2⟩
  | bindNetwork id' binding =>
    refine writeBinding_writes (fun row h => ?_) hrow
    simp only [networkBindable, Bool.and_eq_true, decide_eq_true_eq, Option.isNone_iff_eq_none] at h
    exact ⟨h.1.1, h.1.2⟩
  | expireUnbound chainTime =>
    have hwrites : L.writes now row (.expireUnbound chainTime) =
        if row.binding.isNone && decide (row.status = .created) &&
          decide (row.expirationTimestamp < chainTime) then [.expire chainTime] else [] := by
      simp only [Ledger.writes, Bool.and_eq_true, decide_eq_true_eq, Option.isNone_iff_eq_none,
        and_assoc]
    rw [hwrites]
    refine WrittenBy.update (fun row => row.binding.isNone && decide (row.status = .created) &&
      decide (row.expirationTimestamp < chainTime)) (.expire chainTime) hrow rfl (fun hp => ?_)
    simp only [Bool.and_eq_true, decide_eq_true_eq] at hp
    simp [Write.Allowed, hp.1.2, InvoiceStatus.isOpen]
  | completeVerification id' verifiedAt =>
    have hwrites : L.writes now row (.completeVerification id' verifiedAt) =
        if decide (row.id = id') && row.verifiable verifiedAt then [.verify verifiedAt] else [] := by
      simp only [Ledger.writes, Bool.and_eq_true, decide_eq_true_eq]
    rw [hwrites]
    refine WrittenBy.update (fun row => decide (row.id = id') && row.verifiable verifiedAt)
      (.verify verifiedAt) hrow rfl (fun hp => ?_)
    simp only [Invoice.verifiable, Bool.and_eq_true, Option.isNone_iff_eq_none] at hp
    exact hp.2.1
  | requestCancellation id' =>
    have hwrites : L.writes now row (.requestCancellation id') =
        if decide (row.id = id') && row.cancellationRequestedAt.isNone then [.cancel] else [] := by
      simp only [Ledger.writes, Bool.and_eq_true, decide_eq_true_eq]
    rw [hwrites]
    refine WrittenBy.update (fun row => decide (row.id = id') && row.cancellationRequestedAt.isNone)
      .cancel hrow rfl (fun hp => ?_)
    rw [Bool.and_eq_true, Option.isNone_iff_eq_none] at hp
    exact hp.2
  | raiseFault faultId chainId reason block =>
    refine WrittenBy.same hrow ?_
    simp only [step, raiseFault]
    split <;> rfl
  | clearFault chainId => exact WrittenBy.same hrow rfl
  | insertRelayIntent intent =>
    refine WrittenBy.same hrow ?_
    simp only [step, insertRelayIntent]
    split <;> rfl
  | markSent id' invoiceId payerWallet originTxHash => exact WrittenBy.same hrow rfl
  | deferRelayIntent id' nextCheckAt relayStatus => exact WrittenBy.same hrow rfl
  | expireQuoted destinationChainId => exact WrittenBy.same hrow rfl
  | resolveFilled id' fills origin relayStatus => exact resolveFilled_writes id' fills origin _ hrow
  | resolveFailed id' failure relayStatus => exact resolveFailed_writes id' failure _ hrow
  | applyFinalizedRange range => exact applyFinalizedRange_writes range hrow
  | scheduleSweepJob policy chainId jobId correlationId scan =>
    exact scheduleSweepJob_writes policy chainId jobId correlationId scan hrow
  | flagAttention id' reason => exact flagAttentionIn_writes id' reason hrow
  | releaseAttention id' =>
    have hwrites : L.writes now row (.releaseAttention id') =
        if decide (row.id = id') && row.attentionReason.isSome && row.sweepJobId.isNone then
          [.release] else [] := by
      simp only [Ledger.writes, Bool.and_eq_true, decide_eq_true_eq, and_assoc]
    rw [hwrites]
    refine WrittenBy.update (fun row => decide (row.id = id') && row.attentionReason.isSome &&
      row.sweepJobId.isNone) .release hrow rfl (fun hp => ?_)
    simp only [Bool.and_eq_true, Option.isNone_iff_eq_none] at hp
    exact ⟨hp.1.2, hp.2⟩
  | deliver policy event =>
    cases event with
    | sweepSubmitted jobId txHash => exact WrittenBy.same hrow rfl
    | sweepFinalized receipt => exact deliver_sweepFinalized_writes policy receipt hrow
    | sweepAbandoned jobId reason => exact deliver_close_writes rfl hrow
    | withdrawalStepFinalized jobId => exact WrittenBy.same hrow rfl
    | executionStalled jobId => exact WrittenBy.same hrow rfl
    | executionRejected jobId reason => exact deliver_close_writes rfl hrow

/-- A row that appears in a transaction was issued by it. -/
lemma find?_step_issued (op : Op) (hnone : L.invoices.find? id = none)
    (hrow : (step L now op).invoices.find? id = some row) :
    ∃ input, op = .insertIssued input ∧ row = input.row now := by
  have hop : ∃ input, op = .insertIssued input := by
    by_contra hno
    have hids := step_ids L now op (fun input h => hno ⟨input, h⟩)
    have hin : id ∈ (step L now op).ids :=
      List.mem_map.2 ⟨row, Table.mem_of_find? hrow, Table.key_of_find? hrow⟩
    rw [hids] at hin
    exact Table.find?_eq_none_iff.1 hnone hin
  obtain ⟨input, rfl⟩ := hop
  refine ⟨input, rfl, ?_⟩
  simp only [step, insertIssued] at hrow
  split at hrow
  · rw [hnone] at hrow
    cases hrow
  · split at hrow
    · rw [hnone] at hrow
      cases hrow
    · rename_i invoices hins
      have hfind := (Table.find?_of_insert? hins id).symm.trans hrow
      split at hfind
      · exact (Option.some.inj hfind).symm
      · rw [hnone] at hfind
        cases hfind

/-- What every allowed statement keeps, every transaction keeps. -/
lemma step_keeps {P : Invoice → Prop} (op : Op)
    (hstep : ∀ (row : Invoice) (w : Write), w.Allowed row → P row → P (w.apply now row))
    (hrow : L.invoices.find? id = some row) (h : P row) :
    ∃ row', (step L now op).invoices.find? id = some row' ∧ P row' :=
  ⟨_, (find?_step now op hrow).found, (find?_step now op hrow).allowed.induction hstep h⟩

end

end Payday
