/-
# Where a request's money came from

The columns of an observation that say who made the transfer: the Relay intent it is
attributed to, and since when it is parked.  With the request's unsolicited flag and the
intents they are written by the range path and by the resolution of an intent only, which is
what `step_sameRelay` says.

The resolution of an intent ends in `unparkUnlessPending`, described here once for every
caller.
-/
import Payday.Ledger.Simulation

namespace Payday

/-- What the Relay workflow reads and writes of an observation. -/
structure Provenance where
  recorded : Recorded
  relayIntentId : Option IntentId
  relayParkedAt : Option Time
deriving DecidableEq

def ObservationRow.provenance (r : ObservationRow) : Provenance :=
  ⟨r.recorded, r.relayIntentId, r.relayParkedAt⟩

/-- The provenance of every observation, in the order they were recorded. -/
def Ledger.provenances (L : Ledger) : List Provenance := L.observations.rows.map (·.provenance)

/-- The unsolicited flag of a request. -/
def Ledger.flag (L : Ledger) (id : InvoiceId) : Option ℕ :=
  (L.invoices.find? id).bind (·.likelyUnsolicitedAt)

/-- The attested wallet of a request. -/
def Ledger.wallet (L : Ledger) (id : InvoiceId) : Option Address :=
  ((L.invoices.find? id).bind (·.binding)).bind (·.payerWallet)

lemma Ledger.wallet_of_binding {L : Ledger} {id : InvoiceId} {row : Invoice} {b : Binding}
    (hrow : L.invoices.find? id = some row) (hb : row.binding = some b) :
    L.wallet id = b.payerWallet := by
  rw [Ledger.wallet, hrow, Option.bind_some, hb, Option.bind_some]

lemma Ledger.mem_provenances {L : Ledger} {p : Provenance} :
    p ∈ L.provenances ↔ ∃ r ∈ L.observations.rows, r.provenance = p := List.mem_map

lemma Ledger.provenance_mem {L : Ledger} {r : ObservationRow} (h : r ∈ L.observations.rows) :
    r.provenance ∈ L.provenances := List.mem_map_of_mem h

/-- An update of the observations, seen from their provenance. -/
lemma Ledger.provenances_of_rows_map {L L' : Ledger} {f : ObservationRow → ObservationRow}
    {g : Provenance → Provenance} (h : L'.observations.rows = L.observations.rows.map f)
    (hf : ∀ r ∈ L.observations.rows, (f r).provenance = g r.provenance) :
    L'.provenances = L.provenances.map g := by
  rw [Ledger.provenances, Ledger.provenances, h, List.map_map, List.map_map]
  exact List.map_congr_left hf

/-- The columns of the Relay workflow are as they were. -/
structure SameRelay (L L' : Ledger) : Prop where
  provenances : L'.provenances = L.provenances
  flag : ∀ id, L'.flag id = L.flag id
  relayIntents : L'.relayIntents = L.relayIntents

namespace SameRelay

variable {L L' : Ledger}

lemma refl (L : Ledger) : SameRelay L L := ⟨rfl, fun _ => rfl, rfl⟩

lemma trans {L₁ L₂ L₃ : Ledger} (h : SameRelay L₁ L₂) (h' : SameRelay L₂ L₃) : SameRelay L₁ L₃ :=
  ⟨h'.provenances.trans h.provenances, fun id => (h'.flag id).trans (h.flag id),
    h'.relayIntents.trans h.relayIntents⟩

/-- Rewriting invoices without touching their flag. -/
lemma flag_of_rows_map {p : Invoice → Bool} {f : Invoice → Invoice}
    (h : L'.invoices.rows = L.invoices.rows.map (fun r => if p r then f r else r))
    (hid : ∀ r, (f r).id = r.id)
    (hflag : ∀ r, (f r).likelyUnsolicitedAt = r.likelyUnsolicitedAt) (id : InvoiceId) :
    L'.flag id = L.flag id := by
  have hfind := Table.find?_of_rows_map h (fun r => by split; exacts [hid r, rfl]) id
  rw [Ledger.flag, Ledger.flag, hfind]
  rcases L.invoices.find? id with _ | row
  · rfl
  · simp only [Option.map_some, Option.bind_some]
    split
    · exact hflag row
    · rfl

/-- An update of invoices that leaves the flag alone. -/
lemma of_invoices {p : Invoice → Bool} {f : Invoice → Invoice}
    (h : L'.invoices.rows = L.invoices.rows.map (fun r => if p r then f r else r))
    (hid : ∀ r, (f r).id = r.id)
    (hflag : ∀ r, (f r).likelyUnsolicitedAt = r.likelyUnsolicitedAt)
    (hobs : L'.observations = L.observations) (hrelay : L'.relayIntents = L.relayIntents) :
    SameRelay L L' :=
  ⟨by rw [Ledger.provenances, hobs, Ledger.provenances], flag_of_rows_map h hid hflag, hrelay⟩

end SameRelay

/-! ### Transactions outside the workflow -/

lemma flagAttentionIn_sameRelay (L : Ledger) (now : Time) (id : InvoiceId) (reason : String) :
    SameRelay L (flagAttentionIn L now id reason) := by
  unfold flagAttentionIn
  split
  · exact SameRelay.refl _
  · exact SameRelay.of_invoices rfl (fun _ => rfl) (fun _ => rfl) rfl rfl

lemma writeBinding_sameRelay (L : Ledger) (now : Time) (id : InvoiceId)
    (bindable : Invoice → Bool) (binding : Binding) :
    SameRelay L (writeBinding L now id bindable binding) := by
  unfold writeBinding
  split
  · exact SameRelay.refl _
  · exact SameRelay.of_invoices rfl (fun _ => rfl) (fun _ => rfl) rfl rfl

lemma insertIssued_sameRelay (L : Ledger) (now : Time) (input : IssuedRequest) :
    SameRelay L (insertIssued L now input) := by
  unfold insertIssued
  split
  · exact SameRelay.refl _
  · split
    · exact SameRelay.refl _
    · rename_i invoices hinsert
      refine ⟨rfl, fun id => ?_, rfl⟩
      simp only [Ledger.flag, Table.find?_of_insert? hinsert]
      split
      · -- a request that was not there had no flag, and is issued without one
        rename_i hid
        have hnone := Table.find?_eq_none_iff.2 (Table.insert?_eq_some_iff.1 hinsert).1
        rw [hid, hnone]
        rfl
      · rfl

lemma drainObservation_provenance (row : Invoice) (receipt : FinalizedSweep) (drain : Drain)
    (r : ObservationRow) : (drainObservation row receipt drain r).provenance = r.provenance := by
  unfold drainObservation ObservationRow.reclassify ObservationRow.collect
  split_ifs <;> rfl

lemma applyDecision_sameRelay (L : Ledger) (now : Time) (row : Invoice) (receipt : FinalizedSweep)
    (decision : ItemDecision) : SameRelay L (applyDecision L now row receipt decision) := by
  have hrequeue : SameRelay L (requeue L now row.id) :=
    SameRelay.of_invoices rfl (fun _ => rfl) (fun _ => rfl) rfl rfl
  rcases decision with drain | _ | reason
  · have hwrite : SameRelay L (writeDrain L now row receipt drain) := by
      refine ⟨?_, SameRelay.flag_of_rows_map rfl (fun _ => rfl) (fun _ => rfl), rfl⟩
      refine (Ledger.provenances_of_rows_map rfl fun r _ => ?_).trans (List.map_id _)
      split
      · exact drainObservation_provenance row receipt drain r
      · rfl
    simp only [applyDecision, applyDrain]
    split
    · exact hwrite
    · exact hwrite.trans (flagAttentionIn_sameRelay _ _ _ _)
  · exact hrequeue
  · exact hrequeue.trans (flagAttentionIn_sameRelay _ _ _ _)

lemma applyItems_sameRelay (now : Time) (receipt : FinalizedSweep) (policy : SweepPolicy)
    (items : List SweepItemResult) (applied : AppliedSweep) (L : Ledger) :
    SameRelay L (applyItems now receipt policy items applied L).1 := by
  induction items generalizing applied L with
  | nil => exact SameRelay.refl _
  | cons item rest ih =>
    unfold applyItems
    split
    · exact SameRelay.refl _
    · rename_i row _
      have hdecision := applyDecision_sameRelay L now row receipt
        (decideItem row receipt item.outcome policy)
      have hfirst : SameRelay L (recordOutcome (applyDecision L now row receipt
          (decideItem row receipt item.outcome policy)) receipt.jobId item) :=
        ⟨hdecision.provenances, hdecision.flag, hdecision.relayIntents⟩
      exact hfirst.trans (ih _ _)

/-- The operations of the Relay workflow. -/
def Op.writesRelay : Op → Bool
  | .insertRelayIntent _ | .markSent .. | .deferRelayIntent .. | .expireQuoted _ => true
  | .resolveFilled .. | .resolveFailed .. | .applyFinalizedRange _ => true
  | _ => false

/-- Every other transaction leaves the columns of the workflow alone. -/
lemma step_sameRelay (L : Ledger) (now : Time) {op : Op} (hop : op.writesRelay = false) :
    SameRelay L (step L now op) := by
  have hside : ∀ {p : Invoice → Bool} {f : Invoice → Invoice} {hid : ∀ r, (f r).id = r.id},
      (∀ r, (f r).likelyUnsolicitedAt = r.likelyUnsolicitedAt) →
      SameRelay L { L with invoices := L.invoices.updateWhere p f hid } :=
    fun {p f hid} hflag => SameRelay.of_invoices rfl hid hflag rfl rfl
  cases op with
  | insertIssued input => exact insertIssued_sameRelay L now input
  | bindPayerWallet nowSecs id wallet binding => exact writeBinding_sameRelay ..
  | bindNetwork id binding => exact writeBinding_sameRelay ..
  | expireUnbound chainTime => exact hside fun _ => rfl
  | completeVerification id verifiedAt => exact hside fun _ => rfl
  | requestCancellation id => exact hside fun _ => rfl
  | raiseFault faultId chainId reason block =>
    simp only [step, raiseFault]
    split <;> exact ⟨rfl, fun _ => rfl, rfl⟩
  | clearFault chainId => exact ⟨rfl, fun _ => rfl, rfl⟩
  | scheduleSweepJob policy chainId jobId correlationId scan =>
    simp only [step]
    rcases hsched : scheduleSweepJob L now policy chainId jobId correlationId scan with
      e | ⟨L', result⟩
    · exact SameRelay.refl _
    · rcases scheduleSweepJob_cases hsched with ⟨rfl, -⟩ | ⟨rows, items, -, hs⟩
      · exact SameRelay.refl _
      · refine SameRelay.of_invoices hs.invoices (fun _ => rfl) (fun _ => rfl) ?_ ?_
        · rw [hs.frame]
        · rw [hs.frame]
  | flagAttention id reason => exact flagAttentionIn_sameRelay ..
  | releaseAttention id => exact hside fun _ => rfl
  | deliver policy event =>
    cases event with
    | sweepFinalized receipt =>
      rcases handleOne_sweepFinalized L now policy receipt with ⟨hkept, -⟩ | ⟨applied, L₁, -, hf⟩
      · simp only [step, hkept]
        exact SameRelay.refl _
      · simp only [step]
        have hitems := applyItems_sameRelay now receipt policy receipt.items {} L
        rw [hf.items] at hitems
        rw [hf.frame]
        exact hitems.trans ⟨rfl, fun _ => rfl, rfl⟩
    | sweepAbandoned jobId reason =>
      rcases handleOne_close L now policy (.sweepAbandoned jobId reason) rfl with ⟨-, hkept⟩ | hc
      · simp only [step, hkept]
        exact SameRelay.refl _
      · refine SameRelay.of_invoices hc.invoices (fun _ => rfl) (fun _ => rfl) ?_ ?_
        · simp only [step]; rw [hc.frame]
        · simp only [step]; rw [hc.frame]
    | executionRejected jobId reason =>
      rcases handleOne_close L now policy (.executionRejected jobId reason) rfl with ⟨-, hkept⟩ | hc
      · simp only [step, hkept]
        exact SameRelay.refl _
      · refine SameRelay.of_invoices hc.invoices (fun _ => rfl) (fun _ => rfl) ?_ ?_
        · simp only [step]; rw [hc.frame]
        · simp only [step]; rw [hc.frame]
    | _ => exact ⟨rfl, fun _ => rfl, rfl⟩
  | _ => cases hop

/-- A range is refused or recorded. -/
lemma step_applyFinalizedRange (L : Ledger) (now : Time) (range : FinalizedRange) :
    step L now (.applyFinalizedRange range) = L ∨
      ∃ applied, recordRange L now range = .ok (step L now (.applyFinalizedRange range), applied) := by
  simp only [step]
  rcases happly : applyFinalizedRange L now range with e | ⟨L', result⟩
  · exact Or.inl rfl
  · rcases applyFinalizedRange_cases happly with ⟨rfl, -⟩ | ⟨-, hrecord, -⟩
    · exact Or.inl rfl
    · exact Or.inr ⟨result, hrecord⟩

/-! ### Handing parked transfers back -/

/-- The transfer of the request, handed back to the ordinary path. -/
def Provenance.unpark (id : InvoiceId) (p : Provenance) : Provenance :=
  if p.recorded.invoiceId = id then { p with relayParkedAt := none } else p

@[simp] lemma Provenance.unpark_recorded (id : InvoiceId) (p : Provenance) :
    (p.unpark id).recorded = p.recorded := by
  unfold Provenance.unpark
  split <;> rfl

lemma Provenance.unpark_of_none {p : Provenance} (h : p.relayParkedAt = none) (id : InvoiceId) :
    p.unpark id = p := by
  unfold Provenance.unpark
  split
  · rw [← h]
  · rfl

lemma Provenance.unpark_of_ne {p : Provenance} {id : InvoiceId} (h : p.recorded.invoiceId ≠ id) :
    p.unpark id = p := if_neg h

/-- The times of the request's parked transfers. -/
def Ledger.parkedTimes (L : Ledger) (id : InvoiceId) : List ℕ :=
  (L.provenances.filter (fun p => decide (p.recorded.invoiceId = id) && p.relayParkedAt.isSome)).map
    (·.recorded.observation.blockTimestamp)

lemma Ledger.mem_parkedTimes {L : Ledger} {id : InvoiceId} {t : ℕ} :
    t ∈ L.parkedTimes id ↔ ∃ p ∈ L.provenances, p.recorded.invoiceId = id ∧
      p.relayParkedAt.isSome = true ∧ p.recorded.observation.blockTimestamp = t := by
  simp [Ledger.parkedTimes, and_assoc]

/-- Every parked transfer of the request was handed back, and the earliest of them flags it
unless it is flagged already. -/
structure Unparked (L L' : Ledger) (id : InvoiceId) : Prop where
  nothing_sent : ∀ r ∈ L.relayIntents.rows, r.invoiceId = id → r.status ≠ .sent
  provenances : L'.provenances = L.provenances.map (Provenance.unpark id)
  flag : ∀ id', L'.flag id' = if id' = id then (L.flag id).or (L.parkedTimes id).min? else L.flag id'
  relayIntents : L'.relayIntents = L.relayIntents

/-- What `unparkUnlessPending` does: nothing while a sent intent is left, else it hands the
parked transfers back. -/
lemma unparkUnlessPending_cases {L : Ledger} (now : Time) {id : InvoiceId}
    (hrow : L.parkedTimes id ≠ [] → ∃ row, L.invoices.find? id = some row) :
    (unparkUnlessPending L now id = L ∧
      ∃ r ∈ L.relayIntents.rows, r.invoiceId = id ∧ r.status = .sent) ∨
    Unparked L (unparkUnlessPending L now id) id := by
  have htimes : ((L.observations.rows.filter (fun o =>
      decide (o.invoiceId = id) && o.relayParkedAt.isSome)).map (·.observation.blockTimestamp)) =
      L.parkedTimes id := by
    rw [Ledger.parkedTimes, Ledger.provenances, List.filter_map, List.map_map]
    rfl
  unfold unparkUnlessPending
  split
  · rename_i hsent
    left
    refine ⟨rfl, ?_⟩
    simpa [List.any_eq_true] using hsent
  · rename_i hsent
    right
    have hnone : ∀ r ∈ L.relayIntents.rows, r.invoiceId = id → r.status ≠ .sent := by
      simpa [List.any_eq_true] using hsent
    simp only [htimes]
    split
    · -- nothing is parked: nothing changes
      rename_i hmin
      have hempty : L.parkedTimes id = [] := List.min?_eq_none_iff.1 hmin
      refine ⟨hnone, ?_, fun id' => ?_, rfl⟩
      · symm
        refine (List.map_congr_left fun p hp => ?_).trans (List.map_id _)
        by_cases hid : p.recorded.invoiceId = id
        · refine Provenance.unpark_of_none ?_ id
          by_contra hsome
          have hmem := Ledger.mem_parkedTimes.2
            ⟨p, hp, hid, Option.isSome_iff_ne_none.2 hsome, rfl⟩
          rw [hempty] at hmem
          cases hmem
        · exact Provenance.unpark_of_ne hid
      · rw [hmin, Option.or_none]
        split
        · rename_i hid
          rw [hid]
        · rfl
    · rename_i earliest hmin
      refine ⟨hnone, ?_, fun id' => ?_, rfl⟩
      · refine Ledger.provenances_of_rows_map rfl fun r _ => ?_
        simp only [Provenance.unpark]
        by_cases hid : r.invoiceId = id
        · rcases hparked : r.relayParkedAt with _ | t
          · simp [hid, hparked, ObservationRow.provenance, ObservationRow.recorded]
          · simp [hid, hparked, ObservationRow.provenance, ObservationRow.recorded]
        · simp [hid, ObservationRow.provenance, ObservationRow.recorded]
      · obtain ⟨row, hfind⟩ := hrow (by
          intro hempty
          rw [hempty] at hmin
          cases hmin)
        simp only [Ledger.flag, Table.find?_updateWhere]
        split
        · rename_i hid
          subst hid
          have hrid : row.id = id' := Table.key_of_find? hfind
          simp [hfind, hrid, hmin]
        · rename_i hid
          rcases hother : L.invoices.find? id' with _ | other
          · rfl
          · have hoid : other.id ≠ id := fun h => hid ((Table.key_of_find? hother).symm.trans h)
            simp [hoid]

/-! ### Resolving an intent -/

/-- The observations the fill of an intent takes, once the request has an address. -/
def Ledger.attributes (L : Ledger) (intent : RelayIntent) (fills : List Hash)
    (o : ObservationRow) : Bool :=
  ((L.invoices.find? intent.invoiceId).bind (·.binding)).any
    (fun binding => fillMade intent binding fills o)

/-- An intent as a fill leaves it. -/
def RelayIntent.fill (now : Time) (fills : List Hash) (verifiedOriginTxHash : Hash)
    (relayStatus : String) (intent : RelayIntent) : RelayIntent :=
  { intent with
    status := .filled
    fillTxHashes := fills
    verifiedOriginTxHash := some verifiedOriginTxHash
    relayStatus := some relayStatus
    nextCheckAt := none
    resolvedAt := some now }

/-- An intent as a failure leaves it. -/
def RelayIntent.fail (now : Time) (failure : RelayFailure) (relayStatus : String)
    (intent : RelayIntent) : RelayIntent :=
  { intent with
    status := failure.status
    relayStatus := some relayStatus
    nextCheckAt := none
    resolvedAt := some now }

/-- The ledger between the attribution of a fill and the unparking of the rest. -/
structure Attributed (L L₁ : Ledger) (now : Time) (intent : RelayIntent) (fills : List Hash)
    (origin : Hash) (relayStatus : String) : Prop where
  found : L.relayIntents.find? intent.id = some intent
  pending : intent.status.isPending = true
  fills_ne_nil : fills ≠ []
  unclaimed : ∀ r ∈ L.relayIntents.rows, r.id ≠ intent.id →
    r.originChainId = intent.originChainId → r.verifiedOriginTxHash ≠ some origin
  relayIntents : L₁.relayIntents.rows = L.relayIntents.rows.map (fun r =>
    if decide (r.id = intent.id) then r.fill now fills origin relayStatus else r)
  observations : L₁.observations.rows = L.observations.rows.map (fun o =>
    if L.attributes intent fills o then
      { o with relayIntentId := some intent.id, relayParkedAt := none }
    else o)
  invoices : L₁.invoices = L.invoices
  indexerCursor : L₁.indexerCursor = L.indexerCursor

/-- A fill is accepted when it names transactions and nobody else claims its origin
transaction. -/
def Ledger.Accepts (L : Ledger) (intent : RelayIntent) (fills : List Hash) (origin : Hash) : Prop :=
  fills ≠ [] ∧ ∀ r ∈ L.relayIntents.rows, r.id ≠ intent.id →
    r.originChainId = intent.originChainId → r.verifiedOriginTxHash ≠ some origin

/-- What a fill of a pending intent does. -/
lemma resolveFilled_pending {L : Ledger} {intent : RelayIntent} (now : Time) (fills : List Hash)
    (origin : Hash) (relayStatus : String)
    (hfound : L.relayIntents.find? intent.id = some intent)
    (hpending : intent.status.isPending = true) :
    (L.Accepts intent fills origin → ∃ L₁, Attributed L L₁ now intent fills origin relayStatus ∧
      resolveFilled L now intent.id fills origin relayStatus =
        unparkUnlessPending L₁ now intent.invoiceId) ∧
    (¬ L.Accepts intent fills origin →
      resolveFilled L now intent.id fills origin relayStatus = L) := by
  have hfilter : (L.relayIntents.find? intent.id).filter (·.status.isPending) = some intent := by
    rw [hfound]
    exact Option.filter_eq_some_iff.2 ⟨rfl, hpending⟩
  have hguard : L.Accepts intent fills origin ↔ (fills.isEmpty || L.relayIntents.rows.any (fun r =>
      decide (r.id ≠ intent.id ∧ r.originChainId = intent.originChainId ∧
        r.verifiedOriginTxHash = some origin))) = false := by
    simp [Ledger.Accepts]
  unfold resolveFilled
  rw [hfilter]
  simp only
  refine ⟨fun haccepts => ?_, fun hrefuses => ?_⟩
  · rw [if_neg (by rw [hguard.1 haccepts]; simp)]
    refine ⟨_, ?_, rfl⟩
    rcases hbinding : (L.invoices.find? intent.invoiceId).bind (·.binding) with _ | binding
    · refine ⟨hfound, hpending, haccepts.1, haccepts.2, rfl, ?_, rfl, rfl⟩
      simp only [Ledger.attributes, hbinding, Option.any_none]
      simp
    · refine ⟨hfound, hpending, haccepts.1, haccepts.2, rfl, ?_, rfl, rfl⟩
      simp only [Ledger.attributes, hbinding, Option.any_some]
      rfl
  · rw [hguard] at hrefuses
    exact if_pos (eq_true_of_ne_false hrefuses)

/-- What `resolveFilled` does: nothing, or it attributes what the fill made and hands the
rest back. -/
lemma resolveFilled_cases (L : Ledger) (now : Time) (id : IntentId) (fills : List Hash)
    (origin : Hash) (relayStatus : String) :
    resolveFilled L now id fills origin relayStatus = L ∨
    ∃ intent L₁, intent.id = id ∧ Attributed L L₁ now intent fills origin relayStatus ∧
      resolveFilled L now id fills origin relayStatus =
        unparkUnlessPending L₁ now intent.invoiceId := by
  rcases hfind : (L.relayIntents.find? id).filter (·.status.isPending) with _ | intent
  · left
    rw [resolveFilled, hfind]
  · obtain ⟨hfound, hpending⟩ := Option.filter_eq_some_iff.1 hfind
    obtain rfl : intent.id = id := Table.key_of_find? hfound
    obtain ⟨haccepted, hrefused⟩ :=
      resolveFilled_pending now fills origin relayStatus hfound hpending
    by_cases haccepts : L.Accepts intent fills origin
    · obtain ⟨L₁, hattr, hstep⟩ := haccepted haccepts
      exact Or.inr ⟨intent, L₁, rfl, hattr, hstep⟩
    · exact Or.inl (hrefused haccepts)

/-- What `resolveFailed` does: nothing, or it ends the intent and hands what it parked back. -/
lemma resolveFailed_cases (L : Ledger) (now : Time) (id : IntentId) (failure : RelayFailure)
    (relayStatus : String) :
    resolveFailed L now id failure relayStatus = L ∨
    ∃ intent L₁, intent.id = id ∧ L.relayIntents.find? id = some intent ∧
      intent.status.isPending = true ∧
      L₁.relayIntents.rows = L.relayIntents.rows.map (fun r =>
        if decide (r.id = id) then r.fail now failure relayStatus else r) ∧
      L₁.observations = L.observations ∧ L₁.invoices = L.invoices ∧
      resolveFailed L now id failure relayStatus =
        unparkUnlessPending L₁ now intent.invoiceId := by
  unfold resolveFailed
  split
  · exact Or.inl rfl
  · rename_i intent hfind
    obtain ⟨hfound, hpending⟩ := Option.filter_eq_some_iff.1 hfind
    right
    refine ⟨intent, _, Table.key_of_find? hfound, hfound, hpending, ?_, ?_, ?_, rfl⟩
    · rfl
    · rfl
    · rfl

/-- The operations that end an intent. -/
def Op.resolvesIntent : Op → Bool
  | .resolveFilled .. | .resolveFailed .. => true
  | _ => false

/-- Unless an intent ends, the provenances and the flags change by a range only. -/
lemma step_provenances (L : Ledger) (now : Time) {op : Op} (hop : op.resolvesIntent = false) :
    ((step L now op).provenances = L.provenances ∧ ∀ id, (step L now op).flag id = L.flag id) ∨
      ∃ range applied, recordRange L now range = .ok (step L now op, applied) := by
  by_cases hwrites : op.writesRelay = false
  · have hsame := step_sameRelay L now hwrites
    exact Or.inl ⟨hsame.provenances, hsame.flag⟩
  cases op with
  | insertRelayIntent intent =>
    simp only [step, insertRelayIntent]
    split <;> exact Or.inl ⟨rfl, fun _ => rfl⟩
  | markSent id invoiceId payerWallet originTxHash => exact Or.inl ⟨rfl, fun _ => rfl⟩
  | deferRelayIntent id nextCheckAt relayStatus => exact Or.inl ⟨rfl, fun _ => rfl⟩
  | expireQuoted destinationChainId => exact Or.inl ⟨rfl, fun _ => rfl⟩
  | applyFinalizedRange range =>
    rcases step_applyFinalizedRange L now range with hsame | ⟨applied, hrecord⟩
    · rw [hsame]
      exact Or.inl ⟨rfl, fun _ => rfl⟩
    · exact Or.inr ⟨range, applied, hrecord⟩
  | _ => first | exact absurd rfl hwrites | cases hop

/-- Unless an intent ends, what is recorded stays as it is. -/
lemma mem_provenances_step {L : Ledger} {now : Time} {op : Op} (hop : op.resolvesIntent = false)
    {p : Provenance} (hp : p ∈ L.provenances) : p ∈ (step L now op).provenances := by
  rcases step_provenances L now hop with ⟨hsame, -⟩ | ⟨range, applied, hrecord⟩
  · rw [hsame]
    exact hp
  · obtain ⟨new, hrows, -⟩ := recordRange_rows hrecord
    rw [Ledger.provenances, hrows, List.map_append]
    exact List.mem_append_left _ hp

/-- One intent ended: the ledger `L₁` has its end and the observations it takes, and `L'`
handed the rest back. -/
structure IntentResolved (L L₁ L' : Ledger) (now : Time) (intent : RelayIntent)
    (takes : ObservationRow → Bool) : Prop where
  mem : intent ∈ L.relayIntents.rows
  pending : intent.status.isPending = true
  invoices : L₁.invoices = L.invoices
  observations : L₁.observations.rows = L.observations.rows.map (fun o =>
    if takes o then { o with relayIntentId := some intent.id, relayParkedAt := none } else o)
  own : ∀ o, takes o = true → o.invoiceId = intent.invoiceId ∧ o.relayIntentId = none
  others : ∀ r ∈ L.relayIntents.rows, r.id ≠ intent.id → r ∈ L₁.relayIntents.rows
  filled : ∀ o, takes o = true →
    ∃ r ∈ L₁.relayIntents.rows, r.id = intent.id ∧ r.invoiceId = intent.invoiceId ∧
      r.status = .filled
  unparks : L' = unparkUnlessPending L₁ now intent.invoiceId

lemma Ledger.attributes_own {L : Ledger} {intent : RelayIntent} {fills : List Hash}
    {o : ObservationRow} (h : L.attributes intent fills o = true) :
    o.invoiceId = intent.invoiceId ∧ o.relayIntentId = none := by
  obtain ⟨binding, -, hmade⟩ := (Option.any_eq_true ..).1 h
  simp only [fillMade, Bool.and_eq_true, decide_eq_true_eq, Option.isNone_iff_eq_none] at hmade
  exact ⟨hmade.1.1.1.1.1.1.1.1.1, hmade.1.1.1.1.1.1.1.1.2⟩

/-- A resolution changes nothing, or it ends one pending intent. -/
lemma step_resolved (L : Ledger) (now : Time) {op : Op} (hop : op.resolvesIntent = true) :
    step L now op = L ∨
      ∃ intent L₁ takes, IntentResolved L L₁ (step L now op) now intent takes := by
  cases op with
  | resolveFilled id fills origin relayStatus =>
    rcases resolveFilled_cases L now id fills origin relayStatus with
      hsame | ⟨intent, L₁, rfl, hattr, hstep⟩
    · exact Or.inl hsame
    · have hmem := Table.mem_of_find? hattr.found
      have hend : intent.fill now fills origin relayStatus ∈ L₁.relayIntents.rows := by
        rw [hattr.relayIntents]
        exact List.mem_map.2 ⟨intent, hmem, by simp⟩
      refine Or.inr ⟨intent, L₁, L.attributes intent fills, hmem, hattr.pending, hattr.invoices,
        hattr.observations, fun o => Ledger.attributes_own, ?_,
        fun o _ => ⟨_, hend, rfl, rfl, rfl⟩, hstep⟩
      intro r hr hne
      rw [hattr.relayIntents]
      exact List.mem_map.2 ⟨r, hr, by simp [hne]⟩
  | resolveFailed id failure relayStatus =>
    rcases resolveFailed_cases L now id failure relayStatus with
      hsame | ⟨intent, L₁, rfl, hfound, hpending, hintents, hobs, hinvoices, hstep⟩
    · exact Or.inl hsame
    · refine Or.inr ⟨intent, L₁, fun _ => false, Table.mem_of_find? hfound, hpending, hinvoices,
        ?_, fun o h => Bool.noConfusion h, ?_, fun o h => Bool.noConfusion h, hstep⟩
      · rw [hobs]
        simp
      · intro r hr hne
        rw [hintents]
        exact List.mem_map.2 ⟨r, hr, by simp [hne]⟩
  | _ => cases hop

/-- Every recorded transfer is a request's. -/
lemma Reachable.row_of_provenance {L : Ledger} (h : Reachable L) {p : Provenance}
    (hp : p ∈ L.provenances) : ∃ row, L.invoices.find? p.recorded.invoiceId = some row := by
  rcases hrow : L.invoices.find? p.recorded.invoiceId with _ | row
  · have hnone : L.request? p.recorded.invoiceId = none := by simp [Ledger.request?, hrow]
    have hempty := h.observationsOf_none hnone
    obtain ⟨r, hr, rfl⟩ := Ledger.mem_provenances.1 hp
    rw [Ledger.observationsOf, List.filter_eq_nil_iff] at hempty
    exact absurd (decide_eq_true rfl) (hempty r hr)
  · exact ⟨row, rfl⟩

namespace IntentResolved

variable {L L₁ L' : Ledger} {now : Time} {intent : RelayIntent} {takes : ObservationRow → Bool}

/-- The end of a resolution: a sent intent is left, or everything parked is handed back. -/
lemma unpark_cases (h : IntentResolved L L₁ L' now intent takes) (hr : Reachable L) :
    (L' = L₁ ∧ ∃ r ∈ L₁.relayIntents.rows, r.invoiceId = intent.invoiceId ∧ r.status = .sent) ∨
      Unparked L₁ L' intent.invoiceId := by
  rw [h.unparks]
  refine unparkUnlessPending_cases now fun hparked => ?_
  obtain ⟨t, ht⟩ := List.exists_mem_of_ne_nil _ hparked
  obtain ⟨p, hp, hid, -, -⟩ := Ledger.mem_parkedTimes.1 ht
  obtain ⟨r, hmem, rfl⟩ := Ledger.mem_provenances.1 hp
  rw [h.observations] at hmem
  obtain ⟨o, ho, rfl⟩ := List.mem_map.1 hmem
  obtain ⟨row, hrow⟩ := hr.row_of_provenance (Ledger.provenance_mem ho)
  refine ⟨row, ?_⟩
  rw [h.invoices, ← hid]
  split
  · exact hrow
  · exact hrow

end IntentResolved

end Payday
