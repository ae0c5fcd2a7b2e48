/-
# What a proof reads, after fulfilment

The inputs of a proof are spread over the row, the credited transfers, the intents they are attributed
to and the verification attempts, and each of them is written by transactions that go on after the
request is fulfilled.  `LeavesProof` says, transaction by transaction, when none of the inputs is
touched; a transaction that leaves them is followed by the same proof.

A fulfilled request classifies its transfers against its recorded settlement, so the credited ones
are a function of the logs alone.  This needs the settlement to be recorded as one transaction.
-/
import Payday.Ledger.OneLog
import Payday.Proofs.Inputs
import Payday.System.PaidInFull

namespace Payday

section Ledger

variable {L L' : Ledger} {now : Time} {op : Op} {id : InvoiceId} {q : Request}

/-! ### The recorded settlement -/

/-- The request's settlement is unset or recorded as one transaction, and its transfers are classified
against it. -/
structure Ledger.Settles (L : Ledger) (id : InvoiceId) : Prop where
  record : ∀ q, L.request? id = some q → q.Unrecorded ∨ ∃ t, q.RecordedAs t
  settledBy : ∀ q, L.request? id = some q → q.SettledBy

/-- A transaction keeps this, unless it collects the open request without a described settlement. -/
lemma Ledger.Settles.step (h : L.Settles id) (hreach : Reachable L)
    (hknown : ∀ q, L.request? id = some q → q.Known (L.event now op id)) : (step L now op).Settles id := by
  rcases hprev : L.request? id with _ | q₀
  · have hissued : ∀ q, (Payday.step L now op).request? id = some q → q.Unrecorded := by
      intro q hq
      obtain ⟨input, -, rfl⟩ := request?_step_issued op hprev hq
      exact ⟨rfl, rfl, rfl, rfl⟩
    refine ⟨fun q hq => Or.inl (hissued q hq), fun q hq p hp => ?_⟩
    rw [Request.settlementAt, (hissued q hq).block] at hp
    cases hp
  · have hmoved := (request?_step now op hprev).moved
    refine ⟨fun q hq => ?_, fun q hq => ?_⟩
    · obtain rfl := Option.some.inj (hmoved.symm.trans hq)
      rcases h.record q₀ hprev with hun | ⟨t, hrec⟩
      · rcases hun.apply (hknown q₀ hprev) with hun' | ⟨receipt, outcome, t, -, -, hrec⟩
        · exact Or.inl hun'
        · exact Or.inr ⟨t, hrec⟩
      · exact Or.inr ⟨t, hrec.apply _⟩
    · obtain rfl := Option.some.inj (hmoved.symm.trans hq)
      exact (h.settledBy q₀ hprev).apply (hreach.graded hprev) (h.record q₀ hprev) _

/-! ### The credited transfers -/

/-- The recorded logs with the intents they are attributed to, in the order they were recorded. -/
def Ledger.owned (L : Ledger) : List (Recorded × Option IntentId) :=
  L.observations.rows.map fun r => (r.recorded, r.relayIntentId)

lemma Ledger.owned_of_provenances (h : L'.provenances = L.provenances) : L'.owned = L.owned := by
  have howned : ∀ M : Ledger, M.owned = M.provenances.map fun p => (p.recorded, p.relayIntentId) := by
    intro M
    rw [Ledger.owned, Ledger.provenances, List.map_map]
    rfl
  rw [howned, howned, h]

/-- Whether a log of the request counts toward its amount, given the settlement. -/
def countsFor (id : InvoiceId) (expirationTimestamp : ℕ) (settlement : Position)
    (x : Recorded × Option IntentId) : Bool :=
  decide (x.1.invoiceId = id ∧ dispositionFor expirationTimestamp (some settlement) x.1.observation = .credited)

/-- The credited rows of a request that is classified against `p`. -/
lemma creditedRows_eq {p : Position} (hq : L.request? id = some q) (hsettled : q.SettledBy)
    (hp : q.settlementAt = some p) :
    ((L.observationsOf id).filter (·.isCredited)).map (fun r => (r.observation, r.relayIntentId)) =
      (L.owned.filter (countsFor id q.expirationTimestamp p)).map fun x => (x.1.observation, x.2) := by
  obtain ⟨row, -, rfl⟩ := Ledger.request?_eq_some.1 hq
  -- on the request's own rows, credited means before the settlement
  have hown : (L.observationsOf id).filter (·.isCredited) = L.observations.rows.filter
      fun r => countsFor id row.expirationTimestamp p (r.recorded, r.relayIntentId) := by
    rw [Ledger.observationsOf, List.filter_filter]
    refine List.filter_congr fun r hr => ?_
    by_cases hid : r.invoiceId = id
    · have hmem : r.transfer ∈ (row.request (L.observationsOf id)).transfers :=
        List.mem_map_of_mem (List.mem_filter.2 ⟨hr, decide_eq_true hid⟩)
      have hkind : r.disposition.kind = dispositionFor row.expirationTimestamp (some p) r.observation :=
        hsettled p hp r.transfer hmem
      simp only [ObservationRow.isCredited, countsFor, ObservationRow.recorded, hid, hkind, true_and, decide_true,
        Bool.and_true]
      rfl
    · simp [countsFor, ObservationRow.recorded, hid]
  rw [hown, Ledger.owned, List.filter_map, List.map_map]
  rfl

/-- The transaction records no credited transfer of the request, attributes none of its credited transfers
and does not report it as returned. -/
def Op.LeavesTransfers (L : Ledger) (now : Time) (id : InvoiceId) : Op → Prop
  | .applyFinalizedRange range => ∀ row b, L.invoices.find? id = some row → row.binding = some b →
      b.chainId = range.chainId → ∀ o ∈ range.observations, o.recipient = b.paymentAddress → o.token = b.token →
      observationKey range.chainId o ∉ L.observations.rows.map ObservationRow.key →
      ((InvoiceCredit.ofRow (range.loads L.relayIntents.rows) row b).disposition o).kind ≠ .credited
  | .resolveFilled intentId fills _ _ => ∀ intent, L.relayIntents.find? intentId = some intent →
      intent.status.isPending = true → ∀ r ∈ L.observationsOf id, r.isCredited = true →
      L.attributes intent fills r = false
  | .deliver policy event => ∀ receipt amount, L.event now (.deliver policy event) id ≠ .receipt receipt (.returned amount)
  | _ => True

section Counted

variable {p : Position} (hq : L.request? id = some q) (hsettled : q.SettledBy) (hp : q.settlementAt = some p)

include hq hsettled hp

/-- A range that records no credited transfer of the request. -/
lemma counted_recordRange {range : FinalizedRange} {applied : RangeApplied}
    (hrecord : recordRange L now range = .ok (L', applied))
    (hleaves : Op.LeavesTransfers L now id (.applyFinalizedRange range)) :
    L'.owned.filter (countsFor id q.expirationTimestamp p) =
      L.owned.filter (countsFor id q.expirationTimestamp p) := by
  obtain ⟨row, hrow, rfl⟩ := Ledger.request?_eq_some.1 hq
  obtain ⟨new, hrows, hnew⟩ := recordRange_rows hrecord
  rw [Ledger.owned, hrows, List.map_append, List.filter_append, ← Ledger.owned, List.append_right_eq_self,
    List.filter_eq_nil_iff]
  intro x hx hcounts
  obtain ⟨r, hr, rfl⟩ := List.mem_map.1 hx
  obtain ⟨hid, hcredited⟩ := of_decide_eq_true hcounts
  obtain ⟨hmem, row', b, hrow', hb, hchain, haddress, htoken, hr'⟩ := hnew r hr
  obtain rfl := Option.some.inj (hrow.symm.trans ((show r.invoiceId = id from hid) ▸ hrow'))
  -- a new row is not among the recorded ones
  have hfresh : observationKey range.chainId r.observation ∉ L.observations.rows.map ObservationRow.key := by
    have hnodup := L'.observations.nodup
    rw [hrows, List.map_append] at hnodup
    have hkey : r.key = observationKey range.chainId r.observation := by
      rw [hr']
      rfl
    exact fun hold => (List.nodup_append.1 hnodup).2.2 _ hold _ (List.mem_map_of_mem hr) hkey.symm
  have hkind := Request.record_of_settlementAt hp r.observation
  rw [← transfer_observationRow L.relayIntents.rows row b (L.observationsOf id) range.chainId now] at hkind
  exact hleaves row b hrow hb hchain r.observation hmem haddress.symm htoken.symm hfresh (hkind.trans hcredited)

/-- A fill that takes no credited transfer of the request. -/
lemma counted_resolveFilled {intentId : IntentId} {fills : List Hash} {origin : Hash} {relayStatus : String}
    (hleaves : Op.LeavesTransfers L now id (.resolveFilled intentId fills origin relayStatus)) :
    (resolveFilled L now intentId fills origin relayStatus).owned.filter (countsFor id q.expirationTimestamp p) =
      L.owned.filter (countsFor id q.expirationTimestamp p) := by
  rcases resolveFilled_cases L now intentId fills origin relayStatus with hsame | ⟨intent, L₁, rfl, hattr, hstep⟩
  · rw [hsame]
  · obtain ⟨g, hrows, hg⟩ := unparkUnlessPending_owners L₁ now intent.invoiceId
    obtain ⟨row, hrow, rfl⟩ := Ledger.request?_eq_some.1 hq
    have howned : (resolveFilled L now intent.id fills origin relayStatus).owned = L.observations.rows.map fun r =>
        (r.recorded, if L.attributes intent fills r then some intent.id else r.relayIntentId) := by
      rw [hstep, Ledger.owned, hrows, hattr.observations, List.map_map, List.map_map]
      refine List.map_congr_left fun r _ => ?_
      simp only [Function.comp_apply, hg]
      split <;> rfl
    rw [howned, Ledger.owned, List.filter_map, List.filter_map]
    refine List.map_congr_left fun r hr => ?_
    obtain ⟨hmem, hcounts⟩ := List.mem_filter.1 hr
    obtain ⟨hid, hcredited⟩ := of_decide_eq_true hcounts
    -- a row that counts is credited, and so not taken
    have hown : r ∈ L.observationsOf id := List.mem_filter.2 ⟨hmem, decide_eq_true hid⟩
    have hkind : r.disposition.kind = .credited :=
      (hsettled p hp r.transfer (List.mem_map_of_mem hown)).trans hcredited
    have htaken := hleaves intent hattr.found hattr.pending r hown (beq_iff_eq.2 hkind)
    simp [htaken]

/-- A transaction that leaves the transfers keeps the logs that count, with the intents they are attributed to. -/
lemma counted_step (hleaves : op.LeavesTransfers L now id) :
    (step L now op).owned.filter (countsFor id q.expirationTimestamp p) =
      L.owned.filter (countsFor id q.expirationTimestamp p) := by
  have hquiet : (step L now op).provenances = L.provenances →
      (step L now op).owned.filter (countsFor id q.expirationTimestamp p) =
        L.owned.filter (countsFor id q.expirationTimestamp p) := by
    intro hsame
    rw [Ledger.owned_of_provenances hsame]
  cases op with
  | applyFinalizedRange range =>
    rcases step_applyFinalizedRange L now range with hsame | ⟨applied, hrecord⟩
    · rw [hsame]
    · exact counted_recordRange hq hsettled hp hrecord hleaves
  | resolveFilled intentId fills origin relayStatus => exact counted_resolveFilled hq hsettled hp hleaves
  | resolveFailed intentId failure relayStatus =>
    rcases resolveFailed_cases L now intentId failure relayStatus with
      hsame | ⟨intent, L₁, rfl, -, -, -, hobservations, -, hstep⟩
    · rw [step, hsame]
    · -- a failure attributes nothing
      obtain ⟨g, hrows, hg⟩ := unparkUnlessPending_owners L₁ now intent.invoiceId
      have howned : (resolveFailed L now intent.id failure relayStatus).owned = L.owned := by
        rw [hstep, Ledger.owned, hrows, hobservations, List.map_map, Ledger.owned]
        refine List.map_congr_left fun r _ => ?_
        simp only [Function.comp_apply, hg]
      rw [step, howned]
  | insertRelayIntent intent =>
    refine hquiet ?_
    simp only [step, insertRelayIntent]
    split <;> rfl
  | markSent intentId invoiceId payerWallet originTxHash => exact hquiet rfl
  | deferRelayIntent intentId nextCheckAt relayStatus => exact hquiet rfl
  | expireQuoted destinationChainId => exact hquiet rfl
  | _ => exact hquiet (step_sameRelay L now rfl).provenances

end Counted

/-! ### Fulfilled requests -/

/-- The settlement of a closed request needs no description. -/
lemma Request.known_of_terminal (h : q.status.isTerminal = true) (e : Event) : q.Known e := by
  rcases e with _ | _ | _ | _ | _ | _ | ⟨receipt, x | x | ⟨x, _ | evidence⟩ | cause⟩
  all_goals try trivial
  exact Or.inl h

lemma Request.RecordedAs.settlementAt {t : SettlementTx} (h : q.RecordedAs t) :
    q.settlementAt = some (position t.block t.transactionIndex) := by
  rw [Request.settlementAt, h.block, h.index]

lemma Request.expirationTimestamp_apply (q : Request) (e : Event) :
    (q.apply e).expirationTimestamp = q.expirationTimestamp := by
  cases e with
  | receipt receipt outcome =>
    simp only [Request.apply]
    split <;> rfl
  | _ => rfl

/-- A fulfilled request stays fulfilled, unless a receipt reports it as returned. -/
lemma Request.status_apply_of_fulfilled {e : Event} (h : q.status = .fulfilled) (henabled : q.Enabled e)
    (hreturned : ∀ receipt amount, e ≠ .receipt receipt (.returned amount)) : (q.apply e).status = .fulfilled := by
  cases e with
  | expireUnbound =>
    have hcreated := henabled.2
    rw [h] at hcreated
    cases hcreated
  | range fresh endBlockTimestamp =>
    have hfunded : q.fundedStatus (fresh.map q.record) = .fulfilled := by
      rw [Request.fundedStatus, if_neg (by simp [h]), h]
    simp only [Request.apply, Request.range, hfunded]
    exact if_neg (by simp [InvoiceStatus.isOpen])
  | receipt receipt outcome =>
    rcases outcome with x | x | ⟨x, _ | evidence⟩ | cause
    · rfl
    · exact absurd rfl (hreturned receipt x)
    · exact h
    · -- evidence moves open requests only
      simp only [Request.apply, Request.drain?, drainOf, Request.drain, h, InvoiceStatus.isTerminal, if_true,
        Option.getD_none]
    · exact h
  | _ => exact h

/-! ### Filled intents -/

/-- A filled intent stays as it is, as far as a proof reads it. -/
lemma step_filled {r : RelayIntent} (hr : r ∈ L.relayIntents.rows) (hfilled : r.status = .filled) (now : Time) (op : Op) :
    ∃ r' ∈ (step L now op).relayIntents.rows, r.SameQuote r' ∧ r'.status = .filled ∧
      r'.verifiedOriginTxHash = r.verifiedOriginTxHash := by
  by_cases hop : ∃ intent, op = .insertRelayIntent intent
  · obtain ⟨intent, rfl⟩ := hop
    have hkept : ∀ row, r ∈ (L.relayIntents.insertNew row).rows := by
      intro row
      by_cases hkey : row.id ∈ L.relayIntents.rows.map RelayIntent.id
      · rw [Table.insertNew_of_mem hkey]
        exact hr
      · rw [Table.rows_insertNew_of_notMem hkey]
        exact List.mem_append_left _ hr
    refine ⟨r, ?_, RelayIntent.SameQuote.refl r, hfilled, rfl⟩
    simp only [step, insertRelayIntent]
    split
    · exact hr
    · exact hkept _
  · obtain ⟨f, new, hfollow⟩ := step_follows L now op
    have hr' : f r ∈ (step L now op).relayIntents.rows := by
      rw [hfollow.rows]
      exact List.mem_append_left _ (List.mem_map_of_mem hr)
    obtain ⟨hstatus, horigin, -⟩ := (hfollow.follows r hr).final hfilled
    have hid : (f r).id = r.id := congrArg QuoteTerms.id (hfollow.follows r hr).terms
    rcases step_quote hr' with ⟨r₀, hr₀, hquote, -⟩ | ⟨intent, heq, -⟩
    · obtain rfl : r₀ = r := L.relayIntents.eq_of_key_eq hr₀ hr (hquote.id.symm.trans hid)
      exact ⟨f r₀, hr', hquote, hstatus, horigin⟩
    · exact absurd ⟨intent, heq⟩ hop

end Ledger

namespace Proofs

open Verification (Store Outside AccountId SessionId AttemptId Transaction Attempt attemptsForInvoice abandonEmailVerification
  writeApproval completeInvoice_cases mailboxCompletes secretCompletes mintedSession Effect step_effect)

variable {L : Ledger} {id : InvoiceId} {q : Request} {p : Position} {now : Time} {op : Op}

lemma filledIntent_of_mem {r : RelayIntent} (hr : r ∈ L.relayIntents.rows) (hfilled : r.status = .filled) :
    filledIntent L (some r.id) = some r := by
  have hfound : L.relayIntents.find? r.id = some r := Table.find?_of_mem hr
  simp [filledIntent, hfound, hfilled]

/-- A recorded transfer keeps its origin. -/
lemma settlementTransfer_step (hreach : Reachable L) {r : ObservationRow} (hr : r ∈ L.observations.rows) (now : Time)
    (op : Op) : settlementTransfer (step L now op) r.observation r.relayIntentId =
      settlementTransfer L r.observation r.relayIntentId := by
  rcases hintent : r.relayIntentId with _ | intentId
  · rfl
  · -- what is attributed is attributed to a filled intent
    obtain ⟨intent, hmem, rfl, hfilled, -⟩ := hreach.quoted intentId r.recorded ⟨r, hr, rfl, hintent⟩
    obtain ⟨intent', hmem', hquote, hfilled', horigin⟩ := step_filled hmem hfilled now op
    have hfound' := filledIntent_of_mem hmem' hfilled'
    rw [hquote.id] at hfound'
    simp only [settlementTransfer, hfound', filledIntent_of_mem hmem hfilled, Option.map_some, Option.bind_some,
      hquote.requestId, hquote.originChainId, hquote.payerWallet, horigin]

/-- The transfers of a proof, read off the logs that count. -/
lemma settlementTransfers_eq (hq : L.request? id = some q) (hsettled : q.SettledBy) (hp : q.settlementAt = some p) :
    settlementTransfers L id = (((L.owned.filter (countsFor id q.expirationTimestamp p)).map
      fun x => (x.1.observation, x.2)).insertionSort fun a b => chainOrder a.1 ≤ chainOrder b.1).map
        fun x => settlementTransfer L x.1 x.2 := by
  rw [← creditedRows_eq hq hsettled hp, settlementTransfers, ← List.map_insertionSort
    (fun a b : ObservationRow => chainOrder a.observation ≤ chainOrder b.observation), List.map_map]
  · rfl
  · exact fun _ _ _ _ => Iff.rfl

/-- A transaction that leaves the transfers keeps those of the proof. -/
lemma settlementTransfers_step (hreach : Reachable L) (hsettles : L.Settles id) (hq : L.request? id = some q)
    (hp : q.settlementAt = some p) (hq' : (step L now op).request? id = some (q.apply (L.event now op id)))
    (hp' : (q.apply (L.event now op id)).settlementAt = some p)
    (hsettled' : (q.apply (L.event now op id)).SettledBy)
    (hexpiration : (q.apply (L.event now op id)).expirationTimestamp = q.expirationTimestamp)
    (hleaves : op.LeavesTransfers L now id) :
    settlementTransfers (step L now op) id = settlementTransfers L id := by
  have hsettled := hsettles.settledBy q hq
  rw [settlementTransfers_eq hq' hsettled' hp', settlementTransfers_eq hq hsettled hp, hexpiration,
    counted_step hq hsettled hp hleaves]
  refine List.map_congr_left fun x hx => ?_
  obtain ⟨y, hy, rfl⟩ := List.mem_map.1 ((List.mem_insertionSort _).1 hx)
  obtain ⟨r, hr, rfl⟩ := List.mem_map.1 (List.mem_filter.1 hy).1
  exact settlementTransfer_step hreach hr now op

/-- What a proof reads of the ledger is as it was. -/
structure StillFulfilled (L L' : Ledger) (id : InvoiceId) (row row' : Payday.Invoice) : Prop where
  found : L'.invoices.find? id = some row'
  status : row'.status = row.status
  settlementTxHash : row'.settlementTxHash = row.settlementTxHash
  binding : row'.binding = row.binding
  recovery : row'.recovery = row.recovery
  transfers : settlementTransfers L' id = settlementTransfers L id

/-- A transaction that leaves the transfers of a fulfilled request leaves its columns too. -/
lemma stillFulfilled_step (hreach : Reachable L) (hsettles : L.Settles id) {row : Payday.Invoice} {hash : Hash}
    {b : Binding} (hrow : L.invoices.find? id = some row) (hstatus : row.status = .fulfilled)
    (hhash : row.settlementTxHash = some hash) (hb : row.binding = some b) (hleaves : op.LeavesTransfers L now id) :
    ∃ row', StillFulfilled L (step L now op) id row row' := by
  have hq : L.request? id = some (row.request (L.observationsOf id)) :=
    Ledger.request?_eq_some.2 ⟨row, hrow, rfl⟩
  obtain ⟨henabled, hmoved⟩ := request?_step now op hq
  -- a settlement is recorded, as one transaction
  obtain ⟨t, hrecord⟩ : ∃ t, (row.request (L.observationsOf id)).RecordedAs t := by
    rcases hsettles.record _ hq with hun | hrec
    · have hnone : row.settlementTxHash = none := hun.txHash
      rw [hhash] at hnone
      cases hnone
    · exact hrec
  have hrecord' := hrecord.apply (L.event now op id)
  have hreturned : ∀ receipt amount, L.event now op id ≠ .receipt receipt (.returned amount) := by
    intro receipt amount he
    obtain ⟨policy, applied, rfl, -⟩ := event_eq_receipt he
    exact hleaves receipt amount he
  have hterminal : (row.request (L.observationsOf id)).status.isTerminal = true := by
    show row.status.isTerminal = true
    rw [hstatus]
    rfl
  have hsettles' := hsettles.step hreach fun q' hq' => by
    obtain rfl := Option.some.inj (hq.symm.trans hq')
    exact Request.known_of_terminal hterminal (L.event now op id)
  obtain ⟨row', hrow', hrequest⟩ := Ledger.request?_eq_some.1 hmoved
  obtain ⟨row₁, hrow₁, hterms⟩ := step_sameTerms now op hrow
  obtain rfl := Option.some.inj (hrow₁.symm.trans hrow')
  obtain ⟨row₂, hrow₂, hb'⟩ := binding_step hrow hb now op
  obtain rfl := Option.some.inj (hrow₂.symm.trans hrow')
  refine ⟨row₂, hrow', ?_, ?_, hb'.trans hb.symm, hterms.recovery, ?_⟩
  · have happlied := Request.status_apply_of_fulfilled hstatus henabled hreturned
    rw [← hrequest] at happlied
    exact (show row₂.status = .fulfilled from happlied).trans hstatus.symm
  · have happlied := hrecord'.txHash
    rw [← hrequest] at happlied
    exact (show row₂.settlementTxHash = some t.txHash from happlied).trans hrecord.txHash.symm
  · exact settlementTransfers_step hreach hsettles hq hrecord.settlementAt hmoved hrecord'.settlementAt
      (hsettles'.settledBy _ hmoved) (Request.expirationTimestamp_apply _ _) hleaves

/-! ### Approvals -/

/-- Two lists of times have the same first one, if neither has an earlier one than the other. -/
lemma min?_eq_of_preceded {xs ys : List Time} (hxs : ∀ x ∈ xs, ∃ y ∈ ys, y ≤ x) (hys : ∀ y ∈ ys, ∃ x ∈ xs, x ≤ y) :
    xs.min? = ys.min? := by
  rcases hx : xs.min? with _ | x
  · -- no time on the left, so none on the right
    obtain rfl := List.min?_eq_none_iff.1 hx
    rcases ys with _ | ⟨y, ys⟩
    · rfl
    · obtain ⟨x, hmem, -⟩ := hys y List.mem_cons_self
      cases hmem
  · obtain ⟨hmem, hleast⟩ := List.min?_eq_some_iff.1 hx
    obtain ⟨y, hy, hyx⟩ := hxs x hmem
    obtain ⟨x', hx', hxy⟩ := hys y hy
    obtain rfl : y = x := le_antisymm hyx ((hleast x' hx').trans hxy)
    refine (List.min?_eq_some_iff.2 ⟨hy, fun y' hy' => ?_⟩).symm
    obtain ⟨x', hx', hle⟩ := hys y' hy'
    exact (hleast x' hx').trans hle

/-- The attempt approved something of the request's payer at `time`. -/
structure Approves (accountId : AccountId) (id : InvoiceId) (kind : AttemptKind) (time : Time) (attempt : Attempt) :
    Prop where
  accountId : attempt.accountId = accountId
  invoiceId : attempt.invoiceId = id
  kind : attempt.kind = kind
  status : attempt.status = .approved
  verifiedAt : attempt.verifiedAt = some time

/-- An approval of the kind was made at `time`. -/
def Approved (S : Store) (accountId : AccountId) (id : InvoiceId) (kind : AttemptKind) (time : Time) : Prop :=
  ∃ attempt ∈ S.attempts.rows, Approves accountId id kind time attempt

variable {S S' : Store} {accountId : AccountId} {kind : AttemptKind}

/-- The first approval, from either store, if neither has an earlier one than the other. -/
lemma firstApproved_eq (h : ∀ time, Approved S accountId id kind time →
      ∃ earlier ≤ time, Approved S' accountId id kind earlier)
    (h' : ∀ time, Approved S' accountId id kind time → ∃ earlier ≤ time, Approved S accountId id kind earlier) :
    firstApproved kind ((attemptsForInvoice S accountId id).map (·.summary)) =
      firstApproved kind ((attemptsForInvoice S' accountId id).map (·.summary)) := by
  have hmem : ∀ (S : Store) (time : Time), time ∈ (((attemptsForInvoice S accountId id).map (·.summary)).filter
      fun attempt => decide (attempt.kind = kind ∧ attempt.status = .approved)).filterMap (·.verifiedAt) ↔
        Approved S accountId id kind time := by
    intro S time
    simp only [List.mem_filterMap, List.mem_filter, List.mem_map, attemptsForInvoice, List.mem_insertionSort,
      decide_eq_true_eq]
    constructor
    · rintro ⟨_, ⟨⟨attempt, ⟨hrow, haccount, hinvoice⟩, rfl⟩, hkind, hstatus⟩, htime⟩
      exact ⟨attempt, hrow, haccount, hinvoice, hkind, hstatus, htime⟩
    · rintro ⟨attempt, hrow, happroves⟩
      exact ⟨attempt.summary, ⟨⟨attempt, ⟨hrow, happroves.accountId, happroves.invoiceId⟩, rfl⟩, happroves.kind,
        happroves.status⟩, happroves.verifiedAt⟩
  refine min?_eq_of_preceded (fun time htime => ?_) (fun time htime => ?_)
  · obtain ⟨earlier, hle, happroved⟩ := h time ((hmem S time).1 htime)
    exact ⟨earlier, (hmem S' earlier).2 happroved, hle⟩
  · obtain ⟨earlier, hle, happroved⟩ := h' time ((hmem S' time).1 htime)
    exact ⟨earlier, (hmem S earlier).2 happroved, hle⟩

/-- Whether a request asks for an attempt of the kind, which the attestation then states. -/
def asks (row : Payday.Invoice) : AttemptKind → Bool
  | .email => row.expectedEmail.isSome
  | .merchantSession => row.payerReference.isSome
  | .wallet => false

/-- The payer's transaction makes no approval that the request asks for before the first one on record, and
deletes none that no other is as early as. -/
def LeavesFacts (S : Store) (accountId : AccountId) (id : InvoiceId) (asked : AttemptKind → Bool) :
    Transaction → Prop
  | .approveEmail _ sessionId _ verifiedAt _ => asked .email = true →
      (∃ attempt ∈ S.attempts.rows, attempt.isPendingEmail sessionId = true ∧ attempt.accountId = accountId ∧
        attempt.invoiceId = id) → ∃ earlier ≤ verifiedAt, Approved S accountId id .email earlier
  | .exchangeClientSecret now _ _ invoiceId _ => asked .merchantSession = true → invoiceId = id →
      ∃ earlier ≤ now, Approved S accountId id .merchantSession earlier
  | .delete sessionId => ∀ kind time, asked kind = true → ∀ attempt ∈ S.attempts.rows,
      attempt.payerSessionId = sessionId → Approves accountId id kind time attempt →
      ∃ other ∈ S.attempts.rows, other.payerSessionId ≠ sessionId ∧
        ∃ earlier ≤ time, Approves accountId id kind earlier other
  | _ => True

lemma Approves.not_pending {attempt : Attempt} {time : Time} (h : Approves accountId id kind time attempt)
    (sessionId : SessionId) : attempt.isPendingEmail sessionId = false := by
  simp [Attempt.isPendingEmail, h.status]

/-- Attempts that end without an approval. -/
lemma approved_abandon (S : Store) (sessionId : SessionId) (time : Time) :
    Approved (abandonEmailVerification S sessionId) accountId id kind time ↔ Approved S accountId id kind time := by
  constructor
  · rintro ⟨attempt, hmem, happroves⟩
    simp only [abandonEmailVerification] at hmem
    rcases Table.mem_updateWhere hmem with ⟨row, -, -, rfl⟩ | ⟨hold, -⟩
    · cases happroves.status
    · exact ⟨attempt, hold, happroves⟩
  · rintro ⟨attempt, hmem, happroves⟩
    refine ⟨attempt, List.mem_map.2 ⟨attempt, hmem, ?_⟩, happroves⟩
    rw [if_neg (by simp [happroves.not_pending sessionId])]

/-- A new attempt. -/
lemma approved_insert {attempts : Table Attempt.id} {new : Attempt} (h : S.attempts.insert? new = some attempts)
    (hS' : S'.attempts = attempts) {time : Time} : Approved S' accountId id kind time ↔
      Approved S accountId id kind time ∨ Approves accountId id kind time new := by
  obtain ⟨-, hrows⟩ := Table.insert?_eq_some_iff.1 h
  simp only [Approved, hS', hrows, List.mem_append, List.mem_singleton, or_and_right, exists_or, exists_eq_left]

/-- A transaction that leaves the facts makes no approval earlier, and none later. -/
lemma approvals_kept {O : Outside} {dbNow : Time} {tx : Transaction} (h : Effect O S dbNow tx S')
    {asked : AttemptKind → Bool} (hleaves : LeavesFacts S accountId id asked tx) (hasked : asked kind = true)
    (hwallet : kind ≠ .wallet) :
    (∀ time, Approved S accountId id kind time → ∃ earlier ≤ time, Approved S' accountId id kind earlier) ∧
      ∀ time, Approved S' accountId id kind time → ∃ earlier ≤ time, Approved S accountId id kind earlier := by
  have hsame : (∀ time, Approved S' accountId id kind time ↔ Approved S accountId id kind time) →
      (∀ time, Approved S accountId id kind time → ∃ earlier ≤ time, Approved S' accountId id kind earlier) ∧
        ∀ time, Approved S' accountId id kind time → ∃ earlier ≤ time, Approved S accountId id kind earlier :=
    fun hiff => ⟨fun time htime => ⟨time, le_rfl, (hiff time).2 htime⟩,
      fun time htime => ⟨time, le_rfl, (hiff time).1 htime⟩⟩
  cases h with
  | refused | minted | challenged | secretMinted | requested => exact hsame fun _ => Iff.rfl
  | abandoned sessionId => exact hsame (approved_abandon S sessionId)
  | @begun now attemptId sessionId cooldown session attempts hsession hinsert =>
    refine hsame fun time => (approved_insert hinsert rfl).trans ?_
    refine (or_iff_left fun happroves => ?_).trans (approved_abandon S sessionId time)
    cases happroves.status
  | @walletBound _ now attemptId invoiceId sessionId wallet binding attempts hsession hattempt =>
    refine hsame fun time => (approved_insert hattempt rfl).trans (or_iff_left fun happroves => ?_)
    exact hwallet happroves.kind.symm
  | @exchanged now ids secret invoiceId ttl found sessions attempts hfound hunused hinvoice htoken hinsert hattempt =>
    refine ⟨fun time htime => ⟨time, le_rfl, (approved_insert hattempt rfl).2 (Or.inl htime)⟩, fun time htime => ?_⟩
    rcases (approved_insert hattempt rfl).1 htime with hold | hnew
    · exact ⟨time, le_rfl, hold⟩
    · -- the exchange is an approval of its own moment
      obtain rfl : AttemptKind.merchantSession = kind := hnew.kind
      obtain rfl : now = time := Option.some.inj hnew.verifiedAt
      exact hleaves hasked hnew.invoiceId
  | @approved seen sessionId payerRef verifiedAt eventId session hsession hexpiry =>
    have hid : session.id = sessionId := Table.key_of_find? hsession
    subst hid
    refine ⟨fun time htime => ?_, fun time htime => ?_⟩
    · obtain ⟨attempt, hmem, happroves⟩ := htime
      refine ⟨time, le_rfl, attempt, List.mem_map.2 ⟨attempt, hmem, ?_⟩, happroves⟩
      rw [if_neg (by simp [happroves.not_pending session.id])]
    · obtain ⟨attempt, hmem, happroves⟩ := htime
      simp only [writeApproval] at hmem
      rcases Table.mem_updateWhere hmem with ⟨row, hrow, hpending, rfl⟩ | ⟨hold, -⟩
      · have hemail : row.kind = .email := (of_decide_eq_true hpending).2.1
        obtain rfl : AttemptKind.email = kind := hemail.symm.trans happroves.kind
        obtain rfl : verifiedAt = time := Option.some.inj happroves.verifiedAt
        exact hleaves hasked ⟨row, hrow, hpending, happroves.accountId, happroves.invoiceId⟩
      · exact ⟨time, le_rfl, attempt, hold, happroves⟩
  | deleted sessionId =>
    refine ⟨fun time htime => ?_, fun time htime => ?_⟩
    · obtain ⟨attempt, hmem, happroves⟩ := htime
      by_cases hsession : attempt.payerSessionId = sessionId
      · -- another approval, as early, stays
        obtain ⟨other, hother, hne, earlier, hle, hstays⟩ := hleaves kind time hasked attempt hmem hsession happroves
        exact ⟨earlier, hle, other, List.mem_filter.2 ⟨hother, by simpa using hne⟩, hstays⟩
      · exact ⟨time, le_rfl, attempt, List.mem_filter.2 ⟨hmem, by simpa using hsession⟩, happroves⟩
    · obtain ⟨attempt, hmem, happroves⟩ := htime
      exact ⟨time, le_rfl, attempt, (List.mem_filter.1 hmem).1, happroves⟩

/-! ### The inputs of a proof -/

/-- The transaction leaves the transfers and the facts. -/
structure LeavesInputs (S : Store) (dbNow : Time) (accountId : AccountId) (id : InvoiceId) (asked : AttemptKind → Bool)
    (tx : Transaction) : Prop where
  transfers : ∀ op, tx = .request op → op.1.LeavesTransfers S.ledger dbNow id
  facts : LeavesFacts S accountId id asked tx

/-- What a proof reads is as it was. -/
structure SameInputs (S S' : Store) (accountId : AccountId) (id : InvoiceId) (row row' : Payday.Invoice) : Prop
    extends StillFulfilled S.ledger S'.ledger id row row' where
  verificationCompletedAt : row'.verificationCompletedAt = row.verificationCompletedAt
  facts : ∀ kind, asks row kind = true →
    firstApproved kind ((attemptsForInvoice S accountId id).map (·.summary)) =
      firstApproved kind ((attemptsForInvoice S' accountId id).map (·.summary))

variable {O : Outside} {dbNow : Time} {tx : Transaction} {row : Payday.Invoice} {hash : Hash} {b : Binding}

/-- What a transaction does to the ledger is an operation of the ledger, or nothing. -/
lemma ledger_of_effect {Q : Op → Prop} (h : Effect O S dbNow tx S') (hrequest : ∀ op, tx = .request op → Q op.1)
    (hbind : ∀ nowSecs id wallet binding, Q (.bindPayerWallet nowSecs id wallet binding))
    (hcomplete : ∀ id verifiedAt, Q (.completeVerification id verifiedAt)) :
    S'.ledger = S.ledger ∨ ∃ op, Q op ∧ S'.ledger = step S.ledger dbNow op := by
  cases h with
  | refused | minted | challenged | deleted | abandoned | begun | secretMinted => exact Or.inl rfl
  | requested op => exact Or.inr ⟨op.1, hrequest op rfl, rfl⟩
  | walletBound => exact Or.inr ⟨_, hbind _ _ _ _, rfl⟩
  | @approved seen sessionId payerRef verifiedAt eventId session =>
    rcases completeInvoice_cases S.ledger dbNow session.invoiceId verifiedAt
      (mailboxCompletes (session.proveEmail payerRef verifiedAt)) with hsame | hstep
    · exact Or.inl hsame
    · exact Or.inr ⟨_, hcomplete _ _, hstep⟩
  | @exchanged now ids secret invoiceId ttl =>
    rcases completeInvoice_cases S.ledger dbNow invoiceId now
      (secretCompletes (mintedSession O now dbNow ids invoiceId ttl)) with hsame | hstep
    · exact Or.inl hsame
    · exact Or.inr ⟨_, hcomplete _ _, hstep⟩

section Fulfilled

variable (hrow : S.ledger.invoices.find? id = some row) (hstatus : row.status = .fulfilled)

include hrow hstatus

/-- Nothing completes the verification of a fulfilled request. -/
lemma completed_of_fulfilled (h : Effect O S dbNow tx S') {row' : Payday.Invoice}
    (hrow' : S'.ledger.invoices.find? id = some row') :
    row'.verificationCompletedAt = row.verificationCompletedAt := by
  rcases h.completed_cases id with hsame | ⟨-, verifiedAt, open', session, -, hby⟩
  · rw [Store.completed, Store.completed, hrow, hrow'] at hsame
    exact hsame
  · obtain rfl := Option.some.inj (hrow.symm.trans hby.row_eq)
    have hopen := hby.isOpen
    rw [hstatus] at hopen
    cases hopen

/-- A transaction that leaves them keeps the inputs of a proof. -/
lemma sameInputs_of_effect (h : Effect O S dbNow tx S') (hreach : Reachable S.ledger) (hsettles : S.ledger.Settles id)
    (hhash : row.settlementTxHash = some hash) (hb : row.binding = some b)
    (hleaves : LeavesInputs S dbNow accountId id (asks row) tx) : ∃ row', SameInputs S S' accountId id row row' := by
  have hfacts : ∀ kind, asks row kind = true →
      firstApproved kind ((attemptsForInvoice S accountId id).map (·.summary)) =
        firstApproved kind ((attemptsForInvoice S' accountId id).map (·.summary)) := by
    intro kind hasked
    have hwallet : kind ≠ .wallet := by
      rintro rfl
      cases hasked
    obtain ⟨hbefore, hafter⟩ := approvals_kept h hleaves.facts hasked hwallet
    exact firstApproved_eq hbefore hafter
  rcases ledger_of_effect (Q := fun op => op.LeavesTransfers S.ledger dbNow id) h hleaves.transfers
    (fun _ _ _ _ => trivial) (fun _ _ => trivial) with hsame | ⟨op, hop, hledger⟩
  · refine ⟨row, ⟨hsame ▸ hrow, rfl, rfl, rfl, rfl, by rw [hsame]⟩, rfl, hfacts⟩
  · obtain ⟨row', hstill⟩ := stillFulfilled_step hreach hsettles hrow hstatus hhash hb hop
    rw [← hledger] at hstill
    exact ⟨row', hstill, completed_of_fulfilled hrow hstatus h hstill.found, hfacts⟩

end Fulfilled

/-! ### The database -/

variable {P : Primitives} {D D' : Database}

/-- An issuance, as a transaction of the ledger. -/
lemma Database.issue_store {draft : Draft} (h : D.issue P now dbNow id draft = some D') :
    ∃ tx : Transaction, tx.writesDocument = true ∧ D'.store = Verification.step O D.store dbNow tx := by
  simp only [Database.issue, Option.bind_eq_bind, Option.bind_eq_some_iff] at h
  obtain ⟨invoice, -, initial, -, h⟩ := h
  split at h
  · cases h
  · obtain rfl := Option.some.inj h
    exact ⟨.request ⟨.insertIssued (draft.request invoice (initial.map fun b => b.columns now)), rfl⟩, rfl, rfl⟩

lemma Database.selectNetwork_store {chainId : ChainId} (h : D.selectNetwork P now dbNow id chainId = some D') :
    ∃ tx : Transaction, tx.writesDocument = true ∧ D'.store = Verification.step O D.store dbNow tx := by
  simp only [Database.selectNetwork, Option.bind_eq_bind, Option.bind_eq_some_iff] at h
  obtain ⟨document, -, binding, -, h⟩ := h
  obtain rfl := Option.some.inj h
  exact ⟨.request ⟨.bindNetwork id (binding.columns now), rfl⟩, rfl, rfl⟩

lemma Database.attest_store {attemptId : AttemptId} {sessionId : SessionId} {chainId : ChainId}
    {attestation : PayerWalletAttestation}
    (h : D.attest P O now dbNow attemptId id sessionId chainId attestation = some D') :
    ∃ tx : Transaction, tx.writesDocument = true ∧ D'.store = Verification.step O D.store dbNow tx := by
  simp only [Database.attest, Option.bind_eq_bind, Option.bind_eq_some_iff] at h
  obtain ⟨document, -, binding, -, evidence, -, h⟩ := h
  refine ⟨.bindPayerWallet now attemptId id sessionId evidence.payerWallet (binding.columns now), rfl, ?_⟩
  rw [Verification.step]
  split at h
  · rename_i store bound hok
    obtain rfl := Option.some.inj h
    rw [hok]
    rfl
  · rename_i store result hne hok
    obtain rfl := Option.some.inj h
    rw [hok]
    rfl
  · cases h

/-- What an action does to the payers' tables and the ledger is a transaction, or the action is refused. -/
lemma Database.step_store (P : Primitives) (O : Outside) (D : Database) (dbNow : Time) (action : Action) :
    D.step P O dbNow action = D ∨ ∃ tx, (tx.writesDocument = true ∨ ∃ h, action = .commit ⟨tx, h⟩) ∧
      (D.step P O dbNow action).store = Verification.step O D.store dbNow tx := by
  cases action with
  | issue now id draft =>
    rcases hissue : D.issue P now dbNow id draft with _ | D'
    · exact Or.inl (by rw [Database.step, hissue]; rfl)
    · obtain ⟨tx, htx, hstore⟩ := Database.issue_store (O := O) hissue
      exact Or.inr ⟨tx, Or.inl htx, by rw [Database.step, hissue]; exact hstore⟩
  | selectNetwork now id chainId =>
    rcases hselect : D.selectNetwork P now dbNow id chainId with _ | D'
    · exact Or.inl (by rw [Database.step, hselect]; rfl)
    · obtain ⟨tx, htx, hstore⟩ := Database.selectNetwork_store (O := O) hselect
      exact Or.inr ⟨tx, Or.inl htx, by rw [Database.step, hselect]; exact hstore⟩
  | attest now attemptId id sessionId chainId attestation =>
    rcases hattest : D.attest P O now dbNow attemptId id sessionId chainId attestation with _ | D'
    · exact Or.inl (by rw [Database.step, hattest]; rfl)
    · obtain ⟨tx, htx, hstore⟩ := Database.attest_store hattest
      exact Or.inr ⟨tx, Or.inl htx, by rw [Database.step, hattest]; exact hstore⟩
  | commit tx => exact Or.inr ⟨tx.1, Or.inr ⟨tx.2, rfl⟩, rfl⟩

/-- The document of a bound row is not written again. -/
lemma Database.step_document (h : Sound P D) (O : Outside) (dbNow : Time) (action : Action)
    (hrow : D.store.ledger.invoices.find? id = some row) (hb : row.binding = some b) :
    (D.step P O dbNow action).documents.find? id = D.documents.find? id := by
  cases action with
  | issue now id' draft =>
    rcases hissue : D.issue P now dbNow id' draft with _ | D'
    · rw [Database.step, hissue]
      rfl
    · rw [Database.step, hissue]
      have hissue' := hissue
      simp only [Database.issue, Option.bind_eq_bind, Option.bind_eq_some_iff, toOption_eq_some] at hissue'
      obtain ⟨invoice, hinvoice, initial, -, hnew⟩ := hissue'
      split at hnew
      · cases hnew
      · -- the new document has another id
        rename_i hfree
        obtain rfl := Option.some.inj hnew
        simp only [Bool.or_eq_true, not_or, Bool.not_eq_true, Option.isSome_eq_false_iff,
          Option.isNone_iff_eq_none] at hfree
        obtain ⟨bytes, -, -, -, -, -, -, -, -, -, hfields⟩ := issue_eq_ok hinvoice
        have hid : invoice.id = id' := by rw [hfields]
        have hne : id ≠ id' := by
          rintro rfl
          rw [hrow] at hfree
          cases hfree.1
        have hkey : (⟨invoice, none⟩ : Document).id ∉ D.documents.rows.map Document.id :=
          Table.find?_eq_none_iff.1 (h.stored invoice.id (hid ▸ hfree.1))
        show (D.documents.insertNew ⟨invoice, none⟩).find? id = D.documents.find? id
        rw [Table.find?_insertNew_of_notMem hkey]
        exact if_neg (show id ≠ invoice.id by rw [hid]; exact hne)
  | selectNetwork now id' chainId =>
    rcases hselect : D.selectNetwork P now dbNow id' chainId with _ | D'
    · rw [Database.step, hselect]
      rfl
    · rw [Database.step, hselect]
      simp only [Database.selectNetwork, Option.bind_eq_bind, Option.bind_eq_some_iff] at hselect
      obtain ⟨document, -, binding, -, hselect⟩ := hselect
      obtain rfl := Option.some.inj hselect
      rfl
  | attest now attemptId id' sessionId chainId attestation =>
    rcases hattest : D.attest P O now dbNow attemptId id' sessionId chainId attestation with _ | D'
    · rw [Database.step, hattest]
      rfl
    · rw [Database.step, hattest]
      simp only [Database.attest, Option.bind_eq_bind, Option.bind_eq_some_iff] at hattest
      obtain ⟨document, -, binding, -, evidence, -, hattest⟩ := hattest
      split at hattest
      · -- an attestation is written for a row without an address
        rename_i store bound hok
        obtain rfl := Option.some.inj hattest
        rcases Verification.bindPayerWallet_ok hok with ⟨-, hne⟩ | ⟨open', bound', -, hopen, hbindable, -⟩
        · exact absurd rfl (hne _)
        have hne : id ≠ id' := by
          rintro rfl
          obtain rfl := Option.some.inj (hrow.symm.trans hopen)
          simp [walletBindable, hb] at hbindable
        refine (D.attestationWritten_find? id' evidence.attestation id).trans ?_
        simp [hne]
      · obtain rfl := Option.some.inj hattest
        rfl
      · cases hattest
  | commit tx => rfl

/-! ### The settlement of a request, along a run -/

/-- The action does not collect the open request without a described settlement. -/
def Action.DescribesSettlement (D : Database) (dbNow : Time) (id : InvoiceId) (action : Action) : Prop :=
  ∀ tx op, action = .commit tx → tx.1 = .request op → ∀ q, D.store.ledger.request? id = some q →
    q.Known (D.store.ledger.event dbNow op.1 id)

/-- Nothing is settled in an empty database. -/
lemma settles_empty (id : InvoiceId) : Database.empty.store.ledger.Settles id := by
  refine ⟨fun q hq => ?_, fun q hq => ?_⟩
  · cases hq
  · cases hq

/-- Only a receipt can collect a request. -/
lemma known_of_not_deliver (hop : ∀ policy event, op ≠ .deliver policy event) (q : Request) :
    q.Known (L.event now op id) := by
  rcases he : L.event now op id with _ | _ | _ | _ | _ | _ | ⟨receipt, outcome⟩
  all_goals try trivial
  obtain ⟨policy, applied, rfl, -⟩ := event_eq_receipt he
  exact absurd rfl (hop policy (.sweepFinalized receipt))

/-- An action keeps the settlement of a request one transaction, if it describes it. -/
lemma Database.step_settles (hsound : Sound P D) (hsettles : D.store.ledger.Settles id) (O : Outside) {action : Action}
    (hknown : action.DescribesSettlement D dbNow id) : (D.step P O dbNow action).store.ledger.Settles id := by
  rcases D.step_store P O dbNow action with hsame | ⟨tx, htx, hstore⟩
  · rw [hsame]
    exact hsettles
  · have hrequest : ∀ op, tx = .request op → ∀ q, D.store.ledger.request? id = some q →
        q.Known (D.store.ledger.event dbNow op.1 id) := by
      rintro ⟨op, hcompletes⟩ rfl
      rcases htx with hwrites | ⟨hcommit, rfl⟩
      · -- what writes a document delivers no receipt
        refine fun q _ => known_of_not_deliver (fun policy event hop => ?_) q
        obtain rfl : op = .deliver policy event := hop
        cases hwrites
      · exact hknown _ ⟨op, hcompletes⟩ rfl rfl
    rw [hstore]
    rcases ledger_of_effect (Q := fun op => ∀ q, D.store.ledger.request? id = some q →
        q.Known (D.store.ledger.event dbNow op id)) (step_effect O D.store dbNow tx) hrequest
      (fun _ _ _ _ q _ => known_of_not_deliver (fun _ _ h => by cases h) q)
      (fun _ _ q _ => known_of_not_deliver (fun _ _ h => by cases h) q) with hsame | ⟨op, hop, hledger⟩
    · rw [hsame]
      exact hsettles
    · rw [hledger]
      exact hsettles.step hsound.ledger.reachable hop

/-- Nothing collects a fulfilled request that is not described. -/
lemma describesSettlement_of_fulfilled (hrow : D.store.ledger.invoices.find? id = some row)
    (hstatus : row.status = .fulfilled) (action : Action) : action.DescribesSettlement D dbNow id := by
  intro tx op _ _ q hq
  obtain ⟨row', hrow', rfl⟩ := Ledger.request?_eq_some.1 hq
  obtain rfl := Option.some.inj (hrow.symm.trans hrow')
  refine Request.known_of_terminal ?_ _
  show row.status.isTerminal = true
  rw [hstatus]
  rfl

/-! ### Building the proof again -/

/-- The proof apart from the attestation's signature. -/
def ProofOfPayment.unsigned (proof : ProofOfPayment) : ProofOfPayment :=
  { proof with verification := { proof.verification with signature := "" } }

section Again

variable {attestor : Attestor} {proof : ProofOfPayment}

/-- The facts are those of the attached add-ons, so only their first approvals matter. -/
lemma verificationFacts_congr {addons : PayerVerification} {attempts attempts' : List VerificationAttempt}
    (hemail : addons.email.isSome = true → firstApproved .email attempts' = firstApproved .email attempts)
    (hsecret : addons.merchantAuth.isSome = true →
      firstApproved .merchantSession attempts' = firstApproved .merchantSession attempts)
    (wallet : Option WalletEvidence) :
    verificationFacts P addons attempts' wallet = verificationFacts P addons attempts wallet := by
  rw [verificationFacts, verificationFacts]
  congr 2
  · split
    · rename_i h
      rw [hemail h]
    · rfl
  · split
    · rename_i h
      rw [hsecret h]
    · rfl

/-- The same inputs give the same proof, whoever holds the attestor's key. -/
lemma getProof_again {invoice : Invoice} {settled : Settled} {transfers : List SettlementTransfer}
    {attempts : List VerificationAttempt} (attestor' : Attestor) (attempts' : List VerificationAttempt)
    (haddress : attestor'.address = attestor.address)
    (hfacts : ∀ wallet, verificationFacts P invoice.issuanceSnapshot.payerVerification attempts' wallet =
      verificationFacts P invoice.issuanceSnapshot.payerVerification attempts wallet)
    (hserved : Proofs.getProof P attestor invoice settled transfers attempts = .ok proof) :
    ∃ again, Proofs.getProof P attestor' invoice settled transfers attempts' = .ok again ∧
      again.unsigned = proof.unsigned := by
  obtain ⟨txHash, binding, bytes, hstatus, htx, hbinding, hsenders, hbytes, rfl⟩ := getProof_eq_ok.1 hserved
  have hpayload : attestationPayload P invoice binding settled (transfers.map (SettlementTransfer.proofTransfer P))
      attempts' = attestationPayload P invoice binding settled (transfers.map (SettlementTransfer.proofTransfer P))
        attempts := by
    rw [attestationPayload, attestationPayload, hfacts]
  refine ⟨_, getProof_eq_ok.2 ⟨txHash, binding, bytes, hstatus, htx, hbinding, hsenders, ?_, rfl⟩, ?_⟩
  · rw [hpayload]
    exact hbytes
  · rw [hpayload]
    simp only [ProofOfPayment.unsigned, proofOf, signedPayload, haddress]

/-- An action leaves the proof of a request, if the transaction it commits leaves the inputs. -/
def Action.LeavesProof (P : Primitives) (O : Outside) (D : Database) (dbNow : Time) (accountId : AccountId)
    (id : InvoiceId) (action : Action) : Prop :=
  D.step P O dbNow action = D ∨ ∀ tx, action = .commit tx → ∀ row, D.store.ledger.invoices.find? id = some row →
    LeavesInputs D.store dbNow accountId id (asks row) tx.1

/-- A transaction that writes a document records no transfer and approves nothing. -/
lemma leavesInputs_of_writesDocument {asked : AttemptKind → Bool} (h : tx.writesDocument = true) :
    LeavesInputs S dbNow accountId id asked tx := by
  cases tx with
  | bindPayerWallet now attemptId invoiceId sessionId wallet binding =>
    refine ⟨fun op hop => ?_, trivial⟩
    cases hop
  | request op =>
    refine ⟨?_, trivial⟩
    rintro _ ⟨⟩
    obtain ⟨op, hcompletes⟩ := op
    cases op with
    | insertIssued | bindPayerWallet | bindNetwork => trivial
    | _ => cases h
  | _ => cases h

/-- An action that leaves the proof of a request is followed by the same proof. -/
lemma Database.getProof_step (hsound : Sound P D) (hsettles : D.store.ledger.Settles id)
    {attestor' : Attestor} (haddress : attestor'.address = attestor.address) {action : Action}
    (hleaves : action.LeavesProof P O D dbNow accountId id)
    (hserved : D.getProof P O attestor accountId id = .ok proof) :
    ∃ again, (D.step P O dbNow action).getProof P O attestor' accountId id = .ok again ∧
      again.unsigned = proof.unsigned := by
  obtain ⟨haccount, row, hrow, document, hdocument, hbuilt⟩ := (Database.getProof_eq_ok P O).1 hserved
  obtain ⟨stored, hstored, hdescribes⟩ := hsound.described id row hrow
  obtain rfl := Option.some.inj (hdocument.symm.trans hstored)
  -- the row of a served proof is fulfilled and bound
  obtain ⟨hash, binding, bytes, hstatus, hhash, hbinding, -⟩ := Proofs.getProof_eq_ok.1 hbuilt
  obtain ⟨b, hb, -⟩ := Option.map_eq_some_iff.1 hbinding
  have haddons : (document.decode P row).issuanceSnapshot.payerVerification = row.payerVerification :=
    hdescribes.payerVerification
  -- what is read again is as it was
  obtain ⟨row', hinputs⟩ : ∃ row', SameInputs D.store (D.step P O dbNow action).store accountId id row row' := by
    rcases D.step_store P O dbNow action with hsame | ⟨tx, htx, hstore⟩
    · rw [hsame]
      exact ⟨row, ⟨hrow, rfl, rfl, rfl, rfl, rfl⟩, rfl, fun _ _ => rfl⟩
    · rcases hleaves with hsame | hleaves
      · rw [hsame]
        exact ⟨row, ⟨hrow, rfl, rfl, rfl, rfl, rfl⟩, rfl, fun _ _ => rfl⟩
      · have hinputs : LeavesInputs D.store dbNow accountId id (asks row) tx := by
          rcases htx with hwrites | ⟨hcommit, rfl⟩
          · exact leavesInputs_of_writesDocument hwrites
          · exact hleaves _ rfl row hrow
        rw [hstore]
        exact sameInputs_of_effect hrow hstatus (step_effect O D.store dbNow tx) hsound.ledger.reachable hsettles hhash
          hb hinputs
  have hdecode : document.decode P row' = document.decode P row := by
    rw [Document.decode, Document.decode, hinputs.binding, hinputs.recovery]
  have hsettled : settledOf row' = settledOf row := by
    rw [settledOf, settledOf, hinputs.status, hinputs.settlementTxHash, hinputs.verificationCompletedAt]
  have hfacts : ∀ wallet, verificationFacts P (document.decode P row).issuanceSnapshot.payerVerification
      ((attemptsForInvoice (D.step P O dbNow action).store accountId id).map (·.summary)) wallet =
        verificationFacts P (document.decode P row).issuanceSnapshot.payerVerification
          ((attemptsForInvoice D.store accountId id).map (·.summary)) wallet := by
    intro wallet
    rw [haddons]
    refine verificationFacts_congr (fun hemail => ?_) (fun hsecret => ?_) wallet
    · exact (hinputs.facts .email hemail).symm
    · exact (hinputs.facts .merchantSession hsecret).symm
  obtain ⟨again, hagain, hunsigned⟩ := getProof_again attestor' _ haddress hfacts hbuilt
  refine ⟨again, (Database.getProof_eq_ok P O).2 ⟨haccount, row', hinputs.found, document, ?_, ?_⟩, hunsigned⟩
  · exact (Database.step_document hsound O dbNow action hrow hb).trans hdocument
  · rw [hdecode, hsettled, hinputs.transfers]
    exact hagain

end Again

end Proofs

end Payday
