/-
# Parked transfers and how intents end

A transfer from an unknown sender is parked while a sent intent of its request may explain
it.  `RelayIntentStatus.leadsTo` is the diagram of an intent's life, and every transaction
moves every intent along it; an intent that leaves `sent` is resolved, and its resolution
hands back what is parked once no sent intent is left.
-/
import Payday.Ledger.Provenance

namespace Payday

/-- The moves of an intent: `quoted ─▶ sent ─▶ filled | failed | refunded`,
`quoted ─▶ expired`, the late report `expired ─▶ sent`, and reconciliation. -/
def RelayIntentStatus.leadsTo : RelayIntentStatus → RelayIntentStatus → Bool
  | .quoted, .sent | .quoted, .expired | .expired, .sent => true
  | .quoted, .filled | .quoted, .failed | .quoted, .refunded => true
  | .expired, .filled | .expired, .failed | .expired, .refunded => true
  | .sent, .filled | .sent, .failed | .sent, .refunded => true
  | _, _ => false

/-- The three ends of an intent. -/
def RelayIntentStatus.isFinal : RelayIntentStatus → Bool
  | .filled | .failed | .refunded => true
  | _ => false

lemma RelayIntentStatus.leadsTo_of_isFinal {s s' : RelayIntentStatus} (h : s.isFinal = true) :
    s.leadsTo s' = false := by
  cases s <;> cases s' <;> first | rfl | cases h

lemma RelayIntentStatus.leadsTo_of_isPending {s s' : RelayIntentStatus} (h : s.isPending = true)
    (h' : s'.isFinal = true) : s.leadsTo s' = true := by
  cases s <;> cases s' <;> simp_all [RelayIntentStatus.isPending, RelayIntentStatus.isFinal,
    RelayIntentStatus.leadsTo]

/-- What a transaction may do to one intent. -/
structure RelayIntent.Moves (r r' : RelayIntent) : Prop where
  id : r'.id = r.id
  invoiceId : r'.invoiceId = r.invoiceId
  originChainId : r'.originChainId = r.originChainId
  payerWallet : r'.payerWallet = r.payerWallet
  quotedOutAmount : r'.quotedOutAmount = r.quotedOutAmount
  status : r'.status = r.status ∨ r.status.leadsTo r'.status = true
  /-- A report is kept. -/
  sentAt : r.sentAt.isSome = true → r'.sentAt.isSome = true
  /-- An intent is sent because it was reported. -/
  reported : r'.status = .sent → r.status = .sent ∨ r'.sentAt.isSome = true

lemma RelayIntent.Moves.refl (r : RelayIntent) : r.Moves r :=
  ⟨rfl, rfl, rfl, rfl, rfl, Or.inl rfl, fun h => h, Or.inl⟩

lemma RelayIntent.markSent_moves (now : Time) (hash : Hash) (r : RelayIntent) :
    r.Moves (r.markSent now hash) ∧ (r.status = .sent → (r.markSent now hash).status = .sent) ∧
      (r.markSent now hash).verifiedOriginTxHash = r.verifiedOriginTxHash := by
  have hopen : r.status = .quoted ∨ r.status = .expired → r.status.leadsTo .sent = true := by
    rintro (h | h) <;> rw [h] <;> rfl
  unfold RelayIntent.markSent
  split
  · split_ifs with h1 h2
    · exact ⟨Moves.refl r, fun h => h, rfl⟩
    · exact ⟨⟨rfl, rfl, rfl, rfl, rfl, Or.inr (hopen h2), fun _ => rfl, fun _ => Or.inr rfl⟩,
        fun _ => rfl, rfl⟩
    · exact ⟨Moves.refl r, fun h => h, rfl⟩
  · split_ifs with h1 h2 h3
    · exact ⟨⟨rfl, rfl, rfl, rfl, rfl, Or.inl rfl, fun h => h, Or.inl⟩, fun h => h, rfl⟩
    · exact ⟨Moves.refl r, fun h => h, rfl⟩
    · exact ⟨⟨rfl, rfl, rfl, rfl, rfl, Or.inr (hopen h3), fun _ => rfl, fun _ => Or.inr rfl⟩,
        fun _ => rfl, rfl⟩
    · exact ⟨⟨rfl, rfl, rfl, rfl, rfl, Or.inl rfl, fun h => h, Or.inl⟩, fun h => h, rfl⟩

/-- A pending intent may end. -/
lemma RelayIntent.ends {r r' : RelayIntent} (hpending : r.status.isPending = true)
    (hfinal : r'.status.isFinal = true) (hid : r'.id = r.id) (hinvoice : r'.invoiceId = r.invoiceId)
    (horigin : r'.originChainId = r.originChainId) (hpayer : r'.payerWallet = r.payerWallet)
    (hquoted : r'.quotedOutAmount = r.quotedOutAmount) (hsent : r'.sentAt = r.sentAt) :
    r.Moves r' := by
  have hleads := RelayIntentStatus.leadsTo_of_isPending hpending hfinal
  refine ⟨hid, hinvoice, horigin, hpayer, hquoted, Or.inr hleads, fun h => by rw [hsent]; exact h, ?_⟩
  intro h
  rw [h] at hfinal
  cases hfinal

/-- An update of verified origin transactions: none, or one intent claims a transaction that
no other intent of its origin chain has. -/
def ClaimsOrigin (L : Ledger) (f : RelayIntent → RelayIntent) : Prop :=
  (∀ r ∈ L.relayIntents.rows, (f r).verifiedOriginTxHash = r.verifiedOriginTxHash) ∨
    ∃ intent ∈ L.relayIntents.rows, ∃ origin,
      (∀ r ∈ L.relayIntents.rows, r.id ≠ intent.id → r.originChainId = intent.originChainId →
        r.verifiedOriginTxHash ≠ some origin) ∧
      ∀ r ∈ L.relayIntents.rows, (f r).verifiedOriginTxHash =
        if r.id = intent.id then some origin else r.verifiedOriginTxHash

/-- How a transaction changes the intents: every one of them by a move, and new quotes are
added. -/
structure IntentsMove (L L' : Ledger) (op : Op) (f : RelayIntent → RelayIntent)
    (new : List RelayIntent) : Prop where
  rows : L'.relayIntents.rows = L.relayIntents.rows.map f ++ new
  moves : ∀ r ∈ L.relayIntents.rows, r.Moves (f r)
  fresh : ∀ r ∈ new, r.status = .quoted ∧ r.verifiedOriginTxHash = none
  sent : op.resolvesIntent = false →
    ∀ r ∈ L.relayIntents.rows, r.status = .sent → (f r).status = .sent
  claims : ClaimsOrigin L f

section

variable {L L' : Ledger} {op : Op}

lemma IntentsMove.of_eq (h : L'.relayIntents = L.relayIntents) :
    IntentsMove L L' op (fun r => r) [] where
  rows := by rw [h]; simp
  moves r _ := RelayIntent.Moves.refl r
  fresh r hr := by cases hr
  sent _ r _ hs := hs
  claims := Or.inl fun _ _ => rfl

/-- A quote or a report: no intent ends. -/
lemma IntentsMove.of_update {p : RelayIntent → Bool} {g : RelayIntent → RelayIntent}
    (h : L'.relayIntents.rows = L.relayIntents.rows.map (fun r => if p r then g r else r))
    (hg : ∀ r, p r = true → r.Moves (g r) ∧ (r.status = .sent → (g r).status = .sent) ∧
      (g r).verifiedOriginTxHash = r.verifiedOriginTxHash) :
    IntentsMove L L' op (fun r => if p r then g r else r) [] where
  rows := by rw [h]; simp
  moves r _ := by
    split
    · rename_i hp
      exact (hg r hp).1
    · exact RelayIntent.Moves.refl r
  fresh r hr := by cases hr
  sent _ r _ hs := by
    split
    · rename_i hp
      exact (hg r hp).2.1 hs
    · exact hs
  claims := by
    refine Or.inl fun r _ => ?_
    dsimp only
    split
    · rename_i hp
      exact (hg r hp).2.2
    · rfl

/-- The end of one intent. -/
lemma IntentsMove.of_resolution {intent : RelayIntent} {g : RelayIntent → RelayIntent}
    (hop : op.resolvesIntent = true) (hfound : L.relayIntents.find? intent.id = some intent)
    (h : L'.relayIntents.rows = L.relayIntents.rows.map
      (fun r => if decide (r.id = intent.id) then g r else r))
    (hg : intent.Moves (g intent))
    (hclaims : ClaimsOrigin L (fun r => if decide (r.id = intent.id) then g r else r)) :
    IntentsMove L L' op (fun r => if decide (r.id = intent.id) then g r else r) [] where
  rows := by rw [h]; simp
  moves r hr := by
    by_cases hid : r.id = intent.id
    · have heq : r = intent := L.relayIntents.eq_of_key_eq hr (Table.mem_of_find? hfound) hid
      simpa [heq] using hg
    · simpa [hid] using RelayIntent.Moves.refl r
  fresh r hr := by cases hr
  sent hno := by rw [hop] at hno; cases hno
  claims := hclaims

end

lemma unparkUnlessPending_relayIntents (L : Ledger) (now : Time) (id : InvoiceId) :
    (unparkUnlessPending L now id).relayIntents = L.relayIntents := by
  unfold unparkUnlessPending
  split
  · rfl
  · simp only
    split <;> rfl

/-- The intents as one transaction leaves them. -/
lemma step_intents (L : Ledger) (now : Time) (op : Op) :
    ∃ f new, IntentsMove L (step L now op) op f new := by
  by_cases hop : op.writesRelay = false
  · exact ⟨_, _, IntentsMove.of_eq (step_sameRelay L now hop).relayIntents⟩
  cases op with
  | insertRelayIntent intent =>
    simp only [step, insertRelayIntent]
    split
    · exact ⟨_, _, IntentsMove.of_eq rfl⟩
    · set row : RelayIntent := { intent with
        status := .quoted
        originTxHash := none
        verifiedOriginTxHash := none
        fillTxHashes := []
        relayStatus := none
        nextCheckAt := none
        createdAt := now
        sentAt := none
        resolvedAt := none } with hrow
      by_cases hkey : row.id ∈ L.relayIntents.rows.map RelayIntent.id
      · refine ⟨_, _, IntentsMove.of_eq ?_⟩
        exact Table.insertNew_of_mem hkey
      · refine ⟨fun r => r, [row], ?_, fun r _ => RelayIntent.Moves.refl r, ?_, fun _ _ _ h => h,
          Or.inl fun _ _ => rfl⟩
        · rw [Table.rows_insertNew_of_notMem hkey]
          simp
        · intro r hr
          rw [List.mem_singleton.1 hr]
          exact ⟨rfl, rfl⟩
  | markSent id invoiceId payerWallet originTxHash =>
    exact ⟨_, _, IntentsMove.of_update rfl fun r _ => r.markSent_moves now originTxHash⟩
  | deferRelayIntent id nextCheckAt relayStatus =>
    refine ⟨_, _, IntentsMove.of_update rfl fun r _ => ⟨?_, fun h => h, rfl⟩⟩
    exact ⟨rfl, rfl, rfl, rfl, rfl, Or.inl rfl, fun h => h, Or.inl⟩
  | expireQuoted destinationChainId =>
    refine ⟨_, _, IntentsMove.of_update rfl fun r hr => ?_⟩
    obtain ⟨-, hquoted, -⟩ := of_decide_eq_true hr
    refine ⟨⟨rfl, rfl, rfl, rfl, rfl, Or.inr ?_, fun h => h, fun h => by cases h⟩, ?_, rfl⟩
    · rw [hquoted]
      rfl
    · intro hsent
      rw [hquoted] at hsent
      cases hsent
  | resolveFilled id fills origin relayStatus =>
    rcases resolveFilled_cases L now id fills origin relayStatus with
      hsame | ⟨intent, L₁, rfl, hattr, hstep⟩
    · exact ⟨_, _, IntentsMove.of_eq (by rw [step, hsame])⟩
    · have hrows : (step L now (.resolveFilled intent.id fills origin relayStatus)).relayIntents =
          L₁.relayIntents := by
        rw [step, hstep, unparkUnlessPending_relayIntents]
      refine ⟨_, _, IntentsMove.of_resolution rfl hattr.found (by rw [hrows, hattr.relayIntents]) ?_ ?_⟩
      · exact RelayIntent.ends hattr.pending rfl rfl rfl rfl rfl rfl rfl
      · refine Or.inr ⟨intent, Table.mem_of_find? hattr.found, origin, hattr.unclaimed, fun r _ => ?_⟩
        by_cases hid : r.id = intent.id <;> simp [hid, RelayIntent.fill]
  | resolveFailed id failure relayStatus =>
    rcases resolveFailed_cases L now id failure relayStatus with
      hsame | ⟨intent, L₁, rfl, hfound, hpending, hintents, -, -, hstep⟩
    · exact ⟨_, _, IntentsMove.of_eq (by rw [step, hsame])⟩
    · have hrows : (step L now (.resolveFailed intent.id failure relayStatus)).relayIntents =
          L₁.relayIntents := by
        rw [step, hstep, unparkUnlessPending_relayIntents]
      refine ⟨_, _, IntentsMove.of_resolution rfl hfound (by rw [hrows, hintents]) ?_ ?_⟩
      · refine RelayIntent.ends hpending ?_ rfl rfl rfl rfl rfl rfl
        cases failure <;> rfl
      · refine Or.inl fun r _ => ?_
        by_cases hid : r.id = intent.id <;> simp [hid, RelayIntent.fail]
  | applyFinalizedRange range =>
    refine ⟨_, _, IntentsMove.of_eq ?_⟩
    rcases step_applyFinalizedRange L now range with hsame | ⟨applied, hrecord⟩
    · rw [hsame]
    · obtain ⟨credits, -, -, hframe⟩ := recordRange_eq_ok hrecord
      rw [hframe]
  | _ => exact absurd rfl hop

/-! ### Parking is explained -/

/-- The intents behind a parked transfer: the request waits for a sent intent, and an intent
for exactly this amount was reported as sent. -/
structure Explained (L : Ledger) (p : Provenance) : Prop where
  awaited : ∃ r ∈ L.relayIntents.rows, r.invoiceId = p.recorded.invoiceId ∧ r.status = .sent
  quoted : ∃ r ∈ L.relayIntents.rows, r.invoiceId = p.recorded.invoiceId ∧
    r.quotedOutAmount = p.recorded.observation.amount ∧ r.sentAt.isSome = true

/-- The invariant of the intents and of what is parked. -/
structure Parking (L : Ledger) : Prop where
  explained : ∀ p ∈ L.provenances, p.relayParkedAt.isSome = true → Explained L p
  unowned : ∀ p ∈ L.provenances, p.relayParkedAt.isSome = true →
    p.relayIntentId = none ∧ p.recorded.observation.amount ≠ 0
  reported : ∀ r ∈ L.relayIntents.rows, r.status = .sent → r.sentAt.isSome = true
  /-- One verified origin transaction belongs to one intent
  (`relay_intents_verified_origin_tx`). -/
  claimed : ∀ r ∈ L.relayIntents.rows, ∀ r' ∈ L.relayIntents.rows,
    r.originChainId = r'.originChainId → r.verifiedOriginTxHash.isSome = true →
    r.verifiedOriginTxHash = r'.verifiedOriginTxHash → r = r'

section

variable {L L' L₁ : Ledger} {now : Time} {op : Op} {f : RelayIntent → RelayIntent}
  {new : List RelayIntent}

lemma IntentsMove.mem (h : IntentsMove L L' op f new) {r : RelayIntent}
    (hr : r ∈ L.relayIntents.rows) : f r ∈ L'.relayIntents.rows := by
  rw [h.rows]
  exact List.mem_append_left _ (List.mem_map_of_mem hr)

lemma IntentsMove.cases (h : IntentsMove L L' op f new) {r' : RelayIntent}
    (hr' : r' ∈ L'.relayIntents.rows) :
    (∃ r ∈ L.relayIntents.rows, r' = f r) ∨ (r'.status = .quoted ∧ r'.verifiedOriginTxHash = none) := by
  rw [h.rows] at hr'
  rcases List.mem_append.1 hr' with hold | hnew
  · obtain ⟨r, hr, rfl⟩ := List.mem_map.1 hold
    exact Or.inl ⟨r, hr, rfl⟩
  · exact Or.inr (h.fresh r' hnew)

/-- A reported quote stays a reported quote. -/
lemma IntentsMove.quoted (h : IntentsMove L L' op f new) {id : InvoiceId} {amount : ℕ}
    (hq : ∃ r ∈ L.relayIntents.rows, r.invoiceId = id ∧ r.quotedOutAmount = amount ∧
      r.sentAt.isSome = true) :
    ∃ r ∈ L'.relayIntents.rows, r.invoiceId = id ∧ r.quotedOutAmount = amount ∧
      r.sentAt.isSome = true := by
  obtain ⟨r, hr, hid, hamount, hsent⟩ := hq
  have hmove := h.moves r hr
  exact ⟨f r, h.mem hr, hmove.invoiceId.trans hid, hmove.quotedOutAmount.trans hamount,
    hmove.sentAt hsent⟩

lemma IntentsMove.reported (h : IntentsMove L L' op f new)
    (hr : ∀ r ∈ L.relayIntents.rows, r.status = .sent → r.sentAt.isSome = true) :
    ∀ r ∈ L'.relayIntents.rows, r.status = .sent → r.sentAt.isSome = true := by
  intro r' hr' hsent
  rcases h.cases hr' with ⟨r, hmem, rfl⟩ | ⟨hquoted, -⟩
  · have hmove := h.moves r hmem
    rcases hmove.reported hsent with hold | hnew
    · exact hmove.sentAt (hr r hmem hold)
    · exact hnew
  · rw [hquoted] at hsent
    cases hsent

/-- Claiming an origin transaction nobody has keeps the claims apart. -/
lemma IntentsMove.claimed (h : IntentsMove L L' op f new)
    (hc : ∀ r ∈ L.relayIntents.rows, ∀ r' ∈ L.relayIntents.rows,
      r.originChainId = r'.originChainId → r.verifiedOriginTxHash.isSome = true →
      r.verifiedOriginTxHash = r'.verifiedOriginTxHash → r = r') :
    ∀ r ∈ L'.relayIntents.rows, ∀ r' ∈ L'.relayIntents.rows,
      r.originChainId = r'.originChainId → r.verifiedOriginTxHash.isSome = true →
      r.verifiedOriginTxHash = r'.verifiedOriginTxHash → r = r' := by
  intro s hs s' hs' hchain hsome heq
  have hverified : ∀ {t}, t ∈ L'.relayIntents.rows → t.verifiedOriginTxHash.isSome = true →
      ∃ r ∈ L.relayIntents.rows, t = f r := by
    intro t ht htsome
    rcases h.cases ht with hold | ⟨-, hnone⟩
    · exact hold
    · rw [hnone] at htsome
      cases htsome
  obtain ⟨r, hr, rfl⟩ := hverified hs hsome
  obtain ⟨r', hr', rfl⟩ := hverified hs' (heq ▸ hsome)
  rw [(h.moves r hr).originChainId, (h.moves r' hr').originChainId] at hchain
  rcases h.claims with hkeep | ⟨intent, hintent, origin, hfree, hset⟩
  · rw [hkeep r hr] at hsome heq
    rw [hkeep r' hr'] at heq
    rw [hc r hr r' hr' hchain hsome heq]
  · rw [hset r hr] at hsome heq
    rw [hset r' hr'] at heq
    -- whichever of the two claims anew, the other one would have had the transaction already
    split at heq <;> rename_i hid <;> split at heq <;> rename_i hid'
    · rw [L.relayIntents.eq_of_key_eq hr hr' (hid.trans hid'.symm)]
    · have : r = intent := L.relayIntents.eq_of_key_eq hr hintent hid
      subst this
      exact absurd heq.symm (hfree r' hr' hid' hchain.symm)
    · have : r' = intent := L.relayIntents.eq_of_key_eq hr' hintent hid'
      subst this
      exact absurd heq (hfree r hr hid hchain)
    · rw [if_neg hid] at hsome
      rw [hc r hr r' hr' hchain hsome heq]

/-- A transfer is parked for a sent intent that quoted its amount. -/
lemma InvoiceCredit.attribution_eq_parked {c : InvoiceCredit} {o : PaymentObservation}
    (h : c.attribution o = .parked) :
    (∃ wallet, c.payerWallet = some wallet ∧ o.sender ≠ wallet) ∧ o.amount ≠ 0 ∧
      ∃ intent ∈ c.relay, intent.status = .sent ∧ intent.quotedOutAmount = o.amount := by
  unfold InvoiceCredit.attribution at h
  split at h
  · split_ifs at h
    split at h <;> cases h
  · rename_i wallet hwallet
    split_ifs at h with hsender hzero hany
    · refine ⟨⟨wallet, hwallet, hsender⟩, hzero, ?_⟩
      simpa [List.any_eq_true] using hany
    · split at h <;> cases h

/-- A transfer as the range path parks it: from a wallet that is not the attested one, for the
amount of a sent intent. -/
structure ParkedBy (L : Ledger) (p : Provenance) : Prop where
  unowned : p.relayIntentId = none
  nonzero : p.recorded.observation.amount ≠ 0
  stranger : ∃ row b wallet, L.invoices.find? p.recorded.invoiceId = some row ∧
    row.binding = some b ∧ b.payerWallet = some wallet ∧ p.recorded.observation.sender ≠ wallet
  quoted : ∃ r ∈ L.relayIntents.rows, r.invoiceId = p.recorded.invoiceId ∧
    r.quotedOutAmount = p.recorded.observation.amount ∧ r.status = .sent

/-- What a range parks. -/
lemma recordRange_parked {range : FinalizedRange} {applied : RangeApplied}
    (h : recordRange L now range = .ok (L', applied)) {p : Provenance}
    (hp : p ∈ L'.provenances) (hparked : p.relayParkedAt.isSome = true) :
    p ∈ L.provenances ∨ ParkedBy L p := by
  obtain ⟨new, hrows, hnew⟩ := recordRange_rows h
  obtain ⟨r, hr, rfl⟩ := Ledger.mem_provenances.1 hp
  rw [hrows] at hr
  rcases List.mem_append.1 hr with hold | hr
  · exact Or.inl (Ledger.provenance_mem hold)
  · right
    obtain ⟨-, row, b, hrow, hb, -, -, -, hrecord⟩ := hnew r hr
    have hid : row.id = r.invoiceId := Table.key_of_find? hrow
    have hattr : (InvoiceCredit.ofRow (range.loads L.relayIntents.rows) row b).attribution r.observation =
        .parked := by
      by_contra hne
      have hnone : r.relayParkedAt = none := by
        rw [hrecord]
        simp [InvoiceCredit.observationRow, hne]
      rw [ObservationRow.provenance, hnone] at hparked
      cases hparked
    have howner : r.relayIntentId = none := by
      rw [hrecord]
      simp [InvoiceCredit.observationRow, hattr]
    obtain ⟨⟨wallet, hwallet, hsender⟩, hzero, intent, hintent, hsent, hamount⟩ :=
      InvoiceCredit.attribution_eq_parked hattr
    obtain ⟨hmem, hown⟩ := List.mem_filter.1 hintent
    have hinvoice : intent.invoiceId = r.invoiceId := by
      rw [← hid]
      exact of_decide_eq_true (Bool.and_eq_true_iff.1 hown).1
    exact ⟨howner, hzero, ⟨row, b, wallet, hrow, hb, hwallet, hsender⟩,
      ⟨intent, (range.loads_perm _).mem_iff.1 hmem, hinvoice, hamount, hsent⟩⟩

/-- What a resolution leaves parked is awaited by an intent that is still sent. -/
lemma IntentResolved.parked {intent : RelayIntent} {takes : ObservationRow → Bool}
    (h : IntentResolved L L₁ L' now intent takes) (hr : Reachable L) (hP : Parking L)
    {p : Provenance} (hp : p ∈ L'.provenances) (hparked : p.relayParkedAt.isSome = true) :
    p ∈ L.provenances ∧
      ∃ r ∈ L'.relayIntents.rows, r.invoiceId = p.recorded.invoiceId ∧ r.status = .sent := by
  -- an observation the intent takes is not parked any more
  have hold : ∀ q ∈ L₁.provenances, q.relayParkedAt.isSome = true → q ∈ L.provenances := by
    intro q hq hqparked
    obtain ⟨r, hmem, rfl⟩ := Ledger.mem_provenances.1 hq
    rw [h.observations] at hmem
    obtain ⟨o, ho, rfl⟩ := List.mem_map.1 hmem
    by_cases htakes : takes o = true
    · simp [htakes, ObservationRow.provenance] at hqparked
    · simpa [htakes] using Ledger.provenance_mem ho
  -- the sent intents of another request are still there
  have hother : ∀ q ∈ L.provenances, q.relayParkedAt.isSome = true →
      q.recorded.invoiceId ≠ intent.invoiceId →
      ∃ r ∈ L₁.relayIntents.rows, r.invoiceId = q.recorded.invoiceId ∧ r.status = .sent := by
    intro q hq hqparked hne
    obtain ⟨r, hmem, hid, hsent⟩ := (hP.explained q hq hqparked).awaited
    refine ⟨r, h.others r hmem fun hrid => ?_, hid, hsent⟩
    rw [L.relayIntents.eq_of_key_eq hmem h.mem hrid] at hid
    exact hne hid.symm
  rcases h.unpark_cases hr with ⟨rfl, r, hmem, hid, hsent⟩ | hun
  · have hpL := hold p hp hparked
    refine ⟨hpL, ?_⟩
    by_cases hinvoice : p.recorded.invoiceId = intent.invoiceId
    · exact ⟨r, hmem, hid.trans hinvoice.symm, hsent⟩
    · exact hother p hpL hparked hinvoice
  · rw [hun.provenances] at hp
    obtain ⟨q, hq, rfl⟩ := List.mem_map.1 hp
    unfold Provenance.unpark at hparked ⊢
    split at hparked
    · cases hparked
    · rename_i hinvoice
      rw [if_neg hinvoice, hun.relayIntents]
      exact ⟨hold q hq hparked, hother q (hold q hq hparked) hparked hinvoice⟩

/-- A parked transfer was parked before, or a range parks it now. -/
lemma step_parked (hr : Reachable L) (hP : Parking L) (op : Op) {p : Provenance}
    (hp : p ∈ (step L now op).provenances) (hparked : p.relayParkedAt.isSome = true) :
    p ∈ L.provenances ∨ (op.resolvesIntent = false ∧ ParkedBy L p) := by
  cases hop : op.resolvesIntent with
  | true =>
    left
    rcases step_resolved L now hop with hsame | ⟨intent, L₁, takes, hres⟩
    · rw [hsame] at hp
      exact hp
    · exact (hres.parked hr hP hp hparked).1
  | false =>
    rcases step_provenances L now hop with ⟨hsame, -⟩ | ⟨range, applied, hrecord⟩
    · rw [hsame] at hp
      exact Or.inl hp
    · exact (recordRange_parked hrecord hp hparked).imp id fun h => ⟨rfl, h⟩

lemma Parking.step (hr : Reachable L) (hP : Parking L) (now : Time) (op : Op) :
    Parking (step L now op) := by
  obtain ⟨f, new, hmove⟩ := step_intents L now op
  refine ⟨fun p hp hparked => ?_, fun p hp hparked => ?_, hmove.reported hP.reported,
    hmove.claimed hP.claimed⟩
  · -- the sent intent behind the transfer is still there, or its resolution found another one
    have hawaited : op.resolvesIntent = false → (∃ r ∈ L.relayIntents.rows,
        r.invoiceId = p.recorded.invoiceId ∧ r.status = .sent) →
        ∃ r ∈ (Payday.step L now op).relayIntents.rows,
          r.invoiceId = p.recorded.invoiceId ∧ r.status = .sent := by
      rintro hop ⟨r, hmem, hid, hsent⟩
      exact ⟨f r, hmove.mem hmem, (hmove.moves r hmem).invoiceId.trans hid,
        hmove.sent hop r hmem hsent⟩
    rcases step_parked hr hP op hp hparked with hold | ⟨hop, hnew⟩
    · have hex := hP.explained p hold hparked
      refine ⟨?_, hmove.quoted hex.quoted⟩
      cases hop : op.resolvesIntent with
      | false => exact hawaited hop hex.awaited
      | true =>
        rcases step_resolved L now hop with hsame | ⟨intent, L₁, takes, hres⟩
        · rw [hsame]
          exact hex.awaited
        · exact (hres.parked hr hP hp hparked).2
    · obtain ⟨r, hmem, hid, hamount, hsent⟩ := hnew.quoted
      exact ⟨hawaited hop ⟨r, hmem, hid, hsent⟩,
        hmove.quoted ⟨r, hmem, hid, hamount, hP.reported r hmem hsent⟩⟩
  · rcases step_parked hr hP op hp hparked with hold | ⟨-, hnew⟩
    · exact hP.unowned p hold hparked
    · exact ⟨hnew.unowned, hnew.nonzero⟩

end

lemma Reachable.parking {L : Ledger} (h : Reachable L) : Parking L := by
  refine Reachable.induction_reachable ?_ (fun L now op hr hP => hP.step hr now op) h
  refine ⟨?_, ?_, ?_, ?_⟩
  · intro p hp
    cases hp
  · intro p hp
    cases hp
  · intro r hr
    cases hr
  · intro r hr
    cases hr

/-! ### The verdict on a parked transfer -/

/-- What became of a transfer that was parked in `L`. -/
inductive Verdict (L L' : Ledger) (p : Provenance) (p' : Provenance) : Prop
  /-- Still parked. -/
  | parked (h : p'.relayParkedAt.isSome = true)
  /-- Attributed to a filled intent of its request. -/
  | attributed (r : RelayIntent) (hr : r ∈ L'.relayIntents.rows)
      (hinvoice : r.invoiceId = p.recorded.invoiceId) (hstatus : r.status = .filled)
      (h : p'.relayIntentId = some r.id)
  /-- Counted as foreign: the request is flagged, and no later than at the transfer's time if
  it was not flagged before. -/
  | foreign (t : ℕ) (h : p'.relayIntentId = none) (hflag : L'.flag p.recorded.invoiceId = some t)
      (htime : L.flag p.recorded.invoiceId = none → t ≤ p.recorded.observation.blockTimestamp)

/-- A resolution attributes what the fill made and counts the rest of what it hands back as
foreign. -/
lemma IntentResolved.verdict {L L₁ L' : Ledger} {now : Time} {intent : RelayIntent}
    {takes : ObservationRow → Bool} (h : IntentResolved L L₁ L' now intent takes)
    (hr : Reachable L) {p : Provenance} (hp : p ∈ L.provenances)
    (hparked : p.relayParkedAt.isSome = true) :
    ∃ p' ∈ L'.provenances, p'.recorded = p.recorded ∧ Verdict L L' p p' := by
  obtain ⟨o, ho, rfl⟩ := Ledger.mem_provenances.1 hp
  have howner := (hr.parking.unowned _ hp hparked).1
  have hintents : L'.relayIntents = L₁.relayIntents := by
    rw [h.unparks, unparkUnlessPending_relayIntents]
  by_cases htakes : takes o = true
  · -- the fill made it; unparking the rest changes nothing about it
    obtain ⟨r, hmem, hid, hinvoice, hfilled⟩ := h.filled o htakes
    have hown := (h.own o htakes).1
    set o₁ : ObservationRow := { o with relayIntentId := some intent.id, relayParkedAt := none }
    have ho₁ : o₁ ∈ L₁.observations.rows := by
      rw [h.observations]
      exact List.mem_map.2 ⟨o, ho, by rw [if_pos htakes]⟩
    refine ⟨o₁.provenance, ?_, rfl, .attributed r (by rw [hintents]; exact hmem)
      (hinvoice.trans hown.symm) hfilled (congrArg some hid.symm)⟩
    rcases h.unpark_cases hr with ⟨rfl, -⟩ | hun
    · exact Ledger.provenance_mem ho₁
    · rw [hun.provenances]
      exact List.mem_map.2 ⟨_, Ledger.provenance_mem ho₁, Provenance.unpark_of_none rfl _⟩
  · have ho₁ : o ∈ L₁.observations.rows := by
      rw [h.observations]
      exact List.mem_map.2 ⟨o, ho, by rw [if_neg htakes]⟩
    have hp₁ := Ledger.provenance_mem ho₁
    rcases h.unpark_cases hr with ⟨rfl, -⟩ | hun
    · exact ⟨_, hp₁, rfl, .parked hparked⟩
    · by_cases hinvoice : o.invoiceId = intent.invoiceId
      · refine ⟨Provenance.unpark intent.invoiceId o.provenance, ?_, by simp, ?_⟩
        · rw [hun.provenances]
          exact List.mem_map_of_mem hp₁
        · have hmem : o.observation.blockTimestamp ∈ L₁.parkedTimes intent.invoiceId :=
            Ledger.mem_parkedTimes.2 ⟨_, hp₁, hinvoice, hparked, rfl⟩
          have hflag := hun.flag intent.invoiceId
          have hsameFlag : L₁.flag intent.invoiceId = L.flag intent.invoiceId := by
            rw [Ledger.flag, Ledger.flag, h.invoices]
          rw [if_pos rfl, hsameFlag] at hflag
          obtain ⟨earliest, hmin⟩ : ∃ t, (L₁.parkedTimes intent.invoiceId).min? = some t := by
            rw [← Option.isSome_iff_exists, List.isSome_min?_iff]
            exact List.ne_nil_of_mem hmem
          rw [hmin] at hflag
          have hle : earliest ≤ o.observation.blockTimestamp :=
            (List.min?_eq_some_iff.1 hmin).2 _ hmem
          have hid : o.provenance.recorded.invoiceId = intent.invoiceId := hinvoice
          rcases hold : L.flag intent.invoiceId with _ | t
          · rw [hold] at hflag
            refine .foreign earliest ?_ (by rw [hid]; exact hflag) (fun _ => hle)
            simpa [Provenance.unpark, hid] using howner
          · rw [hold] at hflag
            refine .foreign t ?_ (by rw [hid]; exact hflag) (fun hnone => ?_)
            · simpa [Provenance.unpark, hid] using howner
            · rw [hid, hold] at hnone
              cases hnone
      · refine ⟨o.provenance, ?_, rfl, .parked hparked⟩
        rw [hun.provenances]
        exact List.mem_map.2 ⟨_, hp₁, Provenance.unpark_of_ne hinvoice⟩

/-- Every other transaction leaves a parked transfer parked. -/
lemma step_verdict {L : Ledger} (h : Reachable L) (now : Time) (op : Op) {p : Provenance}
    (hp : p ∈ L.provenances) (hparked : p.relayParkedAt.isSome = true) :
    ∃ p' ∈ (step L now op).provenances, p'.recorded = p.recorded ∧
      Verdict L (step L now op) p p' := by
  cases hop : op.resolvesIntent with
  | true =>
    rcases step_resolved L now hop with hsame | ⟨intent, L₁, takes, hres⟩
    · rw [hsame]
      exact ⟨p, hp, rfl, .parked hparked⟩
    · exact hres.verdict h hp hparked
  | false => exact ⟨p, mem_provenances_step hop hp, rfl, .parked hparked⟩

/-- In every reachable ledger, and for every transaction on it: a parked transfer waits for a
sent intent of its request and some intent of the request that quoted its amount was reported
as sent; a transfer that is unparked is attributed to a filled intent or counted as foreign,
and none is left parked once no intent of its request is sent; an intent only moves along the
diagram, so a filled, failed or refunded one never changes again; and a verified origin
transaction belongs to one intent. -/
theorem parking_is_explained {L : Ledger} (h : Reachable L) (now : Time) (op : Op) :
    (∀ p ∈ L.provenances, p.relayParkedAt.isSome = true →
      (∃ r ∈ L.relayIntents.rows, r.invoiceId = p.recorded.invoiceId ∧ r.status = .sent) ∧
      ∃ r ∈ L.relayIntents.rows, r.invoiceId = p.recorded.invoiceId ∧
        r.quotedOutAmount = p.recorded.observation.amount ∧ r.sentAt.isSome = true) ∧
    (∀ p ∈ L.provenances, p.relayParkedAt.isSome = true →
      ∃ p' ∈ (step L now op).provenances, p'.recorded = p.recorded ∧
        Verdict L (step L now op) p p') ∧
    (∀ id, (∀ r ∈ (step L now op).relayIntents.rows, r.invoiceId = id → r.status ≠ .sent) →
      ∀ p ∈ (step L now op).provenances, p.recorded.invoiceId = id → p.relayParkedAt = none) ∧
    (∀ r ∈ L.relayIntents.rows, ∃ r' ∈ (step L now op).relayIntents.rows, r'.id = r.id ∧
      (r'.status = r.status ∨ r.status.leadsTo r'.status = true) ∧
      (r.status.isFinal = true → r'.status = r.status)) ∧
    (∀ r ∈ L.relayIntents.rows, ∀ r' ∈ L.relayIntents.rows, r.originChainId = r'.originChainId →
      r.verifiedOriginTxHash.isSome = true → r.verifiedOriginTxHash = r'.verifiedOriginTxHash →
      r = r') := by
  have hP := h.parking
  refine ⟨fun p hp hparked => ?_, fun p hp hparked => step_verdict h now op hp hparked, ?_, ?_,
    hP.claimed⟩
  · have hex := hP.explained p hp hparked
    exact ⟨hex.awaited, hex.quoted⟩
  · intro id hnone p hp hid
    by_contra hparked
    obtain ⟨r, hmem, hinvoice, hsent⟩ :=
      ((hP.step h now op).explained p hp (Option.isSome_iff_ne_none.2 hparked)).awaited
    exact hnone r hmem (hinvoice.trans hid) hsent
  · intro r hr
    obtain ⟨f, new, hmove⟩ := step_intents L now op
    have hm := hmove.moves r hr
    refine ⟨f r, hmove.mem hr, hm.id, hm.status, fun hfinal => ?_⟩
    rcases hm.status with hsame | hleads
    · exact hsame
    · rw [RelayIntentStatus.leadsTo_of_isFinal hfinal] at hleads
      cases hleads

/-! ### A quoted fill of the sample request -/

/-- A quote for 60 units of the sample request, good until time 50. -/
def sampleIntent : RelayIntent where
  id := 3
  invoiceId := 7
  requestId := 300
  originChainId := 8
  destinationChainId := 1
  payerWallet := 70
  quotedInAmount := 61
  quotedOutAmount := 60
  status := .quoted
  originTxHash := none
  verifiedOriginTxHash := none
  fillTxHashes := []
  relayStatus := none
  nextCheckAt := none
  createdAt := 0
  sentAt := none
  resolvedAt := none
  expiresAt := 50

/-- The sample request with the attested wallet 70. -/
def attestedRequest : IssuedRequest :=
  { sampleRequest with
    walletAttestationRequired := true
    initialBinding := some ⟨1, 10, 20, 30, 40, 0, some 70⟩ }

/-- The quote is reported, the solver's transfer of 60 is parked, and the intent fails. -/
def parkedRun : List (Time × Op) :=
  [(0, .insertIssued attestedRequest),
    (1, .insertRelayIntent sampleIntent),
    (2, .markSent 3 7 70 800),
    (3, .applyFinalizedRange (sampleRange none 5 [sampleTransfer 3 0 0 60]))]

/-- The parked transfer of the sample request, and its end when the intent fails. -/
theorem parking_is_explained_sample :
    (∃ p ∈ (run Ledger.empty parkedRun).provenances, p.relayParkedAt.isSome = true ∧
      ∃ r ∈ (run Ledger.empty parkedRun).relayIntents.rows,
        r.invoiceId = p.recorded.invoiceId ∧ r.status = .sent) ∧
    ∃ p' ∈ (step (run Ledger.empty parkedRun) 4 (.resolveFailed 3 .failed "failure")).provenances,
      p'.relayParkedAt = none := by
  obtain ⟨hparked, -, hnone, -, -⟩ := parking_is_explained ⟨parkedRun, rfl⟩ 4
    (.resolveFailed 3 .failed "failure")
  have hp : (⟨⟨1, 7, sampleTransfer 3 0 0 60⟩, none, some 3⟩ : Provenance) ∈
      (run Ledger.empty parkedRun).provenances := by decide
  have hp' : (⟨⟨1, 7, sampleTransfer 3 0 0 60⟩, none, none⟩ : Provenance) ∈
      (step (run Ledger.empty parkedRun) 4 (.resolveFailed 3 .failed "failure")).provenances := by
    decide
  exact ⟨⟨_, hp, rfl, (hparked _ hp rfl).1⟩, _, hp', hnone 7 (by decide) _ hp' rfl⟩

/-- A quote for 50 units is reported beside the one for 60, and the transfer of 60 is parked. -/
def twoQuotesRun : List (Time × Op) :=
  [(0, .insertIssued attestedRequest),
    (1, .insertRelayIntent sampleIntent),
    (1, .insertRelayIntent { sampleIntent with id := 4, requestId := 301, quotedOutAmount := 50 }),
    (2, .markSent 3 7 70 800),
    (2, .markSent 4 7 70 801),
    (3, .applyFinalizedRange (sampleRange none 5 [sampleTransfer 3 0 0 60])),
    (4, .resolveFailed 3 .failed "failure")]

/-- The intent that quoted the transfer fails, and the transfer stays parked for the other one. -/
lemma transfer_stays_parked_for_another_amount :
    ¬ ∀ L, Reachable L → ∀ p ∈ L.provenances, p.relayParkedAt.isSome = true →
      ∃ r ∈ L.relayIntents.rows, r.invoiceId = p.recorded.invoiceId ∧ r.status = .sent ∧
        r.quotedOutAmount = p.recorded.observation.amount := by
  intro hclaim
  have hp : (⟨⟨1, 7, sampleTransfer 3 0 0 60⟩, none, some 3⟩ : Provenance) ∈
      (run Ledger.empty twoQuotesRun).provenances := by decide
  have hsent : ∀ r ∈ (run Ledger.empty twoQuotesRun).relayIntents.rows, r.status = .sent →
      r.quotedOutAmount ≠ 60 := by decide
  obtain ⟨r, hmem, -, hstatus, hquoted⟩ := hclaim _ ⟨twoQuotesRun, rfl⟩ _ hp rfl
  exact hsent r hmem hstatus hquoted

/-- An expired quote is reported late and becomes a sent intent. -/
lemma expired_intent_is_sent_again :
    ¬ ∀ L, Reachable L → ∀ now op, ∀ r ∈ L.relayIntents.rows, r.status = .expired →
      ∀ r' ∈ (step L now op).relayIntents.rows, r'.id = r.id → r'.status = .expired := by
  intro hclaim
  let ops : List (Time × Op) :=
    [(0, .insertIssued attestedRequest), (1, .insertRelayIntent sampleIntent), (60, .expireQuoted 1)]
  let r : RelayIntent := { sampleIntent with status := .expired, createdAt := 1, resolvedAt := some 60 }
  let r' : RelayIntent := { r with
    status := .sent, originTxHash := some 800, sentAt := some 61, nextCheckAt := some 61,
    resolvedAt := none }
  have hr : r ∈ (run Ledger.empty ops).relayIntents.rows := by decide
  have hr' : r' ∈ (step (run Ledger.empty ops) 61 (.markSent 3 7 70 800)).relayIntents.rows := by
    decide
  have hstatus := hclaim _ ⟨ops, rfl⟩ 61 (.markSent 3 7 70 800) r hr rfl r' hr' rfl
  cases hstatus

/-- A parked transfer need not wait for an intent that quoted its amount, and an expired intent can move. -/
theorem parking_outlives_quote_and_expired_is_no_end :
    (¬ ∀ L, Reachable L → ∀ p ∈ L.provenances, p.relayParkedAt.isSome = true →
      ∃ r ∈ L.relayIntents.rows, r.invoiceId = p.recorded.invoiceId ∧ r.status = .sent ∧
        r.quotedOutAmount = p.recorded.observation.amount) ∧
    ¬ ∀ L, Reachable L → ∀ now op, ∀ r ∈ L.relayIntents.rows, r.status = .expired →
      ∀ r' ∈ (step L now op).relayIntents.rows, r'.id = r.id → r'.status = .expired :=
  ⟨transfer_stays_parked_for_another_amount, expired_intent_is_sent_again⟩

end Payday
