/-
# What a proof is built from

The document of a stored request says what its row does, and its address follows from the document;
the transfers recorded for a request went to its address, and every value fits its type.  These hold
in every database that a run reaches.  A transaction that neither issues nor binds leaves documents
and addresses alone, and what it does to the ledger is one operation of the ledger.
-/
import Payday.Ledger.Quotes
import Payday.Ledger.Settlement
import Payday.Ledger.Unsolicited
import Payday.Ledger.Writes
import Payday.Proofs.Agreement
import Payday.Proofs.Database

namespace Payday

section Ledger

variable {L : Ledger} {now : Time} {op : Op} {id : InvoiceId}

/-! ### Rows -/

/-- Only a binding is the event of a binding. -/
lemma writesDocument_of_bind {b : Binding} (h : L.event now op id = .bind b) : op.writesDocument = true := by
  unfold Ledger.event at h
  split at h
  · cases h
  · cases op with
    | insertIssued | bindPayerWallet | bindNetwork => rfl
    | expireUnbound chainTime =>
      simp only [eventOf] at h
      split_ifs at h
    | applyFinalizedRange range =>
      simp only [eventOf, rangeEvent] at h
      split at h
      · split_ifs at h
      · cases h
    | scheduleSweepJob policy chainId jobId correlationId scan =>
      simp only [eventOf, scheduleEvent] at h
      split at h
      · split_ifs at h
      · cases h
    | deliver policy event =>
      cases event with
      | sweepFinalized receipt =>
        simp only [eventOf, receiptEvent] at h
        split at h
        · split_ifs at h
        · cases h
      | sweepAbandoned jobId reason =>
        simp only [eventOf, closeEvent] at h
        split_ifs at h
      | executionRejected jobId reason =>
        simp only [eventOf, closeEvent] at h
        split_ifs at h
      | _ => cases h
    | _ => cases h

lemma Request.binding_apply_of_ne {q : Request} {e : Event} (h : ∀ b, e ≠ .bind b) :
    (q.apply e).binding = q.binding := by
  cases e with
  | bind b => exact absurd rfl (h b)
  | receipt receipt outcome =>
    simp only [Request.apply]
    split <;> rfl
  | _ => rfl

/-- What issuance fixed is as it was. -/
structure SameTerms (row row' : Invoice) : Prop where
  recovery : row'.recovery = row.recovery
  amount : row'.amount = row.amount
  expirationTimestamp : row'.expirationTimestamp = row.expirationTimestamp
  payerVerification : row'.payerVerification = row.payerVerification

/-- A transaction keeps what issuance fixed. -/
lemma step_sameTerms (now : Time) (op : Op) {row : Invoice} (hrow : L.invoices.find? id = some row) :
    ∃ row', (step L now op).invoices.find? id = some row' ∧ SameTerms row row' := by
  refine step_keeps op (P := SameTerms row) (fun row₁ w _ h => ?_) hrow ⟨rfl, rfl, rfl, rfl⟩
  cases w with
  | credit c =>
    simp only [Write.apply, InvoiceCredit.write]
    split <;> exact ⟨h.recovery, h.amount, h.expirationTimestamp, h.payerVerification⟩
  | _ => exact ⟨h.recovery, h.amount, h.expirationTimestamp, h.payerVerification⟩

/-- A transaction that binds nothing keeps the address, or its absence. -/
lemma step_binding {row row' : Invoice} (hop : op.writesDocument = false) (hrow : L.invoices.find? id = some row)
    (hrow' : (step L now op).invoices.find? id = some row') : row'.binding = row.binding := by
  have hq : L.request? id = some (row.request (L.observationsOf id)) :=
    Ledger.request?_eq_some.2 ⟨row, hrow, rfl⟩
  obtain ⟨row₁, hrow₁, hrequest⟩ := Ledger.request?_eq_some.1 (request?_step now op hq).moved
  obtain rfl := Option.some.inj (hrow₁.symm.trans hrow')
  have hne : ∀ b, L.event now op id ≠ .bind b := by
    intro b hb
    rw [writesDocument_of_bind hb] at hop
    cases hop
  have hbinding := Request.binding_apply_of_ne (q := row.request (L.observationsOf id)) hne
  rw [← hrequest] at hbinding
  exact hbinding

/-- An event leaves the settlement transaction alone, or takes the one its evidence names. -/
lemma Request.settlementTxHash_apply (q : Request) (e : Event) :
    (q.apply e).settlementTxHash = q.settlementTxHash ∨
      ∃ receipt outcome t, e = .receipt receipt outcome ∧ settlementTx receipt outcome = some t ∧
        (q.apply e).settlementTxHash = some t.txHash := by
  cases e with
  | receipt receipt outcome =>
    rcases hsome : q.settlementTxHash with _ | hash
    · rcases outcome with x | x | ⟨x, _ | evidence⟩ | cause
      · exact Or.inr ⟨receipt, _, _, rfl, rfl, by simp [Request.apply, Request.drain?, drainOf, Request.drain,
          ownDrain, hsome]⟩
      · exact Or.inr ⟨receipt, _, _, rfl, rfl, by simp [Request.apply, Request.drain?, drainOf, Request.drain,
          ownDrain, hsome]⟩
      · exact Or.inr ⟨receipt, _, _, rfl, rfl, by simp [Request.apply, Request.drain?, drainOf, Request.drain,
          ownDrain, hsome]⟩
      · exact Or.inr ⟨receipt, _, _, rfl, rfl, by simp [Request.apply, Request.drain?, drainOf, Request.drain,
          hsome]⟩
      · exact Or.inl hsome
    · left
      simp only [Request.apply]
      split
      · simp [Request.drain, hsome]
      · exact hsome
  | _ => exact Or.inl rfl

/-- The settlement transactions fit their type. -/
def Ledger.SettlementsTyped (L : Ledger) : Prop :=
  ∀ id row, L.invoices.find? id = some row → ∀ hash ∈ row.settlementTxHash, hash < 2 ^ 256

lemma Ledger.SettlementsTyped.step (h : L.SettlementsTyped) (hop : op.Typed) :
    (step L now op).SettlementsTyped := by
  intro id row' hrow' hash hhash
  rcases hprev : L.invoices.find? id with _ | row
  · obtain ⟨input, -, rfl⟩ := find?_step_issued op hprev hrow'
    cases hhash
  · have hq : L.request? id = some (row.request (L.observationsOf id)) :=
      Ledger.request?_eq_some.2 ⟨row, hprev, rfl⟩
    obtain ⟨row₁, hrow₁, hrequest⟩ := Ledger.request?_eq_some.1 (request?_step now op hq).moved
    obtain rfl := Option.some.inj (hrow₁.symm.trans hrow')
    have hrecorded : ((row.request (L.observationsOf id)).apply (L.event now op id)).settlementTxHash = some hash := by
      rw [← hrequest]
      exact hhash
    rcases Request.settlementTxHash_apply (row.request (L.observationsOf id)) (L.event now op id) with
      hsame | ⟨receipt, outcome, t, he, ht, htaken⟩
    · exact h id row hprev hash (hsame.symm.trans hrecorded)
    · -- the evidence of a typed receipt
      obtain ⟨policy, applied, rfl, -, hitem⟩ := event_eq_receipt he
      obtain rfl := Option.some.inj (htaken.symm.trans hrecorded)
      rcases outcome with x | x | ⟨x, _ | evidence⟩ | cause
      · cases ht
        exact hop.txHash
      · cases ht
        exact hop.txHash
      · cases ht
        exact hop.txHash
      · cases ht
        exact hop.evidence _ hitem x evidence rfl
      · cases ht

/-! ### Recorded transfers -/

/-- A recorded log fits its types and went to the address and the token of its request. -/
def Ledger.RecordedTyped (L : Ledger) : Prop :=
  ∀ x ∈ L.recorded, x.observation.Typed ∧ ∃ row b, L.invoices.find? x.invoiceId = some row ∧
    row.binding = some b ∧ b.chainId = x.chainId ∧ b.paymentAddress = x.observation.recipient ∧
    b.token = x.observation.token

lemma Ledger.RecordedTyped.step (h : L.RecordedTyped) (hop : op.Typed) : (step L now op).RecordedTyped := by
  -- a binding that is set stays
  have hkept : ∀ (x : Recorded), (∃ row b, L.invoices.find? x.invoiceId = some row ∧ row.binding = some b ∧
      b.chainId = x.chainId ∧ b.paymentAddress = x.observation.recipient ∧ b.token = x.observation.token) →
      ∃ row b, (Payday.step L now op).invoices.find? x.invoiceId = some row ∧ row.binding = some b ∧
        b.chainId = x.chainId ∧ b.paymentAddress = x.observation.recipient ∧ b.token = x.observation.token := by
    rintro x ⟨row, b, hrow, hb, hrest⟩
    obtain ⟨row', hrow', hb'⟩ := binding_step hrow hb now op
    exact ⟨row', b, hrow', hb', hrest⟩
  intro x hx
  rcases step_scan L now op with hsame | ⟨range, funded, expired, rfl, -, hrecord⟩
  · rw [hsame.recorded] at hx
    exact ⟨(h x hx).1, hkept x (h x hx).2⟩
  · obtain ⟨new, hrecorded, hnew⟩ := recordRange_recorded hrecord
    rw [hrecorded] at hx
    rcases List.mem_append.1 hx with hold | hx
    · exact ⟨(h x hold).1, hkept x (h x hold).2⟩
    · obtain ⟨hchain, hmem, row, b, hrow, hb, hbc, haddress, htoken⟩ := hnew x hx
      exact ⟨hop x.observation hmem, hkept x ⟨row, b, hrow, hb, hbc.trans hchain.symm, haddress, htoken⟩⟩

/-! ### Intents -/

/-- The two intents are the same quote. -/
structure RelayIntent.SameQuote (r r' : RelayIntent) : Prop where
  id : r'.id = r.id
  requestId : r'.requestId = r.requestId
  originChainId : r'.originChainId = r.originChainId
  payerWallet : r'.payerWallet = r.payerWallet

lemma RelayIntent.SameQuote.refl (r : RelayIntent) : r.SameQuote r := ⟨rfl, rfl, rfl, rfl⟩

lemma RelayIntent.markSent_sameQuote (now : Time) (hash : Hash) (r : RelayIntent) :
    r.SameQuote (r.markSent now hash) := by
  unfold RelayIntent.markSent
  split <;> split_ifs <;> exact ⟨rfl, rfl, rfl, rfl⟩

/-- Where an intent comes from: it was there, with its origin transaction unless this fill verified it,
or it is quoted now. -/
lemma step_quote {r' : RelayIntent} (hr' : r' ∈ (step L now op).relayIntents.rows) :
    (∃ r ∈ L.relayIntents.rows, r.SameQuote r' ∧ (r'.verifiedOriginTxHash = r.verifiedOriginTxHash ∨
      ∃ fills origin relayStatus, op = .resolveFilled r.id fills origin relayStatus ∧
        r'.verifiedOriginTxHash = some origin)) ∨
    ∃ intent, op = .insertRelayIntent intent ∧ intent.SameQuote r' ∧ r'.verifiedOriginTxHash = none := by
  have hold : r' ∈ L.relayIntents.rows → ∃ r ∈ L.relayIntents.rows, r.SameQuote r' ∧
      (r'.verifiedOriginTxHash = r.verifiedOriginTxHash ∨
        ∃ fills origin relayStatus, op = .resolveFilled r.id fills origin relayStatus ∧
          r'.verifiedOriginTxHash = some origin) :=
    fun hmem => ⟨r', hmem, RelayIntent.SameQuote.refl r', Or.inl rfl⟩
  by_cases hop : op.writesRelay = false
  · rw [(step_sameRelay L now hop).relayIntents] at hr'
    exact Or.inl (hold hr')
  cases op with
  | insertRelayIntent intent =>
    simp only [step, insertRelayIntent] at hr'
    split at hr'
    · exact Or.inl (hold hr')
    · rcases Table.mem_rows_insertNew hr' with hmem | rfl
      · exact Or.inl (hold hmem)
      · exact Or.inr ⟨intent, rfl, ⟨rfl, rfl, rfl, rfl⟩, rfl⟩
  | markSent intentId invoiceId payerWallet originTxHash =>
    simp only [step, markSent] at hr'
    rcases Table.mem_updateWhere hr' with ⟨r, hr, -, rfl⟩ | ⟨hmem, -⟩
    · exact Or.inl ⟨r, hr, r.markSent_sameQuote now originTxHash, Or.inl (r.markSent_moves now originTxHash).2.2⟩
    · exact Or.inl (hold hmem)
  | deferRelayIntent intentId nextCheckAt relayStatus =>
    simp only [step, deferRelayIntent] at hr'
    rcases Table.mem_updateWhere hr' with ⟨r, hr, -, rfl⟩ | ⟨hmem, -⟩
    · exact Or.inl ⟨r, hr, ⟨rfl, rfl, rfl, rfl⟩, Or.inl rfl⟩
    · exact Or.inl (hold hmem)
  | expireQuoted destinationChainId =>
    simp only [step, expireQuoted] at hr'
    rcases Table.mem_updateWhere hr' with ⟨r, hr, -, rfl⟩ | ⟨hmem, -⟩
    · exact Or.inl ⟨r, hr, ⟨rfl, rfl, rfl, rfl⟩, Or.inl rfl⟩
    · exact Or.inl (hold hmem)
  | resolveFilled intentId fills origin relayStatus =>
    left
    rcases resolveFilled_cases L now intentId fills origin relayStatus with hsame | ⟨intent, L₁, rfl, hattr, hstep⟩
    · rw [step, hsame] at hr'
      exact hold hr'
    · rw [step, hstep, unparkUnlessPending_relayIntents, hattr.relayIntents] at hr'
      obtain ⟨r, hr, rfl⟩ := List.mem_map.1 hr'
      split
      · rename_i hid
        refine ⟨r, hr, ⟨rfl, rfl, rfl, rfl⟩, Or.inr ⟨fills, origin, relayStatus, ?_, rfl⟩⟩
        rw [of_decide_eq_true hid]
      · exact ⟨r, hr, RelayIntent.SameQuote.refl r, Or.inl rfl⟩
  | resolveFailed intentId failure relayStatus =>
    left
    rcases resolveFailed_cases L now intentId failure relayStatus with
      hsame | ⟨intent, L₁, rfl, hfound, hpending, hintents, -, -, hstep⟩
    · rw [step, hsame] at hr'
      exact hold hr'
    · rw [step, hstep, unparkUnlessPending_relayIntents, hintents] at hr'
      obtain ⟨r, hr, rfl⟩ := List.mem_map.1 hr'
      split
      · exact ⟨r, hr, ⟨rfl, rfl, rfl, rfl⟩, Or.inl rfl⟩
      · exact ⟨r, hr, RelayIntent.SameQuote.refl r, Or.inl rfl⟩
  | applyFinalizedRange range =>
    left
    rcases step_applyFinalizedRange L now range with hsame | ⟨applied, hrecord⟩
    · rw [hsame] at hr'
      exact hold hr'
    · obtain ⟨credits, -, -, hframe⟩ := recordRange_eq_ok hrecord
      rw [hframe] at hr'
      exact hold hr'
  | _ => exact absurd rfl hop

/-- The intents fit their types. -/
def Ledger.IntentsTyped (L : Ledger) : Prop := ∀ r ∈ L.relayIntents.rows, r.Typed

lemma Ledger.IntentsTyped.step (h : L.IntentsTyped) (hop : op.Typed) : (step L now op).IntentsTyped := by
  intro r' hr'
  rcases step_quote hr' with ⟨r, hr, hquote, horigin⟩ | ⟨intent, rfl, hquote, hnone⟩
  · have htyped := h r hr
    refine ⟨hquote.requestId ▸ htyped.requestId, hquote.originChainId ▸ htyped.originChainId,
      hquote.payerWallet ▸ htyped.payerWallet, fun hash hhash => ?_⟩
    rcases horigin with hsame | ⟨fills, origin, relayStatus, rfl, hverified⟩
    · exact htyped.verifiedOriginTxHash hash (hsame ▸ hhash)
    · rw [hverified] at hhash
      obtain rfl := Option.some.inj hhash
      exact hop
  · refine ⟨hquote.requestId ▸ hop.requestId, hquote.originChainId ▸ hop.originChainId,
      hquote.payerWallet ▸ hop.payerWallet, fun hash hhash => ?_⟩
    rw [hnone] at hhash
    cases hhash

end Ledger

/-! ### The ledger under the payer's transactions -/

namespace Verification

variable {O : Outside} {S S' : Store} {dbNow : Time}

/-- The end of a verification is a transaction of the ledger, or nothing. -/
lemma completeInvoice_cases (L : Ledger) (dbNow : Time) (id : InvoiceId) (verifiedAt : Time)
    (satisfied : Invoice → Bool) :
    completeInvoice L dbNow id verifiedAt satisfied = L ∨
      completeInvoice L dbNow id verifiedAt satisfied = Payday.step L dbNow (.completeVerification id verifiedAt) := by
  by_cases h : ∃ row, L.invoices.find? id = some row ∧ satisfied row = true
  · obtain ⟨row, hrow, hsatisfied⟩ := h
    right
    have hinvoices : (completeInvoice L dbNow id verifiedAt satisfied).invoices =
        (completeVerification L dbNow id verifiedAt).invoices := by
      refine Table.ext_rows ?_
      simp only [completeInvoice, completeVerification, Table.rows_updateWhere]
      refine List.map_congr_left fun r hr => ?_
      -- the one row with the id is the satisfied one
      by_cases hid : r.id = id
      · have hfound : L.invoices.find? id = some r := hid ▸ Table.find?_of_mem hr
        obtain rfl := Option.some.inj (hrow.symm.trans hfound)
        simp [hsatisfied]
      · simp [hid]
    simp only [completeInvoice, completeVerification, Payday.step] at hinvoices ⊢
    rw [hinvoices]
  · left
    have hnone : ∀ r ∈ L.invoices.rows, (decide (r.id = id) && satisfied r && r.verifiable verifiedAt) = false := by
      intro r hr
      rw [Bool.eq_false_iff]
      intro hmatch
      simp only [Bool.and_eq_true, decide_eq_true_eq] at hmatch
      exact h ⟨r, hmatch.1.1 ▸ Table.find?_of_mem hr, hmatch.1.2⟩
    rw [completeInvoice, Table.updateWhere_eq_self _ hnone]

/-- The ledger is as it was, or one of its transactions has run, which neither issues nor binds. -/
def AtMostOneOp (L : Ledger) (dbNow : Time) (L' : Ledger) : Prop :=
  L' = L ∨ ∃ op : Op, op.writesDocument = false ∧ op.Typed ∧ L' = Payday.step L dbNow op

lemma atMostOneOp_completeInvoice (L : Ledger) (dbNow : Time) (id : InvoiceId) (verifiedAt : Time)
    (satisfied : Invoice → Bool) : AtMostOneOp L dbNow (completeInvoice L dbNow id verifiedAt satisfied) := by
  rcases completeInvoice_cases L dbNow id verifiedAt satisfied with hsame | hstep
  · exact Or.inl hsame
  · exact Or.inr ⟨.completeVerification id verifiedAt, rfl, trivial, hstep⟩

lemma committed_atMostOneOp {ε α : Type} {r : Except ε (Store × α)}
    (h : ∀ S' a, r = .ok (S', a) → AtMostOneOp S.ledger dbNow S'.ledger) :
    AtMostOneOp S.ledger dbNow (committed S r).ledger := by
  rcases r with e | ⟨S', a⟩
  · exact Or.inl rfl
  · exact h S' a rfl

/-- What a transaction that neither issues nor binds does to the ledger. -/
lemma step_atMostOneOp (O : Outside) (S : Store) (dbNow : Time) {tx : Transaction}
    (hdocument : tx.writesDocument = false) (htyped : tx.Typed) :
    AtMostOneOp S.ledger dbNow (step O S dbNow tx).ledger := by
  cases tx with
  | create id token invoiceId ttl =>
    refine committed_atMostOneOp fun S' created hok => ?_
    simp only [create, bind_eq_ok, pure_eq_ok, Prod.mk.injEq] at hok
    obtain ⟨S₁, hinsert, rfl, -⟩ := hok
    obtain ⟨-, -, sessions, -, rfl⟩ := insertSession_ok hinsert
    exact Or.inl rfl
  | createMerchantPreview id token invoiceId ttl =>
    refine committed_atMostOneOp fun S' created hok => ?_
    simp only [createMerchantPreview, bind_eq_ok, pure_eq_ok, Prod.mk.injEq] at hok
    obtain ⟨S₁, hinsert, rfl, -⟩ := hok
    obtain ⟨-, -, sessions, -, rfl⟩ := insertSession_ok hinsert
    exact Or.inl rfl
  | issueWalletChallenge nonce sessionId chainId ttl =>
    refine committed_atMostOneOp fun S' created hok => ?_
    simp only [issueWalletChallenge, orError_bind_eq_ok, require_bind_eq_ok, pure_eq_ok, Prod.mk.injEq] at hok
    obtain ⟨session, -, -, rfl, -⟩ := hok
    exact Or.inl rfl
  | delete sessionId => exact Or.inl rfl
  | abandonEmailVerification sessionId => exact Or.inl rfl
  | beginEmailVerification now id sessionId cooldown =>
    refine committed_atMostOneOp fun S' created hok => ?_
    obtain ⟨session, attempts, -, -, -, rfl⟩ := beginEmailVerification_ok hok
    exact Or.inl rfl
  | approveEmail seen sessionId payerRef verifiedAt eventId =>
    refine committed_atMostOneOp fun S' completion hok => ?_
    rcases approveEmail_ok hok with rfl | ⟨session, -, -, -, rfl⟩
    · exact Or.inl rfl
    · exact atMostOneOp_completeInvoice ..
  | createClientSecret id secret invoiceId accountId ttl =>
    refine committed_atMostOneOp fun S' created hok => ?_
    simp only [createClientSecret, orError_bind_eq_ok, require_bind_eq_ok, pure_eq_ok, Prod.mk.injEq] at hok
    obtain ⟨-, -, -, secrets, -, rfl, -⟩ := hok
    exact Or.inl rfl
  | exchangeClientSecret now ids secret invoiceId ttl =>
    refine committed_atMostOneOp fun S' exchange hok => ?_
    obtain ⟨found, sessions, attempts, -, -, -, -, -, -, rfl, -⟩ := exchangeClientSecret_ok hok
    exact atMostOneOp_completeInvoice ..
  | bindPayerWallet now attemptId invoiceId sessionId wallet binding => cases hdocument
  | request op => exact Or.inr ⟨op.1, hdocument, htyped, rfl⟩

/-- What binding a wallet came to: nothing, or the binding is written. -/
lemma bindPayerWallet_ok {now dbNow : Time} {attemptId : AttemptId} {id : InvoiceId} {sessionId : SessionId}
    {wallet : Address} {binding : Binding} {result : BindPayerWallet}
    (h : bindPayerWallet O S now dbNow attemptId id sessionId wallet binding = .ok (S', result)) :
    (S' = S ∧ ∀ row, result ≠ .bound row) ∨
      ∃ row bound, result = .bound bound ∧ S.ledger.invoices.find? id = some row ∧
        walletBindable (now / 1000000) row = true ∧ S.ledger.addressTaken binding = false ∧
        S'.ledger = Payday.bindPayerWallet S.ledger dbNow (now / 1000000) id wallet binding := by
  simp only [bindPayerWallet, orError_bind_eq_ok] at h
  obtain ⟨row, hrow, h⟩ := h
  split at h
  · obtain ⟨rfl, rfl⟩ := Prod.mk.inj (pure_eq_ok.1 h)
    exact Or.inl ⟨rfl, fun _ h => by cases h⟩
  · split at h
    · obtain ⟨rfl, rfl⟩ := Prod.mk.inj (pure_eq_ok.1 h)
      exact Or.inl ⟨rfl, fun _ h => by cases h⟩
    · rename_i hbindable
      simp only [require_bind_eq_ok, orError_bind_eq_ok, pure_eq_ok, Prod.mk.injEq] at h
      obtain ⟨hfree, -, attempts, -, rfl, rfl⟩ := h
      exact Or.inr ⟨row, _, rfl, hrow, by simpa using hbindable, hfree, rfl⟩

end Verification

/-! ### Documents -/

/-- The rows after an issuance that finds its id and its address free. -/
lemma insertIssued_find? {L : Ledger} {now : Time} {input : IssuedRequest} (hnew : L.invoices.find? input.id = none)
    (hfree : input.initialBinding.any L.addressTaken = false) (id : InvoiceId) :
    (insertIssued L now input).invoices.find? id =
      if id = input.id then some (input.row now) else L.invoices.find? id := by
  have hkey : (input.row now).id ∉ L.invoices.rows.map Invoice.id := Table.find?_eq_none_iff.1 hnew
  rw [insertIssued, if_neg (by simp [hfree])]
  split
  · rename_i hrefused
    exact absurd (Table.insert?_eq_none_iff.1 hrefused) hkey
  · rename_i invoices hinsert
    exact Table.find?_of_insert? hinsert id

/-- A row after a binding whose address is free. -/
lemma writeBinding_find?_of_free {L : Ledger} (now : Time) (id : InvoiceId) (bindable : Invoice → Bool)
    {binding : Binding} {id' : InvoiceId} {row : Invoice} (hfree : L.addressTaken binding = false)
    (hrow : L.invoices.find? id' = some row) :
    (writeBinding L now id bindable binding).invoices.find? id' = some
      (if id' = id ∧ bindable row = true then { row with binding := some binding, updatedAt := now } else row) := by
  have hid : row.id = id' := Table.key_of_find? hrow
  rw [writeBinding, if_neg (by simp [hfree])]
  simp [Table.find?_updateWhere, hrow, hid]

/-- A row after a binding, whether its address was free or not. -/
lemma writeBinding_find? {L : Ledger} (now : Time) (id : InvoiceId) (bindable : Invoice → Bool)
    (binding : Binding) {id' : InvoiceId} {row : Invoice} (hrow : L.invoices.find? id' = some row) :
    (writeBinding L now id bindable binding).invoices.find? id' = some row ∨
      id' = id ∧ (writeBinding L now id bindable binding).invoices.find? id' =
        some { row with binding := some binding, updatedAt := now } := by
  rcases hfree : L.addressTaken binding with _ | _
  · rw [writeBinding_find?_of_free now id bindable hfree hrow]
    split
    · rename_i hmatch
      exact Or.inr ⟨hmatch.1, rfl⟩
    · exact Or.inl rfl
  · left
    rw [writeBinding, if_pos hfree]
    exact hrow

namespace Proofs

open Verification (Store Outside AttemptId SessionId AtMostOneOp)

/-- The document of a row says what the row does, and the row's address follows from it. -/
structure Describes (P : Primitives) (document : Document) (row : Payday.Invoice) : Prop where
  issued : Issued P document.invoice
  amount : document.invoice.amount = row.amount
  payerVerification : document.invoice.issuanceSnapshot.payerVerification = row.payerVerification
  recovery : parseAddress document.invoice.issuanceSnapshot.recoveryAddress = some row.recovery
  binding : ∀ b, row.binding = some b → Derived P document.invoice (document.binding P row.recovery b)
  payerWallet : ∀ b, row.binding = some b → (document.walletEvidence P b).map (·.payerWallet) = b.payerWallet

/-- The ledger's values fit their types, and its transfers went to the requests' addresses. -/
structure TypedLedger (L : Ledger) : Prop where
  reachable : Reachable L
  recorded : L.RecordedTyped
  intents : L.IntentsTyped
  settlements : L.SettlementsTyped

/-- What every run keeps. -/
structure Sound (P : Primitives) (D : Database) : Prop where
  ledger : TypedLedger D.store.ledger
  described : ∀ id row, D.store.ledger.invoices.find? id = some row →
    ∃ document, D.documents.find? id = some document ∧ Describes P document row
  stored : ∀ id, D.store.ledger.invoices.find? id = none → D.documents.find? id = none

lemma TypedLedger.step {L : Ledger} (h : TypedLedger L) (now : Time) {op : Op} (hop : op.Typed) :
    TypedLedger (step L now op) :=
  ⟨reachable_step h.reachable now op, h.recorded.step hop, h.intents.step hop, h.settlements.step hop⟩

variable {P : Primitives} {O : Outside} {D D' : Database} {document : Document} {row row' : Payday.Invoice}
  {binding : PaymentBinding} {now dbNow : Time} {id : InvoiceId}

/-- A row with the same terms and the same address has the same document. -/
lemma Describes.of_sameTerms (h : Describes P document row) (hterms : SameTerms row row')
    (hbinding : row'.binding = row.binding) : Describes P document row' where
  issued := h.issued
  amount := h.amount.trans hterms.amount.symm
  payerVerification := h.payerVerification.trans hterms.payerVerification.symm
  recovery := by rw [h.recovery, hterms.recovery]
  binding b hb := by
    rw [hterms.recovery]
    exact h.binding b (hbinding.symm.trans hb)
  payerWallet b hb := h.payerWallet b (hbinding.symm.trans hb)

/-- A binding is decoded from the columns it was written to. -/
lemma Document.binding_columns {recovery : Address} (hrecovery : binding.recovery = recovery)
    (hready : binding.readyAt = P.rfc3339 now)
    (hwallet : document.walletEvidence P (binding.columns now) = binding.wallet) :
    document.binding P recovery (binding.columns now) = binding := by
  subst hrecovery
  simp only [Document.binding, hwallet]
  simp only [PaymentBinding.columns, ← hready]

lemma Document.walletEvidence_of_none (hwallet : binding.wallet = none) :
    document.walletEvidence P (binding.columns now) = binding.wallet := by
  simp [Document.walletEvidence, PaymentBinding.columns, hwallet]

lemma Document.walletEvidence_of_some {evidence : WalletEvidence} (hwallet : binding.wallet = some evidence)
    (hbound : evidence.boundAt = P.rfc3339 now) (hattestation : document.payerAttestation = some evidence.attestation) :
    document.walletEvidence P (binding.columns now) = binding.wallet := by
  simp [Document.walletEvidence, PaymentBinding.columns, hwallet, hattestation, ← hbound]

/-- A row is described once its address is written, when the address follows from the document. -/
lemma Describes.bind (h : Describes P document row) {attestation : Option PayerWalletAttestation}
    (hderived : Derived P document.invoice binding) (hready : binding.readyAt = P.rfc3339 now)
    (hwallet : Document.walletEvidence P ⟨document.invoice, attestation⟩ (binding.columns now) = binding.wallet) :
    Describes P ⟨document.invoice, attestation⟩
      { row with binding := some (binding.columns now), updatedAt := dbNow } where
  issued := h.issued
  amount := h.amount
  payerVerification := h.payerVerification
  recovery := h.recovery
  binding b hb := by
    obtain rfl := Option.some.inj hb
    have hrecovery : binding.recovery = row.recovery := Option.some.inj (hderived.recovery.symm.trans h.recovery)
    rw [Document.binding_columns hrecovery hready hwallet]
    exact hderived
  payerWallet b hb := by
    obtain rfl := Option.some.inj hb
    rw [hwallet]
    rfl

/-! ### Every transaction keeps them -/

/-- A transaction that neither issues nor binds. -/
lemma Sound.commit (h : Sound P D) {store : Store} (hstep : AtMostOneOp D.store.ledger dbNow store.ledger) :
    Sound P ⟨store, D.documents⟩ := by
  rcases hstep with hsame | ⟨op, hdocument, htyped, hledger⟩
  · exact ⟨hsame ▸ h.ledger, fun id row hrow => h.described id row (hsame ▸ hrow),
      fun id hnone => h.stored id (hsame ▸ hnone)⟩
  · refine ⟨hledger ▸ h.ledger.step dbNow htyped, fun id row' hrow' => ?_, fun id hnone => ?_⟩
    · have hrow' : (step D.store.ledger dbNow op).invoices.find? id = some row' := hledger ▸ hrow'
      rcases hprev : D.store.ledger.invoices.find? id with _ | row
      · obtain ⟨input, rfl, -⟩ := find?_step_issued op hprev hrow'
        cases hdocument
      · obtain ⟨document, hfound, hdescribes⟩ := h.described id row hprev
        obtain ⟨row₁, hrow₁, hterms⟩ := step_sameTerms dbNow op hprev
        obtain rfl := Option.some.inj (hrow₁.symm.trans hrow')
        exact ⟨document, hfound, hdescribes.of_sameTerms hterms (step_binding hdocument hprev hrow')⟩
    · refine h.stored id ?_
      rcases hprev : D.store.ledger.invoices.find? id with _ | row
      · rfl
      · have hfound := (find?_step dbNow op hprev).found
        rw [← hledger] at hfound
        exact absurd (hnone.symm.trans hfound) (by simp)

lemma initialBinding_derived {invoice : Invoice} {initial : Option PaymentBinding}
    (h : initialBinding P invoice now = .ok initial) (hinitial : initial = some binding) :
    Derived P invoice binding ∧ binding.wallet = none ∧ binding.readyAt = P.rfc3339 now := by
  unfold initialBinding at h
  split at h
  · rename_i network _ _
    obtain ⟨bound, hbound, rfl⟩ := map_eq_ok.1 h
    obtain rfl := Option.some.inj hinitial
    obtain ⟨hderived, -, hwallet, hready⟩ := bindNetwork_derived hbound
    exact ⟨hderived, hwallet, hready⟩
  · obtain rfl := Except.ok.inj h
    cases hinitial

/-- A request is stored with its document. -/
lemma Sound.issue (h : Sound P D) {draft : Draft} (hissue : D.issue P now dbNow id draft = some D') : Sound P D' := by
  simp only [Database.issue, Option.bind_eq_bind, Option.bind_eq_some_iff, toOption_eq_some] at hissue
  obtain ⟨invoice, hinvoice, initial, hinitial, hissue⟩ := hissue
  split at hissue
  · cases hissue
  · rename_i hfree
    obtain rfl := Option.some.inj hissue
    simp only [Bool.or_eq_true, not_or, Bool.not_eq_true, Option.isSome_eq_false_iff,
      Option.isNone_iff_eq_none] at hfree
    obtain ⟨hnew, haddress⟩ := hfree
    have hissued := issue_issued hinvoice draft.nonce_lt
    obtain ⟨bytes, -, -, -, -, -, hrecovery, -, -, -, hfields⟩ := issue_eq_ok hinvoice
    have hid : invoice.id = id := by rw [hfields]
    have hamount : invoice.amount = draft.terms.amount := by rw [hfields]
    have hsnapshot : invoice.issuanceSnapshot = draft.snapshot := by rw [hfields]
    have hrows : ∀ id', (insertIssued D.store.ledger dbNow
        (draft.request invoice (initial.map fun binding => binding.columns now))).invoices.find? id' =
          if id' = invoice.id then some ((draft.request invoice
            (initial.map fun binding => binding.columns now)).row dbNow)
          else D.store.ledger.invoices.find? id' :=
      insertIssued_find? (show D.store.ledger.invoices.find? invoice.id = none from hid ▸ hnew) haddress
    have hdocuments : ∀ id', (D.documents.insertNew ⟨invoice, none⟩).find? id' =
        if id' = invoice.id then some ⟨invoice, none⟩ else D.documents.find? id' := by
      refine Table.find?_insertNew_of_notMem ?_
      exact Table.find?_eq_none_iff.1 (h.stored invoice.id (hid ▸ hnew))
    have hread : parseAddress invoice.issuanceSnapshot.recoveryAddress = some draft.terms.recovery := by
      rw [hsnapshot, hrecovery, parseAddress_toChecksum P draft.terms.recovery_lt]
    have hledger : TypedLedger (step D.store.ledger dbNow (.insertIssued
        (draft.request invoice (initial.map fun binding => binding.columns now)))) := h.ledger.step dbNow trivial
    refine ⟨hledger, fun id' row hrow => ?_, fun id' hnone => ?_⟩
    · rw [hrows] at hrow
      rw [hdocuments]
      split at hrow
      · -- the new request
        rename_i hnewid
        obtain rfl := Option.some.inj hrow
        refine ⟨⟨invoice, none⟩, if_pos hnewid, hissued, hamount, rfl, hread, fun b hb => ?_, fun b hb => ?_⟩
        all_goals
          obtain ⟨binding, hbinding, rfl⟩ := Option.map_eq_some_iff.1 hb
          obtain ⟨hderived, hwallet, hready⟩ := initialBinding_derived hinitial hbinding
        · have hsame : binding.recovery = draft.terms.recovery :=
            Option.some.inj (hderived.recovery.symm.trans hread)
          show Derived P invoice (Document.binding P _ draft.terms.recovery _)
          rw [Document.binding_columns hsame hready (Document.walletEvidence_of_none hwallet)]
          exact hderived
        · rw [Document.walletEvidence_of_none hwallet]
          rfl
      · rename_i hother
        obtain ⟨document, hdocument, hdescribes⟩ := h.described id' row hrow
        exact ⟨document, by rw [if_neg hother]; exact hdocument, hdescribes⟩
    · rw [hrows] at hnone
      rw [hdocuments]
      split at hnone
      · cases hnone
      · rename_i hother
        exact (if_neg hother).trans (h.stored id' hnone)

/-- Rows of the ledger after one of its transactions. -/
lemma find?_step_eq_none {L : Ledger} (op : Op) (h : (step L dbNow op).invoices.find? id = none) :
    L.invoices.find? id = none := by
  rcases hprev : L.invoices.find? id with _ | row
  · rfl
  · have hfound := (find?_step dbNow op hprev).found
    rw [h] at hfound
    cases hfound

/-- The address of the network the payer chose follows from the document. -/
lemma Sound.selectNetwork (h : Sound P D) {chainId : ChainId}
    (hselect : D.selectNetwork P now dbNow id chainId = some D') : Sound P D' := by
  simp only [Database.selectNetwork, Option.bind_eq_bind, Option.bind_eq_some_iff, toOption_eq_some] at hselect
  obtain ⟨document, hdocument, binding, hbind, hselect⟩ := hselect
  obtain rfl := Option.some.inj hselect
  obtain ⟨hderived, -, hwallet, hready⟩ := bindNetwork_derived hbind
  have hcolumns : { binding.columns now with payerWallet := none } = binding.columns now := by
    simp [PaymentBinding.columns, hwallet]
  have hledger : TypedLedger (step D.store.ledger dbNow (.bindNetwork id (binding.columns now))) :=
    h.ledger.step dbNow trivial
  refine ⟨hledger, fun id' row' hrow' => ?_,
    fun id' hnone => h.stored id' (find?_step_eq_none (.bindNetwork id (binding.columns now)) hnone)⟩
  rcases hprev : D.store.ledger.invoices.find? id' with _ | row
  · obtain ⟨input, hop, -⟩ := find?_step_issued (.bindNetwork id (binding.columns now)) hprev hrow'
    cases hop
  · obtain ⟨stored, hstored, hdescribes⟩ := h.described id' row hprev
    rcases writeBinding_find? dbNow id networkBindable { binding.columns now with payerWallet := none } hprev with
      hsame | ⟨rfl, hbound⟩
    · obtain rfl := Option.some.inj (hsame.symm.trans hrow')
      exact ⟨stored, hstored, hdescribes⟩
    · obtain rfl := Option.some.inj (hbound.symm.trans hrow')
      obtain rfl := Option.some.inj (hdocument.symm.trans hstored)
      rw [hcolumns]
      exact ⟨document, hstored, hdescribes.bind hderived hready (Document.walletEvidence_of_none hwallet)⟩

/-- The documents after an attestation is kept. -/
lemma Database.attestationWritten_find? (D : Database) (id : InvoiceId) (attestation : PayerWalletAttestation)
    (id' : InvoiceId) : (D.attestationWritten id attestation).find? id' = (D.documents.find? id').map fun document =>
      if id' = id then { document with payerAttestation := some attestation } else document := by
  refine (Table.find?_updateWhere D.documents _ _ _ id').trans ?_
  rcases hfound : D.documents.find? id' with _ | stored
  · rfl
  · have hkey : stored.id = id' := Table.key_of_find? hfound
    simp [hkey]

/-- The address of the wallet the payer attested follows from the document and the attestation. -/
lemma Sound.attest (h : Sound P D) {attemptId : AttemptId} {sessionId : SessionId} {chainId : ChainId}
    {attestation : PayerWalletAttestation}
    (hattest : D.attest P O now dbNow attemptId id sessionId chainId attestation = some D') : Sound P D' := by
  simp only [Database.attest, Option.bind_eq_bind, Option.bind_eq_some_iff, toOption_eq_some] at hattest
  obtain ⟨document, hdocument, binding, hbind, evidence, hevidence, hattest⟩ := hattest
  obtain ⟨hderived, -, hready, evidence', hevidence', -, hboundAt⟩ := bindPayerWallet_derived hbind
  obtain rfl := Option.some.inj (hevidence.symm.trans hevidence')
  split at hattest
  · -- the binding is written, with its attestation
    rename_i store bound hok
    obtain rfl := Option.some.inj hattest
    rcases Verification.bindPayerWallet_ok hok with ⟨-, hne⟩ | ⟨row, bound', -, hrow, hbindable, hfree, hledger⟩
    · exact absurd rfl (hne _)
    have hcolumns : { binding.columns now with payerWallet := some evidence.payerWallet } = binding.columns now := by
      simp [PaymentBinding.columns, hevidence]
    have hwritten : ∀ id' old, D.store.ledger.invoices.find? id' = some old → store.ledger.invoices.find? id' =
        some (if id' = id then { old with binding := some (binding.columns now), updatedAt := dbNow } else old) := by
      intro id' old hold
      rw [hledger, Payday.bindPayerWallet, hcolumns, writeBinding_find?_of_free dbNow id _ hfree hold]
      by_cases hid : id' = id
      · -- the row that may be bound
        subst hid
        obtain rfl := Option.some.inj (hrow.symm.trans hold)
        simp [hbindable]
      · simp [hid]
    have hdocuments := D.attestationWritten_find? id evidence.attestation
    have hstep : store.ledger = step D.store.ledger dbNow
        (.bindPayerWallet (now / 1000000) id evidence.payerWallet (binding.columns now)) := hledger
    have htyped : TypedLedger store.ledger := by
      rw [hstep]
      exact h.ledger.step dbNow trivial
    refine ⟨htyped, fun id' row' hrow' => ?_, fun id' hnone => ?_⟩
    · rcases hprev : D.store.ledger.invoices.find? id' with _ | old
      · obtain ⟨input, hop, -⟩ := find?_step_issued _ hprev (hstep ▸ hrow')
        cases hop
      · obtain ⟨stored, hstored, hdescribes⟩ := h.described id' old hprev
        obtain rfl := Option.some.inj ((hwritten id' old hprev).symm.trans hrow')
        rw [hdocuments, hstored]
        by_cases hid : id' = id
        · subst hid
          obtain rfl := Option.some.inj (hdocument.symm.trans hstored)
          refine ⟨⟨document.invoice, some evidence.attestation⟩, by simp, ?_⟩
          rw [if_pos rfl]
          exact hdescribes.bind hderived hready (Document.walletEvidence_of_some hevidence hboundAt rfl)
        · refine ⟨stored, by simp [hid], ?_⟩
          rw [if_neg hid]
          exact hdescribes
    · rw [hstep] at hnone
      rw [hdocuments, h.stored id' (find?_step_eq_none _ hnone)]
      rfl
  · rename_i store result hne hok
    obtain rfl := Option.some.inj hattest
    rcases Verification.bindPayerWallet_ok hok with ⟨rfl, -⟩ | ⟨row, bound, rfl, -⟩
    · exact h
    · exact absurd rfl (hne _)
  · cases hattest

lemma sound_empty (P : Primitives) : Sound P .empty where
  ledger := {
    reachable := ⟨[], rfl⟩
    recorded := fun _ h => absurd h List.not_mem_nil
    intents := fun _ h => absurd h List.not_mem_nil
    settlements := fun _ _ h => by cases h }
  described _ _ h := by cases h
  stored _ _ := rfl

/-- Every transaction of the service keeps them. -/
lemma Sound.step (h : Sound P D) (O : Outside) (dbNow : Time) (action : Action) :
    Sound P (D.step P O dbNow action) := by
  cases action with
  | issue now id draft =>
    rcases hissue : D.issue P now dbNow id draft with _ | D'
    · simpa [Database.step, hissue] using h
    · simpa [Database.step, hissue] using h.issue hissue
  | selectNetwork now id chainId =>
    rcases hselect : D.selectNetwork P now dbNow id chainId with _ | D'
    · simpa [Database.step, hselect] using h
    · simpa [Database.step, hselect] using h.selectNetwork hselect
  | attest now attemptId id sessionId chainId attestation =>
    rcases hattest : D.attest P O now dbNow attemptId id sessionId chainId attestation with _ | D'
    · simpa [Database.step, hattest] using h
    · simpa [Database.step, hattest] using h.attest hattest
  | commit tx => exact h.commit (Verification.step_atMostOneOp O D.store dbNow tx.2.1 tx.2.2)

/-- They hold in every database that a run reaches. -/
theorem sound_run (P : Primitives) (O : Outside) (actions : List (Time × Action)) :
    Sound P (Database.empty.run P O actions) := by
  induction actions using List.reverseRecOn with
  | nil => exact sound_empty P
  | append_singleton actions action ih =>
    rw [Database.run_append]
    exact ih.step O action.1 action.2

end Proofs

end Payday
