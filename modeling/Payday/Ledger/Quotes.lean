/-
# The terms of a quote

What an intent was quoted for never changes, and an intent is filled once: the transactions of
its fill and its verified origin transaction are those of the `resolve_filled` call that filled
it.  `step_follows` says what a transaction does to every intent, one case per transaction.
-/
import Payday.Ledger.Parking

namespace Payday

/-- What an intent is quoted for. -/
structure QuoteTerms where
  id : IntentId
  invoiceId : InvoiceId
  originChainId : ChainId
  payerWallet : Address
  quotedInAmount : ℕ
  quotedOutAmount : ℕ
deriving DecidableEq

def RelayIntent.quoteTerms (r : RelayIntent) : QuoteTerms :=
  ⟨r.id, r.invoiceId, r.originChainId, r.payerWallet, r.quotedInAmount, r.quotedOutAmount⟩

/-- The transactions that end a poll. -/
def Op.endsPoll : Op → Bool
  | .deferRelayIntent .. | .resolveFilled .. | .resolveFailed .. => true
  | _ => false

/-- What a transaction may do to one intent. -/
structure RelayIntent.Follows (op : Op) (r r' : RelayIntent) : Prop where
  terms : r'.quoteTerms = r.quoteTerms
  /-- A fill stays as it is. -/
  final : r.status = .filled → r'.status = .filled ∧
    r'.verifiedOriginTxHash = r.verifiedOriginTxHash ∧ r'.fillTxHashes = r.fillTxHashes
  /-- A filled intent was filled before, or this is the call that fills it. -/
  filled : r'.status = .filled → r.status = .filled ∨
    ∃ fills originTx raw, op = .resolveFilled r.id fills originTx raw ∧
      r'.verifiedOriginTxHash = some originTx ∧ r'.fillTxHashes = fills
  ends : op.endsPoll = true → r'.status = r.status ∨ r'.status.isFinal = true

lemma RelayIntent.Follows.refl (op : Op) (r : RelayIntent) : r.Follows op r :=
  ⟨rfl, fun h => ⟨h, rfl, rfl⟩, Or.inl, fun _ => Or.inl rfl⟩

lemma RelayIntent.markSent_follows (now : Time) (hash : Hash) {op : Op}
    (hop : op.endsPoll = false) (r : RelayIntent) : r.Follows op (r.markSent now hash) := by
  have hends : op.endsPoll = true → (r.markSent now hash).status = r.status ∨
      (r.markSent now hash).status.isFinal = true := by
    intro h
    rw [hop] at h
    cases h
  -- a report makes a quoted or expired intent sent, and writes no fill
  have hcases : (r.markSent now hash).quoteTerms = r.quoteTerms ∧
      (r.markSent now hash).fillTxHashes = r.fillTxHashes ∧
      (r.status = .filled ↔ (r.markSent now hash).status = .filled) := by
    unfold RelayIntent.markSent
    split
    · split_ifs with hhash hopen
      · exact ⟨rfl, rfl, Iff.rfl⟩
      · refine ⟨rfl, rfl, fun h => ?_, fun h => by cases h⟩
        rcases hopen with hs | hs <;> rw [hs] at h <;> cases h
      · exact ⟨rfl, rfl, Iff.rfl⟩
    · split_ifs with hfilled hverified hopen
      · exact ⟨rfl, rfl, Iff.rfl⟩
      · exact ⟨rfl, rfl, Iff.rfl⟩
      · refine ⟨rfl, rfl, fun h => absurd h hfilled, fun h => by cases h⟩
      · exact ⟨rfl, rfl, Iff.rfl⟩
  obtain ⟨hterms, hfills, hstatus⟩ := hcases
  exact ⟨hterms, fun h => ⟨hstatus.1 h, (r.markSent_moves now hash).2.2, hfills⟩,
    fun h => Or.inl (hstatus.2 h), hends⟩

/-- How a transaction changes the intents. -/
structure IntentsFollow (L L' : Ledger) (op : Op) (f : RelayIntent → RelayIntent)
    (new : List RelayIntent) : Prop where
  rows : L'.relayIntents.rows = L.relayIntents.rows.map f ++ new
  follows : ∀ r ∈ L.relayIntents.rows, r.Follows op (f r)
  fresh : ∀ r ∈ new, r.status = .quoted

lemma IntentsFollow.of_eq {L L' : Ledger} {op : Op} (h : L'.relayIntents = L.relayIntents) :
    IntentsFollow L L' op (fun r => r) [] where
  rows := by rw [h]; simp
  follows r _ := RelayIntent.Follows.refl op r
  fresh r hr := by cases hr

lemma IntentsFollow.of_update {L L' : Ledger} {op : Op} {p : RelayIntent → Bool}
    {g : RelayIntent → RelayIntent}
    (h : L'.relayIntents.rows = L.relayIntents.rows.map (fun r => if p r then g r else r))
    (hg : ∀ r ∈ L.relayIntents.rows, p r = true → r.Follows op (g r)) :
    IntentsFollow L L' op (fun r => if p r then g r else r) [] where
  rows := by rw [h]; simp
  follows r hr := by
    split
    · rename_i hp
      exact hg r hr hp
    · exact RelayIntent.Follows.refl op r
  fresh r hr := by cases hr

lemma step_follows (L : Ledger) (now : Time) (op : Op) :
    ∃ f new, IntentsFollow L (step L now op) op f new := by
  by_cases hop : op.writesRelay = false
  · exact ⟨_, _, IntentsFollow.of_eq (step_sameRelay L now hop).relayIntents⟩
  cases op with
  | insertRelayIntent intent =>
    simp only [step, insertRelayIntent]
    split
    · exact ⟨_, _, IntentsFollow.of_eq rfl⟩
    · set row : RelayIntent := { intent with
        status := .quoted
        originTxHash := none
        verifiedOriginTxHash := none
        fillTxHashes := []
        relayStatus := none
        nextCheckAt := none
        createdAt := now
        sentAt := none
        resolvedAt := none } with hrow
      by_cases hkey : row.id ∈ L.relayIntents.rows.map RelayIntent.id
      · exact ⟨_, _, IntentsFollow.of_eq (Table.insertNew_of_mem hkey)⟩
      · refine ⟨fun r => r, [row], ?_, fun r _ => RelayIntent.Follows.refl _ r, ?_⟩
        · rw [Table.rows_insertNew_of_notMem hkey]
          simp
        · intro r hr
          rw [List.mem_singleton.1 hr]
  | markSent id invoiceId payerWallet originTxHash =>
    exact ⟨_, _, IntentsFollow.of_update rfl fun r _ _ =>
      r.markSent_follows now originTxHash rfl⟩
  | deferRelayIntent id nextCheckAt relayStatus =>
    refine ⟨_, _, IntentsFollow.of_update rfl fun r _ _ => ?_⟩
    exact ⟨rfl, fun h => ⟨h, rfl, rfl⟩, Or.inl, fun _ => Or.inl rfl⟩
  | expireQuoted destinationChainId =>
    refine ⟨_, _, IntentsFollow.of_update rfl fun r _ hr => ?_⟩
    obtain ⟨-, hquoted, -⟩ := of_decide_eq_true hr
    refine ⟨rfl, fun h => ?_, fun h => ?_, fun h => ?_⟩
    · rw [hquoted] at h
      cases h
    · cases h
    · cases h
  | resolveFilled id fills origin relayStatus =>
    rcases resolveFilled_cases L now id fills origin relayStatus with
      hsame | ⟨intent, L₁, rfl, hattr, hstep⟩
    · exact ⟨_, _, IntentsFollow.of_eq (by rw [step, hsame])⟩
    · have hrows : (step L now (.resolveFilled intent.id fills origin relayStatus)).relayIntents.rows =
          L.relayIntents.rows.map (fun r =>
            if decide (r.id = intent.id) then r.fill now fills origin relayStatus else r) := by
        rw [step, hstep, unparkUnlessPending_relayIntents, hattr.relayIntents]
      refine ⟨_, _, IntentsFollow.of_update hrows fun r hr hid => ?_⟩
      obtain rfl := L.relayIntents.eq_of_key_eq hr (Table.mem_of_find? hattr.found)
        (of_decide_eq_true hid)
      refine ⟨rfl, fun h => ?_, fun _ => Or.inr ⟨fills, origin, relayStatus, rfl, rfl, rfl⟩,
        fun _ => Or.inr rfl⟩
      have hpending := hattr.pending
      rw [h] at hpending
      cases hpending
  | resolveFailed id failure relayStatus =>
    rcases resolveFailed_cases L now id failure relayStatus with
      hsame | ⟨intent, L₁, rfl, hfound, hpending, hintents, -, -, hstep⟩
    · exact ⟨_, _, IntentsFollow.of_eq (by rw [step, hsame])⟩
    · have hrows : (step L now (.resolveFailed intent.id failure relayStatus)).relayIntents.rows =
          L.relayIntents.rows.map (fun r =>
            if decide (r.id = intent.id) then r.fail now failure relayStatus else r) := by
        rw [step, hstep, unparkUnlessPending_relayIntents, hintents]
      refine ⟨_, _, IntentsFollow.of_update hrows fun r hr hid => ?_⟩
      refine ⟨rfl, fun h => ?_, fun h => ?_, fun _ => Or.inr ?_⟩
      · obtain rfl := L.relayIntents.eq_of_key_eq hr (Table.mem_of_find? hfound)
          (of_decide_eq_true hid)
        rw [h] at hpending
        cases hpending
      · cases failure <;> cases h
      · cases failure <;> rfl
  | applyFinalizedRange range =>
    refine ⟨_, _, IntentsFollow.of_eq ?_⟩
    rcases step_applyFinalizedRange L now range with hsame | ⟨applied, hrecord⟩
    · rw [hsame]
    · obtain ⟨credits, -, -, hframe⟩ := recordRange_eq_ok hrecord
      rw [hframe]
  | _ => exact absurd rfl hop

section

variable {L L' : Ledger} {op : Op} {f : RelayIntent → RelayIntent} {new : List RelayIntent}

/-- The terms of a quote stay in the ledger. -/
lemma IntentsFollow.keeps (h : IntentsFollow L L' op f new) {t : QuoteTerms}
    (ht : t ∈ L.relayIntents.rows.map RelayIntent.quoteTerms) :
    t ∈ L'.relayIntents.rows.map RelayIntent.quoteTerms := by
  obtain ⟨r, hr, rfl⟩ := List.mem_map.1 ht
  refine List.mem_map.2 ⟨f r, ?_, (h.follows r hr).terms⟩
  rw [h.rows]
  exact List.mem_append_left _ (List.mem_map_of_mem hr)

/-- A filled intent was filled before, or the transaction fills it. -/
lemma IntentsFollow.filled (h : IntentsFollow L L' op f new) {r' : RelayIntent}
    (hr' : r' ∈ L'.relayIntents.rows) (hfilled : r'.status = .filled) :
    ∃ r ∈ L.relayIntents.rows, r'.quoteTerms = r.quoteTerms ∧
      ((r.status = .filled ∧ r'.verifiedOriginTxHash = r.verifiedOriginTxHash ∧
        r'.fillTxHashes = r.fillTxHashes) ∨
        ∃ fills originTx raw, op = .resolveFilled r.id fills originTx raw ∧
          r'.verifiedOriginTxHash = some originTx ∧ r'.fillTxHashes = fills) := by
  rw [h.rows] at hr'
  rcases List.mem_append.1 hr' with hold | hnew
  · obtain ⟨r, hr, rfl⟩ := List.mem_map.1 hold
    have hf := h.follows r hr
    exact ⟨r, hr, hf.terms, (hf.filled hfilled).imp_left fun hold => ⟨hold, (hf.final hold).2⟩⟩
  · rw [h.fresh r' hnew] at hfilled
    cases hfilled

end

end Payday
