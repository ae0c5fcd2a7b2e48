/-
# What an intent fills on

The terms of a quote never change, so the receipt a poll judged against its copy of the intent
is a receipt for the row it fills.  `Sound` is the invariant: every filled intent, and every
poll that is about to fill one, has a payment that is final on the origin chain.

The poller does not look at the boundary, so the invariant holds along the runs in which the
receipts it accepts are of final blocks when it reads them, and `fill_outlives_its_payment` is a run in
which one is not.
-/
import Payday.Ledger.Quotes
import Payday.Relay.Poller

namespace Payday.Relay

/-! ### Receipts -/

/-- A decoded transfer is a log of the token. -/
lemma mem_tokenTransfersOf {token : Address} {logs : List TransferLog} {ts : List TokenTransfer}
    (h : tokenTransfersOf token logs = .ok ts) {t : TokenTransfer} (ht : t ∈ ts) :
    ∃ log ∈ logs, log.address = token ∧ log.topics = some (t.sender, t.recipient) ∧
      log.amount = some t.amount := by
  induction logs generalizing ts with
  | nil =>
    obtain rfl := Except.ok.inj h
    cases ht
  | cons log rest ih =>
    have hrest : ∀ {ts'}, tokenTransfersOf token rest = .ok ts' → t ∈ ts' → ∃ l ∈ log :: rest,
        l.address = token ∧ l.topics = some (t.sender, t.recipient) ∧ l.amount = some t.amount := by
      intro ts' hts ht'
      obtain ⟨l, hl, hlog⟩ := ih hts ht'
      exact ⟨l, List.mem_cons_of_mem _ hl, hlog⟩
    rw [tokenTransfersOf] at h
    split_ifs at h with haddress
    · exact hrest h ht
    · rcases htopics : log.topics with _ | ⟨sender, recipient⟩
      · rw [htopics] at h
        exact hrest h ht
      · rw [htopics] at h
        obtain ⟨amount, hamount, h⟩ := bind_eq_ok.1 h
        obtain ⟨logIndex, hindex, h⟩ := bind_eq_ok.1 h
        obtain ⟨ts', hts, h⟩ := bind_eq_ok.1 h
        obtain rfl := Except.ok.inj h
        rcases List.mem_cons.1 ht with rfl | ht'
        · exact ⟨log, List.mem_cons_self, not_not.1 haddress, htopics, orTransient_eq_ok hamount⟩
        · exact hrest hts ht'

/-- What a receipt was made of. -/
lemma tokenPaymentReceipt_eq_some {txHash : Hash} {token : Address}
    {transaction : Except ChainError (Option Address)}
    {receipt : Except ChainError (Option RpcReceipt)} {evidence : TokenPaymentReceipt}
    (h : tokenPaymentReceipt txHash token transaction receipt = .ok (some evidence)) :
    transaction = .ok (some evidence.sender) ∧ ∃ r, receipt = .ok (some r) ∧
      r.blockNumber = some evidence.outcome.block ∧ r.status = evidence.outcome.succeeded ∧
      tokenTransfersOf token r.logs = .ok evidence.transfers := by
  obtain ⟨sender?, htransaction, h⟩ := bind_eq_ok.1 h
  rcases sender? with _ | sender
  · cases h
  · obtain ⟨r?, hreceipt, h⟩ := bind_eq_ok.1 h
    rcases r? with _ | r
    · cases h
    · obtain ⟨block, hblock, h⟩ := bind_eq_ok.1 h
      obtain ⟨blockHash, -, h⟩ := bind_eq_ok.1 h
      obtain ⟨transfers, htransfers, h⟩ := bind_eq_ok.1 h
      obtain rfl := Option.some.inj (Except.ok.inj h)
      exact ⟨htransaction, r, hreceipt, orTransient_eq_ok hblock, rfl, htransfers⟩

/-- The evidence of a payment: a transaction at or below the boundary that succeeded, that the
payer signed, and that moved exactly the quoted amount of the quoted token from the payer. -/
def OriginChain.Paid (c : OriginChain) (signer : Hash → Address) (token : Address) (t : QuoteTerms)
    (txHash : Hash) : Prop :=
  ∃ n ≤ c.finalized, ∃ tx ∈ c.blocks n, tx.hash = txHash ∧ tx.succeeded = true ∧
    signer txHash = t.payerWallet ∧ ∃ log ∈ tx.logs, log.address = token ∧
      (∃ recipient, log.topics = some (t.payerWallet, recipient)) ∧
      log.amount = some t.quotedInAmount

lemma OriginChain.Paid.evolves {c c' : OriginChain} {signer : Hash → Address} {token : Address}
    {t : QuoteTerms} {txHash : Hash} (h : c.Paid signer token t txHash) (he : c.Evolves c') :
    c'.Paid signer token t txHash := by
  obtain ⟨n, hn, tx, htx, hrest⟩ := h
  refine ⟨n, hn.trans he.advances, tx, ?_, hrest⟩
  rw [he.keeps n hn]
  exact htx

/-- The payment of an intent, on its own origin chain. -/
def State.Paid (S : Setting) (s : State) (t : QuoteTerms) (txHash : Hash) : Prop :=
  (s.chains t.originChainId).Paid (S.signer t.originChainId) (S.originCurrency t.id) t txHash

/-- An honest receipt of a final block that the poller accepts is the payment. -/
lemma paid_of_receipt {S : Setting} {s : State} {intent : RelayIntent} {candidate : Hash}
    {transaction : Except ChainError (Option Address)}
    {receipt : Except ChainError (Option RpcReceipt)} {evidence : TokenPaymentReceipt}
    (hread : tokenPaymentReceipt candidate (S.originCurrency intent.id) transaction receipt =
      .ok (some evidence))
    (hsigner : ∀ sender, transaction = .ok (some sender) →
      sender = S.signer intent.originChainId candidate)
    (hreports : ∀ r, receipt = .ok (some r) →
      (s.chains intent.originChainId).Reports candidate r)
    (hsucceeded : evidence.outcome.succeeded = true)
    (hsender : evidence.sender = intent.payerWallet) (hdebits : evidence.debits intent = true)
    (hfinal : evidence.outcome.block ≤ (s.chains intent.originChainId).finalized) :
    s.Paid S intent.quoteTerms candidate := by
  obtain ⟨htransaction, r, hreceipt, hblock, hstatus, htransfers⟩ := tokenPaymentReceipt_eq_some hread
  obtain ⟨tx, htx, hhash, hok, hlogs⟩ := hreports r hreceipt _ hblock
  obtain ⟨t, ht, hdebit⟩ := List.any_eq_true.1 hdebits
  obtain ⟨hfrom, hamount⟩ := of_decide_eq_true hdebit
  obtain ⟨log, hlog, haddress, htopics, hlogamount⟩ := mem_tokenTransfersOf htransfers ht
  refine ⟨_, hfinal, tx, htx, hhash, ?_, ?_, tokenLog log, ?_, haddress, ⟨t.recipient, ?_⟩, ?_⟩
  · rw [hok, hstatus, hsucceeded]
  · exact (hsigner _ htransaction).symm.trans hsender
  · rw [hlogs]
    exact List.mem_map_of_mem hlog
  · rw [tokenLog, htopics, hfrom]
    rfl
  · rw [tokenLog, hlogamount, hamount]
    rfl

/-! ### The invariant -/

/-- The receipts that the poller accepts are of final blocks when it reads them. -/
def State.ReadsFinal (S : Setting) (s : State) : Event → Prop
  | .receipt i _ transaction receipt =>
    ∀ intent raw later fills candidate rest successful conclusiveForeign,
      s.polls[i]? = some
        ⟨intent, .receipts raw later fills candidate rest successful conclusiveForeign⟩ →
      ∀ evidence, tokenPaymentReceipt candidate (S.originCurrency intent.id) transaction receipt =
          .ok (some evidence) →
        evidence.outcome.succeeded = true → evidence.sender = intent.payerWallet →
        evidence.debits intent = true →
        evidence.outcome.block ≤ (s.chains intent.originChainId).finalized
  | _ => True

/-- The transaction a poll is about to fill its intent on. -/
def Phase.originTx? : Phase → Option Hash
  | .filling _ _ originTx => some originTx
  | _ => none

/-- A poll knows the terms of an intent, and fills it on a payment only. -/
structure State.Grounded (S : Setting) (s : State) (p : Poll) : Prop where
  known : p.intent.quoteTerms ∈ s.ledger.relayIntents.rows.map RelayIntent.quoteTerms
  paid : ∀ originTx, p.phase.originTx? = some originTx → s.Paid S p.intent.quoteTerms originTx

structure State.Sound (S : Setting) (s : State) : Prop where
  reachable : Reachable s.ledger
  polls : ∀ p ∈ s.polls, s.Grounded S p
  filled : ∀ r ∈ s.ledger.relayIntents.rows, r.status = .filled →
    ∃ originTx, r.verifiedOriginTxHash = some originTx ∧ s.Paid S r.quoteTerms originTx

/-- The loop over the candidates goes on, or ends without a fill. -/
@[simp] lemma originTx?_next (raw : String) (later : Time) (fills : List Hash)
    (successful conclusiveForeign : ℕ) (rest : List Hash) :
    (Phase.next raw later fills successful conclusiveForeign rest).originTx? = none := by
  rcases rest with _ | ⟨candidate, rest⟩
  · unfold Phase.next
    split_ifs <;> rfl
  · rfl

@[simp] lemma originTx?_start (served : ChainId → Bool) (now : Time) (intent : RelayIntent) :
    (Phase.start served now intent).originTx? = none := by
  unfold Phase.start
  split_ifs <;> rfl

@[simp] lemma originTx?_afterStatus (now : Time) (answer : Except String String) :
    (Phase.afterStatus now answer).originTx? = none := by
  rcases answer with e | raw
  · rfl
  · rw [Phase.afterStatus]
    cases IntentState.parse raw <;> rfl

@[simp] lemma originTx?_afterRecord (intent : RelayIntent) (now : Time) (raw : String)
    (later : Time) (answer : Except String (Option RelayRequest)) :
    (Phase.afterRecord intent now raw later answer).originTx? = none := by
  rcases answer with e | _ | request
  · rfl
  · rfl
  · simp only [Phase.afterRecord]
    split_ifs
    · rfl
    · exact originTx?_next ..

@[simp] lemma originTx?_afterFill (resolution : FillResolution) :
    (Phase.afterFill resolution).originTx? = none := by
  cases resolution <;> rfl

/-- The loop fills on the receipt it has just read. -/
lemma originTx?_afterReceipt {intent : RelayIntent} {now : Time} {raw : String} {later : Time}
    {fills : List Hash} {candidate : Hash} {rest : List Hash} {successful conclusiveForeign : ℕ}
    {answer : Except ChainError (Option TokenPaymentReceipt)} {originTx : Hash}
    (h : (Phase.afterReceipt intent now raw later fills candidate rest successful conclusiveForeign
      answer).originTx? = some originTx) :
    originTx = candidate ∧ ∃ evidence, answer = .ok (some evidence) ∧
      evidence.outcome.succeeded = true ∧ evidence.sender = intent.payerWallet ∧
      evidence.debits intent = true := by
  rcases answer with e | _ | evidence
  · cases h
  · cases h
  · simp only [Phase.afterReceipt] at h
    split_ifs at h with hfailed hforeign hdebits
    · simp at h
    · simp at h
    · obtain rfl := Option.some.inj h
      exact ⟨rfl, evidence, rfl, Bool.eq_true_of_not_eq_false hfailed, not_not.1 hforeign, hdebits⟩
    · simp at h

namespace State

variable {S : Setting} {s : State}

/-- A phase that fills nothing, or fills on a payment, keeps the invariant. -/
lemma Sound.setPhase (h : s.Sound S) {i : ℕ} {p : Poll} (hp : s.polls[i]? = some p) {phase : Phase}
    (hphase : ∀ originTx, phase.originTx? = some originTx →
      s.Paid S p.intent.quoteTerms originTx) : (s.setPhase i phase).Sound S where
  reachable := h.reachable
  filled := h.filled
  polls q hq := by
    obtain ⟨j, hj⟩ := List.mem_iff_getElem?.1 hq
    rw [State.setPhase, List.getElem?_modify] at hj
    by_cases hij : i = j
    · subst hij
      rw [hp] at hj
      obtain rfl : (⟨p.intent, phase⟩ : Poll) = q := by simpa using hj
      exact ⟨(h.polls p (List.mem_of_getElem? hp)).known, hphase⟩
    · have hold : s.polls[j]? = some q := by simpa [hij] using hj
      have hq := h.polls q (List.mem_of_getElem? hold)
      exact ⟨hq.known, hq.paid⟩

/-- A ledger transaction keeps the invariant when what it fills is paid for. -/
lemma Sound.commit (h : s.Sound S) (now : Time) (op : Op)
    (hfills : ∀ r ∈ s.ledger.relayIntents.rows, ∀ fills originTx raw,
      op = .resolveFilled r.id fills originTx raw → s.Paid S r.quoteTerms originTx) :
    State.Sound S { s with ledger := Payday.step s.ledger now op } := by
  obtain ⟨f, new, hfollow⟩ := step_follows s.ledger now op
  refine ⟨reachable_step h.reachable now op, fun p hp => ?_, fun r' hr' hstatus => ?_⟩
  · exact ⟨hfollow.keeps (h.polls p hp).known, (h.polls p hp).paid⟩
  · obtain ⟨r, hr, hterms, ⟨hold, hverified, -⟩ | ⟨fills, originTx, raw, hop, hverified, -⟩⟩ :=
      hfollow.filled hr' hstatus
    · obtain ⟨originTx, horigin, hpaid⟩ := h.filled r hr hold
      refine ⟨originTx, hverified.trans horigin, ?_⟩
      rw [hterms]
      exact hpaid
    · refine ⟨originTx, hverified, ?_⟩
      rw [hterms]
      exact hfills r hr fills originTx raw hop

/-- The row a poll fills has the terms the poll read. -/
lemma Grounded.terms_row {p : Poll} (h : s.Grounded S p) {r : RelayIntent}
    (hr : r ∈ s.ledger.relayIntents.rows) (hid : r.id = p.intent.id) :
    r.quoteTerms = p.intent.quoteTerms := by
  obtain ⟨r', hr', hterms⟩ := List.mem_map.1 h.known
  have hid' : r'.id = p.intent.id := congrArg QuoteTerms.id hterms
  rw [s.ledger.relayIntents.eq_of_key_eq hr hr' (hid.trans hid'.symm)]
  exact hterms

/-- A final payment survives every reorganization. -/
lemma Paid.mine {chainId : ChainId} {chain : OriginChain} (he : (s.chains chainId).Evolves chain)
    {t : QuoteTerms} {txHash : Hash} (h : s.Paid S t txHash) :
    State.Paid S { s with chains := Function.update s.chains chainId chain } t txHash := by
  unfold State.Paid at h
  show (Function.update s.chains chainId chain t.originChainId).Paid _ _ t txHash
  by_cases hchain : t.originChainId = chainId
  · subst hchain
    rw [Function.update_self]
    exact h.evolves he
  · rw [Function.update_of_ne hchain]
    exact h

/-- The transaction of a poll. -/
lemma Sound.write (h : s.Sound S) {i : ℕ} {p : Poll} (hp : s.polls[i]? = some p) (now : Time)
    (failed : Bool) : (s.write i p now failed).Sound S := by
  have hpoll := h.polls p (List.mem_of_getElem? hp)
  -- a transaction that is no fill
  have hother : ∀ op, (∀ r fills originTx raw, op ≠ Op.resolveFilled r fills originTx raw) →
      State.Sound S ({ s with ledger := Payday.step s.ledger now op }.setPhase i .done) := by
    intro op hop
    refine Sound.setPhase (h.commit now op fun r _ fills originTx raw heq => ?_) hp ?_
    · exact absurd heq (hop _ _ _ _)
    · intro originTx horigin
      cases horigin
  unfold State.write
  split
  · exact h.setPhase hp fun originTx horigin => by cases horigin
  · rename_i raw fills originTx hphase
    refine Sound.setPhase (h.commit now _ fun r hr fills' originTx' raw' heq => ?_) hp ?_
    · obtain ⟨hid, -, rfl, -⟩ := Op.resolveFilled.inj heq
      rw [hpoll.terms_row hr hid.symm]
      exact hpoll.paid originTx (by rw [hphase]; rfl)
    · intro origin horigin
      simp at horigin
  · exact h.setPhase hp fun originTx horigin => by cases horigin
  · rename_i e _
    refine hother _ fun r fills originTx raw heq => ?_
    cases e <;> cases heq
  · exact h.setPhase hp fun originTx horigin => by cases horigin
  · exact hother _ fun r fills originTx raw heq => by cases heq
  · exact h

/-- One step. -/
lemma Sound.step (h : s.Sound S) {e : Event} (hallows : s.Allows S e) (hreads : s.ReadsFinal S e) :
    (s.step S e).Sound S := by
  cases e with
  | commit now op =>
    exact h.commit now op fun r _ fills originTx raw heq => absurd heq (hallows _ _ _ _)
  | mine chainId chain =>
    refine ⟨h.reachable, fun p hp => ?_, fun r hr hstatus => ?_⟩
    · exact ⟨(h.polls p hp).known, fun originTx horigin =>
        Paid.mine hallows ((h.polls p hp).paid originTx horigin)⟩
    · obtain ⟨originTx, hverified, hpaid⟩ := h.filled r hr hstatus
      exact ⟨originTx, hverified, hpaid.mine hallows⟩
  | poll now id =>
    simp only [State.step]
    split
    · exact h
    · rename_i intent hfind
      have hmem := Table.mem_of_find? (Option.filter_eq_some_iff.1 hfind).1
      refine ⟨h.reachable, fun p hp => ?_, h.filled⟩
      rcases List.mem_append.1 hp with hold | hnew
      · exact ⟨(h.polls p hold).known, (h.polls p hold).paid⟩
      · rw [List.mem_singleton.1 hnew]
        refine ⟨List.mem_map_of_mem hmem, fun originTx horigin => ?_⟩
        simp at horigin
  | status i now answer =>
    simp only [State.step]
    split
    · rename_i intent hp
      exact h.setPhase hp fun originTx horigin => by simp at horigin
    · exact h
  | record i now answer =>
    simp only [State.step]
    split
    · rename_i intent raw later hp
      exact h.setPhase hp fun originTx horigin => by simp at horigin
    · exact h
  | receipt i now transaction receipt =>
    simp only [State.step]
    split
    · rename_i intent raw later fills candidate rest successful conclusiveForeign hp
      refine h.setPhase hp fun originTx horigin => ?_
      obtain ⟨rfl, evidence, hread, hsucceeded, hsender, hdebits⟩ := originTx?_afterReceipt horigin
      obtain ⟨hsigner, hreports⟩ := hallows _ _ _ _ _ _ _ _ hp
      exact paid_of_receipt hread hsigner hreports hsucceeded hsender hdebits
        (hreads _ _ _ _ _ _ _ _ hp evidence hread hsucceeded hsender hdebits)
    · exact h
  | write i now failed =>
    simp only [State.step]
    split
    · rename_i p hp
      exact h.write hp now failed
    · exact h

lemma Sound.start (chains : ChainId → OriginChain) : (State.start chains).Sound S where
  reachable := ⟨[], rfl⟩
  polls p hp := by cases hp
  filled r hr := by cases hr

/-- A run. -/
lemma Sound.run (h : s.Sound S) {events : List Event} (hallows : Along S (Allows S) s events)
    (hreads : Along S (ReadsFinal S) s events) : (State.run S s events).Sound S := by
  induction events generalizing s with
  | nil => exact h
  | cons e events ih => exact ih (h.step hallows.1 hreads.1) hallows.2 hreads.2

/-- An event of the poller ends intents or leaves their status alone. -/
lemma step_ends (S : Setting) (s : State) {e : Event} (he : e.ofPoll = true) {r : RelayIntent}
    (hr : r ∈ s.ledger.relayIntents.rows) :
    ∃ r' ∈ (s.step S e).ledger.relayIntents.rows, r'.quoteTerms = r.quoteTerms ∧
      (r'.status = r.status ∨ r'.status.isFinal = true) := by
  have hsame : ∃ r' ∈ s.ledger.relayIntents.rows, r'.quoteTerms = r.quoteTerms ∧
      (r'.status = r.status ∨ r'.status.isFinal = true) := ⟨r, hr, rfl, Or.inl rfl⟩
  have hwrite : ∀ now op, op.endsPoll = true →
      ∃ r' ∈ (Payday.step s.ledger now op).relayIntents.rows, r'.quoteTerms = r.quoteTerms ∧
        (r'.status = r.status ∨ r'.status.isFinal = true) := by
    intro now op hop
    obtain ⟨f, new, hfollow⟩ := step_follows s.ledger now op
    refine ⟨f r, ?_, (hfollow.follows r hr).terms, (hfollow.follows r hr).ends hop⟩
    rw [hfollow.rows]
    exact List.mem_append_left _ (List.mem_map_of_mem hr)
  cases e with
  | commit now op => cases he
  | mine chainId chain => cases he
  | poll now id =>
    simp only [State.step]
    split <;> exact hsame
  | status i now answer =>
    simp only [State.step]
    split <;> exact hsame
  | record i now answer =>
    simp only [State.step]
    split <;> exact hsame
  | receipt i now transaction receipt =>
    simp only [State.step]
    split <;> exact hsame
  | write i now failed =>
    simp only [State.step]
    split
    · unfold State.write
      split
      · exact hsame
      · exact hwrite _ _ rfl
      · exact hsame
      · rename_i e _
        exact hwrite _ _ (by cases e <;> rfl)
      · exact hsame
      · exact hwrite _ _ rfl
      · exact hsame
    · exact hsame

lemma chains_mine (S : Setting) (s : State) (chainId : ChainId) (chain : OriginChain) :
    (s.step S (.mine chainId chain)).chains chainId = chain := by
  simp [State.step]

/-- The poller does not move the chains. -/
lemma step_chains (S : Setting) (s : State) {e : Event} (he : e.ofPoll = true) :
    (s.step S e).chains = s.chains := by
  cases e with
  | commit now op => cases he
  | mine chainId chain => cases he
  | write i now failed =>
    simp only [State.step]
    split
    · unfold State.write
      split <;> rfl
    · rfl
  | _ =>
    simp only [State.step]
    split <;> rfl

end State

/-- Along every run in which the receipts the poller accepts are of final blocks when it reads
them: a filled intent has a payment that is final on its origin chain, succeeded, was signed by
the intent's wallet and moved exactly the quoted amount of the quoted token from it; no two
intents are filled on one transaction; and whatever Relay and the chain say, a poll leaves the
status of every intent alone, fails it, or fills it on such a payment. -/
theorem relay_intents_fill_on_final_payments (S : Setting) (chains : ChainId → OriginChain)
    (events : List Event) (hallows : State.Along S (State.Allows S) (State.start chains) events)
    (hreads : State.Along S (State.ReadsFinal S) (State.start chains) events) (s : State)
    (hs : s = State.run S (State.start chains) events) :
    (∀ r ∈ s.ledger.relayIntents.rows, r.status = .filled →
      ∃ originTx, r.verifiedOriginTxHash = some originTx ∧ s.Paid S r.quoteTerms originTx) ∧
    (∀ r ∈ s.ledger.relayIntents.rows, ∀ r' ∈ s.ledger.relayIntents.rows, r.status = .filled →
      r'.status = .filled → r.originChainId = r'.originChainId →
      r.verifiedOriginTxHash = r'.verifiedOriginTxHash → r = r') ∧
    ∀ e, e.ofPoll = true → s.Allows S e → s.ReadsFinal S e →
      ∀ r ∈ s.ledger.relayIntents.rows, ∃ r' ∈ (s.step S e).ledger.relayIntents.rows,
        r'.quoteTerms = r.quoteTerms ∧
        (r'.status = r.status ∨ r'.status = .failed ∨ r'.status = .refunded ∨
          (r'.status = .filled ∧ ∃ originTx, r'.verifiedOriginTxHash = some originTx ∧
            s.Paid S r.quoteTerms originTx)) := by
  have hsound : s.Sound S := by
    rw [hs]
    exact (State.Sound.start chains).run hallows hreads
  refine ⟨hsound.filled, fun r hr r' hr' hfilled _ hchain hverified => ?_, ?_⟩
  · obtain ⟨originTx, horigin, -⟩ := hsound.filled r hr hfilled
    exact hsound.reachable.parking.claimed r hr r' hr' hchain (by rw [horigin]; rfl) hverified
  · intro e he hallowed hread r hr
    obtain ⟨r', hr', hterms, hstatus⟩ := State.step_ends S s he hr
    refine ⟨r', hr', hterms, hstatus.imp_right fun hfinal => ?_⟩
    rcases hcases : r'.status with _ | _ | _ | _ | _ | _ <;> rw [hcases] at hfinal
    case filled =>
      obtain ⟨originTx, horigin, hpaid⟩ := (hsound.step hallowed hread).filled r' hr' hcases
      refine Or.inr (Or.inr ⟨rfl, originTx, horigin, ?_⟩)
      rw [State.Paid, State.step_chains S s he, hterms] at hpaid
      exact hpaid
    all_goals simp [RelayIntentStatus.isFinal] at hfinal ⊢

/-! ### A fill on a block that is not final -/

def sampleSetting : Setting := ⟨fun _ => true, fun _ => 12, fun _ _ => 99⟩

def sampleQuote : RelayIntent where
  id := 1
  invoiceId := 1
  requestId := 5
  originChainId := 10
  destinationChainId := 20
  payerWallet := 99
  quotedInAmount := 100
  quotedOutAmount := 90
  status := .quoted
  originTxHash := none
  verifiedOriginTxHash := none
  fillTxHashes := []
  relayStatus := none
  nextCheckAt := none
  createdAt := 0
  sentAt := none
  resolvedAt := none
  expiresAt := 1000

/-- Nothing mined; the boundary is block 4. -/
def emptyChain : OriginChain := ⟨fun _ => [], 4⟩

/-- The payment of the quote is in block 5. -/
def paidChain (finalized : ℕ) : OriginChain :=
  ⟨fun n => if n = 5 then [⟨7, true, [⟨12, some (99, 33), some 100⟩]⟩] else [], finalized⟩

def paidReceipt : RpcReceipt :=
  ⟨true, some 5, some 55, [⟨12, false, some (99, 33), some 100, some 5, some 55, none, some 7,
    some 0, some 0⟩]⟩

/-- The quote is sent, and Relay calls it successful. -/
def sampleOpening : List Event :=
  [.commit 0 (.insertRelayIntent sampleQuote), .commit 1 (.markSent 1 1 99 7), .poll 2 1,
    .status 0 3 (.ok "success"), .record 0 4 (.ok (some ⟨"success", [(10, 7)], [(20, 8)]⟩))]

/-- The payment is mined, the poller reads its receipt and fills the intent, and the chain
moves on. -/
def sampleFill (finalized : ℕ) (later : OriginChain) : List Event :=
  [.mine 10 (paidChain finalized), .receipt 0 5 (.ok (some 99)) (.ok (some paidReceipt)),
    .write 0 6 false, .mine 10 later]

def sampleStart : State := State.start fun _ => emptyChain

/-- The poll is about to read the receipt of the payment. -/
def samplePoll : Poll where
  intent := { sampleQuote with
    status := .sent, originTxHash := some 7, nextCheckAt := some 1, sentAt := some 1 }
  phase := .receipts "success" 3000003 [8] 7 [] 0 0

lemma sampleOpening_polls :
    (State.run sampleSetting sampleStart sampleOpening).polls = [samplePoll] := by
  decide +kernel

lemma sampleOpening_chains :
    (State.run sampleSetting sampleStart sampleOpening).chains = fun _ => emptyChain := by
  rw [sampleOpening, State.run]
  simp only [List.foldl_cons, List.foldl_nil]
  rw [State.step_chains _ _ rfl, State.step_chains _ _ rfl, State.step_chains _ _ rfl]
  rfl

lemma paidChain_reports (finalized : ℕ) : (paidChain finalized).Reports 7 paidReceipt := by
  intro n hn
  obtain rfl := Option.some.inj hn
  exact ⟨⟨7, true, [⟨12, some (99, 33), some 100⟩]⟩, by simp [paidChain], rfl, rfl, rfl⟩

/-- Nothing but the boundary can be wrong with the run. -/
lemma sampleFill_allowed {finalized : ℕ} (h : 4 ≤ finalized) {later : OriginChain}
    (hlater : (paidChain finalized).Evolves later) :
    State.Along sampleSetting (State.Allows sampleSetting) sampleStart
      (sampleOpening ++ sampleFill finalized later) := by
  have hmined : emptyChain.Evolves (paidChain finalized) := by
    refine ⟨h, fun n hn => if_neg ?_⟩
    rintro rfl
    exact absurd hn (by decide)
  refine ⟨fun _ _ _ _ h => ?_, fun _ _ _ _ h => ?_, trivial, trivial, trivial, ?_, ?_, trivial, ?_,
    trivial⟩
  · cases h
  · cases h
  · show ((State.run sampleSetting sampleStart sampleOpening).chains 10).Evolves _
    rw [sampleOpening_chains]
    exact hmined
  · intro intent raw later fills candidate rest successful conclusiveForeign hp
    change (State.run sampleSetting sampleStart sampleOpening).polls[0]? = _ at hp
    rw [sampleOpening_polls] at hp
    obtain ⟨rfl, hphase⟩ := Poll.mk.inj (Option.some.inj hp)
    obtain ⟨-, -, -, rfl, -, -, -⟩ := Phase.receipts.inj hphase
    refine ⟨fun sender hsender => ?_, fun r hr => ?_⟩
    · cases hsender
      rfl
    · cases hr
      exact paidChain_reports finalized
  · show (State.chains _ 10).Evolves later
    rw [State.step_chains _ _ rfl, State.step_chains _ _ rfl]
    exact hlater

/-- With the boundary at the payment's block, the fill is on final evidence. -/
lemma sampleFill_readsFinal {finalized : ℕ} (h : 5 ≤ finalized) (later : OriginChain) :
    State.Along sampleSetting (State.ReadsFinal sampleSetting) sampleStart
      (sampleOpening ++ sampleFill finalized later) := by
  refine ⟨trivial, trivial, trivial, trivial, trivial, trivial, ?_, trivial, trivial, trivial⟩
  intro intent raw later fills candidate rest successful conclusiveForeign hp evidence hread _ _ _
  change (State.run sampleSetting sampleStart sampleOpening).polls[0]? = _ at hp
  rw [sampleOpening_polls] at hp
  obtain ⟨rfl, -⟩ := Poll.mk.inj (Option.some.inj hp)
  obtain ⟨-, r, hr, hblock, -⟩ := tokenPaymentReceipt_eq_some hread
  obtain rfl := Option.some.inj (Except.ok.inj hr)
  obtain hblock : 5 = evidence.outcome.block := Option.some.inj hblock
  rw [← hblock]
  exact h

theorem relay_intents_fill_on_final_payments_once :
    ∃ s : State,
      (∃ r ∈ s.ledger.relayIntents.rows, r.status = .filled) ∧
      ∀ r ∈ s.ledger.relayIntents.rows, r.status = .filled →
        ∃ originTx, r.verifiedOriginTxHash = some originTx ∧
          s.Paid sampleSetting r.quoteTerms originTx :=
  ⟨_, by decide +kernel, (relay_intents_fill_on_final_payments sampleSetting (fun _ => emptyChain)
    (sampleOpening ++ sampleFill 5 (paidChain 6))
    (sampleFill_allowed (by decide) ⟨by decide, fun _ _ => rfl⟩)
    (sampleFill_readsFinal le_rfl _) _ rfl).1⟩

/-- Without the condition on the reads the guarantee fails: the poller fills on a receipt above
the boundary, and a reorganization removes the payment. -/
theorem fill_outlives_its_payment :
    ¬ ∀ (S : Setting) (chains : ChainId → OriginChain) (events : List Event),
      State.Along S (State.Allows S) (State.start chains) events →
      ∀ r ∈ (State.run S (State.start chains) events).ledger.relayIntents.rows,
        r.status = .filled → ∃ originTx, r.verifiedOriginTxHash = some originTx ∧
          (State.run S (State.start chains) events).Paid S r.quoteTerms originTx := by
  intro hclaim
  have hreorganizes : (paidChain 4).Evolves emptyChain := by
    refine ⟨le_rfl, fun n hn => (if_neg ?_).symm⟩
    rintro rfl
    exact absurd hn (by decide)
  obtain ⟨r, hr, hfilled⟩ : ∃ r ∈ (State.run sampleSetting sampleStart
      (sampleOpening ++ sampleFill 4 emptyChain)).ledger.relayIntents.rows,
      r.status = .filled ∧ r.originChainId = 10 := by decide +kernel
  obtain ⟨originTx, -, hpaid⟩ :=
    hclaim _ _ _ (sampleFill_allowed le_rfl hreorganizes) r hr hfilled.1
  have hempty : (State.run sampleSetting sampleStart
      (sampleOpening ++ sampleFill 4 emptyChain)).chains 10 = emptyChain := by
    simp only [State.run, List.foldl_append, sampleFill, List.foldl_cons, List.foldl_nil]
    exact State.chains_mine ..
  have hchain : r.quoteTerms.originChainId = 10 := hfilled.2
  rw [State.Paid, hchain] at hpaid
  obtain ⟨n, -, tx, htx, -⟩ := hpaid
  change tx ∈ ((State.run sampleSetting sampleStart
      (sampleOpening ++ sampleFill 4 emptyChain)).chains 10).blocks n at htx
  rw [hempty] at htx
  cases htx

end Payday.Relay
