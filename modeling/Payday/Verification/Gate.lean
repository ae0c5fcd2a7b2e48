/-
# The payer verification gate

A run is any interleaving of the payer's, the merchant's and the preview's transactions with the
transactions of the ledger.  `Effect` says once what a transaction can have done; the invariants and
the rule of completion are read off it.

A request's verification is completed by a proof that a single payer session of the request has made,
and exactly when this proof is the last one the add-ons ask for.
-/
import Payday.Ledger.Simulation
import Payday.Verification.Sessions

namespace Payday

/-- The operation completes a verification; these are the payer transactions' own. -/
def Op.completesVerification : Op → Bool
  | .completeVerification .. => true
  | _ => false

/-! ### Gates of requests -/

/-- The gate of one request. -/
def Ledger.gate? (L : Ledger) (id : InvoiceId) : Option Gate := (L.invoices.find? id).map Invoice.gate

lemma Ledger.gate?_eq_find? (L : Ledger) (id : InvoiceId) :
    L.gate? id = L.gates.find? (fun gate => decide (gate.id = id)) := by
  simp only [Ledger.gate?, Ledger.gates, Table.find?, List.find?_map]
  rfl

lemma gate?_of_gates {L L' : Ledger} (h : L'.gates = L.gates) (id : InvoiceId) : L'.gate? id = L.gate? id := by
  rw [Ledger.gate?_eq_find?, Ledger.gate?_eq_find?, h]

/-- Issuance adds a request that is not verified; the others stay. -/
lemma insertIssued_gate? (L : Ledger) (now : Time) (input : IssuedRequest) (id : InvoiceId) :
    (insertIssued L now input).gate? id = L.gate? id ∨
      L.gate? id = none ∧ (insertIssued L now input).gate? id = some (input.row now).gate := by
  unfold insertIssued
  split
  · exact Or.inl rfl
  · split
    · exact Or.inl rfl
    · rename_i invoices hinsert
      simp only [Ledger.gate?, Table.find?_of_insert? hinsert]
      rcases eq_or_ne id (input.row now).id with rfl | hid
      · right
        obtain ⟨hnew, -⟩ := Table.insert?_eq_some_iff.1 hinsert
        refine ⟨?_, by simp⟩
        rw [Table.find?_eq_none_iff.2 hnew]
        rfl
      · left
        rw [if_neg hid]

/-- A transaction of the ledger leaves a gate as it is, or adds one that is not completed. -/
lemma step_gate? (L : Ledger) (now : Time) {op : Op} (hop : op.completesVerification = false)
    (id : InvoiceId) :
    (Payday.step L now op).gate? id = L.gate? id ∨
      L.gate? id = none ∧ ∃ gate, (Payday.step L now op).gate? id = some gate ∧
        gate.verificationCompletedAt = none := by
  by_cases hissue : ∃ input, op = .insertIssued input
  · obtain ⟨input, rfl⟩ := hissue
    rcases insertIssued_gate? L now input id with hsame | ⟨hnone, hnew⟩
    · exact Or.inl hsame
    · exact Or.inr ⟨hnone, _, hnew, rfl⟩
  · refine Or.inl (gate?_of_gates (step_gates L now op (fun input h => hissue ⟨input, h⟩) ?_) id)
    rintro id' verifiedAt rfl
    cases hop

namespace Verification

/-! ### Runs -/

/-- A transaction of the payer, of the merchant, of a preview, or of the ledger alone. -/
inductive Transaction
  | create (id : SessionId) (token : String) (invoiceId : InvoiceId) (ttl : ℕ)
  | createMerchantPreview (id : SessionId) (token : String) (invoiceId : InvoiceId) (ttl : ℕ)
  | issueWalletChallenge (nonce : Hash) (sessionId : SessionId) (chainId : ChainId) (ttl : ℕ)
  | delete (sessionId : SessionId)
  | abandonEmailVerification (sessionId : SessionId)
  | beginEmailVerification (now : Time) (id : AttemptId) (sessionId : SessionId) (cooldown : ℕ)
  | approveEmail (seen : List Attempt) (sessionId : SessionId) (payerRef : Hash) (verifiedAt : Time)
      (eventId : String)
  | createClientSecret (id : SecretId) (secret : String) (invoiceId : InvoiceId) (accountId : AccountId)
      (ttl : ℕ)
  | exchangeClientSecret (now : Time) (ids : ExchangeIds) (secret : String) (invoiceId : InvoiceId) (ttl : ℕ)
  | bindPayerWallet (now : Time) (attemptId : AttemptId) (invoiceId : InvoiceId) (sessionId : SessionId)
      (wallet : Address) (binding : Binding)
  /-- A request is issued, bound, paid, expired, swept or settled. -/
  | request (op : {op : Op // op.completesVerification = false})

/-- The store after a transaction that may fail: then it is rolled back. -/
def committed {ε α : Type} (S : Store) : Except ε (Store × α) → Store
  | .ok result => result.1
  | .error _ => S

/-- The store after one transaction. -/
def step (O : Outside) (S : Store) (dbNow : Time) : Transaction → Store
  | .create id token invoiceId ttl => committed S (create O S dbNow id token invoiceId ttl)
  | .createMerchantPreview id token invoiceId ttl =>
    committed S (createMerchantPreview O S dbNow id token invoiceId ttl)
  | .issueWalletChallenge nonce sessionId chainId ttl =>
    committed S (issueWalletChallenge S dbNow nonce sessionId chainId ttl)
  | .delete sessionId => delete S sessionId
  | .abandonEmailVerification sessionId => abandonEmailVerification S sessionId
  | .beginEmailVerification now id sessionId cooldown =>
    committed S (beginEmailVerification O S now dbNow id sessionId cooldown)
  | .approveEmail seen sessionId payerRef verifiedAt eventId =>
    committed S (approveEmail S seen dbNow sessionId payerRef verifiedAt eventId)
  | .createClientSecret id secret invoiceId accountId ttl =>
    committed S (createClientSecret O S dbNow id secret invoiceId accountId ttl)
  | .exchangeClientSecret now ids secret invoiceId ttl =>
    committed S (exchangeClientSecret O S now dbNow ids secret invoiceId ttl)
  | .bindPayerWallet now attemptId invoiceId sessionId wallet binding =>
    committed S (bindPayerWallet O S now dbNow attemptId invoiceId sessionId wallet binding)
  | .request op => { S with ledger := Payday.step S.ledger dbNow op.1 }

/-- The store after a run. -/
def run (O : Outside) (S : Store) (txs : List (Time × Transaction)) : Store :=
  txs.foldl (fun S tx => step O S tx.1 tx.2) S

@[simp] lemma run_nil (O : Outside) (S : Store) : run O S [] = S := rfl

@[simp] lemma run_cons (O : Outside) (S : Store) (tx : Time × Transaction) (txs : List (Time × Transaction)) :
    run O S (tx :: txs) = run O (step O S tx.1 tx.2) txs := rfl

lemma run_append (O : Outside) (S : Store) (txs more : List (Time × Transaction)) :
    run O S (txs ++ more) = run O (run O S txs) more := by
  simp [run]

/-- What every transaction keeps, every run keeps. -/
lemma run_induction {O : Outside} {P : Store → Prop} (hstep : ∀ S dbNow tx, P S → P (step O S dbNow tx))
    {S : Store} (h : P S) (txs : List (Time × Transaction)) : P (run O S txs) := by
  induction txs generalizing S with
  | nil => exact h
  | cons tx rest ih => exact ih (hstep S tx.1 tx.2 h)

/-! ### What a transaction can have done -/

/-- The session whose proof a transaction records, and the time of the proof. -/
def Transaction.proof? : Transaction → Option (SessionId × Time)
  | .approveEmail _ sessionId _ verifiedAt _ => some (sessionId, verifiedAt)
  | .exchangeClientSecret now ids _ _ _ => some (ids.sessionId, now)
  | _ => none

/-- What a transaction can have done to the store. -/
inductive Effect (O : Outside) (S : Store) (dbNow : Time) : Transaction → Store → Prop
  | refused (tx : Transaction) : Effect O S dbNow tx S
  /-- A session is minted without a proof: only a preview has facts then. -/
  | minted (tx : Transaction) {session : PayerSession} {sessions : Table PayerSession.id}
      (hinvoice : (S.ledger.invoices.find? session.invoiceId).isSome)
      (htoken : ∀ other ∈ S.sessions.rows, other.tokenHash ≠ session.tokenHash)
      (hinsert : S.sessions.insert? session = some sessions) (hchallenge : session.challenge = none)
      (hfacts : session.purpose = .payer → session.facts = ⟨false, false, false⟩) :
      Effect O S dbNow tx { S with sessions := sessions }
  | challenged (tx : Transaction) {sessionId : SessionId} {session : PayerSession}
      (challenge : WalletChallenge) (hsession : S.sessions.find? sessionId = some session)
      (hpurpose : session.purpose = .payer) :
      Effect O S dbNow tx { S with sessions := writeChallenge S sessionId (some challenge) }
  | deleted (sessionId : SessionId) : Effect O S dbNow (.delete sessionId) (delete S sessionId)
  | abandoned (sessionId : SessionId) :
      Effect O S dbNow (.abandonEmailVerification sessionId) (abandonEmailVerification S sessionId)
  | begun {now : Time} {id : AttemptId} {sessionId : SessionId} {cooldown : ℕ} {session : PayerSession}
      {attempts : Table Attempt.id} (hsession : S.sessions.find? sessionId = some session)
      (hinsert : (abandonEmailVerification S sessionId).attempts.insert? (emailAttempt O dbNow id session) =
        some attempts) :
      Effect O S dbNow (.beginEmailVerification now id sessionId cooldown)
        { S with attempts := attempts }
  | approved {seen : List Attempt} {sessionId : SessionId} {payerRef : Hash} {verifiedAt : Time}
      {eventId : String} {session : PayerSession} (hsession : S.sessions.find? sessionId = some session)
      (hexpiry : verifiedAt < session.expiresAt) :
      Effect O S dbNow (.approveEmail seen sessionId payerRef verifiedAt eventId)
        (writeApproval S dbNow session payerRef verifiedAt eventId)
  | secretMinted (tx : Transaction) {secret : ClientSecret} {secrets : Table ClientSecret.id}
      (hnew : ∀ other ∈ S.secrets.rows, other.secretHash ≠ secret.secretHash)
      (hinsert : S.secrets.insert? secret = some secrets) (hunused : secret.payerSessionId = none) :
      Effect O S dbNow tx { S with secrets := secrets }
  | exchanged {now : Time} {ids : ExchangeIds} {secret : String} {invoiceId : InvoiceId} {ttl : ℕ}
      {found : ClientSecret} {sessions : Table PayerSession.id} {attempts : Table Attempt.id}
      (hfound : findSecret O S secret invoiceId = some found) (hunused : found.usedAt = none)
      (hinvoice : (S.ledger.invoices.find? invoiceId).isSome)
      (htoken : ∀ other ∈ S.sessions.rows, other.tokenHash ≠ O.tokenHash ids.token)
      (hsession : S.sessions.insert? (mintedSession O now dbNow ids invoiceId ttl) = some sessions)
      (hattempt : S.attempts.insert? (exchangeAttempt now dbNow ids invoiceId found.accountId) = some attempts) :
      Effect O S dbNow (.exchangeClientSecret now ids secret invoiceId ttl)
        (writeExchange { S with sessions := sessions, attempts := attempts } now dbNow
          (mintedSession O now dbNow ids invoiceId ttl) found)
  | walletBound (tx : Transaction) {now : Time} {attemptId : AttemptId} {invoiceId : InvoiceId}
      {sessionId : SessionId} {wallet : Address} {binding : Binding} {attempts : Table Attempt.id}
      (hsession : (S.sessions.find? sessionId).isSome)
      (hattempt : S.attempts.insert? (walletAttempt O now dbNow attemptId invoiceId sessionId) =
        some attempts) :
      Effect O S dbNow tx { S with
        ledger := Payday.bindPayerWallet S.ledger dbNow (now / 1000000) invoiceId wallet binding
        attempts := attempts
        sessions := writeChallenge S sessionId none }
  | requested (op : {op : Op // op.completesVerification = false}) :
      Effect O S dbNow (.request op) { S with ledger := Payday.step S.ledger dbNow op.1 }

section Effects

variable {O : Outside} {S S' : Store}

/-- A transaction that fails is refused. -/
lemma committed_effect {ε α : Type} {r : Except ε (Store × α)} {dbNow : Time} {tx : Transaction}
    (h : ∀ S' a, r = .ok (S', a) → Effect O S dbNow tx S') : Effect O S dbNow tx (committed S r) := by
  rcases r with e | ⟨S', a⟩
  · exact .refused tx
  · exact h S' a rfl

lemma insertSession_ok {session : PayerSession} (h : insertSession S session = .ok S') :
    (S.ledger.invoices.find? session.invoiceId).isSome ∧
      (∀ other ∈ S.sessions.rows, other.tokenHash ≠ session.tokenHash) ∧
      ∃ sessions, S.sessions.insert? session = some sessions ∧ S' = { S with sessions := sessions } := by
  simp only [insertSession, require_bind_eq_ok, orError_bind_eq_ok, pure_eq_ok] at h
  obtain ⟨hinvoice, htoken, -, sessions, hinsert, rfl⟩ := h
  exact ⟨hinvoice, htoken, sessions, hinsert, rfl⟩

lemma beginEmailVerification_ok {now dbNow : Time} {id : AttemptId} {sessionId : SessionId} {cooldown : ℕ}
    {attempt : EmailVerificationAttempt}
    (h : beginEmailVerification O S now dbNow id sessionId cooldown = .ok (S', attempt)) :
    ∃ session attempts, S.sessions.find? sessionId = some session ∧
      cooldownLeft now cooldown (latestEmail S session.invoiceId) = none ∧
      (abandonEmailVerification S sessionId).attempts.insert? (emailAttempt O dbNow id session) = some attempts ∧
      S' = { S with attempts := attempts } := by
  simp only [beginEmailVerification, orError_bind_eq_ok] at h
  obtain ⟨session, hsession, invoice, -, h⟩ := h
  split at h
  · cases h
  · rename_i hcooldown
    simp only [orError_bind_eq_ok, pure_eq_ok, Prod.mk.injEq] at h
    obtain ⟨attempts, hinsert, rfl, -⟩ := h
    exact ⟨session, attempts, hsession, hcooldown, hinsert, rfl⟩

lemma approveEmail_ok {seen : List Attempt} {dbNow : Time} {sessionId : SessionId} {payerRef : Hash}
    {verifiedAt : Time} {eventId : String} {completion : VerificationCompletion}
    (h : approveEmail S seen dbNow sessionId payerRef verifiedAt eventId = .ok (S', completion)) :
    S' = S ∨ ∃ session, (S.attempts.rows.filter (Attempt.isPendingEmail sessionId)).length = 1 ∧
      S.sessions.find? sessionId = some session ∧ verifiedAt < session.expiresAt ∧
      S' = writeApproval S dbNow session payerRef verifiedAt eventId := by
  unfold approveEmail at h
  split at h
  · simp only [bind_eq_ok, pure_eq_ok, Prod.mk.injEq] at h
    obtain ⟨-, -, rfl, -⟩ := h
    exact Or.inl rfl
  · simp only [require_bind_eq_ok, orError_bind_eq_ok, pure_eq_ok, Prod.mk.injEq] at h
    obtain ⟨hpending, session, hsession, hexpiry, rfl, -⟩ := h
    exact Or.inr ⟨session, hpending, hsession, hexpiry, rfl⟩

lemma exchangeClientSecret_ok {now dbNow : Time} {ids : ExchangeIds} {secret : String}
    {invoiceId : InvoiceId} {ttl : ℕ} {exchange : ClientSecretExchange}
    (h : exchangeClientSecret O S now dbNow ids secret invoiceId ttl = .ok (S', exchange)) :
    ∃ found sessions attempts, findSecret O S secret invoiceId = some found ∧ found.usedAt = none ∧
      (S.ledger.invoices.find? invoiceId).isSome ∧
      (∀ other ∈ S.sessions.rows, other.tokenHash ≠ O.tokenHash ids.token) ∧
      S.sessions.insert? (mintedSession O now dbNow ids invoiceId ttl) = some sessions ∧
      S.attempts.insert? (exchangeAttempt now dbNow ids invoiceId found.accountId) = some attempts ∧
      S' = writeExchange { S with sessions := sessions, attempts := attempts } now dbNow
        (mintedSession O now dbNow ids invoiceId ttl) found ∧
      exchange.session = mintedSession O now dbNow ids invoiceId ttl := by
  simp only [exchangeClientSecret, orError_bind_eq_ok, require_bind_eq_ok] at h
  obtain ⟨found, hfound, hunused, -, h⟩ := h
  obtain ⟨S₁, hinsert, h⟩ := bind_eq_ok.1 h
  obtain ⟨hinvoice, htoken, sessions, hsessions, rfl⟩ := insertSession_ok (mapError_eq_ok.1 hinsert)
  simp only [orError_bind_eq_ok, require_bind_eq_ok, pure_eq_ok, Prod.mk.injEq] at h
  obtain ⟨-, attempts, hattempts, rfl, rfl⟩ := h
  exact ⟨found, sessions, attempts, hfound, hunused, hinvoice, htoken, hsessions, hattempts, rfl, rfl⟩

/-- Every transaction has one of the effects. -/
lemma step_effect (O : Outside) (S : Store) (dbNow : Time) (tx : Transaction) :
    Effect O S dbNow tx (step O S dbNow tx) := by
  cases tx with
  | create id token invoiceId ttl =>
    refine committed_effect fun S' created hok => ?_
    simp only [create, bind_eq_ok, pure_eq_ok, Prod.mk.injEq] at hok
    obtain ⟨S₁, hinsert, rfl, -⟩ := hok
    obtain ⟨hinvoice, htoken, sessions, hsessions, rfl⟩ := insertSession_ok hinsert
    exact .minted _ hinvoice htoken hsessions rfl fun _ => rfl
  | createMerchantPreview id token invoiceId ttl =>
    refine committed_effect fun S' created hok => ?_
    simp only [createMerchantPreview, bind_eq_ok, pure_eq_ok, Prod.mk.injEq] at hok
    obtain ⟨S₁, hinsert, rfl, -⟩ := hok
    obtain ⟨hinvoice, htoken, sessions, hsessions, rfl⟩ := insertSession_ok hinsert
    exact .minted _ hinvoice htoken hsessions rfl fun h => by cases h
  | issueWalletChallenge nonce sessionId chainId ttl =>
    refine committed_effect fun S' created hok => ?_
    simp only [issueWalletChallenge, orError_bind_eq_ok, require_bind_eq_ok, pure_eq_ok,
      Prod.mk.injEq] at hok
    obtain ⟨session, hsession, ⟨-, hpurpose⟩, rfl, -⟩ := hok
    exact .challenged _ _ hsession hpurpose
  | delete sessionId => exact .deleted sessionId
  | abandonEmailVerification sessionId => exact .abandoned sessionId
  | beginEmailVerification now id sessionId cooldown =>
    refine committed_effect fun S' created hok => ?_
    obtain ⟨session, attempts, hsession, -, hinsert, rfl⟩ := beginEmailVerification_ok hok
    exact .begun hsession hinsert
  | approveEmail seen sessionId payerRef verifiedAt eventId =>
    refine committed_effect fun S' completion hok => ?_
    rcases approveEmail_ok hok with rfl | ⟨session, -, hsession, hexpiry, rfl⟩
    · exact .refused _
    · exact .approved hsession hexpiry
  | createClientSecret id secret invoiceId accountId ttl =>
    refine committed_effect fun S' created hok => ?_
    simp only [createClientSecret, orError_bind_eq_ok, require_bind_eq_ok, pure_eq_ok,
      Prod.mk.injEq] at hok
    obtain ⟨-, hnew, -, secrets, hinsert, rfl, -⟩ := hok
    exact .secretMinted _ hnew hinsert rfl
  | exchangeClientSecret now ids secret invoiceId ttl =>
    refine committed_effect fun S' exchange hok => ?_
    obtain ⟨found, sessions, attempts, hfound, hunused, hinvoice, htoken, hsessions, hattempts, rfl, -⟩ :=
      exchangeClientSecret_ok hok
    exact .exchanged hfound hunused hinvoice htoken hsessions hattempts
  | bindPayerWallet now attemptId invoiceId sessionId wallet binding =>
    refine committed_effect fun S' result hok => ?_
    simp only [bindPayerWallet, orError_bind_eq_ok] at hok
    obtain ⟨row, -, hok⟩ := hok
    split at hok
    · obtain rfl := (Prod.mk.inj (pure_eq_ok.1 hok)).1
      exact .refused _
    · split at hok
      · obtain rfl := (Prod.mk.inj (pure_eq_ok.1 hok)).1
        exact .refused _
      · simp only [require_bind_eq_ok, orError_bind_eq_ok, pure_eq_ok, Prod.mk.injEq] at hok
        obtain ⟨-, hsession, attempts, hattempts, rfl, -⟩ := hok
        exact .walletBound _ hsession hattempts
  | request op => exact .requested op

/-! ### Facts of sessions -/

/-- What a transaction leaves of a session's facts. -/
structure SameFacts (session session' : PayerSession) : Prop where
  invoiceId : session'.invoiceId = session.invoiceId
  purpose : session'.purpose = session.purpose
  facts : session'.facts = session.facts

lemma SameFacts.refl (session : PayerSession) : SameFacts session session := ⟨rfl, rfl, rfl⟩

/-- A challenge is no fact. -/
lemma writeChallenge_session {sessionId id : SessionId} {challenge : Option WalletChallenge}
    {session' : PayerSession} (h : (writeChallenge S id challenge).find? sessionId = some session') :
    ∃ session, S.sessions.find? sessionId = some session ∧ SameFacts session session' := by
  rw [writeChallenge, Table.find?_updateWhere] at h
  obtain ⟨session, hsession, rfl⟩ := Option.map_eq_some_iff.1 h
  refine ⟨session, hsession, ?_⟩
  split
  · exact ⟨rfl, rfl, rfl⟩
  · exact SameFacts.refl session

lemma writeApproval_session (S : Store) (dbNow : Time) (session : PayerSession) (payerRef : Hash)
    (verifiedAt : Time) (eventId : String) (sessionId : SessionId) :
    (writeApproval S dbNow session payerRef verifiedAt eventId).sessions.find? sessionId =
      (S.sessions.find? sessionId).map fun row =>
        if row.id = session.id then row.proveEmail payerRef verifiedAt else row := by
  have hfind := Table.find?_updateWhere S.sessions (fun row => decide (row.id = session.id))
    (fun row => row.proveEmail payerRef verifiedAt) (fun _ => rfl) sessionId
  simp only [decide_eq_true_eq] at hfind
  exact hfind

/-- The transaction records a proof of the session: of its mailbox, or by the exchange that minted it. -/
inductive Proved (S S' : Store) (dbNow : Time) (session' : PayerSession) (verifiedAt : Time) : Prop
  | mailbox (session : PayerSession) (payerRef : Hash)
      (hsession : S.sessions.find? session'.id = some session)
      (hproven : session' = session.proveEmail payerRef verifiedAt)
      (hledger : S'.ledger = completeInvoice S.ledger dbNow session'.invoiceId verifiedAt
        (mailboxCompletes session'))
  | secret (hemail : session'.emailVerifiedAt = none)
      (hledger : S'.ledger = completeInvoice S.ledger dbNow session'.invoiceId verifiedAt
        (secretCompletes session'))

/-- Where the facts of a session come from: it had them before, it is a payer's new session without
any, or the transaction records a proof of this very session. -/
lemma Effect.session_cases {dbNow : Time} {tx : Transaction} (h : Effect O S dbNow tx S')
    {sessionId : SessionId} {session' : PayerSession} (hsession' : S'.sessions.find? sessionId = some session') :
    (∃ session, S.sessions.find? sessionId = some session ∧ SameFacts session session') ∨
      (session'.purpose = .payer → session'.facts = ⟨false, false, false⟩) ∨
      ∃ verifiedAt, tx.proof? = some (sessionId, verifiedAt) ∧ Proved S S' dbNow session' verifiedAt := by
  have hkept : S'.sessions = S.sessions →
      ∃ session, S.sessions.find? sessionId = some session ∧ SameFacts session session' := fun hsame =>
    ⟨session', hsame ▸ hsession', SameFacts.refl _⟩
  cases h with
  | refused | abandoned | begun | secretMinted | requested => exact Or.inl (hkept rfl)
  | minted tx hinvoice htoken hinsert hchallenge hfacts =>
    rw [Table.find?_of_insert? hinsert] at hsession'
    split at hsession'
    · cases hsession'
      exact Or.inr (Or.inl hfacts)
    · exact Or.inl ⟨session', hsession', SameFacts.refl _⟩
  | challenged tx challenge hsession hpurpose => exact Or.inl (writeChallenge_session hsession')
  | walletBound tx hbound hattempt => exact Or.inl (writeChallenge_session hsession')
  | deleted id =>
    obtain ⟨hmem, hid⟩ := Table.find?_eq_some_iff.1 hsession'
    have hmem : session' ∈ S.sessions.rows := (List.mem_filter.1 hmem).1
    exact Or.inl ⟨session', Table.find?_eq_some_iff.2 ⟨hmem, hid⟩, SameFacts.refl _⟩
  | @approved seen id payerRef verifiedAt eventId session hsession hexpiry =>
    rw [writeApproval_session] at hsession'
    obtain ⟨old, hold, rfl⟩ := Option.map_eq_some_iff.1 hsession'
    have hid : session.id = id := Table.key_of_find? hsession
    have hold' : old.id = sessionId := Table.key_of_find? hold
    by_cases hsame : sessionId = id
    · subst hsame
      obtain rfl := Option.some.inj (hold.symm.trans hsession)
      refine Or.inr (Or.inr ⟨verifiedAt, rfl, .mailbox old payerRef ?_ ?_ ?_⟩)
      · rw [if_pos rfl]
        exact hid.symm ▸ hsession
      · rw [if_pos rfl]
      · rw [if_pos rfl]
        rfl
    · -- another session
      rw [if_neg (by rw [hid, hold']; exact hsame)]
      exact Or.inl ⟨old, hold, SameFacts.refl _⟩
  | @exchanged now ids secret invoiceId ttl found sessions attempts hfound hunused hinvoice htoken hinsert hattempt =>
    simp only [writeExchange] at hsession'
    rw [Table.find?_of_insert? hinsert] at hsession'
    split at hsession'
    · rename_i hsame
      cases hsession'
      exact Or.inr (Or.inr ⟨now, by rw [hsame]; rfl, .secret rfl rfl⟩)
    · exact Or.inl ⟨session', hsession', SameFacts.refl _⟩

/-! ### Completion -/

/-- When a request's verification was completed. -/
def Store.completed (S : Store) (id : InvoiceId) : Option Time :=
  (S.ledger.invoices.find? id).bind (·.verificationCompletedAt)

lemma Store.completed_eq_gate? (S : Store) (id : InvoiceId) :
    S.completed id = (S.ledger.gate? id).bind (·.verificationCompletedAt) := by
  rw [Store.completed, Ledger.gate?, Option.bind_map]
  rfl

/-- A ledger transaction leaves the completions alone. -/
lemma completed_step {dbNow : Time} {op : Op} (hop : op.completesVerification = false)
    (hledger : S'.ledger = Payday.step S.ledger dbNow op) (id : InvoiceId) :
    S'.completed id = S.completed id := by
  rw [Store.completed_eq_gate?, Store.completed_eq_gate?, hledger]
  rcases step_gate? S.ledger dbNow hop id with hsame | ⟨hnone, gate, hgate, hopen⟩
  · rw [hsame]
  · rw [hnone, hgate]
    exact hopen

/-- The request that a proof completes, and what the update needs. -/
lemma completed_completeInvoice {dbNow verifiedAt : Time} {id : InvoiceId} {satisfied : Invoice → Bool}
    (hledger : S'.ledger = completeInvoice S.ledger dbNow id verifiedAt satisfied) (id' : InvoiceId) :
    S'.completed id' = (S.ledger.invoices.find? id').bind fun row =>
      if id' = id ∧ satisfied row = true ∧ row.verifiable verifiedAt = true then some verifiedAt
      else row.verificationCompletedAt := by
  rw [Store.completed, hledger, completeInvoice, Table.find?_updateWhere]
  rcases hrow : S.ledger.invoices.find? id' with _ | row
  · rfl
  · have hid : row.id = id' := Table.key_of_find? hrow
    simp only [Option.map_some, Option.bind_some, Bool.and_eq_true, decide_eq_true_eq, hid, and_assoc]
    split <;> rfl

/-- The proof `tx` records completes the request `id`: it is open, the proof comes before its deadline,
and the proving session is a payer's, of this request, and now has every fact the add-ons ask for. -/
structure CompletedBy (S S' : Store) (tx : Transaction) (id : InvoiceId) (verifiedAt : Time)
    (row : Invoice) (session' : PayerSession) : Prop where
  row_eq : S.ledger.invoices.find? id = some row
  gated : row.payerVerification.isGated = true
  isOpen : row.status.isOpen = true
  intime : epochSeconds verifiedAt ≤ row.expirationTimestamp
  proof_eq : tx.proof? = some (session'.id, verifiedAt)
  session_eq : S'.sessions.find? session'.id = some session'
  purpose : session'.purpose = .payer
  own : session'.invoiceId = id
  satisfies : session'.satisfies row.payerVerification = true

lemma Invoice.verifiable_iff {verifiedAt : Time} {row : Invoice} :
    row.verifiable verifiedAt = true ↔ row.verificationCompletedAt = none ∧ row.status.isOpen = true ∧
      epochSeconds verifiedAt ≤ row.expirationTimestamp := by
  simp [Invoice.verifiable, and_assoc]

lemma mailboxCompletes_iff {session : PayerSession} {row : Invoice} :
    mailboxCompletes session row = true ↔ row.expectedEmail.isSome = true ∧
      (row.payerReference.isSome = true → session.merchantSessionVerifiedAt.isSome = true) ∧
      session.purpose = .payer := by
  rcases hreference : row.payerReference with _ | reference <;>
    simp [mailboxCompletes, hreference, and_assoc]

lemma secretCompletes_iff {session : PayerSession} {row : Invoice} :
    secretCompletes session row = true ↔ row.payerReference.isSome = true ∧
      (row.expectedEmail.isSome = true → session.emailVerifiedAt.isSome = true) ∧
      session.purpose = .payer := by
  rcases hemail : row.expectedEmail with _ | email <;>
    simp [secretCompletes, hemail, and_assoc]

lemma satisfies_iff {session : PayerSession} {row : Invoice} :
    session.satisfies row.payerVerification = true ↔
      (row.expectedEmail.isSome = true → session.emailVerifiedAt.isSome = true) ∧
      (row.payerReference.isSome = true → session.merchantSessionVerifiedAt.isSome = true) := by
  rcases hemail : row.expectedEmail with _ | email <;>
    rcases hreference : row.payerReference with _ | reference <;>
      simp [PayerSession.satisfies, VerificationFacts.satisfy, PayerSession.facts, Invoice.payerVerification,
        hemail, hreference]

lemma isGated_iff {row : Invoice} :
    row.payerVerification.isGated = true ↔
      row.expectedEmail.isSome = true ∨ row.payerReference.isSome = true := by
  simp [Invoice.payerVerification, Proofs.PayerVerification.isGated]

lemma proveEmail_isSome (session : PayerSession) (payerRef : Hash) (verifiedAt : Time) :
    (session.proveEmail payerRef verifiedAt).emailVerifiedAt.isSome = true := by
  rcases hemail : session.emailVerifiedAt with _ | moment <;> simp [PayerSession.proveEmail, hemail]

/-- A recorded proof leaves a completion alone, or it is the one that was missing. -/
lemma completed_by_proof {dbNow verifiedAt : Time} {tx : Transaction} (session' : PayerSession)
    {satisfied : Invoice → Bool}
    (hledger : S'.ledger = completeInvoice S.ledger dbNow session'.invoiceId verifiedAt satisfied)
    (hproof : tx.proof? = some (session'.id, verifiedAt))
    (hsession' : S'.sessions.find? session'.id = some session')
    (hsatisfied : ∀ row, satisfied row = true → row.payerVerification.isGated = true ∧
      session'.purpose = .payer ∧ session'.satisfies row.payerVerification = true)
    (id : InvoiceId) :
    S'.completed id = S.completed id ∨ S.completed id = none ∧
      ∃ verifiedAt row session', S'.completed id = some verifiedAt ∧
        CompletedBy S S' tx id verifiedAt row session' := by
  rw [completed_completeInvoice hledger, Store.completed]
  rcases hrow : S.ledger.invoices.find? id with _ | row
  · exact Or.inl rfl
  · simp only [Option.bind_some]
    split
    · rename_i hcompletes
      obtain ⟨hown, hsat, hverifiable⟩ := hcompletes
      obtain ⟨hnone, hopen, hintime⟩ := Invoice.verifiable_iff.1 hverifiable
      obtain ⟨hgated, hpurpose, hsatisfies⟩ := hsatisfied row hsat
      exact Or.inr ⟨hnone, verifiedAt, row, session', rfl, hrow, hgated, hopen, hintime, hproof, hsession',
        hpurpose, hown.symm, hsatisfies⟩
    · exact Or.inl rfl

/-- A transaction leaves a completion alone, or it is the proof that was missing. -/
lemma Effect.completed_cases {dbNow : Time} {tx : Transaction} (h : Effect O S dbNow tx S')
    (id : InvoiceId) :
    S'.completed id = S.completed id ∨ S.completed id = none ∧
      ∃ verifiedAt row session', S'.completed id = some verifiedAt ∧
        CompletedBy S S' tx id verifiedAt row session' := by
  cases h with
  | refused | minted | challenged | deleted | abandoned | begun | secretMinted => exact Or.inl rfl
  | requested op => exact Or.inl (completed_step op.2 rfl id)
  | @walletBound tx now attemptId invoiceId sessionId wallet binding attempts hbound hattempt =>
    have hop : (Op.bindPayerWallet (now / 1000000) invoiceId wallet binding).completesVerification = false :=
      rfl
    exact Or.inl (completed_step hop rfl id)
  | @approved seen sessionId payerRef verifiedAt eventId session hsession hexpiry =>
    have hid : session.id = sessionId := Table.key_of_find? hsession
    have hproven : (session.proveEmail payerRef verifiedAt).id = sessionId := hid
    refine completed_by_proof (session.proveEmail payerRef verifiedAt) rfl ?_ ?_ ?_ id
    · rw [hproven]
      rfl
    · rw [hproven, writeApproval_session, hsession, Option.map_some, if_pos rfl]
    · intro row hmailbox
      obtain ⟨hemail, hmerchant, hpurpose⟩ := mailboxCompletes_iff.1 hmailbox
      exact ⟨isGated_iff.2 (Or.inl hemail), hpurpose,
        satisfies_iff.2 ⟨fun _ => proveEmail_isSome .., hmerchant⟩⟩
  | @exchanged now ids secret invoiceId ttl found sessions attempts hfound hunused hinvoice htoken hinsert hattempt =>
    refine completed_by_proof (mintedSession O now dbNow ids invoiceId ttl) rfl rfl ?_ ?_ id
    · exact (Table.find?_of_insert? hinsert _).trans (if_pos rfl)
    · intro row hsecret
      obtain ⟨hmerchant, hemail, hpurpose⟩ := secretCompletes_iff.1 hsecret
      exact ⟨isGated_iff.2 (Or.inr hmerchant), hpurpose, satisfies_iff.2 ⟨hemail, fun _ => rfl⟩⟩

/-- A proof that gives a payer's session everything an open request asks for completes it. -/
lemma Effect.completes {dbNow : Time} {tx : Transaction} (h : Effect O S dbNow tx S') {id : InvoiceId}
    {row : Invoice} {session' : PayerSession} (hrow : S.ledger.invoices.find? id = some row)
    (hgated : row.payerVerification.isGated = true) (hnone : row.verificationCompletedAt = none)
    (hopen : row.status.isOpen = true) (hsession' : S'.sessions.find? session'.id = some session')
    (hpurpose : session'.purpose = .payer) (hown : session'.invoiceId = id)
    (hsatisfies : session'.satisfies row.payerVerification = true)
    (hbefore : ∀ session, S.sessions.find? session'.id = some session →
      session.satisfies row.payerVerification = false) :
    ∃ verifiedAt, tx.proof? = some (session'.id, verifiedAt) ∧
      (epochSeconds verifiedAt ≤ row.expirationTimestamp → S'.completed id = some verifiedAt) := by
  have hcomplete : ∀ {verifiedAt : Time} {satisfied : Invoice → Bool},
      S'.ledger = completeInvoice S.ledger dbNow session'.invoiceId verifiedAt satisfied →
      satisfied row = true → epochSeconds verifiedAt ≤ row.expirationTimestamp →
      S'.completed id = some verifiedAt := by
    intro verifiedAt satisfied hledger hsat hintime
    rw [completed_completeInvoice hledger, hrow, Option.bind_some,
      if_pos ⟨hown.symm, hsat, Invoice.verifiable_iff.2 ⟨hnone, hopen, hintime⟩⟩]
  obtain ⟨hemail, hmerchant⟩ := satisfies_iff.1 hsatisfies
  rcases h.session_cases hsession' with ⟨session, hsession, hsame⟩ | hfresh | ⟨verifiedAt, hproof, hproved⟩
  · -- the session had these facts before
    have hold := hbefore session hsession
    rw [PayerSession.satisfies, ← hsame.facts, ← PayerSession.satisfies, hsatisfies] at hold
    cases hold
  · -- a new session satisfies no add-on
    have hfacts := hfresh hpurpose
    simp only [PayerSession.facts, VerificationFacts.mk.injEq] at hfacts
    rcases isGated_iff.1 hgated with hasked | hasked
    · rw [hemail hasked] at hfacts
      cases hfacts.1
    · rw [hmerchant hasked] at hfacts
      cases hfacts.2.2
  · refine ⟨verifiedAt, hproof, ?_⟩
    cases hproved with
    | mailbox session payerRef hsession hproven hledger =>
      refine hcomplete hledger (mailboxCompletes_iff.2 ⟨?_, hmerchant, hpurpose⟩)
      -- the mailbox was missing: without it the session would have satisfied the add-ons before
      by_contra hasked
      have hold : session.satisfies row.payerVerification = true :=
        satisfies_iff.2 ⟨fun h => absurd h hasked, fun h => by
          have := hmerchant h
          rwa [hproven] at this⟩
      rw [hbefore session hsession] at hold
      cases hold
    | secret hunproven hledger =>
      -- no mailbox is proven in a new session, so none is asked for
      have hunasked : row.expectedEmail.isSome = false := by
        by_contra hasked
        have := hemail (Bool.eq_true_of_not_eq_false hasked)
        rw [hunproven] at this
        cases this
      rcases isGated_iff.1 hgated with hasked | hasked
      · rw [hunasked] at hasked
        cases hasked
      · exact hcomplete hledger (secretCompletes_iff.2 ⟨hasked, hemail, hpurpose⟩)

/-! ### Pending attempts -/

/-- No session has two pending email attempts. -/
def Store.OnePending (S : Store) : Prop :=
  ∀ sessionId, S.attempts.rows.countP (Attempt.isPendingEmail sessionId) ≤ 1

/-- Ending pending attempts makes no other pending. -/
lemma countP_ended {attempts : List Attempt} {p : Attempt → Bool} {f : Attempt → Attempt}
    (hf : ∀ row, (f row).status ≠ .pending) (sessionId : SessionId) :
    (attempts.map fun row => if p row then f row else row).countP (Attempt.isPendingEmail sessionId) ≤
      attempts.countP (Attempt.isPendingEmail sessionId) := by
  rw [List.countP_map]
  refine List.countP_mono_left fun row _ hpending => ?_
  simp only [Function.comp_apply] at hpending
  split at hpending
  · simp only [Attempt.isPendingEmail, decide_eq_true_eq] at hpending
    exact absurd hpending.2.2 (hf row)
  · exact hpending

/-- After the session's pending attempts are abandoned it has none. -/
lemma countP_abandoned (attempts : List Attempt) (sessionId : SessionId) :
    (attempts.map fun row => if Attempt.isPendingEmail sessionId row then { row with status := .abandoned }
      else row).countP (Attempt.isPendingEmail sessionId) = 0 := by
  rw [List.countP_map, List.countP_eq_zero]
  intro row _ hpending
  simp only [Function.comp_apply] at hpending
  split at hpending
  · simp [Attempt.isPendingEmail] at hpending
  · contradiction

lemma countP_insert {attempts attempts' : Table Attempt.id} {row : Attempt}
    (h : attempts.insert? row = some attempts') (p : Attempt → Bool) :
    attempts'.rows.countP p = attempts.rows.countP p + if p row then 1 else 0 := by
  obtain ⟨-, hrows⟩ := Table.insert?_eq_some_iff.1 h
  rw [hrows, List.countP_append, List.countP_singleton]

lemma countP_insert_ended {attempts attempts' : Table Attempt.id} {row : Attempt}
    (h : attempts.insert? row = some attempts') (hrow : row.status ≠ .pending) (sessionId : SessionId) :
    attempts'.rows.countP (Attempt.isPendingEmail sessionId) =
      attempts.rows.countP (Attempt.isPendingEmail sessionId) := by
  rw [countP_insert h, if_neg (by simp [Attempt.isPendingEmail, hrow]), Nat.add_zero]

lemma Effect.onePending {dbNow : Time} {tx : Transaction} (h : Effect O S dbNow tx S') (hone : S.OnePending) :
    S'.OnePending := by
  intro sessionId
  cases h with
  | refused | minted | challenged | secretMinted | requested => exact hone sessionId
  | deleted id => exact (List.Sublist.countP_le List.filter_sublist).trans (hone sessionId)
  | abandoned id =>
    have hended : ∀ row : Attempt, ({ row with status := .abandoned } : Attempt).status ≠ .pending := by
      intro row h
      cases h
    exact (countP_ended hended sessionId).trans (hone sessionId)
  | @begun now id session' cooldown session attempts hsession hinsert =>
    have hended : ∀ row : Attempt, ({ row with status := .abandoned } : Attempt).status ≠ .pending := by
      intro row h
      cases h
    have hid : session.id = session' := Table.key_of_find? hsession
    rw [countP_insert hinsert]
    by_cases hsame : session' = sessionId
    · subst hsame
      rw [show ((abandonEmailVerification S session').attempts.rows.countP
        (Attempt.isPendingEmail session')) = 0 from countP_abandoned _ _]
      split <;> omega
    · rw [if_neg (by simpa [Attempt.isPendingEmail, emailAttempt, hid] using hsame), Nat.add_zero]
      exact (countP_ended hended sessionId).trans (hone sessionId)
  | approved hsession hexpiry =>
    refine (countP_ended (fun row h => ?_) sessionId).trans (hone sessionId)
    cases h
  | exchanged hfound hunused hinvoice htoken hinsert hattempt =>
    exact (countP_insert_ended hattempt (by simp [exchangeAttempt]) sessionId).le.trans (hone sessionId)
  | walletBound tx hbound hattempt =>
    exact (countP_insert_ended hattempt (by simp [walletAttempt]) sessionId).le.trans (hone sessionId)

/-! ### Client secrets -/

/-- No two secrets have one hash. -/
def Store.DistinctSecrets (S : Store) : Prop := (S.secrets.rows.map ClientSecret.secretHash).Nodup

/-- What a transaction leaves of a secret: it stays the same request's, and spent if it was. -/
structure SecretKept (row row' : ClientSecret) : Prop where
  secretHash : row'.secretHash = row.secretHash
  invoiceId : row'.invoiceId = row.invoiceId
  usedAt : row.usedAt ≠ none → row'.usedAt ≠ none

/-- The secrets of a run only ever grow. -/
lemma Effect.secrets_cases {dbNow : Time} {tx : Transaction} (h : Effect O S dbNow tx S') :
    (∃ f, S'.secrets.rows = S.secrets.rows.map f ∧ ∀ row, SecretKept row (f row)) ∨
      ∃ secret, S'.secrets.rows = S.secrets.rows ++ [secret] ∧
        ∀ other ∈ S.secrets.rows, other.secretHash ≠ secret.secretHash := by
  cases h with
  | refused | minted | challenged | abandoned | begun | approved | walletBound | requested =>
    exact Or.inl ⟨fun row => row, (List.map_id _).symm, fun row => ⟨rfl, rfl, fun h => h⟩⟩
  | deleted id =>
    refine Or.inl ⟨_, rfl, fun row => ?_⟩
    split
    · exact ⟨rfl, rfl, fun h => h⟩
    · exact ⟨rfl, rfl, fun h => h⟩
  | exchanged hfound hunused hinvoice htoken hinsert hattempt =>
    refine Or.inl ⟨_, rfl, fun row => ?_⟩
    split
    · exact ⟨rfl, rfl, fun _ h => by cases h⟩
    · exact ⟨rfl, rfl, fun h => h⟩
  | secretMinted tx hnew hinsert hunused => exact Or.inr ⟨_, (Table.insert?_eq_some_iff.1 hinsert).2, hnew⟩

lemma Effect.distinctSecrets {dbNow : Time} {tx : Transaction} (h : Effect O S dbNow tx S')
    (hdistinct : S.DistinctSecrets) : S'.DistinctSecrets := by
  rcases h.secrets_cases with ⟨f, hrows, hkept⟩ | ⟨secret, hrows, hnew⟩
  · rw [Store.DistinctSecrets, Table.column_of_rows_map hrows fun row => (hkept row).secretHash]
    exact hdistinct
  · rw [Store.DistinctSecrets, hrows, List.map_append, List.nodup_append]
    refine ⟨hdistinct, by simp, ?_⟩
    rintro hash hold other hother rfl
    obtain ⟨row, hmem, hhash⟩ := List.mem_map.1 hold
    simp only [List.map_cons, List.map_nil, List.mem_singleton] at hother
    exact hnew row hmem (hhash.trans hother)

/-- The session a transaction mints in exchange for a secret. -/
def exchanged? (O : Outside) (S : Store) (dbNow : Time) : Transaction → Option (String × PayerSession)
  | .exchangeClientSecret now ids secret invoiceId ttl =>
    match exchangeClientSecret O S now dbNow ids secret invoiceId ttl with
    | .ok (_, exchange) => some (secret, exchange.session)
    | .error _ => none
  | _ => none

/-- The sessions that the exchanges of a run mint, each with its secret. -/
def exchanges (O : Outside) (S : Store) : List (Time × Transaction) → List (String × PayerSession)
  | [] => []
  | tx :: rest => (exchanged? O S tx.1 tx.2).toList ++ exchanges O (step O S tx.1 tx.2) rest

/-- The secret was spent, for its own request. -/
def Store.Spent (S : Store) (O : Outside) (exchange : String × PayerSession) : Prop :=
  ∃ row ∈ S.secrets.rows, row.secretHash = O.tokenHash exchange.1 ∧ row.usedAt ≠ none ∧
    row.invoiceId = exchange.2.invoiceId

/-- A spent secret stays spent. -/
lemma Effect.spent {dbNow : Time} {tx : Transaction} (h : Effect O S dbNow tx S')
    {exchange : String × PayerSession} (hspent : S.Spent O exchange) : S'.Spent O exchange := by
  obtain ⟨row, hmem, hhash, hused, hinvoice⟩ := hspent
  rcases h.secrets_cases with ⟨f, hrows, hkept⟩ | ⟨secret, hrows, -⟩
  · refine ⟨f row, ?_, ?_, (hkept row).usedAt hused, ?_⟩
    · rw [hrows]
      exact List.mem_map_of_mem hmem
    · rw [(hkept row).secretHash, hhash]
    · rw [(hkept row).invoiceId, hinvoice]
  · refine ⟨row, ?_, hhash, hused, hinvoice⟩
    rw [hrows]
    exact List.mem_append_left _ hmem

/-- An exchange spends a secret that no exchange has spent before. -/
lemma exchange_spends {dbNow : Time} {tx : Transaction} {exchange : String × PayerSession}
    (h : exchanged? O S dbNow tx = some exchange) :
    (step O S dbNow tx).Spent O exchange ∧
      (S.DistinctSecrets → ∀ e, S.Spent O e → O.tokenHash e.1 ≠ O.tokenHash exchange.1) := by
  unfold exchanged? at h
  split at h
  on_goal 2 => cases h
  rename_i now ids secret invoiceId ttl
  split at h
  on_goal 2 => cases h
  rename_i S' minted hok
  cases h
  have hstep : step O S dbNow (.exchangeClientSecret now ids secret invoiceId ttl) = S' := by
    simp only [step, hok, committed]
  rw [hstep]
  obtain ⟨found, sessions, attempts, hfound, hunused, -, -, -, -, rfl, hsession⟩ := exchangeClientSecret_ok hok
  have hmem := List.mem_of_find?_eq_some hfound
  have hmatch := List.find?_some hfound
  simp only [decide_eq_true_eq] at hmatch
  refine ⟨⟨{ found with usedAt := some now, payerSessionId := some ids.sessionId }, ?_, hmatch.1, ?_, ?_⟩, ?_⟩
  · exact List.mem_map.2 ⟨found, hmem, if_pos (decide_eq_true rfl)⟩
  · intro h
    cases h
  · rw [hsession]
    exact hmatch.2
  · rintro hdistinct e ⟨row, hrow, hhash, hused, -⟩ heq
    have hsame : row = found :=
      List.inj_on_of_nodup_map hdistinct hrow hmem (by rw [hhash, hmatch.1, heq])
    rw [hsame] at hused
    exact hused hunused

/-- The exchanges of a run spend different secrets, each for its own request. -/
lemma exchanges_spent (hdistinct : S.DistinctSecrets) (txs : List (Time × Transaction)) :
    ((exchanges O S txs).map fun e => O.tokenHash e.1).Nodup ∧
      (∀ e ∈ exchanges O S txs, (run O S txs).Spent O e) ∧
      ∀ e ∈ exchanges O S txs, ∀ e', S.Spent O e' → O.tokenHash e'.1 ≠ O.tokenHash e.1 := by
  induction txs generalizing S with
  | nil => simp [exchanges]
  | cons tx rest ih =>
    have heffect := step_effect O S tx.1 tx.2
    obtain ⟨hnodup, hspent, hfresh⟩ := ih (S := step O S tx.1 tx.2) (heffect.distinctSecrets hdistinct)
    rcases hexchange : exchanged? O S tx.1 tx.2 with _ | exchange
    · simp only [exchanges, hexchange, Option.toList_none, List.nil_append, run_cons]
      exact ⟨hnodup, hspent, fun e he e' he' => hfresh e he e' (heffect.spent he')⟩
    · obtain ⟨hown, hnew⟩ := exchange_spends hexchange
      simp only [exchanges, hexchange, Option.toList_some, List.singleton_append, run_cons, List.map_cons,
        List.nodup_cons, List.mem_cons, forall_eq_or_imp]
      refine ⟨⟨?_, hnodup⟩, ⟨?_, hspent⟩, hnew hdistinct, fun e he e' he' => hfresh e he e' (heffect.spent he')⟩
      · -- a later exchange finds this secret spent
        intro hmem
        obtain ⟨e, he, heq⟩ := List.mem_map.1 hmem
        exact hfresh e he exchange hown heq.symm
      · exact run_induction (fun S dbNow tx h => (step_effect O S dbNow tx).spent h) hown rest

/-- A completed verification is never touched again. -/
lemma run_completed {id : InvoiceId} {verifiedAt : Time} (h : S.completed id = some verifiedAt)
    (txs : List (Time × Transaction)) : (run O S txs).completed id = some verifiedAt := by
  refine run_induction (P := fun S => S.completed id = some verifiedAt) (fun S dbNow tx h => ?_) h txs
  rcases (step_effect O S dbNow tx).completed_cases id with hsame | ⟨hnone, -⟩
  · rw [hsame, h]
  · rw [h] at hnone
    cases hnone

end Effects

/-! ### The gate -/

/-- After any run: a completed verification stays as it is; it is completed only by the proof of a
payer's session of the request, which then has every fact the add-ons ask for, while the request is
open and before its deadline; a proof that gives a payer's session all of them completes an open
request in time; the exchanges have spent different secrets, each for its own request; and no session
has two pending email attempts. -/
theorem payer_verification_gate (O : Outside) (txs : List (Time × Transaction)) :
    (∀ id verifiedAt more, (run O .empty txs).completed id = some verifiedAt →
      (run O .empty (txs ++ more)).completed id = some verifiedAt) ∧
    (∀ dbNow tx id verifiedAt, (run O .empty txs).completed id = none →
      (run O .empty (txs ++ [(dbNow, tx)])).completed id = some verifiedAt →
      ∃ row session', CompletedBy (run O .empty txs) (run O .empty (txs ++ [(dbNow, tx)])) tx id verifiedAt
        row session') ∧
    (∀ dbNow tx id row session', (run O .empty txs).ledger.invoices.find? id = some row →
      row.payerVerification.isGated = true → row.verificationCompletedAt = none →
      row.status.isOpen = true →
      (run O .empty (txs ++ [(dbNow, tx)])).sessions.find? session'.id = some session' →
      session'.purpose = .payer → session'.invoiceId = id →
      session'.satisfies row.payerVerification = true →
      (∀ session, (run O .empty txs).sessions.find? session'.id = some session →
        session.satisfies row.payerVerification = false) →
      ∃ verifiedAt, tx.proof? = some (session'.id, verifiedAt) ∧
        (epochSeconds verifiedAt ≤ row.expirationTimestamp →
          (run O .empty (txs ++ [(dbNow, tx)])).completed id = some verifiedAt)) ∧
    ((exchanges O .empty txs).map fun e => O.tokenHash e.1).Nodup ∧
    (∀ e ∈ exchanges O .empty txs, (run O .empty txs).Spent O e) ∧
    (∀ sessionId, (run O .empty txs).attempts.rows.countP (Attempt.isPendingEmail sessionId) ≤ 1) := by
  have hempty : Store.empty.DistinctSecrets := List.nodup_nil
  obtain ⟨hnodup, hspent, -⟩ := exchanges_spent (O := O) hempty txs
  refine ⟨?_, ?_, ?_, hnodup, hspent, ?_⟩
  · intro id verifiedAt more h
    rw [run_append]
    exact run_completed h more
  · intro dbNow tx id verifiedAt hnone hsome
    rw [run_append] at hsome ⊢
    rcases (step_effect O _ dbNow tx).completed_cases id with hsame | ⟨-, moment, row, session', hmoment, hby⟩
    · rw [show (run O _ [(dbNow, tx)]).completed id = _ from hsame, hnone] at hsome
      cases hsome
    · obtain rfl := Option.some.inj (hmoment.symm.trans hsome)
      exact ⟨row, session', hby⟩
  · intro dbNow tx id row session' hrow hgated hnone hopen hsession' hpurpose hown hsatisfies hbefore
    rw [run_append] at hsession' ⊢
    exact (step_effect O _ dbNow tx).completes hrow hgated hnone hopen hsession' hpurpose hown hsatisfies hbefore
  · refine run_induction (P := Store.OnePending) (fun S dbNow tx h => (step_effect O S dbNow tx).onePending h) ?_ txs
    intro sessionId
    exact Nat.zero_le 1

/-- The sample request with both identity add-ons. -/
def gatedRequest : IssuedRequest :=
  { sampleRequest with expectedEmail := some "alice@example.com", payerReference := some "user_123" }

/-- Tokens are hashed to their lengths, and one merchant owns every request. -/
def sampleOutside : Outside := ⟨String.length, fun _ => 1⟩

/-- The merchant opens the checkout, and a code is sent to the mailbox. -/
def sampleCheckout : List (Time × Transaction) :=
  [(1000000, .request ⟨.insertIssued gatedRequest, rfl⟩),
    (2000000, .createClientSecret 1 "cs_secret" 7 1 900000000),
    (3000000, .exchangeClientSecret 3000000 ⟨1, "token", 1⟩ "cs_secret" 7 86400000000),
    (4000000, .beginEmailVerification 4000000 2 1 60000000)]

/-- The code completes the request. -/
theorem payer_verification_gate_sampleCheckout :
    (run sampleOutside .empty sampleCheckout).completed 7 = none ∧
      (run sampleOutside .empty (sampleCheckout ++
        [(5000000, .approveEmail [] 1 9 5000000 "event")])).completed 7 = some 5000000 ∧
      ∃ row session', CompletedBy (run sampleOutside .empty sampleCheckout)
        (run sampleOutside .empty (sampleCheckout ++ [(5000000, .approveEmail [] 1 9 5000000 "event")]))
        (.approveEmail [] 1 9 5000000 "event") 7 5000000 row session' := by
  have hnone : (run sampleOutside .empty sampleCheckout).completed 7 = none := by decide
  have hsome : (run sampleOutside .empty (sampleCheckout ++
      [(5000000, .approveEmail [] 1 9 5000000 "event")])).completed 7 = some 5000000 := by decide
  exact ⟨hnone, hsome,
    (payer_verification_gate sampleOutside sampleCheckout).2.1 _ _ _ _ hnone hsome⟩

end Verification

end Payday
