/-
# Merchant previews

A preview session carries every fact, so each payer operation has to keep it out on its own.  This
module compares a run with the run that leaves out the calls made with a preview's token.

The network choice and the wallet steps refuse a preview, and a code cannot be confirmed that was never
sent.  What is not kept out is `start_email`: it records an attempt on the request and starts the
request's cooldown, whosever session asks.  So the previews of a run are inert when each of their
`start_email` calls is refused, and a call that is not refused shows in the request's attempts.
-/
import Payday.Verification.Gate
import Payday.Verification.Payer

namespace Payday.Verification

/-! ### What the tables keep -/

/-- The references between the payer tables hold, tokens are unique, and no preview has a wallet
challenge or a pending code. -/
structure Store.Tame (S : Store) : Prop where
  tokens : (S.sessions.rows.map PayerSession.tokenHash).Nodup
  attempts : ∀ attempt ∈ S.attempts.rows, ∃ session ∈ S.sessions.rows, session.id = attempt.payerSessionId
  secrets : ∀ secret ∈ S.secrets.rows, ∀ id, secret.payerSessionId = some id →
    ∃ session ∈ S.sessions.rows, session.id = id
  challenge : ∀ session ∈ S.sessions.rows, session.purpose = .merchantPreview → session.challenge = none
  pending : ∀ session ∈ S.sessions.rows, session.purpose = .merchantPreview →
    ∀ attempt ∈ S.attempts.rows, Attempt.isPendingEmail session.id attempt = false

lemma Store.Tame.empty : Store.empty.Tame :=
  ⟨List.nodup_nil, by simp [Store.empty], by simp [Store.empty], by simp [Store.empty], by simp [Store.empty]⟩

section Tame

variable {S S' : Store}

/-- Updated sessions keep what the other tables refer to. -/
lemma Store.Tame.of_sessions_map {f : PayerSession → PayerSession} (h : S.Tame)
    (hrows : S'.sessions.rows = S.sessions.rows.map f) (hattempts : S'.attempts = S.attempts)
    (hsecrets : S'.secrets = S.secrets) (hid : ∀ row, (f row).id = row.id)
    (htoken : ∀ row, (f row).tokenHash = row.tokenHash) (hpurpose : ∀ row, (f row).purpose = row.purpose)
    (hchallenge : ∀ row ∈ S.sessions.rows, row.purpose = .merchantPreview → (f row).challenge = none) :
    S'.Tame := by
  have hmem : ∀ {id}, (∃ session ∈ S.sessions.rows, session.id = id) →
      ∃ session ∈ S'.sessions.rows, session.id = id := by
    rintro id ⟨session, hsession, rfl⟩
    refine ⟨f session, ?_, hid session⟩
    rw [hrows]
    exact List.mem_map_of_mem hsession
  refine ⟨?_, ?_, ?_, ?_, ?_⟩
  · rw [Table.column_of_rows_map hrows htoken]
    exact h.tokens
  · rw [hattempts]
    exact fun attempt hattempt => hmem (h.attempts attempt hattempt)
  · rw [hsecrets]
    exact fun secret hsecret id hid => hmem (h.secrets secret hsecret id hid)
  · rw [hrows]
    intro session hsession hpreview
    obtain ⟨row, hrow, rfl⟩ := List.mem_map.1 hsession
    exact hchallenge row hrow ((hpurpose row).symm.trans hpreview)
  · rw [hrows, hattempts]
    intro session hsession hpreview
    obtain ⟨row, hrow, rfl⟩ := List.mem_map.1 hsession
    rw [hid]
    exact h.pending row hrow ((hpurpose row).symm.trans hpreview)

/-- A new session: nothing refers to it yet. -/
lemma Store.Tame.of_insert {session : PayerSession} (h : S.Tame)
    (htoken : ∀ other ∈ S.sessions.rows, other.tokenHash ≠ session.tokenHash)
    (hinsert : S.sessions.insert? session = some S'.sessions) (hchallenge : session.challenge = none)
    (hattempts : S'.attempts = S.attempts) (hsecrets : S'.secrets = S.secrets) : S'.Tame := by
  obtain ⟨hnew, hrows⟩ := Table.insert?_eq_some_iff.1 hinsert
  have hmem : ∀ {id}, (∃ session ∈ S.sessions.rows, session.id = id) →
      ∃ session ∈ S'.sessions.rows, session.id = id := by
    rintro id ⟨session, hsession, rfl⟩
    refine ⟨session, ?_, rfl⟩
    rw [hrows]
    exact List.mem_append_left _ hsession
  refine ⟨?_, ?_, ?_, ?_, ?_⟩
  · rw [hrows, List.map_append, List.nodup_append]
    refine ⟨h.tokens, by simp, ?_⟩
    rintro hash hold other hother rfl
    obtain ⟨row, hrow, hhash⟩ := List.mem_map.1 hold
    simp only [List.map_cons, List.map_nil, List.mem_singleton] at hother
    exact htoken row hrow (hhash.trans hother)
  · rw [hattempts]
    exact fun attempt hattempt => hmem (h.attempts attempt hattempt)
  · rw [hsecrets]
    exact fun secret hsecret id hid => hmem (h.secrets secret hsecret id hid)
  · rw [hrows]
    intro other hother hpreview
    rcases List.mem_append.1 hother with hold | hother
    · exact h.challenge other hold hpreview
    · rw [List.mem_singleton.1 hother]
      exact hchallenge
  · rw [hrows, hattempts]
    intro other hother hpreview attempt hattempt
    rcases List.mem_append.1 hother with hold | hother
    · exact h.pending other hold hpreview attempt hattempt
    · -- an attempt of the new session would refer to a session that did not exist
      rw [List.mem_singleton.1 hother]
      obtain ⟨row, hrow, hid⟩ := h.attempts attempt hattempt
      by_contra hpending
      simp only [Attempt.isPendingEmail, decide_eq_false_iff_not, not_not] at hpending
      exact hnew (List.mem_map.2 ⟨row, hrow, hid.trans hpending.1⟩)

/-- Updated attempts, of which none becomes pending. -/
lemma Store.Tame.of_attempts_map {f : Attempt → Attempt} (h : S.Tame)
    (hrows : S'.attempts.rows = S.attempts.rows.map f) (hsessions : S'.sessions = S.sessions)
    (hsecrets : S'.secrets = S.secrets) (hsession : ∀ row, (f row).payerSessionId = row.payerSessionId)
    (hpending : ∀ row id, Attempt.isPendingEmail id row = false → Attempt.isPendingEmail id (f row) = false) :
    S'.Tame := by
  refine ⟨?_, ?_, ?_, ?_, ?_⟩
  · rw [hsessions]
    exact h.tokens
  · rw [hrows, hsessions]
    intro attempt hattempt
    obtain ⟨row, hrow, rfl⟩ := List.mem_map.1 hattempt
    rw [hsession]
    exact h.attempts row hrow
  · rw [hsecrets, hsessions]
    exact h.secrets
  · rw [hsessions]
    exact h.challenge
  · rw [hrows, hsessions]
    intro session hsession hpreview attempt hattempt
    obtain ⟨row, hrow, rfl⟩ := List.mem_map.1 hattempt
    exact hpending row _ (h.pending session hsession hpreview row hrow)

/-- A new attempt of a session, pending only if the session is a payer's. -/
lemma Store.Tame.of_attempt {attempt : Attempt} (h : S.Tame)
    (hinsert : S.attempts.insert? attempt = some S'.attempts) (hsessions : S'.sessions = S.sessions)
    (hsecrets : S'.secrets = S.secrets)
    (hsession : ∃ session ∈ S.sessions.rows, session.id = attempt.payerSessionId)
    (hpayer : ∀ session ∈ S.sessions.rows, session.purpose = .merchantPreview →
      Attempt.isPendingEmail session.id attempt = false) : S'.Tame := by
  obtain ⟨-, hrows⟩ := Table.insert?_eq_some_iff.1 hinsert
  refine ⟨?_, ?_, ?_, ?_, ?_⟩
  · rw [hsessions]
    exact h.tokens
  · rw [hrows, hsessions]
    intro other hother
    rcases List.mem_append.1 hother with hold | hother
    · exact h.attempts other hold
    · rw [List.mem_singleton.1 hother]
      exact hsession
  · rw [hsecrets, hsessions]
    exact h.secrets
  · rw [hsessions]
    exact h.challenge
  · rw [hrows, hsessions]
    intro session hmem hpreview other hother
    rcases List.mem_append.1 hother with hold | hother
    · exact h.pending session hmem hpreview other hold
    · rw [List.mem_singleton.1 hother]
      exact hpayer session hmem hpreview

/-- Updated secrets, which refer to the session they did or to another one that exists. -/
lemma Store.Tame.of_secrets_map {f : ClientSecret → ClientSecret} (h : S.Tame)
    (hrows : S'.secrets.rows = S.secrets.rows.map f) (hsessions : S'.sessions = S.sessions)
    (hattempts : S'.attempts = S.attempts)
    (hsession : ∀ row, (f row).payerSessionId = row.payerSessionId ∨
      ∃ session ∈ S.sessions.rows, (f row).payerSessionId = some session.id) : S'.Tame := by
  refine ⟨?_, ?_, ?_, ?_, ?_⟩
  · rw [hsessions]
    exact h.tokens
  · rw [hattempts, hsessions]
    exact h.attempts
  · rw [hrows, hsessions]
    intro secret hsecret id hid
    obtain ⟨row, hrow, rfl⟩ := List.mem_map.1 hsecret
    rcases hsession row with hsame | ⟨session, hmem, hother⟩
    · exact h.secrets row hrow id (hsame ▸ hid)
    · exact ⟨session, hmem, Option.some.inj (hother.symm.trans hid)⟩
  · rw [hsessions]
    exact h.challenge
  · rw [hattempts, hsessions]
    exact h.pending

/-- Ending an attempt makes it no session's pending one. -/
lemma isPendingEmail_ended {row : Attempt} (h : row.status ≠ .pending) (id : SessionId) :
    Attempt.isPendingEmail id row = false := by
  simp [Attempt.isPendingEmail, h]

lemma Store.Tame.abandon (h : S.Tame) (sessionId : SessionId) : (abandonEmailVerification S sessionId).Tame := by
  refine h.of_attempts_map rfl rfl rfl ?_ ?_
  · intro row
    split <;> rfl
  · intro row id hrow
    split
    · exact isPendingEmail_ended (by simp) id
    · exact hrow

/-- Every transaction keeps the tables tame, if no code is sent in a preview. -/
lemma Effect.tame {O : Outside} {dbNow : Time} {tx : Transaction} (heffect : Effect O S dbNow tx S')
    (h : S.Tame)
    (hbegin : ∀ now id sessionId cooldown, tx = .beginEmailVerification now id sessionId cooldown →
      ∀ session, S.sessions.find? sessionId = some session → session.purpose = .payer) : S'.Tame := by
  cases heffect with
  | refused => exact h
  | requested op => exact ⟨h.tokens, h.attempts, h.secrets, h.challenge, h.pending⟩
  | minted tx hinvoice htoken hinsert hchallenge hfacts => exact h.of_insert htoken hinsert hchallenge rfl rfl
  | @challenged tx sessionId session challenge hsession hpurpose =>
    refine h.of_sessions_map rfl rfl rfl ?_ ?_ ?_ ?_
    · intro row
      split <;> rfl
    · intro row
      split <;> rfl
    · intro row
      split <;> rfl
    · -- the challenged session is a payer's
      intro row hrow hpreview
      split
      · rename_i hid
        have hfound := Table.find?_of_mem hrow
        rw [of_decide_eq_true hid, hsession] at hfound
        rw [← Option.some.inj hfound, hpurpose] at hpreview
        cases hpreview
      · exact h.challenge row hrow hpreview
  | deleted sessionId =>
    have hkept : ∀ {id}, id ≠ sessionId → (∃ session ∈ S.sessions.rows, session.id = id) →
        ∃ session ∈ (delete S sessionId).sessions.rows, session.id = id := by
      rintro id hne ⟨session, hsession, rfl⟩
      exact ⟨session, List.mem_filter.2 ⟨hsession, by simpa using hne⟩, rfl⟩
    refine ⟨?_, ?_, ?_, ?_, ?_⟩
    · exact h.tokens.sublist (List.filter_sublist.map _)
    · intro attempt hattempt
      obtain ⟨hmem, hne⟩ := List.mem_filter.1 hattempt
      exact hkept (by simpa using hne) (h.attempts attempt hmem)
    · intro secret hsecret id hid
      obtain ⟨row, hrow, rfl⟩ := List.mem_map.1 hsecret
      split at hid
      · cases hid
      · rename_i hne
        refine hkept ?_ (h.secrets row hrow id hid)
        rintro rfl
        exact hne (decide_eq_true hid)
    · intro session hsession
      exact h.challenge session (List.mem_filter.1 hsession).1
    · intro session hsession hpreview attempt hattempt
      exact h.pending session (List.mem_filter.1 hsession).1 hpreview attempt (List.mem_filter.1 hattempt).1
  | abandoned sessionId => exact h.abandon sessionId
  | @begun now id sessionId cooldown session attempts hsession hinsert =>
    have hid : session.id = sessionId := Table.key_of_find? hsession
    refine (h.abandon sessionId).of_attempt hinsert rfl rfl ⟨session, Table.mem_of_find? hsession, rfl⟩ ?_
    intro preview hpreview hpurpose
    by_contra hpending
    simp only [Attempt.isPendingEmail, emailAttempt, decide_eq_false_iff_not, not_not] at hpending
    have hsame : preview = session :=
      S.sessions.eq_of_key_eq hpreview (Table.mem_of_find? hsession) hpending.1.symm
    rw [hsame, hbegin now id sessionId cooldown rfl session hsession] at hpurpose
    cases hpurpose
  | @approved seen sessionId payerRef verifiedAt eventId session hsession hexpiry =>
    have hattempts : ({ S with attempts := (writeApproval S dbNow session payerRef verifiedAt
        eventId).attempts } : Store).Tame := by
      refine h.of_attempts_map rfl rfl rfl ?_ ?_
      · intro row
        split <;> rfl
      · intro row id hrow
        split
        · exact isPendingEmail_ended (by simp) id
        · exact hrow
    refine hattempts.of_sessions_map rfl rfl rfl ?_ ?_ ?_ ?_
    · intro row
      split <;> rfl
    · intro row
      split <;> rfl
    · intro row
      split <;> rfl
    · intro row hrow hpreview
      split
      · exact h.challenge row hrow hpreview
      · exact h.challenge row hrow hpreview
  | @secretMinted tx secret secrets hnew hinsert hunused =>
    obtain ⟨-, hrows⟩ := Table.insert?_eq_some_iff.1 hinsert
    refine ⟨h.tokens, h.attempts, ?_, h.challenge, h.pending⟩
    intro other hother id hid
    rw [hrows] at hother
    rcases List.mem_append.1 hother with hold | hother
    · exact h.secrets other hold id hid
    · rw [List.mem_singleton.1 hother, hunused] at hid
      cases hid
  | @exchanged now ids secret invoiceId ttl found sessions attempts hfound hunused hinvoice htoken hinsert
      hattempt =>
    have hnew : mintedSession O now dbNow ids invoiceId ttl ∈ sessions.rows := by
      rw [(Table.insert?_eq_some_iff.1 hinsert).2]
      exact List.mem_append_right _ (List.mem_singleton_self _)
    have hsessions : ({ S with sessions := sessions } : Store).Tame := h.of_insert htoken hinsert rfl rfl rfl
    have hattempts : ({ S with sessions := sessions, attempts := attempts } : Store).Tame :=
      hsessions.of_attempt hattempt rfl rfl ⟨_, hnew, rfl⟩
        fun session _ _ => isPendingEmail_ended (by simp [exchangeAttempt]) _
    refine hattempts.of_secrets_map rfl rfl rfl fun row => ?_
    split
    · exact Or.inr ⟨_, hnew, rfl⟩
    · exact Or.inl rfl
  | @walletBound tx now attemptId invoiceId sessionId wallet binding attempts hsession hattempt =>
    obtain ⟨session, hfound⟩ := Option.isSome_iff_exists.1 hsession
    have hattempts : ({ S with attempts := attempts } : Store).Tame :=
      h.of_attempt hattempt rfl rfl ⟨session, Table.mem_of_find? hfound, Table.key_of_find? hfound⟩
        fun session _ _ => isPendingEmail_ended (by simp [walletAttempt]) _
    refine hattempts.of_sessions_map rfl rfl rfl ?_ ?_ ?_ ?_
    · intro row
      split <;> rfl
    · intro row
      split <;> rfl
    · intro row
      split <;> rfl
    · intro row hrow hpreview
      split
      · rfl
      · exact h.challenge row hrow hpreview

end Tame

/-! ### Events -/

/-- The token belongs to a preview session. -/
def isPreviewToken (O : Outside) (S : Store) (token : String) : Bool :=
  S.sessions.rows.any fun session =>
    decide (session.tokenHash = O.tokenHash token) && session.isMerchantPreview

/-- A transaction that no payer's call makes: the merchant mints a preview or a secret, a secret is
exchanged, or the ledger changes. -/
def Transaction.isOutside : Transaction → Bool
  | .createMerchantPreview .. | .createClientSecret .. | .exchangeClientSecret .. | .request _ => true
  | _ => false

/-- A call of the payer API, or a transaction outside of it. -/
inductive Event
  | payer (M : Moment) (request : PayerCall)
  | outside (dbNow : Time) (tx : {tx : Transaction // tx.isOutside = true})

namespace Event

variable (G : Gateway) (S : Store)

/-- The store after an event. -/
def after : Event → Store
  | .payer M request => (serve G M S request).1
  | .outside dbNow tx => step G.toOutside S dbNow tx.1

/-- What the caller is answered. -/
def answer : Event → Option Answer
  | .payer M request => some (serve G M S request).2
  | .outside _ _ => none

/-- A call about a gated request, made with a preview's token. -/
def isPreviewCall : Event → Bool
  | .payer _ request => (S.ledger.invoices.find? request.id).any (fun row => row.payerVerification.isGated) &&
      request.token.any (isPreviewToken G.toOutside S)
  | .outside _ _ => false

/-- `start_email` is not refused: the deployment verifies mailboxes, the request asks for one and is
open to it, and no code was sent within the cooldown. -/
def startsCode : Event → Bool
  | .payer M ⟨id, _, .startEmail⟩ => M.provider.isSome && (gatedInvoice M S id).isOk &&
      (cooldownLeft M.now resendCooldown (latestEmail S id)).isNone
  | _ => false

end Event

section Runs

variable (G : Gateway)

/-- The store after a list of events. -/
def afterAll (S : Store) (events : List Event) : Store := events.foldl (fun S event => event.after G S) S

/-- The events of a run without its previews' calls. -/
def withoutPreviews : Store → List Event → List Event
  | _, [] => []
  | S, event :: rest =>
    (if event.isPreviewCall G S then [] else [event]) ++ withoutPreviews (event.after G S) rest

/-- The answers of a run. -/
def answers : Store → List Event → List Answer
  | _, [] => []
  | S, event :: rest => (event.answer G S).toList ++ answers (event.after G S) rest

/-- The answers of a run that were not given to a preview. -/
def othersAnswers : Store → List Event → List Answer
  | _, [] => []
  | S, event :: rest =>
    (if event.isPreviewCall G S then [] else (event.answer G S).toList) ++ othersAnswers (event.after G S) rest

/-- Every `start_email` of a preview in the run is refused. -/
def PreviewsRefused : Store → List Event → Prop
  | _, [] => True
  | S, event :: rest =>
    (event.isPreviewCall G S = true → event.startsCode S = false) ∧ PreviewsRefused (event.after G S) rest

/-- The facts of a proof that the request's attempts decide. -/
def proofFacts (P : Proofs.Primitives) (S : Store) (accountId : AccountId) (row : Invoice)
    (wallet : Option Proofs.WalletEvidence) : List Proofs.VerificationFact :=
  Proofs.verificationFacts P row.payerVerification
    ((attemptsForInvoice S accountId row.id).map fun attempt => ⟨attempt.kind, attempt.status, attempt.verifiedAt⟩)
    wallet

/-- The run shows no trace of its previews' calls: not in the requests, not in the attempts and what
is derived from them, and not in the answers to anybody else. -/
structure Inert (events : List Event) : Prop where
  requests : ∀ id, ((afterAll G .empty events).ledger.invoices.find? id).map (fun row =>
      (row.status, row.binding, row.verificationCompletedAt)) =
    ((afterAll G .empty (withoutPreviews G .empty events)).ledger.invoices.find? id).map fun row =>
      (row.status, row.binding, row.verificationCompletedAt)
  attempts : ∀ accountId id, attemptsForInvoice (afterAll G .empty events) accountId id =
    attemptsForInvoice (afterAll G .empty (withoutPreviews G .empty events)) accountId id
  detail : ∀ accountId id, merchantDetail G (afterAll G .empty events) accountId id =
    merchantDetail G (afterAll G .empty (withoutPreviews G .empty events)) accountId id
  facts : ∀ P accountId row wallet, proofFacts P (afterAll G .empty events) accountId row wallet =
    proofFacts P (afterAll G .empty (withoutPreviews G .empty events)) accountId row wallet
  answers : othersAnswers G .empty events = answers G .empty (withoutPreviews G .empty events)

end Runs

/-! ### A preview's call -/

section Previews

variable {G : Gateway} {M : Moment} {S : Store}

/-- A preview's token opens a preview, if anything. -/
lemma findActive_preview (h : S.Tame) {dbNow : Time} {token : String} {id : InvoiceId} {session : PayerSession}
    (htoken : isPreviewToken G.toOutside S token = true)
    (hfound : findActive G.toOutside S dbNow token id = some session) :
    session ∈ S.sessions.rows ∧ session.purpose = .merchantPreview := by
  have hmem := List.mem_of_find?_eq_some hfound
  have hhash := List.find?_some hfound
  simp only [decide_eq_true_eq] at hhash
  obtain ⟨preview, hpreview, hmatch⟩ := List.any_eq_true.1 htoken
  simp only [Bool.and_eq_true, decide_eq_true_eq, PayerSession.isMerchantPreview] at hmatch
  have hsame : session = preview :=
    List.inj_on_of_nodup_map h.tokens hmem hpreview (hhash.1.trans hmatch.1.symm)
  exact ⟨hmem, hsame ▸ hmatch.2⟩

lemma activeSession_preview (h : S.Tame) {token : Option String} {id : InvoiceId} {session : PayerSession}
    {text : String} (htoken : token.any (isPreviewToken G.toOutside S) = true)
    (hfound : activeSession G M S id token = some (session, text)) :
    session ∈ S.sessions.rows ∧ session.purpose = .merchantPreview := by
  rcases token with _ | token
  · cases hfound
  · simp only [activeSession, Option.bind_some, Option.map_eq_some_iff, Prod.mk.injEq] at hfound
    obtain ⟨found, hfound, rfl, -⟩ := hfound
    exact findActive_preview h htoken hfound

lemma activeSession_found {token : Option String} {id : InvoiceId} {session : PayerSession} {text : String}
    (hfound : activeSession G M S id token = some (session, text)) :
    session ∈ S.sessions.rows ∧ session.invoiceId = id ∧ token = some text ∧
      session.tokenHash = G.tokenHash text := by
  rcases token with _ | token
  · cases hfound
  · simp only [activeSession, Option.bind_some, Option.map_eq_some_iff, Prod.mk.injEq] at hfound
    obtain ⟨found, hfound, rfl, rfl⟩ := hfound
    have hmatch := List.find?_some hfound
    simp only [decide_eq_true_eq] at hmatch
    exact ⟨List.mem_of_find?_eq_some hfound, hmatch.2.1, rfl, hmatch.1⟩

lemma create_ok {dbNow : Time} {id : SessionId} {token : String} {invoiceId : InvoiceId} {ttl : ℕ} {S₁ : Store}
    {created : CreatedPayerSession} (h : create G.toOutside S dbNow id token invoiceId ttl = .ok (S₁, created)) :
    ∃ session sessions, S.sessions.insert? session = some sessions ∧ S₁ = { S with sessions := sessions } ∧
      session.id = id ∧ session.invoiceId = invoiceId ∧ session.purpose = .payer ∧ created.id = id ∧
      created.token = token := by
  simp only [create, bind_eq_ok, pure_eq_ok, Prod.mk.injEq] at h
  obtain ⟨S₂, hinsert, rfl, rfl⟩ := h
  obtain ⟨-, -, sessions, hsessions, rfl⟩ := insertSession_ok hinsert
  exact ⟨_, sessions, hsessions, rfl, rfl, rfl, rfl, rfl, rfl⟩

lemma filter_ne_eq_self {ρ : Type} {rows : List ρ} {p : ρ → Bool} (h : ∀ row ∈ rows, p row = false) :
    rows.filter (fun row => !p row) = rows := by
  rw [List.filter_eq_self]
  intro row hrow
  rw [h row hrow]
  rfl

/-- Deleting a session that was just created undoes its creation. -/
lemma delete_create (h : S.Tame) {session : PayerSession} {sessions : Table PayerSession.id}
    (hinsert : S.sessions.insert? session = some sessions) :
    delete { S with sessions := sessions } session.id = S := by
  obtain ⟨hnew, hrows⟩ := Table.insert?_eq_some_iff.1 hinsert
  have hfresh : ∀ row ∈ S.sessions.rows, row.id ≠ session.id := fun row hrow hid =>
    hnew (List.mem_map.2 ⟨row, hrow, hid⟩)
  have hsessions : sessions.deleteWhere (fun row => decide (row.id = session.id)) = S.sessions := by
    refine Table.ext_rows ?_
    simp only [Table.deleteWhere, hrows, List.filter_append]
    rw [filter_ne_eq_self fun row hrow => decide_eq_false (hfresh row hrow)]
    simp
  have hattempts : S.attempts.deleteWhere (fun row => decide (row.payerSessionId = session.id)) = S.attempts := by
    refine Table.ext_rows (filter_ne_eq_self fun row hrow => decide_eq_false fun hid => ?_)
    obtain ⟨other, hother, heq⟩ := h.attempts row hrow
    exact hfresh other hother (heq.trans hid)
  have hsecrets : S.secrets.updateWhere (fun row => decide (row.payerSessionId = some session.id))
      (fun row => { row with payerSessionId := none }) = S.secrets := by
    apply Table.updateWhere_eq_self
    intro row hrow
    refine decide_eq_false fun hid => ?_
    obtain ⟨other, hother, heq⟩ := h.secrets row hrow session.id hid
    exact hfresh other hother heq
  simp only [delete, hsessions, hattempts, hsecrets]

/-- A refused `start_email` leaves the tables as they were: a session it has created is deleted
again. -/
lemma startEmail_refused (h : S.Tame) {id : InvoiceId} {token : Option String}
    (hrefused : Event.startsCode S (.payer M ⟨id, token, .startEmail⟩) = false) :
    (startEmail G M S id token).1 = S := by
  unfold startEmail
  rcases hprovider : M.provider with _ | provider
  · rfl
  rcases hgated : gatedInvoice M S id with error | row
  · rfl
  have hcooldown : cooldownLeft M.now resendCooldown (latestEmail S id) ≠ none := by
    intro hnone
    simp [Event.startsCode, hprovider, hgated, hnone, Except.isOk, Except.toBool] at hrefused
  simp only
  split
  · -- the caller's session
    rename_i session text hactive
    obtain ⟨hmem, hinvoice, -, -⟩ := activeSession_found hactive
    unfold sendCode
    rcases hbegin : beginEmailVerification G.toOutside S M.now M.dbNow M.attemptId session.id resendCooldown with
      error | ⟨S₁, attempt⟩
    · rcases error with retryAfter | error <;> rfl
    · obtain ⟨found, attempts, hfound, hnone, -⟩ := beginEmailVerification_ok hbegin
      obtain rfl := Option.some.inj ((Table.find?_of_mem hmem).symm.trans hfound)
      rw [hinvoice] at hnone
      exact absurd hnone hcooldown
  · rcases hcreate : create G.toOutside S M.dbNow M.sessionId M.token id payerSessionTtl with
      error | ⟨S₁, created⟩
    · rfl
    · -- a fresh session, which is deleted
      obtain ⟨session, sessions, hinsert, rfl, hid, hinvoice, -, hcreated, -⟩ := create_ok hcreate
      have hdelete := delete_create h hinsert
      simp only
      unfold sendCode
      rcases hbegin : beginEmailVerification G.toOutside { S with sessions := sessions } M.now M.dbNow M.attemptId
          created.id resendCooldown with error | ⟨S₁, attempt⟩
      · rw [hid, ← hcreated] at hdelete
        rcases error with retryAfter | error <;> simp only [undoStart, if_true] <;> exact hdelete
      · obtain ⟨found, attempts, hfound, hnone, -⟩ := beginEmailVerification_ok hbegin
        have hnew : sessions.find? session.id = some session :=
          (Table.find?_of_insert? hinsert _).trans (if_pos rfl)
        rw [hcreated, ← hid] at hfound
        obtain rfl := Option.some.inj (hnew.symm.trans hfound)
        rw [hinvoice] at hnone
        exact absurd hnone hcooldown

lemma confirmEmail_preview (h : S.Tame) {id : InvoiceId} {token otp continuation : Option String}
    (htoken : token.any (isPreviewToken G.toOutside S) = true) :
    (confirmEmail G M S id token otp continuation).1 = S := by
  unfold confirmEmail
  split
  · rfl
  · rename_i row session proof hok
    obtain ⟨provider, -, hok⟩ := orError_bind_eq_ok.1 hok
    obtain ⟨-, hok⟩ := require_bind_eq_ok.1 hok
    obtain ⟨-, hok⟩ := require_bind_eq_ok.1 hok
    obtain ⟨row', -, hok⟩ := bind_eq_ok.1 hok
    obtain ⟨⟨found, text⟩, hactive, hok⟩ := orError_bind_eq_ok.1 hok
    obtain ⟨proof', -, hok⟩ := bind_eq_ok.1 hok
    simp only [pure_eq_ok, Prod.mk.injEq] at hok
    obtain ⟨-, rfl, -⟩ := hok
    obtain ⟨hmem, hpreview⟩ := activeSession_preview h htoken hactive
    -- no code was sent in the preview, so there is no attempt to approve
    split
    · rename_i S₁ completion happrove
      rcases approveEmail_ok happrove with rfl | ⟨other, hpending, -⟩
      · rfl
      · rw [List.filter_eq_nil_iff.2 fun attempt hattempt => by
          rw [h.pending found hmem hpreview attempt hattempt]
          exact Bool.false_ne_true] at hpending
        cases hpending
    · rfl

lemma selectNetwork_preview (h : S.Tame) {id : InvoiceId} {token : Option String} {chainId : Option ChainId}
    (hgated : (S.ledger.invoices.find? id).any (fun row => row.payerVerification.isGated) = true)
    (htoken : token.any (isPreviewToken G.toOutside S) = true) :
    (selectNetwork G M S id token chainId).1 = S := by
  rcases hchoice : networkChoice G M S id token chainId with error | ⟨chain, binding⟩
  · simp only [selectNetwork, hchoice]
  · exfalso
    obtain ⟨row, hopen, hchoice⟩ := bind_eq_ok.1 hchoice
    obtain ⟨-, hchoice⟩ := require_bind_eq_ok.1 hchoice
    obtain ⟨chain', -, hchoice⟩ := bind_eq_ok.1 hchoice
    obtain ⟨checked, hcheck, -⟩ := bind_eq_ok.1 hchoice
    simp only [openInvoice, orError_bind_eq_ok, require_bind_eq_ok, pure_eq_ok] at hopen
    obtain ⟨found, hrow, -, rfl⟩ := hopen
    rw [hrow, Option.any_some] at hgated
    simp only [checkBindingSession, hgated, if_true] at hcheck
    obtain ⟨⟨session, text⟩, hactive, hcheck⟩ := orError_bind_eq_ok.1 hcheck
    obtain ⟨hpayer, -⟩ := require_bind_eq_ok.1 hcheck
    obtain ⟨-, hpreview⟩ := activeSession_preview h htoken hactive
    simp [PayerSession.isMerchantPreview, hpreview] at hpayer

lemma challenge_preview (h : S.Tame) {id : InvoiceId} {token : Option String} {wallet : Option Address}
    {chainId : Option ChainId} (htoken : token.any (isPreviewToken G.toOutside S) = true) :
    (challenge G M S id token wallet chainId).1 = S := by
  unfold challenge
  split
  · rfl
  · rename_i wallet' row chain S₁ session text hok
    obtain ⟨wallet'', -, hok⟩ := bind_eq_ok.1 hok
    obtain ⟨⟨row', chain'⟩, -, hok⟩ := bind_eq_ok.1 hok
    obtain ⟨⟨S₂, session', text'⟩, hsession, hok⟩ := bind_eq_ok.1 hok
    simp only [pure_eq_ok, Prod.mk.injEq] at hok
    obtain ⟨-, -, -, rfl, rfl, -⟩ := hok
    rcases token with _ | token
    · cases htoken
    · simp only [challengeSession, orError_bind_eq_ok, pure_eq_ok, Prod.mk.injEq] at hsession
      obtain ⟨found, hfound, rfl, rfl, -⟩ := hsession
      obtain ⟨hmem, hpreview⟩ := findActive_preview h htoken hfound
      split
      · rfl
      · -- a challenge is only issued to a payer's session
        split
        · rfl
        · rename_i S₃ challenge hissue
          simp only [issueWalletChallenge, orError_bind_eq_ok, require_bind_eq_ok] at hissue
          obtain ⟨other, hother, ⟨-, hpayer⟩, -⟩ := hissue
          obtain rfl := Option.some.inj ((Table.find?_of_mem hmem).symm.trans hother)
          rw [hpreview] at hpayer
          cases hpayer

lemma attest_preview (h : S.Tame) {id : InvoiceId} {token : Option String} {wallet : Option Address}
    {signature : Option (List UInt8)} (htoken : token.any (isPreviewToken G.toOutside S) = true) :
    (attest G M S id token wallet signature).1 = S := by
  rcases hattest : attestation G M S id token wallet signature with error | ⟨wallet', session, binding⟩
  · simp only [attest, hattest]
  · exfalso
    obtain ⟨wallet'', -, hattest⟩ := bind_eq_ok.1 hattest
    obtain ⟨signature', -, hattest⟩ := orError_bind_eq_ok.1 hattest
    obtain ⟨row, -, hattest⟩ := bind_eq_ok.1 hattest
    obtain ⟨⟨found, text⟩, hactive, hattest⟩ := orError_bind_eq_ok.1 hattest
    obtain ⟨-, hattest⟩ := require_bind_eq_ok.1 hattest
    obtain ⟨challenge, hchallenge, -⟩ := orError_bind_eq_ok.1 hattest
    obtain ⟨hmem, hpreview⟩ := activeSession_preview h htoken hactive
    rw [PayerSession.walletChallenge, h.challenge found hmem hpreview] at hchallenge
    cases hchallenge

/-- A preview's call whose `start_email` is refused changes nothing. -/
lemma Event.after_preview (h : S.Tame) {event : Event} (hpreview : event.isPreviewCall G S = true)
    (hrefused : event.startsCode S = false) : event.after G S = S := by
  rcases event with ⟨M, ⟨id, token, call⟩⟩ | ⟨dbNow, tx⟩
  · obtain ⟨hgated, htoken⟩ := Bool.and_eq_true_iff.1 hpreview
    cases call with
    | startEmail => exact startEmail_refused h hrefused
    | confirmEmail otp continuation => exact confirmEmail_preview h htoken
    | selectNetwork chainId => exact selectNetwork_preview h hgated htoken
    | challenge wallet chainId => exact challenge_preview h htoken
    | attest wallet signature => exact attest_preview h htoken
    | status => rfl
    | get => rfl
  · cases hpreview

/-! ### Anybody's call -/

/-- A transaction that sends no code keeps the tables tame. -/
lemma Store.Tame.step (h : S.Tame) (O : Outside) (dbNow : Time) (tx : Transaction)
    (hbegin : ∀ now id sessionId cooldown, tx ≠ .beginEmailVerification now id sessionId cooldown) :
    (step O S dbNow tx).Tame :=
  (step_effect O S dbNow tx).tame h fun now id sessionId cooldown heq => absurd heq (hbegin now id sessionId cooldown)

lemma Store.Tame.create (h : S.Tame) {dbNow : Time} {id : SessionId} {token : String} {invoiceId : InvoiceId}
    {ttl : ℕ} {S₁ : Store} {created : CreatedPayerSession}
    (hok : create G.toOutside S dbNow id token invoiceId ttl = .ok (S₁, created)) : S₁.Tame := by
  have hstep := h.step G.toOutside dbNow (.create id token invoiceId ttl) (by simp)
  simp only [Verification.step, hok, committed] at hstep
  exact hstep

/-- Sending a code keeps the tables tame, in a payer's session. -/
lemma sendCode_tame (h : S.Tame) {provider : EmailProvider} {row : Invoice} {session : PayerSession}
    {text : String} {expiresAt : Time} {created : Bool} (hsession : S.sessions.find? session.id = some session)
    (hpayer : session.purpose = .payer) :
    (sendCode G M S provider row session.id text expiresAt created).1.Tame := by
  have hdelete : ∀ {S : Store}, S.Tame → (delete S session.id).Tame := fun h =>
    h.step G.toOutside M.dbNow (.delete session.id) (by simp)
  have hundo : ∀ {S S' : Store}, S.Tame → S'.Tame → (undoStart S session.id created S').Tame := by
    intro S S' h h'
    unfold undoStart
    split
    · exact hdelete h
    · exact h'
  unfold sendCode
  split
  · exact hundo h h
  · exact hundo h h
  · rename_i S₁ attempt hbegin
    have hbegun : S₁.Tame := by
      obtain ⟨found, attempts, hfound, -, hinsert, rfl⟩ := beginEmailVerification_ok hbegin
      have heffect : Effect G.toOutside S M.dbNow (.beginEmailVerification M.now M.attemptId session.id 0)
          { S with attempts := attempts } := .begun hfound hinsert
      refine heffect.tame h ?_
      intro now id sessionId cooldown heq other hother
      cases heq
      obtain rfl := Option.some.inj (hsession.symm.trans hother)
      exact hpayer
    split
    · exact hundo hbegun (hbegun.abandon session.id)
    · exact hbegun

/-- A call that is no preview's keeps the tables tame. -/
lemma startEmail_tame (h : S.Tame) {id : InvoiceId} {token : Option String}
    (hcall : Event.isPreviewCall G S (.payer M ⟨id, token, .startEmail⟩) = false) :
    (startEmail G M S id token).1.Tame := by
  unfold startEmail
  split
  · exact h
  split
  · exact h
  · rename_i row hgated
    split
    · -- the caller's session is no preview: the request is gated
      rename_i session text hactive
      obtain ⟨hmem, -, rfl, hhash⟩ := activeSession_found hactive
      refine sendCode_tame h (Table.find?_of_mem hmem) ?_
      by_contra hpurpose
      have hpreview : session.purpose = .merchantPreview := by
        rcases hcase : session.purpose with _ | _
        · exact absurd hcase hpurpose
        · rfl
      simp only [gatedInvoice, orError_bind_eq_ok, require_bind_eq_ok, pure_eq_ok] at hgated
      obtain ⟨row', hrow, -, hemail, -⟩ := hgated
      have htoken : isPreviewToken G.toOutside S text = true :=
        List.any_eq_true.2 ⟨session, hmem, by simp [hhash, PayerSession.isMerchantPreview, hpreview]⟩
      simp only [Event.isPreviewCall, hrow, Option.any_some, htoken, Bool.and_true] at hcall
      rw [isGated_iff.2 (Or.inl hemail)] at hcall
      cases hcall
    · split
      · exact h
      · rename_i S₁ created hcreate
        obtain ⟨session, sessions, hinsert, hstore, hid, -, hpayer, hcreated, -⟩ := create_ok hcreate
        have hnew : S₁.sessions.find? session.id = some session := by
          rw [hstore]
          exact (Table.find?_of_insert? hinsert _).trans (if_pos rfl)
        rw [show created.id = session.id from hcreated.trans hid.symm]
        exact sendCode_tame (h.create hcreate) hnew hpayer

lemma confirmEmail_tame (h : S.Tame) {id : InvoiceId} {token otp continuation : Option String} :
    (confirmEmail G M S id token otp continuation).1.Tame := by
  unfold confirmEmail
  split
  · exact h
  · rename_i row session proof hok
    have hstep := h.step G.toOutside M.dbNow
      (.approveEmail S.attempts.rows session.id proof.payerRef proof.verifiedAt proof.eventId) (by simp)
    split
    · rename_i S₁ completion happrove
      simp only [Verification.step, happrove, committed] at hstep
      exact hstep
    · exact h

lemma selectNetwork_tame (h : S.Tame) {id : InvoiceId} {token : Option String} {chainId : Option ChainId} :
    (selectNetwork G M S id token chainId).1.Tame := by
  have hbind : ∀ {binding S₁ result}, bindNetwork M S id binding = .ok (S₁, result) → S₁.Tame := by
    intro binding S₁ result hok
    simp only [bindNetwork, orError_bind_eq_ok] at hok
    obtain ⟨row, -, hok⟩ := hok
    split at hok
    · obtain ⟨-, hok⟩ := require_bind_eq_ok.1 hok
      obtain ⟨rfl, -⟩ := Prod.mk.inj (pure_eq_ok.1 hok)
      exact h.step G.toOutside M.dbNow (.request ⟨.bindNetwork id binding, rfl⟩) (by simp)
    · split at hok
      · obtain ⟨rfl, -⟩ := Prod.mk.inj (pure_eq_ok.1 hok)
        exact h
      · obtain ⟨rfl, -⟩ := Prod.mk.inj (pure_eq_ok.1 hok)
        exact h
  unfold selectNetwork
  split
  · exact h
  · exact h
  · split
    · exact h
    · exact h
    · rename_i S₁ row hok
      split
      · exact hbind hok
      · exact hbind hok
    · rename_i S₁ row hok
      exact hbind hok

lemma challenge_tame (h : S.Tame) {id : InvoiceId} {token : Option String} {wallet : Option Address}
    {chainId : Option ChainId} : (challenge G M S id token wallet chainId).1.Tame := by
  unfold challenge
  split
  · exact h
  · rename_i wallet' row chain S₁ session text hok
    obtain ⟨wallet'', -, hok⟩ := bind_eq_ok.1 hok
    obtain ⟨⟨row', chain'⟩, -, hok⟩ := bind_eq_ok.1 hok
    obtain ⟨⟨S₂, session', text'⟩, hsession, hok⟩ := bind_eq_ok.1 hok
    simp only [pure_eq_ok, Prod.mk.injEq] at hok
    obtain ⟨-, -, -, rfl, rfl, -⟩ := hok
    have htame : S₂.Tame := by
      rcases token with _ | token
      · obtain ⟨-, hsession⟩ := require_bind_eq_ok.1 hsession
        obtain ⟨⟨S₃, created⟩, hcreate, hsession⟩ := bind_eq_ok.1 hsession
        simp only [orError_bind_eq_ok, pure_eq_ok, Prod.mk.injEq] at hsession
        obtain ⟨-, -, rfl, -⟩ := hsession
        exact h.create (mapError_eq_ok.1 hcreate)
      · simp only [challengeSession, orError_bind_eq_ok, pure_eq_ok, Prod.mk.injEq] at hsession
        obtain ⟨-, -, rfl, -⟩ := hsession
        exact h
    have hstep := htame.step G.toOutside M.dbNow
      (.issueWalletChallenge M.nonce session'.id chain walletChallengeTtl) (by simp)
    split
    · exact htame
    · split
      · exact htame
      · rename_i S₃ challenge hissue
        simp only [Verification.step, hissue, committed] at hstep
        exact hstep

lemma attest_tame (h : S.Tame) {id : InvoiceId} {token : Option String} {wallet : Option Address}
    {signature : Option (List UInt8)} : (attest G M S id token wallet signature).1.Tame := by
  unfold attest
  split
  · exact h
  · rename_i wallet' session binding hok
    have hstep := h.step G.toOutside M.dbNow
      (.bindPayerWallet M.now M.attemptId id session.id wallet' binding) (by simp)
    have hbind : ∀ {S₁ result}, bindPayerWallet G.toOutside S M.now M.dbNow M.attemptId id session.id wallet' binding =
        .ok (S₁, result) → S₁.Tame := by
      intro S₁ result hok
      simp only [Verification.step, hok, committed] at hstep
      exact hstep
    split
    · exact h
    · exact h
    · rename_i S₁ row hbound
      split
      · exact hbind hbound
      · exact hbind hbound
    · rename_i S₁ row hbound
      exact hbind hbound

/-- An event keeps the tables tame, if it sends no code in a preview. -/
lemma Event.after_tame (h : S.Tame) (event : Event)
    (hrefused : event.isPreviewCall G S = true → event.startsCode S = false) : (event.after G S).Tame := by
  by_cases hpreview : event.isPreviewCall G S = true
  · rw [Event.after_preview h hpreview (hrefused hpreview)]
    exact h
  · rcases event with ⟨M, ⟨id, token, call⟩⟩ | ⟨dbNow, tx⟩
    · cases call with
      | startEmail => exact startEmail_tame h (Bool.eq_false_of_not_eq_true hpreview)
      | confirmEmail otp continuation => exact confirmEmail_tame h
      | selectNetwork chainId => exact selectNetwork_tame h
      | challenge wallet chainId => exact challenge_tame h
      | attest wallet signature => exact attest_tame h
      | status => exact h
      | get => exact h
    · refine h.step G.toOutside dbNow tx.1 ?_
      rintro now id sessionId cooldown heq
      have htx := tx.2
      rw [heq] at htx
      cases htx

/-! ### Runs -/

/-- The run without its previews' calls ends in the same store, and gives the others the same
answers. -/
lemma withoutPreviews_same (h : S.Tame) {events : List Event} (hrefused : PreviewsRefused G S events) :
    afterAll G S (withoutPreviews G S events) = afterAll G S events ∧
      answers G S (withoutPreviews G S events) = othersAnswers G S events := by
  induction events generalizing S with
  | nil => exact ⟨rfl, rfl⟩
  | cons event rest ih =>
    obtain ⟨hfirst, hrest⟩ := hrefused
    obtain ⟨hstore, hanswers⟩ := ih (event.after_tame h hfirst) hrest
    by_cases hpreview : event.isPreviewCall G S = true
    · have hsame := event.after_preview h hpreview (hfirst hpreview)
      simp only [withoutPreviews, othersAnswers, hpreview, if_true, List.nil_append]
      rw [hsame] at hstore hanswers ⊢
      refine ⟨hstore.trans ?_, hanswers⟩
      rw [afterAll, afterAll, List.foldl_cons, hsame]
    · simp only [withoutPreviews, othersAnswers, hpreview, Bool.false_eq_true, if_false, List.singleton_append,
        afterAll, List.foldl_cons, answers]
      exact ⟨hstore, by rw [hanswers]⟩

end Previews

lemma afterAll_concat (G : Gateway) (S : Store) (events : List Event) (event : Event) :
    afterAll G S (events ++ [event]) = event.after G (afterAll G S events) := by
  simp [afterAll]

/-! ### A code that is sent shows -/

/-- `account_id = $1 AND invoice_id = $2`. -/
def Attempt.isOn (accountId : AccountId) (id : InvoiceId) (attempt : Attempt) : Bool :=
  decide (attempt.accountId = accountId ∧ attempt.invoiceId = id)

lemma attemptsForInvoice_length (S : Store) (accountId : AccountId) (id : InvoiceId) :
    (attemptsForInvoice S accountId id).length = S.attempts.rows.countP (Attempt.isOn accountId id) := by
  rw [attemptsForInvoice, List.length_insertionSort, List.countP_eq_length_filter]
  rfl

/-- Abandoning an attempt leaves it on its request. -/
lemma countP_isOn_abandon (S : Store) (sessionId : SessionId) (accountId : AccountId) (id : InvoiceId) :
    (abandonEmailVerification S sessionId).attempts.rows.countP (Attempt.isOn accountId id) =
      S.attempts.rows.countP (Attempt.isOn accountId id) := by
  refine (List.countP_map).trans (List.countP_congr fun row _ => ?_)
  simp only [Function.comp_apply]
  split <;> rfl

/-- `start_email` in an active preview session shows in the request's attempts, unless it is refused. -/
lemma startsCode_shows {G : Gateway} {M : Moment} {S : Store} {id : InvoiceId} {token : String}
    {session : PayerSession} (hactive : findActive G.toOutside S M.dbNow token id = some session)
    (hfresh : M.attemptId ∉ S.attempts.rows.map Attempt.id)
    (hstarts : Event.startsCode S (.payer M ⟨id, some token, .startEmail⟩) = true) :
    (attemptsForInvoice (Event.after G S (.payer M ⟨id, some token, .startEmail⟩)) (G.accountOf id) id).length =
      (attemptsForInvoice S (G.accountOf id) id).length + 1 := by
  have hsession : activeSession G M S id (some token) = some (session, token) := by
    rw [activeSession, Option.bind_some, hactive, Option.map_some]
  obtain ⟨hmem, hinvoice, -, -⟩ := activeSession_found hsession
  have hfound := Table.find?_of_mem hmem
  simp only [Event.startsCode, Bool.and_eq_true, Option.isSome_iff_exists, Option.isNone_iff_eq_none] at hstarts
  obtain ⟨⟨⟨provider, hprovider⟩, hok⟩, hcooldown⟩ := hstarts
  rcases hgated : gatedInvoice M S id with error | row
  · simp [hgated, Except.isOk, Except.toBool] at hok
  have hrow : (S.ledger.invoices.find? session.invoiceId).isSome := by
    simp only [gatedInvoice, orError_bind_eq_ok] at hgated
    obtain ⟨found, hrow, -⟩ := hgated
    rw [hinvoice, hrow]
    rfl
  obtain ⟨invoice, hrow⟩ := Option.isSome_iff_exists.1 hrow
  -- the attempt is recorded
  have hkeys : (abandonEmailVerification S session.id).attempts.rows.map Attempt.id = S.attempts.rows.map Attempt.id := by
    refine Table.column_of_rows_map rfl fun row => ?_
    split <;> rfl
  obtain ⟨attempts, hinsert⟩ : ∃ attempts, (abandonEmailVerification S session.id).attempts.insert?
      (emailAttempt G.toOutside M.dbNow M.attemptId session) = some attempts := by
    rw [← Option.ne_none_iff_exists']
    intro hnone
    have hold := Table.insert?_eq_none_iff.1 hnone
    rw [hkeys] at hold
    exact hfresh hold
  have hbegin : beginEmailVerification G.toOutside S M.now M.dbNow M.attemptId session.id resendCooldown =
      .ok ({ S with attempts := attempts }, ⟨M.attemptId, M.dbNow⟩) := by
    rw [← hinvoice] at hcooldown
    simp only [beginEmailVerification, hfound, orError, hrow, bind, Except.bind, hcooldown, hinsert]
    rfl
  have hcount : attempts.rows.countP (Attempt.isOn (G.accountOf id) id) =
      S.attempts.rows.countP (Attempt.isOn (G.accountOf id) id) + 1 := by
    rw [countP_insert hinsert, countP_isOn_abandon, if_pos]
    simp [Attempt.isOn, emailAttempt, hinvoice]
  -- whether or not the code is sent, the attempt stays
  rw [attemptsForInvoice_length, attemptsForInvoice_length, ← hcount]
  simp only [Event.after, serve, startEmail, hprovider, hgated, hsession, sendCode, hbegin]
  rcases provider.sendCode (expectedEmail G row) with error | ⟨⟩
  · simp only [undoStart, Bool.false_eq_true, if_false]
    exact countP_isOn_abandon { S with attempts := attempts } session.id _ _
  · rfl

/-! ### Previews are inert while they send no code -/

/-- A run whose previews are refused every code shows no trace of their calls.  And a code that an
active preview is not refused shows: the request has one attempt more. -/
theorem previews_are_inert_unless_they_send_a_code (G : Gateway) :
    (∀ events, PreviewsRefused G .empty events → Inert G events) ∧
    ∀ (events : List Event) (M : Moment) (id : InvoiceId) (token : String) (session : PayerSession),
      findActive G.toOutside (afterAll G .empty events) M.dbNow token id = some session →
      session.isMerchantPreview = true →
      M.attemptId ∉ (afterAll G .empty events).attempts.rows.map Attempt.id →
      Event.startsCode (afterAll G .empty events) (.payer M ⟨id, some token, .startEmail⟩) = true →
      attemptsForInvoice (afterAll G .empty (events ++ [.payer M ⟨id, some token, .startEmail⟩]))
          (G.accountOf id) id ≠
        attemptsForInvoice (afterAll G .empty events) (G.accountOf id) id := by
  refine ⟨?_, ?_⟩
  · intro events hrefused
    obtain ⟨hstore, hanswers⟩ := withoutPreviews_same Store.Tame.empty hrefused
    refine ⟨?_, ?_, ?_, ?_, hanswers.symm⟩
    · intro id
      rw [hstore]
    · intro accountId id
      rw [hstore]
    · intro accountId id
      rw [hstore]
    · intro P accountId row wallet
      rw [hstore]
  · intro events M id token session hactive _ hfresh hstarts hsame
    have hshows := startsCode_shows hactive hfresh hstarts
    rw [afterAll_concat] at hsame
    rw [hsame] at hshows
    omega

/-- Tokens are hashed to their lengths, one merchant owns every request, and a request may be paid on
chain 1. -/
def sampleGateway : Gateway where
  toOutside := sampleOutside
  networks := fun _ => [1]
  networkBinding := fun _ _ _ => .error .unsupportedChain
  walletBinding := fun _ _ _ _ _ => .error .walletSignatureInvalid
  trim := fun text => text
  isAlphanumeric := Char.isAlphanum
  toLowercase := fun text => text

/-- A provider that sends every code. -/
def sampleProvider : EmailProvider where
  sendCode := fun _ => .ok ()
  confirmCode := fun _ _ => .ok "event"
  payerRef := fun _ _ => 9
  verifyContinuation := fun _ => none

/-- A call at the given second; the ids it draws are the second. -/
def sampleMoment (second : ℕ) (token : String) : Moment where
  now := second * 1000000
  dbNow := second * 1000000
  sessionId := second
  token := token
  attemptId := second
  nonce := second
  provider := some sampleProvider

/-- The merchant previews its own request. -/
def samplePreview : List Event :=
  [.outside 1000000 ⟨.request ⟨.insertIssued { sampleRequest with
      expectedEmail := some "alice@example.com", initialBinding := none }, rfl⟩, rfl⟩,
    .outside 2000000 ⟨.createMerchantPreview 1 "preview" 7 86400000000, rfl⟩]

/-- A preview that only chooses a network is refused, and the payer's code is sent. -/
theorem previews_are_inert_unless_they_send_a_code_samplePreview :
    PreviewsRefused sampleGateway .empty (samplePreview ++
      [.payer (sampleMoment 3 "a") ⟨7, some "preview", .selectNetwork (some 1)⟩,
        .payer (sampleMoment 4 "ab") ⟨7, none, .startEmail⟩]) ∧
    Inert sampleGateway (samplePreview ++
      [.payer (sampleMoment 3 "a") ⟨7, some "preview", .selectNetwork (some 1)⟩,
        .payer (sampleMoment 4 "ab") ⟨7, none, .startEmail⟩]) := by
  have hrefused : PreviewsRefused sampleGateway .empty (samplePreview ++
      [.payer (sampleMoment 3 "a") ⟨7, some "preview", .selectNetwork (some 1)⟩,
        .payer (sampleMoment 4 "ab") ⟨7, none, .startEmail⟩]) := by
    refine ⟨fun h => ?_, fun h => ?_, fun _ => rfl, fun h => ?_, trivial⟩
    · cases h
    · cases h
    · exact absurd h (by decide)
  exact ⟨hrefused, (previews_are_inert_unless_they_send_a_code sampleGateway).1 _ hrefused⟩

/-- The preview asks for a code, and then the payer does. -/
def samplePreviewCode : List Event :=
  samplePreview ++ [.payer (sampleMoment 3 "a") ⟨7, some "preview", .startEmail⟩,
    .payer (sampleMoment 4 "ab") ⟨7, none, .startEmail⟩]

/-- The preview's code is an attempt on the request, and the payer has to wait for the cooldown. -/
theorem a_preview_records_an_attempt_and_starts_the_cooldown :
    (attemptsForInvoice (afterAll sampleGateway .empty samplePreviewCode) 1 7).map (·.payerSessionId) = [1] ∧
    (attemptsForInvoice (afterAll sampleGateway .empty
      (withoutPreviews sampleGateway .empty samplePreviewCode)) 1 7).map (·.payerSessionId) = [4] ∧
    othersAnswers sampleGateway .empty samplePreviewCode = [.error (.otpResendCooldown 59)] ∧
    answers sampleGateway .empty (withoutPreviews sampleGateway .empty samplePreviewCode) =
      [.ok (.started "ab" 86404000000)] ∧
    ¬ ∀ (G : Gateway) (events : List Event), Inert G events := by
  have hfull : (attemptsForInvoice (afterAll sampleGateway .empty samplePreviewCode) 1 7).map (·.payerSessionId) =
      [1] := by decide
  have hwithout : (attemptsForInvoice (afterAll sampleGateway .empty
      (withoutPreviews sampleGateway .empty samplePreviewCode)) 1 7).map (·.payerSessionId) = [4] := by decide
  refine ⟨hfull, hwithout, rfl, rfl, fun hinert => ?_⟩
  rw [(hinert sampleGateway samplePreviewCode).attempts, hwithout] at hfull
  cases hfull

end Payday.Verification
