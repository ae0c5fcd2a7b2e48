/-
# Payer sessions, verification attempts and client secrets

The tables `payer_sessions`, `payer_verifications` and `payer_client_secrets` beside the ledger, and
the transactions of `gum-ledger/src/verifications.rs` on them.  A session is a bearer token of one
request and collects the facts its holder has proved; the request's own completion is a column of
the ledger.  The columns of a wallet challenge are one field here
(`payer_sessions_wallet_challenge_complete`).

A transaction locks the row it decides on before it reads it (the request in
`begin_email_verification`, the attempt and the session in `approve_email`, the secret in
`exchange_client_secret`), so each is one step.  The exception is the first read of `approve_email`,
which takes no lock: it sees the attempts of some earlier moment.  The database's clock and the
process's clock are two parameters.
-/
import Payday.Ledger.Operations
import Payday.Lib.Checks
import Payday.Proofs.Served

namespace Payday.Verification

open Proofs (PayerVerification AttemptKind AttemptStatus VerificationAttempt)

abbrev SessionId := ℕ
abbrev AttemptId := ℕ
abbrev SecretId := ℕ
abbrev AccountId := ℕ

/-! ### The rows -/

/-- Why a session exists: for the payer, or for the merchant to see the payer's view. -/
inductive Purpose
  | payer
  | merchantPreview
deriving DecidableEq, Repr

/-- A one-time challenge that the payer's wallet has to sign, for one chain. -/
structure WalletChallenge where
  nonce : Hash
  expiresAt : Time
  chainId : ChainId
deriving DecidableEq, Repr

/-- A row of `payer_sessions`. -/
structure PayerSession where
  id : SessionId
  tokenHash : Hash
  invoiceId : InvoiceId
  purpose : Purpose
  payerRef : Option Hash
  emailVerifiedAt : Option Time
  challenge : Option WalletChallenge
  merchantSessionVerifiedAt : Option Time
  createdAt : Time
  expiresAt : Time
deriving DecidableEq, Repr

/-- Which facts have been established. -/
structure VerificationFacts where
  email : Bool
  wallet : Bool
  merchantSession : Bool
deriving DecidableEq, Repr

/-- Whether the facts satisfy the identity add-ons; the wallet is a separate step. -/
def VerificationFacts.satisfy (facts : VerificationFacts) (verification : PayerVerification) : Bool :=
  (!verification.email.isSome || facts.email) &&
    (!verification.merchantAuth.isSome || facts.merchantSession)

namespace PayerSession

/-- The session's own facts.  The wallet belongs to the request. -/
def facts (session : PayerSession) : VerificationFacts where
  email := session.emailVerifiedAt.isSome
  wallet := false
  merchantSession := session.merchantSessionVerifiedAt.isSome

def satisfies (session : PayerSession) (verification : PayerVerification) : Bool :=
  session.facts.satisfy verification

def isMerchantPreview (session : PayerSession) : Bool :=
  decide (session.purpose = .merchantPreview)

/-- The unexpired challenge the session holds, if any. -/
def walletChallenge (session : PayerSession) (now : Time) : Option WalletChallenge :=
  session.challenge.filter fun challenge => decide (now < challenge.expiresAt)

end PayerSession

inductive Provider
  | auth0
  | gum
  | merchant
deriving DecidableEq, Repr

/-- A row of `payer_verifications`. -/
structure Attempt where
  id : AttemptId
  invoiceId : InvoiceId
  accountId : AccountId
  payerSessionId : SessionId
  kind : AttemptKind
  status : AttemptStatus
  provider : Provider
  providerEventId : Option String
  payerRef : Option Hash
  verifiedAt : Option Time
  createdAt : Time
deriving DecidableEq, Repr

/-- A row of `payer_client_secrets`. -/
structure ClientSecret where
  id : SecretId
  invoiceId : InvoiceId
  accountId : AccountId
  secretHash : Hash
  createdAt : Time
  expiresAt : Time
  usedAt : Option Time
  payerSessionId : Option SessionId
deriving DecidableEq, Repr

/-- The payer tables beside the ledger. -/
structure Store where
  ledger : Ledger
  sessions : Table PayerSession.id
  attempts : Table Attempt.id
  secrets : Table ClientSecret.id

/-- No request and no payer. -/
def Store.empty : Store := ⟨.empty, .empty, .empty, .empty⟩

/-- What the transactions take from outside the modelled tables. -/
structure Outside where
  /-- `token_hash`: SHA-256 of a token or a client secret. -/
  tokenHash : String → Hash
  /-- `invoices.account_id`, which issuance writes and nothing changes. -/
  accountOf : InvoiceId → AccountId

end Payday.Verification

/-- The add-ons of a request, as its row has them. -/
def Payday.Invoice.payerVerification (row : Payday.Invoice) : Payday.Proofs.PayerVerification where
  email := row.expectedEmail
  merchantAuth := row.payerReference
  walletAttestation := row.walletAttestationRequired

namespace Payday.Verification

open Proofs (PayerVerification AttemptKind AttemptStatus VerificationAttempt)

inductive DatabaseError
  | rowNotFound
  | uniqueViolation
  | foreignKeyViolation
  | checkViolation
deriving DecidableEq, Repr

variable (O : Outside) (S : Store)

/-! ### Sessions -/

/-- Insert a session: its request exists, its id and its token are new and it expires after it was
created. -/
def insertSession (session : PayerSession) : Except DatabaseError Store := do
  require ((S.ledger.invoices.find? session.invoiceId).isSome) .foreignKeyViolation
  require (∀ other ∈ S.sessions.rows, other.tokenHash ≠ session.tokenHash) .uniqueViolation
  require (session.createdAt < session.expiresAt) .checkViolation
  let sessions ← orError .uniqueViolation (S.sessions.insert? session)
  return { S with sessions := sessions }

/-- A freshly minted session. -/
structure CreatedPayerSession where
  id : SessionId
  token : String
  expiresAt : Time
deriving DecidableEq, Repr

/-- Mint a session for one request. -/
def create (dbNow : Time) (id : SessionId) (token : String) (invoiceId : InvoiceId) (ttl : ℕ) :
    Except DatabaseError (Store × CreatedPayerSession) := do
  let S' ← insertSession S ⟨id, O.tokenHash token, invoiceId, .payer, none, none, none, none, dbNow,
    dbNow + ttl⟩
  return (S', ⟨id, token, dbNow + ttl⟩)

/-- Mint a preview session, which carries every fact. -/
def createMerchantPreview (dbNow : Time) (id : SessionId) (token : String) (invoiceId : InvoiceId)
    (ttl : ℕ) : Except DatabaseError (Store × CreatedPayerSession) := do
  let S' ← insertSession S ⟨id, O.tokenHash token, invoiceId, .merchantPreview, none, some dbNow, none,
    some dbNow, dbNow, dbNow + ttl⟩
  return (S', ⟨id, token, dbNow + ttl⟩)

/-- The unexpired session behind `token`, only if it belongs to the request. -/
def findActive (dbNow : Time) (token : String) (invoiceId : InvoiceId) : Option PayerSession :=
  S.sessions.rows.find? fun session =>
    decide (session.tokenHash = O.tokenHash token ∧ session.invoiceId = invoiceId ∧ dbNow < session.expiresAt)

/-- Write the wallet challenge of a session. -/
def writeChallenge (sessionId : SessionId) (challenge : Option WalletChallenge) : Table PayerSession.id :=
  S.sessions.updateWhere (fun row => decide (row.id = sessionId)) fun row => { row with challenge := challenge }

/-- Issue or replace the session's wallet challenge; only a payer's session has one. -/
def issueWalletChallenge (dbNow : Time) (nonce : Hash) (sessionId : SessionId) (chainId : ChainId)
    (ttl : ℕ) : Except DatabaseError (Store × WalletChallenge) := do
  let session ← orError .rowNotFound (S.sessions.find? sessionId)
  require (dbNow < session.expiresAt ∧ session.purpose = .payer) .rowNotFound
  let challenge : WalletChallenge := ⟨nonce, min session.expiresAt (dbNow + ttl), chainId⟩
  return ({ S with sessions := writeChallenge S sessionId (some challenge) }, challenge)

/-- Delete a session, with its attempts; a secret that minted it forgets it. -/
def delete (sessionId : SessionId) : Store :=
  { S with
    sessions := S.sessions.deleteWhere fun row => decide (row.id = sessionId)
    attempts := S.attempts.deleteWhere fun row => decide (row.payerSessionId = sessionId)
    secrets := S.secrets.updateWhere (fun row => decide (row.payerSessionId = some sessionId))
      fun row => { row with payerSessionId := none } }

/-! ### The mailbox -/

/-- `payer_session_id = $1 AND kind = 'email' AND status = 'pending'`. -/
def Attempt.isPendingEmail (sessionId : SessionId) (attempt : Attempt) : Bool :=
  decide (attempt.payerSessionId = sessionId ∧ attempt.kind = .email ∧ attempt.status = .pending)

/-- Abandon the session's pending attempt. -/
def abandonEmailVerification (sessionId : SessionId) : Store :=
  { S with
    attempts := S.attempts.updateWhere (Attempt.isPendingEmail sessionId)
      fun row => { row with status := .abandoned } }

/-- `max(created_at)` of the request's email attempts that are pending or approved. -/
def latestEmail (invoiceId : InvoiceId) : Option Time :=
  ((S.attempts.rows.filter fun row => decide (row.invoiceId = invoiceId ∧ row.kind = .email ∧
    row.status ≠ .abandoned)).map (·.createdAt)).max?

/-- A pending email attempt awaiting its code. -/
structure EmailVerificationAttempt where
  id : AttemptId
  createdAt : Time
deriving DecidableEq, Repr

inductive StartEmailVerificationError
  | cooldown (retryAfter : ℕ)
  | database (error : DatabaseError)
deriving DecidableEq, Repr

/-- How much of the cooldown is left, when the latest code was sent too recently.  A clock that runs
behind counts as no time elapsed. -/
def cooldownLeft (now : Time) (cooldown : ℕ) (latest : Option Time) : Option ℕ :=
  latest.bind fun latest => if now - latest < cooldown then some (cooldown - (now - latest)) else none

/-- The attempt that a code is sent for. -/
def emailAttempt (dbNow : Time) (id : AttemptId) (session : PayerSession) : Attempt :=
  ⟨id, session.invoiceId, O.accountOf session.invoiceId, session.id, .email, .pending, .auth0, none, none,
    none, dbNow⟩

/-- Record that a code is being sent for the session's request.  The cooldown is per request,
whatever session asks. -/
def beginEmailVerification (now dbNow : Time) (id : AttemptId) (sessionId : SessionId) (cooldown : ℕ) :
    Except StartEmailVerificationError (Store × EmailVerificationAttempt) := do
  let session ← orError (.database .rowNotFound) (S.sessions.find? sessionId)
  let _invoice ← orError (.database .rowNotFound) (S.ledger.invoices.find? session.invoiceId)
  match cooldownLeft now cooldown (latestEmail S session.invoiceId) with
  | some retryAfter => .error (.cooldown retryAfter)
  | none => do
    let S₁ := abandonEmailVerification S sessionId
    let attempts ← orError (.database .uniqueViolation) (S₁.attempts.insert?
      (emailAttempt O dbNow id session))
    return ({ S₁ with attempts := attempts }, ⟨id, dbNow⟩)

/-- Whether the session has a code outstanding. -/
def hasPendingEmailVerification (sessionId : SessionId) : Bool :=
  S.attempts.rows.any (Attempt.isPendingEmail sessionId)

/-- Every attempt on a merchant's request, oldest first. -/
def attemptsForInvoice (accountId : AccountId) (invoiceId : InvoiceId) : List Attempt :=
  (S.attempts.rows.filter fun row => decide (row.accountId = accountId ∧ row.invoiceId = invoiceId)).insertionSort
    fun a b => toLex (a.createdAt, a.id) ≤ toLex (b.createdAt, b.id)

/-! ### Completing the request -/

lemma id_completeInvoice (dbNow verifiedAt : Time) (row : Invoice) :
    Invoice.id { row with verificationCompletedAt := some verifiedAt, updatedAt := dbNow } = row.id := rfl

/-- The update of a request at the end of `approve_email` and `exchange_client_secret`, when its
add-ons are satisfied by the session that has just proved something. -/
def completeInvoice (L : Ledger) (dbNow : Time) (id : InvoiceId) (verifiedAt : Time)
    (satisfied : Invoice → Bool) : Ledger :=
  { L with
    invoices := L.invoices.updateWhere
      (fun row => decide (row.id = id) && satisfied row && row.verifiable verifiedAt)
      (fun row => { row with verificationCompletedAt := some verifiedAt, updatedAt := dbNow })
      (id_completeInvoice dbNow verifiedAt) }

/-- `RETURNING verification_completed_at`. -/
def completedAt (L : Ledger) (id : InvoiceId) (verifiedAt : Time) (satisfied : Invoice → Bool) :
    Option Time :=
  if (L.invoices.find? id).any fun row => satisfied row && row.verifiable verifiedAt then some verifiedAt
  else none

/-- The mailbox is asked for and is all that was missing. -/
def mailboxCompletes (session : PayerSession) (row : Invoice) : Bool :=
  row.expectedEmail.isSome && (row.payerReference.isNone || session.merchantSessionVerifiedAt.isSome) &&
    decide (session.purpose = .payer)

/-- The merchant's session is asked for and is all that was missing. -/
def secretCompletes (session : PayerSession) (row : Invoice) : Bool :=
  row.payerReference.isSome && (row.expectedEmail.isNone || session.emailVerifiedAt.isSome) &&
    decide (session.purpose = .payer)

/-- What an approval or an exchange changed. -/
structure VerificationCompletion where
  session : PayerSession
  invoiceCompletedAt : Option Time
deriving DecidableEq, Repr

/-- The attempt that an earlier approval with the same event has approved. -/
def approvedWith (attempts : List Attempt) (eventId : String) : Option Attempt :=
  attempts.find? fun row => decide (row.providerEventId = some eventId ∧ row.status = .approved)

/-- The session after its mailbox is proven. -/
def PayerSession.proveEmail (session : PayerSession) (payerRef : Hash) (verifiedAt : Time) : PayerSession :=
  { session with payerRef := some payerRef, emailVerifiedAt := session.emailVerifiedAt.or (some verifiedAt) }

/-- The answer to an approval that was made before, under the same event. -/
def replayedApproval (sessionId : SessionId) : Except DatabaseError VerificationCompletion := do
  let session ← orError .rowNotFound (S.sessions.find? sessionId)
  let invoice ← orError .rowNotFound (S.ledger.invoices.find? session.invoiceId)
  return ⟨session, invoice.verificationCompletedAt⟩

/-- The writes of an approval: the pending attempt, the session and the request. -/
def writeApproval (dbNow : Time) (session : PayerSession) (payerRef : Hash) (verifiedAt : Time)
    (eventId : String) : Store :=
  { S with
    attempts := S.attempts.updateWhere (Attempt.isPendingEmail session.id) fun row => { row with
      status := .approved
      verifiedAt := some verifiedAt
      payerRef := some payerRef
      providerEventId := some eventId }
    sessions := S.sessions.updateWhere (fun row => decide (row.id = session.id))
      fun row => row.proveEmail payerRef verifiedAt
    ledger := completeInvoice S.ledger dbNow session.invoiceId verifiedAt
      (mailboxCompletes (session.proveEmail payerRef verifiedAt)) }

/-- The mailbox is proven: the session gets the payer's reference and the fact, its pending attempt is
approved, and the request may be complete.  `seen` are the attempts that the first read finds: an
approval under the same event is answered again and changes nothing. -/
def approveEmail (seen : List Attempt) (dbNow : Time) (sessionId : SessionId) (payerRef : Hash)
    (verifiedAt : Time) (eventId : String) : Except DatabaseError (Store × VerificationCompletion) :=
  match approvedWith seen eventId with
  | some existing => do
    let completion ← replayedApproval S existing.payerSessionId
    return (S, completion)
  | none => do
    require ((S.attempts.rows.filter (Attempt.isPendingEmail sessionId)).length = 1) .rowNotFound
    let session ← orError .rowNotFound (S.sessions.find? sessionId)
    require (verifiedAt < session.expiresAt) .rowNotFound
    let proven := session.proveEmail payerRef verifiedAt
    return (writeApproval S dbNow session payerRef verifiedAt eventId,
      ⟨proven, completedAt S.ledger session.invoiceId verifiedAt (mailboxCompletes proven)⟩)

/-! ### Client secrets -/

/-- A freshly minted client secret. -/
structure CreatedClientSecret where
  id : SecretId
  secret : String
  expiresAt : Time
deriving DecidableEq, Repr

/-- Mint a client secret for one request. -/
def createClientSecret (dbNow : Time) (id : SecretId) (secret : String) (invoiceId : InvoiceId)
    (accountId : AccountId) (ttl : ℕ) : Except DatabaseError (Store × CreatedClientSecret) := do
  require ((S.ledger.invoices.find? invoiceId).isSome) .foreignKeyViolation
  require (∀ other ∈ S.secrets.rows, other.secretHash ≠ O.tokenHash secret) .uniqueViolation
  require (dbNow < dbNow + ttl) .checkViolation
  let secrets ← orError .uniqueViolation (S.secrets.insert? ⟨id, invoiceId, accountId, O.tokenHash secret,
    dbNow, dbNow + ttl, none, none⟩)
  return ({ S with secrets := secrets }, ⟨id, secret, dbNow + ttl⟩)

inductive ExchangeClientSecretError
  | unknown
  | used
  | expired
  | database (error : DatabaseError)
deriving DecidableEq, Repr

/-- What exchanging a client secret produced. -/
structure ClientSecretExchange where
  session : PayerSession
  token : String
  invoiceCompletedAt : Option Time
deriving DecidableEq, Repr

/-- The secret of the request with the given hash. -/
def findSecret (secret : String) (invoiceId : InvoiceId) : Option ClientSecret :=
  S.secrets.rows.find? fun row => decide (row.secretHash = O.tokenHash secret ∧ row.invoiceId = invoiceId)

/-- The identifiers an exchange draws: for its session, the session's token and its attempt. -/
structure ExchangeIds where
  sessionId : SessionId
  token : String
  attemptId : AttemptId
deriving DecidableEq, Repr

/-- The session an exchange mints: it carries the merchant's fact. -/
def mintedSession (now dbNow : Time) (ids : ExchangeIds) (invoiceId : InvoiceId) (ttl : ℕ) : PayerSession :=
  ⟨ids.sessionId, O.tokenHash ids.token, invoiceId, .payer, none, none, none, some now, dbNow, now + ttl⟩

/-- The attempt an exchange records. -/
def exchangeAttempt (now dbNow : Time) (ids : ExchangeIds) (invoiceId : InvoiceId) (accountId : AccountId) :
    Attempt :=
  ⟨ids.attemptId, invoiceId, accountId, ids.sessionId, .merchantSession, .approved, .merchant,
    none, none, some now, dbNow⟩

/-- The writes of an exchange besides its session and its attempt: the secret and the request. -/
def writeExchange (now dbNow : Time) (session : PayerSession) (found : ClientSecret) : Store :=
  { S with
    secrets := S.secrets.updateWhere (fun row => decide (row.id = found.id))
      fun row => { row with usedAt := some now, payerSessionId := some session.id }
    ledger := completeInvoice S.ledger dbNow session.invoiceId now (secretCompletes session) }

/-- Spend a client secret: mint the session it opens, mark it used, record the approved attempt, and
complete the request if nothing else is asked for. -/
def exchangeClientSecret (now dbNow : Time) (ids : ExchangeIds) (secret : String) (invoiceId : InvoiceId)
    (ttl : ℕ) : Except ExchangeClientSecretError (Store × ClientSecretExchange) := do
  let found ← orError .unknown (findSecret O S secret invoiceId)
  require (found.usedAt = none) .used
  require (now < found.expiresAt) .expired
  let session := mintedSession O now dbNow ids invoiceId ttl
  let S₁ ← (insertSession S session).mapError .database
  require (found.createdAt ≤ now) (.database .checkViolation)
  let attempts ← orError (.database .uniqueViolation) (S₁.attempts.insert?
    (exchangeAttempt now dbNow ids invoiceId found.accountId))
  return (writeExchange { S₁ with attempts := attempts } now dbNow session found,
    ⟨session, ids.token, completedAt S.ledger invoiceId now (secretCompletes session)⟩)

/-! ### Binding the payer's wallet -/

/-- What binding an address came to. -/
inductive BindPayerWallet
  | bound (row : Invoice)
  | alreadyBound (row : Invoice)
  | notBindable (row : Invoice)
deriving DecidableEq

/-- The attempt a bound wallet records. -/
def walletAttempt (now dbNow : Time) (id : AttemptId) (invoiceId : InvoiceId) (sessionId : SessionId) :
    Attempt :=
  ⟨id, invoiceId, O.accountOf invoiceId, sessionId, .wallet, .approved, .gum, none, none, some now, dbNow⟩

/-- `bind_payer_wallet`: write the binding, record the wallet attempt against the session and consume
the session's challenge. -/
def bindPayerWallet (now dbNow : Time) (attemptId : AttemptId) (invoiceId : InvoiceId)
    (sessionId : SessionId) (wallet : Address) (binding : Binding) :
    Except DatabaseError (Store × BindPayerWallet) := do
  let row ← orError .rowNotFound (S.ledger.invoices.find? invoiceId)
  if row.binding.isSome then return (S, .alreadyBound row)
  else if !walletBindable (now / 1000000) row then return (S, .notBindable row)
  else
    require (S.ledger.addressTaken binding = false) .uniqueViolation
    require ((S.sessions.find? sessionId).isSome) .foreignKeyViolation
    let attempts ← orError .uniqueViolation (S.attempts.insert?
      (walletAttempt O now dbNow attemptId invoiceId sessionId))
    let ledger := Payday.bindPayerWallet S.ledger dbNow (now / 1000000) invoiceId wallet binding
    return ({ S with
      ledger := ledger
      attempts := attempts
      sessions := writeChallenge S sessionId none },
      .bound ((ledger.invoices.find? invoiceId).getD row))

end Payday.Verification
