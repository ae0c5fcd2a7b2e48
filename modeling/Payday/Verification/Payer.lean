/-
# The payer API

The handlers of `gum-server/src/api/payer_verification.rs` and `payer_wallet.rs`, and the reads beside
them, as functions of the store.  A call names a request and may carry a session's token; it is served
as a whole, at one moment.  What the handlers take from elsewhere is in two structures: `Gateway` has
what a request's document fixes (its networks and the bindings derived from it) and the text rules of
the standard library, `Moment` the clocks, the drawn identifiers and the email provider's answers.
-/
import Payday.Verification.Sessions

namespace Payday.Verification

open Proofs (PayerVerification)

inductive ApiError
  | payerUnauthorized
  | payerSessionInvalid
  | invalidRequest (message : String)
  | verificationUnavailable
  | verificationNotRequired
  | verificationMethodNotApplicable (message : String)
  | verificationRequired
  | verificationNotStarted
  | otpInvalid
  | otpResendCooldown (seconds : ℕ)
  | depositRequestNotPayable
  | depositRequestNotFound
  | unsupportedChain
  | networkAlreadyChosen
  | walletAttestationRequired
  | walletAttestationNotRequired
  | walletAlreadyBound (wallet : Option Address)
  | walletChallengeRequired
  | walletSignatureInvalid
  | provider (message : String)
  | database (error : DatabaseError)
  | internal (message : String)
deriving DecidableEq, Repr

/-- What a request's document and the standard library contribute. -/
structure Gateway extends Outside where
  /-- The networks a request may be paid on. -/
  networks : InvoiceId → List ChainId
  /-- `Invoice::bind_network`: the binding derived for the chosen network. -/
  networkBinding : InvoiceId → ChainId → Time → Except ApiError Binding
  /-- The attestation rebuilt from the challenge and checked against the signature, with the binding
  derived from it (`payer_wallet_attestation`, `Invoice::bind_payer_wallet`). -/
  walletBinding : InvoiceId → Address → WalletChallenge → List UInt8 → Time → Except ApiError Binding
  /-- `str::trim`, `char::is_alphanumeric` and `str::to_lowercase`. -/
  trim : String → String
  isAlphanumeric : Char → Bool
  toLowercase : String → String

/-- What a continuation token vouches for. -/
structure EmailContinuation where
  sessionId : SessionId
  invoiceId : InvoiceId
  payerRef : Hash
  /-- In seconds. -/
  verifiedAt : ℕ
  eventId : String
deriving DecidableEq, Repr

/-- The email provider, as it answers during one call. -/
structure EmailProvider where
  sendCode : String → Except ApiError Unit
  /-- The event of the authentication that the code proves. -/
  confirmCode : String → String → Except ApiError String
  payerRef : AccountId → String → Hash
  verifyContinuation : String → Option EmailContinuation

/-- The clocks of one call, the identifiers it draws and the provider, when the deployment has one. -/
structure Moment where
  now : Time
  dbNow : Time
  sessionId : SessionId
  token : String
  attemptId : AttemptId
  nonce : Hash
  provider : Option EmailProvider

/-- `PAYER_SESSION_TTL`, in microseconds. -/
def payerSessionTtl : ℕ := 24 * 3600 * 1000000

/-- `RESEND_COOLDOWN`. -/
def resendCooldown : ℕ := 60 * 1000000

/-- `WALLET_CHALLENGE_TTL`. -/
def walletChallengeTtl : ℕ := 10 * 60 * 1000000

def maxOtpLen : ℕ := 16

/-! ### Requirements -/

inductive VerificationFactStatus
  | notRequired
  | pending
  | approved
deriving DecidableEq, Repr

structure VerificationRequirements where
  email : VerificationFactStatus
  wallet : VerificationFactStatus
  merchantSession : VerificationFactStatus
  complete : Bool
deriving DecidableEq, Repr

def factStatus (needed established : Bool) : VerificationFactStatus :=
  match needed, established with
  | false, _ => .notRequired
  | true, true => .approved
  | true, false => .pending

/-- `from_facts`. -/
def requirementsFromFacts (verification : PayerVerification) (facts : VerificationFacts) :
    VerificationRequirements where
  email := factStatus verification.email.isSome facts.email
  wallet := factStatus verification.walletAttestation facts.wallet
  merchantSession := factStatus verification.merchantAuth.isSome facts.merchantSession
  complete := facts.satisfy verification

/-- `for_verification`. -/
def requirementsForVerification (verification : PayerVerification) (completed walletBound : Bool) :
    VerificationRequirements :=
  requirementsFromFacts verification ⟨completed, walletBound, completed⟩

/-- What a session has established of a request. -/
def statusResponse (row : Invoice) (session : PayerSession) : VerificationRequirements :=
  requirementsFromFacts row.payerVerification { session.facts with wallet := row.binding.isSome }

/-- What one payer may see of a request. -/
structure PayerInvoiceAccess where
  invoice : Invoice
  requirements : VerificationRequirements
  contentUnlocked : Bool
  relayIntent : Option RelayIntent
deriving DecidableEq

inductive Response
  | started (token : String) (expiresAt : Time)
  | requirements (requirements : VerificationRequirements)
  /-- The proof was accepted and could not be saved. -/
  | unsaved (continuation : EmailContinuation)
  | challenge (token : String) (challenge : WalletChallenge) (wallet : Address)
  | access (access : PayerInvoiceAccess)
deriving DecidableEq

abbrev Answer := Except ApiError Response

variable (G : Gateway) (M : Moment) (S : Store)

/-- The session a call's token opens for the request. -/
def activeSession (id : InvoiceId) (token : Option String) : Option (PayerSession × String) :=
  token.bind fun token => (findActive G.toOutside S M.dbNow token id).map fun session => (session, token)

/-- The key of `latest_for_invoice`: an attempt that was sent or filled comes before newer quotes that
were not used. -/
def attemptKey (intent : RelayIntent) : Bool ×ₗ Bool ×ₗ Time ×ₗ IntentId :=
  toLex (decide (intent.status = .sent),
    toLex (intent.sentAt.isSome || decide (intent.status = .filled),
      toLex ((intent.sentAt.or intent.resolvedAt).getD intent.createdAt, intent.id)))

/-- `latest_for_invoice`: the intent the page follows. -/
def latestForInvoice (id : InvoiceId) : Option RelayIntent :=
  (S.ledger.relayIntents.rows.filter fun intent => decide (intent.invoiceId = id)).foldl
    (fun latest intent => match latest with
      | none => some intent
      | some other => if attemptKey other ≤ attemptKey intent then some intent else some other) none

/-- `authorized_invoice`: an unknown or expired session is simply no session. -/
def authorizedInvoice (id : InvoiceId) (token : Option String) : Except ApiError PayerInvoiceAccess := do
  let row ← orError .payerUnauthorized (S.ledger.invoices.find? id)
  let verification := row.payerVerification
  let session := if verification.isGated then (activeSession G M S id token).map (·.1) else none
  let unlocked := !verification.isGated || session.any fun session => session.satisfies verification
  return ⟨row, match session with
    | some session => statusResponse row session
    | none => requirementsForVerification verification false row.binding.isSome, unlocked,
    if unlocked && row.binding.isSome then latestForInvoice S id else none⟩

/-! ### The mailbox -/

/-- `gated_invoice`: the request asks for a mailbox and is open to verification, or was verified and
may mint a receipt. -/
def gatedInvoice (id : InvoiceId) : Except ApiError Invoice := do
  let row ← orError .payerUnauthorized (S.ledger.invoices.find? id)
  require (row.expectedEmail.isSome ∨ row.payerReference.isNone) (.verificationMethodNotApplicable
    "This deposit request is opened by the issuer's application; it does not send email codes")
  require row.expectedEmail.isSome .verificationNotRequired
  require (if row.status.isOpen then M.now / 1000000 ≤ row.expirationTimestamp
    else row.verificationCompletedAt.isSome) .depositRequestNotPayable
  return row

/-- The address the code goes to. -/
def expectedEmail (row : Invoice) : String := G.toLowercase (G.trim (row.expectedEmail.getD ""))

/-- Undo what `start_email` has done for a session: one it has created is deleted. -/
def undoStart (sessionId : SessionId) (created : Bool) (otherwise : Store) : Store :=
  if created then delete S sessionId else otherwise

/-- Record the attempt and send its code. -/
def sendCode (provider : EmailProvider) (row : Invoice) (sessionId : SessionId) (token : String)
    (expiresAt : Time) (created : Bool) : Store × Answer :=
  match beginEmailVerification G.toOutside S M.now M.dbNow M.attemptId sessionId resendCooldown with
  | .error (.cooldown retryAfter) =>
    (undoStart S sessionId created S, .error (.otpResendCooldown (max (retryAfter / 1000000) 1)))
  | .error (.database error) => (undoStart S sessionId created S, .error (.database error))
  | .ok (S₁, _) =>
    match provider.sendCode (expectedEmail G row) with
    | .error error =>
      (undoStart S₁ sessionId created (abandonEmailVerification S₁ sessionId), .error error)
    | .ok () => (S₁, .ok (.started token expiresAt))

/-- `start_email`: a resend reuses the caller's session when it is valid for this request; anything
else starts a fresh one. -/
def startEmail (id : InvoiceId) (token : Option String) : Store × Answer :=
  match M.provider with
  | none => (S, .error .verificationUnavailable)
  | some provider =>
    match gatedInvoice M S id with
    | .error error => (S, .error error)
    | .ok row =>
      match activeSession G M S id token with
      | some (session, token) => sendCode G M S provider row session.id token session.expiresAt false
      | none =>
        match create G.toOutside S M.dbNow M.sessionId M.token id payerSessionTtl with
        | .error error => (S, .error (.database error))
        | .ok (S₁, created) => sendCode G M S₁ provider row created.id created.token created.expiresAt true

/-- What a proof of the mailbox is saved as. -/
structure EmailProof where
  payerRef : Hash
  verifiedAt : Time
  eventId : String
deriving DecidableEq, Repr

/-- The proof a call brings: a code that the provider confirms, or an earlier proof's continuation. -/
def emailProof (provider : EmailProvider) (row : Invoice) (session : PayerSession)
    (otp continuation : Option String) : Except ApiError EmailProof :=
  match otp with
  | some otp => do
    require (hasPendingEmailVerification S session.id = true) .verificationNotStarted
    let eventId ← provider.confirmCode (expectedEmail G row) otp
    return ⟨provider.payerRef (G.accountOf row.id) (expectedEmail G row), M.now, eventId⟩
  | none => do
    let claims ← orError .otpInvalid ((continuation.bind provider.verifyContinuation).filter fun claims =>
      decide (claims.sessionId = session.id ∧ claims.invoiceId = row.id))
    return ⟨claims.payerRef, claims.verifiedAt * 1000000, claims.eventId⟩

/-- `confirm_email`.  A failed approval is tried again on the same tables, so one approval stands for
the three. -/
def confirmEmail (id : InvoiceId) (token : Option String) (otp continuation : Option String) :
    Store × Answer :=
  match (do
    let provider ← orError .verificationUnavailable M.provider
    require (otp.isSome ≠ continuation.isSome)
      (.invalidRequest "provide exactly one of otp or continuation")
    let otp := otp.map G.trim
    require (otp.all fun otp => !otp.isEmpty && decide (otp.utf8ByteSize ≤ maxOtpLen) &&
      otp.toList.all G.isAlphanumeric) (.invalidRequest "otp must be the code from the verification email")
    let row ← gatedInvoice M S id
    let (session, _) ← orError .payerSessionInvalid (activeSession G M S id token)
    let proof ← emailProof G M S provider row session otp continuation
    return (row, session, proof) : Except ApiError (Invoice × PayerSession × EmailProof)) with
  | .error error => (S, .error error)
  | .ok (row, session, proof) =>
    match approveEmail S S.attempts.rows M.dbNow session.id proof.payerRef proof.verifiedAt proof.eventId with
    | .ok (S₁, completion) => (S₁, .ok (.requirements (statusResponse row completion.session)))
    | .error _ => (S, .ok (.unsaved ⟨session.id, row.id, proof.payerRef, proof.verifiedAt / 1000000,
        proof.eventId⟩))

/-- `status`: what the caller's session has established. -/
def status (id : InvoiceId) (token : Option String) : Answer := do
  let row ← orError .payerUnauthorized (S.ledger.invoices.find? id)
  match token with
  | none => return .requirements (requirementsForVerification row.payerVerification false row.binding.isSome)
  | some token => do
    let session ← orError .payerSessionInvalid (findActive G.toOutside S M.dbNow token id)
    return .requirements (statusResponse row session)

/-! ### The network and the wallet -/

/-- `open_invoice`: the request can still take a binding. -/
def openInvoice (id : InvoiceId) : Except ApiError Invoice := do
  let row ← orError .payerUnauthorized (S.ledger.invoices.find? id)
  require (row.status = .created ∧ M.now / 1000000 ≤ row.expirationTimestamp) .depositRequestNotPayable
  return row

/-- `parse_chain`: the chain the call names, if the request may be paid there. -/
def parseChain (id : InvoiceId) (chainId : Option ChainId) : Except ApiError ChainId := do
  let chainId ← orError (.invalidRequest "chain_id must be a decimal chain id string") chainId
  require (chainId ∈ G.networks id) .unsupportedChain
  return chainId

/-- `parse_wallet`. -/
def parseWallet (wallet : Option Address) : Except ApiError Address := do
  let wallet ← orError (.invalidRequest "wallet must be a 20-byte EVM address") wallet
  require (wallet ≠ 0) (.invalidRequest "wallet must not be the zero address")
  return wallet

/-- `InvoiceRepository::bind_network`. -/
def bindNetwork (id : InvoiceId) (binding : Binding) : Except ApiError (Store × BindPayerWallet) := do
  let row ← orError (.database .rowNotFound) (S.ledger.invoices.find? id)
  if networkBindable row then
    require (S.ledger.addressTaken binding = false) (.database .uniqueViolation)
    return ({ S with ledger := Payday.bindNetwork S.ledger M.dbNow id binding }, .bound row)
  else if row.binding.isSome then return (S, .alreadyBound row)
  else return (S, .notBindable row)

/-- The session may drive the binding of a gated request: it satisfies the add-ons and is no
preview. -/
def checkBindingSession (row : Invoice) (token : Option String) : Except ApiError Unit :=
  if row.payerVerification.isGated then do
    let (session, _) ← orError .payerSessionInvalid (activeSession G M S row.id token)
    require (session.isMerchantPreview = false) .payerSessionInvalid
    require (session.satisfies row.payerVerification = true) .verificationRequired
  else return ()

/-- What `select_network` decides before it writes: the binding of the request, or that the chosen
network is already its own. -/
def networkChoice (id : InvoiceId) (token : Option String) (chainId : Option ChainId) :
    Except ApiError (ChainId × Option Binding) := do
  let row ← openInvoice M S id
  require (row.walletAttestationRequired = false) .walletAttestationRequired
  let chain ← parseChain G id chainId
  checkBindingSession G M S row token
  match row.binding with
  | some binding => do
    require (binding.chainId = chain) .networkAlreadyChosen
    return (chain, none)
  | none => do
    let binding ← G.networkBinding id chain M.now
    return (chain, some binding)

/-- `select_network`: bind the request to the chosen network; choosing it again changes nothing. -/
def selectNetwork (id : InvoiceId) (token : Option String) (chainId : Option ChainId) : Store × Answer :=
  match networkChoice G M S id token chainId with
  | .error error => (S, .error error)
  | .ok (_, none) => (S, (authorizedInvoice G M S id token).map .access)
  | .ok (chain, some binding) =>
    match bindNetwork M S id binding with
    | .error error => (S, .error error)
    | .ok (_, .notBindable _) => (S, .error .depositRequestNotPayable)
    | .ok (S₁, .alreadyBound row) =>
      if row.binding.map (·.chainId) = some chain then (S₁, (authorizedInvoice G M S₁ id token).map .access)
      else (S₁, .error .networkAlreadyChosen)
    | .ok (S₁, .bound _) => (S₁, (authorizedInvoice G M S₁ id token).map .access)

/-- The checks of `challenge` on the request: the chosen chain. -/
def challengeChain (id : InvoiceId) (chainId : Option ChainId) : Except ApiError (Invoice × ChainId) := do
  let row ← openInvoice M S id
  require (row.walletAttestationRequired = true) .walletAttestationNotRequired
  require (row.binding = none) (.walletAlreadyBound (row.binding.bind (·.payerWallet)))
  let chain ← parseChain G id chainId
  return (row, chain)

/-- The session of a wallet challenge: the caller's, or a fresh one for a request without an identity
add-on. -/
def challengeSession (row : Invoice) (token : Option String) :
    Except ApiError (Store × PayerSession × String) :=
  match token with
  | some token => do
    let session ← orError .payerSessionInvalid (findActive G.toOutside S M.dbNow token row.id)
    return (S, session, token)
  | none => do
    require (row.payerVerification.isGated = false) .payerSessionInvalid
    let (S₁, created) ← (create G.toOutside S M.dbNow M.sessionId M.token row.id payerSessionTtl).mapError
      .database
    let session ← orError (.internal "fresh payer session not found")
      (findActive G.toOutside S₁ M.dbNow created.token row.id)
    return (S₁, session, created.token)

/-- `challenge`: issue the nonce the payer's wallet has to sign. -/
def challenge (id : InvoiceId) (token : Option String) (wallet : Option Address)
    (chainId : Option ChainId) : Store × Answer :=
  match (do
    let wallet ← parseWallet wallet
    let (row, chain) ← challengeChain G M S id chainId
    let (S₁, session, token) ← challengeSession G M S row token
    return (wallet, row, chain, S₁, session, token) :
      Except ApiError (Address × Invoice × ChainId × Store × PayerSession × String)) with
  | .error error => (S, .error error)
  | .ok (wallet, row, chain, S₁, session, token) =>
    if row.payerVerification.isGated && !session.satisfies row.payerVerification then
      (S₁, .error .verificationRequired)
    else match issueWalletChallenge S₁ M.dbNow M.nonce session.id chain walletChallengeTtl with
      | .error error => (S₁, .error (.database error))
      | .ok (S₂, challenge) => (S₂, .ok (.challenge token challenge wallet))

/-- What `attest` decides before it writes: the session and the binding its signature derives. -/
def attestation (id : InvoiceId) (token : Option String) (wallet : Option Address)
    (signature : Option (List UInt8)) : Except ApiError (Address × PayerSession × Binding) := do
  let wallet ← parseWallet wallet
  let signature ← orError .walletSignatureInvalid signature
  let row ← openInvoice M S id
  let (session, _) ← orError .payerSessionInvalid (activeSession G M S id token)
  require (row.payerVerification.isGated = false ∨ session.satisfies row.payerVerification = true)
    .verificationRequired
  let challenge ← orError .walletChallengeRequired (session.walletChallenge M.now)
  require (challenge.chainId ∈ G.networks id) .unsupportedChain
  let binding ← G.walletBinding id wallet challenge signature M.now
  return (wallet, session, binding)

/-- `attest`: bind the wallet whose signature of the challenge the call brings. -/
def attest (id : InvoiceId) (token : Option String) (wallet : Option Address)
    (signature : Option (List UInt8)) : Store × Answer :=
  match attestation G M S id token wallet signature with
  | .error error => (S, .error error)
  | .ok (wallet, session, binding) =>
    match bindPayerWallet G.toOutside S M.now M.dbNow M.attemptId id session.id wallet binding with
    | .error error => (S, .error (.database error))
    | .ok (_, .notBindable _) => (S, .error .depositRequestNotPayable)
    | .ok (S₁, .alreadyBound row) =>
      if row.binding.bind (·.payerWallet) = some wallet then
        (S₁, (authorizedInvoice G M S₁ id token).map .access)
      else (S₁, .error (.walletAlreadyBound (row.binding.bind (·.payerWallet))))
    | .ok (S₁, .bound _) => (S₁, (authorizedInvoice G M S₁ id token).map .access)

/-! ### Calls -/

/-- A call of the payer API; texts that do not parse are `none`. -/
inductive Call
  | startEmail
  | confirmEmail (otp continuation : Option String)
  | selectNetwork (chainId : Option ChainId)
  | challenge (wallet : Option Address) (chainId : Option ChainId)
  | attest (wallet : Option Address) (signature : Option (List UInt8))
  | status
  | get
deriving DecidableEq

/-- The request a call names, and the token it carries, if any. -/
structure PayerCall where
  id : InvoiceId
  token : Option String
  call : Call
deriving DecidableEq

/-- Serve one call: the store after it, and the answer. -/
def serve (request : PayerCall) : Store × Answer :=
  match request.call with
  | .startEmail => startEmail G M S request.id request.token
  | .confirmEmail otp continuation => confirmEmail G M S request.id request.token otp continuation
  | .selectNetwork chainId => selectNetwork G M S request.id request.token chainId
  | .challenge wallet chainId => challenge G M S request.id request.token wallet chainId
  | .attest wallet signature => attest G M S request.id request.token wallet signature
  | .status => (S, status G M S request.id request.token)
  | .get => (S, (authorizedInvoice G M S request.id request.token).map .access)

/-! ### The merchant's view -/

/-- The merchant's view of a request's verification. -/
structure VerificationDetail where
  verificationCompletedAt : Option Time
  likelyUnsolicitedAt : Option ℕ
  facts : VerificationRequirements
  attempts : List Attempt
deriving DecidableEq

/-- `merchant_detail`: each fact on its own, and every attempt made against the request. -/
def merchantDetail (accountId : AccountId) (id : InvoiceId) : Except ApiError VerificationDetail := do
  let row ← orError .depositRequestNotFound
    ((S.ledger.invoices.find? id).filter fun row => decide (G.accountOf row.id = accountId))
  let attempts := attemptsForInvoice S accountId id
  let approved (kind : Proofs.AttemptKind) : Bool :=
    attempts.any fun attempt => decide (attempt.kind = kind ∧ attempt.status = .approved)
  return ⟨row.verificationCompletedAt, row.likelyUnsolicitedAt,
    if row.verificationCompletedAt.isSome then
      requirementsForVerification row.payerVerification true row.binding.isSome
    else requirementsFromFacts row.payerVerification
      ⟨approved .email, row.binding.isSome, approved .merchantSession⟩,
    attempts⟩

end Payday.Verification
