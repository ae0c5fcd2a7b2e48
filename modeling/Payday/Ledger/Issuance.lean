/-
# Issuance under an idempotency key

`InvoiceRepository::insert_issued` and the statements of `AttachmentRepository`, as calls that run
side by side.  A call is one transaction of several statements, each of which reads what is
committed when it runs; what the call has written is seen by no other call until it commits, but
holds them back: an insert under the same key waits for it, and so does whoever wants the
attachment it has locked.  A call that fails is rolled back.

Of a request only the columns that issuance fixes are kept.  They never change
(`reject_invoice_issuance_mutation`), so the other writers of `invoices` are left out.  A JSON column
gives back its value through `jsonb`, which is a parameter.
-/
import Payday.Lib.Table
import Payday.Proofs.Documents

namespace Payday.Issuance

open Proofs

abbrev AccountId := ℕ
abbrev AttachmentId := ℕ
abbrev CallId := ℕ

/-! ### Attachments -/

inductive AttachmentStatus
  | pendingUpload
  | scanning
  | ready
  | rejected
  | attached
deriving DecidableEq, Repr

/-- A row of `invoice_attachments`. -/
structure DbAttachment where
  id : AttachmentId
  accountId : AccountId
  invoiceId : Option InvoiceId
  byteLength : Option ℕ
  sha256 : Option Hash
  status : AttachmentStatus
  scanResult : Option String
deriving DecidableEq

namespace DbAttachment

/-- The commitment a request hashes over; none until finalized. -/
def commitment (doc : DbAttachment) : Option AttachmentCommitment :=
  doc.byteLength.bind fun byteLength => doc.sha256.map fun sha256 =>
    ⟨doc.id, byteLength.repr, fixedText 32 sha256⟩

/-- An upload that is not finalized. -/
def isUnfinalized (doc : DbAttachment) : Bool :=
  doc.status = .pendingUpload || doc.status = .scanning

def attach (invoice : InvoiceId) (doc : DbAttachment) : DbAttachment :=
  { doc with invoiceId := some invoice, status := .attached }

end DbAttachment

/-- The clean verdict of the scanner. -/
def clean : String := "NO_THREATS_FOUND"

def maxByteLength : ℕ := 5242880

/-- The `scan_result` of an upload that expired from the bucket. -/
def expiredUpload : String := "expired"

/-! ### Requests -/

/-- The input of an issuance. -/
structure CreateInvoiceInput (Json : Type) where
  id : InvoiceId
  accountId : AccountId
  idempotencyKey : String
  customerId : Option ℕ
  issuerId : Option String
  issuer : Party
  billTo : Party
  notes : Option String
  heading : Option String
  reference : Option String
  metadata : Json
  payerVerification : PayerVerification
  currency : String
  tokenDecimals : UInt8
  beneficiaryAddress : Address
  expirationTimestamp : ℕ
  expiresInSecs : ℕ
  expirationIntent : String
  /-- The amount, a `U256`; the column holds its decimal text. -/
  amount : ℕ
  amount_lt : amount < 2 ^ 256
  issuanceSnapshot : CanonicalIssuanceSnapshot
  attributionVersion : ℕ
  attributionHash : Hash
  issuanceNonce : Hash
  recoveryAddress : Address
  initialBinding : Option Binding
  payerNotificationEmail : Option String

/-- A row of `invoices`, as it was issued. -/
structure DbInvoice (Json : Type) where
  id : InvoiceId
  accountId : AccountId
  idempotencyKey : String
  customerId : Option ℕ
  issuerId : Option String
  issuer : Option Party
  billTo : Option Party
  notes : Option String
  heading : Option String
  reference : Option String
  metadata : Json
  expectedEmail : Option String
  payerReference : Option String
  walletAttestationRequired : Bool
  currency : String
  tokenDecimals : ℕ
  beneficiaryAddress : Address
  recoveryAddress : Address
  expirationTimestamp : ℕ
  expiresInSecs : ℕ
  expirationIntent : String
  amount : String
  issuanceSnapshot : CanonicalIssuanceSnapshot
  attributionVersion : ℕ
  attributionHash : Hash
  issuanceNonce : Hash
  initialBinding : Option Binding
deriving DecidableEq

/-- The columns of `invoices_account_id_idempotency_key_unique`. -/
abbrev Key := AccountId × String

def DbInvoice.key {Json : Type} (row : DbInvoice Json) : Key := (row.accountId, row.idempotencyKey)

/-- The merchant-controlled fields of an issuance. -/
structure IssuanceRequest (Json : Type) where
  networks : List SnapshotNetwork
  currency : String
  tokenDecimals : UInt8
  beneficiary : Address
  amount : ℕ
  expirationIntent : String
  issuer : Party
  billTo : Party
  notes : Option String
  heading : Option String
  reference : Option String
  metadata : Json
  customerId : Option ℕ
  issuerId : Option String
  payerVerification : PayerVerification
  attachmentId : Option AttachmentId
  attachment : Option AttachmentCommitment

section

variable {Json : Type} [DecidableEq Json]

/-- Whether the row was issued from the same request. -/
def sameIssuance (existing : DbInvoice Json) (request : IssuanceRequest Json) : Bool :=
  decide (existing.issuanceSnapshot.networks = request.networks) &&
  decide (existing.currency = request.currency) &&
  decide (existing.tokenDecimals = request.tokenDecimals.toNat) &&
  decide (existing.beneficiaryAddress = request.beneficiary) &&
  decide (existing.expirationIntent = request.expirationIntent) &&
  (parseDigits (2 ^ 256) existing.amount).any (fun amount => amount = request.amount) &&
  decide (existing.reference = request.reference) &&
  decide (existing.metadata = request.metadata) &&
  decide (existing.customerId = request.customerId) &&
  decide (existing.issuerId = request.issuerId) &&
  decide (existing.issuer = some request.issuer) &&
  decide (existing.billTo = some request.billTo) &&
  decide (existing.notes = request.notes) &&
  decide (existing.heading = request.heading) &&
  decide (existing.walletAttestationRequired = request.payerVerification.walletAttestation) &&
  decide (existing.expectedEmail = request.payerVerification.email) &&
  decide (existing.payerReference = request.payerVerification.merchantAuth) &&
  decide (existing.issuanceSnapshot.attachment.map (·.id) = request.attachmentId) &&
  decide (existing.issuanceSnapshot.attachment = request.attachment)

end

namespace CreateInvoiceInput

variable {Json : Type} (jsonb : Json → Json) (input : CreateInvoiceInput Json)

def key : Key := (input.accountId, input.idempotencyKey)

/-- The row the input is issued as. -/
def row : DbInvoice Json where
  id := input.id
  accountId := input.accountId
  idempotencyKey := input.idempotencyKey
  customerId := input.customerId
  issuerId := input.issuerId
  issuer := some input.issuer
  billTo := some input.billTo
  notes := input.notes
  heading := input.heading
  reference := input.reference
  metadata := jsonb input.metadata
  expectedEmail := input.payerVerification.email
  payerReference := input.payerVerification.merchantAuth
  walletAttestationRequired := input.payerVerification.walletAttestation
  currency := input.currency
  tokenDecimals := input.tokenDecimals.toNat
  beneficiaryAddress := input.beneficiaryAddress
  recoveryAddress := input.recoveryAddress
  expirationTimestamp := input.expirationTimestamp
  expiresInSecs := input.expiresInSecs
  expirationIntent := input.expirationIntent
  amount := input.amount.repr
  issuanceSnapshot := input.issuanceSnapshot
  attributionVersion := input.attributionVersion
  attributionHash := input.attributionHash
  issuanceNonce := input.issuanceNonce
  initialBinding := input.initialBinding

/-- `CreateInvoiceInput::same_issuance`: the row against the input and the document of the row. -/
def sameIssuance [DecidableEq Json] (existing : DbInvoice Json)
    (existingAttachment : Option DbAttachment) (attachmentId : Option AttachmentId) : Bool :=
  Issuance.sameIssuance existing
    { networks := input.issuanceSnapshot.networks
      currency := input.currency
      tokenDecimals := input.tokenDecimals
      beneficiary := input.beneficiaryAddress
      amount := (parseDigits (2 ^ 256) input.amount.repr).getD 0
      expirationIntent := input.expirationIntent
      issuer := input.issuer
      billTo := input.billTo
      notes := input.notes
      heading := input.heading
      reference := input.reference
      metadata := input.metadata
      customerId := input.customerId
      issuerId := input.issuerId
      payerVerification := input.payerVerification
      attachmentId := attachmentId
      attachment := existingAttachment.bind DbAttachment.commitment }

end CreateInvoiceInput

/-! ### Calls -/

/-- The arguments of `insert_issued`. -/
structure Call (Json : Type) where
  input : CreateInvoiceInput Json
  attachmentId : Option AttachmentId

inductive InsertIssuedInvoiceError
  | idempotencyConflict
  | attachmentNotReady
  | attachmentNotFound
  | attachmentAlreadyAttached
  | database
deriving DecidableEq, Repr

structure InsertIssuedInvoice (Json : Type) where
  row : DbInvoice Json
  attachment : Option DbAttachment
  replayed : Bool

/-- A row of `notification_outbox`: the payer's copy of a request. -/
structure Notification where
  accountId : AccountId
  invoiceId : InvoiceId
  email : String
deriving DecidableEq, Repr

/-- The statement that a call runs next, with what it has written. -/
inductive Phase (Json : Type)
  | selecting
  | inserting
  | reselecting
  | replaying (existing : DbInvoice Json)
  | attaching (row : DbInvoice Json)
  /-- The attachment is locked and ready. -/
  | binding (row : DbInvoice Json) (locked : DbAttachment)
  | notifying (row : DbInvoice Json) (attachment : Option DbAttachment)
  | committing (row : DbInvoice Json) (attachment : Option DbAttachment)
      (notification : Option Notification)
  | done (result : Except InsertIssuedInvoiceError (InsertIssuedInvoice Json))

namespace Phase

variable {Json : Type}

/-- The request that the call has inserted and not committed. -/
def open? : Phase Json → Option (DbInvoice Json)
  | .attaching row | .binding row _ | .notifying row _ | .committing row _ _ => some row
  | _ => none

/-- The attachment that the call has locked. -/
def lock? : Phase Json → Option AttachmentId
  | .binding _ locked => some locked.id
  | .notifying _ attachment | .committing _ attachment _ => attachment.map (·.id)
  | _ => none

end Phase

structure Process (Json : Type) where
  call : Call Json
  phase : Phase Json

/-- The tables, as they are committed. -/
structure Tables (Json : Type) where
  requests : List (DbInvoice Json)
  attachments : Table DbAttachment.id
  outbox : List Notification

structure State (Json : Type) where
  tables : Tables Json
  processes : List (Process Json)

namespace Tables

variable {Json : Type} (T : Tables Json)

/-- `lock_by_idempotency_key`. -/
def findByKey (key : Key) : Option (DbInvoice Json) := T.requests.find? (fun row => row.key = key)

/-- `find_by_invoice_with`. -/
def findByInvoice (invoice : InvoiceId) : Option DbAttachment :=
  T.attachments.rows.find? (fun doc => doc.invoiceId = some invoice)

/-- An attachment of the account. -/
def findAttachment (account : AccountId) (id : AttachmentId) : Option DbAttachment :=
  (T.attachments.find? id).filter (fun doc => doc.accountId = account)

/-- `replay`: a request resolved against the row that was issued under its key. -/
def replay [DecidableEq Json] (call : Call Json) (existing : DbInvoice Json) :
    Except InsertIssuedInvoiceError (InsertIssuedInvoice Json) :=
  if call.input.sameIssuance existing (T.findByInvoice existing.id) call.attachmentId then
    .ok ⟨existing, T.findByInvoice existing.id, true⟩
  else .error .idempotencyConflict

/-- The commit of a call. -/
def commit (row : DbInvoice Json) (attachment : Option DbAttachment)
    (notification : Option Notification) : Tables Json where
  requests := T.requests ++ [row]
  attachments := T.attachments.updateWhere
    (fun doc => decide (some doc.id = attachment.map (·.id))) (DbAttachment.attach row.id)
    (fun _ => rfl)
  outbox := T.outbox ++ notification.toList

end Tables

namespace State

variable {Json : Type} (s : State Json)

def process? (i : CallId) : Option (Process Json) := s.processes[i]?

/-- Whether a call other than `i` has an uncommitted request like that. -/
def heldByOther (i : CallId) (p : DbInvoice Json → Bool) : Bool :=
  (List.range s.processes.length).any fun j =>
    decide (j ≠ i) && ((s.process? j).bind (·.phase.open?)).any p

/-- Whether a call has locked the attachment. -/
def isLocked (id : AttachmentId) : Bool :=
  s.processes.any fun process => process.phase.lock? = some id

variable (jsonb : Json → Json)

/-- The next statement of a call; none while it waits for another call. -/
def advancePhase [DecidableEq Json] (i : CallId) (call : Call Json) :
    Phase Json → Option (Phase Json)
  | .selecting => some (match s.tables.findByKey call.input.key with
    | some existing => .replaying existing
    | none => .inserting)
  | .inserting =>
    if s.heldByOther i (fun row => row.key = call.input.key) then none
    else if (s.tables.findByKey call.input.key).isSome then some .reselecting
    else if s.heldByOther i (fun row => row.id = call.input.id) then none
    else if s.tables.requests.any (fun row => row.id = call.input.id) then
      some (.done (.error .database))
    else some (.attaching (call.input.row jsonb))
  | .reselecting => some (match s.tables.findByKey call.input.key with
    | some existing => .replaying existing
    | none => .done (.error .database))
  | .replaying existing => some (.done (s.tables.replay call existing))
  | .attaching row => match call.attachmentId with
    | none => some (.notifying row none)
    | some id => match s.tables.findAttachment call.input.accountId id with
      | none => some (.done (.error .attachmentNotFound))
      | some doc =>
        if s.isLocked id then none
        else some (match doc.status with
          | .ready => .binding row doc
          | .attached => .done (.error .attachmentAlreadyAttached)
          | _ => .done (.error .attachmentNotReady))
  | .binding row locked =>
    some (match (s.tables.findAttachment call.input.accountId locked.id).filter
        (fun doc => doc.status = .ready) with
      | some doc => .notifying row (some (doc.attach row.id))
      | none => .done (.error .attachmentNotReady))
  | .notifying row attachment => some (.committing row attachment
      (call.input.payerNotificationEmail.map fun email => ⟨call.input.accountId, row.id, email⟩))
  | .committing row attachment _ => some (.done (.ok ⟨row, attachment, false⟩))
  | .done _ => none

/-- What the next statement of a call leaves in the tables: only the commit is seen. -/
def advanceTables : Phase Json → Tables Json
  | .committing row attachment notification => s.tables.commit row attachment notification
  | _ => s.tables

/-- One statement of a call. -/
def advance [DecidableEq Json] (i : CallId) : Option (State Json) :=
  (s.process? i).bind fun process =>
    (s.advancePhase jsonb i process.call process.phase).map fun phase =>
      ⟨s.advanceTables process.phase, s.processes.set i ⟨process.call, phase⟩⟩

/-- A statement or the commit is refused, or the connection is lost before it: the call fails, and
nothing of it is kept. -/
def fail (i : CallId) : Option (State Json) :=
  (s.process? i).bind fun process => match process.phase with
    | .done _ => none
    | _ => some ⟨s.tables, s.processes.set i ⟨process.call, .done (.error .database)⟩⟩

/-- A statement on one attachment of the account; it waits for the lock on it. -/
def updateAttachment (account : AccountId) (id : AttachmentId) (p : DbAttachment → Bool)
    (f : DbAttachment → DbAttachment) (hf : ∀ doc, (f doc).id = doc.id := by intro _; rfl) :
    State Json :=
  if s.isLocked id then s
  else { s with tables := { s.tables with
    attachments := s.tables.attachments.updateWhere
      (fun doc => decide (doc.id = id) && decide (doc.accountId = account) && p doc) f hf } }

end State

/-! ### Runs -/

/-- What can happen. -/
inductive Event (Json : Type)
  | start (call : Call Json)
  | advance (i : CallId)
  | fail (i : CallId)
  | createUpload (account : AccountId) (id : AttachmentId)
  | markReady (account : AccountId) (id : AttachmentId) (byteLength : ℕ) (sha256 : Hash)
      (scanResult : String)
  | markExpired (account : AccountId) (id : AttachmentId)
  | markRejected (account : AccountId) (id : AttachmentId) (scanResult : String)

namespace State

variable {Json : Type}

def empty : State Json := ⟨⟨[], Table.empty, []⟩, []⟩

variable [DecidableEq Json] (jsonb : Json → Json) (s : State Json)

/-- One event; a statement that waits, or that a constraint refuses, changes nothing. -/
def step : Event Json → State Json
  | .start call => { s with processes := s.processes ++ [⟨call, .selecting⟩] }
  | .advance i => (s.advance jsonb i).getD s
  | .fail i => (s.fail i).getD s
  | .createUpload account id => { s with tables := { s.tables with
      attachments := s.tables.attachments.insertNew
        ⟨id, account, none, none, none, .pendingUpload, none⟩ } }
  | .markReady account id byteLength sha256 scanResult =>
    if scanResult = clean ∧ 1 ≤ byteLength ∧ byteLength ≤ maxByteLength then
      s.updateAttachment account id DbAttachment.isUnfinalized
        (fun doc => { doc with
          byteLength := some byteLength, sha256 := some sha256, scanResult := some scanResult
          status := .ready })
    else s
  | .markExpired account id =>
    s.updateAttachment account id (fun doc => doc.status = .ready)
      (fun doc => { doc with scanResult := some expiredUpload, status := .rejected })
  | .markRejected account id scanResult =>
    s.updateAttachment account id DbAttachment.isUnfinalized
      (fun doc => { doc with scanResult := some scanResult, status := .rejected })

def run (events : List (Event Json)) : State Json := events.foldl (step jsonb) empty

end State

end Payday.Issuance
