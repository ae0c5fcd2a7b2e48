/-
# Finalizing and attaching uploads

The rows of `invoice_attachments` beside the bucket.  Finalization reads the current object's head,
then the tags and the bytes of the version that the head names, and records its decision; issuance
retags the object, reading its tags first, and binds the row; an issuance that fails puts the old tag
back.  Every request to the bucket and every statement on the table is a step of its own, so any
number of finalizations and issuances run between an upload, the scanner and the bucket's lifecycle
rule.  What was ever stored, and which versions the scanner cleared, is kept on the side.
-/
import Mathlib.Logic.Relation
import Payday.Attachments.Bucket

namespace Payday.Attachments

open Issuance (AccountId AttachmentId AttachmentStatus DbAttachment clean maxByteLength expiredUpload)
open Proofs (uuidText)

/-! ### The rows -/

/-- A row of `invoice_attachments`, with the columns that name the object. -/
structure Upload extends DbAttachment where
  objectKey : String
  /-- The bucket version the commitment was computed over. -/
  versionId : Option VersionId

/-- The primary key. -/
def Upload.key (row : Upload) : AttachmentId := row.id

/-- `AttachmentStore::object_key`. -/
def objectKey (account : AccountId) (id : AttachmentId) : String :=
  "uploads/" ++ uuidText account ++ "/" ++ uuidText id ++ ".pdf"

/-- `create_upload`.  `object_key` is unique. -/
def createUpload (uploads : Table Upload.key) (account : AccountId) (id : AttachmentId) :
    Option (Table Upload.key) :=
  if objectKey account id ∈ uploads.rows.map (·.objectKey) then none
  else uploads.insert?
    { id := id
      accountId := account
      invoiceId := none
      byteLength := none
      sha256 := none
      status := .pendingUpload
      scanResult := none
      objectKey := objectKey account id
      versionId := none }

/-- `get_for_account`. -/
def getForAccount (uploads : Table Upload.key) (account : AccountId) (id : AttachmentId) :
    Option Upload :=
  (uploads.find? id).filter fun row => decide (row.accountId = account)

/-- What finalization found in the bucket. -/
structure InspectedPdf where
  byteLength : ℕ
  sha256 : Hash
  versionId : VersionId
deriving DecidableEq, Repr

/-- The row of the account, while nothing has been decided. -/
def undecided (account : AccountId) (id : AttachmentId) (row : Upload) : Bool :=
  decide (row.accountId = account ∧ row.id = id) && row.isUnfinalized

def Upload.ready (row : Upload) (pdf : InspectedPdf) : Upload :=
  { row with
    byteLength := some pdf.byteLength
    sha256 := some pdf.sha256
    versionId := some pdf.versionId
    scanResult := some clean
    status := .ready }

def Upload.reject (row : Upload) (scanResult : String) : Upload :=
  { row with scanResult := some scanResult, status := .rejected }

def Upload.bind (row : Upload) (invoice : InvoiceId) : Upload :=
  { row with invoiceId := some invoice, status := .attached }

lemma Upload.key_ready (row : Upload) (pdf : InspectedPdf) : (row.ready pdf).key = row.key := rfl

lemma Upload.key_reject (row : Upload) (reason : String) : (row.reject reason).key = row.key := rfl

lemma Upload.key_bind (row : Upload) (invoice : InvoiceId) : (row.bind invoice).key = row.key := rfl

/-- `mark_ready`. -/
def markReady (uploads : Table Upload.key) (account : AccountId) (id : AttachmentId)
    (pdf : InspectedPdf) : Table Upload.key :=
  uploads.updateWhere (undecided account id) (Upload.ready · pdf) (fun row => row.key_ready pdf)

/-- `mark_rejected`. -/
def markRejected (uploads : Table Upload.key) (account : AccountId) (id : AttachmentId)
    (reason : String) : Table Upload.key :=
  uploads.updateWhere (undecided account id) (Upload.reject · reason)
    (fun row => row.key_reject reason)

/-- The row of the account, while it is ready. -/
def isReady (account : AccountId) (id : AttachmentId) (row : Upload) : Bool :=
  decide (row.accountId = account ∧ row.id = id ∧ row.status = .ready)

/-- `mark_expired`. -/
def markExpired (uploads : Table Upload.key) (account : AccountId) (id : AttachmentId) :
    Table Upload.key :=
  uploads.updateWhere (isReady account id) (Upload.reject · expiredUpload)
    (fun row => row.key_reject expiredUpload)

/-- `attach_in_transaction`, in the transaction that inserts the request. -/
def attachToInvoice (uploads : Table Upload.key) (account : AccountId) (id : AttachmentId)
    (invoice : InvoiceId) : Option (Table Upload.key) :=
  match getForAccount uploads account id with
  | some row =>
    if row.status = .ready then
      some (uploads.updateWhere (isReady account id) (Upload.bind · invoice)
        (fun row => row.key_bind invoice))
    else none
  | none => none

/-! ### The checks of `inspect_and_hash` -/

structure ObjectHead where
  contentType : Option String
  contentLength : Option ℕ
  versionId : VersionId
deriving DecidableEq, Repr

/-- `HeadObject` of a stored version. -/
def Version.head (version : Version) : ObjectHead :=
  ⟨version.contentType, some version.bytes.length, version.id⟩

inductive AttachmentError
  | notUploaded
  | scanPending
  | rejected (reason : String)
  | storage
deriving DecidableEq, Repr

/-- The characters that `trim` takes away: `White_Space`. -/
def isWhiteSpace (c : Char) : Bool :=
  let n := c.toNat
  (decide (9 ≤ n) && decide (n ≤ 13)) || [0x20, 0x85, 0xa0, 0x1680].contains n ||
    (decide (0x2000 ≤ n) && decide (n ≤ 0x200a)) || [0x2028, 0x2029, 0x202f, 0x205f, 0x3000].contains n

def asciiLower (c : Char) : Char :=
  if 'A' ≤ c ∧ c ≤ 'Z' then Char.ofNat (c.toNat + 32) else c

/-- The media type without parameters, lowercased. -/
def mediaType (value : String) : String :=
  let type := value.toList.takeWhile fun c => decide (c ≠ ';')
  let trimmed := ((type.dropWhile isWhiteSpace).reverse.dropWhile isWhiteSpace).reverse
  String.ofList (trimmed.map asciiLower)

def checkHead (head : ObjectHead) : Except AttachmentError Unit :=
  if head.contentType.map mediaType ≠ some pdfMimeType then .error (.rejected "content_type_not_pdf")
  else if ¬ head.contentLength.any (fun length => decide (1 ≤ length ∧ length ≤ maxByteLength)) then
    .error (.rejected "size_out_of_range")
  else .ok ()

def checkTags (tags : Tags) : Except AttachmentError Unit :=
  match tags scanStatusTag with
  | none => .error .scanPending
  | some verdict => if verdict = clean then .ok () else .error (.rejected verdict)

def checkBytes (version : VersionId) :
    Except StorageError (ℕ × Bool × Hash) → Except AttachmentError InspectedPdf
  | .error (.tooLarge _) => .error (.rejected "size_out_of_range")
  | .error .notFound => .error .notUploaded
  | .error .backend => .error .storage
  | .ok (byteLength, isPdf, digest) =>
    if byteLength = 0 then .error (.rejected "size_out_of_range")
    else if isPdf = false then .error (.rejected "not_a_pdf")
    else .ok ⟨byteLength, digest, version⟩

/-! ### The steps -/

/-- Where a request is.  It goes by the row as it read it. -/
inductive Work
  | idle
  /-- The head of the current version passed. -/
  | headed (row : Upload) (head : ObjectHead)
  /-- The tags of the version passed. -/
  | scanned (row : Upload) (version : VersionId)
  | inspected (row : Upload) (pdf : InspectedPdf)
  | refused (row : Upload) (reason : String)
  /-- Rejected: the object is to be deleted. -/
  | discarding (row : Upload)
  /-- The object of a ready row is gone. -/
  | missing (row : Upload)
  /-- The tags were read, and are to be written with this upload state. -/
  | retagging (row : Upload) (version : VersionId) (tags : Tags) (state : String)
  /-- Retagged, and the request is being inserted. -/
  | attaching (row : Upload) (version : VersionId)
  /-- The request was not inserted. -/
  | unattached (row : Upload) (version : VersionId)

/-- What a version is for life. -/
structure Stored where
  key : String
  version : VersionId
  bytes : List UInt8
  contentType : Option String
deriving DecidableEq, Repr

structure System where
  uploads : Table Upload.key
  bucket : Bucket
  work : ℕ → Work
  /-- Every version that was ever stored. -/
  stored : List Stored
  /-- The versions that the scanner found clean. -/
  cleared : List (String × VersionId)

namespace System

def start : System := ⟨Table.empty, [], fun _ => .idle, [], []⟩

def setWork (s : System) (w : ℕ) (work : Work) : System :=
  { s with work := Function.update s.work w work }

variable (sha256 : List UInt8 → Hash)

/-- One step of the system. -/
inductive Step (s : System) : System → Prop
  | createUpload (account : AccountId) (id : AttachmentId) (uploads : Table Upload.key)
      (h : createUpload s.uploads account id = some uploads) : Step s { s with uploads := uploads }
  /-- A client uses a presigned link; the bucket names the version. -/
  | put (key : String) (version : VersionId) (bytes : List UInt8) (bucket : Bucket)
      (new : (key, version) ∉ s.stored.map fun stored => (stored.key, stored.version))
      (h : s.bucket.put key version bytes = some bucket) :
      Step s { s with
        bucket := bucket
        stored := ⟨key, version, bytes, some pdfMimeType⟩ :: s.stored }
  /-- The scanner tags a version with its verdict. -/
  | scan (key : String) (object : Version) (verdict : String)
      (h : s.bucket.lookup key object.id = some object) :
      Step s { s with
        bucket := s.bucket.putTags key object.id
          (Function.update object.tags scanStatusTag (some verdict))
        cleared := if verdict = clean then (key, object.id) :: s.cleared else s.cleared }
  /-- The lifecycle rule removes entries. -/
  | purge (bucket : Bucket) (h : bucket.Sublist s.bucket) : Step s { s with bucket := bucket }
  /-- Finalization reads an undecided row and the head of its object. -/
  | head (w : ℕ) (account : AccountId) (id : AttachmentId) (row : Upload) (object : Version)
      (h : s.work w = .idle) (hrow : getForAccount s.uploads account id = some row)
      (hundecided : row.isUnfinalized) (hobject : s.bucket.current row.objectKey = some object)
      (hcheck : checkHead object.head = .ok ()) : Step s (s.setWork w (.headed row object.head))
  | headRefused (w : ℕ) (account : AccountId) (id : AttachmentId) (row : Upload) (object : Version)
      (reason : String) (h : s.work w = .idle)
      (hrow : getForAccount s.uploads account id = some row) (hundecided : row.isUnfinalized)
      (hobject : s.bucket.current row.objectKey = some object)
      (hcheck : checkHead object.head = .error (.rejected reason)) :
      Step s (s.setWork w (.refused row reason))
  | tags (w : ℕ) (row : Upload) (head : ObjectHead) (object : Version)
      (h : s.work w = .headed row head)
      (hobject : s.bucket.lookup row.objectKey head.versionId = some object)
      (hcheck : checkTags object.tags = .ok ()) : Step s (s.setWork w (.scanned row head.versionId))
  | tagsRefused (w : ℕ) (row : Upload) (head : ObjectHead) (object : Version) (reason : String)
      (h : s.work w = .headed row head)
      (hobject : s.bucket.lookup row.objectKey head.versionId = some object)
      (hcheck : checkTags object.tags = .error (.rejected reason)) :
      Step s (s.setWork w (.refused row reason))
  | bytes (w : ℕ) (row : Upload) (version : VersionId) (object : Version)
      (chunks : List (List UInt8)) (pdf : InspectedPdf) (h : s.work w = .scanned row version)
      (hobject : s.bucket.lookup row.objectKey version = some object)
      (hchunks : chunks.flatten = object.bytes)
      (hcheck : checkBytes version (inspectBytes sha256 maxByteLength chunks) = .ok pdf) :
      Step s (s.setWork w (.inspected row pdf))
  | bytesRefused (w : ℕ) (row : Upload) (version : VersionId) (object : Version)
      (chunks : List (List UInt8)) (reason : String) (h : s.work w = .scanned row version)
      (hobject : s.bucket.lookup row.objectKey version = some object)
      (hchunks : chunks.flatten = object.bytes)
      (hcheck : checkBytes version (inspectBytes sha256 maxByteLength chunks) =
        .error (.rejected reason)) : Step s (s.setWork w (.refused row reason))
  | markReady (w : ℕ) (row : Upload) (pdf : InspectedPdf) (h : s.work w = .inspected row pdf) :
      Step s { s.setWork w .idle with uploads := markReady s.uploads row.accountId row.id pdf }
  | markRejected (w : ℕ) (row : Upload) (reason : String) (h : s.work w = .refused row reason) :
      Step s { s.setWork w (.discarding row) with
        uploads := markRejected s.uploads row.accountId row.id reason }
  | discard (w : ℕ) (row : Upload) (h : s.work w = .discarding row) :
      Step s { s.setWork w .idle with bucket := s.bucket.delete row.objectKey }
  /-- The object of a ready row is looked for and not there. -/
  | notPresent (w : ℕ) (account : AccountId) (id : AttachmentId) (row : Upload) (version : VersionId)
      (h : s.work w = .idle) (hrow : getForAccount s.uploads account id = some row)
      (hready : row.status = .ready) (hversion : row.versionId = some version)
      (hobject : s.bucket.lookup row.objectKey version = none) : Step s (s.setWork w (.missing row))
  | markExpired (w : ℕ) (row : Upload) (h : s.work w = .missing row) :
      Step s { s.setWork w .idle with uploads := markExpired s.uploads row.accountId row.id }
  /-- Issuance reads a ready row and the tags of its object. -/
  | readTags (w : ℕ) (account : AccountId) (id : AttachmentId) (row : Upload) (version : VersionId)
      (object : Version) (h : s.work w = .idle)
      (hrow : getForAccount s.uploads account id = some row) (hready : row.status = .ready)
      (hversion : row.versionId = some version)
      (hobject : s.bucket.lookup row.objectKey version = some object) :
      Step s (s.setWork w (.retagging row version object.tags uploadAttached))
  | putTags (w : ℕ) (row : Upload) (version : VersionId) (tags : Tags) (state : String)
      (object : Version) (h : s.work w = .retagging row version tags state)
      (hobject : s.bucket.lookup row.objectKey version = some object) :
      Step s { s.setWork w (if state = uploadAttached then .attaching row version else .idle) with
        bucket := s.bucket.putTags row.objectKey version
          (Function.update tags uploadStateTag (some state)) }
  | attach (w : ℕ) (row : Upload) (version : VersionId) (invoice : InvoiceId)
      (uploads : Table Upload.key) (h : s.work w = .attaching row version)
      (hattach : attachToInvoice s.uploads row.accountId row.id invoice = some uploads) :
      Step s { s.setWork w .idle with uploads := uploads }
  | attachFailed (w : ℕ) (row : Upload) (version : VersionId) (h : s.work w = .attaching row version) :
      Step s (s.setWork w (.unattached row version))
  /-- The row is bound to nothing, so its old tag is to be put back. -/
  | restore (w : ℕ) (row now : Upload) (version : VersionId) (object : Version)
      (h : s.work w = .unattached row version)
      (hrow : getForAccount s.uploads row.accountId row.id = some now) (hunbound : now.invoiceId = none)
      (hobject : s.bucket.lookup row.objectKey version = some object) :
      Step s (s.setWork w (.retagging row version object.tags uploadPending))
  /-- The request ends, or the process does. -/
  | stop (w : ℕ) : Step s (s.setWork w .idle)

/-- The states of all runs. -/
def Reachable (s : System) : Prop := Relation.ReflTransGen (Step sha256) start s

end System

end Payday.Attachments
