/-
# Uploads in the bucket

The versioned bucket behind `ObjectStorage` and the checks of `inspect_and_hash` on an object in it.
A key has a stack of entries, each a version or a delete marker; a version's bytes and content type
never change, its tags do.  The presigned `PUT` carries `If-None-Match: *`, a fixed content type and
the lifecycle tag, so it creates a version only where there is no current one, and cannot set the
scanner's tag.  An object is read as a stream of chunks, cut however the service sends them.
-/
import Payday.Ledger.Issuance
import Payday.Proofs.Served

namespace Payday.Attachments

open Issuance (AccountId AttachmentId AttachmentStatus DbAttachment clean maxByteLength expiredUpload)

abbrev VersionId := ℕ

/-- The tags of an object. -/
abbrev Tags := String → Option String

/-- A stored version of an object. -/
structure Version where
  id : VersionId
  bytes : List UInt8
  contentType : Option String
  tags : Tags

/-- A version of a key, or a delete marker. -/
structure Entry where
  key : String
  object : Option Version

/-- The newest entry first. -/
abbrev Bucket := List Entry

def scanStatusTag : String := "GuardDutyMalwareScanStatus"
def uploadStateTag : String := "gum-upload"
def uploadPending : String := "pending"
def uploadAttached : String := "attached"
def pdfMimeType : String := "application/pdf"
/-- `%PDF-`. -/
def pdfMagic : List UInt8 := [0x25, 0x50, 0x44, 0x46, 0x2d]

namespace Bucket

/-- The current version of a key. -/
def current (bucket : Bucket) (key : String) : Option Version :=
  (bucket.find? fun entry => decide (entry.key = key)).bind (·.object)

/-- A pinned version of a key. -/
def lookup (bucket : Bucket) (key : String) (version : VersionId) : Option Version :=
  bucket.findSome? fun entry =>
    if entry.key = key then entry.object.filter fun object => decide (object.id = version) else none

/-- The presigned `PUT`: refused while there is a current version. -/
def put (bucket : Bucket) (key : String) (version : VersionId) (bytes : List UInt8) :
    Option Bucket :=
  if (bucket.current key).isSome then none
  else some (⟨key, some ⟨version, bytes, some pdfMimeType,
    Function.update (fun _ => none) uploadStateTag (some uploadPending)⟩⟩ :: bucket)

/-- Remove the current object, which leaves a delete marker. -/
def delete (bucket : Bucket) (key : String) : Bucket := ⟨key, none⟩ :: bucket

/-- Rewrite the tags of a version. -/
def putTags (bucket : Bucket) (key : String) (version : VersionId) (tags : Tags) : Bucket :=
  bucket.map fun entry =>
    if entry.key = key then
      { entry with object := entry.object.map fun object =>
          if object.id = version then { object with tags := tags } else object }
    else entry

end Bucket

/-! ### Reading the bytes -/

inductive StorageError
  | notFound
  | tooLarge (limit : ℕ)
  | backend
deriving DecidableEq, Repr

/-- What `inspect_bytes` has seen so far: the saturating length, the first bytes, and what the
digest was fed with. -/
structure Inspection where
  length : ℕ
  first : List UInt8
  digested : List UInt8
deriving DecidableEq, Repr

/-- One chunk of the body. -/
def Inspection.chunk (limit : ℕ) (seen : Inspection) (chunk : List UInt8) :
    Except StorageError Inspection :=
  let length := min (seen.length + chunk.length) (2 ^ 64 - 1)
  if limit < length then .error (.tooLarge limit)
  else .ok
    { length := length
      first := if seen.first.length < pdfMagic.length then
          seen.first ++ chunk.take (min chunk.length (pdfMagic.length - seen.first.length))
        else seen.first
      digested := seen.digested ++ chunk }

variable (sha256 : List UInt8 → Hash)

/-- `inspect_bytes` over the chunks of the body. -/
def inspectBytes (limit : ℕ) (chunks : List (List UInt8)) :
    Except StorageError (ℕ × Bool × Hash) :=
  (chunks.foldlM (Inspection.chunk limit) ⟨0, [], []⟩).map fun seen =>
    (seen.length, decide (seen.first = pdfMagic), sha256 seen.digested)

/-- The first bytes of a body that goes on. -/
lemma take_append_take (seen chunk : List UInt8) (n : ℕ) :
    (seen ++ chunk).take n = if (seen.take n).length < n then
      seen.take n ++ chunk.take (min chunk.length (n - (seen.take n).length)) else seen.take n := by
  rw [List.take_append, List.length_take]
  split
  · rename_i h
    have hlt : seen.length < n := by omega
    rw [Nat.min_eq_right (Nat.le_of_lt hlt), List.take_eq_take_min (l := chunk)]
    congr 2
    omega
  · rename_i h
    have hle : n ≤ seen.length := by omega
    rw [Nat.sub_eq_zero_of_le hle, List.take_zero, List.append_nil]

/-- What has been seen of a body whose bytes so far are these. -/
def Inspection.of (bytes : List UInt8) : Inspection :=
  ⟨bytes.length, bytes.take pdfMagic.length, bytes⟩

lemma Inspection.chunk_of {limit : ℕ} (hlimit : limit < 2 ^ 64 - 1) (bytes chunk : List UInt8) :
    (Inspection.of bytes).chunk limit chunk =
      if (bytes ++ chunk).length ≤ limit then .ok (Inspection.of (bytes ++ chunk))
      else .error (.tooLarge limit) := by
  rw [Inspection.chunk, Inspection.of, Inspection.of, List.length_append]
  by_cases h : bytes.length + chunk.length ≤ limit
  · have hmin : min (bytes.length + chunk.length) (2 ^ 64 - 1) = bytes.length + chunk.length :=
      Nat.min_eq_left (by omega)
    rw [if_pos h, hmin, if_neg (by omega), take_append_take]
  · have hlt : limit < min (bytes.length + chunk.length) (2 ^ 64 - 1) := by omega
    rw [if_neg h, if_pos hlt]

lemma Inspection.foldlM_of {limit : ℕ} (hlimit : limit < 2 ^ 64 - 1) (chunks : List (List UInt8))
    (bytes : List UInt8) (hbytes : bytes.length ≤ limit) :
    chunks.foldlM (Inspection.chunk limit) (Inspection.of bytes) =
      if (bytes ++ chunks.flatten).length ≤ limit then .ok (Inspection.of (bytes ++ chunks.flatten))
      else .error (.tooLarge limit) := by
  induction chunks generalizing bytes with
  | nil =>
    rw [List.flatten_nil, List.append_nil, if_pos hbytes]
    rfl
  | cons chunk rest ih =>
    rw [List.foldlM_cons, chunk_of hlimit]
    by_cases h : (bytes ++ chunk).length ≤ limit
    · rw [if_pos h]
      show rest.foldlM (Inspection.chunk limit) (Inspection.of (bytes ++ chunk)) = _
      rw [ih _ h, List.flatten_cons, List.append_assoc]
    · -- the stream is abandoned here, and what follows cannot make it shorter
      have hlong : ¬ (bytes ++ (chunk :: rest).flatten).length ≤ limit := by
        rw [List.flatten_cons, List.length_append, List.length_append]
        rw [List.length_append] at h
        omega
      rw [if_neg h, if_neg hlong]
      rfl

/-- However the body is cut into chunks, reading it as a stream is reading it whole: it is abandoned
exactly when it is longer than the limit, and otherwise gives its length, whether it begins like a
PDF, and its hash. -/
lemma inspectBytes_eq (sha256 : List UInt8 → Hash) (limit : ℕ) (hlimit : limit < 2 ^ 64 - 1)
    (chunks : List (List UInt8)) :
    inspectBytes sha256 limit chunks =
      if chunks.flatten.length ≤ limit then
        .ok (chunks.flatten.length, decide (pdfMagic <+: chunks.flatten), sha256 chunks.flatten)
      else .error (.tooLarge limit) := by
  have hfold := Inspection.foldlM_of hlimit chunks [] (Nat.zero_le _)
  rw [List.nil_append] at hfold
  show (chunks.foldlM (Inspection.chunk limit) (Inspection.of [])).map _ = _
  rw [hfold]
  split
  · have hmagic : decide (chunks.flatten.take pdfMagic.length = pdfMagic) =
        decide (pdfMagic <+: chunks.flatten) := by
      rw [decide_eq_decide, List.prefix_iff_eq_take, eq_comm]
    show Except.ok (_, decide (chunks.flatten.take pdfMagic.length = pdfMagic), _) = _
    rw [hmagic]
    rfl
  · rfl

end Payday.Attachments
