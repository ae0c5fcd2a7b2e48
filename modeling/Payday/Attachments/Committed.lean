/-
# A document is what was scanned

The row of a finalized upload commits to a length and a hash.  In every run they are those of one
version in the bucket, which is a PDF within the limit and which the scanner found clean, because
every check after the head reads the version that the head named; and they never change, because
every statement that decides a row needs it undecided.  Whatever later happens to the key, reading
the recorded version gives these bytes or nothing.
-/
import Payday.Attachments.Uploads

namespace Payday.Attachments

open Issuance (AccountId AttachmentId AttachmentStatus DbAttachment clean maxByteLength expiredUpload)
open Payday.Attachments.System

/-! ### The bucket -/

lemma Bucket.mem_of_current {bucket : Bucket} {key : String} {object : Version}
    (h : bucket.current key = some object) : ⟨key, some object⟩ ∈ bucket := by
  obtain ⟨entry, hfind, hobject⟩ := Option.bind_eq_some_iff.1 h
  have hkey : entry.key = key := of_decide_eq_true (List.find?_some
    (p := fun entry : Entry => decide (entry.key = key)) hfind)
  rw [← hkey, ← hobject]
  exact List.mem_of_find?_eq_some hfind

lemma Bucket.mem_of_lookup {bucket : Bucket} {key : String} {version : VersionId} {object : Version}
    (h : bucket.lookup key version = some object) :
    ⟨key, some object⟩ ∈ bucket ∧ object.id = version := by
  obtain ⟨entry, hentry, heq⟩ := List.exists_of_findSome?_eq_some h
  split at heq
  · rename_i hkey
    obtain ⟨hobject, hid⟩ := Option.filter_eq_some_iff.1 heq
    rw [← hkey, ← hobject]
    exact ⟨hentry, of_decide_eq_true hid⟩
  · cases heq

/-- Retagging changes the tags of one version and nothing else. -/
lemma Bucket.mem_putTags {bucket : Bucket} {key : String} {version : VersionId} {tags : Tags}
    {k : String} {object : Version} (h : ⟨k, some object⟩ ∈ bucket.putTags key version tags) :
    ∃ before, ⟨k, some before⟩ ∈ bucket ∧ object.id = before.id ∧ object.bytes = before.bytes ∧
      object.contentType = before.contentType ∧
      (object.tags = before.tags ∨ (k = key ∧ before.id = version ∧ object.tags = tags)) := by
  obtain ⟨entry, hentry, heq⟩ := List.mem_map.1 h
  obtain ⟨k', stored⟩ := entry
  dsimp only at heq
  split at heq
  · rename_i hkey
    cases stored with
    | none => cases heq
    | some before =>
      rw [Option.map_some] at heq
      by_cases hid : before.id = version
      · rw [if_pos hid] at heq
        cases heq
        exact ⟨before, hentry, rfl, rfl, rfl, Or.inr ⟨hkey, hid, rfl⟩⟩
      · rw [if_neg hid] at heq
        cases heq
        exact ⟨object, hentry, rfl, rfl, rfl, Or.inl rfl⟩
  · cases heq
    exact ⟨object, hentry, rfl, rfl, rfl, Or.inl rfl⟩

/-! ### The checks -/

lemma checkHead_ok {head : ObjectHead} (h : checkHead head = .ok ()) :
    head.contentType.map mediaType = some pdfMimeType := by
  unfold checkHead at h
  split at h
  · cases h
  · rename_i htype
    exact not_not.1 htype

lemma checkTags_ok {tags : Tags} (h : checkTags tags = .ok ()) :
    tags scanStatusTag = some clean := by
  unfold checkTags at h
  split at h
  · cases h
  · rename_i verdict hverdict
    split at h
    · rename_i hclean
      rw [hverdict, hclean]
    · cases h

/-- What passes the last check is a PDF within the limit, with its length and hash. -/
lemma checkBytes_ok {sha256 : List UInt8 → Hash} {version : VersionId} {chunks : List (List UInt8)}
    {bytes : List UInt8} {pdf : InspectedPdf} (hchunks : chunks.flatten = bytes)
    (h : checkBytes version (inspectBytes sha256 maxByteLength chunks) = .ok pdf) :
    pdf = ⟨bytes.length, sha256 bytes, version⟩ ∧ pdfMagic <+: bytes ∧ 0 < bytes.length ∧
      bytes.length ≤ maxByteLength := by
  rw [inspectBytes_eq sha256 maxByteLength (by decide), hchunks] at h
  split at h
  · rename_i hlength
    unfold checkBytes at h
    dsimp only at h
    split at h
    · cases h
    rename_i hpos
    split at h
    · cases h
    rename_i hmagic
    cases h
    exact ⟨rfl, of_decide_eq_true (Bool.not_eq_false _ ▸ hmagic), by omega, hlength⟩
  · cases h

/-! ### The invariant -/

/-- The version with these bytes was stored as a PDF, is one, fits, and was found clean. -/
structure Document (s : System) (key : String) (version : VersionId) (bytes : List UInt8) : Prop where
  stored : ∃ contentType, ⟨key, version, bytes, contentType⟩ ∈ s.stored ∧
    contentType.map mediaType = some pdfMimeType
  cleared : (key, version) ∈ s.cleared
  magic : pdfMagic <+: bytes
  positive : 0 < bytes.length
  bounded : bytes.length ≤ maxByteLength

/-- The key is the one reserved for the row. -/
def Upload.Keyed (row : Upload) : Prop :=
  row.objectKey = Attachments.objectKey row.accountId row.id

variable (sha256 : List UInt8 → Hash)

/-- What a row says about its document is so. -/
structure RowStands (s : System) (row : Upload) : Prop where
  keyed : row.Keyed
  undecided : row.isUnfinalized → row.sha256 = none
  decided : row.status = .ready ∨ row.status = .attached → row.sha256.isSome
  bound : row.invoiceId.isSome → row.status = .attached
  document : ∀ hash, row.sha256 = some hash → ∃ version bytes, row.versionId = some version ∧
    row.byteLength = some bytes.length ∧ hash = sha256 bytes ∧ Document s row.objectKey version bytes

/-- What a request has found out stays so. -/
def WorkStands (s : System) : Work → Prop
  | .headed row head => row.Keyed ∧ head.contentType.map mediaType = some pdfMimeType ∧
      ∃ bytes, ⟨row.objectKey, head.versionId, bytes, head.contentType⟩ ∈ s.stored
  | .scanned row version => row.Keyed ∧ (row.objectKey, version) ∈ s.cleared ∧
      ∃ bytes contentType, ⟨row.objectKey, version, bytes, contentType⟩ ∈ s.stored ∧
        contentType.map mediaType = some pdfMimeType
  | .inspected row pdf => row.Keyed ∧ ∃ bytes, pdf.byteLength = bytes.length ∧
      pdf.sha256 = sha256 bytes ∧ Document s row.objectKey pdf.versionId bytes
  | .retagging row version tags _ => tags scanStatusTag = some clean →
      (row.objectKey, version) ∈ s.cleared
  | _ => True

/-- What holds in every state of every run. -/
structure Sound (s : System) : Prop where
  /-- What is in the bucket was stored, and a clean verdict on it is the scanner's. -/
  bucket : ∀ key object, ⟨key, some object⟩ ∈ s.bucket →
    ⟨key, object.id, object.bytes, object.contentType⟩ ∈ s.stored ∧
    (object.tags scanStatusTag = some clean → (key, object.id) ∈ s.cleared)
  stored : (s.stored.map fun stored => (stored.key, stored.version)).Nodup
  rows : ∀ row ∈ s.uploads.rows, RowStands sha256 s row
  work : ∀ w, WorkStands sha256 s (s.work w)

variable {sha256} {s s' : System}

/-- A version has one content. -/
lemma Sound.bytes_unique (hs : Sound sha256 s) {key : String} {version : VersionId}
    {bytes bytes' : List UInt8} {contentType contentType' : Option String}
    (h : ⟨key, version, bytes, contentType⟩ ∈ s.stored)
    (h' : ⟨key, version, bytes', contentType'⟩ ∈ s.stored) :
    bytes = bytes' ∧ contentType = contentType' := by
  have heq := List.inj_on_of_nodup_map hs.stored h h' rfl
  cases heq
  exact ⟨rfl, rfl⟩

/-- More was stored and cleared, and nothing forgotten. -/
structure Grows (s s' : System) : Prop where
  stored : s.stored ⊆ s'.stored
  cleared : s.cleared ⊆ s'.cleared

lemma Document.grows {key : String} {version : VersionId} {bytes : List UInt8}
    (h : Document s key version bytes) (hg : Grows s s') : Document s' key version bytes := by
  obtain ⟨contentType, hstored, htype⟩ := h.stored
  exact ⟨⟨contentType, hg.stored hstored, htype⟩, hg.cleared h.cleared, h.magic, h.positive,
    h.bounded⟩

lemma RowStands.grows {row : Upload} (h : RowStands sha256 s row) (hg : Grows s s') :
    RowStands sha256 s' row := by
  refine ⟨h.keyed, h.undecided, h.decided, h.bound, fun hash hhash => ?_⟩
  obtain ⟨version, bytes, hversion, hlength, heq, hdocument⟩ := h.document hash hhash
  exact ⟨version, bytes, hversion, hlength, heq, hdocument.grows hg⟩

lemma WorkStands.grows {work : Work} (h : WorkStands sha256 s work) (hg : Grows s s') :
    WorkStands sha256 s' work := by
  cases work with
  | headed row head =>
    obtain ⟨hkeyed, htype, bytes, hstored⟩ := h
    exact ⟨hkeyed, htype, bytes, hg.stored hstored⟩
  | scanned row version =>
    obtain ⟨hkeyed, hcleared, bytes, contentType, hstored, htype⟩ := h
    exact ⟨hkeyed, hg.cleared hcleared, bytes, contentType, hg.stored hstored, htype⟩
  | inspected row pdf =>
    obtain ⟨hkeyed, bytes, hlength, hhash, hdocument⟩ := h
    exact ⟨hkeyed, bytes, hlength, hhash, hdocument.grows hg⟩
  | retagging row version tags state => exact fun hclean => hg.cleared (h hclean)
  | _ => trivial

/-! ### The kinds of steps -/

lemma Sound.setWork (hs : Sound sha256 s) (w : ℕ) {work : Work} (hwork : WorkStands sha256 s work) :
    Sound sha256 (s.setWork w work) where
  bucket := hs.bucket
  stored := hs.stored
  rows := fun row hrow => (hs.rows row hrow).grows ⟨List.Subset.refl _, List.Subset.refl _⟩
  work := by
    intro w'
    refine WorkStands.grows (s := s) ?_ ⟨List.Subset.refl _, List.Subset.refl _⟩
    by_cases hw : w' = w
    · simpa [System.setWork, hw] using hwork
    · simpa [System.setWork, hw] using hs.work w'

/-- The bucket changes, and what was stored and cleared grows. -/
lemma Sound.setBucket (hs : Sound sha256 s) (hg : Grows s s')
    (huploads : s'.uploads = s.uploads) (hwork : s'.work = s.work)
    (hbucket : ∀ key object, ⟨key, some object⟩ ∈ s'.bucket →
      ⟨key, object.id, object.bytes, object.contentType⟩ ∈ s'.stored ∧
      (object.tags scanStatusTag = some clean → (key, object.id) ∈ s'.cleared))
    (hstored : (s'.stored.map fun stored => (stored.key, stored.version)).Nodup) :
    Sound sha256 s' where
  bucket := hbucket
  stored := hstored
  rows := by
    rw [huploads]
    exact fun row hrow => (hs.rows row hrow).grows hg
  work := by
    rw [hwork]
    exact fun w => (hs.work w).grows hg

/-- The tags of a version are rewritten. -/
lemma Sound.putTags (hs : Sound sha256 s) (hg : Grows s s') (huploads : s'.uploads = s.uploads)
    (hwork : s'.work = s.work) (hstored : s'.stored = s.stored) {key : String} {version : VersionId}
    {tags : Tags} (hbucket : s'.bucket = s.bucket.putTags key version tags)
    (htags : tags scanStatusTag = some clean → (key, version) ∈ s'.cleared) : Sound sha256 s' := by
  refine hs.setBucket hg huploads hwork ?_ (hstored ▸ hs.stored)
  intro k object hobject
  rw [hbucket] at hobject
  obtain ⟨before, hbefore, hid, hbytes, htype, hcase⟩ := Bucket.mem_putTags hobject
  obtain ⟨hin, hclean⟩ := hs.bucket k before hbefore
  rw [hid, hbytes, htype]
  refine ⟨hg.stored hin, fun htag => ?_⟩
  rcases hcase with hsame | ⟨rfl, rfl, hnew⟩
  · exact hg.cleared (hclean (hsame ▸ htag))
  · exact htags (hnew ▸ htag)

/-- The rows change, and each of them still stands. -/
lemma Sound.setUploads (hs : Sound sha256 s) {uploads : Table Upload.key}
    (hrows : ∀ row ∈ uploads.rows, RowStands sha256 s row) :
    Sound sha256 { s with uploads := uploads } where
  bucket := hs.bucket
  stored := hs.stored
  rows := fun row hrow => (hrows row hrow).grows ⟨List.Subset.refl _, List.Subset.refl _⟩
  work := fun w => (hs.work w).grows ⟨List.Subset.refl _, List.Subset.refl _⟩

/-! ### The rows -/

lemma undecided_iff {account : AccountId} {id : AttachmentId} {row : Upload} :
    undecided account id row = true ↔
      row.accountId = account ∧ row.id = id ∧ row.isUnfinalized = true := by
  rw [undecided, Bool.and_eq_true, decide_eq_true_eq, and_assoc]

lemma not_attached_of_undecided {account : AccountId} {id : AttachmentId} {row : Upload}
    (h : undecided account id row = true) : row.status ≠ .attached := by
  intro hattached
  have hunfinalized := (undecided_iff.1 h).2.2
  simp [DbAttachment.isUnfinalized, hattached] at hunfinalized

lemma isReady_iff {account : AccountId} {id : AttachmentId} {row : Upload} :
    isReady account id row = true ↔ row.accountId = account ∧ row.id = id ∧ row.status = .ready := by
  rw [isReady, decide_eq_true_eq]

lemma mem_of_getForAccount {uploads : Table Upload.key} {account : AccountId} {id : AttachmentId}
    {row : Upload} (h : getForAccount uploads account id = some row) : row ∈ uploads.rows :=
  Table.mem_of_find? (Option.filter_eq_some_iff.1 h).1

/-- A row that is not attached and is rejected keeps what it says about its document. -/
lemma RowStands.reject {row : Upload} (h : RowStands sha256 s row) (hopen : row.status ≠ .attached)
    (reason : String) : RowStands sha256 s (row.reject reason) where
  keyed := h.keyed
  undecided := by
    intro hundecided
    cases hundecided
  decided := by
    rintro (hstatus | hstatus) <;> cases hstatus
  bound := fun hbound => absurd (h.bound hbound) hopen
  document := h.document

/-- A row that was ready keeps what it says about its document when it is bound. -/
lemma RowStands.bind {row : Upload} (h : RowStands sha256 s row) (hready : row.status = .ready)
    (invoice : InvoiceId) : RowStands sha256 s (row.bind invoice) where
  keyed := h.keyed
  undecided := by
    intro hundecided
    cases hundecided
  decided := fun _ => h.decided (Or.inl hready)
  bound := fun _ => rfl
  document := h.document

/-- A row that becomes ready says what finalization found. -/
lemma RowStands.ready {row read : Upload} {pdf : InspectedPdf} (h : RowStands sha256 s row)
    (hfound : WorkStands sha256 s (.inspected read pdf)) (haccount : row.accountId = read.accountId)
    (hid : row.id = read.id) (hopen : row.status ≠ .attached) :
    RowStands sha256 s (row.ready pdf) where
  keyed := h.keyed
  undecided := by
    intro hundecided
    cases hundecided
  decided := fun _ => rfl
  bound := fun hbound => absurd (h.bound hbound) hopen
  document := by
    intro hash hhash
    obtain ⟨hkeyed, bytes, hlength, hsha, hdocument⟩ := hfound
    have hkey : row.objectKey = read.objectKey := by
      rw [h.keyed, haccount, hid]
      exact hkeyed.symm
    cases hhash
    refine ⟨pdf.versionId, bytes, rfl, congrArg some hlength, hsha, ?_⟩
    show Document s row.objectKey pdf.versionId bytes
    rw [hkey]
    exact hdocument

lemma RowStands.markReady (hs : Sound sha256 s) {read : Upload} {pdf : InspectedPdf}
    (hfound : WorkStands sha256 s (.inspected read pdf)) :
    ∀ row ∈ (markReady s.uploads read.accountId read.id pdf).rows, RowStands sha256 s row := by
  intro row hrow
  rcases Table.mem_updateWhere hrow with ⟨row₀, hrow₀, hp, rfl⟩ | ⟨hrow, -⟩
  · obtain ⟨haccount, hid, -⟩ := undecided_iff.1 hp
    exact (hs.rows row₀ hrow₀).ready hfound haccount hid (not_attached_of_undecided hp)
  · exact hs.rows row hrow

lemma RowStands.markRejected (hs : Sound sha256 s) (account : AccountId) (id : AttachmentId)
    (reason : String) :
    ∀ row ∈ (markRejected s.uploads account id reason).rows, RowStands sha256 s row := by
  intro row hrow
  rcases Table.mem_updateWhere hrow with ⟨row₀, hrow₀, hp, rfl⟩ | ⟨hrow, -⟩
  · exact (hs.rows row₀ hrow₀).reject (not_attached_of_undecided hp) reason
  · exact hs.rows row hrow

lemma RowStands.markExpired (hs : Sound sha256 s) (account : AccountId) (id : AttachmentId) :
    ∀ row ∈ (markExpired s.uploads account id).rows, RowStands sha256 s row := by
  intro row hrow
  rcases Table.mem_updateWhere hrow with ⟨row₀, hrow₀, hp, rfl⟩ | ⟨hrow, -⟩
  · refine (hs.rows row₀ hrow₀).reject ?_ expiredUpload
    rw [(isReady_iff.1 hp).2.2]
    simp
  · exact hs.rows row hrow

lemma attachToInvoice_eq {uploads uploads' : Table Upload.key} {account : AccountId}
    {id : AttachmentId} {invoice : InvoiceId}
    (h : attachToInvoice uploads account id invoice = some uploads') :
    uploads' = uploads.updateWhere (isReady account id) (Upload.bind · invoice)
      (fun row => row.key_bind invoice) := by
  unfold attachToInvoice at h
  split at h
  · split at h
    · exact (Option.some.inj h).symm
    · cases h
  · cases h

lemma RowStands.attach (hs : Sound sha256 s) {account : AccountId} {id : AttachmentId}
    {invoice : InvoiceId} {uploads : Table Upload.key}
    (h : attachToInvoice s.uploads account id invoice = some uploads) :
    ∀ row ∈ uploads.rows, RowStands sha256 s row := by
  intro row hrow
  rw [attachToInvoice_eq h] at hrow
  rcases Table.mem_updateWhere hrow with ⟨row₀, hrow₀, hp, rfl⟩ | ⟨hrow, -⟩
  · exact (hs.rows row₀ hrow₀).bind (isReady_iff.1 hp).2.2 invoice
  · exact hs.rows row hrow

lemma RowStands.createUpload (hs : Sound sha256 s) {account : AccountId} {id : AttachmentId}
    {uploads : Table Upload.key} (h : createUpload s.uploads account id = some uploads) :
    ∀ row ∈ uploads.rows, RowStands sha256 s row := by
  unfold Attachments.createUpload at h
  split at h
  · cases h
  intro row hrow
  rw [(Table.insert?_eq_some_iff.1 h).2] at hrow
  rcases List.mem_append.1 hrow with hrow | hrow
  · exact hs.rows row hrow
  · rw [List.mem_singleton.1 hrow]
    refine ⟨rfl, fun _ => rfl, ?_, ?_, ?_⟩
    · rintro (hstatus | hstatus) <;> cases hstatus
    · intro hbound
      cases hbound
    · intro hash hhash
      cases hhash

/-! ### Runs -/

lemma sound_start : Sound sha256 start where
  bucket := by simp [start]
  stored := by simp [start]
  rows := by simp [start]
  work := fun _ => trivial

/-- What is looked up in the bucket was stored. -/
lemma Sound.lookup (hs : Sound sha256 s) {key : String} {version : VersionId} {object : Version}
    (h : s.bucket.lookup key version = some object) :
    ⟨key, version, object.bytes, object.contentType⟩ ∈ s.stored ∧
      (object.tags scanStatusTag = some clean → (key, version) ∈ s.cleared) := by
  obtain ⟨hmem, rfl⟩ := Bucket.mem_of_lookup h
  exact hs.bucket key object hmem

lemma Sound.step (hs : Sound sha256 s) (h : Step sha256 s s') : Sound sha256 s' := by
  cases h with
  | createUpload account id uploads h => exact hs.setUploads (RowStands.createUpload hs h)
  | put key version bytes bucket new h =>
    unfold Bucket.put at h
    split at h
    · cases h
    cases h
    refine hs.setBucket ⟨List.subset_cons_self _ _, List.Subset.refl _⟩ rfl rfl ?_ ?_
    · intro k object hobject
      rcases List.mem_cons.1 hobject with heq | hobject
      · -- the new version has only the lifecycle tag
        cases heq
        refine ⟨List.mem_cons_self, fun hclean => ?_⟩
        have hnone : Function.update (fun _ : String => (none : Option String)) uploadStateTag
          (some uploadPending) scanStatusTag = none := by decide
        exact absurd (hnone.symm.trans hclean) (by simp)
      · obtain ⟨hin, hclean⟩ := hs.bucket k object hobject
        exact ⟨List.mem_cons_of_mem _ hin, hclean⟩
    · exact List.nodup_cons.2 ⟨new, hs.stored⟩
  | scan key object verdict h =>
    refine hs.putTags ⟨List.Subset.refl _, ?_⟩ rfl rfl rfl rfl ?_
    · show s.cleared ⊆ if verdict = clean then (key, object.id) :: s.cleared else s.cleared
      split
      · exact List.subset_cons_self _ _
      · exact List.Subset.refl _
    · intro hclean
      rw [Function.update_self] at hclean
      show _ ∈ if verdict = clean then (key, object.id) :: s.cleared else s.cleared
      rw [if_pos (Option.some.inj hclean)]
      exact List.mem_cons_self
  | purge bucket h =>
    refine hs.setBucket ⟨List.Subset.refl _, List.Subset.refl _⟩ rfl rfl ?_ hs.stored
    exact fun key object hobject => hs.bucket key object (h.subset hobject)
  | head w account id row object h hrow hundecided hobject hcheck =>
    refine hs.setWork w ⟨(hs.rows row (mem_of_getForAccount hrow)).keyed, checkHead_ok hcheck,
      object.bytes, ?_⟩
    exact (hs.bucket _ _ (Bucket.mem_of_current hobject)).1
  | headRefused => exact hs.setWork _ trivial
  | tags w row head object h hobject hcheck =>
    have hw := hs.work w
    rw [h] at hw
    obtain ⟨hkeyed, htype, bytes, hstored⟩ := hw
    refine hs.setWork w ⟨hkeyed, (hs.lookup hobject).2 (checkTags_ok hcheck), bytes, _, hstored, htype⟩
  | tagsRefused => exact hs.setWork _ trivial
  | bytes w row version object chunks pdf h hobject hchunks hcheck =>
    have hw := hs.work w
    rw [h] at hw
    obtain ⟨hkeyed, hcleared, bytes, contentType, hstored, htype⟩ := hw
    obtain ⟨rfl, hmagic, hpositive, hbounded⟩ := checkBytes_ok hchunks hcheck
    -- the version that the head named is the one whose bytes were read
    obtain ⟨hbytes, -⟩ := hs.bytes_unique hstored (hs.lookup hobject).1
    refine hs.setWork w ⟨hkeyed, object.bytes, rfl, rfl, ⟨contentType, ?_, htype⟩, hcleared, hmagic,
      hpositive, hbounded⟩
    rw [← hbytes]
    exact hstored
  | bytesRefused => exact hs.setWork _ trivial
  | markReady w row pdf h =>
    have hw := hs.work w
    rw [h] at hw
    exact (hs.setUploads (RowStands.markReady hs hw)).setWork w trivial
  | markRejected w row reason h =>
    exact (hs.setUploads (RowStands.markRejected hs _ _ reason)).setWork w trivial
  | discard w row h =>
    have hset : Sound sha256 { s with bucket := s.bucket.delete row.objectKey } := by
      refine hs.setBucket ⟨List.Subset.refl _, List.Subset.refl _⟩ rfl rfl ?_ hs.stored
      intro key object hobject
      rcases List.mem_cons.1 hobject with heq | hobject
      · cases heq
      · exact hs.bucket key object hobject
    exact hset.setWork w trivial
  | notPresent => exact hs.setWork _ trivial
  | markExpired w row h =>
    exact (hs.setUploads (RowStands.markExpired hs _ _)).setWork w trivial
  | readTags w account id row version object h hrow hready hversion hobject =>
    exact hs.setWork w (hs.lookup hobject).2
  | putTags w row version tags state object h hobject =>
    have hw := hs.work w
    rw [h] at hw
    have hset : Sound sha256 { s with
        bucket := s.bucket.putTags row.objectKey version
          (Function.update tags uploadStateTag (some state)) } := by
      refine hs.putTags ⟨List.Subset.refl _, List.Subset.refl _⟩ rfl rfl rfl rfl ?_
      intro hclean
      rw [Function.update_of_ne (by decide)] at hclean
      exact hw hclean
    refine hset.setWork w ?_
    split <;> trivial
  | attach w row version invoice uploads h hattach =>
    exact (hs.setUploads (RowStands.attach hs hattach)).setWork w trivial
  | attachFailed => exact hs.setWork _ trivial
  | restore w row now version object h hrow hunbound hobject =>
    exact hs.setWork w (hs.lookup hobject).2
  | stop w => exact hs.setWork w trivial

lemma Sound.run (hs : Sound sha256 s) (h : Relation.ReflTransGen (Step sha256) s s') :
    Sound sha256 s' := by
  induction h with
  | refl => exact hs
  | tail _ hstep ih => exact ih.step hstep

/-! ### What is decided stays -/

/-- What a row has committed to, and the request it is bound to, stay. -/
structure Upload.Fixed (row row' : Upload) : Prop where
  id : row'.id = row.id
  objectKey : row'.objectKey = row.objectKey
  commitment : row.sha256.isSome → row'.sha256 = row.sha256 ∧ row'.byteLength = row.byteLength ∧
    row'.versionId = row.versionId
  bound : row.invoiceId.isSome → row'.invoiceId = row.invoiceId ∧ row'.status = row.status

lemma Upload.Fixed.refl (row : Upload) : row.Fixed row :=
  ⟨rfl, rfl, fun _ => ⟨rfl, rfl, rfl⟩, fun _ => ⟨rfl, rfl⟩⟩

lemma Upload.Fixed.trans {row row' row'' : Upload} (h : row.Fixed row') (h' : row'.Fixed row'') :
    row.Fixed row'' := by
  refine ⟨h'.id.trans h.id, h'.objectKey.trans h.objectKey, fun hsha => ?_, fun hbound => ?_⟩
  · obtain ⟨h₁, h₂, h₃⟩ := h.commitment hsha
    obtain ⟨h₁', h₂', h₃'⟩ := h'.commitment (h₁ ▸ hsha)
    exact ⟨h₁'.trans h₁, h₂'.trans h₂, h₃'.trans h₃⟩
  · obtain ⟨h₁, h₂⟩ := h.bound hbound
    obtain ⟨h₁', h₂'⟩ := h'.bound (h₁ ▸ hbound)
    exact ⟨h₁'.trans h₁, h₂'.trans h₂⟩

/-- Every row is still there, and fixed. -/
def UploadsFixed (uploads uploads' : Table Upload.key) : Prop :=
  ∀ row ∈ uploads.rows, ∃ row' ∈ uploads'.rows, row.Fixed row'

lemma UploadsFixed.refl (uploads : Table Upload.key) : UploadsFixed uploads uploads :=
  fun row hrow => ⟨row, hrow, Upload.Fixed.refl row⟩

lemma UploadsFixed.updateWhere {uploads : Table Upload.key} {p : Upload → Bool}
    {f : Upload → Upload} (hf : ∀ row, (f row).key = row.key)
    (h : ∀ row ∈ uploads.rows, p row = true → row.Fixed (f row)) :
    UploadsFixed uploads (uploads.updateWhere p f hf) := by
  intro row hrow
  cases hp : p row with
  | true => exact ⟨f row, Table.mem_updateWhere_of hrow hp, h row hrow hp⟩
  | false => exact ⟨row, Table.mem_updateWhere_of_not hrow hp, Upload.Fixed.refl row⟩

/-- An undecided row has nothing to keep. -/
lemma RowStands.fixed_of_undecided {row row' : Upload} (h : RowStands sha256 s row)
    {account : AccountId} {id : AttachmentId} (hundecided : Attachments.undecided account id row = true)
    (hid : row'.id = row.id) (hkey : row'.objectKey = row.objectKey) : row.Fixed row' := by
  refine ⟨hid, hkey, fun hsha => ?_, fun hbound => ?_⟩
  · rw [h.undecided (undecided_iff.1 hundecided).2.2] at hsha
    cases hsha
  · exact absurd (h.bound hbound) (not_attached_of_undecided hundecided)

lemma Sound.fixed_step (hs : Sound sha256 s) (h : Step sha256 s s') :
    UploadsFixed s.uploads s'.uploads := by
  cases h with
  | createUpload account id uploads h =>
    unfold Attachments.createUpload at h
    split at h
    · cases h
    intro row hrow
    refine ⟨row, ?_, Upload.Fixed.refl row⟩
    show row ∈ uploads.rows
    rw [(Table.insert?_eq_some_iff.1 h).2]
    exact List.mem_append_left _ hrow
  | markReady w row pdf h =>
    refine UploadsFixed.updateWhere (fun row => row.key_ready pdf) fun row hrow hp => ?_
    exact (hs.rows row hrow).fixed_of_undecided hp rfl rfl
  | markRejected w row reason h =>
    refine UploadsFixed.updateWhere (fun row => row.key_reject reason) fun row hrow hp => ?_
    exact (hs.rows row hrow).fixed_of_undecided hp rfl rfl
  | markExpired w row h =>
    refine UploadsFixed.updateWhere (fun row => row.key_reject expiredUpload) fun row hrow hp => ?_
    refine ⟨rfl, rfl, fun _ => ⟨rfl, rfl, rfl⟩, fun hbound => ?_⟩
    have hattached := (hs.rows row hrow).bound hbound
    rw [(isReady_iff.1 hp).2.2] at hattached
    cases hattached
  | attach w row version invoice uploads h hattach =>
    show UploadsFixed s.uploads uploads
    rw [attachToInvoice_eq hattach]
    refine UploadsFixed.updateWhere (fun row => row.key_bind invoice) fun row hrow hp => ?_
    refine ⟨rfl, rfl, fun _ => ⟨rfl, rfl, rfl⟩, fun hbound => ?_⟩
    have hattached := (hs.rows row hrow).bound hbound
    rw [(isReady_iff.1 hp).2.2] at hattached
    cases hattached
  | _ => exact UploadsFixed.refl _

lemma Sound.fixed_run (hs : Sound sha256 s) (h : Relation.ReflTransGen (Step sha256) s s') :
    UploadsFixed s.uploads s'.uploads := by
  induction h with
  | refl => exact UploadsFixed.refl _
  | tail hrun hstep ih =>
    intro row hrow
    obtain ⟨row', hrow', hfixed⟩ := ih row hrow
    obtain ⟨row'', hrow'', hfixed'⟩ := (hs.run hrun).fixed_step hstep row' hrow'
    exact ⟨row'', hrow'', hfixed.trans hfixed'⟩

lemma grows_step (h : Step sha256 s s') : Grows s s' := by
  cases h with
  | put key version bytes bucket new h => exact ⟨List.subset_cons_self _ _, List.Subset.refl _⟩
  | scan key object verdict h =>
    refine ⟨List.Subset.refl _, ?_⟩
    show s.cleared ⊆ if verdict = clean then (key, object.id) :: s.cleared else s.cleared
    split
    · exact List.subset_cons_self _ _
    · exact List.Subset.refl _
  | _ => exact ⟨fun _ h => h, fun _ h => h⟩

lemma grows_run (h : Relation.ReflTransGen (Step sha256) s s') : Grows s s' := by
  induction h with
  | refl => exact ⟨List.Subset.refl _, List.Subset.refl _⟩
  | tail _ hstep ih =>
    exact ⟨List.Subset.trans ih.stored (grows_step hstep).stored,
      List.Subset.trans ih.cleared (grows_step hstep).cleared⟩

/-- In every run a ready or attached upload names a version that the scanner found clean and whose
bytes are a PDF of at most 5 MiB with the recorded length and hash.  In every later state the row has
the same commitment, is bound to the same request if it was bound, and the version in the bucket has
the same bytes or is gone, whatever was uploaded, deleted, retagged or finalized in between. -/
theorem documents_are_what_was_scanned (sha256 : List UInt8 → Hash) (s : System)
    (h : System.Reachable sha256 s) (row : Upload) (hrow : row ∈ s.uploads.rows)
    (hstatus : row.status = .ready ∨ row.status = .attached) :
    ∃ version bytes, row.versionId = some version ∧ row.byteLength = some bytes.length ∧
      row.sha256 = some (sha256 bytes) ∧ (row.objectKey, version) ∈ s.cleared ∧
      pdfMagic <+: bytes ∧ 0 < bytes.length ∧ bytes.length ≤ maxByteLength ∧
      ∀ s', Relation.ReflTransGen (Step sha256) s s' →
        (∃ row' ∈ s'.uploads.rows, row'.id = row.id ∧ row'.objectKey = row.objectKey ∧
          row'.versionId = row.versionId ∧ row'.byteLength = row.byteLength ∧
          row'.sha256 = row.sha256 ∧ (row.invoiceId.isSome → row'.invoiceId = row.invoiceId ∧
            row'.status = row.status)) ∧
        ∀ object, s'.bucket.lookup row.objectKey version = some object → object.bytes = bytes := by
  have hs : Sound sha256 s := sound_start.run h
  obtain ⟨hash, hhash⟩ := Option.isSome_iff_exists.1 ((hs.rows row hrow).decided hstatus)
  obtain ⟨version, bytes, hversion, hlength, rfl, hdocument⟩ :=
    (hs.rows row hrow).document hash hhash
  refine ⟨version, bytes, hversion, hlength, hhash, hdocument.cleared, hdocument.magic,
    hdocument.positive, hdocument.bounded, fun s' hrun => ⟨?_, fun object hobject => ?_⟩⟩
  · obtain ⟨row', hrow', hfixed⟩ := hs.fixed_run hrun row hrow
    obtain ⟨hsha, hbyteLength, hversionId⟩ := hfixed.commitment ((hs.rows row hrow).decided hstatus)
    exact ⟨row', hrow', hfixed.id, hfixed.objectKey, hversionId, hbyteLength, hsha, hfixed.bound⟩
  · obtain ⟨contentType, hstored, -⟩ := hdocument.stored
    have hs' := hs.run hrun
    exact (hs'.bytes_unique (hs'.lookup hobject).1 ((grows_run hrun).stored hstored)).1

/-! ### A finalized upload -/

/-- A small document. -/
def sampleBytes : List UInt8 := [0x25, 0x50, 0x44, 0x46, 0x2d, 0x31]

/-- The row as it is staged. -/
def sampleStaged : Upload where
  id := 2
  accountId := 1
  invoiceId := none
  byteLength := none
  sha256 := none
  status := .pendingUpload
  scanResult := none
  objectKey := objectKey 1 2
  versionId := none

def sampleVersion (tags : Tags) : Version := ⟨7, sampleBytes, some pdfMimeType, tags⟩

def samplePending : Tags := Function.update (fun _ => none) uploadStateTag (some uploadPending)

def sampleScanned : Tags := Function.update samplePending scanStatusTag (some clean)

lemma current_singleton (key : String) (object : Version) :
    Bucket.current [⟨key, some object⟩] key = some object := by
  simp [Bucket.current]

lemma lookup_singleton (key : String) (object : Version) :
    Bucket.lookup [⟨key, some object⟩] key object.id = some object := by
  simp [Bucket.lookup]

/-- The state in which the upload is stored and found clean. -/
def sampleState (uploads : Table Upload.key) (work : ℕ → Work) : System where
  uploads := uploads
  bucket := [⟨objectKey 1 2, some (sampleVersion sampleScanned)⟩]
  work := work
  stored := [⟨objectKey 1 2, 7, sampleBytes, some pdfMimeType⟩]
  cleared := [(objectKey 1 2, 7)]

lemma reachable_sampleState :
    System.Reachable List.length (sampleState ⟨[sampleStaged], by simp⟩ fun _ => .idle) := by
  have h₁ : System.Reachable List.length start := Relation.ReflTransGen.refl
  have h₂ := h₁.tail (.createUpload 1 2 ⟨[sampleStaged], by simp⟩ rfl)
  have h₃ := h₂.tail (.put (objectKey 1 2) 7 sampleBytes _ (by simp [start]) rfl)
  have h₄ := h₃.tail (.scan (objectKey 1 2) (sampleVersion samplePending) clean
    (lookup_singleton _ (sampleVersion samplePending)))
  exact h₄

/-- The upload is finalized; the length of the bytes stands for their hash. -/
lemma sample_finalized : ∃ s, System.Reachable List.length s ∧
    sampleStaged.ready ⟨6, 6, 7⟩ ∈ s.uploads.rows ∧ s.cleared = [(objectKey 1 2, 7)] := by
  have hlookup := lookup_singleton (objectKey 1 2) (sampleVersion sampleScanned)
  have h₁ := reachable_sampleState.tail (.head 0 1 2 sampleStaged (sampleVersion sampleScanned) rfl rfl
    rfl (current_singleton _ _) rfl)
  have h₂ := h₁.tail (.tags 0 sampleStaged (sampleVersion sampleScanned).head
    (sampleVersion sampleScanned) rfl hlookup rfl)
  have h₃ := h₂.tail (.bytes 0 sampleStaged 7 (sampleVersion sampleScanned) [sampleBytes] ⟨6, 6, 7⟩
    rfl hlookup rfl rfl)
  have h₄ := h₃.tail (.markReady 0 sampleStaged ⟨6, 6, 7⟩ rfl)
  have hready : sampleStaged.ready ⟨6, 6, 7⟩ ∈
      (markReady ⟨[sampleStaged], by simp⟩ 1 2 ⟨6, 6, 7⟩).rows :=
    Table.mem_updateWhere_of (List.mem_singleton.2 rfl) rfl
  exact ⟨_, h₄, hready, rfl⟩

theorem documents_are_what_was_scanned_sample :
    ∃ s, System.Reachable List.length s ∧ sampleStaged.ready ⟨6, 6, 7⟩ ∈ s.uploads.rows ∧
      ∃ version bytes, (sampleStaged.ready ⟨6, 6, 7⟩).versionId = some version ∧
        (objectKey 1 2, version) ∈ s.cleared ∧ pdfMagic <+: bytes ∧ some bytes.length = some 6 := by
  obtain ⟨s, hs, hrow, -⟩ := sample_finalized
  obtain ⟨version, bytes, hversion, hlength, -, hcleared, hmagic, -⟩ :=
    documents_are_what_was_scanned List.length s hs _ hrow (Or.inl rfl)
  exact ⟨s, hs, hrow, version, bytes, hversion, hcleared, hmagic, hlength.symm⟩

end Payday.Attachments
