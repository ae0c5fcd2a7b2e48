/-
# Issuance is idempotent

The open requests of the calls under way differ from each other and from the committed ones in key
and id, and no two calls hold one attachment (`Sound`); every statement of a call keeps this, since
an insert waits for the uncommitted request of its key and a lock for the lock on its attachment.
So a call that reaches the commit adds the first request of its key and takes a document that is
still ready, and a call that finds its key taken compares itself with the one request of that key.

The comparison is with what the columns give back.  A repeat is recognized exactly when the metadata
comes back from `jsonb` as they were sent and the request was issued with the document it commits to
(`issuance_is_idempotent_iff`).
-/
import Payday.Ledger.Issuance

namespace Payday.Issuance

open Proofs

/-! ### The same issuance -/

section

variable {Json : Type}

/-- What the merchant asserts about a request, the document apart. -/
structure Assertions (Json : Type) where
  networks : List SnapshotNetwork
  currency : String
  tokenDecimals : UInt8
  beneficiary : Address
  amount : ℕ
  expirationIntent : String
  issuer : Party
  billTo : Party
  notes : Option String
  heading : Option String
  reference : Option String
  metadata : Json
  customerId : Option ℕ
  issuerId : Option String
  payerVerification : PayerVerification

def CreateInvoiceInput.assertions (input : CreateInvoiceInput Json) : Assertions Json :=
  ⟨input.issuanceSnapshot.networks, input.currency, input.tokenDecimals, input.beneficiaryAddress,
    input.amount, input.expirationIntent, input.issuer, input.billTo, input.notes, input.heading,
    input.reference, input.metadata, input.customerId, input.issuerId, input.payerVerification⟩

/-- The assertions as the columns give them back. -/
def Assertions.stored (jsonb : Json → Json) (assertions : Assertions Json) : Assertions Json :=
  { assertions with metadata := jsonb assertions.metadata }

/-- The comparison of `same_issuance`: the assertions, and the document the row commits to with the
one that is asked for and with the one that is attached. -/
lemma sameIssuance_iff [DecidableEq Json] {jsonb : Json → Json} {issued input : CreateInvoiceInput Json}
    {doc : Option DbAttachment} {attachmentId : Option AttachmentId} :
    input.sameIssuance (issued.row jsonb) doc attachmentId = true ↔
      issued.assertions.stored jsonb = input.assertions ∧
        issued.issuanceSnapshot.attachment.map (·.id) = attachmentId ∧
        issued.issuanceSnapshot.attachment = doc.bind DbAttachment.commitment := by
  have hamount : (parseDigits (2 ^ 256) (issued.row jsonb).amount).any (fun amount =>
      decide (amount = (parseDigits (2 ^ 256) input.amount.repr).getD 0)) = true ↔
        issued.amount = input.amount := by
    rw [CreateInvoiceInput.row, parseDigits_repr issued.amount_lt, parseDigits_repr input.amount_lt]
    exact decide_eq_true_iff
  have hverification : issued.payerVerification = input.payerVerification ↔
      issued.payerVerification.walletAttestation = input.payerVerification.walletAttestation ∧
      issued.payerVerification.email = input.payerVerification.email ∧
      issued.payerVerification.merchantAuth = input.payerVerification.merchantAuth := by
    rcases issued.payerVerification with ⟨_, _, _⟩
    rcases input.payerVerification with ⟨_, _, _⟩
    simp only [PayerVerification.mk.injEq]
    exact ⟨fun ⟨hemail, hauth, hwallet⟩ => ⟨hwallet, hemail, hauth⟩,
      fun ⟨hwallet, hemail, hauth⟩ => ⟨hemail, hauth, hwallet⟩⟩
  simp only [CreateInvoiceInput.sameIssuance, sameIssuance, Bool.and_eq_true, decide_eq_true_eq,
    hamount, and_assoc]
  simp only [CreateInvoiceInput.row, CreateInvoiceInput.assertions, Assertions.stored,
    Assertions.mk.injEq, hverification, UInt8.toNat_inj, Option.some.injEq, and_assoc]
  constructor
  · rintro ⟨hnetworks, hcurrency, hdecimals, hbeneficiary, hintent, hamount, hreference, hmetadata,
      hcustomer, hissuerId, hissuer, hbillTo, hnotes, hheading, hwallet, hemail, hauth, hdocument⟩
    exact ⟨hnetworks, hcurrency, hdecimals, hbeneficiary, hamount, hintent, hissuer, hbillTo, hnotes,
      hheading, hreference, hmetadata, hcustomer, hissuerId, hwallet, hemail, hauth, hdocument⟩
  · rintro ⟨hnetworks, hcurrency, hdecimals, hbeneficiary, hamount, hintent, hissuer, hbillTo,
      hnotes, hheading, hreference, hmetadata, hcustomer, hissuerId, hwallet, hemail, hauth,
      hdocument⟩
    exact ⟨hnetworks, hcurrency, hdecimals, hbeneficiary, hintent, hamount, hreference, hmetadata,
      hcustomer, hissuerId, hissuer, hbillTo, hnotes, hheading, hwallet, hemail, hauth, hdocument⟩

end

/-! ### The invariant -/

section

variable {Json : Type}

/-- The request that a call has issued. -/
def Process.issued? (p : Process Json) : Option (DbInvoice Json) :=
  match p.phase with
  | .done (.ok ⟨row, _, false⟩) => some row
  | _ => none

/-- What the tables say about a call. -/
structure Process.Ok (jsonb : Json → Json) (T : Tables Json) (p : Process Json) : Prop where
  /-- The request it has inserted is the first of its key and of its id. -/
  fresh : ∀ row, p.phase.open? = some row → row = p.call.input.row jsonb ∧
    ∀ r ∈ T.requests, r.key ≠ row.key ∧ r.id ≠ row.id
  /-- The attachment it has locked is its own, and ready. -/
  locked : ∀ a, p.phase.lock? = some a → p.call.attachmentId = some a ∧
    ∃ doc, T.findAttachment p.call.input.accountId a = some doc ∧ doc.status = .ready
  /-- It has locked the attachment it was called with before it commits. -/
  bound : ∀ row attachment, (p.phase = .notifying row attachment ∨
    ∃ notification, p.phase = .committing row attachment notification) →
    attachment.map (·.id) = p.call.attachmentId
  replaying : ∀ row, p.phase = .replaying row → row ∈ T.requests ∧ row.key = p.call.input.key
  issued : ∀ row, p.issued? = some row → row = p.call.input.row jsonb ∧ row ∈ T.requests ∧
    ∀ a, p.call.attachmentId = some a → ∃ doc, T.attachments.find? a = some doc ∧
      doc.status = .attached ∧ doc.invoiceId = some row.id

/-- Two calls do not get in each other's way. -/
structure Process.Apart (p q : Process Json) : Prop where
  rows : ∀ row row', p.phase.open? = some row → q.phase.open? = some row' →
    row.key ≠ row'.key ∧ row.id ≠ row'.id
  locks : ∀ a, p.phase.lock? = some a → q.phase.lock? ≠ some a
  issued : ∀ row row', p.issued? = some row → q.issued? = some row' → row.key ≠ row'.key

lemma Process.Apart.symm {p q : Process Json} (h : p.Apart q) : q.Apart p where
  rows row row' hrow hrow' :=
    ⟨(h.rows row' row hrow' hrow).1.symm, (h.rows row' row hrow' hrow).2.symm⟩
  locks a ha hp := h.locks a hp ha
  issued row row' hrow hrow' := (h.issued row' row hrow' hrow).symm

/-- The tables and the calls under way. -/
structure State.Sound (jsonb : Json → Json) (s : State Json) : Prop where
  keys : (s.tables.requests.map DbInvoice.key).Nodup
  ids : (s.tables.requests.map DbInvoice.id).Nodup
  /-- A document that can be issued has its commitment. -/
  finalized : ∀ doc ∈ s.tables.attachments.rows, doc.status = .ready ∨ doc.status = .attached →
    doc.commitment.isSome
  /-- An upload that is not finalized has none. -/
  unfinalized : ∀ doc ∈ s.tables.attachments.rows, doc.isUnfinalized = true → doc.commitment = none
  /-- A document that is not attached belongs to no request. -/
  unbound : ∀ doc ∈ s.tables.attachments.rows, doc.status ≠ .attached → doc.invoiceId = none
  ok : ∀ i p, s.process? i = some p → p.Ok jsonb s.tables
  apart : ∀ i j p q, i ≠ j → s.process? i = some p → s.process? j = some q → p.Apart q
  /-- A request was issued by a call. -/
  issuer : ∀ row ∈ s.tables.requests, ∃ i p, s.process? i = some p ∧ p.issued? = some row
  /-- An attached document was attached by the call that issued its request. -/
  attached : ∀ doc ∈ s.tables.attachments.rows, doc.status = .attached →
    ∃ i p row, s.process? i = some p ∧ p.issued? = some row ∧
      p.call.attachmentId = some doc.id ∧ doc.invoiceId = some row.id

/-- A call that has written nothing and holds nothing. -/
lemma Process.Ok.of_quiet {jsonb : Json → Json} {T : Tables Json} {p : Process Json}
    (hrow : p.phase.open? = none) (hlock : p.phase.lock? = none)
    (hreplaying : ∀ row, p.phase = .replaying row → row ∈ T.requests ∧ row.key = p.call.input.key)
    (hissued : p.issued? = none) : p.Ok jsonb T where
  fresh row h := by simp [hrow] at h
  locked a h := by simp [hlock] at h
  bound row attachment h := by
    rcases h with h | ⟨notification, h⟩ <;> simp [h, Phase.open?] at hrow
  replaying := hreplaying
  issued row h := by simp [hissued] at h

/-- A call that has no more than it had before is as far from the others. -/
lemma Process.Apart.of_le {p p' q : Process Json} (h : p.Apart q)
    (hrow : p'.phase.open? = none ∨ p'.phase.open? = p.phase.open?)
    (hlock : p'.phase.lock? = none ∨ p'.phase.lock? = p.phase.lock?)
    (hissued : p'.issued? = none) : p'.Apart q where
  rows row row' hp hq := by
    rcases hrow with hrow | hrow <;> rw [hrow] at hp
    · cases hp
    · exact h.rows row row' hp hq
  locks a hp := by
    rcases hlock with hlock | hlock <;> rw [hlock] at hp
    · cases hp
    · exact h.locks a hp
  issued row row' hp := by
    rw [hissued] at hp
    cases hp

/-! ### A statement that is not a commit -/

variable {jsonb : Json → Json} {s : State Json} {i : CallId} {p : Process Json}

/-- The calls after one of them has moved. -/
lemma State.process?_set (hp : s.process? i = some p) (T : Tables Json) (p' : Process Json)
    (j : CallId) : State.process? ⟨T, s.processes.set i p'⟩ j =
      if j = i then some p' else s.process? j := by
  have hlt : i < s.processes.length := (List.getElem?_eq_some_iff.1 hp).1
  show (s.processes.set i p')[j]? = _
  rw [List.getElem?_set]
  by_cases hj : i = j
  · rw [if_pos hj, if_pos hlt, if_pos hj.symm]
  · rw [if_neg hj, if_neg (Ne.symm hj)]
    rfl

/-- A call that has issued is not the one that moves. -/
lemma State.process?_set_issued (hp : s.process? i = some p) (hnew : p.issued? = none)
    (T : Tables Json) (p' : Process Json) {j : CallId} {q : Process Json} {row : DbInvoice Json}
    (hq : s.process? j = some q) (hrow : q.issued? = some row) :
    State.process? ⟨T, s.processes.set i p'⟩ j = some q := by
  have hj : j ≠ i := by
    rintro rfl
    rw [hp] at hq
    cases hq
    rw [hnew] at hrow
    cases hrow
  rw [process?_set hp, if_neg hj]
  exact hq

/-- A statement of a call that leaves the tables. -/
lemma State.Sound.setPhase (hs : s.Sound jsonb) (hp : s.process? i = some p)
    (hnew : p.issued? = none) {p' : Process Json} (hok : p'.Ok jsonb s.tables)
    (hapart : ∀ j q, j ≠ i → s.process? j = some q → p'.Apart q) :
    State.Sound jsonb ⟨s.tables, s.processes.set i p'⟩ := by
  refine ⟨hs.keys, hs.ids, hs.finalized, hs.unfinalized, hs.unbound, ?_, ?_, ?_, ?_⟩
  · intro j q hq
    rw [process?_set hp] at hq
    split at hq
    · cases hq
      exact hok
    · exact hs.ok j q hq
  · intro j k q r hjk hq hr
    rw [process?_set hp] at hq hr
    split at hq
    · rename_i hj
      cases hq
      rw [if_neg fun hk => hjk (hj.trans hk.symm)] at hr
      exact hapart k r (fun hk => hjk (hj.trans hk.symm)) hr
    · rename_i hj
      split at hr
      · cases hr
        exact (hapart j q hj hq).symm
      · exact hs.apart j k q r hjk hq hr
  · intro row hrow
    obtain ⟨j, q, hq, hissuer⟩ := hs.issuer row hrow
    exact ⟨j, q, process?_set_issued hp hnew _ _ hq hissuer, hissuer⟩
  · intro doc hdoc hstatus
    obtain ⟨j, q, row, hq, hissuer, hof⟩ := hs.attached doc hdoc hstatus
    exact ⟨j, q, row, process?_set_issued hp hnew _ _ hq hissuer, hissuer, hof⟩

/-- A statement after which the call holds nothing. -/
lemma State.Sound.setQuiet (hs : s.Sound jsonb) (hp : s.process? i = some p)
    (hnew : p.issued? = none) {p' : Process Json} (hrow : p'.phase.open? = none)
    (hlock : p'.phase.lock? = none) (hissued : p'.issued? = none)
    (hreplaying : ∀ row, p'.phase = .replaying row →
      row ∈ s.tables.requests ∧ row.key = p'.call.input.key) :
    State.Sound jsonb ⟨s.tables, s.processes.set i p'⟩ := by
  refine hs.setPhase hp hnew (.of_quiet hrow hlock hreplaying hissued) ?_
  intro j q hj hq
  exact (hs.apart i j p q hj.symm hp hq).of_le (Or.inl hrow) (Or.inl hlock) hissued

/-- A statement after which the call holds what it held. -/
lemma State.Sound.setSame (hs : s.Sound jsonb) (hp : s.process? i = some p)
    (hnew : p.issued? = none) {p' : Process Json} (hcall : p'.call = p.call)
    (hrow : p'.phase.open? = p.phase.open?) (hlock : p'.phase.lock? = p.phase.lock?)
    (hissued : p'.issued? = none) (hreplaying : ∀ row, p'.phase ≠ .replaying row)
    (hbound : ∀ row attachment, (p'.phase = .notifying row attachment ∨
      ∃ notification, p'.phase = .committing row attachment notification) →
      attachment.map (·.id) = p.call.attachmentId) :
    State.Sound jsonb ⟨s.tables, s.processes.set i p'⟩ := by
  have hok := hs.ok i p hp
  refine hs.setPhase hp hnew ⟨?_, ?_, ?_, ?_, ?_⟩ ?_
  · rw [hrow, hcall]
    exact hok.fresh
  · rw [hlock, hcall]
    exact hok.locked
  · rw [hcall]
    exact hbound
  · intro row h
    exact absurd h (hreplaying row)
  · intro row h
    rw [hissued] at h
    cases h
  · intro j q hj hq
    exact (hs.apart i j p q hj.symm hp hq).of_le (Or.inr hrow) (Or.inr hlock) hissued

lemma Tables.findByKey_some {T : Tables Json} {key : Key} {row : DbInvoice Json}
    (h : T.findByKey key = some row) : row ∈ T.requests ∧ row.key = key :=
  ⟨List.mem_of_find?_eq_some h, by simpa using List.find?_some h⟩

lemma Tables.findByKey_none {T : Tables Json} {key : Key} (h : T.findByKey key = none) :
    ∀ row ∈ T.requests, row.key ≠ key := by
  simpa [Tables.findByKey] using h

lemma Tables.findAttachment_some {T : Tables Json} {account : AccountId} {a : AttachmentId}
    {doc : DbAttachment} (h : T.findAttachment account a = some doc) :
    T.attachments.find? a = some doc ∧ doc.id = a ∧ doc.accountId = account := by
  obtain ⟨hfind, haccount⟩ := Option.filter_eq_some_iff.1 h
  exact ⟨hfind, Table.key_of_find? hfind, by simpa using haccount⟩

/-- Nobody else has such a request open. -/
lemma State.not_heldByOther {f : DbInvoice Json → Bool} (h : ¬ s.heldByOther i f = true) {j : CallId}
    {q : Process Json} {row : DbInvoice Json} (hj : j ≠ i) (hq : s.process? j = some q)
    (hrow : q.phase.open? = some row) : f row = false := by
  by_contra hf
  refine h (List.any_eq_true.2 ⟨j, ?_, ?_⟩)
  · exact List.mem_range.2 (List.getElem?_eq_some_iff.1 hq).1
  · simp [hj, hq, hrow, Bool.not_eq_false _ ▸ hf]

lemma State.not_isLocked {a : AttachmentId} (h : ¬ s.isLocked a = true) {j : CallId}
    {q : Process Json} (hq : s.process? j = some q) : q.phase.lock? ≠ some a := by
  intro hlock
  exact h (List.any_eq_true.2 ⟨q, List.mem_of_getElem? hq, by simpa using hlock⟩)

/-- The insert of a request whose key and id are free. -/
lemma State.Sound.insert {call : Call Json} (hs : s.Sound jsonb)
    (hp : s.process? i = some ⟨call, .inserting⟩)
    (hkey : ¬ s.heldByOther i (fun row => row.key = call.input.key) = true)
    (hfree : s.tables.findByKey call.input.key = none)
    (hid : ¬ s.heldByOther i (fun row => row.id = call.input.id) = true)
    (hnone : ¬ s.tables.requests.any (fun row => row.id = call.input.id) = true) :
    State.Sound jsonb ⟨s.tables, s.processes.set i ⟨call, .attaching (call.input.row jsonb)⟩⟩ := by
  refine hs.setPhase hp rfl ⟨?_, ?_, ?_, ?_, ?_⟩ ?_
  · rintro row ⟨rfl⟩
    refine ⟨rfl, fun r hr => ⟨Tables.findByKey_none hfree r hr, fun heq => hnone ?_⟩⟩
    exact List.any_eq_true.2 ⟨r, hr, decide_eq_true heq⟩
  · rintro a ⟨⟩
  · rintro row attachment (h | ⟨_, h⟩) <;> cases h
  · rintro row ⟨⟩
  · rintro row ⟨⟩
  · intro j q hj hq
    refine ⟨?_, ?_, ?_⟩
    · rintro row row' ⟨rfl⟩ hrow'
      have hne := not_heldByOther hkey hj hq hrow'
      have hne' := not_heldByOther hid hj hq hrow'
      exact ⟨fun heq => of_decide_eq_false hne heq.symm, fun heq => of_decide_eq_false hne' heq.symm⟩
    · rintro a ⟨⟩
    · rintro row row' ⟨⟩

/-- The lock on an attachment that nobody holds. -/
lemma State.Sound.lock {call : Call Json} {row : DbInvoice Json} {a : AttachmentId}
    {doc : DbAttachment} (hs : s.Sound jsonb) (hp : s.process? i = some ⟨call, .attaching row⟩)
    (ha : call.attachmentId = some a)
    (hdoc : s.tables.findAttachment call.input.accountId a = some doc)
    (hfree : ¬ s.isLocked a = true) (hready : doc.status = .ready) :
    State.Sound jsonb ⟨s.tables, s.processes.set i ⟨call, .binding row doc⟩⟩ := by
  have hid := (Tables.findAttachment_some hdoc).2.1
  refine hs.setPhase hp rfl ⟨?_, ?_, ?_, ?_, ?_⟩ ?_
  · exact (hs.ok i _ hp).fresh
  · rintro b ⟨rfl⟩
    rw [hid]
    exact ⟨ha, doc, hdoc, hready⟩
  · rintro row attachment (h | ⟨_, h⟩) <;> cases h
  · rintro row ⟨⟩
  · rintro row ⟨⟩
  · intro j q hj hq
    refine ⟨(hs.apart i j _ q hj.symm hp hq).rows, ?_, ?_⟩
    · rintro b ⟨rfl⟩
      rw [hid]
      exact not_isLocked hfree hq
    · rintro row row' ⟨⟩

/-! ### The commit -/

/-- The attachments after a commit. -/
lemma Tables.find?_commit (T : Tables Json) (row : DbInvoice Json) (attachment : Option DbAttachment)
    (notification : Option Notification) (a : AttachmentId) :
    (T.commit row attachment notification).attachments.find? a =
      if some a = attachment.map (·.id) then (T.attachments.find? a).map (DbAttachment.attach row.id)
      else T.attachments.find? a := by
  have hfind := T.attachments.find?_updateWhere
    (fun doc => decide (some doc.id = attachment.map (·.id))) (DbAttachment.attach row.id)
    (fun _ => rfl) a
  refine hfind.trans ?_
  rcases hdoc : T.attachments.find? a with _ | doc
  · simp
  · have hid : doc.id = a := Table.key_of_find? hdoc
    simp only [Option.map_some, hid, decide_eq_true_eq]
    split <;> rfl

/-- A committed request is an old one or the new one. -/
lemma Tables.mem_commit {T : Tables Json} {row r : DbInvoice Json} {attachment : Option DbAttachment}
    {notification : Option Notification} :
    r ∈ (T.commit row attachment notification).requests ↔ r ∈ T.requests ∨ r = row := by
  simp [Tables.commit]

variable {call : Call Json} {row : DbInvoice Json} {attachment : Option DbAttachment}
  {notification : Option Notification}

/-- What the commit means to another call. -/
lemma State.Sound.ok_commit (hs : s.Sound jsonb)
    (hp : s.process? i = some ⟨call, .committing row attachment notification⟩) {j : CallId}
    {q : Process Json} (hj : j ≠ i) (hq : s.process? j = some q) :
    q.Ok jsonb (s.tables.commit row attachment notification) := by
  have hok := hs.ok j q hq
  have hapart := hs.apart i j _ q hj.symm hp hq
  refine ⟨?_, ?_, hok.bound, ?_, ?_⟩
  · intro row' hrow'
    obtain ⟨heq, hfresh⟩ := hok.fresh row' hrow'
    refine ⟨heq, fun r hr => ?_⟩
    rcases Tables.mem_commit.1 hr with hr | rfl
    · exact hfresh r hr
    · exact hapart.rows _ _ rfl hrow'
  · intro a ha
    obtain ⟨hof, doc, hdoc, hready⟩ := hok.locked a ha
    -- the committing call holds another attachment
    have hne : some a ≠ attachment.map (·.id) := fun heq => hapart.locks a heq.symm ha
    refine ⟨hof, doc, ?_, hready⟩
    rw [Tables.findAttachment, Tables.find?_commit, if_neg hne]
    exact hdoc
  · intro r hr
    exact ⟨Tables.mem_commit.2 (Or.inl (hok.replaying r hr).1), (hok.replaying r hr).2⟩
  · intro row' hrow'
    obtain ⟨heq, hmem, hdocs⟩ := hok.issued row' hrow'
    refine ⟨heq, Tables.mem_commit.2 (Or.inl hmem), fun a ha => ?_⟩
    obtain ⟨doc, hdoc, hattached, hinvoice⟩ := hdocs a ha
    -- the attachment of the committing call is ready, this one is attached
    have hne : some a ≠ attachment.map (·.id) := by
      intro h
      obtain ⟨-, doc', hdoc', hready⟩ := (hs.ok i _ hp).locked a h.symm
      rw [(Tables.findAttachment_some hdoc').1] at hdoc
      cases hdoc
      rw [hready] at hattached
      cases hattached
    refine ⟨doc, ?_, hattached, hinvoice⟩
    rw [Tables.find?_commit, if_neg hne]
    exact hdoc

/-- What the commit means to the call itself. -/
lemma State.Sound.ok_committed (hs : s.Sound jsonb)
    (hp : s.process? i = some ⟨call, .committing row attachment notification⟩) :
    Process.Ok jsonb (s.tables.commit row attachment notification)
      ⟨call, .done (.ok ⟨row, attachment, false⟩)⟩ := by
  have hok := hs.ok i _ hp
  refine ⟨?_, ?_, ?_, ?_, ?_⟩
  · rintro r ⟨⟩
  · rintro a ⟨⟩
  · rintro r doc (h | ⟨_, h⟩) <;> cases h
  · rintro r ⟨⟩
  · rintro r ⟨rfl⟩
    refine ⟨(hok.fresh _ rfl).1, Tables.mem_commit.2 (Or.inr rfl), fun a ha => ?_⟩
    have hbound : attachment.map (·.id) = some a :=
      (hok.bound _ _ (Or.inr ⟨_, rfl⟩)).trans ha
    obtain ⟨-, doc, hdoc, -⟩ := hok.locked a hbound
    refine ⟨doc.attach row.id, ?_, rfl, rfl⟩
    rw [Tables.find?_commit, if_pos hbound.symm, (Tables.findAttachment_some hdoc).1]
    rfl

/-- A document after the commit is an old one or the one that the call has attached. -/
lemma State.Sound.document_commit (hs : s.Sound jsonb)
    (hp : s.process? i = some ⟨call, .committing row attachment notification⟩) {doc : DbAttachment}
    (hdoc : doc ∈ (s.tables.commit row attachment notification).attachments.rows) :
    doc ∈ s.tables.attachments.rows ∨ (call.attachmentId = some doc.id ∧
      ∃ old ∈ s.tables.attachments.rows, old.status = .ready ∧ doc = old.attach row.id) := by
  have hrows := List.mem_map.1 hdoc
  obtain ⟨old, hold, rfl⟩ := hrows
  by_cases hid : some old.id = attachment.map (·.id)
  · right
    obtain ⟨hof, doc', hdoc', hready⟩ :=
      (hs.ok i _ hp).locked old.id hid.symm
    have heq : s.tables.attachments.find? old.id = some old := Table.find?_of_mem hold
    rw [(Tables.findAttachment_some hdoc').1] at heq
    cases heq
    simp only [hid, decide_true, if_true]
    exact ⟨hof, _, hold, hready, rfl⟩
  · left
    simpa [hid] using hold

lemma State.Sound.commit (hs : s.Sound jsonb)
    (hp : s.process? i = some ⟨call, .committing row attachment notification⟩) :
    State.Sound jsonb ⟨s.tables.commit row attachment notification,
      s.processes.set i ⟨call, .done (.ok ⟨row, attachment, false⟩)⟩⟩ := by
  have hfresh := ((hs.ok i _ hp).fresh _ rfl).2
  have hnodup : ∀ {β : Type} (column : DbInvoice Json → β),
      (s.tables.requests.map column).Nodup → (∀ r ∈ s.tables.requests, column r ≠ column row) →
      ((s.tables.commit row attachment notification).requests.map column).Nodup := by
    intro β column hold hne
    rw [Tables.commit, List.map_append, List.map_singleton]
    refine hold.append (List.nodup_singleton _) (List.disjoint_singleton.2 ?_)
    rintro hmem
    obtain ⟨r, hr, heq⟩ := List.mem_map.1 hmem
    exact hne r hr heq
  refine ⟨hnodup _ hs.keys fun r hr => (hfresh r hr).1, hnodup _ hs.ids fun r hr => (hfresh r hr).2,
    ?_, ?_, ?_, ?_, ?_, ?_, ?_⟩
  · intro doc hdoc hstatus
    rcases hs.document_commit hp hdoc with hold | ⟨-, old, hold, hready, rfl⟩
    · exact hs.finalized doc hold hstatus
    · exact hs.finalized old hold (Or.inl hready)
  · intro doc hdoc hstatus
    rcases hs.document_commit hp hdoc with hold | ⟨-, old, hold, hready, rfl⟩
    · exact hs.unfinalized doc hold hstatus
    · simp [DbAttachment.isUnfinalized, DbAttachment.attach] at hstatus
  · intro doc hdoc hstatus
    rcases hs.document_commit hp hdoc with hold | ⟨-, old, hold, hready, rfl⟩
    · exact hs.unbound doc hold hstatus
    · exact absurd rfl hstatus
  · intro j q hq
    rw [process?_set hp] at hq
    split at hq
    · cases hq
      exact hs.ok_committed hp
    · rename_i hj
      exact hs.ok_commit hp hj hq
  · -- a request that another call has issued has another key
    have hself : ∀ j q, j ≠ i → s.process? j = some q →
        Process.Apart ⟨call, .done (.ok ⟨row, attachment, false⟩)⟩ q := by
      intro j q hj hq
      refine ⟨?_, ?_, ?_⟩
      · rintro r r' ⟨⟩
      · rintro a ⟨⟩
      · rintro r r' ⟨rfl⟩ hr' heq
        exact (hfresh r' ((hs.ok j q hq).issued r' hr').2.1).1 heq.symm
    intro j k q r hjk hq hr
    rw [process?_set hp] at hq hr
    split at hq
    · rename_i hj
      cases hq
      rw [if_neg fun hk => hjk (hj.trans hk.symm)] at hr
      exact hself k r (fun hk => hjk (hj.trans hk.symm)) hr
    · rename_i hj
      split at hr
      · cases hr
        exact (hself j q hj hq).symm
      · exact hs.apart j k q r hjk hq hr
  · intro r hr
    rcases Tables.mem_commit.1 hr with hr | rfl
    · obtain ⟨j, q, hq, hissuer⟩ := hs.issuer r hr
      exact ⟨j, q, process?_set_issued hp rfl _ _ hq hissuer, hissuer⟩
    · refine ⟨i, ⟨call, .done (.ok ⟨r, attachment, false⟩)⟩, ?_, rfl⟩
      rw [process?_set hp, if_pos rfl]
  · intro doc hdoc hstatus
    rcases hs.document_commit hp hdoc with hold | ⟨hof, old, hold, hready, rfl⟩
    · obtain ⟨j, q, r, hq, hissuer, hof⟩ := hs.attached doc hold hstatus
      exact ⟨j, q, r, process?_set_issued hp rfl _ _ hq hissuer, hissuer, hof⟩
    · refine ⟨i, ⟨call, .done (.ok ⟨row, attachment, false⟩)⟩, row, ?_, rfl, hof, rfl⟩
      rw [process?_set hp, if_pos rfl]

/-! ### Every event -/

/-- A statement of a call, by the phase the call is in. -/
lemma State.advance_eq_some [DecidableEq Json] {s' : State Json} (h : s.advance jsonb i = some s') :
    ∃ p phase, s.process? i = some p ∧ s.advancePhase jsonb i p.call p.phase = some phase ∧
      s' = ⟨s.advanceTables p.phase, s.processes.set i ⟨p.call, phase⟩⟩ := by
  obtain ⟨p, hp, hmap⟩ := Option.bind_eq_some_iff.1 h
  obtain ⟨phase, hphase, rfl⟩ := Option.map_eq_some_iff.1 hmap
  exact ⟨p, phase, hp, hphase, rfl⟩

/-- A call that has ended takes no statement. -/
lemma Process.issued?_of_advance [DecidableEq Json] {phase : Phase Json}
    (h : s.advancePhase jsonb i p.call p.phase = some phase) : p.issued? = none := by
  obtain ⟨call, old⟩ := p
  cases old with
  | done result => cases h
  | _ => rfl

lemma State.Sound.advance [DecidableEq Json] (hs : s.Sound jsonb) {s' : State Json}
    (h : s.advance jsonb i = some s') : s'.Sound jsonb := by
  obtain ⟨⟨call, old⟩, phase, hp, hphase, rfl⟩ := advance_eq_some h
  have hnew : Process.issued? ⟨call, old⟩ = none := Process.issued?_of_advance hphase
  have hdone : ∀ error, State.Sound jsonb
      ⟨s.tables, s.processes.set i ⟨call, .done (.error error)⟩⟩ :=
    fun error => hs.setQuiet hp hnew rfl rfl rfl (by rintro row ⟨⟩)
  cases old with
  | selecting =>
    cases hphase
    rcases hfound : s.tables.findByKey call.input.key with _ | existing
    · exact hs.setQuiet hp hnew rfl rfl rfl (by rintro row ⟨⟩)
    · refine hs.setQuiet hp hnew rfl rfl rfl ?_
      rintro row ⟨rfl⟩
      exact Tables.findByKey_some hfound
  | inserting =>
    simp only [advancePhase] at hphase
    split at hphase
    · cases hphase
    · rename_i hkey
      split at hphase
      · cases hphase
        exact hs.setQuiet hp hnew rfl rfl rfl (by rintro row ⟨⟩)
      · rename_i hfree
        split at hphase
        · cases hphase
        · rename_i hid
          split at hphase
          · cases hphase
            exact hdone .database
          · rename_i hnone
            cases hphase
            exact hs.insert hp hkey (Option.not_isSome_iff_eq_none.1 hfree) hid hnone
  | reselecting =>
    cases hphase
    rcases hfound : s.tables.findByKey call.input.key with _ | existing
    · exact hdone .database
    · refine hs.setQuiet hp hnew rfl rfl rfl ?_
      rintro row ⟨rfl⟩
      exact Tables.findByKey_some hfound
  | replaying existing =>
    cases hphase
    unfold Tables.replay
    split
    · exact hs.setQuiet hp hnew rfl rfl rfl (by rintro row ⟨⟩)
    · exact hdone .idempotencyConflict
  | attaching row =>
    simp only [advancePhase] at hphase
    split at hphase
    · rename_i hnone
      cases hphase
      refine hs.setSame hp hnew rfl rfl rfl rfl (by rintro row ⟨⟩) ?_
      rintro row attachment (h | ⟨_, h⟩) <;> cases h
      exact hnone.symm
    · rename_i a ha
      split at hphase
      · cases hphase
        exact hdone .attachmentNotFound
      · rename_i doc hdoc
        split at hphase
        · cases hphase
        · rename_i hfree
          cases hphase
          split
          · rename_i hready
            exact hs.lock hp ha hdoc hfree hready
          · exact hdone .attachmentAlreadyAttached
          · exact hdone .attachmentNotReady
  | binding row locked =>
    cases hphase
    split
    · rename_i doc hdoc
      obtain ⟨hfound, -⟩ := Option.filter_eq_some_iff.1 hdoc
      have hid : doc.id = locked.id := (Tables.findAttachment_some hfound).2.1
      refine hs.setSame hp hnew rfl rfl (congrArg some hid) rfl (by rintro row ⟨⟩) ?_
      rintro row attachment (h | ⟨_, h⟩) <;> cases h
      exact (congrArg some hid).trans ((hs.ok i _ hp).locked locked.id rfl).1.symm
    · exact hdone .attachmentNotReady
  | notifying row attachment =>
    cases hphase
    refine hs.setSame hp hnew rfl rfl rfl rfl (by rintro row ⟨⟩) ?_
    rintro row' attachment' (h | ⟨_, h⟩) <;> cases h
    exact (hs.ok i _ hp).bound _ _ (Or.inl rfl)
  | committing row attachment notification =>
    cases hphase
    exact hs.commit hp
  | done result => cases hphase

lemma State.Sound.fail (hs : s.Sound jsonb) {s' : State Json} (h : s.fail i = some s') :
    s'.Sound jsonb := by
  obtain ⟨⟨call, phase⟩, hp, hphase⟩ := Option.bind_eq_some_iff.1 h
  cases phase with
  | done result => cases hphase
  | _ =>
    cases hphase
    exact hs.setQuiet hp rfl rfl rfl rfl (by rintro row ⟨⟩)

lemma State.Sound.start (hs : s.Sound jsonb) (call : Call Json) :
    State.Sound jsonb ⟨s.tables, s.processes ++ [⟨call, .selecting⟩]⟩ := by
  have hprocess : ∀ j q, State.process? ⟨s.tables, s.processes ++ [⟨call, .selecting⟩]⟩ j = some q →
      s.process? j = some q ∨ (j = s.processes.length ∧ q = ⟨call, .selecting⟩) := by
    intro j q hq
    rcases lt_trichotomy j s.processes.length with hj | rfl | hj
    · exact Or.inl ((List.getElem?_append_left hj).symm.trans hq)
    · exact Or.inr ⟨rfl, (Option.some.inj (List.getElem?_concat_length.symm.trans hq)).symm⟩
    · have hnone : (s.processes ++ [⟨call, .selecting⟩])[j]? = none :=
        List.getElem?_eq_none (by simpa using Nat.succ_le_of_lt hj)
      exact absurd (hnone.symm.trans hq) (by simp)
  have hkept : ∀ j q, s.process? j = some q →
      State.process? ⟨s.tables, s.processes ++ [⟨call, .selecting⟩]⟩ j = some q := by
    intro j q hq
    exact (List.getElem?_append_left (List.getElem?_eq_some_iff.1 hq).1).trans hq
  have hapart : ∀ q : Process Json, Process.Apart ⟨call, .selecting⟩ q :=
    fun q => ⟨by rintro r r' ⟨⟩, by rintro a ⟨⟩, by rintro r r' ⟨⟩⟩
  refine ⟨hs.keys, hs.ids, hs.finalized, hs.unfinalized, hs.unbound, ?_, ?_, ?_, ?_⟩
  · intro j q hq
    rcases hprocess j q hq with hq | ⟨-, rfl⟩
    · exact hs.ok j q hq
    · exact .of_quiet rfl rfl (by rintro row ⟨⟩) rfl
  · intro j k q r hjk hq hr
    rcases hprocess j q hq with hq | ⟨hj, rfl⟩
    · rcases hprocess k r hr with hr | ⟨-, rfl⟩
      · exact hs.apart j k q r hjk hq hr
      · exact (hapart q).symm
    · exact hapart r
  · intro row hrow
    obtain ⟨j, q, hq, hissuer⟩ := hs.issuer row hrow
    exact ⟨j, q, hkept j q hq, hissuer⟩
  · intro doc hdoc hstatus
    obtain ⟨j, q, row, hq, hof⟩ := hs.attached doc hdoc hstatus
    exact ⟨j, q, row, hkept j q hq, hof⟩

/-- A change of the attachments that leaves the locked and the attached ones. -/
lemma State.Sound.setAttachments (hs : s.Sound jsonb) {docs : Table DbAttachment.id}
    (hfinalized : ∀ doc ∈ docs.rows, doc.status = .ready ∨ doc.status = .attached →
      doc.commitment.isSome)
    (hunfinalized : ∀ doc ∈ docs.rows, doc.isUnfinalized = true → doc.commitment = none)
    (hunbound : ∀ doc ∈ docs.rows, doc.status ≠ .attached → doc.invoiceId = none)
    (hattached : ∀ a doc, doc.status = .attached →
      (docs.find? a = some doc ↔ s.tables.attachments.find? a = some doc))
    (hlocked : ∀ a doc, s.isLocked a = true → s.tables.attachments.find? a = some doc →
      docs.find? a = some doc) :
    State.Sound jsonb ⟨{ s.tables with attachments := docs }, s.processes⟩ := by
  refine ⟨hs.keys, hs.ids, hfinalized, hunfinalized, hunbound, ?_, hs.apart, hs.issuer, ?_⟩
  · intro j q hq
    have hok := hs.ok j q hq
    refine ⟨hok.fresh, ?_, hok.bound, hok.replaying, ?_⟩
    · intro a ha
      obtain ⟨hof, doc, hdoc, hready⟩ := hok.locked a ha
      obtain ⟨hfound, haccount⟩ := Option.filter_eq_some_iff.1 hdoc
      have hheld : s.isLocked a = true :=
        List.any_eq_true.2 ⟨q, List.mem_of_getElem? hq, decide_eq_true ha⟩
      exact ⟨hof, doc, Option.filter_eq_some_iff.2 ⟨hlocked a doc hheld hfound, haccount⟩, hready⟩
    · intro row hrow
      obtain ⟨heq, hmem, hdocs⟩ := hok.issued row hrow
      refine ⟨heq, hmem, fun a ha => ?_⟩
      obtain ⟨doc, hdoc, hstatus, hinvoice⟩ := hdocs a ha
      exact ⟨doc, (hattached a doc hstatus).2 hdoc, hstatus, hinvoice⟩
  · intro doc hdoc hstatus
    have hold := (hattached doc.id doc hstatus).1 (Table.find?_of_mem hdoc)
    exact hs.attached doc (Table.mem_of_find? hold) hstatus

/-- A statement on an attachment that is not attached, and that does not attach it. -/
lemma State.Sound.updateAttachment (hs : s.Sound jsonb) (account : AccountId) (id : AttachmentId)
    {f : DbAttachment → Bool} {g : DbAttachment → DbAttachment} (hg : ∀ doc, (g doc).id = doc.id)
    (hbefore : ∀ doc, f doc = true → doc.status ≠ .attached)
    (hafter : ∀ doc, (g doc).status ≠ .attached) (hinvoice : ∀ doc, (g doc).invoiceId = doc.invoiceId)
    (hready : ∀ doc, (g doc).status = .ready → (g doc).commitment.isSome)
    (hclosed : ∀ doc, (g doc).isUnfinalized = false) :
    (s.updateAttachment account id f g hg).Sound jsonb := by
  unfold State.updateAttachment
  split
  · exact hs
  rename_i hfree
  refine hs.setAttachments ?_ ?_ ?_ ?_ ?_
  · intro doc hdoc hstatus
    rcases Table.mem_updateWhere hdoc with ⟨old, -, -, rfl⟩ | ⟨hold, -⟩
    · exact hready old (hstatus.resolve_right (hafter old))
    · exact hs.finalized doc hold hstatus
  · intro doc hdoc hstatus
    rcases Table.mem_updateWhere hdoc with ⟨old, -, -, rfl⟩ | ⟨hold, -⟩
    · rw [hclosed] at hstatus
      cases hstatus
    · exact hs.unfinalized doc hold hstatus
  · intro doc hdoc hstatus
    rcases Table.mem_updateWhere hdoc with ⟨old, hold, hp, rfl⟩ | ⟨hold, -⟩
    · rw [hinvoice]
      exact hs.unbound old hold (hbefore old (Bool.and_eq_true_iff.1 hp).2)
    · exact hs.unbound doc hold hstatus
  · intro a doc hstatus
    rw [Table.find?_updateWhere]
    rcases s.tables.attachments.find? a with _ | old
    · simp
    simp only [Option.map_some, Option.some.injEq]
    split
    · rename_i hp
      have hne := hbefore old (Bool.and_eq_true_iff.1 hp).2
      exact ⟨fun heq => absurd hstatus (heq ▸ hafter old), fun heq => absurd hstatus (heq ▸ hne)⟩
    · rfl
  · intro a doc hheld hfound
    have hne : doc.id ≠ id := by
      rintro rfl
      rw [← Table.key_of_find? hfound] at hheld
      exact hfree hheld
    rw [Table.find?_updateWhere, hfound]
    simp [hne]

/-- A new upload. -/
lemma State.Sound.createUpload [DecidableEq Json] (hs : s.Sound jsonb) (account : AccountId)
    (id : AttachmentId) : (s.step jsonb (.createUpload account id)).Sound jsonb := by
  show State.Sound jsonb ⟨{ s.tables with attachments := (s.tables.attachments.insertNew
    ⟨id, account, none, none, none, .pendingUpload, none⟩) }, s.processes⟩
  by_cases hmem : id ∈ s.tables.attachments.rows.map DbAttachment.id
  · rw [Table.insertNew_of_mem hmem]
    exact hs
  have hrows : (s.tables.attachments.insertNew
      ⟨id, account, none, none, none, .pendingUpload, none⟩).rows = _ :=
    Table.rows_insertNew_of_notMem hmem
  have hold : ∀ a doc, s.tables.attachments.find? a = some doc → a ≠ id := by
    rintro a doc hdoc rfl
    exact hmem (List.mem_map.2 ⟨doc, Table.mem_of_find? hdoc, Table.key_of_find? hdoc⟩)
  refine hs.setAttachments ?_ ?_ ?_ ?_ ?_
  · intro doc hdoc hstatus
    rw [hrows] at hdoc
    rcases List.mem_append.1 hdoc with hdoc | hdoc
    · exact hs.finalized doc hdoc hstatus
    · rw [List.mem_singleton.1 hdoc] at hstatus
      rcases hstatus with h | h <;> cases h
  · intro doc hdoc hstatus
    rw [hrows] at hdoc
    rcases List.mem_append.1 hdoc with hdoc | hdoc
    · exact hs.unfinalized doc hdoc hstatus
    · rw [List.mem_singleton.1 hdoc]
      rfl
  · intro doc hdoc hstatus
    rw [hrows] at hdoc
    rcases List.mem_append.1 hdoc with hdoc | hdoc
    · exact hs.unbound doc hdoc hstatus
    · rw [List.mem_singleton.1 hdoc]
  · intro a doc hstatus
    rw [Table.find?_insertNew_of_notMem hmem]
    split
    · rename_i ha
      refine ⟨?_, fun h => absurd ha (hold a doc h)⟩
      rintro ⟨rfl⟩
      cases hstatus
    · rfl
  · intro a doc _ hfound
    rw [Table.find?_insertNew_of_notMem hmem, if_neg (hold a doc hfound)]
    exact hfound

lemma State.Sound.step [DecidableEq Json] (hs : s.Sound jsonb) (e : Event Json) :
    (s.step jsonb e).Sound jsonb := by
  have hunfinalized : ∀ doc : DbAttachment, doc.isUnfinalized = true → doc.status ≠ .attached := by
    intro doc h hattached
    simp [DbAttachment.isUnfinalized, hattached] at h
  cases e with
  | start call => exact hs.start call
  | advance i =>
    simp only [State.step]
    rcases h : s.advance jsonb i with _ | s'
    · exact hs
    · exact hs.advance h
  | fail i =>
    simp only [State.step]
    rcases h : s.fail i with _ | s'
    · exact hs
    · exact hs.fail h
  | createUpload account id => exact hs.createUpload account id
  | markReady account id byteLength sha256 scanResult =>
    simp only [State.step]
    split
    · exact hs.updateAttachment account id _ hunfinalized (by simp) (by simp)
        (by simp [DbAttachment.commitment]) (by simp [DbAttachment.isUnfinalized])
    · exact hs
  | markExpired account id =>
    refine hs.updateAttachment account id _ ?_ (by simp) (by simp) (by simp)
      (by simp [DbAttachment.isUnfinalized])
    intro doc hready hattached
    rw [of_decide_eq_true hready] at hattached
    cases hattached
  | markRejected account id scanResult =>
    exact hs.updateAttachment account id _ hunfinalized (by simp) (by simp) (by simp)
      (by simp [DbAttachment.isUnfinalized])

lemma State.sound_run [DecidableEq Json] (jsonb : Json → Json) (events : List (Event Json)) :
    (State.run jsonb events).Sound jsonb := by
  refine List.foldlRecOn events (State.step jsonb) ?_ fun s hs e _ => hs.step e
  exact ⟨by simp [empty], by simp [empty], by simp [empty], by simp [empty], by simp [empty],
    by simp [empty, process?], by simp [empty, process?], by simp [empty], by simp [empty]⟩

/-! ### What a call comes to -/

/-- The call commits to the document it is called with. -/
def Call.CommitsTo (T : Tables Json) (call : Call Json) : Prop :=
  call.input.issuanceSnapshot.attachment =
    call.attachmentId.bind fun a => (T.attachments.find? a).bind DbAttachment.commitment

/-- The later call repeats the earlier one: it asserts the same, about the same document. -/
def Call.SameIssuance (earlier later : Call Json) : Prop :=
  earlier.input.assertions = later.input.assertions ∧ earlier.attachmentId = later.attachmentId

/-- How many statements a call may still need once its key is taken. -/
def Phase.rank : Phase Json → ℕ
  | .selecting => 4
  | .inserting => 3
  | .reselecting => 2
  | .replaying _ => 1
  | _ => 0

lemma State.Sound.findByKey (hs : s.Sound jsonb) (hrow : row ∈ s.tables.requests) :
    s.tables.findByKey row.key = some row := by
  rcases hfound : s.tables.findByKey row.key with _ | r
  · exact absurd rfl (Tables.findByKey_none hfound row hrow)
  · obtain ⟨hr, hkey⟩ := Tables.findByKey_some hfound
    rw [List.inj_on_of_nodup_map hs.keys hr hrow hkey]

/-- Two calls that issue under one key are one. -/
lemma State.Sound.issuer_unique (hs : s.Sound jsonb) {j : CallId} {q : Process Json}
    {row' : DbInvoice Json} (hp : s.process? i = some p) (hrow : p.issued? = some row)
    (hq : s.process? j = some q) (hrow' : q.issued? = some row') (hkey : row.key = row'.key) :
    i = j := by
  by_contra hij
  exact (hs.apart i j p q hij hp hq).issued row row' hrow hrow' hkey

/-- The document of a request is the one its call was called with. -/
lemma State.Sound.document_iff (hs : s.Sound jsonb) (hp : s.process? i = some p)
    (hrow : p.issued? = some row) {doc : DbAttachment} :
    (doc ∈ s.tables.attachments.rows ∧ doc.invoiceId = some row.id) ↔
      ∃ a, p.call.attachmentId = some a ∧ s.tables.attachments.find? a = some doc := by
  obtain ⟨-, hmem, hdocs⟩ := (hs.ok i p hp).issued row hrow
  constructor
  · rintro ⟨hdoc, hinvoice⟩
    have hstatus : doc.status = .attached := by
      by_contra hne
      rw [hs.unbound doc hdoc hne] at hinvoice
      cases hinvoice
    obtain ⟨j, q, row', hq, hrow', hof, hinvoice'⟩ := hs.attached doc hdoc hstatus
    have hid : row'.id = row.id := Option.some.inj (hinvoice'.symm.trans hinvoice)
    have heq : row' = row := List.inj_on_of_nodup_map hs.ids ((hs.ok j q hq).issued row' hrow').2.1
      hmem hid
    cases hs.issuer_unique hp hrow hq hrow' (by rw [heq])
    cases hp.symm.trans hq
    exact ⟨doc.id, hof, Table.find?_of_mem hdoc⟩
  · rintro ⟨a, ha, hfound⟩
    obtain ⟨doc', hdoc', -, hinvoice⟩ := hdocs a ha
    cases hfound.symm.trans hdoc'
    exact ⟨Table.mem_of_find? hfound, hinvoice⟩

lemma State.Sound.findByInvoice (hs : s.Sound jsonb) (hp : s.process? i = some p)
    (hrow : p.issued? = some row) :
    s.tables.findByInvoice row.id =
      p.call.attachmentId.bind fun a => s.tables.attachments.find? a := by
  rcases hfound : s.tables.findByInvoice row.id with _ | doc
  · rcases ha : p.call.attachmentId with _ | a
    · rfl
    · obtain ⟨-, -, hdocs⟩ := (hs.ok i p hp).issued row hrow
      obtain ⟨doc, hdoc, -, hinvoice⟩ := hdocs a ha
      have hnone := List.find?_eq_none.1 hfound doc (Table.mem_of_find? hdoc)
      simp [hinvoice] at hnone
  · have hdoc : doc ∈ s.tables.attachments.rows ∧ doc.invoiceId = some row.id :=
      ⟨List.mem_of_find?_eq_some hfound, by simpa using List.find?_some hfound⟩
    obtain ⟨a, ha, hfind⟩ := (hs.document_iff hp hrow).1 hdoc
    rw [ha, Option.bind_some, hfind]

/-- The commitment of the document of an issued request has the document's id. -/
lemma State.Sound.attachmentId_eq (hs : s.Sound jsonb) (hp : s.process? i = some p)
    (hrow : p.issued? = some row) (hcommits : p.call.CommitsTo s.tables) :
    p.call.input.issuanceSnapshot.attachment.map (·.id) = p.call.attachmentId := by
  obtain ⟨-, -, hdocs⟩ := (hs.ok i p hp).issued row hrow
  rw [hcommits]
  rcases ha : p.call.attachmentId with _ | a
  · rfl
  · obtain ⟨doc, hdoc, hstatus, -⟩ := hdocs a ha
    have hsome := hs.finalized doc (Table.mem_of_find? hdoc) (Or.inr hstatus)
    obtain ⟨commitment, hcommitment⟩ := Option.isSome_iff_exists.1 hsome
    have hof : commitment.id = doc.id := by
      obtain ⟨byteLength, -, hmap⟩ := Option.bind_eq_some_iff.1 hcommitment
      obtain ⟨sha256, -, rfl⟩ := Option.map_eq_some_iff.1 hmap
      rfl
    rw [Option.bind_some, hdoc, Option.bind_some, hcommitment, Option.map_some, hof,
      Table.key_of_find? hdoc]

/-- A later call is compared with what the columns give back of the one that issued the request, and
the document of the request with the commitment it was issued with. -/
lemma State.Sound.sameIssuance_iff [DecidableEq Json] (hs : s.Sound jsonb)
    (hp : s.process? i = some p) (hrow : p.issued? = some row) (later : Call Json) :
    later.input.sameIssuance row (s.tables.findByInvoice row.id) later.attachmentId = true ↔
      p.call.input.assertions.stored jsonb = later.input.assertions ∧
        p.call.attachmentId = later.attachmentId ∧ p.call.CommitsTo s.tables := by
  have heq := ((hs.ok i p hp).issued row hrow).1
  have hdocument : p.call.input.issuanceSnapshot.attachment =
      (s.tables.findByInvoice row.id).bind DbAttachment.commitment ↔ p.call.CommitsTo s.tables := by
    rw [hs.findByInvoice hp hrow, Option.bind_assoc]
    exact Iff.rfl
  have hcompared : later.input.sameIssuance row (s.tables.findByInvoice row.id) later.attachmentId =
      true ↔ p.call.input.assertions.stored jsonb = later.input.assertions ∧
        p.call.input.issuanceSnapshot.attachment.map (·.id) = later.attachmentId ∧
        p.call.input.issuanceSnapshot.attachment =
          (s.tables.findByInvoice row.id).bind DbAttachment.commitment := by
    rw [heq]
    exact Issuance.sameIssuance_iff
  rw [hcompared, hdocument]
  refine and_congr_right fun _ => and_congr_left fun hcommits => ?_
  rw [hs.attachmentId_eq hp hrow hcommits]

/-- A call repeats itself exactly if its metadata come back as they were and the request commits to
its document. -/
lemma State.Sound.replay_self_iff [DecidableEq Json] (hs : s.Sound jsonb)
    (hp : s.process? i = some p) (hrow : p.issued? = some row) :
    (∃ issued, s.tables.replay p.call row = .ok issued) ↔
      jsonb p.call.input.metadata = p.call.input.metadata ∧ p.call.CommitsTo s.tables := by
  have hself : p.call.input.assertions.stored jsonb = p.call.input.assertions ↔
      jsonb p.call.input.metadata = p.call.input.metadata := by
    simp [Assertions.stored, CreateInvoiceInput.assertions]
  have hiff := hs.sameIssuance_iff hp hrow p.call
  rw [hself, and_iff_right rfl] at hiff
  rw [← hiff, Tables.replay]
  by_cases hsame : p.call.input.sameIssuance row (s.tables.findByInvoice row.id)
      p.call.attachmentId = true
  · simp [hsame]
  · simp [hsame]

/-- Once its key is taken, a call is never held back, and ends in the comparison with the request of
its key. -/
lemma State.Sound.advance_taken [DecidableEq Json] (hs : s.Sound jsonb)
    (hrow : row ∈ s.tables.requests) (hp : s.process? i = some p)
    (hkey : p.call.input.key = row.key) (hopen : ∀ result, p.phase ≠ .done result) :
    ∃ phase, s.advance jsonb i = some ⟨s.tables, s.processes.set i ⟨p.call, phase⟩⟩ ∧
      ((0 < phase.rank ∧ phase.rank < p.phase.rank) ∨
        phase = .done (s.tables.replay p.call row)) := by
  obtain ⟨call, old⟩ := p
  have hfound : s.tables.findByKey call.input.key = some row := by
    rw [hkey]
    exact hs.findByKey hrow
  have hadvance : ∀ phase, s.advancePhase jsonb i call old = some phase →
      s.advanceTables old = s.tables →
      s.advance jsonb i = some ⟨s.tables, s.processes.set i ⟨call, phase⟩⟩ := by
    intro phase hphase htables
    rw [State.advance, hp, Option.bind_some, hphase, htables]
    rfl
  -- a call with an open request has a key of its own
  have hnone : Phase.open? old = none := by
    rcases h : Phase.open? old with _ | r
    · rfl
    · obtain ⟨heq, hfresh⟩ := (hs.ok i _ hp).fresh r h
      refine absurd ?_ (hfresh row hrow).1
      rw [heq]
      exact hkey.symm
  cases old with
  | selecting =>
    refine ⟨.replaying row, hadvance _ ?_ rfl, Or.inl ⟨by simp [Phase.rank], by simp [Phase.rank]⟩⟩
    simp [advancePhase, hfound]
  | inserting =>
    have hfree : s.heldByOther i (fun r => r.key = call.input.key) = false := by
      by_contra hheld
      obtain ⟨j, -, hj⟩ := List.any_eq_true.1 (Bool.not_eq_false _ ▸ hheld)
      obtain ⟨-, hany⟩ := Bool.and_eq_true_iff.1 hj
      obtain ⟨r, hr, heq⟩ := (Option.any_eq_true _ _).1 hany
      obtain ⟨q, hq, hopen'⟩ := Option.bind_eq_some_iff.1 hr
      refine ((hs.ok j q hq).fresh r hopen').2 row hrow |>.1 ?_
      exact hkey.symm.trans (of_decide_eq_true heq).symm
    refine ⟨.reselecting, hadvance _ ?_ rfl, Or.inl ⟨by simp [Phase.rank], by simp [Phase.rank]⟩⟩
    simp [advancePhase, hfree, hfound]
  | reselecting =>
    refine ⟨.replaying row, hadvance _ ?_ rfl, Or.inl ⟨by simp [Phase.rank], by simp [Phase.rank]⟩⟩
    simp [advancePhase, hfound]
  | replaying existing =>
    obtain ⟨hmem, hkey'⟩ := (hs.ok i _ hp).replaying existing rfl
    have heq : existing = row :=
      List.inj_on_of_nodup_map hs.keys hmem hrow (hkey'.trans hkey)
    rw [heq] at hadvance ⊢
    exact ⟨_, hadvance _ rfl rfl, Or.inr rfl⟩
  | done result => exact absurd rfl (hopen result)
  | _ => cases hnone

/-- The statements of a call leave the tables, unless the call commits. -/
lemma State.tables_advance [DecidableEq Json] (jsonb : Json → Json) (s : State Json) (i : CallId) :
    (s.step jsonb (.advance i)).tables = s.tables ∨
      ∃ p row, (s.step jsonb (.advance i)).process? i = some p ∧ p.issued? = some row := by
  simp only [State.step]
  rcases h : s.advance jsonb i with _ | s'
  · exact Or.inl rfl
  obtain ⟨⟨call, old⟩, phase, hp, hphase, rfl⟩ := advance_eq_some h
  cases old with
  | committing row attachment notification =>
    cases hphase
    refine Or.inr ⟨⟨call, .done (.ok ⟨row, attachment, false⟩)⟩, row, ?_, rfl⟩
    exact (process?_set hp _ _ i).trans (if_pos rfl)
  | _ => exact Or.inl rfl

lemma State.tables_fail [DecidableEq Json] (jsonb : Json → Json) (s : State Json) (i : CallId) :
    (s.step jsonb (.fail i)).tables = s.tables := by
  simp only [State.step]
  rcases h : s.fail i with _ | s'
  · rfl
  obtain ⟨⟨call, phase⟩, hp, hphase⟩ := Option.bind_eq_some_iff.1 h
  cases phase with
  | done result => cases hphase
  | _ =>
    cases hphase
    rfl

/-- A call that has ended stays as it is. -/
lemma State.process?_done [DecidableEq Json] (hp : s.process? i = some p)
    {result : Except InsertIssuedInvoiceError (InsertIssuedInvoice Json)}
    (hdone : p.phase = .done result) (e : Event Json) : (s.step jsonb e).process? i = some p := by
  -- a call that takes a statement is another one
  have hset : ∀ (T : Tables Json) (j : CallId) (q q' : Process Json), s.process? j = some q →
      (∀ r, q.phase ≠ .done r) → State.process? ⟨T, s.processes.set j q'⟩ i = some p := by
    intro T j q q' hq hopen
    have hij : i ≠ j := by
      rintro rfl
      rw [hp] at hq
      cases hq
      exact hopen result hdone
    rw [process?_set hq, if_neg hij]
    exact hp
  have hdocs : ∀ account id f g hg, (s.updateAttachment account id f g hg).process? i = some p := by
    intro account id f g hg
    unfold State.updateAttachment
    split <;> exact hp
  cases e with
  | start call =>
    exact (List.getElem?_append_left (List.getElem?_eq_some_iff.1 hp).1).trans hp
  | advance j =>
    simp only [State.step]
    rcases h : s.advance jsonb j with _ | s'
    · exact hp
    obtain ⟨q, phase, hq, hphase, rfl⟩ := advance_eq_some h
    refine hset _ j q _ hq ?_
    intro r hr
    rw [hr] at hphase
    cases hphase
  | fail j =>
    simp only [State.step]
    rcases h : s.fail j with _ | s'
    · exact hp
    obtain ⟨⟨call, phase⟩, hq, hphase⟩ := Option.bind_eq_some_iff.1 h
    cases phase with
    | done r => cases hphase
    | _ =>
      cases hphase
      exact hset _ j _ _ hq (by rintro r ⟨⟩)
  | createUpload account id => exact hp
  | markReady account id byteLength sha256 scanResult =>
    simp only [State.step]
    split
    · exact hdocs ..
    · exact hp
  | markExpired account id => exact hdocs ..
  | markRejected account id scanResult => exact hdocs ..

/-- A statement on an attachment that keeps the commitment it may already have. -/
lemma State.commitment_updateAttachment {account : AccountId} {id a : AttachmentId}
    {f : DbAttachment → Bool} {g : DbAttachment → DbAttachment} {hg : ∀ doc, (g doc).id = doc.id}
    {doc : DbAttachment} (hdoc : s.tables.attachments.find? a = some doc)
    (hkept : f doc = true → (g doc).commitment = doc.commitment) :
    ((s.updateAttachment account id f g hg).tables.attachments.find? a).bind
      DbAttachment.commitment = doc.commitment := by
  unfold State.updateAttachment
  split
  · rw [hdoc, Option.bind_some]
  · rw [Table.find?_updateWhere, hdoc, Option.map_some, Option.bind_some]
    split
    · rename_i hp
      exact hkept (Bool.and_eq_true_iff.1 hp).2
    · rfl

/-- The commitment of a finalized document is fixed. -/
lemma State.Sound.commitment_step [DecidableEq Json] (hs : s.Sound jsonb) {a : AttachmentId}
    {doc : DbAttachment} (hdoc : s.tables.attachments.find? a = some doc)
    (hsome : doc.commitment.isSome) (e : Event Json) :
    ((s.step jsonb e).tables.attachments.find? a).bind DbAttachment.commitment = doc.commitment := by
  have hsame : (s.tables.attachments.find? a).bind DbAttachment.commitment = doc.commitment := by
    rw [hdoc, Option.bind_some]
  have hclosed : doc.isUnfinalized ≠ true := by
    intro h
    rw [hs.unfinalized doc (Table.mem_of_find? hdoc) h] at hsome
    cases hsome
  cases e with
  | start call => exact hsame
  | advance i =>
    simp only [State.step]
    rcases h : s.advance jsonb i with _ | s'
    · exact hsame
    obtain ⟨⟨call, old⟩, phase, hp, hphase, rfl⟩ := advance_eq_some h
    cases old with
    | committing row attachment notification =>
      rw [Option.getD_some]
      show ((s.tables.commit row attachment notification).attachments.find? a).bind _ = _
      rw [Tables.find?_commit, hdoc]
      split <;> rfl
    | _ => exact hsame
  | fail i => rwa [tables_fail]
  | createUpload account id =>
    have hne : a ∈ s.tables.attachments.rows.map DbAttachment.id :=
      List.mem_map.2 ⟨doc, Table.mem_of_find? hdoc, Table.key_of_find? hdoc⟩
    show (Table.find? (s.tables.attachments.insertNew _) a).bind _ = _
    by_cases hmem : id ∈ s.tables.attachments.rows.map DbAttachment.id
    · rw [Table.insertNew_of_mem hmem]
      exact hsame
    · rw [Table.find?_insertNew_of_notMem hmem, if_neg fun (ha : a = id) => hmem (ha ▸ hne)]
      exact hsame
  | markReady account id byteLength sha256 scanResult =>
    simp only [State.step]
    split
    · exact commitment_updateAttachment hdoc fun h => absurd h hclosed
    · exact hsame
  | markExpired account id => exact commitment_updateAttachment hdoc fun _ => rfl
  | markRejected account id scanResult => exact commitment_updateAttachment hdoc fun _ => rfl

/-- Issuance under idempotency keys, with calls that run side by side. -/
structure State.Idempotent [DecidableEq Json] (jsonb : Json → Json) (s : State Json) : Prop where
  /-- A key has at most one request, and at most one call under it that is no replay. -/
  one : ∀ row ∈ s.tables.requests, ∀ row' ∈ s.tables.requests, row.key = row'.key → row = row'
  once : ∀ i j p q row row', s.process? i = some p → s.process? j = some q →
    p.issued? = some row → q.issued? = some row' → row.key = row'.key → i = j
  issuer : ∀ row ∈ s.tables.requests, ∃ i p, s.process? i = some p ∧ p.issued? = some row
  /-- A call whose key is taken and that has not ended goes on, with nothing written, and ends
  after at most four statements in the request of its key or in a conflict. -/
  taken : ∀ row ∈ s.tables.requests, ∀ i p, s.process? i = some p → p.call.input.key = row.key →
    (∀ result, p.phase ≠ .done result) → ∃ phase,
      s.advance jsonb i = some ⟨s.tables, s.processes.set i ⟨p.call, phase⟩⟩ ∧
      ((0 < phase.rank ∧ phase.rank < p.phase.rank) ∨ phase = .done (s.tables.replay p.call row))
  /-- It ends in the request when it repeats the call that issued it, and in a conflict when not. -/
  replays : ∀ i p row later, s.process? i = some p → p.issued? = some row →
    later.input.key = row.key →
    (p.call.SameIssuance later → s.tables.replay later row =
      .ok ⟨row, later.attachmentId.bind fun a => s.tables.attachments.find? a, true⟩) ∧
    (¬ p.call.SameIssuance later → s.tables.replay later row = .error .idempotencyConflict)
  /-- The commitment of a document is fixed. -/
  committed : ∀ a doc, s.tables.attachments.find? a = some doc → doc.commitment.isSome → ∀ e,
    ((s.step jsonb e).tables.attachments.find? a).bind DbAttachment.commitment = doc.commitment
  /-- A document is attached when a request was issued with it, and to that request. -/
  attached : ∀ doc ∈ s.tables.attachments.rows, doc.status = .attached ↔
    ∃ i p row, s.process? i = some p ∧ p.issued? = some row ∧ p.call.attachmentId = some doc.id ∧
      doc.invoiceId = some row.id
  /-- No two requests are issued with one document. -/
  alone : ∀ i j p q row row' a, s.process? i = some p → s.process? j = some q →
    p.issued? = some row → q.issued? = some row' → p.call.attachmentId = some a →
    q.call.attachmentId = some a → i = j
  /-- A call leaves the tables until it issues its request, and when it fails; a call that has
  ended does nothing more. -/
  written : ∀ i, (s.step jsonb (.advance i)).tables = s.tables ∨
    ∃ p row, (s.step jsonb (.advance i)).process? i = some p ∧ p.issued? = some row
  failed : ∀ i, (s.step jsonb (.fail i)).tables = s.tables
  ended : ∀ i p result, s.process? i = some p → p.phase = .done result →
    ∀ e, (s.step jsonb e).process? i = some p

end

/-- In every interleaving of calls of `insert_issued` and of the statements on attachments, whatever
their inputs, issuance is idempotent exactly if the metadata of every call that issued a request come
back from `jsonb` as they were, and each such call commits to the document it was called with. -/
theorem issuance_is_idempotent_iff {Json : Type} [DecidableEq Json] (jsonb : Json → Json)
    (events : List (Event Json)) : (State.run jsonb events).Idempotent jsonb ↔
      ∀ i p row, (State.run jsonb events).process? i = some p → p.issued? = some row →
        jsonb p.call.input.metadata = p.call.input.metadata ∧
          p.call.CommitsTo (State.run jsonb events).tables := by
  have hs := State.sound_run jsonb events
  constructor
  · intro h i p row hp hrow
    have hkey : p.call.input.key = row.key := by
      rw [((hs.ok i p hp).issued row hrow).1]
      rfl
    exact (hs.replay_self_iff hp hrow).1 ⟨_, (h.replays i p row p.call hp hrow hkey).1 ⟨rfl, rfl⟩⟩
  intro hreads
  refine ⟨?_, ?_, hs.issuer, ?_, ?_, ?_, ?_, ?_, ?_, ?_, ?_⟩
  · intro row hrow row' hrow' hkey
    exact List.inj_on_of_nodup_map hs.keys hrow hrow' hkey
  · intro i j p q row row' hp hq hrow hrow' hkey
    exact hs.issuer_unique hp hrow hq hrow' hkey
  · intro row hrow i p hp hkey hopen
    exact hs.advance_taken hrow hp hkey hopen
  · intro i p row later hp hrow _
    obtain ⟨hmetadata, hcommits⟩ := hreads i p row hp hrow
    have hstored : p.call.input.assertions.stored jsonb = p.call.input.assertions := by
      rw [Assertions.stored, CreateInvoiceInput.assertions, hmetadata]
    have hiff := hs.sameIssuance_iff hp hrow later
    rw [hstored] at hiff
    unfold Tables.replay
    refine ⟨fun hsame => ?_, fun hdiffers => ?_⟩
    · rw [if_pos (hiff.2 ⟨hsame.1, hsame.2, hcommits⟩), hs.findByInvoice hp hrow, hsame.2]
    · rw [if_neg fun h => hdiffers ⟨(hiff.1 h).1, (hiff.1 h).2.1⟩]
  · intro a doc hdoc hsome e
    exact hs.commitment_step hdoc hsome e
  · intro doc hdoc
    refine ⟨hs.attached doc hdoc, ?_⟩
    rintro ⟨i, p, row, hp, hrow, ha, -⟩
    obtain ⟨doc', hdoc', hstatus, -⟩ := ((hs.ok i p hp).issued row hrow).2.2 doc.id ha
    rw [Table.find?_of_mem hdoc] at hdoc'
    cases hdoc'
    exact hstatus
  · intro i j p q row row' a hp hq hrow hrow' ha ha'
    obtain ⟨-, hmem, hdocs⟩ := (hs.ok i p hp).issued row hrow
    obtain ⟨-, hmem', hdocs'⟩ := (hs.ok j q hq).issued row' hrow'
    obtain ⟨doc, hdoc, -, hinvoice⟩ := hdocs a ha
    obtain ⟨doc', hdoc', -, hinvoice'⟩ := hdocs' a ha'
    cases hdoc.symm.trans hdoc'
    have hid : row.id = row'.id := Option.some.inj (hinvoice.symm.trans hinvoice')
    have heq : row = row' := List.inj_on_of_nodup_map hs.ids hmem hmem' hid
    exact hs.issuer_unique hp hrow hq hrow' (by rw [heq])
  · exact State.tables_advance jsonb _
  · exact State.tables_fail jsonb _
  · intro i p result hp hdone e
    exact State.process?_done hp hdone e

/-! ### Numbers in the metadata -/

/-- The numbers of a JSON document: integers, and doubles of an integral value. -/
inductive JsonNumber
  | posInt (n : ℕ)
  | float (n : ℕ)
deriving DecidableEq

/-- `numeric` does not tell the two apart, and gives back an integer where 64 bits hold it. -/
def JsonNumber.throughNumeric : JsonNumber → JsonNumber
  | .posInt n => .posInt n
  | .float n => if n < 2 ^ 64 then .posInt n else .float n

/-- A flat object of numbers. -/
abbrev Metadata := List (String × JsonNumber)

def Metadata.throughJsonb (metadata : Metadata) : Metadata :=
  metadata.map fun entry => (entry.1, entry.2.throughNumeric)

/-- The document of a request of 100. -/
def hundredSnapshot : CanonicalIssuanceSnapshot where
  schema := "gum.invoice.v5"
  canonicalization := "RFC8785"
  issuer := ⟨"Acme LLC", none, none⟩
  billTo := ⟨"Globex Inc", none, none⟩
  currency := "USDC"
  decimals := "6"
  amountBaseUnits := "100"
  notes := none
  heading := none
  reference := none
  expirationTimestamp := "86400"
  payerVerification := ⟨none, none, false⟩
  attachment := none
  networks := [⟨"143", fixedText 20 30, fixedText 20 40⟩]
  receiverAddress := fixedText 20 50
  recoveryAddress := fixedText 20 60

/-- A call with the metadata `{"wei": 1e18}`; a retry comes with an id of its own. -/
def weiCall (id : InvoiceId) : Call Metadata where
  input := {
    id := id
    accountId := 1
    idempotencyKey := "order-1"
    customerId := none
    issuerId := none
    issuer := hundredSnapshot.issuer
    billTo := hundredSnapshot.billTo
    notes := none
    heading := none
    reference := none
    metadata := [("wei", .float (10 ^ 18))]
    payerVerification := hundredSnapshot.payerVerification
    currency := hundredSnapshot.currency
    tokenDecimals := 6
    beneficiaryAddress := 50
    expirationTimestamp := 86400
    expiresInSecs := 86400
    expirationIntent := "default"
    amount := 100
    amount_lt := by decide
    issuanceSnapshot := hundredSnapshot
    attributionVersion := 2
    attributionHash := 3
    issuanceNonce := id
    recoveryAddress := 60
    initialBinding := none
    payerNotificationEmail := none }
  attachmentId := none

/-- The request is issued, then the call is repeated. -/
def retryEvents : List (Event Metadata) :=
  [.start (weiCall 7), .advance 0, .advance 0, .advance 0, .advance 0, .advance 0,
    .start (weiCall 8), .advance 1, .advance 1]

/-- The retry repeats the call that has issued the request, and ends in a conflict. -/
theorem identical_retry_conflicts :
    (weiCall 7).SameIssuance (weiCall 8) ∧
      (State.run Metadata.throughJsonb retryEvents).process? 1 =
        some ⟨weiCall 8, .done (.error .idempotencyConflict)⟩ ∧
      ¬ (State.run Metadata.throughJsonb retryEvents).Idempotent Metadata.throughJsonb := by
  have hissued : (State.run Metadata.throughJsonb retryEvents).process? 0 = some ⟨weiCall 7,
      .done (.ok ⟨(weiCall 7).input.row Metadata.throughJsonb, none, false⟩)⟩ := rfl
  have hconflict : (State.run Metadata.throughJsonb retryEvents).tables.replay (weiCall 8)
      ((weiCall 7).input.row Metadata.throughJsonb) = .error .idempotencyConflict := rfl
  refine ⟨⟨rfl, rfl⟩, rfl, fun hclaim => ?_⟩
  have hreplay := (hclaim.replays 0 _ _ (weiCall 8) hissued rfl rfl).1 ⟨rfl, rfl⟩
  rw [hconflict] at hreplay
  cases hreplay

end Payday.Issuance
