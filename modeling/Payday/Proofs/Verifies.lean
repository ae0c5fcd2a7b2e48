/-
# Which served proofs verify

`get_proof` answers for a fulfilled request; `verify_proof` also asks for a passed verification and
for transfers that cover the amount.  Whatever a run has done, the rest of a served proof passes: the
document is the one that was issued, the address follows from it, and the transfers are the logs
recorded for the address.  So a served proof verifies exactly when the row says that both held.
-/
import Payday.Proofs.Inputs

namespace Payday.Proofs

open Verification (Store Outside AccountId attemptsForInvoice)

variable {P : Primitives} {O : Outside} {L : Ledger} {D : Database} {id : InvoiceId} {row : Payday.Invoice}
  {b : Binding} {document : Document}

/-! ### The transfers of a request -/

/-- The transfers are the credited rows, in another order. -/
lemma settlementTransfers_perm (L : Ledger) (id : InvoiceId) :
    (settlementTransfers L id).Perm (((L.observationsOf id).filter (·.isCredited)).map
      fun r => settlementTransfer L r.observation r.relayIntentId) :=
  (List.perm_insertionSort _ _).map _

lemma mem_settlementTransfers {transfer : SettlementTransfer} (h : transfer ∈ settlementTransfers L id) :
    ∃ r ∈ L.observations.rows, r.invoiceId = id ∧ r.isCredited = true ∧
      transfer = settlementTransfer L r.observation r.relayIntentId := by
  obtain ⟨r, hr, rfl⟩ := List.mem_map.1 ((settlementTransfers_perm L id).mem_iff.1 h)
  obtain ⟨hown, hcredited⟩ := List.mem_filter.1 hr
  obtain ⟨hmem, hid⟩ := List.mem_filter.1 hown
  exact ⟨r, hmem, of_decide_eq_true hid, hcredited, rfl⟩

/-- They add up to what the row says it received. -/
lemma sum_settlementTransfers (h : Reachable L) (hrow : L.invoices.find? id = some row) :
    ((settlementTransfers L id).map (·.amount)).sum = row.confirmedReceived := by
  have hq : L.request? id = some (row.request (L.observationsOf id)) :=
    Ledger.request?_eq_some.2 ⟨row, hrow, rfl⟩
  have hreceived : row.confirmedReceived = creditedIn (L.observationsOf id) :=
    (h.balanced hq).received.trans (creditedIn_eq _).symm
  rw [((settlementTransfers_perm L id).map _).sum_nat, hreceived, List.map_map]
  rfl

/-- A recorded log of a request, with the address it went to. -/
lemma TypedLedger.recorded_own (h : TypedLedger L) (hrow : L.invoices.find? id = some row)
    (hb : row.binding = some b) {r : ObservationRow} (hr : r ∈ L.observations.rows) (hid : r.invoiceId = id) :
    r.observation.Typed ∧ r.chainId = b.chainId ∧ r.observation.recipient = b.paymentAddress ∧
      r.observation.token = b.token := by
  obtain ⟨htyped, row', b', hrow', hb', hchain, haddress, htoken⟩ := h.recorded r.recorded (List.mem_map_of_mem hr)
  obtain rfl := Option.some.inj (hrow.symm.trans ((show r.recorded.invoiceId = id from hid) ▸ hrow'))
  obtain rfl := Option.some.inj (hb.symm.trans hb')
  exact ⟨htyped, hchain.symm, haddress.symm, htoken.symm⟩

/-- A filled intent is a row of the table. -/
lemma filledIntent_mem {intentId : Option IntentId} {r : RelayIntent} (h : filledIntent L intentId = some r) :
    r ∈ L.relayIntents.rows := by
  obtain ⟨hfound, -⟩ := Option.filter_eq_some_iff.1 h
  obtain ⟨key, -, hkey⟩ := Option.bind_eq_some_iff.1 hfound
  exact Table.mem_of_find? hkey

lemma settlementTransfer_typed (h : L.IntentsTyped) {o : PaymentObservation} (ho : o.Typed)
    (intentId : Option IntentId) : (settlementTransfer L o intentId).Typed := by
  have hintent : ∀ r, filledIntent L intentId = some r → r.Typed := fun r hr => h r (filledIntent_mem hr)
  refine ⟨ho.sender, ho.recipient, ho.amount, ho.transactionHash, ho.logIndex, ho.blockNumber, ?_, ?_, ?_, ?_, ?_⟩
  all_goals
    simp only [settlementTransfer]
    rcases hfilled : filledIntent L intentId with _ | r
    · rintro x ⟨⟩
  · rintro x ⟨⟩
    exact (hintent r hfilled).requestId
  · rintro x ⟨⟩
    exact (hintent r hfilled).originChainId
  · exact (hintent r hfilled).verifiedOriginTxHash
  · rintro x ⟨⟩
    exact (hintent r hfilled).payerWallet
  · rintro x ⟨⟩
    rfl

lemma settlementTransfers_typed (h : TypedLedger L) (hrow : L.invoices.find? id = some row)
    (hb : row.binding = some b) : ∀ transfer ∈ settlementTransfers L id, transfer.Typed := by
  intro transfer htransfer
  obtain ⟨r, hr, hid, -, rfl⟩ := mem_settlementTransfers htransfer
  exact settlementTransfer_typed h.intents (h.recorded_own hrow hb hr hid).1 _

lemma settlementTransfers_recipient (h : TypedLedger L) (hrow : L.invoices.find? id = some row)
    (hb : row.binding = some b) : ∀ transfer ∈ settlementTransfers L id, transfer.recipient = b.paymentAddress := by
  intro transfer htransfer
  obtain ⟨r, hr, hid, -, rfl⟩ := mem_settlementTransfers htransfer
  exact (h.recorded_own hrow hb hr hid).2.2.1

/-- No event is recorded twice for a request: its rows agree on the chain and the token, which are the
rest of the table's key. -/
lemma settlementTransfers_once (h : TypedLedger L) (hrow : L.invoices.find? id = some row)
    (hb : row.binding = some b) : ((settlementTransfers L id).map SettlementTransfer.event).Nodup := by
  refine ((settlementTransfers_perm L id).map _).nodup_iff.2 ?_
  rw [List.map_map]
  have hown : ∀ r ∈ (L.observationsOf id).filter (·.isCredited), r ∈ L.observations.rows ∧ r.invoiceId = id := by
    intro r hr
    obtain ⟨hmem, hid⟩ := List.mem_filter.1 (List.mem_filter.1 hr).1
    exact ⟨hmem, of_decide_eq_true hid⟩
  have hrows : ((L.observationsOf id).filter (·.isCredited)).Nodup :=
    (List.Nodup.of_map _ L.observations.nodup).filter _ |>.filter _
  refine List.Nodup.map_on (fun r hr r' hr' hevent => ?_) hrows
  obtain ⟨hmem, hid⟩ := hown r hr
  obtain ⟨hmem', hid'⟩ := hown r' hr'
  obtain ⟨-, hchain, -, htoken⟩ := h.recorded_own hrow hb hmem hid
  obtain ⟨-, hchain', -, htoken'⟩ := h.recorded_own hrow hb hmem' hid'
  obtain ⟨htx, hlog⟩ := Prod.mk.inj hevent
  refine L.observations.eq_of_key_eq hmem hmem' ?_
  show observationKey r.chainId r.observation = observationKey r'.chainId r'.observation
  rw [observationKey, observationKey, hchain, hchain', htoken, htoken']
  exact congrArg₂ (fun hash index => (b.chainId, b.token, hash, index)) htx hlog

/-- The credited transfers of a request, if they fit a word. -/
lemma settlementTransfers_paid (h : TypedLedger L) (hrow : L.invoices.find? id = some row)
    (hb : row.binding = some b) (hfits : row.confirmedReceived < 2 ^ 256) :
    Paid (settlementTransfers L id) b.paymentAddress where
  typed := settlementTransfers_typed h hrow hb
  recipient := settlementTransfers_recipient h hrow hb
  once := settlementTransfers_once h hrow hb
  fits := by
    rw [sum_settlementTransfers h.reachable hrow]
    exact hfits

/-! ### Served proofs -/

/-- The row's verification has passed, and its credited transfers cover the amount and fit a word. -/
structure PassedAndCovered (row : Payday.Invoice) : Prop where
  passed : row.payerVerification.isGated = true → row.verificationCompletedAt.isSome = true
  covered : row.amount ≤ row.confirmedReceived
  fits : row.confirmedReceived < 2 ^ 256

/-- The proof verifies, with no attachment and with the committed one, and says the request's own salt,
address and wallet. -/
def Verifies (P : Primitives) (attestor : Attestor) (snapshot : CanonicalIssuanceSnapshot) (b : Binding)
    (proof : ProofOfPayment) : Prop :=
  ∀ attachment : Option (List UInt8), (∀ bytes ∈ attachment, Attaches P snapshot bytes) →
    ∃ v, verifyProof P proof attachment [attestor.address] = .ok v ∧ v.salt = b.salt ∧
      v.paymentAddress = b.paymentAddress ∧ v.payerWallet = b.payerWallet

section Served

variable {attestor : Attestor} {accountId : AccountId} {proof : ProofOfPayment}

/-- A served proof is built from a row that its document describes. -/
lemma Sound.served (h : Sound P D) (hserved : D.getProof P O attestor accountId id = .ok proof) :
    ∃ row document b, D.store.ledger.invoices.find? id = some row ∧ D.documents.find? id = some document ∧
      row.binding = some b ∧ Describes P document row ∧
      Proofs.getProof P attestor (document.decode P row) (settledOf row) (settlementTransfers D.store.ledger id)
        ((attemptsForInvoice D.store accountId id).map (·.summary)) = .ok proof := by
  obtain ⟨-, row, hrow, document, hdocument, hserved⟩ := (Database.getProof_eq_ok P O).1 hserved
  obtain ⟨stored, hstored, hdescribes⟩ := h.described id row hrow
  obtain rfl := Option.some.inj (hdocument.symm.trans hstored)
  obtain ⟨txHash, binding, bytes, -, -, hbinding, -⟩ := getProof_eq_ok.1 hserved
  obtain ⟨b, hb, -⟩ := Option.map_eq_some_iff.1 hbinding
  exact ⟨row, document, b, hrow, hdocument, hb, hdescribes, hserved⟩

/-- The binding that is decoded from the columns of a described row. -/
lemma Describes.decoded (h : Describes P document row) (hb : row.binding = some b) :
    Issued P (document.decode P row) ∧
      (document.decode P row).binding = some (document.binding P row.recovery b) ∧
      Derived P (document.decode P row) (document.binding P row.recovery b) :=
  ⟨h.issued.bound _, by rw [Document.decode, hb]; rfl, (h.binding b hb).bound _⟩

/-- A served proof that some verifier accepts is of a row that has passed and is covered. -/
lemma Sound.passedAndCovered (h : Sound P D) (hserved : D.getProof P O attestor accountId id = .ok proof)
    (hrow : D.store.ledger.invoices.find? id = some row) {attachment : Option (List UInt8)} {trusted : List Address}
    {v : ProofVerification} (hv : verifyProof P proof attachment trusted = .ok v) : PassedAndCovered row := by
  obtain ⟨row', document, b, hrow', -, hb, hdescribes, hserved⟩ := h.served hserved
  obtain rfl := Option.some.inj (hrow.symm.trans hrow')
  obtain ⟨hissued, hbinding, hderived⟩ := hdescribes.decoded hb
  obtain ⟨hpassed, hcovered, hfits⟩ := passed_of_verifyProof hserved hissued hbinding hderived
    (settlementTransfers_typed h.ledger hrow hb) (settlementTransfers_once h.ledger hrow hb) hv
  rw [sum_settlementTransfers h.ledger.reachable hrow] at hcovered hfits
  have hamount : (document.decode P row).amount = row.amount := hdescribes.amount
  have haddons : (document.decode P row).issuanceSnapshot.payerVerification = row.payerVerification :=
    hdescribes.payerVerification
  exact ⟨haddons ▸ hpassed, hamount ▸ hcovered, hfits⟩

/-- In a database that a run reaches, a served proof verifies exactly when the row has passed and is
covered. -/
lemma Sound.verifies_iff (h : Sound P D) (hattestor : attestor.Honest P)
    (hserved : D.getProof P O attestor accountId id = .ok proof) :
    ∃ row document b, D.store.ledger.invoices.find? id = some row ∧ D.documents.find? id = some document ∧
      row.binding = some b ∧
      (Verifies P attestor document.invoice.issuanceSnapshot b proof ↔ PassedAndCovered row) := by
  obtain ⟨row, document, b, hrow, hdocument, hb, hdescribes, hbuilt⟩ := h.served hserved
  refine ⟨row, document, b, hrow, hdocument, hb, fun hverifies => ?_, fun hholds attachment hattachment => ?_⟩
  · -- what is accepted without an attachment
    obtain ⟨v, hv, -⟩ := hverifies none (fun _ hbytes => by cases hbytes)
    exact h.passedAndCovered hserved hrow hv
  · obtain ⟨hissued, hbinding, hderived⟩ := hdescribes.decoded hb
    have haddons : (document.decode P row).issuanceSnapshot.payerVerification = row.payerVerification :=
      hdescribes.payerVerification
    have hcovered : (document.decode P row).amount ≤ ((settlementTransfers D.store.ledger id).map (·.amount)).sum := by
      rw [sum_settlementTransfers h.ledger.reachable hrow, show (document.decode P row).amount = row.amount from
        hdescribes.amount]
      exact hholds.covered
    obtain ⟨digest, hverified⟩ := verifyProof_of_served hbuilt hissued hbinding hderived
      (settlementTransfers_paid h.ledger hrow hb hholds.fits) hattestor (h.ledger.settlements id row hrow) hattachment
      (haddons ▸ hholds.passed) hcovered
    exact ⟨_, hverified, rfl, rfl, hdescribes.payerWallet b hb⟩

/-- A served proof verifies exactly when the request's verification has passed, or none was asked for,
and its credited transfers cover the amount. -/
theorem served_proof_verifies_iff (hattestor : attestor.Honest P) (actions : List (Time × Action))
    (hserved : (Database.empty.run P O actions).getProof P O attestor accountId id = .ok proof) :
    ∃ row document b, (Database.empty.run P O actions).store.ledger.invoices.find? id = some row ∧
      (Database.empty.run P O actions).documents.find? id = some document ∧ row.binding = some b ∧
      (Verifies P attestor document.invoice.issuanceSnapshot b proof ↔ PassedAndCovered row) :=
  (sound_run P O actions).verifies_iff hattestor hserved

end Served

/-! ### Requests that somebody else settles -/

/-- The stand-in with short canonical forms. -/
def briefStandIn : Primitives :=
  { standIn with
    snapshotBytes := fun snapshot => .ok (utf8 (snapshot.amountBaseUnits ++ snapshot.expirationTimestamp))
    payloadBytes := fun payload => .ok (utf8 (payload.paymentId ++ payload.result)) }

lemma sampleAttestor_honest_brief : sampleAttestor.Honest briefStandIn := by
  have hrecover : briefStandIn.recover = standIn.recover := rfl
  intro digest
  rw [hrecover]
  exact sampleAttestor_honest digest

def sampleOutside : Outside := ⟨fun token => token.length, fun _ => 3⟩

/-- A thousand units until second ten. -/
def shortTerms : Terms := { sampleTerms with expirationTimestamp := 10, expirationTimestamp_lt := by decide }

/-- The draft of a request that asks for a mailbox, or for nothing. -/
def shortDraft (email : Option String) : Draft where
  nonce := 61
  currency := .usdc
  terms := shortTerms
  snapshot := shortTerms.document briefStandIn .usdc ⟨"Issuer", none, none⟩ ⟨"Payer", none, none⟩
    ⟨email, none, false⟩ none none none none
  nonce_lt := by decide
  amount_pos := by decide

/-- The request as it is issued. -/
def shortInvoice (email : Option String) : Invoice where
  id := 7
  networks := [⟨143, 21, 22⟩]
  beneficiary := 31
  expirationTimestamp := 10
  amount := 1000
  issuanceNonce := 61
  binding := none
  attributionVersion := 5
  attributionHash := attributionHash briefStandIn (utf8 "100010")
  issuanceSnapshot := (shortDraft email).snapshot

lemma shortDraft_issue (email : Option String) : (shortDraft email).issue briefStandIn 7 = .ok (shortInvoice email) := by
  have hbytes : briefStandIn.snapshotBytes (shortDraft email).snapshot = .ok (utf8 "100010") := rfl
  obtain ⟨invoice, hissue, -⟩ := issue_ok 7 61 shortTerms (by decide)
    (show (shortDraft email).snapshot = shortTerms.document briefStandIn .usdc _ _ _ _ _ _ _ from rfl) hbytes
  obtain ⟨bytes, hbytes', -, -, -, -, -, -, -, -, hinvoice⟩ := issue_eq_ok hissue
  obtain rfl := Except.ok.inj (hbytes.symm.trans hbytes')
  have hsorted : shortTerms.sorted = [⟨143, 21, 22⟩] := by decide +kernel
  rw [hsorted] at hinvoice
  exact hissue.trans (congrArg Except.ok hinvoice)

/-- The address of the request on its one network. -/
def shortAddress : Address := 0xce542f8e9f305544ff09e4993a62319a497c1f01

def shortBinding : PaymentBinding where
  network := ⟨143, 21, 22⟩
  recovery := 41
  salt := recomputeSalt briefStandIn 61 (attributionHash briefStandIn (utf8 "100010")) none
  paymentAddress := shortAddress
  readyAt := briefStandIn.rfc3339 0
  wallet := none

lemma shortInvoice_initialBinding (email : Option String) :
    initialBinding briefStandIn (shortInvoice email) 0 = .ok (some shortBinding) := by
  have hrecovery : (shortInvoice email).recovery = .ok 41 :=
    orError_eq_ok.2 (parseAddress_toChecksum briefStandIn (show 41 < 2 ^ 160 by decide))
  have hbind : (shortInvoice email).bindNetwork briefStandIn 143 (briefStandIn.rfc3339 0) = .ok shortBinding := by
    have haddress : predictPaymentAddress briefStandIn ⟨22, 21, 1000, 31, 10, 41, shortBinding.salt, 143⟩ =
        shortAddress := by decide +kernel
    simp only [Invoice.bindNetwork, hrecovery, bind_eq_ok, require_eq_ok, orError_eq_ok, exists_const, pure_eq_ok]
    refine ⟨rfl, ⟨143, 21, 22⟩, rfl, 41, rfl, ?_⟩
    rw [shortBinding, ← haddress]
    rfl
  show ((shortInvoice email).bindNetwork briefStandIn 143 (briefStandIn.rfc3339 0)).map some = _
  rw [hbind]
  rfl

/-- The request's columns. -/
def shortRequest (email : Option String) : IssuedRequest :=
  (shortDraft email).request (shortInvoice email) (some (shortBinding.columns 0))

/-- The database once the request is stored. -/
def issuedDatabase (email : Option String) : Database where
  store := { Database.empty.store with ledger := insertIssued Database.empty.store.ledger 0 (shortRequest email) }
  documents := Database.empty.documents.insertNew ⟨shortInvoice email, none⟩

lemma issue_shortDraft (email : Option String) :
    Database.empty.step briefStandIn sampleOutside 0 (.issue 0 7 (shortDraft email)) = issuedDatabase email := by
  have hfree : ((Database.empty.store.ledger.invoices.find? 7).isSome ||
      (shortRequest email).initialBinding.any Database.empty.store.ledger.addressTaken) = false := rfl
  have hissue : Database.empty.issue briefStandIn 0 0 7 (shortDraft email) = some (issuedDatabase email) := by
    simp only [Database.issue, Option.bind_eq_bind, Option.bind_eq_some_iff, toOption_eq_some]
    refine ⟨_, shortDraft_issue email, _, shortInvoice_initialBinding email, if_neg ?_⟩
    rw [Option.map_some, ← shortRequest, hfree]
    exact Bool.false_ne_true
  rw [Database.step, hissue, Option.getD_some]

/-- A thousand units to the request's address, in the first transaction of block five. -/
def shortTransfer : PaymentObservation where
  token := 21
  blockNumber := 5
  blockHash := 5
  blockTimestamp := 5
  transactionHash := 500
  transactionIndex := 0
  logIndex := 0
  sender := 90
  recipient := shortAddress
  amount := 1000

/-- The receipt of a job that found the request's contract deployed by `evidence`. -/
def shortReceipt (evidence : SettlementEvidence) : FinalizedSweep where
  jobId := 9
  txHash := 25000
  block := 25
  blockHash := 25
  blockTimestamp := 25
  transactionIndex := 0
  items := [⟨7, .lateCollected 0 (some evidence)⟩]

/-- A transaction of the ledger that neither issues nor binds. -/
def ledgerAction (op : Op) (h : op.completesVerification = false ∧ op.writesDocument = false ∧ op.Typed) : Action :=
  .commit ⟨.request ⟨op, h.1⟩, h.2⟩

lemma shortTransfer_typed : ∀ o ∈ [shortTransfer], o.Typed := by
  intro o ho
  obtain rfl := List.mem_singleton.1 ho
  exact ⟨by decide, by decide, by decide, by decide, by decide, by decide⟩

lemma shortReceipt_typed {evidence : SettlementEvidence} (h : evidence.txHash < 2 ^ 256) :
    (shortReceipt evidence).Typed := by
  refine ⟨show 25000 < 2 ^ 256 by decide, fun item hitem amount found houtcome => ?_⟩
  obtain rfl := List.mem_singleton.1 hitem
  cases houtcome
  exact h

/-- The request is paid and settled by somebody else; the indexer sees its deadline pass, and the job that
looks for its funds reports the settlement. -/
def settledActions (evidence : SettlementEvidence) (htyped : evidence.txHash < 2 ^ 256) : List (Time × Action) :=
  [(1, ledgerAction (.applyFinalizedRange ⟨143, none, 20, 20, 20, [shortTransfer], []⟩) ⟨rfl, rfl, shortTransfer_typed⟩),
    (2, ledgerAction (.scheduleSweepJob .default 143 9 0 {}) ⟨rfl, rfl, trivial⟩),
    (3, ledgerAction (.deliver .default (.sweepFinalized (shortReceipt evidence)))
      ⟨rfl, rfl, shortReceipt_typed htyped⟩)]

def settledRun (email : Option String) (evidence : SettlementEvidence) (htyped : evidence.txHash < 2 ^ 256) :
    List (Time × Action) :=
  (0, .issue 0 7 (shortDraft email)) :: settledActions evidence htyped

/-- Settled in block six, while the mailbox was never verified. -/
def unverifiedRun : List (Time × Action) :=
  settledRun (some "payer@example.com") ⟨600, 6, 0, 6, some 1000, 0⟩ (by decide)

/-- Settled in the very transaction that paid. -/
def selfPaidRun : List (Time × Action) := settledRun none ⟨500, 5, 0, 5, some 1000, 0⟩ (by decide)

/-- Settled in block six. -/
def openRun : List (Time × Action) := settledRun none ⟨600, 6, 0, 6, some 1000, 0⟩ (by decide)

/-- What the sample account is served. -/
def served (D : Database) : Except GetProofError ProofOfPayment :=
  D.getProof briefStandIn sampleOutside sampleAttestor 3 7

/-- What the row of the sample request says, if a proof of it is served: whether its payer must verify, when that
was done, the amount and the credited total. -/
def servedColumns (D : Database) : Option (Bool × Option Time × ℕ × ℕ) := do
  let _ ← (served D).toOption
  let row ← D.store.ledger.invoices.find? 7
  return (row.payerVerification.isGated, row.verificationCompletedAt, row.amount, row.confirmedReceived)

lemma served_of_columns {D : Database} {gated : Bool} {completedAt : Option Time} {amount received : ℕ}
    (h : servedColumns D = some (gated, completedAt, amount, received)) :
    ∃ proof row, served D = .ok proof ∧ D.store.ledger.invoices.find? 7 = some row ∧
      row.payerVerification.isGated = gated ∧ row.verificationCompletedAt = completedAt ∧ row.amount = amount ∧
      row.confirmedReceived = received := by
  simp only [servedColumns, Option.bind_eq_bind, Option.bind_eq_some_iff, toOption_eq_some] at h
  obtain ⟨proof, hserved, row, hrow, hcolumns⟩ := h
  obtain ⟨rfl, rfl, rfl, rfl⟩ := Option.some.inj hcolumns
  exact ⟨proof, row, hserved, hrow, rfl, rfl, rfl, rfl⟩

/-- A run starts from the stored request. -/
lemma run_settledRun (email : Option String) (evidence : SettlementEvidence) (htyped : evidence.txHash < 2 ^ 256) :
    Database.empty.run briefStandIn sampleOutside (settledRun email evidence htyped) =
      (issuedDatabase email).run briefStandIn sampleOutside (settledActions evidence htyped) := by
  rw [settledRun, Database.run_cons, issue_shortDraft]

set_option maxRecDepth 100000 in
lemma unverifiedRun_columns : servedColumns (Database.empty.run briefStandIn sampleOutside unverifiedRun) =
    some (true, none, 1000, 1000) := by
  rw [unverifiedRun, run_settledRun]
  decide +kernel

set_option maxRecDepth 100000 in
lemma selfPaidRun_columns : servedColumns (Database.empty.run briefStandIn sampleOutside selfPaidRun) =
    some (false, none, 1000, 0) := by
  rw [selfPaidRun, run_settledRun]
  decide +kernel

set_option maxRecDepth 100000 in
lemma openRun_columns : servedColumns (Database.empty.run briefStandIn sampleOutside openRun) =
    some (false, none, 1000, 1000) := by
  rw [openRun, run_settledRun]
  decide +kernel

/-- Somebody settles a request before its payer has verified a mailbox, or in the transaction that pays it:
an honest attestor's proof is served, and refused. -/
theorem served_proofs_are_refused : sampleAttestor.Honest briefStandIn ∧
    (∃ proof, served (Database.empty.run briefStandIn sampleOutside unverifiedRun) = .ok proof ∧
      ∀ v, verifyProof briefStandIn proof none [sampleAttestor.address] ≠ .ok v) ∧
    ∃ proof, served (Database.empty.run briefStandIn sampleOutside selfPaidRun) = .ok proof ∧
      ∀ v, verifyProof briefStandIn proof none [sampleAttestor.address] ≠ .ok v := by
  refine ⟨sampleAttestor_honest_brief, ?_, ?_⟩
  · obtain ⟨proof, row, hserved, hrow, hgated, hcompleted, -⟩ := served_of_columns unverifiedRun_columns
    refine ⟨proof, hserved, fun v hv => ?_⟩
    have hholds := (sound_run briefStandIn sampleOutside unverifiedRun).passedAndCovered hserved hrow hv
    have hpassed := hholds.passed hgated
    rw [hcompleted] at hpassed
    cases hpassed
  · obtain ⟨proof, row, hserved, hrow, -, -, hamount, hreceived⟩ := served_of_columns selfPaidRun_columns
    refine ⟨proof, hserved, fun v hv => ?_⟩
    have hholds := (sound_run briefStandIn sampleOutside selfPaidRun).passedAndCovered hserved hrow hv
    have hcovered := hholds.covered
    rw [hamount, hreceived] at hcovered
    omega

/-- A request that asks for no verification and is settled after it was paid: its proof verifies. -/
theorem served_proof_verifies_iff_openRun : ∃ proof snapshot b, served (Database.empty.run briefStandIn sampleOutside openRun) = .ok proof ∧
    Verifies briefStandIn sampleAttestor snapshot b proof := by
  obtain ⟨proof, row, hserved, hrow, hgated, -, hamount, hreceived⟩ := served_of_columns openRun_columns
  obtain ⟨row', document, b, hrow', -, -, hiff⟩ :=
    served_proof_verifies_iff sampleAttestor_honest_brief openRun hserved
  obtain rfl := Option.some.inj (hrow.symm.trans hrow')
  refine ⟨proof, _, b, hserved, hiff.2 ⟨fun h => ?_, ?_, ?_⟩⟩
  · rw [hgated] at h
    cases h
  · rw [hamount, hreceived]
  · rw [hreceived]
    decide

end Payday.Proofs
