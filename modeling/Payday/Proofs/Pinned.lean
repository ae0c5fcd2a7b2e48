/-
# An attestation pins its request

The attestor signs a few commitments, not the proof.  The attribution hash pins the document, the
chain and the address are signed as they stand, and the address pins the salt and through it what
the wallet signed: no field of another request's proof can be changed under a genuine attestation.
-/
import Mathlib.Data.Set.Function
import Payday.Proofs.Honest

namespace Payday.Proofs

variable {P : Primitives}

/-- Among these proofs the canonical JSON, the document's hash and the CREATE3 derivation do not
collide.  None of them is injective on all inputs: a hash has 256 bits and an address 160. -/
structure CollisionFree (P : Primitives) (proofs : Set ProofOfPayment) : Prop where
  jcs : ∀ p ∈ proofs, ∀ q ∈ proofs, ∀ bytes, P.snapshotBytes p.canonicalIssuanceSnapshot = .ok bytes →
    P.snapshotBytes q.canonicalIssuanceSnapshot = .ok bytes →
    p.canonicalIssuanceSnapshot = q.canonicalIssuanceSnapshot
  keccak : Set.InjOn P.keccak256 {input | ∃ p ∈ proofs, ∃ bytes,
    P.snapshotBytes p.canonicalIssuanceSnapshot = .ok bytes ∧ input = attributionDomain ++ bytes}
  create3 : Set.InjOn (predictPaymentAddress P) {terms | ∃ p ∈ proofs, p.terms = some terms}

/-- What a genuine attestation fixes of a proof and of the verifier's answer. -/
structure SameRequest (p q : ProofOfPayment) (v w : ProofVerification) : Prop where
  snapshot : p.canonicalIssuanceSnapshot = q.canonicalIssuanceSnapshot
  nonce : parseWord p.issuanceNonce = parseWord q.issuanceNonce
  chain : p.chainId = q.chainId ∧ p.network = q.network
  salt : v.salt = w.salt ∧ parseWord p.salt = parseWord q.salt
  address : v.paymentAddress = w.paymentAddress ∧ parseAddress p.paymentAddress = parseAddress q.paymentAddress
  scope : v.scope = w.scope ∧ p.scope = q.scope
  wallet : v.payerWallet = w.payerWallet

/-- What acceptance says of a proof on its own. -/
structure Supported (P : Primitives) (p : ProofOfPayment) (v : ProofVerification) (terms : PaymentTerms)
    (counted : List (ProofTransfer × Credited)) : Prop where
  /-- The address is derived from the document on a network that it offers. -/
  readTerms : p.terms = some terms
  network : ∃ network networks, p.canonicalIssuanceSnapshot.networkTerms = some networks ∧ network ∈ networks ∧
    terms.chainId = network.chainId ∧ terms.token = network.token ∧ terms.factory = network.factory
  address : v.paymentAddress = predictPaymentAddress P terms ∧
    parseAddress p.paymentAddress = some v.paymentAddress
  salt : terms.salt = v.salt
  /-- Each event is counted once, and none is left out. -/
  sublist : (counted.map Prod.fst).Sublist p.transfers
  reads : ∀ x ∈ counted, x.1.Reads x.2
  once : (counted.map fun x => x.2.event).Nodup
  complete : ∀ transfer ∈ p.transfers, ∃ credited, transfer.Reads credited ∧
    credited.event ∈ counted.map fun x => x.2.event
  recipient : ∀ transfer ∈ p.transfers, parseAddress transfer.recipient = some v.paymentAddress
  covered : terms.amount ≤ tallied counted
  /-- In the wallet's scope the money is the attested wallet's. -/
  sender : v.scope = .walletAttributed → ∃ wallet attestation verified, v.payerWallet = some wallet ∧
    p.payerWallet = some attestation ∧ verified.wallet = wallet ∧
    verifyPayerAttestation P attestation ⟨terms.chainId, terms.factory, v.attributionHash⟩ = .ok verified ∧
    ∀ transfer ∈ p.transfers, parseAddress transfer.sender = some wallet ∨
      ∃ relay, transfer.relay = some relay ∧ parseAddress relay.originSender = some wallet ∧
        ⟨transfer.transactionHash, transfer.logIndex, relay⟩ ∈ p.verification.payload.relayFills

variable {p q : ProofOfPayment} {v w : ProofVerification} {attachment attachment' : Option (List UInt8)}
  {trusted trusted' : List Address}

/-- The terms of a proof are on its network, with its salt. -/
lemma ProofOfPayment.terms_eq_some {terms : PaymentTerms} {network : NetworkTerms} {salt : Hash}
    (h : p.terms = some terms) (hnetwork : p.network = some network) (hsalt : parseWord p.salt = some salt) :
    terms.chainId = network.chainId ∧ terms.token = network.token ∧ terms.factory = network.factory ∧
      terms.salt = salt := by
  simp only [ProofOfPayment.terms, hnetwork, hsalt, Option.bind_eq_bind, Option.bind_eq_some_iff, Option.bind_some,
    Option.pure_def, Option.some.injEq] at h
  obtain ⟨_, -, _, -, _, -, _, -, rfl⟩ := h
  exact ⟨rfl, rfl, rfl, rfl⟩

/-- An accepted proof is supported by its own document, transfers and wallet. -/
lemma supported_of_verifyProof (h : verifyProof P p attachment trusted = .ok v) :
    ∃ terms counted, Supported P p v terms counted := by
  obtain ⟨nonce, network, attested, terms, total, hpasses⟩ := verifyProof_eq_ok.1 h
  obtain ⟨counted, htally, htotal⟩ := sumTransfers_tally hpasses.transfers
  obtain ⟨networks, hnetworks, hmem, -⟩ := ProofOfPayment.network_mem hpasses.readNetwork
  obtain ⟨hchain, htoken, hfactory, hsalt⟩ :=
    ProofOfPayment.terms_eq_some hpasses.readTerms hpasses.readNetwork hpasses.stated
  refine ⟨terms, counted, ?_⟩
  constructor
  · exact hpasses.readTerms
  · exact ⟨network, networks, hnetworks, hmem, hchain, htoken, hfactory⟩
  · exact ⟨hpasses.address.1, hpasses.address.2.1⟩
  · exact hsalt
  · exact htally.sublist
  · exact fun x hx => (htally.counts x hx).reads
  · exact htally.once
  · intro transfer hmem
    obtain ⟨credited, hcounts, hseen | hcounted⟩ := htally.complete transfer hmem
    · simp at hseen
    · exact ⟨credited, hcounts.reads, hcounted⟩
  · intro transfer hmem
    obtain ⟨credited, hcounts, -⟩ := htally.complete transfer hmem
    exact hcounts.recipient
  · have hcovered := hpasses.covered
    omega
  · intro hscope
    have hwallet := hpasses.wallet
    obtain ⟨hvscope, hpayer, -⟩ := hpasses.result
    cases attested with
    | none =>
      rw [hvscope, hwallet.1] at hscope
      cases hscope
    | some verified =>
      obtain ⟨-, attestation, hcarried, hverified⟩ := hwallet
      refine ⟨verified.wallet, attestation, verified, hpayer, hcarried, rfl, ?_, ?_⟩
      · rw [hchain, hfactory]
        exact hverified
      · intro transfer hmem
        obtain ⟨credited, hcounts, -⟩ := htally.complete transfer hmem
        have hsender := hcounts.sender
        rw [hpayer] at hsender
        rcases hsender with hsender | ⟨-, relay, hvouches⟩
        · exact .inl hsender
        · exact .inr ⟨relay, hvouches.carried, hvouches.originSender, hvouches.vouched⟩

/-- The wallet that a payload states is the verifier's. -/
lemma StatesWallet.eq {payload : VerificationAttestationPayload} {a b : Option VerifiedPayerAttestation}
    (ha : StatesWallet payload a) (hb : StatesWallet payload b) : a.map (·.wallet) = b.map (·.wallet) := by
  cases a with
  | none =>
    cases b with
    | none => rfl
    | some b =>
      obtain ⟨wallet, -, hsome, -⟩ := hb
      rw [StatesWallet] at ha
      rw [ha] at hsome
      cases hsome
  | some a =>
    obtain ⟨wallet, -, hsome, hread, -⟩ := ha
    cases b with
    | none =>
      rw [StatesWallet] at hb
      rw [hb] at hsome
      cases hsome
    | some b =>
      obtain ⟨wallet', -, hsome', hread', -⟩ := hb
      obtain rfl : wallet = wallet' := Option.some.inj (hsome.symm.trans hsome')
      rw [hread] at hread'
      rw [Option.map_some, Option.map_some, Option.some.inj hread']

/-- Two accepted proofs with one attestation are about one request. -/
lemma sameRequest_of_verifyProof {proofs : Set ProofOfPayment} (hfree : CollisionFree P proofs) (hpmem : p ∈ proofs)
    (hqmem : q ∈ proofs) (hp : verifyProof P p attachment trusted = .ok v)
    (hq : verifyProof P q attachment' trusted' = .ok w)
    (hpayload : p.verification.payload = q.verification.payload) : SameRequest p q v w := by
  obtain ⟨nonce, network, attested, terms, _, hp⟩ := verifyProof_eq_ok.1 hp
  obtain ⟨nonce', network', attested', terms', _, hq⟩ := verifyProof_eq_ok.1 hq
  have hcommits := hq.commits
  -- the signed hash pins the document
  have hhash : v.attributionHash = w.attributionHash := by
    have h := hp.commits.hash
    rw [hpayload, hcommits.hash] at h
    exact (Option.some.inj h).symm
  have hsnapshot : p.canonicalIssuanceSnapshot = q.canonicalIssuanceSnapshot := by
    obtain ⟨bytes, hbytes, hv, -⟩ := hp.attribution
    obtain ⟨bytes', hbytes', hw, -⟩ := hq.attribution
    have hinput : attributionDomain ++ bytes = attributionDomain ++ bytes' :=
      hfree.keccak ⟨p, hpmem, bytes, hbytes, rfl⟩ ⟨q, hqmem, bytes', hbytes', rfl⟩ (by
        show attributionHash P bytes = attributionHash P bytes'
        rw [hv, hw, hhash])
    rw [← List.append_cancel_left hinput] at hbytes'
    exact hfree.jcs p hpmem q hqmem bytes hbytes hbytes'
  have hnonce : nonce = nonce' := by
    have h := hp.commits.nonce
    rw [hpayload, hcommits.nonce] at h
    exact (Option.some.inj h).symm
  have hchain : p.chainId = q.chainId := by
    rw [← hp.commits.chain, hpayload, hcommits.chain]
  have hnetwork : p.network = q.network := by
    rw [ProofOfPayment.network, ProofOfPayment.network, hchain, hsnapshot]
  have haddress : v.paymentAddress = w.paymentAddress := by
    have h := hp.commits.paymentAddress
    rw [hpayload, hcommits.paymentAddress] at h
    exact (Option.some.inj h).symm
  -- the address pins the terms, and the terms the salt
  have hterms : terms = terms' :=
    hfree.create3 ⟨p, hpmem, hp.readTerms⟩ ⟨q, hqmem, hq.readTerms⟩ (by
      rw [← hp.address.1, ← hq.address.1, haddress])
  have hsalt : v.salt = w.salt := by
    obtain ⟨-, -, -, hv⟩ := ProofOfPayment.terms_eq_some hp.readTerms hp.readNetwork hp.stated
    obtain ⟨-, -, -, hw⟩ := ProofOfPayment.terms_eq_some hq.readTerms hq.readNetwork hq.stated
    rw [← hv, ← hw, hterms]
  have hwallet : v.payerWallet = w.payerWallet := by
    have h := hp.commits.wallet
    rw [hpayload] at h
    rw [hp.result.2.1, hq.result.2.1]
    exact h.eq hcommits.wallet
  constructor
  · exact hsnapshot
  · rw [hp.readNonce, hq.readNonce, hnonce]
  · exact ⟨hchain, hnetwork⟩
  · exact ⟨hsalt, by rw [hp.stated, hq.stated, hsalt]⟩
  · exact ⟨haddress, by rw [hp.address.2.1, hq.address.2.1, haddress]⟩
  · exact ⟨by rw [hp.result.1, hq.result.1, hsnapshot], by rw [hp.kind.2.2.2, hq.kind.2.2.2, hsnapshot]⟩
  · exact hwallet

/-- A signed attestation cannot be moved to another proof: two accepted proofs with one payload and
one signature are about one request, and every accepted proof stands on its own document, transfers
and wallet. -/
theorem attestation_cannot_be_moved {proofs : Set ProofOfPayment} (hfree : CollisionFree P proofs) :
    (∀ p ∈ proofs, ∀ q ∈ proofs, ∀ attachment attachment' trusted trusted' v w,
      p.verification.payload = q.verification.payload → p.verification.signature = q.verification.signature →
      verifyProof P p attachment trusted = .ok v → verifyProof P q attachment' trusted' = .ok w →
      SameRequest p q v w) ∧
    ∀ p attachment trusted v, verifyProof P p attachment trusted = .ok v →
      ∃ terms counted, Supported P p v terms counted := by
  refine ⟨?_, ?_⟩
  · intro p hpmem q hqmem attachment attachment' trusted trusted' v w hpayload _ hp hq
    exact sameRequest_of_verifyProof hfree hpmem hqmem hp hq hpayload
  · intro p attachment trusted v h
    exact supported_of_verifyProof h

/-! ### Two proofs under one attestation -/

/-- A request that a wallet paid, proved twice: the settlement transaction is not signed. -/
lemma exists_accepted_pair : ∃ (p q : ProofOfPayment) (v w : ProofVerification),
    verifyProof standIn p none [9] = .ok v ∧ verifyProof standIn q none [9] = .ok w ∧
    p.verification = q.verification ∧ p.canonicalIssuanceSnapshot = q.canonicalIssuanceSnapshot ∧
    p.terms = q.terms ∧ v.payerWallet = some 7 ∧
    p.settlementTransactionHash = wordText 51 ∧ q.settlementTransactionHash = wordText 52 := by
  obtain ⟨invoice, binding, hissued, hderived, hbinding, hsnapshot, hwallet, hamount⟩ := sample_bound
  obtain ⟨evidence, hevidence, hpayer⟩ := Option.map_eq_some_iff.1 hwallet
  have haddress : binding.paymentAddress < 2 ^ 160 := by
    rw [hderived.address]
    exact predictPaymentAddress_lt _
  have hpaid := sample_paid haddress
  have hsenders : checkSenders (scopeOf invoice.issuanceSnapshot)
      (binding.wallet.map fun wallet => standIn.toChecksum wallet.payerWallet)
      ([sampleTransfer binding.paymentAddress].map (SettlementTransfer.proofTransfer standIn)) = .ok () := by
    have hscope : scopeOf invoice.issuanceSnapshot = .walletAttributed := by
      rw [hsnapshot]
      rfl
    simp only [hscope, hevidence, Option.map_some, hpayer, checkSenders, orError_bind_eq_ok, require_eq_ok,
      Option.some.injEq, exists_eq_left']
    simp [foreign, SettlementTransfer.proofTransfer, sampleTransfer]
  have hungated : invoice.issuanceSnapshot.payerVerification.isGated = true → (none : Option Time).isSome = true := by
    rw [hsnapshot]
    intro h
    cases h
  have hcovered : invoice.amount ≤ (([sampleTransfer binding.paymentAddress].map (·.amount)).sum) := by
    rw [hamount]
    exact le_rfl
  -- the two requests for a proof differ in the settlement transaction only
  have hserved : ∀ txHash, getProof standIn sampleAttestor invoice ⟨.fulfilled, some txHash, none⟩
      [sampleTransfer binding.paymentAddress] [] = .ok (proofOf standIn invoice binding txHash
        ([sampleTransfer binding.paymentAddress].map (SettlementTransfer.proofTransfer standIn))
        (signedPayload standIn sampleAttestor (attestationPayload standIn invoice binding ⟨.fulfilled, some 51, none⟩
          ([sampleTransfer binding.paymentAddress].map (SettlementTransfer.proofTransfer standIn)) [])
          (utf8 (toString (repr (attestationPayload standIn invoice binding ⟨.fulfilled, some 51, none⟩
            ([sampleTransfer binding.paymentAddress].map (SettlementTransfer.proofTransfer standIn)) [])))))) :=
    fun txHash => getProof_eq_ok.2 ⟨txHash, binding, _, rfl, rfl, hbinding, hsenders, rfl, rfl⟩
  have hattaches : ∀ bytes ∈ (none : Option (List UInt8)), Attaches standIn invoice.issuanceSnapshot bytes := by simp
  have hverified : ∀ txHash, txHash < 2 ^ 256 → _ := fun txHash hlt =>
    verifyProof_of_served (hserved txHash) hissued hbinding hderived hpaid sampleAttestor_honest
      (fun hash hmem => Option.some.inj hmem ▸ hlt) hattaches hungated hcovered
  obtain ⟨digest, hp⟩ := hverified 51 (by decide)
  obtain ⟨digest', hq⟩ := hverified 52 (by decide)
  refine ⟨_, _, _, _, hp, hq, rfl, rfl, ?_, hwallet, rfl, rfl⟩
  rw [proofOf_terms hissued hderived, proofOf_terms hissued hderived]

/-- Two different proofs under one attestation agree on the request. -/
theorem attestation_cannot_be_moved_sample : ∃ (p q : ProofOfPayment) (v w : ProofVerification),
    parseWord p.settlementTransactionHash ≠ parseWord q.settlementTransactionHash ∧
    verifyProof standIn p none [9] = .ok v ∧ verifyProof standIn q none [9] = .ok w ∧ v.payerWallet = some 7 ∧
    SameRequest p q v w ∧ ∃ terms counted, Supported standIn p v terms counted := by
  obtain ⟨p, q, v, w, hp, hq, hverification, hsnapshot, hterms, hpayer, htx, htx'⟩ := exists_accepted_pair
  have hfree : CollisionFree standIn {p, q} := by
    have hall : ∀ r ∈ ({p, q} : Set ProofOfPayment),
        r.canonicalIssuanceSnapshot = p.canonicalIssuanceSnapshot ∧ r.terms = p.terms := by
      rintro r (rfl | rfl)
      · exact ⟨rfl, rfl⟩
      · exact ⟨hsnapshot.symm, hterms.symm⟩
    constructor
    · intro r hr r' hr' bytes _ _
      rw [(hall r hr).1, (hall r' hr').1]
    · rintro x ⟨r, hr, bytes, hbytes, rfl⟩ y ⟨r', hr', bytes', hbytes', rfl⟩ _
      rw [(hall r hr).1] at hbytes
      rw [(hall r' hr').1, hbytes] at hbytes'
      rw [Except.ok.inj hbytes']
    · rintro x ⟨r, hr, hx⟩ y ⟨r', hr', hy⟩ _
      rw [(hall r hr).2] at hx
      rw [(hall r' hr').2, hx] at hy
      exact Option.some.inj hy
  have hmain := attestation_cannot_be_moved hfree
  refine ⟨p, q, v, w, ?_, hp, hq, hpayer, ?_, hmain.2 p none [9] v hp⟩
  · rw [htx, htx', parseWord_wordText (by decide), parseWord_wordText (by decide)]
    decide
  · exact hmain.1 p (.inl rfl) q (.inr rfl) none none [9] [9] v w (congrArg _ hverification)
      (congrArg _ hverification) hp hq

end Payday.Proofs
