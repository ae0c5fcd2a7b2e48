/-
# A served proof verifies

`get_proof` writes what `verify_proof` reads.  For a request that was issued and bound, transfers
that went to its address and an attestor whose signature recovers to it, a served proof passes every
check but two, which depend on the request's history: the verification must have passed, and the
transfers must cover the amount.
-/
import Payday.Proofs.Accepted
import Payday.Proofs.Binding
import Payday.Proofs.Served

namespace Payday.Proofs

variable {P : Primitives}

/-- A transfer as the columns of the ledger bound it. -/
structure SettlementTransfer.Typed (transfer : SettlementTransfer) : Prop where
  sender : transfer.sender < 2 ^ 160
  recipient : transfer.recipient < 2 ^ 160
  amount : transfer.amount < 2 ^ 256
  transactionHash : transfer.transactionHash < 2 ^ 256
  logIndex : transfer.logIndex < 2 ^ 64
  blockNumber : transfer.blockNumber < 2 ^ 64
  requestId : ∀ id ∈ transfer.relayRequestId, id < 2 ^ 256
  originChainId : ∀ chainId ∈ transfer.relayOriginChainId, chainId < 2 ^ 64
  originTxHash : ∀ hash ∈ transfer.relayOriginTxHash, hash < 2 ^ 256
  payerWallet : ∀ wallet ∈ transfer.relayPayerWallet, wallet < 2 ^ 160
  /-- A filled intent was verified through a receipt (`relay_intents_verified_fill`). -/
  source : ∀ source ∈ transfer.relayAttributionSource, source = "receipt"

/-- The event of a transfer. -/
def SettlementTransfer.event (transfer : SettlementTransfer) : Hash × ℕ :=
  (transfer.transactionHash, transfer.logIndex)

/-- The transfers to an address, each event once. -/
structure Paid (transfers : List SettlementTransfer) (paymentAddress : Address) : Prop where
  typed : ∀ transfer ∈ transfers, transfer.Typed
  recipient : ∀ transfer ∈ transfers, transfer.recipient = paymentAddress
  once : (transfers.map SettlementTransfer.event).Nodup
  fits : (transfers.map (·.amount)).sum < 2 ^ 256

/-! ### The attestation of the wallet -/

lemma nonce_of_verifyPayerAttestation {attestation : PayerWalletAttestation} {scope : PayerAttestationScope}
    {verified : VerifiedPayerAttestation} (h : verifyPayerAttestation P attestation scope = .ok verified) :
    parseWord attestation.typedData.message.nonce = some verified.nonce ∧ verified.wallet < 2 ^ 160 := by
  simp only [verifyPayerAttestation, bind_eq_ok, require_eq_ok, orError_eq_ok, exists_const, pure_eq_ok] at h
  obtain ⟨-, -, _, -, -, _, -, -, wallet, hwallet, _, -, -, nonce, hnonce, _, -, -, _, -, _, -, -, rfl⟩ := h
  exact ⟨hnonce, lt_of_parseFixed hwallet⟩

/-! ### The transfers -/

variable {transfer : SettlementTransfer} {payload : VerificationAttestationPayload}

/-- What a relayed transfer carries. -/
lemma SettlementTransfer.relay_eq_some {relay : RelayAttribution} (h : transfer.relay P = some relay)
    (htyped : transfer.Typed) :
    relay.Readable ∧ relay.attributionSource = "receipt" ∧
      ∃ wallet, relay.originSender = P.toChecksum wallet ∧ wallet < 2 ^ 160 := by
  unfold SettlementTransfer.relay at h
  split at h
  · rename_i requestId originChainId originTx wallet source hrequest hchain htx hwallet hsource
    obtain rfl := Option.some.inj h
    refine ⟨⟨⟨requestId, parseWord_wordText (htyped.requestId _ hrequest)⟩,
      ⟨originTx, parseWord_wordText (htyped.originTxHash _ htx)⟩,
      ⟨originChainId, parseU64_repr (htyped.originChainId _ hchain)⟩⟩, htyped.source _ hsource,
      wallet, rfl, htyped.payerWallet _ hwallet⟩
  · cases h

/-- Without an attested wallet every transfer passes. -/
lemma sentBy_none (htyped : transfer.Typed) : SentBy payload (transfer.proofTransfer P) none := by
  intro relay hrelay
  obtain ⟨hreadable, hsource, wallet, hsender, hlt⟩ := SettlementTransfer.relay_eq_some hrelay htyped
  refine ⟨hreadable, ⟨wallet, ?_⟩, ?_⟩
  · rw [hsender, parseAddress_toChecksum P hlt]
  · rw [hsource]
    decide

/-- A transfer that is not foreign to the wallet passes, with the fills that are vouched for. -/
lemma sentBy_some {wallet : Address} {transfers : List ProofTransfer} (htyped : transfer.Typed)
    (hlt : wallet < 2 ^ 160) (hmem : transfer.proofTransfer P ∈ transfers)
    (hfills : payload.relayFills = relayFills (some (P.toChecksum wallet)) transfers)
    (hown : foreign (P.toChecksum wallet) (transfer.proofTransfer P) = false) :
    SentBy payload (transfer.proofTransfer P) (some wallet) := by
  have hsender : parseAddress (transfer.proofTransfer P).sender = some transfer.sender :=
    parseAddress_toChecksum P htyped.sender
  by_cases heq : (transfer.proofTransfer P).sender = P.toChecksum wallet
  · left
    rw [heq, parseAddress_toChecksum P hlt]
  · right
    refine ⟨⟨_, hsender⟩, ?_⟩
    cases hrelay : (transfer.proofTransfer P).relay with
    | none => simp [foreign, heq, hrelay] at hown
    | some relay =>
      have horigin : relay.originSender = P.toChecksum wallet := by simpa [foreign, heq, hrelay] using hown
      obtain ⟨hreadable, hsource, -⟩ := SettlementTransfer.relay_eq_some hrelay htyped
      refine ⟨relay, hrelay, hsource, hreadable, ?_, ?_⟩
      · rw [horigin, parseAddress_toChecksum P hlt]
      · rw [hfills]
        refine List.mem_filterMap.2 ⟨transfer.proofTransfer P, ?_, ?_⟩
        · exact List.mem_filter.2 ⟨hmem, decide_eq_true heq⟩
        · rw [hrelay]
          rfl

/-- A transfer is read back as its event and amount. -/
lemma SettlementTransfer.reads (htyped : transfer.Typed) :
    (transfer.proofTransfer P).Reads ⟨transfer.transactionHash, transfer.logIndex, transfer.amount⟩ :=
  ⟨parseWord_wordText htyped.transactionHash, parseU64_repr htyped.logIndex, parseU256_repr htyped.amount⟩

lemma ProofTransfer.Reads.unique {transfer : ProofTransfer} {a b : Credited} (ha : transfer.Reads a)
    (hb : transfer.Reads b) : a = b := by
  obtain ⟨hash, index, amount⟩ := a
  obtain ⟨hash', index', amount'⟩ := b
  obtain rfl := Option.some.inj (ha.transactionHash.symm.trans hb.transactionHash)
  obtain rfl := Option.some.inj (ha.logIndex.symm.trans hb.logIndex)
  obtain rfl := Option.some.inj (ha.amount.symm.trans hb.amount)
  rfl

lemma counts_proofTransfer {wallet : Option Address} (htyped : transfer.Typed)
    (hsender : SentBy payload (transfer.proofTransfer P) wallet) :
    Counts payload wallet transfer.recipient (transfer.proofTransfer P)
      ⟨transfer.transactionHash, transfer.logIndex, transfer.amount⟩ where
  reads := SettlementTransfer.reads htyped
  recipient := parseAddress_toChecksum P htyped.recipient
  sender := hsender
  blockNumber := ⟨_, parseU64_repr htyped.blockNumber⟩

/-- The loop adds up transfers that all pass. -/
lemma sumTransfers_paid {wallet : Option Address} {paymentAddress : Address} {transfers : List SettlementTransfer}
    {total : ℕ} {seen : List (Hash × ℕ)} (htyped : ∀ transfer ∈ transfers, transfer.Typed)
    (hrecipient : ∀ transfer ∈ transfers, transfer.recipient = paymentAddress)
    (hsenders : ∀ transfer ∈ transfers, SentBy payload (transfer.proofTransfer P) wallet)
    (honce : (transfers.map SettlementTransfer.event).Nodup)
    (hfresh : ∀ transfer ∈ transfers, transfer.event ∉ seen)
    (hfits : total + (transfers.map (·.amount)).sum < 2 ^ 256) :
    sumTransfers payload wallet paymentAddress (transfers.map (SettlementTransfer.proofTransfer P)) total seen =
      .ok (total + (transfers.map (·.amount)).sum) := by
  induction transfers generalizing total seen with
  | nil => rfl
  | cons transfer rest ih =>
    have hself : transfer ∈ transfer :: rest := List.mem_cons_self
    have hcheck := checkTransfer_eq_ok.2 (counts_proofTransfer (htyped _ hself) (hsenders _ hself))
    rw [hrecipient _ hself] at hcheck
    simp only [List.map_cons, List.sum_cons, List.nodup_cons] at hfits honce ⊢
    -- the events of the rest are not among those seen once this one is
    have hfresh' : ∀ t ∈ rest, t.event ∉ transfer.event :: seen := by
      intro t ht hmem
      rcases List.mem_cons.1 hmem with heq | hmem
      · exact honce.1 (heq ▸ List.mem_map_of_mem ht)
      · exact hfresh t (List.mem_cons_of_mem _ ht) hmem
    have hfits' : total + transfer.amount + (rest.map (·.amount)).sum < 2 ^ 256 := by omega
    rw [sumTransfers, bind_eq_ok]
    refine ⟨_, hcheck, ?_⟩
    have hnew : Credited.event ⟨transfer.transactionHash, transfer.logIndex, transfer.amount⟩ ∉ seen :=
      hfresh _ hself
    rw [if_neg hnew, require_bind_eq_ok]
    refine ⟨by show total + transfer.amount < 2 ^ 256; omega, ?_⟩
    rw [← Nat.add_assoc]
    exact ih (fun t ht => htyped t (List.mem_cons_of_mem _ ht))
      (fun t ht => hrecipient t (List.mem_cons_of_mem _ ht))
      (fun t ht => hsenders t (List.mem_cons_of_mem _ ht)) honce.2 hfresh' hfits'

/-- Every addition is checked: transfers that are added up fit a word. -/
lemma total_of_sumTransfers {wallet : Option Address} {paymentAddress : Address} {transfers : List SettlementTransfer}
    {total sum : ℕ} {seen : List (Hash × ℕ)} (htyped : ∀ transfer ∈ transfers, transfer.Typed)
    (honce : (transfers.map SettlementTransfer.event).Nodup)
    (hfresh : ∀ transfer ∈ transfers, transfer.event ∉ seen) (htotal : total < 2 ^ 256)
    (h : sumTransfers payload wallet paymentAddress (transfers.map (SettlementTransfer.proofTransfer P)) total seen =
      .ok sum) :
    sum = total + (transfers.map (·.amount)).sum ∧ sum < 2 ^ 256 := by
  induction transfers generalizing total seen with
  | nil =>
    obtain rfl := Except.ok.inj h
    exact ⟨rfl, htotal⟩
  | cons transfer rest ih =>
    have hself : transfer ∈ transfer :: rest := List.mem_cons_self
    obtain ⟨credited, hcheck, hrest⟩ := bind_eq_ok.1 h
    -- the verifier reads the event and the amount that were written
    obtain rfl : ⟨transfer.transactionHash, transfer.logIndex, transfer.amount⟩ = credited :=
      (SettlementTransfer.reads (htyped _ hself)).unique (checkTransfer_eq_ok.1 hcheck).reads
    simp only [List.map_cons, List.sum_cons, List.nodup_cons] at honce ⊢
    have hnew : Credited.event ⟨transfer.transactionHash, transfer.logIndex, transfer.amount⟩ ∉ seen :=
      hfresh _ hself
    have hfresh' : ∀ t ∈ rest, t.event ∉ transfer.event :: seen := by
      intro t ht hmem
      rcases List.mem_cons.1 hmem with heq | hmem
      · exact honce.1 (heq ▸ List.mem_map_of_mem ht)
      · exact hfresh t (List.mem_cons_of_mem _ ht) hmem
    rw [if_neg hnew, require_bind_eq_ok] at hrest
    have hsum := ih (fun t ht => htyped t (List.mem_cons_of_mem _ ht)) honce.2 hfresh' hrest.1 hrest.2
    exact ⟨by rw [hsum.1, Nat.add_assoc], hsum.2⟩

/-! ### The whole proof -/

variable {attestor : Attestor} {invoice : Invoice} {settled : Settled} {transfers : List SettlementTransfer}
  {attempts : List VerificationAttempt} {proof : ProofOfPayment}

/-- What the attestor of a served proof signs. -/
def signedPayload (P : Primitives) (attestor : Attestor) (payload : VerificationAttestationPayload)
    (bytes : List UInt8) : SignedVerificationAttestation :=
  ⟨payload, P.toChecksum attestor.address, bytesText (attestor.sign (P.keccak256 (attestationDomain ++ bytes)))⟩

/-- A proof is served for a fulfilled request whose senders pass. -/
lemma getProof_eq_ok : getProof P attestor invoice settled transfers attempts = .ok proof ↔
    ∃ settlementTxHash binding bytes, settled.status = .fulfilled ∧
      settled.settlementTxHash = some settlementTxHash ∧ invoice.binding = some binding ∧
      checkSenders (scopeOf invoice.issuanceSnapshot)
        (binding.wallet.map fun wallet => P.toChecksum wallet.payerWallet)
        (transfers.map (SettlementTransfer.proofTransfer P)) = .ok () ∧
      P.payloadBytes (attestationPayload P invoice binding settled
        (transfers.map (SettlementTransfer.proofTransfer P)) attempts) = .ok bytes ∧
      proof = proofOf P invoice binding settlementTxHash (transfers.map (SettlementTransfer.proofTransfer P))
        (signedPayload P attestor (attestationPayload P invoice binding settled
          (transfers.map (SettlementTransfer.proofTransfer P)) attempts) bytes) := by
  simp only [getProof, Attestor.attest, bind_eq_ok, require_eq_ok, orError_eq_ok, exists_const, mapError_eq_ok,
    pure_eq_ok]
  constructor
  · rintro ⟨hstatus, txHash, htx, binding, hbinding, _, hsenders, verification, ⟨digest, hdigest, rfl⟩, rfl⟩
    simp only [attestationDigest] at hdigest
    split at hdigest
    · cases hdigest
    · rename_i bytes hbytes
      cases hdigest
      exact ⟨txHash, binding, bytes, hstatus, htx, hbinding, hsenders, hbytes, rfl⟩
  · rintro ⟨txHash, binding, bytes, hstatus, htx, hbinding, hsenders, hbytes, rfl⟩
    refine ⟨hstatus, txHash, htx, binding, hbinding, (), hsenders, _, ⟨_, ?_, rfl⟩, rfl⟩
    simp only [attestationDigest, hbytes]

/-- The attestor's signature recovers to it. -/
def Attestor.Honest (P : Primitives) (attestor : Attestor) : Prop :=
  ∀ digest, P.recover (attestor.sign digest) digest = some attestor.address

/-- What the verifier answers for a served proof. -/
def servedVerification (invoice : Invoice) (binding : PaymentBinding) (digest : Option Hash)
    (attestor : Attestor) (attachment : Option (List UInt8)) : ProofVerification where
  attributionHash := invoice.attributionHash
  scope := scopeOf invoice.issuanceSnapshot
  payerWallet := binding.wallet.map (·.payerWallet)
  attestationDigest := digest
  salt := binding.salt
  paymentAddress := binding.paymentAddress
  attestationSigner := attestor.address
  attachmentVerified := attachment.isSome

lemma predictPaymentAddress_lt (terms : PaymentTerms) : predictPaymentAddress P terms < 2 ^ 160 :=
  Nat.mod_lt _ (Nat.two_pow_pos 160)

section Served

variable {binding : PaymentBinding} {txHash : Hash} {verification : SignedVerificationAttestation}
  {proofTransfers : List ProofTransfer}

lemma Derived.network_typed (hissued : Issued P invoice) (hderived : Derived P invoice binding) :
    binding.network.Typed :=
  hissued.typed _ (networkFor_eq_some hderived.network).1

/-- The proof names the binding's network. -/
lemma proofOf_network (hissued : Issued P invoice) (hderived : Derived P invoice binding) :
    (proofOf P invoice binding txHash proofTransfers verification).network = some binding.network := by
  have htyped := hderived.network_typed hissued
  simp only [ProofOfPayment.network, proofOf, parseU64_repr htyped.chainId, hissued.networks, Option.bind_eq_bind,
    Option.bind_some]
  exact hderived.network

lemma Derived.salt_lt (hderived : Derived P invoice binding) : binding.salt < 2 ^ 256 := by
  obtain ⟨digest, -, hsalt⟩ := hderived.wallet
  rw [hsalt]
  exact P.keccak256_lt _

/-- The terms of the proof are those of the request on that network. -/
lemma proofOf_terms (hissued : Issued P invoice) (hderived : Derived P invoice binding) :
    (proofOf P invoice binding txHash proofTransfers verification).terms =
      some (invoice.termsOn binding.network binding.recovery binding.salt) := by
  simp only [ProofOfPayment.terms, proofOf_network hissued hderived, Option.bind_eq_bind, Option.bind_some]
  simp only [proofOf, hissued.amount, hissued.receiver, hissued.expiration, hderived.recovery,
    parseWord_wordText hderived.salt_lt, Option.bind_some]
  rfl

/-- The wallet of a binding as the verifier finds it. -/
lemma Derived.attested (hderived : Derived P invoice binding) :
    ∃ attested, Attested P (proofOf P invoice binding txHash proofTransfers verification) binding.network
        invoice.attributionHash attested ∧
      binding.salt = recomputeSalt P invoice.issuanceNonce invoice.attributionHash (attested.map (·.digest)) ∧
      attested.map (·.wallet) = binding.wallet.map (·.payerWallet) := by
  obtain ⟨digest, hwallet, hsalt⟩ := hderived.wallet
  cases hw : binding.wallet with
  | none =>
    rw [hw] at hwallet
    obtain ⟨hrequired, rfl⟩ := hwallet
    have hscope : scopeOf invoice.issuanceSnapshot = .settlement := if_neg (by
      rw [← Invoice.walletAttestationRequired, hrequired]
      decide)
    refine ⟨none, ⟨hscope, ?_⟩, hsalt, rfl⟩
    show binding.wallet.map _ = none
    rw [hw]
    rfl
  | some evidence =>
    rw [hw] at hwallet
    obtain ⟨hrequired, verified, hverified, hpayer, rfl⟩ := hwallet
    refine ⟨some verified, ⟨if_pos hrequired, evidence.attestation, ?_, hverified⟩, hsalt, by rw [Option.map_some, hpayer]; rfl⟩
    show binding.wallet.map _ = some evidence.attestation
    rw [hw]
    rfl

/-- The senders of a served proof pass. -/
lemma sentBy_served (hderived : Derived P invoice binding) (htyped : ∀ transfer ∈ transfers, transfer.Typed)
    (hsenders : checkSenders (scopeOf invoice.issuanceSnapshot)
      (binding.wallet.map fun wallet => P.toChecksum wallet.payerWallet)
      (transfers.map (SettlementTransfer.proofTransfer P)) = .ok ())
    (hfills : payload.relayFills = relayFills (binding.wallet.map fun wallet => P.toChecksum wallet.payerWallet)
      (transfers.map (SettlementTransfer.proofTransfer P))) :
    ∀ transfer ∈ transfers, SentBy payload (transfer.proofTransfer P) (binding.wallet.map (·.payerWallet)) := by
  intro transfer hmem
  obtain ⟨digest, hwallet, -⟩ := hderived.wallet
  cases hw : binding.wallet with
  | none => exact sentBy_none (htyped _ hmem)
  | some evidence =>
    rw [hw] at hwallet hsenders hfills
    obtain ⟨hrequired, verified, hverified, hpayer, -⟩ := hwallet
    have hscope : scopeOf invoice.issuanceSnapshot = .walletAttributed := if_pos hrequired
    have hlt : evidence.payerWallet < 2 ^ 160 := by
      rw [← hpayer]
      exact (nonce_of_verifyPayerAttestation hverified).2
    simp only [hscope, checkSenders, Option.map_some, orError_bind_eq_ok, require_eq_ok, Option.some.injEq,
      exists_eq_left'] at hsenders
    have hmem' : transfer.proofTransfer P ∈ transfers.map (SettlementTransfer.proofTransfer P) :=
      List.mem_map_of_mem hmem
    exact sentBy_some (htyped _ hmem) hlt hmem' hfills (by simpa using List.any_eq_false.1 hsenders _ hmem')

/-- The outcome that an attestation states is the passed one exactly when no identity add-on is attached or
the verification was completed. -/
lemma verificationResult_eq_passedResult {snapshot : CanonicalIssuanceSnapshot} {completedAt : Option Time} :
    verificationResult snapshot.payerVerification completedAt = passedResult snapshot ↔
      (snapshot.payerVerification.isGated = true → completedAt.isSome = true) := by
  cases hgated : snapshot.payerVerification.isGated <;> cases hcompleted : completedAt.isSome <;>
    simp [verificationResult, passedResult, hgated, hcompleted]

/-- The signed payload commits to what the verifier recomputes, if the outcome is the passed one. -/
lemma commits_served {attested : Option VerifiedPayerAttestation} {signer signature : String}
    (hissued : Issued P invoice) (hderived : Derived P invoice binding)
    (hattested : Attested P (proofOf P invoice binding txHash proofTransfers
      ⟨attestationPayload P invoice binding settled proofTransfers attempts, signer, signature⟩) binding.network
      invoice.attributionHash attested)
    (hwallets : attested.map (·.wallet) = binding.wallet.map (·.payerWallet))
    (hpassed : invoice.issuanceSnapshot.payerVerification.isGated = true →
      settled.verificationCompletedAt.isSome = true) :
    Commits (proofOf P invoice binding txHash proofTransfers
        ⟨attestationPayload P invoice binding settled proofTransfers attempts, signer, signature⟩)
      invoice.attributionHash invoice.issuanceNonce attested binding.paymentAddress := by
  have hhash : invoice.attributionHash < 2 ^ 256 := by
    obtain ⟨bytes, -, hbytes⟩ := hissued.attribution
    rw [hbytes]
    exact P.keccak256_lt _
  have haddress : binding.paymentAddress < 2 ^ 160 := by
    rw [hderived.address]
    exact predictPaymentAddress_lt _
  have hstates : StatesWallet (attestationPayload P invoice binding settled proofTransfers attempts) attested ∧
      (scopeOf invoice.issuanceSnapshot = .walletAttributed →
        (attestationPayload P invoice binding settled proofTransfers attempts).facts.any
          (fun fact => decide (fact.kind = "wallet"))) := by
    cases hw : binding.wallet with
    | none =>
      rw [hw, Option.map_none, Option.map_eq_none_iff] at hwallets
      subst hwallets
      refine ⟨?_, fun hscope => ?_⟩
      · show binding.wallet.map _ = none
        rw [hw]
        rfl
      · have hsettlement : scopeOf invoice.issuanceSnapshot = .settlement := hattested.1
        rw [hsettlement] at hscope
        cases hscope
    | some evidence =>
      cases attested with
      | none => simp [hw] at hwallets
      | some verified =>
        obtain ⟨-, attestation, hcarried, hverified⟩ := hattested
        have heq : evidence.attestation = attestation := by simpa [proofOf, hw] using hcarried
        have hpayer : verified.wallet = evidence.payerWallet := by simpa [hw] using hwallets
        obtain ⟨hnonce, hlt⟩ := nonce_of_verifyPayerAttestation hverified
        refine ⟨⟨P.toChecksum verified.wallet, evidence.attestation.typedData.message.nonce, ?_,
          parseAddress_toChecksum P hlt, ?_, ?_⟩, fun _ => ?_⟩
        · simp [attestationPayload, hw, hpayer]
        · simp [attestationPayload, hw]
        · rw [heq, hnonce]
        · simp [attestationPayload, verificationFacts, hw]
  exact {
    version := rfl
    paymentId := rfl
    scope := rfl
    result := verificationResult_eq_passedResult.2 hpassed
    wallet := hstates.1
    hash := parseWord_wordText hhash
    nonce := parseWord_wordText hissued.nonce
    paymentAddress := parseAddress_toChecksum P haddress
    chain := rfl
    fact := hstates.2 }

end Served

section Verified

variable {binding : PaymentBinding} {attachment : Option (List UInt8)}
  (hserved : getProof P attestor invoice settled transfers attempts = .ok proof)
  (hissued : Issued P invoice) (hbinding : invoice.binding = some binding) (hderived : Derived P invoice binding)
  (hpaid : Paid transfers binding.paymentAddress)

include hserved hbinding hderived hpaid

/-- The transfers of a served proof are added up. -/
lemma sumTransfers_served :
    sumTransfers proof.verification.payload (binding.wallet.map (·.payerWallet)) binding.paymentAddress
      proof.transfers 0 [] = .ok (transfers.map (·.amount)).sum := by
  obtain ⟨txHash, binding', bytes, -, -, hbinding', hsenders, -, rfl⟩ := getProof_eq_ok.1 hserved
  obtain rfl : binding = binding' := Option.some.inj (hbinding.symm.trans hbinding')
  have hfits : 0 + (transfers.map (·.amount)).sum < 2 ^ 256 := by simpa using hpaid.fits
  have hsent : ∀ transfer ∈ transfers, SentBy (attestationPayload P invoice binding settled
      (transfers.map (SettlementTransfer.proofTransfer P)) attempts) (transfer.proofTransfer P)
      (binding.wallet.map (·.payerWallet)) :=
    sentBy_served hderived hpaid.typed hsenders rfl
  have hfresh : ∀ transfer ∈ transfers, transfer.event ∉ ([] : List (Hash × ℕ)) := by simp
  have hsum := sumTransfers_paid hpaid.typed hpaid.recipient hsent hpaid.once hfresh hfits
  rw [Nat.zero_add] at hsum
  exact hsum

include hissued

/-- A served proof passes, if the verification has and the transfers cover the amount. -/
lemma verifyProof_of_served (hattestor : attestor.Honest P)
    (hsettled : ∀ hash ∈ settled.settlementTxHash, hash < 2 ^ 256)
    (hattachment : ∀ bytes ∈ attachment, Attaches P invoice.issuanceSnapshot bytes)
    (hpassed : invoice.issuanceSnapshot.payerVerification.isGated = true →
      settled.verificationCompletedAt.isSome = true)
    (hcovered : invoice.amount ≤ (transfers.map (·.amount)).sum) :
    ∃ digest, verifyProof P proof attachment [attestor.address] =
      .ok (servedVerification invoice binding digest attestor attachment) := by
  have hsum := sumTransfers_served hserved hbinding hderived hpaid
  obtain ⟨txHash, binding', payloadBytes, -, htx, hbinding', -, hpayload, rfl⟩ := getProof_eq_ok.1 hserved
  obtain rfl : binding = binding' := Option.some.inj (hbinding.symm.trans hbinding')
  obtain ⟨attested, hattested, hsalt, hwallets⟩ := hderived.attested
  obtain ⟨bytes, hbytes, hhash⟩ := hissued.attribution
  obtain ⟨recovery, hrecovery, hrecoverylt⟩ := hissued.recovery
  obtain rfl : binding.recovery = recovery := Option.some.inj (hderived.recovery.symm.trans hrecovery)
  have hhashlt : invoice.attributionHash < 2 ^ 256 := by
    rw [hhash]
    exact P.keccak256_lt _
  have haddresslt : binding.paymentAddress < 2 ^ 160 := by
    rw [hderived.address]
    exact predictPaymentAddress_lt _
  have htyped := hderived.network_typed hissued
  refine ⟨attested.map (·.digest), verifyProof_eq_ok.2 ⟨invoice.issuanceNonce, binding.network, attested,
    invoice.termsOn binding.network binding.recovery binding.salt, (transfers.map (·.amount)).sum, ?_⟩⟩
  exact {
    kind := ⟨rfl, ⟨rfl, hissued.canonicalization⟩, hissued.schema, rfl⟩
    attribution := ⟨bytes, hbytes, hhash.symm, parseWord_wordText hhashlt⟩
    readNonce := parseWord_wordText hissued.nonce
    readNetwork := proofOf_network hissued hderived
    parameters := ⟨parseAddress_toChecksum P htyped.factory, parseAddress_toChecksum P htyped.token⟩
    wallet := hattested
    salt := hsalt
    stated := parseWord_wordText hderived.salt_lt
    readTerms := proofOf_terms hissued hderived
    address := ⟨hderived.address, parseAddress_toChecksum P haddresslt, parseAddress_toChecksum P hrecoverylt⟩
    attaches := ⟨rfl, hattachment⟩
    signed := ⟨⟨payloadBytes, _, hpayload, parseHex_bytesText _, hattestor _⟩,
      parseAddress_toChecksum P (P.recover_lt _ _ _ (hattestor 0)), .inr (List.mem_singleton_self _)⟩
    commits := commits_served hissued hderived hattested hwallets hpassed
    settled := ⟨txHash, parseWord_wordText (hsettled _ htx)⟩
    transfers := hsum
    covered := hcovered
    result := ⟨rfl, hwallets.symm, rfl⟩ }

omit hpaid in
/-- A served proof that is accepted has passed, and its transfers cover the amount and fit a word. -/
lemma passed_of_verifyProof (htyped : ∀ transfer ∈ transfers, transfer.Typed)
    (honce : (transfers.map SettlementTransfer.event).Nodup) {trusted : List Address} {v : ProofVerification}
    (h : verifyProof P proof attachment trusted = .ok v) :
    (invoice.issuanceSnapshot.payerVerification.isGated = true →
      settled.verificationCompletedAt.isSome = true) ∧
    invoice.amount ≤ (transfers.map (·.amount)).sum ∧ (transfers.map (·.amount)).sum < 2 ^ 256 := by
  obtain ⟨txHash, binding', payloadBytes, -, -, hbinding', -, -, rfl⟩ := getProof_eq_ok.1 hserved
  obtain rfl : binding = binding' := Option.some.inj (hbinding.symm.trans hbinding')
  obtain ⟨nonce, network, attested, terms, total, hpasses⟩ := verifyProof_eq_ok.1 h
  refine ⟨verificationResult_eq_passedResult.1 hpasses.commits.result, ?_⟩
  -- what the verifier reads is what was written
  obtain rfl : binding.network = network :=
    Option.some.inj ((proofOf_network hissued hderived).symm.trans hpasses.readNetwork)
  obtain rfl : invoice.termsOn binding.network binding.recovery binding.salt = terms :=
    Option.some.inj ((proofOf_terms hissued hderived).symm.trans hpasses.readTerms)
  obtain ⟨htotal, hfits⟩ := total_of_sumTransfers htyped honce (fun _ _ => List.not_mem_nil) (Nat.two_pow_pos 256)
    hpasses.transfers
  rw [Nat.zero_add] at htotal
  rw [← htotal]
  exact ⟨hpasses.covered, hfits⟩

end Verified

/-! ### An instance -/

/-- The signer that a signature of the digest names. -/
def standInRecover (signature : List UInt8) (digest : Hash) : Option Address :=
  if signature.drop 20 = toBE 32 digest then some (ofBE (signature.take 20) % 2 ^ 160) else none

/-- Functions with the bounds and the inverses that the libraries document: a signature names its
signer and the digest it is for, and a document's text is its bytes. -/
def standIn : Primitives where
  keccak256 bytes := ofBE bytes % 2 ^ 256
  keccak256_lt _ := Nat.mod_lt _ (Nat.two_pow_pos 256)
  sha256 bytes := (ofBE bytes + bytes.length) % 2 ^ 256
  sha256_lt _ := Nat.mod_lt _ (Nat.two_pow_pos 256)
  recover := standInRecover
  recover_lt signature digest wallet h := by
    unfold standInRecover at h
    split at h
    · obtain rfl := Option.some.inj h
      exact Nat.mod_lt _ (Nat.two_pow_pos 160)
    · cases h
  snapshotBytes snapshot := .ok (utf8 (toString (repr snapshot)))
  payloadBytes payload := .ok (utf8 (toString (repr payload)))
  rfc3339 time := time.repr

/-- The signature of a key for a digest. -/
def standInSign (key : Address) (digest : Hash) : List UInt8 := toBE 20 key ++ toBE 32 digest

lemma standIn_recover {key : Address} (h : key < 2 ^ 160) (digest : Hash) :
    standIn.recover (standInSign key digest) digest = some key := by
  have hdrop : (standInSign key digest).drop 20 = toBE 32 digest :=
    List.drop_left' (length_toBE 20 key)
  have htake : (standInSign key digest).take 20 = toBE 20 key :=
    List.take_left' (length_toBE 20 key)
  have hkey : ofBE (toBE 20 key) = key := ofBE_toBE (by simpa [show 256 = 2 ^ 8 from rfl, ← pow_mul] using h)
  have hrecover : standIn.recover = standInRecover := rfl
  simp only [hrecover, standInRecover, hdrop, if_true, htake, hkey, Nat.mod_eq_of_lt h]

/-- A thousand units on one network. -/
def sampleTerms : Terms where
  networks := [⟨143, 21, 22⟩]
  beneficiary := 31
  recovery := 41
  amount := 1000
  expirationTimestamp := 1900000000
  networks_typed := by
    intro network hmem
    obtain rfl := List.mem_singleton.1 hmem
    exact ⟨by decide, by decide, by decide⟩
  beneficiary_lt := by decide
  recovery_lt := by decide
  amount_lt := by decide
  expirationTimestamp_lt := by decide

def samplePayer : Signer standIn where
  wallet := 7
  sign := standInSign 7
  recovers := standIn_recover (by decide)
  wallet_ne_zero := by decide

def sampleAttestor : Attestor := ⟨9, standInSign 9⟩

lemma sampleAttestor_honest : sampleAttestor.Honest standIn := standIn_recover (by decide)

/-- The document of a request that asks for a wallet. -/
def sampleSnapshot : CanonicalIssuanceSnapshot :=
  sampleTerms.document standIn .usdc ⟨"Issuer", none, none⟩ ⟨"Payer", none, none⟩ ⟨none, none, true⟩ none none none none

/-- A thousand units from the wallet. -/
def sampleTransfer (paymentAddress : Address) : SettlementTransfer :=
  ⟨7, paymentAddress, 1000, 71, 0, 81, none, none, none, none, none⟩

lemma sample_paid {paymentAddress : Address} (h : paymentAddress < 2 ^ 160) :
    Paid [sampleTransfer paymentAddress] paymentAddress := by
  have htyped : (sampleTransfer paymentAddress).Typed := {
    sender := show 7 < 2 ^ 160 by decide
    recipient := h
    amount := show 1000 < 2 ^ 256 by decide
    transactionHash := show 71 < 2 ^ 256 by decide
    logIndex := show 0 < 2 ^ 64 by decide
    blockNumber := show 81 < 2 ^ 64 by decide
    requestId := by simp [sampleTransfer]
    originChainId := by simp [sampleTransfer]
    originTxHash := by simp [sampleTransfer]
    payerWallet := by simp [sampleTransfer]
    source := by simp [sampleTransfer] }
  refine ⟨?_, ?_, List.nodup_singleton _, show 1000 + 0 < 2 ^ 256 by decide⟩
  · intro transfer hmem
    obtain rfl := List.mem_singleton.1 hmem
    exact htyped
  · intro transfer hmem
    obtain rfl := List.mem_singleton.1 hmem
    rfl

/-- The request is issued, and bound by the wallet. -/
lemma sample_bound : ∃ (invoice : Invoice) (binding : PaymentBinding),
    Issued standIn invoice ∧ Derived standIn invoice binding ∧ invoice.binding = some binding ∧
      invoice.issuanceSnapshot = sampleSnapshot ∧ binding.wallet.map (·.payerWallet) = some 7 ∧
      invoice.amount = 1000 := by
  obtain ⟨invoice, hissue, hsnapshot⟩ := issue_ok 1 61 sampleTerms (by decide)
    (show sampleSnapshot = sampleTerms.document standIn .usdc _ _ _ _ _ _ _ from rfl) rfl
  have hissued := issue_issued hissue (by decide)
  obtain ⟨bytes, -, -, -, -, -, -, -, -, -, hinvoice⟩ := issue_eq_ok hissue
  have hmem : ⟨143, 21, 22⟩ ∈ invoice.networks := by
    rw [hinvoice]
    exact Terms.mem_sorted.2 (List.mem_singleton_self _)
  obtain ⟨network, hnetwork⟩ := networkFor_of_mem hmem
  have hrequired : invoice.walletAttestationRequired = true := by
    rw [Invoice.walletAttestationRequired, hsnapshot]
    rfl
  have hnonce : 62 < 2 ^ 256 := by decide
  obtain ⟨binding, hbind, hwallet⟩ := bindPayerWallet_ok samplePayer "" 1900000000 hissued hrequired hnonce hnetwork
  have hderived := (bindPayerWallet_derived hbind).1
  refine ⟨{ invoice with binding := some binding }, binding, hissued.bound _, hderived.bound _, rfl, hsnapshot, hwallet, ?_⟩
  rw [hinvoice]
  rfl

end Payday.Proofs
