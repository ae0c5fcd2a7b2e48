/-
# What acceptance says

`verify_proof` answers `Ok` exactly when every one of its checks passes.  Each stage gets a lemma that
says when it succeeds, in terms of what the proof's texts are read as; the stages are put together in
`Passes`.
-/
import Payday.Proofs.Verify

namespace Payday.Proofs

variable {P : Primitives} {proof : ProofOfPayment}

/-! ### What a proof's own texts say -/

/-- The network of the document that the proof's chain names. -/
def ProofOfPayment.network (proof : ProofOfPayment) : Option NetworkTerms := do
  let chainId ← parseU64 proof.chainId
  let networks ← proof.canonicalIssuanceSnapshot.networkTerms
  networks.find? fun network => decide (network.chainId = chainId)

/-- The terms of the payment: the document's, on that network, with the proof's salt. -/
def ProofOfPayment.terms (proof : ProofOfPayment) : Option PaymentTerms := do
  let network ← proof.network
  let amount ← parseU256 proof.canonicalIssuanceSnapshot.amountBaseUnits
  let receiver ← parseAddress proof.canonicalIssuanceSnapshot.receiverAddress
  let expirationTimestamp ← parseU64 proof.canonicalIssuanceSnapshot.expirationTimestamp
  let recovery ← parseAddress proof.canonicalIssuanceSnapshot.recoveryAddress
  let salt ← parseWord proof.salt
  return ⟨network.factory, network.token, amount, receiver, expirationTimestamp, recovery, salt, network.chainId⟩

/-- A transfer's texts are read as this event and amount. -/
structure ProofTransfer.Reads (transfer : ProofTransfer) (credited : Credited) : Prop where
  transactionHash : parseWord transfer.transactionHash = some credited.transactionHash
  logIndex : parseU64 transfer.logIndex = some credited.logIndex
  amount : parseU256 transfer.amountBaseUnits = some credited.amount

/-- The network is one that the document offers. -/
lemma ProofOfPayment.network_mem {network : NetworkTerms} (h : proof.network = some network) :
    ∃ networks, proof.canonicalIssuanceSnapshot.networkTerms = some networks ∧ network ∈ networks ∧
      parseU64 proof.chainId = some network.chainId := by
  simp only [ProofOfPayment.network, Option.bind_eq_bind, Option.bind_eq_some_iff] at h
  obtain ⟨chainId, hchain, networks, hnetworks, hfind⟩ := h
  have hid : network.chainId = chainId := by simpa using List.find?_some hfind
  exact ⟨networks, hnetworks, List.mem_of_find?_eq_some hfind, by rw [hid, hchain]⟩

/-! ### The stages -/

lemma checkKind_eq_ok {u : Unit} : checkKind proof = .ok u ↔ proof.version = proofVersion ∧
    (proof.canonicalization = canonicalizationScheme ∧
      proof.canonicalIssuanceSnapshot.canonicalization = canonicalizationScheme) ∧
    proof.canonicalIssuanceSnapshot.schema = snapshotSchema ∧
    proof.scope = scopeOf proof.canonicalIssuanceSnapshot := by
  simp only [checkKind, require_bind_eq_ok, require_eq_ok]

lemma checkAttribution_eq_ok {hash : Hash} : checkAttribution P proof = .ok hash ↔
    ∃ bytes, P.snapshotBytes proof.canonicalIssuanceSnapshot = .ok bytes ∧ attributionHash P bytes = hash ∧
      parseWord proof.attributionHash = some hash := by
  simp only [checkAttribution]
  cases hbytes : P.snapshotBytes proof.canonicalIssuanceSnapshot with
  | error e => exact ⟨(fun h => by cases h), fun ⟨_, h, _⟩ => (by cases h)⟩
  | ok bytes =>
    simp only [word, orError_bind_eq_ok, require_bind_eq_ok, pure_eq_ok]
    constructor
    · rintro ⟨stated, hstated, heq, hhash⟩
      exact ⟨bytes, rfl, hhash, by rw [hstated, ← heq, hhash]⟩
    · rintro ⟨bytes', hbytes', hhash, hstated⟩
      cases hbytes'
      exact ⟨hash, hstated, hhash, hhash⟩

lemma checkNetwork_eq_ok {network : NetworkTerms} : checkNetwork proof = .ok network ↔
    proof.network = some network ∧ parseAddress proof.factoryAddress = some network.factory ∧
      parseAddress proof.tokenAddress = some network.token := by
  simp only [checkNetwork, number, address, orError_bind_eq_ok, require_bind_eq_ok, pure_eq_ok,
    ProofOfPayment.network, Option.bind_eq_bind, Option.bind_eq_some_iff]
  constructor
  · rintro ⟨chainId, hchain, networks, hnetworks, found, hfind, _, hfactory, rfl, _, htoken, rfl, rfl⟩
    exact ⟨⟨chainId, hchain, networks, hnetworks, hfind⟩, hfactory, htoken⟩
  · rintro ⟨⟨chainId, hchain, networks, hnetworks, hfind⟩, hfactory, htoken⟩
    exact ⟨chainId, hchain, networks, hnetworks, network, hfind, _, hfactory, rfl, _, htoken, rfl, rfl⟩

/-- The wallet's attestation is verified in the scope that has one, and absent in the other. -/
def Attested (P : Primitives) (proof : ProofOfPayment) (network : NetworkTerms) (hash : Hash) :
    Option VerifiedPayerAttestation → Prop
  | some attested => scopeOf proof.canonicalIssuanceSnapshot = .walletAttributed ∧
      ∃ attestation, proof.payerWallet = some attestation ∧
        verifyPayerAttestation P attestation ⟨network.chainId, network.factory, hash⟩ = .ok attested
  | none => scopeOf proof.canonicalIssuanceSnapshot = .settlement ∧ proof.payerWallet = none

lemma checkWallet_eq_ok {network : NetworkTerms} {hash : Hash} {attested : Option VerifiedPayerAttestation} :
    checkWallet P proof network hash = .ok attested ↔ Attested P proof network hash attested := by
  simp only [checkWallet]
  split
  · rename_i attestation hscope hwallet
    simp only [bind_eq_ok, mapError_eq_ok, pure_eq_ok]
    cases attested with
    | none => simp [Attested, hscope]
    | some attested => simp [Attested, hscope, hwallet]
  · rename_i hscope hwallet
    cases attested <;> simp [Attested, hscope, hwallet]
  · rename_i hscope hwallet
    cases attested <;> simp [Attested, hscope, hwallet]
  · rename_i hscope hwallet
    cases attested <;> simp [Attested, hscope, hwallet]

lemma checkAddress_eq_ok {network : NetworkTerms} {salt : Hash} {terms : PaymentTerms} {paymentAddress : Address}
    (hnetwork : proof.network = some network) (hsalt : parseWord proof.salt = some salt) :
    checkAddress P proof network salt = .ok (terms, paymentAddress) ↔
      proof.terms = some terms ∧ paymentAddress = predictPaymentAddress P terms ∧
      parseAddress proof.paymentAddress = some paymentAddress ∧
      parseAddress proof.recoveryAddress = some terms.recovery := by
  simp only [checkAddress, number, address, units, orError_bind_eq_ok, require_bind_eq_ok, pure_eq_ok,
    ProofOfPayment.terms, hnetwork, hsalt, Option.bind_eq_bind, Option.bind_eq_some_iff, Option.bind_some,
    Prod.mk.injEq, Option.pure_def, Option.some.injEq]
  constructor
  · rintro ⟨recovery, hrecovery, _, hcommitted, rfl, amount, hamount, receiver, hreceiver, expiration,
      hexpiration, stated, hstated, rfl, rfl, rfl⟩
    exact ⟨⟨amount, hamount, receiver, hreceiver, expiration, hexpiration, recovery, hcommitted, rfl⟩, rfl,
      hstated, hrecovery⟩
  · rintro ⟨⟨amount, hamount, receiver, hreceiver, expiration, hexpiration, recovery, hcommitted, rfl⟩, rfl,
      hstated, hrecovery⟩
    exact ⟨recovery, hrecovery, recovery, hcommitted, rfl, amount, hamount, receiver, hreceiver, expiration,
      hexpiration, _, hstated, rfl, rfl, rfl⟩

/-- The attachment at hand is the committed one. -/
def Attaches (P : Primitives) (snapshot : CanonicalIssuanceSnapshot) (bytes : List UInt8) : Prop :=
  ∃ commitment, snapshot.attachment = some commitment ∧ commitment.byteLength = bytes.length.repr ∧
    parseWord commitment.sha256 = some (P.sha256 bytes)

lemma checkAttachment_eq_ok {snapshot : CanonicalIssuanceSnapshot} {attachment : Option (List UInt8)} {b : Bool} :
    checkAttachment P snapshot attachment = .ok b ↔
      b = attachment.isSome ∧ ∀ bytes ∈ attachment, Attaches P snapshot bytes := by
  cases attachment with
  | none =>
    simp only [checkAttachment, Except.ok.injEq, Option.isSome_none, Option.not_mem_none, false_implies,
      implies_true, and_true]
    exact eq_comm
  | some bytes =>
    simp only [checkAttachment, word, orError_bind_eq_ok, require_bind_eq_ok, pure_eq_ok, Option.isSome_some,
      Option.mem_def, Option.some.injEq, forall_eq', Attaches]
    constructor
    · rintro ⟨commitment, hsome, hlength, _, hstated, rfl, rfl⟩
      exact ⟨rfl, commitment, hsome, hlength, hstated⟩
    · rintro ⟨rfl, commitment, hsome, hlength, hstated⟩
      exact ⟨commitment, hsome, hlength, _, hstated, rfl, rfl⟩

/-- The attestation is signed by this address, which the verifier trusts. -/
structure Signed (P : Primitives) (attestation : SignedVerificationAttestation) (trusted : List Address)
    (signer : Address) : Prop where
  recovered : ∃ bytes signature, P.payloadBytes attestation.payload = .ok bytes ∧
    parseHex attestation.signature = some signature ∧
    P.recover signature (P.keccak256 (attestationDomain ++ bytes)) = some signer
  stated : parseAddress attestation.signer = some signer
  trusted : trusted = [] ∨ signer ∈ trusted

lemma checkSigner_eq_ok {attestation : SignedVerificationAttestation} {trusted : List Address} {signer : Address} :
    checkSigner P attestation trusted = .ok signer ↔ Signed P attestation trusted signer := by
  simp only [checkSigner, address, attestationDigest]
  cases hbytes : P.payloadBytes attestation.payload with
  | error e =>
    refine ⟨fun h => ?_, fun h => ?_⟩
    · cases h
    · obtain ⟨bytes, _, hok, _⟩ := h.recovered
      rw [hbytes] at hok
      cases hok
  | ok bytes =>
    simp only [bind_eq_ok, Except.ok.injEq, exists_eq_left', orError_eq_ok, require_eq_ok, exists_const, pure_eq_ok]
    constructor
    · rintro ⟨signature, hsignature, recovered, hrecovered, _, hstated, rfl, htrusted, rfl⟩
      exact ⟨⟨bytes, signature, hbytes, hsignature, hrecovered⟩, hstated, htrusted⟩
    · rintro ⟨⟨bytes', signature, hbytes', hsignature, hrecovered⟩, hstated, htrusted⟩
      rw [hbytes] at hbytes'
      cases hbytes'
      exact ⟨signature, hsignature, signer, hrecovered, signer, hstated, rfl, htrusted, rfl⟩

/-- The wallet and the nonce of the payload are those of the attestation. -/
def StatesWallet (payload : VerificationAttestationPayload) : Option VerifiedPayerAttestation → Prop
  | some attested => ∃ wallet nonce, payload.payerWallet = some wallet ∧
      parseAddress wallet = some attested.wallet ∧ payload.walletNonce = some nonce ∧
      parseWord nonce = some attested.nonce
  | none => payload.payerWallet = none

lemma checkPayloadWallet_eq_ok {payload : VerificationAttestationPayload}
    {attested : Option VerifiedPayerAttestation} {u : Unit} :
    checkPayloadWallet payload attested = .ok u ↔ StatesWallet payload attested := by
  cases attested with
  | none => cases hwallet : payload.payerWallet <;> simp [checkPayloadWallet, StatesWallet, hwallet]
  | some attested =>
    cases hwallet : payload.payerWallet with
    | none => simp [checkPayloadWallet, StatesWallet, hwallet]
    | some wallet =>
      simp only [checkPayloadWallet, hwallet, StatesWallet, address, word, orError_bind_eq_ok, require_bind_eq_ok,
        require_eq_ok, Option.some.injEq]
      constructor
      · rintro ⟨_, haddress, rfl, nonce, hnonce, _, hword, rfl⟩
        exact ⟨wallet, nonce, rfl, haddress, hnonce, hword⟩
      · rintro ⟨_, nonce, rfl, haddress, hnonce, hword⟩
        exact ⟨_, haddress, rfl, nonce, hnonce, _, hword, rfl⟩

/-- What the signed payload commits to. -/
structure Commits (proof : ProofOfPayment) (hash nonce : Hash) (attested : Option VerifiedPayerAttestation)
    (paymentAddress : Address) : Prop where
  version : proof.verification.payload.version = attestationVersion
  paymentId : proof.verification.payload.paymentId = proof.paymentId
  scope : proof.verification.payload.scope = scopeOf proof.canonicalIssuanceSnapshot
  result : proof.verification.payload.result = passedResult proof.canonicalIssuanceSnapshot
  wallet : StatesWallet proof.verification.payload attested
  hash : parseWord proof.verification.payload.attributionHash = some hash
  nonce : parseWord proof.verification.payload.issuanceNonce = some nonce
  paymentAddress : parseAddress proof.verification.payload.paymentAddress = some paymentAddress
  chain : proof.verification.payload.chainId = proof.chainId
  fact : scopeOf proof.canonicalIssuanceSnapshot = .walletAttributed →
    proof.verification.payload.facts.any (fun fact => decide (fact.kind = "wallet"))

lemma checkPayload_eq_ok {hash nonce : Hash} {attested : Option VerifiedPayerAttestation}
    {paymentAddress : Address} {u : Unit} :
    checkPayload proof hash nonce attested paymentAddress = .ok u ↔
      Commits proof hash nonce attested paymentAddress := by
  simp only [checkPayload, word, address, bind_eq_ok, orError_eq_ok, exists_const,
    checkPayloadWallet_eq_ok, require_eq_ok]
  constructor
  · rintro ⟨hversion, hid, hscope, hresult, hwallet, _, hhash, rfl, _, hnonce, rfl, _, haddress, rfl,
      hchain, hfact⟩
    exact ⟨hversion, hid, hscope, hresult, hwallet, hhash, hnonce, haddress, hchain, hfact⟩
  · rintro ⟨hversion, hid, hscope, hresult, hwallet, hhash, hnonce, haddress, hchain, hfact⟩
    exact ⟨hversion, hid, hscope, hresult, hwallet, _, hhash, rfl, _, hnonce, rfl, _, haddress, rfl,
      hchain, hfact⟩

/-! ### The transfers -/

/-- The texts of a relayed transfer's provenance are readable. -/
structure RelayAttribution.Readable (relay : RelayAttribution) : Prop where
  requestId : ∃ id, parseWord relay.requestId = some id
  originTransactionHash : ∃ hash, parseWord relay.originTransactionHash = some hash
  originChainId : ∃ chainId, parseU64 relay.originChainId = some chainId

lemma checkRelayShape_eq_ok {relay : RelayAttribution} {u : Unit} :
    checkRelayShape relay = .ok u ↔ relay.Readable := by
  simp only [checkRelayShape, word, number, orError_bind_eq_ok, pure_eq_ok]
  constructor
  · rintro ⟨id, hid, hash, hhash, chainId, hchain, -⟩
    exact ⟨⟨id, hid⟩, ⟨hash, hhash⟩, ⟨chainId, hchain⟩⟩
  · rintro ⟨⟨id, hid⟩, ⟨hash, hhash⟩, ⟨chainId, hchain⟩⟩
    exact ⟨id, hid, hash, hhash, chainId, hchain, trivial⟩

/-- A relayed transfer of the wallet, which the signed payload vouches for verbatim. -/
structure Vouches (payload : VerificationAttestationPayload) (wallet : Address) (transfer : ProofTransfer)
    (relay : RelayAttribution) : Prop where
  carried : transfer.relay = some relay
  source : relay.attributionSource = "receipt"
  readable : relay.Readable
  originSender : parseAddress relay.originSender = some wallet
  vouched : ⟨transfer.transactionHash, transfer.logIndex, relay⟩ ∈ payload.relayFills

lemma vouched_eq_true {payload : VerificationAttestationPayload} {transfer : ProofTransfer}
    {relay : RelayAttribution} :
    vouched payload transfer relay = true ↔
      ⟨transfer.transactionHash, transfer.logIndex, relay⟩ ∈ payload.relayFills := by
  simp only [vouched, List.any_eq_true, decide_eq_true_eq]
  constructor
  · rintro ⟨fill, hmem, hhash, hindex, hrelay⟩
    rwa [← hhash, ← hindex, ← hrelay]
  · intro hmem
    exact ⟨_, hmem, rfl, rfl, rfl⟩

/-- Whom a transfer may come from: with a wallet attested, from the wallet or through a relay that
the payload vouches for; without one from anybody, with a readable provenance if it has any. -/
def SentBy (payload : VerificationAttestationPayload) (transfer : ProofTransfer) : Option Address → Prop
  | some wallet => parseAddress transfer.sender = some wallet ∨
      (∃ sender, parseAddress transfer.sender = some sender) ∧
        ∃ relay, Vouches payload wallet transfer relay
  | none => ∀ relay ∈ transfer.relay, relay.Readable ∧
      (∃ sender, parseAddress relay.originSender = some sender) ∧ relay.attributionSource ≠ ""

lemma sentBy_of_checkSender {payload : VerificationAttestationPayload} {wallet : Option Address}
    {transfer : ProofTransfer} {u : Unit} :
    checkSender payload wallet transfer = .ok u → SentBy payload transfer wallet := by
  cases wallet with
  | none =>
    cases hrelay : transfer.relay with
    | none => simp [SentBy, hrelay]
    | some relay =>
      simp only [checkSender, hrelay, bind_eq_ok, checkRelayShape_eq_ok, address, orError_eq_ok, require_eq_ok]
      rintro ⟨-, hreadable, sender, hsender, hsource⟩ relay' hrelay'
      rw [hrelay] at hrelay'
      cases hrelay'
      exact ⟨hreadable, ⟨sender, hsender⟩, hsource⟩
  | some wallet =>
    simp only [checkSender, address, orError_bind_eq_ok]
    rintro ⟨sender, hsender, h⟩
    split at h
    · rename_i heq
      exact .inl (heq ▸ hsender)
    · simp only [bind_eq_ok, orError_eq_ok, checkRelayShape_eq_ok, exists_const, require_eq_ok,
        vouched_eq_true] at h
      obtain ⟨relay, hrelay, hsource, hreadable, _, horigin, rfl, hvouched⟩ := h
      exact .inr ⟨⟨sender, hsender⟩, relay, hrelay, hsource, hreadable, horigin, hvouched⟩

/-- Such a transfer passes. -/
lemma checkSender_ok {payload : VerificationAttestationPayload} {wallet : Option Address}
    {transfer : ProofTransfer} (h : SentBy payload transfer wallet) :
    checkSender payload wallet transfer = .ok () := by
  cases wallet with
  | none =>
    cases hrelay : transfer.relay with
    | none => simp [checkSender, hrelay]
    | some relay =>
      simp only [checkSender, hrelay, bind_eq_ok, checkRelayShape_eq_ok, address, orError_eq_ok, require_eq_ok]
      obtain ⟨hreadable, ⟨sender, hsender⟩, hsource⟩ := h relay hrelay
      exact ⟨(), hreadable, sender, hsender, hsource⟩
  | some wallet =>
    simp only [checkSender, address, orError_bind_eq_ok]
    rcases h with hsender | ⟨⟨sender, hsender⟩, relay, hrelay, hsource, hreadable, horigin, hvouched⟩
    · exact ⟨wallet, hsender, by simp [pure_eq_ok]⟩
    · refine ⟨sender, hsender, ?_⟩
      split
      · rfl
      · simp only [bind_eq_ok, orError_eq_ok, checkRelayShape_eq_ok, exists_const, require_eq_ok,
          vouched_eq_true]
        exact ⟨relay, hrelay, hsource, hreadable, wallet, horigin, rfl, hvouched⟩

lemma checkSender_eq_ok {payload : VerificationAttestationPayload} {wallet : Option Address}
    {transfer : ProofTransfer} {u : Unit} :
    checkSender payload wallet transfer = .ok u ↔ SentBy payload transfer wallet :=
  ⟨sentBy_of_checkSender, checkSender_ok⟩

/-- A transfer that the verifier counts. -/
structure Counts (payload : VerificationAttestationPayload) (wallet : Option Address) (paymentAddress : Address)
    (transfer : ProofTransfer) (credited : Credited) : Prop where
  reads : transfer.Reads credited
  recipient : parseAddress transfer.recipient = some paymentAddress
  sender : SentBy payload transfer wallet
  blockNumber : ∃ number, parseU64 transfer.blockNumber = some number

lemma checkTransfer_eq_ok {payload : VerificationAttestationPayload} {wallet : Option Address}
    {paymentAddress : Address} {transfer : ProofTransfer} {credited : Credited} :
    checkTransfer payload wallet paymentAddress transfer = .ok credited ↔
      Counts payload wallet paymentAddress transfer credited := by
  simp only [checkTransfer, word, number, address, units, bind_eq_ok, orError_eq_ok, require_eq_ok, exists_const,
    checkSender_eq_ok, pure_eq_ok]
  constructor
  · rintro ⟨hash, hhash, logIndex, hindex, _, hrecipient, rfl, hsender, amount, hamount, number, hnumber, rfl⟩
    exact ⟨⟨hhash, hindex, hamount⟩, hrecipient, hsender, ⟨number, hnumber⟩⟩
  · rintro ⟨⟨hhash, hindex, hamount⟩, hrecipient, hsender, ⟨number, hnumber⟩⟩
    exact ⟨_, hhash, _, hindex, _, hrecipient, rfl, hsender, _, hamount, number, hnumber, rfl⟩

/-- What the loop counts: some of the transfers, each event once, and no transfer's event is left
out. -/
structure Tally (payload : VerificationAttestationPayload) (wallet : Option Address) (paymentAddress : Address)
    (transfers : List ProofTransfer) (seen : List (Hash × ℕ)) (counted : List (ProofTransfer × Credited)) : Prop where
  sublist : (counted.map Prod.fst).Sublist transfers
  counts : ∀ x ∈ counted, Counts payload wallet paymentAddress x.1 x.2
  once : (counted.map fun x => x.2.event).Nodup
  fresh : ∀ x ∈ counted, x.2.event ∉ seen
  complete : ∀ transfer ∈ transfers, ∃ credited, Counts payload wallet paymentAddress transfer credited ∧
    (credited.event ∈ seen ∨ credited.event ∈ counted.map fun x => x.2.event)

/-- The amount of what is counted. -/
def tallied (counted : List (ProofTransfer × Credited)) : ℕ := (counted.map fun x => x.2.amount).sum

lemma sumTransfers_tally {payload : VerificationAttestationPayload} {wallet : Option Address}
    {paymentAddress : Address} {transfers : List ProofTransfer} {total sum : ℕ} {seen : List (Hash × ℕ)}
    (h : sumTransfers payload wallet paymentAddress transfers total seen = .ok sum) :
    ∃ counted, Tally payload wallet paymentAddress transfers seen counted ∧ sum = total + tallied counted := by
  induction transfers generalizing total seen with
  | nil =>
    cases h
    exact ⟨[], ⟨by simp, by simp, by simp, by simp, by simp⟩, by simp [tallied]⟩
  | cons transfer rest ih =>
    obtain ⟨credited, hcheck, hrest⟩ := bind_eq_ok.1 h
    have hcounts := checkTransfer_eq_ok.1 hcheck
    split at hrest
    · -- a duplicated log entry adds nothing
      rename_i hseen
      obtain ⟨counted, htally, hsum⟩ := ih hrest
      refine ⟨counted, ⟨htally.sublist.cons _, htally.counts, htally.once, htally.fresh, ?_⟩, hsum⟩
      intro other hother
      rcases List.mem_cons.1 hother with rfl | hother
      · exact ⟨credited, hcounts, .inl hseen⟩
      · exact htally.complete other hother
    · rename_i hnew
      obtain ⟨_, hrest⟩ := require_bind_eq_ok.1 hrest
      obtain ⟨counted, htally, hsum⟩ := ih hrest
      refine ⟨(transfer, credited) :: counted, ⟨htally.sublist.cons_cons _, ?_, ?_, ?_, ?_⟩, ?_⟩
      · rintro x hx
        rcases List.mem_cons.1 hx with rfl | hx
        · exact hcounts
        · exact htally.counts x hx
      · refine List.nodup_cons.2 ⟨fun hmem => ?_, htally.once⟩
        obtain ⟨x, hx, heq⟩ := List.mem_map.1 hmem
        exact htally.fresh x hx (heq ▸ List.mem_cons_self)
      · rintro x hx
        rcases List.mem_cons.1 hx with rfl | hx
        · exact hnew
        · exact fun hmem => htally.fresh x hx (List.mem_cons_of_mem _ hmem)
      · rintro other hother
        rcases List.mem_cons.1 hother with rfl | hother
        · exact ⟨credited, hcounts, .inr List.mem_cons_self⟩
        · obtain ⟨credited', hcounts', hseen | hmem⟩ := htally.complete other hother
          · rcases List.mem_cons.1 hseen with heq | hseen
            · exact ⟨credited', hcounts', .inr (heq ▸ List.mem_cons_self)⟩
            · exact ⟨credited', hcounts', .inl hseen⟩
          · exact ⟨credited', hcounts', .inr (List.mem_cons_of_mem _ hmem)⟩
      · rw [hsum]
        simp only [tallied, List.map_cons, List.sum_cons]
        omega

/-! ### The whole verification -/

/-- Every check passes, with these values read on the way. -/
structure Passes (P : Primitives) (proof : ProofOfPayment) (attachment : Option (List UInt8))
    (trusted : List Address) (nonce : Hash) (network : NetworkTerms)
    (attested : Option VerifiedPayerAttestation) (terms : PaymentTerms) (total : ℕ)
    (v : ProofVerification) : Prop where
  kind : proof.version = proofVersion ∧ (proof.canonicalization = canonicalizationScheme ∧
    proof.canonicalIssuanceSnapshot.canonicalization = canonicalizationScheme) ∧
    proof.canonicalIssuanceSnapshot.schema = snapshotSchema ∧
    proof.scope = scopeOf proof.canonicalIssuanceSnapshot
  attribution : ∃ bytes, P.snapshotBytes proof.canonicalIssuanceSnapshot = .ok bytes ∧
    attributionHash P bytes = v.attributionHash ∧ parseWord proof.attributionHash = some v.attributionHash
  readNonce : parseWord proof.issuanceNonce = some nonce
  readNetwork : proof.network = some network
  parameters : parseAddress proof.factoryAddress = some network.factory ∧
    parseAddress proof.tokenAddress = some network.token
  wallet : Attested P proof network v.attributionHash attested
  salt : v.salt = recomputeSalt P nonce v.attributionHash (attested.map (·.digest))
  stated : parseWord proof.salt = some v.salt
  readTerms : proof.terms = some terms
  address : v.paymentAddress = predictPaymentAddress P terms ∧
    parseAddress proof.paymentAddress = some v.paymentAddress ∧
    parseAddress proof.recoveryAddress = some terms.recovery
  attaches : v.attachmentVerified = attachment.isSome ∧
    ∀ bytes ∈ attachment, Attaches P proof.canonicalIssuanceSnapshot bytes
  signed : Signed P proof.verification trusted v.attestationSigner
  commits : Commits proof v.attributionHash nonce attested v.paymentAddress
  settled : ∃ hash, parseWord proof.settlementTransactionHash = some hash
  transfers : sumTransfers proof.verification.payload v.payerWallet v.paymentAddress proof.transfers 0 [] = .ok total
  covered : terms.amount ≤ total
  result : v.scope = scopeOf proof.canonicalIssuanceSnapshot ∧ v.payerWallet = attested.map (·.wallet) ∧
    v.attestationDigest = attested.map (·.digest)

/-- A proof is accepted exactly when every check passes. -/
theorem verifyProof_eq_ok {attachment : Option (List UInt8)} {trusted : List Address} {v : ProofVerification} :
    verifyProof P proof attachment trusted = .ok v ↔
      ∃ nonce network attested terms total, Passes P proof attachment trusted nonce network attested terms total v := by
  simp only [verifyProof, bind_eq_ok, word, orError_eq_ok, require_eq_ok, exists_const, pure_eq_ok,
    checkKind_eq_ok, checkAttribution_eq_ok, checkNetwork_eq_ok, checkWallet_eq_ok, checkAttachment_eq_ok,
    checkSigner_eq_ok, checkPayload_eq_ok]
  constructor
  · rintro ⟨hkind, hash, hattribution, nonce, hnonce, network, ⟨hnetwork, hparameters⟩, attested, hattested,
      salt, hstated, hsalt, ⟨terms, paymentAddress⟩, haddress, verified, hattachment, signer, hsigned,
      hcommits, settlement, hsettlement, total, htransfers, hcovered, rfl⟩
    subst hsalt
    obtain ⟨hterms, haddress⟩ := (checkAddress_eq_ok hnetwork hstated).1 haddress
    exact ⟨nonce, network, attested, terms, total, hkind, hattribution, hnonce, hnetwork, hparameters, hattested,
      rfl, hstated, hterms, haddress, hattachment, hsigned, hcommits, ⟨settlement, hsettlement⟩, htransfers,
      hcovered, rfl, rfl, rfl⟩
  · rintro ⟨nonce, network, attested, terms, total, h⟩
    obtain ⟨settlement, hsettlement⟩ := h.settled
    obtain ⟨hscope, hwallet, hdigest⟩ := h.result
    refine ⟨h.kind, v.attributionHash, h.attribution, nonce, h.readNonce, network, ⟨h.readNetwork, h.parameters⟩, attested,
      h.wallet, v.salt, h.stated, h.salt.symm, (terms, v.paymentAddress), ?_, v.attachmentVerified, h.attaches,
      v.attestationSigner, h.signed, h.commits, settlement, hsettlement, total, ?_, h.covered, ?_⟩
    · rw [← h.salt]
      exact (checkAddress_eq_ok h.readNetwork h.stated).2 ⟨h.readTerms, h.address⟩
    · rw [← hwallet]
      exact h.transfers
    · rw [← h.salt, ← hscope, ← hwallet, ← hdigest]

end Payday.Proofs
