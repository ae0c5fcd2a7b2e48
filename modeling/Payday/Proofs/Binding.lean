/-
# What issuing and binding establish

The values of a request are typed: addresses have 20 bytes, words 32, amounts are `U256` and chain
ids and deadlines `u64`.  For typed values the texts of an issued document are read back as the
terms it was issued with, and a binding is derived from the document on one of its networks.
-/
import Payday.Proofs.Issuance

namespace Payday.Proofs

variable {P : Primitives}

structure NetworkTerms.Typed (network : NetworkTerms) : Prop where
  chainId : network.chainId < 2 ^ 64
  token : network.token < 2 ^ 160
  factory : network.factory < 2 ^ 160

/-- A request whose document says what its columns do. -/
structure Issued (P : Primitives) (invoice : Invoice) : Prop where
  schema : invoice.issuanceSnapshot.schema = snapshotSchema
  canonicalization : invoice.issuanceSnapshot.canonicalization = canonicalizationScheme
  networks : invoice.issuanceSnapshot.networkTerms = some invoice.networks
  typed : ∀ network ∈ invoice.networks, network.Typed
  receiver : parseAddress invoice.issuanceSnapshot.receiverAddress = some invoice.beneficiary
  amount : parseU256 invoice.issuanceSnapshot.amountBaseUnits = some invoice.amount
  expiration : parseU64 invoice.issuanceSnapshot.expirationTimestamp = some invoice.expirationTimestamp
  recovery : ∃ recovery, parseAddress invoice.issuanceSnapshot.recoveryAddress = some recovery ∧
    recovery < 2 ^ 160
  attribution : ∃ bytes, P.snapshotBytes invoice.issuanceSnapshot = .ok bytes ∧
    invoice.attributionHash = attributionHash P bytes
  nonce : invoice.issuanceNonce < 2 ^ 256

/-- A wallet's evidence and the digest its salt commits to. -/
def Evidences (P : Primitives) (invoice : Invoice) (network : NetworkTerms) (digest : Option Hash) :
    Option WalletEvidence → Prop
  | none => invoice.walletAttestationRequired = false ∧ digest = none
  | some evidence => invoice.walletAttestationRequired = true ∧
      ∃ verified, verifyPayerAttestation P evidence.attestation (invoice.attestationScope network) = .ok verified ∧
        verified.wallet = evidence.payerWallet ∧ digest = some verified.digest

/-- A binding that follows from the request's document. -/
structure Derived (P : Primitives) (invoice : Invoice) (binding : PaymentBinding) : Prop where
  network : invoice.networkFor binding.network.chainId = some binding.network
  recovery : parseAddress invoice.issuanceSnapshot.recoveryAddress = some binding.recovery
  wallet : ∃ digest, Evidences P invoice binding.network digest binding.wallet ∧
    binding.salt = recomputeSalt P invoice.issuanceNonce invoice.attributionHash digest
  address : binding.paymentAddress =
    predictPaymentAddress P (invoice.termsOn binding.network binding.recovery binding.salt)

/-! ### Issuing -/

lemma SnapshotNetwork.terms_ofTerms {network : NetworkTerms} (h : network.Typed) :
    (SnapshotNetwork.ofTerms P network).terms = some network := by
  simp [SnapshotNetwork.ofTerms, SnapshotNetwork.terms, parseU64_repr h.chainId, parseAddress_toChecksum P h.token,
    parseAddress_toChecksum P h.factory]

/-- Networks are read back from the document. -/
lemma mapM_terms_ofTerms {networks : List NetworkTerms} (h : ∀ network ∈ networks, network.Typed) :
    (networks.map (SnapshotNetwork.ofTerms P)).mapM SnapshotNetwork.terms = some networks := by
  induction networks with
  | nil => rfl
  | cons network rest ih =>
    have hhead := SnapshotNetwork.terms_ofTerms (P := P) (h network List.mem_cons_self)
    have hrest := ih fun network hmem => h network (List.mem_cons_of_mem _ hmem)
    rw [List.map_cons, List.mapM_cons, hhead, hrest]
    rfl

/-- The values a request is issued with, as their types bound them. -/
structure Terms where
  networks : List NetworkTerms
  beneficiary : Address
  recovery : Address
  amount : ℕ
  expirationTimestamp : ℕ
  networks_typed : ∀ network ∈ networks, network.Typed
  beneficiary_lt : beneficiary < 2 ^ 160
  recovery_lt : recovery < 2 ^ 160
  amount_lt : amount < 2 ^ 256
  expirationTimestamp_lt : expirationTimestamp < 2 ^ 64

/-- The networks in the order of the document. -/
def Terms.sorted (terms : Terms) : List NetworkTerms :=
  terms.networks.mergeSort fun a b => decide (a.chainId ≤ b.chainId)

lemma Terms.mem_sorted {terms : Terms} {network : NetworkTerms} :
    network ∈ terms.sorted ↔ network ∈ terms.networks := by
  simp [Terms.sorted]

variable {id : InvoiceId} {nonce : Hash} {currency : Currency} {terms : Terms}
  {snapshot : CanonicalIssuanceSnapshot} {invoice : Invoice}

/-- What an issued request is. -/
lemma issue_eq_ok (h : Invoice.issue P id nonce currency terms.networks terms.beneficiary terms.recovery
      terms.amount terms.expirationTimestamp snapshot = .ok invoice) :
    ∃ bytes, P.snapshotBytes snapshot = .ok bytes ∧ snapshot.schema = snapshotSchema ∧
      snapshot.canonicalization = canonicalizationScheme ∧
      snapshot.networks = terms.sorted.map (SnapshotNetwork.ofTerms P) ∧
      snapshot.receiverAddress = P.toChecksum terms.beneficiary ∧
      snapshot.recoveryAddress = P.toChecksum terms.recovery ∧
      snapshot.amountBaseUnits = terms.amount.repr ∧
      snapshot.expirationTimestamp = terms.expirationTimestamp.repr ∧
      terms.networks ≠ [] ∧
      invoice = {
        id := id, networks := terms.sorted, beneficiary := terms.beneficiary
        expirationTimestamp := terms.expirationTimestamp, amount := terms.amount, issuanceNonce := nonce
        binding := none, attributionVersion := 5, attributionHash := attributionHash P bytes
        issuanceSnapshot := snapshot } := by
  simp only [Invoice.issue, bind_eq_ok, require_eq_ok, exists_const, pure_eq_ok] at h
  obtain ⟨hschema, hcanonical, -, -, hnetworks, hreceiver, hrecovery, hamount, hexpiration, hnonempty, hash,
    hattribution, rfl⟩ := h
  cases hbytes : P.snapshotBytes snapshot with
  | error e =>
    rw [deriveAttribution, hbytes] at hattribution
    cases hattribution
  | ok bytes =>
    rw [deriveAttribution, hbytes] at hattribution
    cases hattribution
    have hread : (CanonicalIssuanceSnapshot.new P snapshot.issuer snapshot.billTo snapshot.payerVerification
        currency terms.networks terms.beneficiary terms.recovery terms.amount
        terms.expirationTimestamp).networkTerms = some terms.sorted :=
      mapM_terms_ofTerms fun network hmem => terms.networks_typed network (Terms.mem_sorted.1 hmem)
    refine ⟨bytes, rfl, hschema, hcanonical, hnetworks, hreceiver, hrecovery, hamount, hexpiration, hnonempty, ?_⟩
    rw [hread]
    rfl

/-- The document that a request is issued with: the terms and the merchant's texts. -/
def Terms.document (P : Primitives) (terms : Terms) (currency : Currency) (issuer billTo : Party)
    (verification : PayerVerification) (notes heading reference : Option String)
    (attachment : Option AttachmentCommitment) : CanonicalIssuanceSnapshot :=
  { CanonicalIssuanceSnapshot.new P issuer billTo verification currency terms.networks terms.beneficiary
      terms.recovery terms.amount terms.expirationTimestamp with
    notes := notes
    heading := heading
    reference := reference
    attachment := attachment }

/-- Such a document is issued, if its canonical form exists. -/
lemma issue_ok (id : InvoiceId) (nonce : Hash) (terms : Terms) (hnonempty : terms.networks ≠ [])
    {issuer billTo : Party} {verification : PayerVerification} {notes heading reference : Option String}
    {attachment : Option AttachmentCommitment} {bytes : List UInt8}
    (hsnapshot : snapshot = terms.document P currency issuer billTo verification notes heading reference attachment)
    (hbytes : P.snapshotBytes snapshot = .ok bytes) :
    ∃ invoice, Invoice.issue P id nonce currency terms.networks terms.beneficiary terms.recovery terms.amount
        terms.expirationTimestamp snapshot = .ok invoice ∧ invoice.issuanceSnapshot = snapshot := by
  subst hsnapshot
  simp only [Invoice.issue, bind_eq_ok, require_eq_ok, exists_const, pure_eq_ok]
  refine ⟨_, ⟨rfl, rfl, rfl, rfl, rfl, rfl, rfl, rfl, rfl, hnonempty, attributionHash P bytes, ?_, rfl⟩, rfl⟩
  rw [deriveAttribution, hbytes]

/-- An issued request's document says what its columns do. -/
lemma issue_issued (h : Invoice.issue P id nonce currency terms.networks terms.beneficiary terms.recovery
      terms.amount terms.expirationTimestamp snapshot = .ok invoice) (hnonce : nonce < 2 ^ 256) :
    Issued P invoice := by
  obtain ⟨bytes, hbytes, hschema, hcanonical, hnetworks, hreceiver, hrecovery, hamount, hexpiration, -, rfl⟩ :=
    issue_eq_ok h
  have htyped : ∀ network ∈ terms.sorted, network.Typed :=
    fun network hmem => terms.networks_typed network (Terms.mem_sorted.1 hmem)
  constructor
  · exact hschema
  · exact hcanonical
  · simp only [CanonicalIssuanceSnapshot.networkTerms, hnetworks]
    exact mapM_terms_ofTerms htyped
  · exact htyped
  · simp only [hreceiver, parseAddress_toChecksum P terms.beneficiary_lt]
  · simp only [hamount, parseU256_repr terms.amount_lt]
  · simp only [hexpiration, parseU64_repr terms.expirationTimestamp_lt]
  · exact ⟨terms.recovery, by simp only [hrecovery, parseAddress_toChecksum P terms.recovery_lt], terms.recovery_lt⟩
  · exact ⟨bytes, hbytes, rfl⟩
  · exact hnonce

/-! ### Binding -/

variable {chainId : ChainId} {network : NetworkTerms} {binding : PaymentBinding}

lemma networkFor_eq_some (h : invoice.networkFor chainId = some network) :
    network ∈ invoice.networks ∧ network.chainId = chainId :=
  ⟨List.mem_of_find?_eq_some h, by simpa using List.find?_some h⟩

/-- A chain that the request offers has a network. -/
lemma networkFor_of_mem (hmem : network ∈ invoice.networks) :
    ∃ found, invoice.networkFor network.chainId = some found := by
  have hsome : (invoice.networkFor network.chainId).isSome := by
    rw [Invoice.networkFor, List.find?_isSome]
    exact ⟨network, hmem, decide_eq_true rfl⟩
  exact Option.isSome_iff_exists.1 hsome

/-- An address without a wallet follows from the document. -/
lemma bindNetwork_derived {readyAt : String} (h : invoice.bindNetwork P chainId readyAt = .ok binding) :
    Derived P invoice binding ∧ binding.network.chainId = chainId ∧ binding.wallet = none ∧
      binding.readyAt = readyAt := by
  simp only [Invoice.bindNetwork, Invoice.recovery, bind_eq_ok, require_eq_ok, orError_eq_ok, exists_const,
    pure_eq_ok] at h
  obtain ⟨hrequired, network, hnetwork, recovery, hrecovery, rfl⟩ := h
  obtain ⟨-, hid⟩ := networkFor_eq_some hnetwork
  refine ⟨⟨?_, hrecovery, ⟨none, ⟨hrequired, rfl⟩, rfl⟩, rfl⟩, hid, rfl, rfl⟩
  show invoice.networkFor network.chainId = some network
  rw [hid, hnetwork]

/-- An address with a wallet follows from the document and the wallet's attestation. -/
lemma bindPayerWallet_derived {attestation : PayerWalletAttestation} {boundAt : String}
    (h : invoice.bindPayerWallet P chainId attestation boundAt = .ok binding) :
    Derived P invoice binding ∧ binding.network.chainId = chainId ∧ binding.readyAt = boundAt ∧
      ∃ evidence, binding.wallet = some evidence ∧ evidence.attestation = attestation ∧
        evidence.boundAt = boundAt := by
  simp only [Invoice.bindPayerWallet, Invoice.recovery, bind_eq_ok, require_eq_ok, orError_eq_ok, exists_const,
    mapError_eq_ok, pure_eq_ok] at h
  obtain ⟨hrequired, network, hnetwork, verified, hverified, recovery, hrecovery, rfl⟩ := h
  obtain ⟨-, hid⟩ := networkFor_eq_some hnetwork
  refine ⟨⟨?_, hrecovery, ⟨some verified.digest, ⟨hrequired, verified, hverified, rfl, rfl⟩, rfl⟩, rfl⟩, hid, rfl,
    _, rfl, rfl, rfl⟩
  show invoice.networkFor network.chainId = some network
  rw [hid, hnetwork]

/-- A request without the add-on is bound on every chain it offers. -/
lemma bindNetwork_ok (readyAt : String) (hissued : Issued P invoice)
    (hrequired : invoice.walletAttestationRequired = false)
    (hnetwork : invoice.networkFor chainId = some network) :
    ∃ binding, invoice.bindNetwork P chainId readyAt = .ok binding := by
  obtain ⟨recovery, hrecovery, -⟩ := hissued.recovery
  simp only [Invoice.bindNetwork, Invoice.recovery, bind_eq_ok, require_eq_ok, orError_eq_ok, exists_const,
    pure_eq_ok]
  exact ⟨_, hrequired, network, hnetwork, recovery, hrecovery, rfl⟩

/-- A wallet and its signature of a digest, from which the wallet is recovered. -/
structure Signer (P : Primitives) where
  wallet : Address
  sign : Hash → List UInt8
  recovers : ∀ digest, P.recover (sign digest) digest = some wallet
  wallet_ne_zero : wallet ≠ 0

lemma Signer.wallet_lt (signer : Signer P) : signer.wallet < 2 ^ 160 :=
  P.recover_lt _ _ _ (signer.recovers 0)

/-- The attestation a wallet signs for a request on a network. -/
def Signer.attestation (signer : Signer P) (scope : PayerAttestationScope) (nonce : Hash) (expiresAt : ℕ) :
    PayerWalletAttestation :=
  let message := PayerAttestation.new scope.attributionHash signer.wallet nonce expiresAt
  payerWalletAttestation P message scope.chainId scope.factory
    (signer.sign (message.digest P scope.chainId scope.factory))

lemma PayerAttestation.digest_lt (message : PayerAttestation) (chainId : ChainId) (factory : Address) :
    message.digest P chainId factory < 2 ^ 256 :=
  P.keccak256_lt _

/-- A signed challenge verifies. -/
lemma verifyPayerAttestation_ok (signer : Signer P) (scope : PayerAttestationScope) (expiresAt : ℕ)
    (hfactory : scope.factory < 2 ^ 160) (hhash : scope.attributionHash < 2 ^ 256) (hnonce : nonce < 2 ^ 256) :
    verifyPayerAttestation P (signer.attestation scope nonce expiresAt) scope = .ok ⟨signer.wallet,
      (PayerAttestation.new scope.attributionHash signer.wallet nonce expiresAt).digest P scope.chainId scope.factory,
      nonce, expiresAt⟩ := by
  simp only [verifyPayerAttestation, bind_eq_ok, require_eq_ok, orError_eq_ok, exists_const, pure_eq_ok]
  refine ⟨rfl, ⟨rfl, rfl⟩, scope.factory, parseAddress_toChecksum P hfactory, ⟨rfl, rfl, rfl, rfl⟩,
    scope.attributionHash, parseWord_wordText hhash, rfl, signer.wallet,
    parseAddress_toChecksum P signer.wallet_lt, signer.wallet, parseAddress_toChecksum P signer.wallet_lt,
    ⟨signer.wallet_ne_zero, rfl⟩, nonce, parseWord_wordText hnonce, _,
    parseWord_wordText (PayerAttestation.digest_lt _ _ _), rfl, _, parseHex_bytesText _, signer.wallet,
    signer.recovers _, rfl, rfl⟩

/-- A request with the add-on is bound on every chain it offers by every wallet that signs. -/
lemma bindPayerWallet_ok (signer : Signer P) (boundAt : String) (expiresAt : ℕ) (hissued : Issued P invoice)
    (hrequired : invoice.walletAttestationRequired = true) (hnonce : nonce < 2 ^ 256)
    (hnetwork : invoice.networkFor chainId = some network) :
    ∃ binding, invoice.bindPayerWallet P chainId
        (signer.attestation (invoice.attestationScope network) nonce expiresAt) boundAt = .ok binding ∧
      binding.wallet.map (·.payerWallet) = some signer.wallet := by
  obtain ⟨recovery, hrecovery, -⟩ := hissued.recovery
  obtain ⟨bytes, -, hhash⟩ := hissued.attribution
  have htyped := hissued.typed network (networkFor_eq_some hnetwork).1
  have hhashlt : (invoice.attestationScope network).attributionHash < 2 ^ 256 := by
    rw [Invoice.attestationScope, hhash]
    exact P.keccak256_lt _
  have hverified := verifyPayerAttestation_ok signer (invoice.attestationScope network) expiresAt htyped.factory
    hhashlt hnonce
  simp only [Invoice.bindPayerWallet, Invoice.recovery, bind_eq_ok, require_eq_ok, orError_eq_ok, exists_const,
    mapError_eq_ok, pure_eq_ok]
  exact ⟨_, ⟨hrequired, network, hnetwork, _, hverified, recovery, hrecovery, rfl⟩, rfl⟩

/-- Storing a binding leaves the document alone. -/
lemma Issued.bound (h : Issued P invoice) (b : Option PaymentBinding) : Issued P { invoice with binding := b } :=
  ⟨h.schema, h.canonicalization, h.networks, h.typed, h.receiver, h.amount, h.expiration, h.recovery, h.attribution,
    h.nonce⟩

lemma Derived.bound (h : Derived P invoice binding) (b : Option PaymentBinding) :
    Derived P { invoice with binding := b } binding := by
  obtain ⟨digest, hwallet, hsalt⟩ := h.wallet
  refine ⟨h.network, h.recovery, ⟨digest, ?_, hsalt⟩, h.address⟩
  cases hw : binding.wallet with
  | none =>
    rw [hw] at hwallet
    exact hwallet
  | some evidence =>
    rw [hw] at hwallet
    exact hwallet

/-- A derived address is the one its parameters give. -/
lemma Derived.matches (h : Derived P invoice binding) :
    Invoice.addressMatchesParameters P { invoice with binding := some binding } = true := by
  simp only [Invoice.addressMatchesParameters, Option.all_some, decide_eq_true_eq]
  exact h.address.symm

/-- A binding names a wallet exactly when the request asks for one. -/
lemma Derived.wallet_isSome (h : Derived P invoice binding) :
    binding.wallet.isSome = invoice.walletAttestationRequired := by
  obtain ⟨digest, hwallet, -⟩ := h.wallet
  cases hw : binding.wallet with
  | none =>
    rw [hw] at hwallet
    exact hwallet.1.symm
  | some evidence =>
    rw [hw] at hwallet
    exact hwallet.1.symm

end Payday.Proofs
