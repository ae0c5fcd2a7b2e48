/-
# Issuing, binding and proving agree

The salt and the address of a request are derived three times: when a binding is made, when its row
is checked, and when a proof is verified.  Each starts from another form of the terms (typed values,
the document's texts, database columns), and all of them give the same address.
-/
import Payday.Proofs.Honest
import Payday.Proofs.Rows

namespace Payday.Proofs

variable {P : Primitives} {invoice : Invoice} {binding : PaymentBinding} {row : DbInvoice} {now : Time}

/-! ### A binding in its row -/

lemma Derived.typed (hissued : Issued P invoice) (hderived : Derived P invoice binding) : binding.Typed where
  network := hderived.network_typed hissued
  recovery := lt_of_parseFixed hderived.recovery
  salt := hderived.salt_lt
  paymentAddress := by
    rw [hderived.address]
    exact predictPaymentAddress_lt _
  wallet := by
    intro wallet hwallet
    obtain ⟨digest, hevidence, -⟩ := hderived.wallet
    rw [hwallet] at hevidence
    obtain ⟨-, verified, hverified, hpayer, -⟩ := hevidence
    rw [← hpayer]
    exact (nonce_of_verifyPayerAttestation hverified).2

/-- A row as it was issued, without an address. -/
structure Unbound (row : DbInvoice) (invoice : Invoice) (recovery : Address) : Prop where
  stores : Stores row invoice recovery
  created : row.status = .created
  paymentAddress : row.paymentAddress = none
  payerWallet : row.payerWallet = none
  payerAttestation : row.payerAttestation = none

/-- A request is stored as it was issued. -/
lemma issued_unbound {recovery : Address} (hrecovery : invoice.recovery = .ok recovery) :
    ∃ row, DbInvoice.issued invoice none now = .ok row ∧ Unbound row invoice recovery := by
  simp only [DbInvoice.issued, hrecovery, bind_eq_ok, Except.ok.injEq, exists_eq_left', pure_eq_ok]
  exact ⟨⟨rfl, rfl, rfl, rfl, rfl, rfl, rfl, rfl, rfl, rfl⟩, rfl, rfl, rfl, rfl⟩

lemma not_rejects_withBinding (h : row.paymentAddress = none) :
    row.rejects (row.withBinding binding now) = false := by
  simp [DbInvoice.rejects, h, DbInvoice.issuanceColumns, DbInvoice.withBinding]

lemma not_rejects_withWallet {wallet : WalletEvidence} (h : row.paymentAddress = none) :
    row.rejects (row.withWallet binding wallet now) = false := by
  simp [DbInvoice.rejects, h, DbInvoice.issuanceColumns, DbInvoice.withWallet, DbInvoice.withBinding]

lemma write_of_not_rejects {new : DbInvoice} (h : row.rejects new = false) : row.write new = (new, .bound) := by
  simp [DbInvoice.write, DbInvoice.update, h]

/-- The address of a request without the add-on is written, and decoded again. -/
lemma Unbound.bindNetwork (h : Unbound row invoice binding.recovery) (hissued : Issued P invoice)
    (hderived : Derived P invoice binding) (hwallet : binding.wallet = none)
    (hready : binding.readyAt = P.rfc3339 now) :
    ∃ row', row.bindNetwork binding now = (row', .bound) ∧
      row'.tryFrom P = .ok { invoice with binding := some binding } := by
  have hrequired : row.walletAttestationRequired = false := by
    rw [h.stores.required, ← hderived.wallet_isSome, hwallet]
    rfl
  refine ⟨row.withBinding binding now, ?_, ?_⟩
  · rw [DbInvoice.bindNetwork, if_pos ⟨h.paymentAddress, h.created, hrequired⟩,
      write_of_not_rejects (not_rejects_withBinding h.paymentAddress)]
  · have hstores : Stores (row.withBinding binding now) invoice binding.recovery :=
      ⟨h.stores.id, h.stores.beneficiary, h.stores.expiration, h.stores.recovery, h.stores.amount, h.stores.required,
        h.stores.snapshot, h.stores.version, h.stores.hash, h.stores.nonce⟩
    have hevidence : (row.withBinding binding now).walletEvidence P = .ok none := by
      simp [DbInvoice.walletEvidence, DbInvoice.withBinding, h.payerWallet, h.payerAttestation]
    have hdecoded := decodeBinding_written (hderived.typed hissued) rfl rfl rfl hevidence h.stores.recovery rfl
      (show (row.withBinding binding now).readyAt = some now from rfl)
    rw [← hready, ← hwallet] at hdecoded
    refine hstores.tryFrom hissued ?_
    show ((row.withBinding binding now).decodeBinding P (toBE 20 binding.paymentAddress)).map some = .ok (some binding)
    rw [hdecoded]
    rfl

/-- The address that a wallet bound is written, and decoded again. -/
lemma Unbound.bindPayerWallet {evidence : WalletEvidence} (h : Unbound row invoice binding.recovery)
    (hissued : Issued P invoice) (hderived : Derived P invoice binding) (hwallet : binding.wallet = some evidence)
    (hready : binding.readyAt = P.rfc3339 now) (hbound : evidence.boundAt = P.rfc3339 now)
    (hopen : (now / 1000000 : ℕ) ≤ row.expirationTimestamp) :
    ∃ row', row.bindPayerWallet binding now = (row', .bound) ∧
      row'.tryFrom P = .ok { invoice with binding := some binding } := by
  have htyped := hderived.typed hissued
  have hrequired : row.walletAttestationRequired = true := by
    rw [h.stores.required, ← hderived.wallet_isSome, hwallet]
    rfl
  refine ⟨row.withWallet binding evidence now, ?_, ?_⟩
  · have haddress : ¬ row.paymentAddress.isSome = true := by simp [h.paymentAddress]
    have hbindable : ¬ (row.status ≠ .created ∨ row.expirationTimestamp < (now / 1000000 : ℕ) ∨
        row.walletAttestationRequired = false) := by
      rintro (hstatus | hlate | hnone)
      · exact hstatus h.created
      · omega
      · rw [hrequired] at hnone
        cases hnone
    rw [DbInvoice.bindPayerWallet, if_neg haddress, if_neg hbindable, hwallet]
    exact write_of_not_rejects (not_rejects_withWallet h.paymentAddress)
  · have hstores : Stores (row.withWallet binding evidence now) invoice binding.recovery :=
      ⟨h.stores.id, h.stores.beneficiary, h.stores.expiration, h.stores.recovery, h.stores.amount, h.stores.required,
        h.stores.snapshot, h.stores.version, h.stores.hash, h.stores.nonce⟩
    have hevidence : (row.withWallet binding evidence now).walletEvidence P = .ok (some evidence) := by
      simp only [DbInvoice.walletEvidence, DbInvoice.withWallet, bind_eq_ok, orError_eq_ok, Option.some.injEq,
        addressFromCol_toBE (htyped.wallet evidence hwallet), Except.ok.injEq, exists_eq_left', pure_eq_ok, ← hbound]
    have hdecoded := decodeBinding_written htyped rfl rfl rfl hevidence h.stores.recovery rfl
      (show (row.withWallet binding evidence now).readyAt = some now from rfl)
    rw [← hready, ← hwallet] at hdecoded
    refine hstores.tryFrom hissued ?_
    show ((row.withWallet binding evidence now).decodeBinding P (toBE 20 binding.paymentAddress)).map some =
      .ok (some binding)
    rw [hdecoded]
    rfl

/-- The address of a request that is payable at once is written with it. -/
lemma issued_bound (hissued : Issued P invoice) (hderived : Derived P invoice binding)
    (hwallet : binding.wallet = none) :
    ∃ row, DbInvoice.issued invoice (some binding) now = .ok row ∧
      row.tryFrom P = .ok { invoice with binding := some { binding with readyAt := P.rfc3339 now } } := by
  have hrecovery : invoice.recovery = .ok binding.recovery := orError_eq_ok.2 hderived.recovery
  obtain ⟨row, hrow, hstores, haddress, hchain, htoken, hfactory, hsalt, hready, hnowallet, hnoattestation⟩ :
      ∃ row, DbInvoice.issued invoice (some binding) now = .ok row ∧ Stores row invoice binding.recovery ∧
        row.paymentAddress = some (toBE 20 binding.paymentAddress) ∧
        row.chainId = some (asI64 binding.network.chainId) ∧
        row.tokenAddress = some (toBE 20 binding.network.token) ∧
        row.factoryAddress = some (toBE 20 binding.network.factory) ∧
        row.salt = some (toBE 32 binding.salt) ∧ row.readyAt = some now ∧ row.payerWallet = none ∧
        row.payerAttestation = none := by
    simp only [DbInvoice.issued, hrecovery, bind_eq_ok, Except.ok.injEq, exists_eq_left', pure_eq_ok]
    exact ⟨⟨rfl, rfl, rfl, rfl, rfl, rfl, rfl, rfl, rfl, rfl⟩, rfl, rfl, rfl, rfl, rfl, rfl, trivial, trivial⟩
  have hevidence : row.walletEvidence P = .ok none := by
    simp [DbInvoice.walletEvidence, hnowallet, hnoattestation]
  have hdecoded := decodeBinding_written (hderived.typed hissued) hchain htoken hfactory hevidence hstores.recovery hsalt
    hready
  rw [← hwallet] at hdecoded
  refine ⟨row, hrow, hstores.tryFrom hissued ?_⟩
  rw [DbInvoice.binding, haddress]
  show (row.decodeBinding P (toBE 20 binding.paymentAddress)).map some = _
  rw [hdecoded]
  rfl

/-! ### The agreement -/

/-- A binding agrees with the request in memory and in every proof of it. -/
structure Agrees (P : Primitives) (terms : Terms) (invoice : Invoice) (binding : PaymentBinding) : Prop where
  /-- The network is one of the document's. -/
  network : binding.network ∈ terms.networks ∧
    ∃ networks, invoice.issuanceSnapshot.networkTerms = some networks ∧ binding.network ∈ networks
  /-- The recovery address is the document's. -/
  recovery : binding.recovery = terms.recovery ∧
    parseAddress invoice.issuanceSnapshot.recoveryAddress = some binding.recovery
  wallet : binding.wallet.isSome = invoice.walletAttestationRequired
  address : Invoice.addressMatchesParameters P { invoice with binding := some binding } = true
  /-- A proof is assembled from it for a fulfilled request whose senders pass. -/
  serves : ∀ (attestor : Attestor) (settled : Settled) (transfers : List SettlementTransfer)
    (attempts : List VerificationAttempt) (txHash : Hash), settled.status = .fulfilled →
    settled.settlementTxHash = some txHash →
    checkSenders (scopeOf invoice.issuanceSnapshot)
      (binding.wallet.map fun wallet => P.toChecksum wallet.payerWallet)
      (transfers.map (SettlementTransfer.proofTransfer P)) = .ok () →
    ∃ proof, getProof P attestor { invoice with binding := some binding } settled transfers attempts = .ok proof
  /-- An assembled proof verifies, with the same salt, address and wallet. -/
  verifies : ∀ (attestor : Attestor) (settled : Settled) (transfers : List SettlementTransfer)
    (attempts : List VerificationAttempt) (proof : ProofOfPayment) (attachment : Option (List UInt8)),
    attestor.Honest P →
    getProof P attestor { invoice with binding := some binding } settled transfers attempts = .ok proof →
    Paid transfers binding.paymentAddress → (∀ hash ∈ settled.settlementTxHash, hash < 2 ^ 256) →
    (∀ bytes ∈ attachment, Attaches P invoice.issuanceSnapshot bytes) →
    (invoice.issuanceSnapshot.payerVerification.isGated = true → settled.verificationCompletedAt.isSome = true) →
    invoice.amount ≤ (transfers.map (·.amount)).sum →
    ∃ v, verifyProof P proof attachment [attestor.address] = .ok v ∧ v.salt = binding.salt ∧
      v.paymentAddress = binding.paymentAddress ∧ v.payerWallet = binding.wallet.map (·.payerWallet)

variable {id : InvoiceId} {nonce : Hash} {currency : Currency} {terms : Terms}
  {snapshot : CanonicalIssuanceSnapshot}

/-- A derived binding agrees with its request. -/
lemma Derived.agrees (hissue : Invoice.issue P id nonce currency terms.networks terms.beneficiary terms.recovery
      terms.amount terms.expirationTimestamp snapshot = .ok invoice) (hnonce : nonce < 2 ^ 256)
    (hjcs : ∀ payload, ∃ bytes, P.payloadBytes payload = .ok bytes) (hderived : Derived P invoice binding) :
    Agrees P terms invoice binding := by
  have hissued := issue_issued hissue hnonce
  obtain ⟨bytes, -, -, -, -, -, hrecovery, -, -, -, hinvoice⟩ := issue_eq_ok hissue
  have hmem := (networkFor_eq_some hderived.network).1
  constructor
  · refine ⟨?_, invoice.networks, hissued.networks, hmem⟩
    rw [hinvoice] at hmem
    exact Terms.mem_sorted.1 hmem
  · refine ⟨?_, hderived.recovery⟩
    have hread := hderived.recovery
    rw [hinvoice] at hread
    simp only [hrecovery, parseAddress_toChecksum P terms.recovery_lt] at hread
    exact (Option.some.inj hread).symm
  · exact hderived.wallet_isSome
  · exact hderived.matches
  · intro attestor settled transfers attempts txHash hstatus htx hsenders
    obtain ⟨bytes, hbytes⟩ := hjcs (attestationPayload P { invoice with binding := some binding } binding settled
      (transfers.map (SettlementTransfer.proofTransfer P)) attempts)
    exact ⟨_, getProof_eq_ok.2 ⟨txHash, binding, bytes, hstatus, htx, rfl, hsenders, hbytes, rfl⟩⟩
  · intro attestor settled transfers attempts proof attachment hattestor hserved hpaid htx hattachment hpassed hcovered
    obtain ⟨digest, hverified⟩ := verifyProof_of_served hserved (hissued.bound _) rfl (hderived.bound _) hpaid hattestor
      htx hattachment hpassed hcovered
    exact ⟨_, hverified, rfl, rfl, rfl⟩

/-- Issuing, binding and proving agree on the address: every offered chain binds, the binding is the
one that its row is decoded to and that its proofs verify, and at most one binding is ever stored. -/
theorem issue_bind_and_prove_agree
    (hissue : Invoice.issue P id nonce currency terms.networks terms.beneficiary terms.recovery terms.amount
      terms.expirationTimestamp snapshot = .ok invoice) (hnonce : nonce < 2 ^ 256)
    (hjcs : ∀ payload, ∃ bytes, P.payloadBytes payload = .ok bytes) :
    (∀ offered ∈ terms.networks, ∀ now : Time,
      (invoice.walletAttestationRequired = false →
        ∃ binding, invoice.bindNetwork P offered.chainId (P.rfc3339 now) = .ok binding ∧
          binding.network.chainId = offered.chainId ∧ Agrees P terms invoice binding ∧
          (∀ row, Unbound row invoice terms.recovery → ∃ row', row.bindNetwork binding now = (row', .bound) ∧
            row'.tryFrom P = .ok { invoice with binding := some binding }) ∧
          ∀ later, ∃ row, DbInvoice.issued invoice (some binding) later = .ok row ∧
            row.tryFrom P = .ok { invoice with binding := some { binding with readyAt := P.rfc3339 later } }) ∧
      (invoice.walletAttestationRequired = true → ∀ (signer : Signer P) (challenge : Hash) (expiresAt : ℕ),
        challenge < 2 ^ 256 → ∃ network, invoice.networkFor offered.chainId = some network ∧
        ∃ binding, invoice.bindPayerWallet P offered.chainId
            (signer.attestation (invoice.attestationScope network) challenge expiresAt) (P.rfc3339 now) = .ok binding ∧
          binding.network = network ∧ binding.wallet.map (·.payerWallet) = some signer.wallet ∧
          Agrees P terms invoice binding ∧
          ∀ row, Unbound row invoice terms.recovery → (now / 1000000 : ℕ) ≤ row.expirationTimestamp →
            ∃ row', row.bindPayerWallet binding now = (row', .bound) ∧
              row'.tryFrom P = .ok { invoice with binding := some binding })) ∧
    (∀ now, ∃ row, DbInvoice.issued invoice none now = .ok row ∧ Unbound row invoice terms.recovery) ∧
    ∀ (row : DbInvoice) (cs ds : List DbInvoice.Call), (row.calls cs).2.count (some .bound) ≤ 1 ∧
      ((row.calls cs).1.paymentAddress.isSome →
        (row.calls (cs ++ ds)).1.bindingColumns = (row.calls cs).1.bindingColumns) := by
  have hissued := issue_issued hissue hnonce
  obtain ⟨bytes, -, -, -, -, -, hrecovery, -, -, -, hinvoice⟩ := issue_eq_ok hissue
  refine ⟨?_, ?_, ?_⟩
  · intro offered hoffered now
    have hmem : offered ∈ invoice.networks := by
      rw [hinvoice]
      exact Terms.mem_sorted.2 hoffered
    obtain ⟨network, hnetwork⟩ := networkFor_of_mem hmem
    refine ⟨fun hrequired => ?_, fun hrequired signer challenge expiresAt hchallenge => ?_⟩
    · obtain ⟨binding, hbind⟩ := bindNetwork_ok (P.rfc3339 now) hissued hrequired hnetwork
      obtain ⟨hderived, hchain, hwallet, hready⟩ := bindNetwork_derived hbind
      have hagrees := hderived.agrees hissue hnonce hjcs
      refine ⟨binding, hbind, hchain, hagrees, ?_, fun later => issued_bound hissued hderived hwallet⟩
      intro row hunbound
      rw [← hagrees.recovery.1] at hunbound
      exact hunbound.bindNetwork hissued hderived hwallet hready
    · obtain ⟨binding, hbind, hsigner⟩ := bindPayerWallet_ok signer (P.rfc3339 now) expiresAt hissued hrequired
        hchallenge hnetwork
      obtain ⟨hderived, hchain, hready, evidence, hevidence, -, hbound⟩ := bindPayerWallet_derived hbind
      have hagrees := hderived.agrees hissue hnonce hjcs
      have hsame : binding.network = network := by
        have hfound := hderived.network
        rw [hchain, hnetwork] at hfound
        exact (Option.some.inj hfound).symm
      refine ⟨network, hnetwork, binding, hbind, hsame, hsigner, hagrees, ?_⟩
      intro row hunbound hopen
      rw [← hagrees.recovery.1] at hunbound
      exact hunbound.bindPayerWallet hissued hderived hevidence hready hbound hopen
  · intro now
    refine issued_unbound (orError_eq_ok.2 ?_)
    rw [hinvoice]
    simp only [hrecovery, parseAddress_toChecksum P terms.recovery_lt]
  · intro row cs ds
    refine ⟨DbInvoice.count_bound_le_one cs, fun hbound => ?_⟩
    rw [DbInvoice.calls_append]
    exact (DbInvoice.calls_of_bound hbound ds).1

/-- A wallet binds the sample request, the row is decoded again and the binding agrees. -/
theorem issue_bind_and_prove_agree_sample : ∃ (invoice : Invoice) (binding : PaymentBinding) (row row' : DbInvoice),
    Invoice.issue standIn 1 61 .usdc sampleTerms.networks sampleTerms.beneficiary sampleTerms.recovery
      sampleTerms.amount sampleTerms.expirationTimestamp sampleSnapshot = .ok invoice ∧
    DbInvoice.issued invoice none 5 = .ok row ∧ row.bindPayerWallet binding 5 = (row', .bound) ∧
    row'.tryFrom standIn = .ok { invoice with binding := some binding } ∧
    binding.wallet.map (·.payerWallet) = some 7 ∧ Agrees standIn sampleTerms invoice binding := by
  obtain ⟨invoice, hissue, hsnapshot⟩ := issue_ok 1 61 sampleTerms (by decide)
    (show sampleSnapshot = sampleTerms.document standIn .usdc _ _ _ _ _ _ _ from rfl) rfl
  have hnonce : 61 < 2 ^ 256 := by decide
  have hchallenge : 62 < 2 ^ 256 := by decide
  have hrequired : invoice.walletAttestationRequired = true := by
    rw [Invoice.walletAttestationRequired, hsnapshot]
    rfl
  obtain ⟨hbinds, hissued, -⟩ := issue_bind_and_prove_agree hissue hnonce fun payload => ⟨_, rfl⟩
  obtain ⟨row, hrow, hunbound⟩ := hissued 5
  obtain ⟨-, hwallet⟩ := hbinds ⟨143, 21, 22⟩ (List.mem_singleton_self _) 5
  obtain ⟨network, -, binding, -, -, hsigner, hagrees, hstored⟩ :=
    hwallet hrequired samplePayer 62 1900000000 hchallenge
  have hopen : ((5 / 1000000 : ℕ) : ℤ) ≤ row.expirationTimestamp := by
    obtain ⟨bytes, -, -, -, -, -, -, -, -, -, hinvoice⟩ := issue_eq_ok hissue
    rw [hunbound.stores.expiration, hinvoice]
    show ((5 / 1000000 : ℕ) : ℤ) ≤ asI64 1900000000
    decide
  obtain ⟨row', hbound, hdecoded⟩ := hstored row hunbound hopen
  exact ⟨invoice, binding, row, row', hissue, hrow, hbound, hdecoded, hsigner, hagrees⟩

end Payday.Proofs
