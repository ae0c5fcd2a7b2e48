/-
# Requests as rows

How a request is stored (`gum-ledger/src/invoices.rs`): the columns that `insert_issued` writes, the
two ways a binding is written, and how a row is decoded.  The table's trigger
(`0005_issuer_id_text.sql`) refuses every update that changes what was issued, or a binding that is
set.
-/
import Payday.Proofs.Binding

namespace Payday.Proofs

variable (P : Primitives)

/-! ### Columns -/

/-- `as i64`. -/
def asI64 (n : ℕ) : ℤ := if n < 2 ^ 63 then n else n - 2 ^ 64

/-- `as u64`. -/
def asU64 (z : ℤ) : ℕ := (z % 2 ^ 64).toNat

/-- A row of `invoices`: the columns of the document and of the binding. -/
structure DbInvoice where
  id : InvoiceId
  status : InvoiceStatus
  chainId : Option ℤ
  factoryAddress : Option (List UInt8)
  tokenAddress : Option (List UInt8)
  beneficiaryAddress : List UInt8
  expirationTimestamp : ℤ
  recoveryAddress : List UInt8
  amount : String
  salt : Option (List UInt8)
  paymentAddress : Option (List UInt8)
  readyAt : Option Time
  walletAttestationRequired : Bool
  issuanceSnapshot : CanonicalIssuanceSnapshot
  attributionVersion : ℕ
  attributionHash : List UInt8
  issuanceNonce : List UInt8
  payerWallet : Option (List UInt8)
  payerAttestation : Option PayerWalletAttestation
  walletBoundAt : Option Time
deriving DecidableEq

inductive DbInvoiceError
  | incompleteBinding (field : String)
  | invalidColumn (field : String)
  | invalidSnapshot (field : String)
deriving DecidableEq, Repr

/-- `address_from_col`. -/
def addressFromCol (field : String) (bytes : List UInt8) : Except DbInvoiceError Address :=
  if bytes.length = 20 then .ok (ofBE bytes) else .error (.invalidColumn field)

/-- `word_from_col`. -/
def wordFromCol (field : String) (bytes : List UInt8) : Except DbInvoiceError Hash :=
  if bytes.length = 32 then .ok (ofBE bytes) else .error (.invalidColumn field)

/-- `units_from_col`. -/
def unitsFromCol (text : String) : Except DbInvoiceError ℕ := orError (.invalidColumn "amount") (parseU256 text)

namespace DbInvoice

/-- The evidence of the wallet, whose three columns are set together. -/
def walletEvidence (row : DbInvoice) : Except DbInvoiceError (Option WalletEvidence) :=
  match row.payerWallet, row.payerAttestation with
  | some payerWallet, some attestation => do
    let payerWallet ← addressFromCol "payer_wallet" payerWallet
    let boundAt ← orError (.incompleteBinding "wallet_bound_at") row.walletBoundAt
    return some ⟨payerWallet, attestation, P.rfc3339 boundAt⟩
  | none, none => .ok none
  | _, _ => .error (.incompleteBinding "payer_attestation")

/-- The binding of a row that has an address. -/
def decodeBinding (row : DbInvoice) (paymentAddress : List UInt8) : Except DbInvoiceError PaymentBinding := do
  let chainId ← orError (.incompleteBinding "chain_id") row.chainId
  let tokenCol ← orError (.incompleteBinding "token_address") row.tokenAddress
  let token ← addressFromCol "token_address" tokenCol
  let factoryCol ← orError (.incompleteBinding "factory_address") row.factoryAddress
  let factory ← addressFromCol "factory_address" factoryCol
  let wallet ← row.walletEvidence P
  let recovery ← addressFromCol "recovery_address" row.recoveryAddress
  let saltCol ← orError (.incompleteBinding "salt") row.salt
  let salt ← wordFromCol "salt" saltCol
  let paymentAddress ← addressFromCol "payment_address" paymentAddress
  let readyAt ← orError (.incompleteBinding "ready_at") row.readyAt
  return ⟨⟨asU64 chainId, token, factory⟩, recovery, salt, paymentAddress, P.rfc3339 readyAt, wallet⟩

/-- The binding of a row, if it has an address. -/
def binding (row : DbInvoice) : Except DbInvoiceError (Option PaymentBinding) :=
  match row.paymentAddress with
  | none => .ok none
  | some paymentAddress => (row.decodeBinding P paymentAddress).map some

/-- `Invoice::try_from`. -/
def tryFrom (row : DbInvoice) : Except DbInvoiceError Invoice := do
  let binding ← row.binding P
  let networks ← orError (.invalidSnapshot "networks") row.issuanceSnapshot.networkTerms
  let beneficiary ← addressFromCol "beneficiary_address" row.beneficiaryAddress
  let amount ← unitsFromCol row.amount
  let issuanceNonce ← wordFromCol "issuance_nonce" row.issuanceNonce
  let attributionHash ← wordFromCol "attribution_hash" row.attributionHash
  return {
    id := row.id
    networks := networks
    beneficiary := beneficiary
    expirationTimestamp := asU64 row.expirationTimestamp
    amount := amount
    issuanceNonce := issuanceNonce
    binding := binding
    attributionVersion := row.attributionVersion
    attributionHash := attributionHash
    issuanceSnapshot := row.issuanceSnapshot }

/-- The row that `insert_issued` writes, with the binding of a request that is payable at once. -/
def issued (invoice : Invoice) (initial : Option PaymentBinding) (now : Time) : Except BindError DbInvoice := do
  let recovery ← invoice.recovery
  return {
    id := invoice.id
    status := .created
    chainId := initial.map fun binding => asI64 binding.network.chainId
    factoryAddress := initial.map fun binding => toBE 20 binding.network.factory
    tokenAddress := initial.map fun binding => toBE 20 binding.network.token
    beneficiaryAddress := toBE 20 invoice.beneficiary
    expirationTimestamp := asI64 invoice.expirationTimestamp
    recoveryAddress := toBE 20 recovery
    amount := invoice.amount.repr
    salt := initial.map fun binding => toBE 32 binding.salt
    paymentAddress := initial.map fun binding => toBE 20 binding.paymentAddress
    readyAt := initial.map fun _ => now
    walletAttestationRequired := invoice.walletAttestationRequired
    issuanceSnapshot := invoice.issuanceSnapshot
    attributionVersion := invoice.attributionVersion
    attributionHash := toBE 32 invoice.attributionHash
    issuanceNonce := toBE 32 invoice.issuanceNonce
    payerWallet := none
    payerAttestation := none
    walletBoundAt := none }

/-! ### The trigger -/

/-- The columns that are fixed at issuance. -/
structure IssuanceColumns where
  beneficiaryAddress : List UInt8
  expirationTimestamp : ℤ
  amount : String
  walletAttestationRequired : Bool
  issuanceNonce : List UInt8
  issuanceSnapshot : CanonicalIssuanceSnapshot
  attributionVersion : ℕ
  attributionHash : List UInt8
deriving DecidableEq

def issuanceColumns (row : DbInvoice) : IssuanceColumns :=
  ⟨row.beneficiaryAddress, row.expirationTimestamp, row.amount, row.walletAttestationRequired, row.issuanceNonce,
    row.issuanceSnapshot, row.attributionVersion, row.attributionHash⟩

/-- The columns that are fixed once the address is set. -/
structure BindingColumns where
  payerWallet : Option (List UInt8)
  payerAttestation : Option PayerWalletAttestation
  walletBoundAt : Option Time
  recoveryAddress : List UInt8
  salt : Option (List UInt8)
  paymentAddress : Option (List UInt8)
  readyAt : Option Time
  chainId : Option ℤ
  factoryAddress : Option (List UInt8)
  tokenAddress : Option (List UInt8)
deriving DecidableEq

def bindingColumns (row : DbInvoice) : BindingColumns :=
  ⟨row.payerWallet, row.payerAttestation, row.walletBoundAt, row.recoveryAddress, row.salt, row.paymentAddress,
    row.readyAt, row.chainId, row.factoryAddress, row.tokenAddress⟩

/-- `reject_invoice_issuance_mutation`. -/
def rejects (old new : DbInvoice) : Bool :=
  decide (new.issuanceColumns ≠ old.issuanceColumns) ||
    (old.paymentAddress.isSome && decide (new.bindingColumns ≠ old.bindingColumns))

/-- An update of the row; a refused one is rolled back. -/
def update (old new : DbInvoice) : DbInvoice := if rejects old new then old else new

/-! ### Binding -/

inductive BindOutcome
  | bound
  | alreadyBound
  | notBindable
  /-- The transaction failed. -/
  | failed
deriving DecidableEq, Repr

/-- The row with the binding's columns. -/
def withBinding (row : DbInvoice) (binding : PaymentBinding) (now : Time) : DbInvoice :=
  { row with
    salt := some (toBE 32 binding.salt)
    paymentAddress := some (toBE 20 binding.paymentAddress)
    readyAt := some now
    chainId := some (asI64 binding.network.chainId)
    factoryAddress := some (toBE 20 binding.network.factory)
    tokenAddress := some (toBE 20 binding.network.token) }

/-- The row with the binding's columns and the wallet's evidence. -/
def withWallet (row : DbInvoice) (binding : PaymentBinding) (wallet : WalletEvidence) (now : Time) : DbInvoice :=
  { row.withBinding binding now with
    payerWallet := some (toBE 20 wallet.payerWallet)
    payerAttestation := some wallet.attestation
    walletBoundAt := some now }

/-- Write a binding, past the trigger. -/
def write (row new : DbInvoice) : DbInvoice × BindOutcome :=
  (row.update new, if row.rejects new then .failed else .bound)

/-- `bind_payer_wallet`, which holds the row's lock from the check to the write. -/
def bindPayerWallet (row : DbInvoice) (binding : PaymentBinding) (now : Time) : DbInvoice × BindOutcome :=
  if row.paymentAddress.isSome then (row, .alreadyBound)
  else if row.status ≠ .created ∨ row.expirationTimestamp < (now / 1000000 : ℕ) ∨
      row.walletAttestationRequired = false then (row, .notBindable)
  else match binding.wallet with
    | none => (row, .failed)
    | some wallet => row.write (row.withWallet binding wallet now)

/-- `bind_network`: one conditional update. -/
def bindNetwork (row : DbInvoice) (binding : PaymentBinding) (now : Time) : DbInvoice × BindOutcome :=
  if row.paymentAddress = none ∧ row.status = .created ∧ row.walletAttestationRequired = false then
    row.write (row.withBinding binding now)
  else if row.paymentAddress.isSome then (row, .alreadyBound)
  else (row, .notBindable)

/-- What may happen to a stored request: a session binds it, or any other statement updates its row. -/
inductive Call
  | bindPayerWallet (binding : PaymentBinding) (now : Time)
  | bindNetwork (binding : PaymentBinding) (now : Time)
  | update (new : DbInvoice)

/-- One transaction on the row. -/
def call (row : DbInvoice) : Call → DbInvoice × Option BindOutcome
  | .bindPayerWallet binding now => ((row.bindPayerWallet binding now).1, some (row.bindPayerWallet binding now).2)
  | .bindNetwork binding now => ((row.bindNetwork binding now).1, some (row.bindNetwork binding now).2)
  | .update new => (row.update new, none)

/-- The row after transactions in any order, and what they answered. -/
def calls (row : DbInvoice) : List Call → DbInvoice × List (Option BindOutcome)
  | [] => (row, [])
  | c :: rest => (((row.call c).1.calls rest).1, (row.call c).2 :: ((row.call c).1.calls rest).2)

/-! ### A binding is set once -/

variable {row new : DbInvoice} {binding : PaymentBinding} {now : Time}

/-- The trigger keeps a binding that is set. -/
lemma update_bindingColumns (h : row.paymentAddress.isSome) :
    (row.update new).bindingColumns = row.bindingColumns := by
  unfold update
  split
  · rfl
  · rename_i hpass
    simp only [rejects, h, Bool.true_and, Bool.or_eq_true, decide_eq_true_eq, not_or, not_not] at hpass
    exact hpass.2

lemma bindPayerWallet_of_bound (h : row.paymentAddress.isSome) :
    row.bindPayerWallet binding now = (row, .alreadyBound) :=
  if_pos h

lemma bindNetwork_of_bound (h : row.paymentAddress.isSome) :
    row.bindNetwork binding now = (row, .alreadyBound) := by
  have hne : ¬ (row.paymentAddress = none ∧ row.status = .created ∧ row.walletAttestationRequired = false) := by
    rintro ⟨hnone, -⟩
    rw [hnone] at h
    cases h
  rw [bindNetwork, if_neg hne, if_pos h]

/-- A binding that is set survives every transaction, and no transaction sets another. -/
lemma call_of_bound (h : row.paymentAddress.isSome) (c : Call) :
    (row.call c).1.bindingColumns = row.bindingColumns ∧ (row.call c).2 ≠ some .bound := by
  cases c with
  | bindPayerWallet binding now => simp [call, bindPayerWallet_of_bound h]
  | bindNetwork binding now => simp [call, bindNetwork_of_bound h]
  | update new => exact ⟨update_bindingColumns h, by simp [call]⟩

lemma paymentAddress_isSome_of_columns {row row' : DbInvoice} (h : row'.bindingColumns = row.bindingColumns)
    (hsome : row.paymentAddress.isSome) : row'.paymentAddress.isSome := by
  have haddress := congrArg BindingColumns.paymentAddress h
  have hrow : row'.paymentAddress = row.paymentAddress := haddress
  rwa [hrow]

/-- The same over any transactions. -/
lemma calls_of_bound (h : row.paymentAddress.isSome) (cs : List Call) :
    (row.calls cs).1.bindingColumns = row.bindingColumns ∧ (row.calls cs).2.count (some .bound) = 0 := by
  induction cs generalizing row with
  | nil => exact ⟨rfl, rfl⟩
  | cons c rest ih =>
    obtain ⟨hcolumns, hanswer⟩ := call_of_bound h c
    obtain ⟨hrest, hcount⟩ := ih (paymentAddress_isSome_of_columns hcolumns h)
    refine ⟨hrest.trans hcolumns, ?_⟩
    show ((row.call c).2 :: ((row.call c).1.calls rest).2).count (some .bound) = 0
    rw [List.count_cons_of_ne hanswer, hcount]

/-- A write that answers `Bound` is not refused. -/
lemma write_bound (h : (row.write new).2 = .bound) : (row.write new).1 = new := by
  simp only [write] at h ⊢
  split at h
  · cases h
  · rename_i hpass
    exact if_neg hpass

/-- A transaction that answers `Bound` has set the address. -/
lemma call_bound {c : Call} (h : (row.call c).2 = some .bound) : (row.call c).1.paymentAddress.isSome := by
  cases c with
  | bindPayerWallet binding now =>
    simp only [call, Option.some.injEq, bindPayerWallet] at h ⊢
    split at h
    · cases h
    · split at h
      · cases h
      · split at h
        · cases h
        · rw [if_neg ‹_›, if_neg ‹_›, write_bound h]
          rfl
  | bindNetwork binding now =>
    simp only [call, Option.some.injEq, bindNetwork] at h ⊢
    split at h
    · rw [if_pos ‹_›, write_bound h]
      rfl
    · split at h
      · cases h
      · cases h
  | update new => cases h

/-- However many sessions bind, at most one of them is told that it did. -/
lemma count_bound_le_one (cs : List Call) : (row.calls cs).2.count (some .bound) ≤ 1 := by
  induction cs generalizing row with
  | nil => exact Nat.zero_le 1
  | cons c rest ih =>
    show ((row.call c).2 :: ((row.call c).1.calls rest).2).count (some .bound) ≤ 1
    by_cases hanswer : (row.call c).2 = some .bound
    · obtain ⟨-, hcount⟩ := calls_of_bound (call_bound hanswer) rest
      rw [hanswer, List.count_cons_self, hcount]
    · rw [List.count_cons_of_ne hanswer]
      exact ih

lemma calls_append (cs ds : List Call) : (row.calls (cs ++ ds)).1 = ((row.calls cs).1.calls ds).1 := by
  induction cs generalizing row with
  | nil => rfl
  | cons c rest ih => exact ih

end DbInvoice

/-! ### Reading back what was written -/

variable {P} {invoice : Invoice} {binding : PaymentBinding} {row : DbInvoice} {now : Time}

lemma asU64_asI64 {n : ℕ} (h : n < 2 ^ 64) : asU64 (asI64 n) = n := by
  unfold asU64 asI64
  split <;> omega

lemma addressFromCol_toBE {field : String} {address : Address} (h : address < 2 ^ 160) :
    addressFromCol field (toBE 20 address) = .ok address := by
  have hpow : 256 ^ 20 = 2 ^ 160 := by decide
  rw [addressFromCol, if_pos (length_toBE 20 address), ofBE_toBE (hpow ▸ h)]

lemma wordFromCol_toBE {field : String} {word : Hash} (h : word < 2 ^ 256) :
    wordFromCol field (toBE 32 word) = .ok word := by
  have hpow : 256 ^ 32 = 2 ^ 256 := by decide
  rw [wordFromCol, if_pos (length_toBE 32 word), ofBE_toBE (hpow ▸ h)]

/-- The columns of a row are those of a request. -/
structure Stores (row : DbInvoice) (invoice : Invoice) (recovery : Address) : Prop where
  id : row.id = invoice.id
  beneficiary : row.beneficiaryAddress = toBE 20 invoice.beneficiary
  expiration : row.expirationTimestamp = asI64 invoice.expirationTimestamp
  recovery : row.recoveryAddress = toBE 20 recovery
  amount : row.amount = invoice.amount.repr
  required : row.walletAttestationRequired = invoice.walletAttestationRequired
  snapshot : row.issuanceSnapshot = invoice.issuanceSnapshot
  version : row.attributionVersion = invoice.attributionVersion
  hash : row.attributionHash = toBE 32 invoice.attributionHash
  nonce : row.issuanceNonce = toBE 32 invoice.issuanceNonce

lemma Issued.hash_lt (h : Issued P invoice) : invoice.attributionHash < 2 ^ 256 := by
  obtain ⟨bytes, -, hhash⟩ := h.attribution
  rw [hhash]
  exact P.keccak256_lt _

/-- A stored request is decoded, with the binding its row has. -/
lemma Stores.tryFrom {recovery : Address} {decoded : Option PaymentBinding} (h : Stores row invoice recovery)
    (hissued : Issued P invoice)
    (hbinding : row.binding P = .ok decoded) :
    row.tryFrom P = .ok { invoice with binding := decoded } := by
  have hbeneficiary : invoice.beneficiary < 2 ^ 160 := lt_of_parseFixed hissued.receiver
  have hamount : invoice.amount < 2 ^ 256 := lt_of_parseDigits hissued.amount
  have hexpiration : invoice.expirationTimestamp < 2 ^ 64 := lt_of_parseNat hissued.expiration
  rw [DbInvoice.tryFrom, hbinding]
  simp only [bind_eq_ok, Except.ok.injEq, exists_eq_left', orError_eq_ok, pure_eq_ok]
  refine ⟨invoice.networks, ?_, invoice.beneficiary, ?_, invoice.amount, ?_, invoice.issuanceNonce, ?_,
    invoice.attributionHash, ?_, ?_⟩
  · rw [h.snapshot, hissued.networks]
  · rw [h.beneficiary, addressFromCol_toBE hbeneficiary]
  · rw [h.amount, unitsFromCol, orError_eq_ok, parseU256_repr hamount]
  · rw [h.nonce, wordFromCol_toBE hissued.nonce]
  · rw [h.hash, wordFromCol_toBE hissued.hash_lt]
  · rw [h.id, h.version, h.snapshot, h.expiration, asU64_asI64 hexpiration]

/-- The values of a binding as their types bound them. -/
structure PaymentBinding.Typed (binding : PaymentBinding) : Prop where
  network : binding.network.Typed
  recovery : binding.recovery < 2 ^ 160
  salt : binding.salt < 2 ^ 256
  paymentAddress : binding.paymentAddress < 2 ^ 160
  wallet : ∀ wallet ∈ binding.wallet, wallet.payerWallet < 2 ^ 160

/-- A binding is decoded from the columns it was written to. -/
lemma decodeBinding_written (htyped : binding.Typed) {evidence : Option WalletEvidence}
    (hchain : row.chainId = some (asI64 binding.network.chainId))
    (htoken : row.tokenAddress = some (toBE 20 binding.network.token))
    (hfactory : row.factoryAddress = some (toBE 20 binding.network.factory))
    (hwallet : row.walletEvidence P = .ok evidence) (hrecovery : row.recoveryAddress = toBE 20 binding.recovery)
    (hsalt : row.salt = some (toBE 32 binding.salt)) (hready : row.readyAt = some now) :
    row.decodeBinding P (toBE 20 binding.paymentAddress) =
      .ok { binding with readyAt := P.rfc3339 now, wallet := evidence } := by
  simp only [DbInvoice.decodeBinding, hchain, htoken, hfactory, hwallet, hrecovery, hsalt, hready, bind_eq_ok,
    orError_eq_ok, Option.some.injEq, exists_eq_left', addressFromCol_toBE htyped.network.token,
    addressFromCol_toBE htyped.network.factory, addressFromCol_toBE htyped.recovery, wordFromCol_toBE htyped.salt,
    addressFromCol_toBE htyped.paymentAddress, Except.ok.injEq, pure_eq_ok, asU64_asI64 htyped.network.chainId]

end Payday.Proofs
