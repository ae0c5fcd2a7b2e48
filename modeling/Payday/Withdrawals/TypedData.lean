/-
# Documents that were signed

Both clients hand a document to a library that signs EIP-712 documents, which reads the texts and
hashes what it read.  A digest decides the type, the members and the token of a document, whatever types
it came with; and what either client asks a signer for was checked by it.
-/
import Payday.Withdrawals.Signing

namespace Payday.Withdrawals

variable {P : Cryptography}

/-! ### What a library hashes -/

/-- What a signing library makes of a document: its domain, the text of its primary type, and the words
that its members are encoded to. -/
structure Encoded where
  domain : TokenDomain
  typeText : List UInt8
  words : List ℕ
deriving DecidableEq, Repr

namespace Encoded

variable (P)

/-- What `hashStruct` hashes. -/
def structInput (e : Encoded) : List UInt8 := (P.keccak e.typeText :: e.words).flatMap abiWord

/-- What the signing hash hashes. -/
def signingInput (e : Encoded) : List UInt8 :=
  [0x19, 0x01] ++ [e.domain.separator P, P.keccak (e.structInput P)].flatMap abiWord

def digest (e : Encoded) : Hash := P.keccak (e.signingInput P)

/-- The inputs of the hash. -/
def hashed (e : Encoded) : Set (List UInt8) :=
  {e.typeText, e.domain.input P, e.structInput P, e.signingInput P}

/-- The numbers are values of their types. -/
structure InRange (e : Encoded) : Prop where
  domain : e.domain.InRange
  words : ∀ w ∈ e.words, w < 2 ^ 256

end Encoded

/-- The words of the members, in the token's order. -/
def Eip3009.words (m : Eip3009) : List ℕ := [m.payer, m.payee, m.value, m.validAfter, m.validBefore, m.nonce]

/-- The message as a document of the token's domain. -/
def Eip3009.encoded (m : Eip3009) (domain : TokenDomain) : Encoded := ⟨domain, m.kind.encodeType, m.words⟩

lemma Eip3009.hashed_encoded (m : Eip3009) (domain : TokenDomain) :
    (m.encoded domain).hashed P = m.hashed P domain := rfl

lemma Eip3009.digest_encoded (m : Eip3009) (domain : TokenDomain) :
    (m.encoded domain).digest P = m.digest P domain := rfl

/-- Without a collision, a document with the digest of an EIP-3009 message is of its type, and has its
members and its token. -/
lemma Encoded.eq_of_digest_eq {e : Encoded} {domain : TokenDomain} {m : Eip3009} (he : e.InRange)
    (hm : m.InRange) (hdomain : domain.InRange)
    (hfree : Set.InjOn P.keccak (e.hashed P ∪ m.hashed P domain))
    (h : e.digest P = m.digest P domain) :
    e.typeText = m.kind.encodeType ∧ e.words = m.words ∧ e.domain.chainId = domain.chainId ∧
      e.domain.token = domain.token := by
  have hsigning : e.signingInput P = m.signingInput P domain :=
    hfree (by simp [Encoded.hashed]) (by simp [Eip3009.hashed]) h
  rw [Encoded.signingInput, Eip3009.signingInput] at hsigning
  have htwo := flatMap_abiWord_inj (List.append_cancel_left hsigning) (by simp)
    (words_lt_cons (P.keccak_lt _) (words_lt_cons (P.keccak_lt _) words_lt_nil))
    (words_lt_cons (P.keccak_lt _) (words_lt_cons (P.keccak_lt _) words_lt_nil))
  have hdomains : e.domain.input P = domain.input P :=
    hfree (by simp [Encoded.hashed]) (by simp [Eip3009.hashed]) (List.cons.inj htwo).1
  have hstructs : e.structInput P = m.input P :=
    hfree (by simp [Encoded.hashed]) (by simp [Eip3009.hashed]) (List.cons.inj (List.cons.inj htwo).2).1
  rw [TokenDomain.input, TokenDomain.input] at hdomains
  have hfive := flatMap_abiWord_inj hdomains (by simp) he.domain.words_lt hdomain.words_lt
  simp only [List.cons.injEq, and_true] at hfive
  -- as many members as the bytes say
  have hlength : (P.keccak e.typeText :: e.words).length = (P.keccak m.kind.encodeType :: m.words).length := by
    have hbytes := congrArg List.length hstructs
    rw [Encoded.structInput, Eip3009.input, length_flatMap_abiWord, length_flatMap_abiWord] at hbytes
    exact Nat.eq_of_mul_eq_mul_left (by decide) hbytes
  have hmembers : P.keccak e.typeText :: e.words = P.keccak m.kind.encodeType :: m.words :=
    flatMap_abiWord_inj hstructs hlength (words_lt_cons (P.keccak_lt _) he.words) hm.words_lt
  obtain ⟨htype, hwords⟩ := List.cons.inj hmembers
  exact ⟨hfree (by simp [Encoded.hashed]) (by simp [Eip3009.hashed]) htype, hwords, hfive.2.2.2⟩

/-! ### What a client asks for -/

/-- A number as a `uint256`. -/
def uint256 (n : ℤ) : Option ℕ := if 0 ≤ n ∧ n < 2 ^ 256 then some n.toNat else none

/-- The members of a document, as those of an EIP-3009 message. -/
def SignableMessage.read (kind : AuthorizationKind) (message : SignableMessage) : Option Eip3009 := do
  return ⟨kind, ← hexText 20 message.payer, ← hexText 20 message.payee, ← uint256 message.value,
    ← uint256 message.validAfter, ← uint256 message.validBefore, ← hexText 32 message.nonce⟩

/-- A wallet, or a library, that signs EIP-712 documents. -/
structure Signer (P : Cryptography) where
  /-- How it reads the number of a text. -/
  number : String → Option ℤ
  number_repr : ∀ n : ℕ, number n.repr = some n
  /-- What it hashes for a document; `none` if it refuses to. -/
  encode : SignableTypedData → Option Encoded
  inRange : ∀ document e, encode document = some e → e.InRange
  domain : ∀ document e, encode document = some e → e.domain.chainId = document.domain.chainId ∧
    hexText 20 document.domain.verifyingContract = some e.domain.token
  /-- Whatever types the document brings: with the text of an EIP-3009 type, its members are those of that
  type. -/
  members : ∀ document e (kind : AuthorizationKind), encode document = some e → e.typeText = kind.encodeType →
    document.primaryType = kind.primaryType ∧ ∃ m, document.message.read kind = some m ∧ e.words = m.words
  /-- A document with the types and the texts of the standard is encoded as the standard says. -/
  standard : ∀ (domain : TokenDomain) (m : Eip3009), domain.InRange → m.InRange →
    encode ⟨⟨domain.name, domain.version, domain.chainId, toChecksum P.keccak domain.token⟩, m.kind.primaryType,
      [(m.kind.primaryType, messageFields)], ⟨toChecksum P.keccak m.payer, toChecksum P.keccak m.payee, m.value,
        m.validAfter, m.validBefore, fixedText 32 m.nonce⟩⟩ = some (m.encoded domain)

section Asked

variable (J : Javascript) (S : Signer P)

/-- The document that a signer is given for a leg, by one of the clients. -/
inductive Asked (withdrawal : WithdrawalResponse) :
    Option (ℕ → Option TrustedWithdrawalChain) → LegResponse → SignableTypedData → Prop
  | sdk {now : ℤ} {chains : Option (ℕ → Option TrustedWithdrawalChain)} {leg : LegResponse}
      {typed : AuthorizationTypedData} {checked : List (LegResponse × AuthorizationTypedData)}
      {document : SignableTypedData} (h : checkWithdrawal J P.keccak now chains withdrawal = .ok checked)
      (hmem : (leg, typed) ∈ checked) (hdocument : toSignableTypedData J typed = some document) :
      Asked withdrawal chains leg document
  | dashboard {now : ℤ} {chains : List PublicChain} {leg : LegResponse} {authorization : AuthorizationResponse}
      {typed : AuthorizationTypedData} {documents : List AuthorizationTypedData} {message : SignableMessage}
      (h : sign J P.keccak now chains withdrawal = .ok documents) (hleg : leg ∈ withdrawal.awaiting)
      (hauthorization : leg.authorization = some authorization)
      (hdocument : privyTypedData authorization.typedData = .ok typed)
      (hmessage : typed.message.signable S.number = some message) :
      Asked withdrawal (some (trustedRegistry chains)) leg
        ⟨typed.domain, typed.primaryType, typed.types, message⟩

/-- Where the merchant sends the money to: what was entered in the dashboard's form, or what the SDK was
given. -/
inductive Entered (withdrawal : WithdrawalResponse) : Address → Option ℕ → Prop
  | form {form : WithdrawalForm} {destination : Address} (h : prepare J form withdrawal = .ok withdrawal)
      (hdestination : hexText 20 form.destinationAddress = some destination) :
      Entered withdrawal destination (some form.destinationChain)
  | given {destination : Address} (hdestination : hexText 20 withdrawal.destinationAddress = some destination) :
      Entered withdrawal destination (J.number withdrawal.destinationChain)

variable {J S} {withdrawal : WithdrawalResponse} {registry : Option (ℕ → Option TrustedWithdrawalChain)}
  {leg : LegResponse} {document : SignableTypedData}

/-- The members of a document are those of the texts. -/
structure SignableMessage.Reads (number : String → Option ℤ) (message : AuthorizationMessage)
    (read : SignableMessage) : Prop where
  payer : read.payer = message.payer
  payee : read.payee = message.payee
  value : number message.value = some read.value
  validAfter : number message.validAfter = some read.validAfter
  validBefore : number message.validBefore = some read.validBefore
  nonce : read.nonce = message.nonce

lemma AuthorizationMessage.signable_eq_some {number : String → Option ℤ} {message : AuthorizationMessage}
    {read : SignableMessage} (h : message.signable number = some read) :
    SignableMessage.Reads number message read := by
  simp only [AuthorizationMessage.signable, Option.bind_eq_bind, Option.bind_eq_some_iff, Option.pure_def,
    Option.some.injEq] at h
  obtain ⟨value, hvalue, validAfter, hafter, validBefore, hbefore, rfl⟩ := h
  exact ⟨rfl, rfl, hvalue, hafter, hbefore, rfl⟩

/-- Whichever client asks, the document was checked. -/
lemma Asked.checked (h : Asked J S withdrawal registry leg document) :
    leg ∈ withdrawal.awaiting ∧ ∃ (now : ℤ) (authorization : AuthorizationResponse) (number : String → Option ℤ),
      Checked J P.keccak registry now withdrawal leg authorization ∧
      document.domain = authorization.typedData.domain ∧
      document.primaryType = authorization.typedData.primaryType ∧ (∀ n : ℕ, number n.repr = some n) ∧
      SignableMessage.Reads number authorization.typedData.message document.message := by
  cases h with
  | sdk h hmem hdocument =>
    rw [checkWithdrawal, require_bind_eq_ok] at h
    obtain ⟨leg', hleg', hcheck⟩ := exists_of_mem_mapM h.2 hmem
    obtain ⟨typed', hcheck, heq⟩ := map_eq_ok.1 hcheck
    cases heq
    obtain ⟨authorization, hchecked, rfl, -⟩ := checkLeg_iff.1 hcheck
    obtain ⟨message, hmessage, rfl⟩ := Option.map_eq_some_iff.1 hdocument
    exact ⟨hleg', _, authorization, J.bigInt, hchecked, rfl, rfl, J.bigInt_repr,
      AuthorizationMessage.signable_eq_some hmessage⟩
  | dashboard h hleg hauthorization hdocument hmessage =>
    obtain ⟨u, hchecks, -⟩ := bind_eq_ok.1 h
    obtain ⟨authorization', hchecked⟩ := checkLegAuthorization_iff.1 (forM_eq_ok.1 hchecks leg hleg)
    cases hauthorization.symm.trans hchecked.awaiting
    rw [privyTypedData, require_bind_eq_ok, pure_eq_ok] at hdocument
    obtain ⟨-, rfl⟩ := hdocument
    exact ⟨hleg, _, _, S.number, hchecked, rfl, rfl, S.number_repr,
      AuthorizationMessage.signable_eq_some hmessage⟩

/-- What the SDK returns are the signatures of documents that it asked for. -/
lemma asked_of_signWithdrawal {now : ℤ} {signTypedData : SignableTypedData → Except String String}
    {signatures : List (String × String)}
    (h : signWithdrawal J P.keccak now registry signTypedData withdrawal = .ok signatures) :
    ∀ entry ∈ signatures, ∃ leg document, leg.id = entry.1 ∧ Asked J S withdrawal registry leg document ∧
      signTypedData document = .ok entry.2 := by
  obtain ⟨checked, hchecked, hsigned⟩ := bind_eq_ok.1 h
  intro entry hentry
  obtain ⟨⟨leg, typed⟩, hmem, hround⟩ := exists_of_mem_mapM hsigned hentry
  obtain ⟨document, hdocument, hround⟩ := orError_bind_eq_ok.1 hround
  obtain ⟨signature, hsignature, hround⟩ := bind_eq_ok.1 hround
  obtain rfl := pure_eq_ok.1 hround
  exact ⟨leg, document, rfl, .sdk hchecked hmem hdocument, hsignature⟩

/-- The answer echoes what the merchant has entered. -/
lemma Entered.echoed {destination : Address} {chain : Option ℕ} (h : Entered J withdrawal destination chain) :
    J.number withdrawal.destinationChain = chain ∧
      ∃ text, J.same withdrawal.destinationAddress text = true ∧ hexText 20 text = some destination := by
  cases h with
  | form h hdestination =>
    rw [prepare, require_bind_eq_ok] at h
    exact ⟨h.1.2.2, _, decide_eq_true h.1.2.1, hdestination⟩
  | given hdestination => exact ⟨rfl, _, decide_eq_true rfl, hdestination⟩

/-- The recipient of a bridge is the destination that its text names. -/
lemma hexText_recipientText {mintRecipient text : String} {destination : Address}
    (hsame : J.same mintRecipient text = true) (htext : hexText 20 text = some destination) :
    hexText 32 (recipientText J mintRecipient) = some destination := by
  have hascii := Javascript.ascii_of_same hsame htext
  have hlower := (Javascript.same_ascii hascii (ascii_of_hexText htext)).1 hsame
  obtain ⟨digits, hdigits, hlength, hspells⟩ := hexText_eq_some.1 htext
  rw [hdigits, List.map_cons, List.map_cons] at hlower
  -- without the first two characters, whatever their case
  have hrest : (mintRecipient.toList.drop 2).map Char.toLower = hexDigits 40 destination := by
    rw [List.map_drop, hlower, List.drop_succ_cons, List.drop_succ_cons, List.drop_zero,
      map_toLower_of_ofHex hspells, hlength]
  have htail : J.toLowerCase (String.ofList (mintRecipient.toList.drop 2)) =
      String.ofList (hexDigits 40 destination) := by
    rw [J.toLowerCase_ascii, String.toList_ofList, hrest]
    intro c hc
    rw [String.toList_ofList] at hc
    exact hascii c (List.mem_of_mem_drop hc)
  have hlt : destination < 16 ^ 40 := lt_of_lt_of_eq (lt_of_hexText htext) (by norm_num)
  refine hexText_eq_some.2 ⟨_, String.toList_ofList, ?_, ?_⟩
  · rw [htail, String.toList_ofList, List.length_leftpad, length_hexDigits]
    rfl
  · rw [htail, String.toList_ofList, List.leftpad, ofHex_replicate, ofHex_hexDigits hlt]

lemma bridgeNonceText_eq_some {keccak : List UInt8 → Hash} {domain : ℕ} {mintRecipient salt expected : String}
    (h : bridgeNonceText J keccak domain mintRecipient salt = some expected) :
    ∃ recipient word, hexText 32 (recipientText J mintRecipient) = some recipient ∧ hexText 32 salt = some word ∧
      domain < 2 ^ 32 ∧ expected = fixedText 32 (bridgeNonce keccak domain recipient word) := by
  unfold bridgeNonceText at h
  split at h
  · rename_i recipient word hrecipient hword
    split at h
    · rename_i hdomain
      exact ⟨recipient, word, hrecipient, hword, hdomain, (Option.some.inj h).symm⟩
    · cases h
  · cases h

/-- The members of a message that was read. -/
lemma SignableMessage.read_eq_some {kind : AuthorizationKind} {message : SignableMessage} {m : Eip3009}
    (h : message.read kind = some m) :
    m.kind = kind ∧ m.InRange ∧ hexText 20 message.payee = some m.payee ∧ hexText 32 message.nonce = some m.nonce := by
  have hlt : ∀ {n : ℤ} {k : ℕ}, uint256 n = some k → k < 2 ^ 256 := by
    intro n k hk
    unfold uint256 at hk
    split at hk
    · obtain rfl := Option.some.inj hk
      omega
    · cases hk
  simp only [SignableMessage.read, Option.bind_eq_bind, Option.bind_eq_some_iff, Option.pure_def,
    Option.some.injEq] at h
  obtain ⟨payer, hpayer, payee, hpayee, value, hvalue, validAfter, hafter, validBefore, hbefore, nonce, hnonce,
    rfl⟩ := h
  exact ⟨rfl, ⟨lt_of_hexText hpayer, lt_of_hexText hpayee, hlt hvalue, hlt hafter, hlt hbefore,
    lt_of_hexText hnonce⟩, hpayee, hnonce⟩

lemma AuthorizationKind.eq_of_primaryType {kind kind' : AuthorizationKind}
    (h : kind.primaryType = kind'.primaryType) : kind = kind' := by
  cases kind <;> cases kind' <;> first | rfl | exact absurd h (by decide)

/-- What is hashed for the nonces that the answer documents. -/
def WithdrawalResponse.nonceHashed (J : Javascript) (withdrawal : WithdrawalResponse) : Set (List UInt8) :=
  {input | ∃ leg ∈ withdrawal.awaiting, ∃ authorization, leg.authorization = some authorization ∧
    ∃ preimage, authorization.noncePreimage = some preimage ∧
    ∃ recipient salt, hexText 32 (recipientText J preimage.mintRecipient) = some recipient ∧
      hexText 32 preimage.salt = some salt ∧ input = nonceInput preimage.destinationDomain recipient salt}

end Asked

end Payday.Withdrawals
