/-
# What a client signs

A merchant signs the documents of a withdrawal with the SDK (`sdk/typescript/src/signing.ts`) or in
the dashboard (`web/lib/withdrawal-authorization.ts`, with `prepare` and `sign` of
`web/components/dashboard/withdraw-panel.tsx`).  Both check every document against the answer that it
came with and against a configuration of their own before they ask for the first signature.  Nothing
is known here about who wrote the answer.
-/
import Payday.Withdrawals.Documents

namespace Payday.Withdrawals

variable (J : Javascript) (keccak : List UInt8 → Hash)

/-! ### The SDK -/

structure TrustedCctp where
  domain : ℕ
  forwarder : String
deriving DecidableEq, Repr

/-- A chain of the caller's registry: its contract for each currency, and its CCTP. -/
structure TrustedWithdrawalChain where
  tokens : String → Option String
  cctp : Option TrustedCctp

def LegResponse.isBridge (leg : LegResponse) : Bool := decide (leg.kind = "bridge")

/-- The type that a leg of its kind is signed with. -/
def LegResponse.expectedType (leg : LegResponse) : String :=
  if leg.isBridge then "ReceiveWithAuthorization" else "TransferWithAuthorization"

/-- Whom the document must pay; empty if the answer does not say. -/
def LegResponse.documentedPayee (leg : LegResponse) (authorization : AuthorizationResponse)
    (withdrawal : WithdrawalResponse) : String :=
  if leg.isBridge then authorization.forwarder.getD "" else withdrawal.destinationAddress

/-- The preimage names the destination. -/
def AuthorizationResponse.commitsTo (authorization : AuthorizationResponse) (destination : String) : Bool :=
  authorization.noncePreimage.any fun preimage => J.same preimage.mintRecipient destination

def problem (leg : LegResponse) (what : String) : String := "leg " ++ leg.id ++ ": typed data " ++ what

/-- `assertLegAuthorization`. -/
def assertLegAuthorization (now : ℤ) (withdrawal : WithdrawalResponse) (leg : LegResponse) :
    Except String AuthorizationTypedData := do
  let authorization ← orError ("leg " ++ leg.id ++ " is not awaiting a signature") leg.authorization
  let typed := authorization.typedData
  require (typed.primaryType = authorization.primaryType) (problem leg "names another type than the leg")
  require (typed.primaryType = leg.expectedType)
    (problem leg ("is a " ++ typed.primaryType ++ " for a " ++ leg.kind ++ " leg"))
  require (J.same typed.message.payer withdrawal.walletAddress = true)
    (problem leg "is not signed from the Gum wallet")
  require (J.number leg.sourceChain = some typed.domain.chainId)
    (problem leg "is under another chain's domain")
  -- the planner never puts a transfer elsewhere
  require (leg.kind = "transfer" → leg.sourceChain = withdrawal.destinationChain)
    (problem leg "moves funds on a chain the withdrawal does not settle on")
  require (typed.message.value = leg.amountBaseUnits) (problem leg "does not authorize the leg's amount")
  require (typed.message.validAfter = "0") (problem leg "has a non-zero validAfter")
  let validBefore ← orError "Cannot convert to a BigInt" (J.bigInt typed.message.validBefore)
  require (now < validBefore) (problem leg "has already expired")
  require ((hexText 32 typed.message.nonce).isSome = true) (problem leg "has a malformed nonce")
  require ((hexText 20 typed.domain.verifyingContract).isSome = true)
    (problem leg "has a malformed token address")
  require (leg.documentedPayee authorization withdrawal ≠ "" ∧
      J.same typed.message.payee (leg.documentedPayee authorization withdrawal) = true)
    (problem leg (if leg.isBridge then "does not pay the documented forwarder"
      else "does not pay the destination"))
  require (leg.isBridge = true → authorization.commitsTo J withdrawal.destinationAddress = true)
    (problem leg "does not commit to the destination")
  return typed

/-- `` `0x${mintRecipient.slice(2).toLowerCase().padStart(64, "0")}` ``. -/
def recipientText (mintRecipient : String) : String :=
  String.ofList ('0' :: 'x' ::
    List.leftpad 64 '0' (J.toLowerCase (String.ofList (mintRecipient.toList.drop 2))).toList)

/-- `bridgeNonce`, of texts; `none` if the encoder refuses one of them. -/
def bridgeNonceText (destinationDomain : ℕ) (mintRecipient salt : String) : Option String :=
  match hexText 32 (recipientText J mintRecipient), hexText 32 salt with
  | some recipient, some salt =>
    if destinationDomain < 2 ^ 32 then
      some (fixedText 32 (bridgeNonce keccak destinationDomain recipient salt))
    else none
  | _, _ => none

/-- `verifyBridgeNonce`: the nonce is that of the preimage. -/
def AuthorizationResponse.noncesAgree (authorization : AuthorizationResponse) : Bool :=
  authorization.noncePreimage.any fun preimage =>
    (bridgeNonceText J keccak preimage.destinationDomain preimage.mintRecipient preimage.salt).any fun expected =>
      J.same expected authorization.typedData.message.nonce

/-- What `signWithdrawal` asks of a bridge leg: the currency, the forwarder and the destination's domain
are those of the registry, and the nonce commits to the destination. -/
def checkBridge (source destination : Option TrustedWithdrawalChain) (withdrawal : WithdrawalResponse)
    (leg : LegResponse) (authorization : AuthorizationResponse) : Except String Unit := do
  let problem := fun what => "leg " ++ leg.id ++ ": " ++ what
  require (withdrawal.currency = "USDC")
    (problem ("only USDC bridges; a " ++ withdrawal.currency ++ " withdrawal has no bridge leg"))
  let cctp ← orError (problem "source chain has no trusted CCTP configuration")
    (source.bind TrustedWithdrawalChain.cctp)
  require (J.same (authorization.forwarder.getD "") cctp.forwarder = true)
    (problem "authorization names an untrusted forwarder")
  let target ← orError (problem "destination chain has no trusted CCTP configuration")
    (destination.bind TrustedWithdrawalChain.cctp)
  require (authorization.noncePreimage.map NoncePreimage.destinationDomain = some target.domain)
    (problem "nonce preimage names the wrong destination domain")
  require (authorization.noncesAgree J keccak = true)
    (problem "the nonce does not commit to the documented destination")

/-- What `signWithdrawal` asks of a leg, with the registry of its options. -/
def checkLeg (now : ℤ) (chains : Option (ℕ → Option TrustedWithdrawalChain))
    (withdrawal : WithdrawalResponse) (leg : LegResponse) : Except String AuthorizationTypedData := do
  let problem := fun what => "leg " ++ leg.id ++ ": " ++ what
  let typed ← assertLegAuthorization J now withdrawal leg
  let authorization ← orError (problem "is not awaiting a signature") leg.authorization
  let chain := fun text => chains.bind fun chains => (J.number text).bind chains
  require (chains.isSome = true → (chain leg.sourceChain).isSome = true)
    (problem "source chain is not trusted")
  -- an empty text is no address
  let trusted := (chain leg.sourceChain).bind fun source =>
    (source.tokens withdrawal.currency).filter fun token => decide (token ≠ "")
  require ((chain leg.sourceChain).isSome = true → trusted.isSome = true)
    (problem (withdrawal.currency ++ " is not trusted on the source chain"))
  require (trusted.all (J.same typed.domain.verifyingContract) = true)
    (problem ("typed data is not under the trusted " ++ withdrawal.currency ++ " contract"))
  require (J.same typed.domain.verifyingContract leg.token = true)
    (problem "typed data is not under the leg's own token")
  if leg.isBridge then
    checkBridge J keccak (chain leg.sourceChain) (chain withdrawal.destinationChain) withdrawal leg
      authorization
  return typed

/-- The legs that are to be signed. -/
def WithdrawalResponse.awaiting (withdrawal : WithdrawalResponse) : List LegResponse :=
  withdrawal.legs.filter fun leg =>
    decide (leg.state = "awaiting_signature") && leg.authorization.isSome

/-- The members of a document, as a signing library takes them. -/
structure SignableMessage where
  payer : String
  payee : String
  value : ℤ
  validAfter : ℤ
  validBefore : ℤ
  nonce : String
deriving DecidableEq, Repr

structure SignableTypedData where
  domain : TypedDataDomain
  primaryType : String
  types : List (String × List TypedDataField)
  message : SignableMessage
deriving DecidableEq, Repr

/-- The members with their numbers read. -/
def AuthorizationMessage.signable (number : String → Option ℤ) (message : AuthorizationMessage) :
    Option SignableMessage := do
  return ⟨message.payer, message.payee, ← number message.value, ← number message.validAfter,
    ← number message.validBefore, message.nonce⟩

/-- `toSignableTypedData`. -/
def toSignableTypedData (typed : AuthorizationTypedData) : Option SignableTypedData :=
  (typed.message.signable J.bigInt).map fun message =>
    ⟨typed.domain, typed.primaryType,
      typed.types.filter fun type => decide (type.1 ≠ "EIP712Domain"), message⟩

/-- The first half of `signWithdrawal`: all documents are checked before the first is signed. -/
def checkWithdrawal (now : ℤ) (chains : Option (ℕ → Option TrustedWithdrawalChain))
    (withdrawal : WithdrawalResponse) : Except String (List (LegResponse × AuthorizationTypedData)) := do
  require (withdrawal.awaiting.any LegResponse.isBridge = true → chains.isSome = true)
    "refusing to sign a bridge withdrawal without a trusted chain registry"
  withdrawal.awaiting.mapM fun leg =>
    (checkLeg J keccak now chains withdrawal leg).map fun typed => (leg, typed)

/-- `signWithdrawal`. -/
def signWithdrawal (now : ℤ) (chains : Option (ℕ → Option TrustedWithdrawalChain))
    (signTypedData : SignableTypedData → Except String String) (withdrawal : WithdrawalResponse) :
    Except String (List (String × String)) := do
  let checked ← checkWithdrawal J keccak now chains withdrawal
  checked.mapM fun entry => do
    let signable ← orError "Cannot convert to a BigInt" (toSignableTypedData J entry.2)
    let signature ← signTypedData signable
    return (entry.1.id, signature)

/-! ### The dashboard -/

/-- A stablecoin of the configuration, which takes no other address. -/
structure PublicToken where
  currency : String
  address : String
  isAddress : (hexText 20 address).isSome
deriving DecidableEq, Repr

/-- A network of the deployment, as far as withdrawals go. -/
structure PublicChain where
  id : ℕ
  name : String
  tokens : List PublicToken
  cctp : Option TrustedCctp
deriving DecidableEq, Repr

/-- `chainById`, of a text. -/
def chainById (chains : List PublicChain) (text : String) : Option PublicChain :=
  (J.number text).bind fun wanted => chains.find? fun chain => decide (chain.id = wanted)

/-- `tokenOn`. -/
def tokenOn (chain : PublicChain) (currency : String) : Option PublicToken :=
  chain.tokens.find? fun token => decide (token.currency = currency)

/-- `bridges`. -/
def bridges (currency : String) : Bool := decide (currency = "USDC")

/-- The checks of `checkLegAuthorization` that only bridge legs have. -/
def checkBridgeLeg (chains : List PublicChain) (source : PublicChain) (withdrawal : WithdrawalResponse)
    (authorization : AuthorizationResponse) : Except String Unit := do
  require (authorization.commitsTo J withdrawal.destinationAddress = true)
    "The document does not commit the bridge to your destination address."
  let cctp ← orError "The source network has no trusted bridge configuration." source.cctp
  require (authorization.forwarder.getD "" ≠ "" ∧
      J.same (authorization.forwarder.getD "") cctp.forwarder = true)
    "The authorization does not use this network's trusted forwarder."
  let destination ← orError "The destination network is not trusted by this dashboard."
    (chainById J chains withdrawal.destinationChain)
  let target ← orError "The destination network has no trusted bridge configuration." destination.cctp
  require (authorization.noncePreimage.map NoncePreimage.destinationDomain = some target.domain)
    "The bridge authorization names the wrong destination network."
  require (authorization.noncesAgree J keccak = true)
    "The signed nonce does not commit to the documented bridge destination."

/-- `checkLegAuthorization`: an error is the reason not to sign. -/
def checkLegAuthorization (now : ℤ) (chains : List PublicChain) (withdrawal : WithdrawalResponse)
    (leg : LegResponse) : Except String Unit := do
  let authorization ← orError "This leg is not awaiting a signature." leg.authorization
  let typed := authorization.typedData
  require (typed.primaryType = leg.expectedType ∧ authorization.primaryType = leg.expectedType)
    "The document is not the authorization type this leg needs."
  require (J.same typed.message.payer withdrawal.walletAddress = true)
    "The document is not signed from your Gum wallet."
  require (J.number leg.sourceChain = some typed.domain.chainId)
    "The document is under another network's token."
  -- the planner never puts a transfer elsewhere
  require (leg.kind = "transfer" → leg.sourceChain = withdrawal.destinationChain)
    "The document moves funds on a network this withdrawal does not settle on."
  let source ← orError "The source network is not trusted by this dashboard."
    (chainById J chains leg.sourceChain)
  let trusted ← orError
    (withdrawal.currency ++ " is not served on " ++ source.name ++ " by this dashboard.")
    (tokenOn source withdrawal.currency)
  require (J.same typed.domain.verifyingContract trusted.address = true)
    ("The document is not under this network's trusted " ++ withdrawal.currency ++ " contract.")
  require (J.same typed.domain.verifyingContract leg.token = true)
    "The document is not under the leg's own token."
  require (leg.isBridge = true → bridges withdrawal.currency = true)
    (withdrawal.currency ++ " does not bridge; a bridge leg is not something to sign.")
  let validBefore ← orError "The document has an invalid expiry time."
    (J.bigInt typed.message.validBefore)
  require (now < validBefore) "The authorization has already expired."
  require (typed.message.value = leg.amountBaseUnits ∧ typed.message.validAfter = "0")
    "The document does not authorize exactly this leg's amount."
  require (leg.documentedPayee authorization withdrawal ≠ "" ∧
      J.same typed.message.payee (leg.documentedPayee authorization withdrawal) = true)
    (if leg.isBridge then "The document does not pay the documented forwarder."
      else "The document does not pay your destination address.")
  if leg.isBridge then checkBridgeLeg J keccak chains source withdrawal authorization

/-- `privyTypedData`: the types are the client's own. -/
def privyTypedData (typed : AuthorizationTypedData) : Except String AuthorizationTypedData := do
  require (typed.primaryType = "TransferWithAuthorization" ∨ typed.primaryType = "ReceiveWithAuthorization")
    ("unexpected typed data: " ++ typed.primaryType)
  return ⟨typed.domain, typed.primaryType, [(typed.primaryType, messageFields)], typed.message⟩

/-- What the merchant enters; the form takes no other address. -/
structure WithdrawalForm where
  currency : String
  destinationChain : ℕ
  destinationAddress : String
  /-- `PAYOUT_ADDRESS`. -/
  isAddress : (hexText 20 destinationAddress).isSome

/-- `prepare`, with the answer to the request it makes. -/
def prepare (form : WithdrawalForm) (withdrawal : WithdrawalResponse) :
    Except String WithdrawalResponse := do
  require (withdrawal.currency = form.currency ∧
      J.toLowerCase withdrawal.destinationAddress = J.toLowerCase form.destinationAddress ∧
      J.number withdrawal.destinationChain = some form.destinationChain)
    "The API returned a withdrawal for a different destination than the one entered. Nothing was signed; please contact support."
  return withdrawal

/-- `sign`: the documents that the wallet is asked to sign. -/
def sign (now : ℤ) (chains : List PublicChain) (withdrawal : WithdrawalResponse) :
    Except String (List AuthorizationTypedData) := do
  withdrawal.awaiting.forM fun leg => checkLegAuthorization J keccak now chains withdrawal leg
  withdrawal.awaiting.mapM fun leg => do
    let authorization ← orError "This leg is not awaiting a signature." leg.authorization
    privyTypedData authorization.typedData

/-- The network as a chain of a registry. -/
def PublicChain.trusted (chain : PublicChain) : TrustedWithdrawalChain :=
  ⟨fun currency => (tokenOn chain currency).map PublicToken.address, chain.cctp⟩

/-- The registry that a client of the SDK would take from the dashboard's configuration. -/
def trustedRegistry (chains : List PublicChain) (id : ℕ) : Option TrustedWithdrawalChain :=
  (chains.find? fun chain => decide (chain.id = id)).map PublicChain.trusted

/-! ### What the checks establish -/

section Checked

variable (registry : Option (ℕ → Option TrustedWithdrawalChain)) (now : ℤ)
  (withdrawal : WithdrawalResponse) (leg : LegResponse) (authorization : AuthorizationResponse)

/-- The document of a bridge leg pays the trusted forwarder, and its nonce commits to the destination. -/
structure BridgesTo (chains : ℕ → Option TrustedWithdrawalChain) (source target : TrustedCctp)
    (preimage : NoncePreimage) : Prop where
  usdc : withdrawal.currency = "USDC"
  onSource : (chains authorization.typedData.domain.chainId).bind TrustedWithdrawalChain.cctp = some source
  forwarder : J.same (authorization.forwarder.getD "") source.forwarder = true
  onTarget : ((J.number withdrawal.destinationChain).bind chains).bind TrustedWithdrawalChain.cctp = some target
  documented : authorization.noncePreimage = some preimage
  domain : preimage.destinationDomain = target.domain
  recipient : J.same preimage.mintRecipient withdrawal.destinationAddress = true
  nonce : ∃ expected,
    bridgeNonceText J keccak preimage.destinationDomain preimage.mintRecipient preimage.salt = some expected ∧
      J.same expected authorization.typedData.message.nonce = true

/-- The document agrees with the answer that it came with, and with the registry. -/
structure Checked : Prop where
  awaiting : leg.authorization = some authorization
  type : authorization.typedData.primaryType = leg.expectedType
  primaryType : authorization.primaryType = leg.expectedType
  payer : J.same authorization.typedData.message.payer withdrawal.walletAddress = true
  chain : J.number leg.sourceChain = some authorization.typedData.domain.chainId
  transfer : leg.kind = "transfer" → leg.sourceChain = withdrawal.destinationChain
  token : ∀ chains ∈ registry, ∃ source, chains authorization.typedData.domain.chainId = some source ∧
    ∃ token, source.tokens withdrawal.currency = some token ∧ token ≠ "" ∧
      J.same authorization.typedData.domain.verifyingContract token = true
  own : J.same authorization.typedData.domain.verifyingContract leg.token = true
  live : ∃ validBefore, J.bigInt authorization.typedData.message.validBefore = some validBefore ∧
    now < validBefore
  value : authorization.typedData.message.value = leg.amountBaseUnits
  validAfter : authorization.typedData.message.validAfter = "0"
  paid : leg.documentedPayee authorization withdrawal ≠ ""
  payee : J.same authorization.typedData.message.payee (leg.documentedPayee authorization withdrawal) = true
  bridge : leg.isBridge = true → ∃ chains ∈ registry, ∃ source target preimage,
    BridgesTo J keccak withdrawal authorization chains source target preimage

end Checked

variable {J keccak} {registry : Option (ℕ → Option TrustedWithdrawalChain)} {now : ℤ}
  {chains : List PublicChain} {withdrawal : WithdrawalResponse} {leg : LegResponse}
  {authorization : AuthorizationResponse}

/-- A conditional step of a chain of checks. -/
lemma ite_eq_ok {c : Prop} [Decidable c] {x : Except String Unit} :
    (if c then x else pure ()) = .ok () ↔ (c → x = .ok ()) := by
  split
  · rename_i h
    exact ⟨fun hx _ => hx, fun hx => hx h⟩
  · rename_i h
    exact ⟨fun _ hc => absurd hc h, fun _ => rfl⟩

lemma noncesAgree_iff {preimage : NoncePreimage} (h : authorization.noncePreimage = some preimage) :
    authorization.noncesAgree J keccak = true ↔ ∃ expected,
      bridgeNonceText J keccak preimage.destinationDomain preimage.mintRecipient preimage.salt = some expected ∧
        J.same expected authorization.typedData.message.nonce = true := by
  rw [AuthorizationResponse.noncesAgree, h, Option.any_some, Option.any_eq_true]

lemma commitsTo_iff {preimage : NoncePreimage} (h : authorization.noncePreimage = some preimage)
    (destination : String) : authorization.commitsTo J destination = true ↔
      J.same preimage.mintRecipient destination = true := by
  rw [AuthorizationResponse.commitsTo, h, Option.any_some]

/-- What the SDK asks of a bridge leg. -/
lemma checkBridge_iff (hcommits : authorization.commitsTo J withdrawal.destinationAddress = true) :
    checkBridge J keccak (registry.bind fun chains => chains authorization.typedData.domain.chainId)
        (registry.bind fun chains => (J.number withdrawal.destinationChain).bind chains) withdrawal leg
        authorization = .ok () ↔
      ∃ chains ∈ registry, ∃ source target preimage,
        BridgesTo J keccak withdrawal authorization chains source target preimage := by
  simp only [checkBridge, require_bind_eq_ok, orError_bind_eq_ok, require_eq_ok]
  constructor
  · rintro ⟨husdc, source, hsource, hforwarder, target, htarget, hdomain, hnonce⟩
    obtain ⟨chain, hchain, hcctp⟩ := Option.bind_eq_some_iff.1 hsource
    obtain ⟨chains, hchains, hchain⟩ := Option.bind_eq_some_iff.1 hchain
    obtain ⟨preimage, hpreimage, hdomain⟩ := Option.map_eq_some_iff.1 hdomain
    rw [hchains] at htarget
    exact ⟨chains, hchains, source, target, preimage, husdc, Option.bind_eq_some_iff.2 ⟨chain, hchain, hcctp⟩,
      hforwarder, htarget, hpreimage, hdomain, (commitsTo_iff hpreimage _).1 hcommits,
      (noncesAgree_iff hpreimage).1 hnonce⟩
  · rintro ⟨chains, hchains, source, target, preimage, h⟩
    rw [hchains]
    refine ⟨h.usdc, source, h.onSource, h.forwarder, target, h.onTarget, ?_, (noncesAgree_iff h.documented).2 h.nonce⟩
    rw [h.documented, Option.map_some, h.domain]

lemma number_bind_trustedRegistry (J : Javascript) (chains : List PublicChain) (text : String) :
    (J.number text).bind (trustedRegistry chains) = (chainById J chains text).map PublicChain.trusted := by
  rw [chainById, Option.map_bind]
  rfl

/-- What the dashboard asks of a bridge leg. -/
lemma checkBridgeLeg_iff {source : PublicChain} (hsource : chainById J chains leg.sourceChain = some source)
    (hchain : J.number leg.sourceChain = some authorization.typedData.domain.chainId)
    (hpaid : authorization.forwarder.getD "" ≠ "") :
    bridges withdrawal.currency = true ∧
        checkBridgeLeg J keccak chains source withdrawal authorization = .ok () ↔
      ∃ source target preimage,
        BridgesTo J keccak withdrawal authorization (trustedRegistry chains) source target preimage := by
  have honSource : trustedRegistry chains authorization.typedData.domain.chainId = some source.trusted := by
    have hbind := number_bind_trustedRegistry J chains leg.sourceChain
    rw [hchain, hsource] at hbind
    exact hbind
  simp only [checkBridgeLeg, require_bind_eq_ok, orError_bind_eq_ok, require_eq_ok, bridges, decide_eq_true_eq]
  constructor
  · rintro ⟨husdc, hcommits, cctp, hcctp, ⟨-, hforwarder⟩, destination, hdestination, target, htarget, hdomain,
      hnonce⟩
    obtain ⟨preimage, hpreimage, hdomain⟩ := Option.map_eq_some_iff.1 hdomain
    refine ⟨cctp, target, preimage, husdc, ?_, hforwarder, ?_, hpreimage, hdomain, (commitsTo_iff hpreimage _).1 hcommits,
      (noncesAgree_iff hpreimage).1 hnonce⟩
    · rw [honSource]
      exact hcctp
    · rw [number_bind_trustedRegistry, hdestination]
      exact htarget
  · rintro ⟨cctp, target, preimage, h⟩
    have hcctp := h.onSource
    rw [honSource] at hcctp
    have htarget := h.onTarget
    rw [number_bind_trustedRegistry] at htarget
    obtain ⟨chain, hmap, htarget⟩ := Option.bind_eq_some_iff.1 htarget
    obtain ⟨destination, hdestination, rfl⟩ := Option.map_eq_some_iff.1 hmap
    refine ⟨h.usdc, (commitsTo_iff h.documented _).2 h.recipient, cctp, hcctp, ⟨hpaid, h.forwarder⟩, destination, hdestination,
      target, htarget, ?_, (noncesAgree_iff h.documented).2 h.nonce⟩
    rw [h.documented, Option.map_some, h.domain]

/-- The dashboard signs what agrees with the answer and with its configuration. -/
lemma checkLegAuthorization_iff :
    checkLegAuthorization J keccak now chains withdrawal leg = .ok () ↔
      ∃ authorization, Checked J keccak (some (trustedRegistry chains)) now withdrawal leg authorization := by
  simp only [checkLegAuthorization, require_bind_eq_ok, orError_bind_eq_ok, ite_eq_ok]
  constructor
  · rintro ⟨authorization, hawaiting, ⟨htype, hprimary⟩, hpayer, hchain, htransfer, source, hsource, trusted,
      htrusted, htoken, hown, hbridges, validBefore, hbefore, hlive, ⟨hvalue, hafter⟩, ⟨hpaid, hpayee⟩, hbridge⟩
    refine ⟨authorization, hawaiting, htype, hprimary, hpayer, hchain, htransfer, ?_, hown,
      ⟨validBefore, hbefore, hlive⟩, hvalue, hafter, hpaid, hpayee, fun hkind => ?_⟩
    · rintro _ ⟨⟩
      have honSource := number_bind_trustedRegistry J chains leg.sourceChain
      rw [hchain, hsource] at honSource
      refine ⟨source.trusted, honSource, trusted.address, ?_, ?_, htoken⟩
      · exact congrArg (Option.map PublicToken.address) htrusted
      · intro hempty
        have hhex := trusted.isAddress
        rw [hempty] at hhex
        exact absurd hhex (by decide)
    · have hforwarder : authorization.forwarder.getD "" ≠ "" := by
        simpa [LegResponse.documentedPayee, hkind] using hpaid
      exact ⟨_, rfl, (checkBridgeLeg_iff hsource hchain hforwarder).1 ⟨hbridges hkind, hbridge hkind⟩⟩
  · rintro ⟨authorization, h⟩
    obtain ⟨source', hsource', token, htoken, -, hsame⟩ := h.token _ rfl
    have honSource := number_bind_trustedRegistry J chains leg.sourceChain
    rw [h.chain, Option.bind_some, hsource'] at honSource
    obtain ⟨source, hsource, rfl⟩ := Option.map_eq_some_iff.1 honSource.symm
    obtain ⟨trusted, htrusted, rfl⟩ := Option.map_eq_some_iff.1 htoken
    obtain ⟨validBefore, hbefore, hlive⟩ := h.live
    have hbridge : leg.isBridge = true → bridges withdrawal.currency = true ∧
        checkBridgeLeg J keccak chains source withdrawal authorization = .ok () := by
      intro hkind
      have hforwarder : authorization.forwarder.getD "" ≠ "" := by
        simpa [LegResponse.documentedPayee, hkind] using h.paid
      obtain ⟨_, ⟨⟩, hbridges⟩ := h.bridge hkind
      exact (checkBridgeLeg_iff hsource h.chain hforwarder).2 hbridges
    exact ⟨authorization, h.awaiting, ⟨h.type, h.primaryType⟩, h.payer, h.chain, h.transfer, source, hsource,
      trusted, htrusted, hsame, h.own, fun hkind => (hbridge hkind).1, validBefore, hbefore, hlive,
      ⟨h.value, h.validAfter⟩, ⟨h.paid, h.payee⟩, fun hkind => (hbridge hkind).2⟩

lemma assertLegAuthorization_iff {typed : AuthorizationTypedData} :
    assertLegAuthorization J now withdrawal leg = .ok typed ↔
      ∃ authorization, leg.authorization = some authorization ∧ authorization.typedData = typed ∧
        typed.primaryType = authorization.primaryType ∧ typed.primaryType = leg.expectedType ∧
        J.same typed.message.payer withdrawal.walletAddress = true ∧
        J.number leg.sourceChain = some typed.domain.chainId ∧
        (leg.kind = "transfer" → leg.sourceChain = withdrawal.destinationChain) ∧
        typed.message.value = leg.amountBaseUnits ∧ typed.message.validAfter = "0" ∧
        (∃ validBefore, J.bigInt typed.message.validBefore = some validBefore ∧ now < validBefore) ∧
        (hexText 32 typed.message.nonce).isSome = true ∧
        (hexText 20 typed.domain.verifyingContract).isSome = true ∧
        (leg.documentedPayee authorization withdrawal ≠ "" ∧
          J.same typed.message.payee (leg.documentedPayee authorization withdrawal) = true) ∧
        (leg.isBridge = true → authorization.commitsTo J withdrawal.destinationAddress = true) := by
  simp only [assertLegAuthorization, require_bind_eq_ok, orError_bind_eq_ok, pure_eq_ok]
  constructor
  · rintro ⟨authorization, hawaiting, hprimary, htype, hpayer, hchain, htransfer, hvalue, hafter, validBefore,
      hbefore, hlive, hnonce, hcontract, hpayee, hcommits, rfl⟩
    exact ⟨authorization, hawaiting, rfl, hprimary, htype, hpayer, hchain, htransfer, hvalue, hafter,
      ⟨validBefore, hbefore, hlive⟩, hnonce, hcontract, hpayee, hcommits⟩
  · rintro ⟨authorization, hawaiting, rfl, hprimary, htype, hpayer, hchain, htransfer, hvalue, hafter,
      ⟨validBefore, hbefore, hlive⟩, hnonce, hcontract, hpayee, hcommits⟩
    exact ⟨authorization, hawaiting, hprimary, htype, hpayer, hchain, htransfer, hvalue, hafter, validBefore,
      hbefore, hlive, hnonce, hcontract, hpayee, hcommits, rfl⟩

/-- The contract is the registry's, if there is one. -/
lemma trusted_iff {contract currency : String} {id : ℕ} :
    ((registry.isSome = true → (registry.bind fun chains => chains id).isSome = true) ∧
      ((registry.bind fun chains => chains id).isSome = true →
        ((registry.bind fun chains => chains id).bind fun source =>
          (source.tokens currency).filter fun token => decide (token ≠ "")).isSome = true) ∧
      ((registry.bind fun chains => chains id).bind fun source =>
        (source.tokens currency).filter fun token => decide (token ≠ "")).all (J.same contract) = true) ↔
      ∀ chains ∈ registry, ∃ source, chains id = some source ∧
        ∃ token, source.tokens currency = some token ∧ token ≠ "" ∧ J.same contract token = true := by
  cases registry with
  | none => simp
  | some chains =>
    cases hsource : chains id with
    | none => simp [hsource]
    | some source =>
      cases htoken : source.tokens currency with
      | none => simp [hsource, htoken]
      | some token =>
        by_cases hempty : token = "" <;> simp [hsource, htoken, hempty]

lemma ite_bind_eq_ok {α : Type} {c : Prop} [Decidable c] {x : Except String Unit} {a b : α} :
    (if c then do x; pure a else pure a) = .ok b ↔ (c → x = .ok ()) ∧ a = b := by
  split
  · rename_i h
    rw [bind_eq_ok]
    exact ⟨fun ⟨_, hx, hab⟩ => ⟨fun _ => hx, pure_eq_ok.1 hab⟩, fun ⟨hx, hab⟩ => ⟨(), hx h, pure_eq_ok.2 hab⟩⟩
  · rename_i h
    exact ⟨fun hab => ⟨fun hc => absurd hc h, pure_eq_ok.1 hab⟩, fun hab => pure_eq_ok.2 hab.2⟩

/-- The SDK signs what agrees with the answer and with its registry, when two of the texts have the shape
of their numbers. -/
lemma checkLeg_iff {typed : AuthorizationTypedData} :
    checkLeg J keccak now registry withdrawal leg = .ok typed ↔
      ∃ authorization, Checked J keccak registry now withdrawal leg authorization ∧
        authorization.typedData = typed ∧ (hexText 32 typed.message.nonce).isSome = true ∧
        (hexText 20 typed.domain.verifyingContract).isSome = true := by
  rw [checkLeg, bind_eq_ok]
  simp only [orError_bind_eq_ok, require_bind_eq_ok, ite_bind_eq_ok, assertLegAuthorization_iff]
  constructor
  · rintro ⟨_, ⟨authorization, hawaiting, rfl, hprimary, htype, hpayer, hchain, htransfer, hvalue, hafter, hlive,
      hnonce, hcontract, ⟨hpaid, hpayee⟩, hcommits⟩, _, hawaiting', hsource, htrusted, htoken, hown, hbridge, rfl⟩
    cases hawaiting.symm.trans hawaiting'
    simp only [hchain, Option.bind_some] at hsource htrusted htoken hbridge
    refine ⟨authorization, ⟨hawaiting, htype, hprimary.symm.trans htype, hpayer, hchain, htransfer,
      trusted_iff.1 ⟨hsource, htrusted, htoken⟩, hown, hlive, hvalue, hafter, hpaid, hpayee, fun hkind => ?_⟩,
      rfl, hnonce, hcontract⟩
    exact (checkBridge_iff (hcommits hkind)).1 (hbridge hkind)
  · rintro ⟨authorization, h, rfl, hnonce, hcontract⟩
    have hcommits : leg.isBridge = true → authorization.commitsTo J withdrawal.destinationAddress = true := by
      intro hkind
      obtain ⟨_, -, _, _, _, hbridge⟩ := h.bridge hkind
      exact (commitsTo_iff hbridge.documented _).2 hbridge.recipient
    obtain ⟨hsource, htrusted, htoken⟩ := trusted_iff.2 h.token
    refine ⟨_, ⟨authorization, h.awaiting, rfl, h.type.trans h.primaryType.symm, h.type, h.payer, h.chain,
      h.transfer, h.value, h.validAfter, h.live, hnonce, hcontract, ⟨h.paid, h.payee⟩, hcommits⟩, authorization,
      h.awaiting, ?_⟩
    simp only [h.chain, Option.bind_some]
    exact ⟨hsource, htrusted, htoken, h.own, fun hkind => (checkBridge_iff (hcommits hkind)).2 (h.bridge hkind),
      trivial⟩

/-- The two clients sign the same documents: with one configuration and whatever the answer, the SDK takes
a leg's document exactly when the dashboard does and the nonce and the contract have the shape of their
numbers, which only the SDK looks at. -/
theorem clients_sign_the_same_documents (J : Javascript) (keccak : List UInt8 → Hash) (now : ℤ)
    (chains : List PublicChain) (withdrawal : WithdrawalResponse) (leg : LegResponse)
    (typed : AuthorizationTypedData) :
    checkLeg J keccak now (some (trustedRegistry chains)) withdrawal leg = .ok typed ↔
      checkLegAuthorization J keccak now chains withdrawal leg = .ok () ∧
        leg.authorization.map AuthorizationResponse.typedData = some typed ∧
        (hexText 32 typed.message.nonce).isSome = true ∧
        (hexText 20 typed.domain.verifyingContract).isSome = true := by
  rw [checkLeg_iff, checkLegAuthorization_iff]
  constructor
  · rintro ⟨authorization, h, rfl, hshapes⟩
    refine ⟨⟨authorization, h⟩, ?_, hshapes⟩
    rw [h.awaiting, Option.map_some]
  · rintro ⟨⟨authorization, h⟩, htyped, hshapes⟩
    rw [h.awaiting, Option.map_some, Option.some.injEq] at htyped
    exact ⟨authorization, h, htyped, hshapes⟩

end Payday.Withdrawals
