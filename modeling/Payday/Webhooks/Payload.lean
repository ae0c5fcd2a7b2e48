/-
# The payload of an event

The object `data.deposit_request` is rendered twice from one row of `invoices`: by
`webhook_deposit_request_object` in SQL, with `checksum_addresses` in the delivery worker behind it,
and by `DepositRequestResponse::from_invoice` and `enrich_response` for the API.  Only the fields
that both objects have are kept here.

The two agree on every field but one.  The API explains an attention reason by its code; the trigger
writes one fixed explanation for all of them, and none of the API's is that one.
-/
import Mathlib.Data.Rat.Floor
import Mathlib.Tactic.Linarith
import Mathlib.Tactic.NormNum
import Mathlib.Tactic.Positivity
import Payday.Api.Listing
import Payday.Proofs.Documents
import Payday.Webhooks.Completeness

namespace Payday.Webhooks

open Proofs

/-! ### Texts -/

/-- A `u128` id, as PostgreSQL and `Uuid` write it. -/
def uuidText (id : ℕ) : String :=
  let digits := hexDigits 32 id
  let part := fun start length => String.ofList ((digits.drop start).take length)
  "-".intercalate [part 0 8, part 8 4, part 12 4, part 16 4, part 20 12]

/-- Year, month and day of a day since 1970-01-01. -/
def civilDate (days : ℕ) : ℕ × ℕ × ℕ :=
  let shifted := days + 719468
  let era := shifted / 146097
  let dayOfEra := shifted % 146097
  let yearOfEra := (dayOfEra - dayOfEra / 1460 + dayOfEra / 36524 - dayOfEra / 146096) / 365
  let dayOfYear := dayOfEra - (365 * yearOfEra + yearOfEra / 4 - yearOfEra / 100)
  let march := (5 * dayOfYear + 2) / 153
  let month := if march < 10 then march + 3 else march - 9
  (yearOfEra + era * 400 + (if month ≤ 2 then 1 else 0), month,
    dayOfYear - (153 * march + 2) / 5 + 1)

/-- Zeros before the digits, up to a width. -/
def padLeft (width : ℕ) (digits : List Char) : List Char :=
  List.replicate (width - digits.length) '0' ++ digits

def padded (width n : ℕ) : String := String.ofList (padLeft width (Nat.toDigits 10 n))

/-- A second since the epoch in RFC 3339, for the years up to 9999. -/
def utcText (seconds : ℕ) : String :=
  let (year, month, day) := civilDate (seconds / 86400)
  let clock := seconds % 86400
  padded 4 year ++ "-" ++ padded 2 month ++ "-" ++ padded 2 day ++ "T" ++
    padded 2 (clock / 3600) ++ ":" ++ padded 2 (clock / 60 % 60) ++ ":" ++ padded 2 (clock % 60) ++ "Z"

example : utcText 1788263820 = "2026-09-01T11:57:00Z" := by decide +kernel

/-- `rfc3339`: whole seconds. -/
def rfc3339 (time : Time) : String := utcText (time / 10 ^ 6)

/-- `webhook_rfc3339`: `to_char` leaves out the fraction of the second. -/
def webhookRfc3339 (time : Option Time) : Option String :=
  time.map fun microseconds => utcText (microseconds / 10 ^ 6)

/-- `format_units`. -/
def formatUnits (units decimals : ℕ) : String :=
  (units / 10 ^ decimals).repr ++ "." ++ padded decimals (units % 10 ^ decimals)

/-- Exactly so many decimal digits. -/
def fixedDigits : ℕ → ℕ → List Char
  | 0, _ => []
  | width + 1, n => fixedDigits width (n / 10) ++ [(n % 10).digitChar]

/-- The text of `scaled / 10 ^ scale` as a `numeric` of that scale. -/
def numericText (scaled scale : ℕ) : String :=
  if scale = 0 then scaled.repr
  else (scaled / 10 ^ scale).repr ++ "." ++ String.ofList (fixedDigits scale (scaled % 10 ^ scale))

/-- `webhook_decimal_amount`: `round(base_units / power(10, decimals), decimals)`. -/
def webhookDecimalAmount (baseUnits decimals : ℕ) : String :=
  numericText ((baseUnits / 10 ^ decimals * 10 ^ decimals + 1 / 2 : ℚ).floor.toNat) decimals

example : webhookDecimalAmount 10500000 6 = "10.500000" := by decide +kernel

lemma fixedDigits_zero (width : ℕ) : fixedDigits width 0 = List.replicate width '0' := by
  induction width with
  | zero => rfl
  | succ width ih =>
    rw [fixedDigits, Nat.zero_div, ih, List.replicate_succ']
    rfl

/-- Padding the digits of a number that fits is writing so many digits. -/
lemma padLeft_toDigits {width n : ℕ} (hwidth : 0 < width) (h : n < 10 ^ width) :
    padLeft width (Nat.toDigits 10 n) = fixedDigits width n := by
  induction width generalizing n with
  | zero => exact absurd hwidth (lt_irrefl 0)
  | succ width ih =>
    rcases Nat.lt_or_ge n 10 with hsmall | hlarge
    · rw [Nat.toDigits_of_lt_base hsmall, fixedDigits, Nat.div_eq_of_lt hsmall, fixedDigits_zero,
        Nat.mod_eq_of_lt hsmall]
      rfl
    · have hpos : 0 < n / 10 := Nat.div_pos hlarge (by norm_num)
      have hfits : n / 10 < 10 ^ width := by
        rw [Nat.div_lt_iff_lt_mul (by norm_num), ← Nat.pow_succ]
        exact h
      have hwidth' : 0 < width := by
        rcases Nat.eq_zero_or_pos width with rfl | hpos'
        · omega
        · exact hpos'
      have hdigits : Nat.toDigits 10 n = Nat.toDigits 10 (n / 10) ++ [(n % 10).digitChar] := by
        conv_lhs => rw [← Nat.div_add_mod n 10]
        rw [← Nat.toDigits_append_toDigits (by norm_num) hpos (Nat.mod_lt n (by norm_num)),
          Nat.toDigits_of_lt_base (Nat.mod_lt n (by norm_num))]
      rw [fixedDigits, ← ih hwidth' hfits, hdigits, padLeft, padLeft, List.length_append,
        List.length_singleton, Nat.add_sub_add_right, List.append_assoc]

/-- The two decimal amounts. -/
lemma webhookDecimalAmount_eq {decimals : ℕ} (h : 0 < decimals) (units : ℕ) :
    webhookDecimalAmount units decimals = formatUnits units decimals := by
  have hround : ((units / 10 ^ decimals * 10 ^ decimals + 1 / 2 : ℚ)).floor.toNat = units := by
    have hexact : (units / 10 ^ decimals * 10 ^ decimals : ℚ) = units :=
      div_mul_cancel₀ _ (by positivity)
    rw [hexact]
    have hfloor : (units + 1 / 2 : ℚ).floor = (units : ℤ) := by
      show ⌊(units + 1 / 2 : ℚ)⌋ = (units : ℤ)
      rw [Int.floor_eq_iff]
      constructor
      · push_cast
        linarith
      · push_cast
        linarith
    rw [hfloor]
    exact Int.toNat_natCast units
  have hfits : units % 10 ^ decimals < 10 ^ decimals := Nat.mod_lt _ (by positivity)
  rw [webhookDecimalAmount, hround, numericText, if_neg h.ne', formatUnits, padded,
    padLeft_toDigits h hfits]

/-! ### The row -/

def currencyCode : Currency → String
  | .usdc => "USDC"
  | .usdt => "USDT"

def currencyDecimals : Currency → ℕ
  | .usdc | .usdt => 6

def issuerName : Currency → String
  | .usdc => "Circle"
  | .usdt => "Tether"

/-- The currency of a code, `USDC` for one that is not known. -/
def currencyOf (code : String) : Currency :=
  if code = currencyCode .usdt then .usdt else .usdc

lemma currencyOf_code (currency : Currency) : currencyOf (currencyCode currency) = currency := by
  cases currency <;> decide

/-- A row of `invoices`: the columns of the life cycle and those that only the objects show. -/
structure Row (Json : Type) where
  life : Invoice
  customerId : Option ℕ
  issuerId : Option String
  heading : Option String
  reference : Option String
  metadata : Json
  tokenDecimals : ℕ
  walletBoundAt : Option Time
  createdAt : Time
  issuanceSnapshot : CanonicalIssuanceSnapshot
  /-- Taken from the rows as they are issued: `CreateInvoiceInput::from_invoice` writes these columns
  from the snapshot, and no statement changes them. -/
  heading_eq : issuanceSnapshot.heading = heading
  reference_eq : issuanceSnapshot.reference = reference
  verification_eq : issuanceSnapshot.payerVerification =
    ⟨life.expectedEmail, life.payerReference, life.walletAttestationRequired⟩
  currency_eq : issuanceSnapshot.currency = currencyCode life.currency
  decimals_eq : tokenDecimals = currencyDecimals life.currency
  /-- `invoices_payment_address_length` and `invoices_payer_wallet_length`. -/
  address_lt : ∀ binding, life.binding = some binding → binding.paymentAddress < 2 ^ (8 * 20)
  wallet_lt : ∀ binding wallet, life.binding = some binding → binding.payerWallet = some wallet →
    wallet < 2 ^ (8 * 20)
  /-- `invoices_wallet_evidence_complete`. -/
  wallet_complete : walletBoundAt.isSome = (life.binding.bind (·.payerWallet)).isSome

/-! ### The object -/

/-- A member of a JSON object that may be left out. -/
inductive Member (α : Type)
  | absent
  | null
  | value (a : α)
deriving DecidableEq, Repr

namespace Member

variable {α : Type}

/-- A member that is null when there is nothing. -/
def orNull : Option α → Member α
  | none => .null
  | some a => .value a

/-- A member that is left out when there is nothing. -/
def orAbsent : Option α → Member α
  | none => .absent
  | some a => .value a

/-- What a reader finds under the name. -/
def read : Member α → Option α
  | .value a => some a
  | _ => none

@[simp] lemma read_orNull (a : Option α) : (orNull a).read = a := by cases a <;> rfl

@[simp] lemma read_orAbsent (a : Option α) : (orAbsent a).read = a := by cases a <;> rfl

lemma orNull_eq_orAbsent {a b : Option α} : orNull a = orAbsent b ↔ a = b ∧ a.isSome := by
  cases a <;> cases b <;> simp [orNull, orAbsent]

end Member

structure VerificationObject where
  email : Member String
  merchantAuth : Member String
  walletAttestation : Bool
deriving DecidableEq, Repr

structure AttentionDto where
  code : String
  message : String
  action : String
deriving DecidableEq, Repr

/-- The fields that the payload shares with the API's object. -/
structure DepositRequestObject (Json : Type) where
  id : String
  status : Option String
  currency : String
  amount : String
  amountBaseUnits : String
  received : String
  receivedBaseUnits : String
  heading : Option String
  reference : Option String
  metadata : Json
  customerId : Option String
  issuerId : Option String
  verification : VerificationObject
  verificationCompletedAt : Option String
  likelyUnsolicitedAt : Option String
  payerWallet : Option String
  address : Option String
  walletBoundAt : Option String
  readyAt : Option String
  expiresAt : Option String
  createdAt : Option String
  attention : Member AttentionDto

/-- `webhook_public_status`. -/
def webhookPublicStatus (status : InvoiceStatus) (confirmedReceived : String)
    (attentionReason : Option String) : Option String :=
  if attentionReason.isSome then some "needs_attention"
  else match status with
    | .created =>
      if confirmedReceived = "0" then some "awaiting_deposit" else some "partially_deposited"
    | .funded => some "deposited"
    | .fulfilled => some "settled"
    | .expired => some "expired"
    | .recovered => some "returned"

/-- The explanation the trigger writes for every attention reason. -/
def webhookAttention (code : String) : AttentionDto :=
  ⟨code, "Automatic payout requires a manual review. Funds remain safe.",
    "Contact Gum support and provide the deposit request ID."⟩

/-- `attention`: the API's explanation. -/
def attention (code : String) (currency : Currency) : AttentionDto :=
  if code = "beneficiary_blacklisted" then
    ⟨code, issuerName currency ++ " has blacklisted the payout address.",
      "Contact support to provide a compliant payout address."⟩
  else if code = "recovery_blacklisted" then
    ⟨code, "The payer's wallet, where excess funds return, is restricted by " ++
        issuerName currency ++ ", the " ++ currencyCode currency ++ " issuer.",
      "Contact Gum support with the deposit request ID; the payer may need to be contacted."⟩
  else if code = "payment_address_blacklisted" then
    ⟨code, issuerName currency ++ " has blacklisted the deposit address.",
      "Contact support; do not send additional funds."⟩
  else if code = "balance_below_amount" then
    ⟨code, "The deposit address balance is lower than the confirmed amount.",
      "Contact support so Gum can investigate safely."⟩
  else
    ⟨code, "Automatic settlement has paused.",
      "Funds remain safe at the deposit address; contact support."⟩

/-- No explanation of the API is the trigger's. -/
lemma webhookAttention_ne (code code' : String) (currency : Currency) :
    webhookAttention code ≠ attention code' currency := by
  intro h
  have haction := congrArg AttentionDto.action h
  simp only [webhookAttention, attention] at haction
  split_ifs at haction <;> simp at haction

namespace Row

variable {Json : Type} (row : Row Json)

/-- `webhook_deposit_request_object`. -/
def webhookDepositRequestObject : DepositRequestObject Json where
  id := "dr_" ++ uuidText row.life.id
  status := webhookPublicStatus row.life.status row.life.confirmedReceived.repr
    row.life.attentionReason
  currency := currencyCode row.life.currency
  amount := webhookDecimalAmount row.life.amount row.tokenDecimals
  amountBaseUnits := row.life.amount.repr
  received := webhookDecimalAmount row.life.confirmedReceived row.tokenDecimals
  receivedBaseUnits := row.life.confirmedReceived.repr
  heading := row.heading
  reference := row.reference
  metadata := row.metadata
  customerId := row.customerId.map fun id => "cus_" ++ uuidText id
  issuerId := row.issuerId
  verification := ⟨.orNull row.life.expectedEmail, .orNull row.life.payerReference,
    row.life.walletAttestationRequired⟩
  verificationCompletedAt := webhookRfc3339 row.life.verificationCompletedAt
  likelyUnsolicitedAt := webhookRfc3339 (row.life.likelyUnsolicitedAt.map blockTime)
  payerWallet := (row.life.binding.bind (·.payerWallet)).map (fixedText 20)
  address := row.life.binding.map fun binding => fixedText 20 binding.paymentAddress
  walletBoundAt := webhookRfc3339 row.walletBoundAt
  readyAt := webhookRfc3339 (row.life.binding.map (·.readyAt))
  expiresAt := webhookRfc3339 (some (blockTime row.life.expirationTimestamp))
  createdAt := webhookRfc3339 (some row.createdAt)
  attention := .absent

variable (toChecksum : Address → String)

/-- One field of `checksum_addresses`: a text that is no address is left. -/
def checksumAddress (text : String) : String :=
  match parseFixed 20 text with
  | some address => toChecksum address
  | none => text

/-- The object of an event as it is delivered. -/
def delivered (event : WebhookEvent) : DepositRequestObject Json :=
  let rendered := row.webhookDepositRequestObject
  { rendered with
    attention := .orAbsent (event.attention.map webhookAttention)
    payerWallet := rendered.payerWallet.map (checksumAddress toChecksum)
    address := rendered.address.map (checksumAddress toChecksum) }

/-- `from_invoice` and `enrich_response`. -/
def response : DepositRequestObject Json :=
  let currency := currencyOf row.issuanceSnapshot.currency
  let human := fun units => formatUnits units (currencyDecimals currency)
  let payerWallet := row.life.binding.bind (·.payerWallet)
  { id := "dr_" ++ uuidText row.life.id
    status := some (Api.paymentStatus row.life).asStr
    currency := currencyCode currency
    amount := human row.life.amount
    amountBaseUnits := row.life.amount.repr
    received := human row.life.confirmedReceived
    receivedBaseUnits := row.life.confirmedReceived.repr
    heading := row.issuanceSnapshot.heading
    reference := row.issuanceSnapshot.reference
    metadata := row.metadata
    customerId := row.customerId.map fun id => "cus_" ++ uuidText id
    issuerId := row.issuerId
    verification := ⟨.orAbsent row.issuanceSnapshot.payerVerification.email,
      .orAbsent row.issuanceSnapshot.payerVerification.merchantAuth,
      row.issuanceSnapshot.payerVerification.walletAttestation⟩
    verificationCompletedAt := row.life.verificationCompletedAt.map rfc3339
    likelyUnsolicitedAt := row.life.likelyUnsolicitedAt.map fun time => rfc3339 (blockTime time)
    payerWallet := payerWallet.map toChecksum
    address := row.life.binding.map fun binding => toChecksum binding.paymentAddress
    walletBoundAt := payerWallet.bind fun _ => row.walletBoundAt.map rfc3339
    readyAt := row.life.binding.map fun binding => rfc3339 binding.readyAt
    expiresAt := some (rfc3339 (blockTime row.life.expirationTimestamp))
    createdAt := some (rfc3339 row.createdAt)
    attention := .orNull (row.life.attentionReason.map fun code => attention code currency) }

end Row

/-! ### Agreement -/

/-- The verification add-ons as a reader finds them. -/
def VerificationObject.read (verification : VerificationObject) :
    Option String × Option String × Bool :=
  (verification.email.read, verification.merchantAuth.read, verification.walletAttestation)

/-- Each field of the first object has its value in the second; the explanation of an attention
reason is compared when the first has one. -/
structure DepositRequestObject.AgreesWith {Json : Type} (object other : DepositRequestObject Json) :
    Prop where
  id : object.id = other.id
  status : object.status = other.status
  currency : object.currency = other.currency
  amount : object.amount = other.amount
  amountBaseUnits : object.amountBaseUnits = other.amountBaseUnits
  received : object.received = other.received
  receivedBaseUnits : object.receivedBaseUnits = other.receivedBaseUnits
  heading : object.heading = other.heading
  reference : object.reference = other.reference
  metadata : object.metadata = other.metadata
  customerId : object.customerId = other.customerId
  issuerId : object.issuerId = other.issuerId
  verification : object.verification.read = other.verification.read
  verificationCompletedAt : object.verificationCompletedAt = other.verificationCompletedAt
  likelyUnsolicitedAt : object.likelyUnsolicitedAt = other.likelyUnsolicitedAt
  payerWallet : object.payerWallet = other.payerWallet
  address : object.address = other.address
  walletBoundAt : object.walletBoundAt = other.walletBoundAt
  readyAt : object.readyAt = other.readyAt
  expiresAt : object.expiresAt = other.expiresAt
  createdAt : object.createdAt = other.createdAt
  attention : object.attention = .absent ∨ object.attention = other.attention

lemma webhookPublicStatus_eq (inv : Invoice) :
    webhookPublicStatus inv.status inv.confirmedReceived.repr inv.attentionReason =
      some (Api.paymentStatus inv).asStr := by
  have hzero : inv.confirmedReceived.repr = "0" ↔ inv.confirmedReceived = 0 :=
    Nat.repr_inj (n := 0)
  unfold webhookPublicStatus Api.paymentStatus
  by_cases hattention : inv.attentionReason.isSome
  · simp [hattention, Api.DepositRequestStatus.asStr]
  · rcases inv.status with _ | _ | _ | _ | _
    · by_cases hreceived : inv.confirmedReceived = 0
      · rw [hzero.2 hreceived]
        simp [hattention, hreceived, Api.DepositRequestStatus.asStr]
      · simp [hattention, mt hzero.1 hreceived, hreceived, Api.DepositRequestStatus.asStr]
    all_goals simp [hattention, Api.DepositRequestStatus.asStr]

/-- The worker's form of an address of the database. -/
lemma checksumAddress_fixedText (toChecksum : Address → String) {address : Address}
    (h : address < 2 ^ (8 * 20)) :
    Row.checksumAddress toChecksum (fixedText 20 address) = toChecksum address := by
  rw [Row.checksumAddress, parseFixed_fixedText h]

namespace Row

variable {Json : Type} (row : Row Json) (toChecksum : Address → String) (event : WebhookEvent)

/-- All the fields but the attention agree. -/
lemma delivered_agreesWith_iff : (row.delivered toChecksum event).AgreesWith
      (row.response toChecksum) ↔
    event.attention = none := by
  have hcurrency : currencyOf row.issuanceSnapshot.currency = row.life.currency := by
    rw [row.currency_eq, currencyOf_code]
  have hdecimals : 0 < currencyDecimals row.life.currency := by
    cases row.life.currency <;> decide
  have hamount : ∀ units, webhookDecimalAmount units row.tokenDecimals =
      formatUnits units (currencyDecimals (currencyOf row.issuanceSnapshot.currency)) := by
    intro units
    rw [row.decimals_eq, hcurrency, webhookDecimalAmount_eq hdecimals]
  have haddress : (row.life.binding.map fun binding => fixedText 20 binding.paymentAddress).map
      (checksumAddress toChecksum) =
        row.life.binding.map fun binding => toChecksum binding.paymentAddress := by
    rcases hbinding : row.life.binding with _ | binding
    · rfl
    · exact congrArg some (checksumAddress_fixedText toChecksum (row.address_lt binding hbinding))
  have hwallet : ((row.life.binding.bind (·.payerWallet)).map (fixedText 20)).map
      (checksumAddress toChecksum) = (row.life.binding.bind (·.payerWallet)).map toChecksum := by
    rcases hbinding : row.life.binding with _ | binding
    · rfl
    · rcases hpayer : binding.payerWallet with _ | wallet
      · simp [hpayer]
      · simp only [Option.bind_some, hpayer, Option.map_some]
        rw [checksumAddress_fixedText toChecksum (row.wallet_lt binding wallet hbinding hpayer)]
  have hbound : webhookRfc3339 row.walletBoundAt =
      (row.life.binding.bind (·.payerWallet)).bind fun _ => row.walletBoundAt.map rfc3339 := by
    have hcomplete := row.wallet_complete
    rcases hpayer : row.life.binding.bind (·.payerWallet) with _ | wallet
    · rw [hpayer] at hcomplete
      rw [Option.isSome_none, Option.isSome_eq_false_iff, Option.isNone_iff_eq_none] at hcomplete
      rw [hcomplete]
      rfl
    · rfl
  constructor
  · intro h
    rcases hcode : event.attention with _ | code
    · rfl
    · exfalso
      have hattention := h.attention
      simp only [delivered, response, hcode, Option.map_some, Member.orAbsent] at hattention
      rcases hreason : row.life.attentionReason with _ | reason
      · simp [hreason, Member.orNull] at hattention
      · simp [hreason, Member.orNull, webhookAttention_ne] at hattention
  · intro hnone
    refine ⟨rfl, webhookPublicStatus_eq row.life, ?_, hamount _, rfl, hamount _, rfl,
      row.heading_eq.symm, row.reference_eq.symm, rfl, rfl, rfl, ?_, ?_, ?_, hwallet, haddress,
      hbound, ?_, rfl, rfl, Or.inl ?_⟩
    · exact congrArg currencyCode hcurrency.symm
    · simp [delivered, response, webhookDepositRequestObject, VerificationObject.read,
        row.verification_eq]
    · rfl
    · simp [delivered, response, webhookDepositRequestObject, webhookRfc3339, rfc3339,
        Option.map_map, Function.comp_def]
    · simp [delivered, response, webhookDepositRequestObject, webhookRfc3339, rfc3339,
        Option.map_map, Function.comp_def]
    · simp [delivered, hnone, Member.orAbsent]

/-- An add-on that is not attached is null in the payload and left out by the API. -/
lemma verification_eq_iff : (row.delivered toChecksum event).verification =
      (row.response toChecksum).verification ↔
    row.life.expectedEmail.isSome ∧ row.life.payerReference.isSome := by
  simp only [delivered, response, webhookDepositRequestObject, row.verification_eq,
    VerificationObject.mk.injEq, Member.orNull_eq_orAbsent, true_and, and_true]

end Row

/-! ### The events of a run -/

/-- An event explains the attention reason of its request when it is about it. -/
def WebhookEvent.Explained (e : WebhookEvent) : Prop :=
  ∀ inv, e.depositRequest = some inv → (e.attention = none ↔ e.eventType ≠ .needsAttention)

section

variable {accountOf : InvoiceId → ℕ} {now : Time}

lemma enqueuePaymentWebhook_attention {old : Option Invoice} {new : Invoice} {c : Call}
    (h : c ∈ enqueuePaymentWebhook old new) :
    c.attention = none ↔ c.eventType ≠ .needsAttention := by
  simp only [enqueuePaymentWebhook, List.mem_append, List.mem_map, List.mem_ite_nil_right,
    List.mem_singleton] at h
  rcases h with ((⟨kind, hkind, rfl⟩ | ⟨-, rfl⟩) | ⟨-, rfl⟩) | ⟨-, rfl⟩
  · have hpicked := Option.mem_toList.1 hkind
    unfold lifecycleKind at hpicked
    split at hpicked
    · by_cases hflagged : newlyFlagged old new = true
      · rw [if_pos hflagged] at hpicked
        cases hpicked
        have hsome : new.attentionReason ≠ none := by
          rw [newlyFlagged, Bool.and_eq_true] at hflagged
          exact Option.isSome_iff_ne_none.1 hflagged.1
        simp [hflagged, hsome]
      · rw [if_neg hflagged] at hpicked
        have hne : kind ≠ .needsAttention := by
          rintro rfl
          rcases hstatus : new.status with _ | _ | _ | _ | _ <;> rw [hstatus] at hpicked <;>
            cases hpicked
        simp [hflagged, hne]
    · cases hpicked
  all_goals simp

lemma updateCalls_attention {row : Invoice} {ws : List Write} {c : Call}
    (h : c ∈ updateCalls now row ws) : c.attention = none ↔ c.eventType ≠ .needsAttention := by
  induction ws generalizing row with
  | nil => cases h
  | cons w rest ih =>
    rcases List.mem_append.1 h with hfirst | hrest
    · exact enqueuePaymentWebhook_attention hfirst
    · exact ih hrest

lemma calls_attention {L : Ledger} {op : Op} {c : Call} (h : c ∈ calls L now op) :
    c.attention = none ↔ c.eventType ≠ .needsAttention := by
  rcases List.mem_append.1 h with hrow | hissued
  · obtain ⟨row, -, hc⟩ := List.mem_flatMap.1 hrow
    rcases List.mem_append.1 hc with hupdate | hrecovery
    · exact updateCalls_attention hupdate
    · obtain ⟨r, -, rfl⟩ := List.mem_map.1 hrecovery
      simp [enqueueRecoveredFundsWebhook]
  · obtain ⟨row, -, hc⟩ := List.mem_flatMap.1 hissued
    exact enqueuePaymentWebhook_attention hc

lemma State.act_explained {s : State} (hs : Accounts s) (he : ∀ e ∈ s.events, e.Explained)
    (action : Action) : ∀ e ∈ (s.act accountOf now action).events, e.Explained := by
  cases action with
  | transact op =>
    obtain ⟨t, ht, hact⟩ := enqueued_transact accountOf now hs.wellFormed op
    obtain ⟨new, hnew, hall⟩ := ht.events
    rw [hact]
    show ∀ e ∈ t.events, e.Explained
    rw [hnew]
    intro e hmem
    rcases List.mem_append.1 hmem with hold | hadded
    · exact he e hold
    · obtain ⟨-, c, hc, -, -, hkind, -, hattention, -⟩ := hall e hadded
      intro inv _
      rw [hkind, hattention]
      exact calls_attention hc
  | addEndpoint endpoint => exact he
  | disable account endpoint => exact he
  | testEvent account endpoint =>
    simp only [act, testEvent]
    split
    · intro e hmem
      rcases List.mem_append.1 hmem with hold | hadded
      · exact he e hold
      · rw [List.mem_singleton.1 hadded]
        rintro inv ⟨⟩
    · exact he

lemma State.run_explained (actions : List (Time × Action)) :
    ∀ e ∈ (State.empty.runActions accountOf actions).events, e.Explained := by
  induction actions using List.reverseRecOn with
  | nil => exact fun e he => absurd he List.not_mem_nil
  | append_singleton rest last ih =>
    rw [runActions, List.foldl_append]
    exact act_explained (Accounts.empty.run accountOf rest).1 ih last.2

end

/-- For every event that a run of the ledger writes and every row it was rendered from, the fields
that the payload shares with the API's object agree with it unless the event is
`deposit_request.needs_attention`, which explains the reason in other words than the API.  The
verification add-ons are compared as they read: an add-on that is not attached is null in the
payload, and left out by the API. -/
theorem webhook_payload_agrees_iff {Json : Type} (toChecksum : Address → String)
    (accountOf : InvoiceId → ℕ) (actions : List (Time × Action)) {e : WebhookEvent}
    (he : e ∈ (State.empty.runActions accountOf actions).events) (row : Row Json)
    (hrow : e.depositRequest = some row.life) :
    ((row.delivered toChecksum e).AgreesWith (row.response toChecksum) ↔
      e.eventType ≠ .needsAttention) ∧
    ((row.delivered toChecksum e).verification = (row.response toChecksum).verification ↔
      row.life.expectedEmail.isSome ∧ row.life.payerReference.isSome) := by
  refine ⟨?_, row.verification_eq_iff toChecksum e⟩
  rw [row.delivered_agreesWith_iff toChecksum e]
  exact State.run_explained actions e he row.life hrow

/-- A request for one dollar on one network, with its address. -/
def pinnedRequest : IssuedRequest where
  id := 1
  currency := .usdc
  beneficiary := 7
  recovery := 8
  amount := 1000000
  amount_pos := by decide
  expirationTimestamp := 1788350220
  walletAttestationRequired := false
  expectedEmail := none
  payerReference := none
  initialBinding := some ⟨143, 5, 6, 9, 4660, 1788263820000000, none⟩

/-- Its row, with an attention reason or without. -/
def pinnedRow (attentionReason : Option String) (now : Time) : Row Unit where
  life := { pinnedRequest.row now with attentionReason := attentionReason }
  customerId := none
  issuerId := none
  heading := none
  reference := none
  metadata := ()
  tokenDecimals := 6
  walletBoundAt := none
  createdAt := 1788263820000000
  issuanceSnapshot := ⟨"", "", ⟨"", none, none⟩, ⟨"", none, none⟩, "USDC", "6", "1000000", none, none,
    none, "1788350220", ⟨none, none, false⟩, none, [], "", ""⟩
  heading_eq := rfl
  reference_eq := rfl
  verification_eq := rfl
  currency_eq := rfl
  decimals_eq := rfl
  address_lt := by
    rintro binding ⟨rfl⟩
    decide
  wallet_lt := by
    rintro binding wallet ⟨rfl⟩ ⟨⟩
  wallet_complete := rfl

/-- The request is issued, and automation stops for it. -/
def pinnedRun : List (Time × Action) :=
  [(1788263820000000, .transact (.insertIssued pinnedRequest)),
    (1788263830000000, .transact (.flagAttention 1 "balance_below_amount"))]

def pinnedReady : WebhookEvent :=
  ⟨0, 3, some 1, .ready, 1788263820000000, some (pinnedRow none 1788263820000000).life, none, none,
    true⟩

def pinnedAttention : WebhookEvent :=
  ⟨1, 3, some 1, .needsAttention, 1788263830000000,
    some (pinnedRow (some "balance_below_amount") 1788263830000000).life,
    some "balance_below_amount", none, true⟩

lemma pinnedRun_events :
    (State.empty.runActions (fun _ => 3) pinnedRun).events = [pinnedReady, pinnedAttention] := by
  decide +kernel

theorem webhook_payload_agrees_iff_ready :
    pinnedReady ∈ (State.empty.runActions (fun _ => 3) pinnedRun).events ∧
      ((pinnedRow none 1788263820000000).delivered (fixedText 20) pinnedReady).AgreesWith
        ((pinnedRow none 1788263820000000).response (fixedText 20)) := by
  have hmem : pinnedReady ∈ (State.empty.runActions (fun _ => 3) pinnedRun).events := by
    rw [pinnedRun_events]
    exact List.mem_cons_self ..
  have hiff := (webhook_payload_agrees_iff (fixedText 20) (fun _ => 3) pinnedRun hmem
    (pinnedRow none 1788263820000000) rfl).1
  exact ⟨hmem, hiff.2 (by decide)⟩

/-- The API says that the balance is below the amount, the event that a review is required. -/
theorem attention_event_explains_otherwise :
    pinnedAttention ∈ (State.empty.runActions (fun _ => 3) pinnedRun).events ∧
      pinnedAttention.depositRequest =
        some (pinnedRow (some "balance_below_amount") 1788263830000000).life ∧
      ¬ ((pinnedRow (some "balance_below_amount") 1788263830000000).delivered (fixedText 20)
        pinnedAttention).AgreesWith
          ((pinnedRow (some "balance_below_amount") 1788263830000000).response (fixedText 20)) := by
  refine ⟨?_, rfl, ?_⟩
  · rw [pinnedRun_events]
    exact List.mem_cons_of_mem _ (List.mem_singleton_self _)
  · rw [Row.delivered_agreesWith_iff]
    decide

end Payday.Webhooks
