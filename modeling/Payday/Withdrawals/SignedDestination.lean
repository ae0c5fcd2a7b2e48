/-
# A signature pays one destination

The digest that a wallet signs for a leg commits to every field of the message and to the token, and
a bridge leg's nonce commits to the destination.  So whatever registry the server has when it builds
the call, a call that the token takes with this signature does what was signed.
-/
import Mathlib.Data.Set.Function
import Payday.Withdrawals.Authorizations
import Payday.Withdrawals.MovedMoney

namespace Payday.Withdrawals

open Signers (WithdrawalStepKind WithdrawalStepCommand Calldata)
open Proofs (utf8)

/-! ### Words -/

@[simp] lemma length_abiWord (n : ℕ) : (abiWord n).length = 32 := length_toBE 32 n

lemma ofBE_abiWord {n : ℕ} (h : n < 2 ^ 256) : ofBE (abiWord n) = n :=
  ofBE_toBE (lt_of_lt_of_eq h (by decide))

lemma abiWord_inj {m n : ℕ} (hm : m < 2 ^ 256) (hn : n < 2 ^ 256) (h : abiWord m = abiWord n) : m = n := by
  rw [← ofBE_abiWord hm, ← ofBE_abiWord hn, h]

lemma address_lt_word {a : Address} (h : a < 2 ^ 160) : a < 2 ^ 256 := lt_trans h (by decide)

lemma length_flatMap_abiWord (ws : List ℕ) : (ws.flatMap abiWord).length = 32 * ws.length := by
  induction ws with
  | nil => rfl
  | cons w ws ih =>
    rw [List.flatMap_cons, List.length_append, ih, List.length_cons, length_abiWord]
    omega

lemma words_lt_nil : ∀ w ∈ ([] : List ℕ), w < 2 ^ 256 := fun _ h => nomatch h

lemma words_lt_cons {w : ℕ} {ws : List ℕ} (h : w < 2 ^ 256) (hws : ∀ w ∈ ws, w < 2 ^ 256) :
    ∀ v ∈ w :: ws, v < 2 ^ 256 := List.forall_mem_cons.2 ⟨h, hws⟩

/-- Words that stand one after the other can be told apart. -/
lemma flatMap_abiWord_inj {ms ns : List ℕ} (h : ms.flatMap abiWord = ns.flatMap abiWord)
    (hlength : ms.length = ns.length) (hms : ∀ m ∈ ms, m < 2 ^ 256) (hns : ∀ n ∈ ns, n < 2 ^ 256) :
    ms = ns := by
  induction ms generalizing ns with
  | nil => exact (List.length_eq_zero_iff.1 hlength.symm).symm
  | cons m ms ih =>
    obtain _ | ⟨n, ns⟩ := ns
    · cases hlength
    rw [List.flatMap_cons, List.flatMap_cons] at h
    obtain ⟨hhead, htail⟩ := List.append_inj h (by simp)
    rw [abiWord_inj (hms m (List.mem_cons_self ..)) (hns n (List.mem_cons_self ..)) hhead,
      ih htail (Nat.succ.inj hlength) (fun k hk => hms k (List.mem_cons_of_mem _ hk))
        fun k hk => hns k (List.mem_cons_of_mem _ hk)]

lemma drop_flatMap_abiWord (ws : List ℕ) (tail : List UInt8) (i : ℕ) (h : i ≤ ws.length) :
    (ws.flatMap abiWord ++ tail).drop (32 * i) = (ws.drop i).flatMap abiWord ++ tail := by
  induction i generalizing ws with
  | zero => rfl
  | succ i ih =>
    obtain _ | ⟨w, ws⟩ := ws
    · cases h
    rw [List.flatMap_cons, List.append_assoc, Nat.mul_succ, Nat.add_comm, ← List.drop_drop,
      List.drop_left' (length_abiWord w), List.drop_succ_cons]
    exact ih ws (Nat.le_of_succ_le_succ h)

/-- Calldata: a selector, words, and what the dynamic arguments add. -/
lemma argumentWord_eq {selector tail : List UInt8} {ws : List ℕ} (hselector : selector.length = 4) {i : ℕ}
    (hi : i < ws.length) (hlt : ws[i] < 2 ^ 256) :
    argumentWord (selector ++ ws.flatMap abiWord ++ tail) i = ws[i] := by
  rw [argumentWord, List.append_assoc, ← List.drop_drop, List.drop_left' hselector,
    drop_flatMap_abiWord ws tail i hi.le, List.drop_eq_getElem_cons hi, List.flatMap_cons,
    List.append_assoc, List.take_left' (length_abiWord _), ofBE_abiWord hlt]

lemma argumentBytes_eq (selector : List UInt8) (ws : List ℕ) {bytes : List UInt8} (hselector : selector.length = 4) {i : ℕ}
    (hi : i < ws.length) (hoffset : ws[i] = 32 * ws.length) (hws : ws.length < 2 ^ 32)
    (hbytes : bytes.length < 2 ^ 64) :
    argumentBytes (selector ++ ws.flatMap abiWord ++ abiBytes bytes) i = some bytes := by
  have hword : argumentWord (selector ++ ws.flatMap abiWord ++ abiBytes bytes) i = 32 * ws.length := by
    rw [argumentWord_eq hselector hi (by omega), hoffset]
  have htail : (selector ++ ws.flatMap abiWord ++ abiBytes bytes).drop (4 + 32 * ws.length) =
      abiBytes bytes := by
    rw [List.append_assoc, ← List.drop_drop, List.drop_left' hselector,
      drop_flatMap_abiWord ws _ ws.length le_rfl, List.drop_length, List.flatMap_nil, List.nil_append]
  have hhead : ofBE ((abiBytes bytes).take 32) = bytes.length := by
    rw [abiBytes, List.append_assoc, List.take_left' (length_abiWord _), ofBE_abiWord (by omega)]
  have hrest : ((abiBytes bytes).drop 32).take bytes.length = bytes := by
    rw [abiBytes, List.append_assoc, List.drop_left' (length_abiWord _), List.take_left' rfl]
  have hlong : 32 + bytes.length ≤ (abiBytes bytes).length := by simp [abiBytes]
  have hsmall : 32 * ws.length < 2 ^ 64 := by omega
  have hfits : bytes.length ≤ (abiBytes bytes).length - 32 := by omega
  simp only [argumentBytes, hword, htail, hhead, hrest]
  exact if_pos ⟨hsmall, by omega, hbytes, hfits⟩

/-- The token reads the call that the orchestrator encoded. -/
lemma decodeTransfer_abiEncode {m : Eip3009} (hm : m.InRange) (hkind : m.kind = .transfer)
    {signature : List UInt8} (hsignature : signature.length < 2 ^ 64) :
    decodeTransfer (StepCall.transferWithAuthorization m.payer m.payee m.value m.validAfter m.validBefore
      m.nonce signature).abiEncode = some (m, signature) := by
  let ws := [m.payer, m.payee, m.value, m.validAfter, m.validBefore, m.nonce, 224]
  have hcall : (StepCall.transferWithAuthorization m.payer m.payee m.value m.validAfter m.validBefore
      m.nonce signature).abiEncode = [0xcf, 0x09, 0x29, 0x95] ++ ws.flatMap abiWord ++ abiBytes signature := by
    simp [StepCall.abiEncode, ws, List.append_assoc]
  have hword : ∀ i (hi : i < ws.length), ws[i] < 2 ^ 256 →
      argumentWord ([0xcf, 0x09, 0x29, 0x95] ++ ws.flatMap abiWord ++ abiBytes signature) i = ws[i] :=
    fun i hi hlt => argumentWord_eq rfl hi hlt
  have h0 := hword 0 (by simp [ws]) (address_lt_word hm.payer)
  have h1 := hword 1 (by simp [ws]) (address_lt_word hm.payee)
  have h2 := hword 2 (by simp [ws]) hm.value
  have h3 := hword 3 (by simp [ws]) hm.validAfter
  have h4 := hword 4 (by simp [ws]) hm.validBefore
  have h5 := hword 5 (by simp [ws]) hm.nonce
  have hbytes := argumentBytes_eq [0xcf, 0x09, 0x29, 0x95] ws (i := 6) rfl (by simp [ws]) rfl
    (by simp [ws]) hsignature
  rw [hcall, decodeTransfer]
  simp only [h0, h1, h2, h3, h4, h5, hbytes]
  rw [if_pos]
  · simp only [ws, Option.map_some, List.getElem_cons_zero, List.getElem_cons_succ, ← hkind]
  · refine ⟨rfl, ?_, hm.payer, hm.payee⟩
    simp only [List.length_append, length_flatMap_abiWord, List.length_cons, List.length_nil, ws]
    omega

/-- The arguments are values of the function's types. -/
structure BridgeArguments.InRange (args : BridgeArguments) : Prop where
  token : args.token < 2 ^ 160
  payer : args.payer < 2 ^ 160
  value : args.value < 2 ^ 256
  destinationDomain : args.destinationDomain < 2 ^ 32
  mintRecipient : args.mintRecipient < 2 ^ 256
  salt : args.salt < 2 ^ 256
  validBefore : args.validBefore < 2 ^ 256

/-- The forwarder reads the call that the orchestrator encoded. -/
lemma decodeBridge_abiEncode {args : BridgeArguments} (hargs : args.InRange)
    (hsignature : args.signature.length < 2 ^ 64) :
    decodeBridge (StepCall.bridge args.token args.payer args.value args.destinationDomain
      args.mintRecipient args.salt args.validBefore args.signature).abiEncode = some args := by
  let ws := [args.token, args.payer, args.value, args.destinationDomain, args.mintRecipient, args.salt,
    args.validBefore, 256]
  have hcall : (StepCall.bridge args.token args.payer args.value args.destinationDomain
      args.mintRecipient args.salt args.validBefore args.signature).abiEncode =
      [0x54, 0xb7, 0xda, 0xcd] ++ ws.flatMap abiWord ++ abiBytes args.signature := by
    simp [StepCall.abiEncode, ws, List.append_assoc]
  have hword : ∀ i (hi : i < ws.length), ws[i] < 2 ^ 256 →
      argumentWord ([0x54, 0xb7, 0xda, 0xcd] ++ ws.flatMap abiWord ++ abiBytes args.signature) i = ws[i] :=
    fun i hi hlt => argumentWord_eq rfl hi hlt
  have h0 := hword 0 (by simp [ws]) (address_lt_word hargs.token)
  have h1 := hword 1 (by simp [ws]) (address_lt_word hargs.payer)
  have h2 := hword 2 (by simp [ws]) hargs.value
  have h3 := hword 3 (by simp [ws]) (lt_trans hargs.destinationDomain (by decide))
  have h4 := hword 4 (by simp [ws]) hargs.mintRecipient
  have h5 := hword 5 (by simp [ws]) hargs.salt
  have h6 := hword 6 (by simp [ws]) hargs.validBefore
  have hbytes := argumentBytes_eq [0x54, 0xb7, 0xda, 0xcd] ws (i := 7) rfl (by simp [ws]) rfl
    (by simp [ws]) hsignature
  rw [hcall, decodeBridge]
  simp only [h0, h1, h2, h3, h4, h5, h6, hbytes]
  rw [if_pos]
  · simp only [ws, Option.map_some, List.getElem_cons_zero, List.getElem_cons_succ]
  · refine ⟨rfl, ?_, hargs.token, hargs.payer, hargs.destinationDomain⟩
    simp only [List.length_append, length_flatMap_abiWord, List.length_cons, List.length_nil, ws]
    omega

/-! ### What a digest commits to -/

variable {P : Cryptography}

/-- The inputs of the hash when a message is hashed under a domain. -/
def Eip3009.hashed (P : Cryptography) (domain : TokenDomain) (m : Eip3009) : Set (List UInt8) :=
  {m.kind.encodeType, domain.input P, m.input P, m.signingInput P domain}

/-- The domain's numbers are values of their types. -/
def TokenDomain.InRange (domain : TokenDomain) : Prop := domain.chainId < 2 ^ 256 ∧ domain.token < 2 ^ 160

lemma TokenDomain.InRange.words_lt {domain : TokenDomain} (h : domain.InRange) :
    ∀ w ∈ [P.keccak eip712DomainType, P.keccak (utf8 domain.name), P.keccak (utf8 domain.version),
      domain.chainId, domain.token], w < 2 ^ 256 :=
  words_lt_cons (P.keccak_lt _) <| words_lt_cons (P.keccak_lt _) <| words_lt_cons (P.keccak_lt _) <|
    words_lt_cons h.1 <| words_lt_cons (address_lt_word h.2) words_lt_nil

lemma Eip3009.InRange.words_lt {m : Eip3009} (h : m.InRange) :
    ∀ w ∈ [P.keccak m.kind.encodeType, m.payer, m.payee, m.value, m.validAfter, m.validBefore, m.nonce],
      w < 2 ^ 256 :=
  words_lt_cons (P.keccak_lt _) <| words_lt_cons (address_lt_word h.payer) <|
    words_lt_cons (address_lt_word h.payee) <| words_lt_cons h.value <| words_lt_cons h.validAfter <|
    words_lt_cons h.validBefore <| words_lt_cons h.nonce words_lt_nil

lemma AuthorizationKind.encodeType_injective : Function.Injective AuthorizationKind.encodeType := by
  have hne : AuthorizationKind.transfer.encodeType ≠ AuthorizationKind.receive.encodeType := by
    decide +kernel
  intro k k' h
  cases k <;> cases k'
  · rfl
  · exact absurd h hne
  · exact absurd h.symm hne
  · rfl

/-- Without a collision, messages with one digest are one message, for one token. -/
lemma eq_of_digest_eq {domain domain' : TokenDomain} {m m' : Eip3009} (hm : m.InRange) (hm' : m'.InRange)
    (hdomain : domain.InRange) (hdomain' : domain'.InRange)
    (hfree : Set.InjOn P.keccak (m.hashed P domain ∪ m'.hashed P domain'))
    (h : m.digest P domain = m'.digest P domain') :
    m = m' ∧ domain.chainId = domain'.chainId ∧ domain.token = domain'.token := by
  have hsigning : m.signingInput P domain = m'.signingInput P domain' :=
    hfree (by simp [Eip3009.hashed]) (by simp [Eip3009.hashed]) h
  rw [Eip3009.signingInput, Eip3009.signingInput] at hsigning
  obtain ⟨hseparator, hstruct⟩ : domain.separator P = domain'.separator P ∧
      m.structHash P = m'.structHash P := by
    have hwords := List.append_cancel_left hsigning
    have htwo := flatMap_abiWord_inj hwords (by simp)
      (words_lt_cons (P.keccak_lt _) (words_lt_cons (P.keccak_lt _) words_lt_nil))
      (words_lt_cons (P.keccak_lt _) (words_lt_cons (P.keccak_lt _) words_lt_nil))
    exact ⟨(List.cons.inj htwo).1, (List.cons.inj (List.cons.inj htwo).2).1⟩
  have hdomains : domain.input P = domain'.input P :=
    hfree (by simp [Eip3009.hashed]) (by simp [Eip3009.hashed]) hseparator
  have hmessages : m.input P = m'.input P :=
    hfree (by simp [Eip3009.hashed]) (by simp [Eip3009.hashed]) hstruct
  rw [TokenDomain.input, TokenDomain.input] at hdomains
  rw [Eip3009.input, Eip3009.input] at hmessages
  have hfive := flatMap_abiWord_inj hdomains (by simp) hdomain.words_lt hdomain'.words_lt
  have hseven := flatMap_abiWord_inj hmessages (by simp) hm.words_lt hm'.words_lt
  simp only [List.cons.injEq, and_true] at hfive hseven
  obtain ⟨-, -, -, hchain, htoken⟩ := hfive
  obtain ⟨htype, hpayer, hpayee, hvalue, hafter, hbefore, hnonce⟩ := hseven
  have hkind : m.kind = m'.kind := AuthorizationKind.encodeType_injective
    (hfree (by simp [Eip3009.hashed]) (by simp [Eip3009.hashed]) htype)
  refine ⟨?_, hchain, htoken⟩
  cases m
  cases m'
  simp_all

/-- What a bridge leg's nonce hashes. -/
def nonceInput (destinationDomain : ℕ) (mintRecipient salt : Hash) : List UInt8 :=
  abiWord destinationDomain ++ abiWord mintRecipient ++ abiWord salt

/-- Without a collision, destinations with one nonce are one destination. -/
lemma eq_of_bridgeNonce_eq {d d' : ℕ} {r r' s s' : Hash} (hd : d < 2 ^ 32) (hd' : d' < 2 ^ 32)
    (hr : r < 2 ^ 256) (hr' : r' < 2 ^ 256) (hs : s < 2 ^ 256) (hs' : s' < 2 ^ 256)
    (hfree : Set.InjOn P.keccak {nonceInput d r s, nonceInput d' r' s'})
    (h : bridgeNonce P.keccak d r s = bridgeNonce P.keccak d' r' s') : d = d' ∧ r = r' ∧ s = s' := by
  have hinputs : [d, r, s].flatMap abiWord = [d', r', s'].flatMap abiWord := by
    have := hfree (Set.mem_insert ..) (Set.mem_insert_of_mem _ rfl) h
    simpa [nonceInput] using this
  have hthree := flatMap_abiWord_inj hinputs (by simp)
    (words_lt_cons (lt_trans hd (by decide)) (words_lt_cons hr (words_lt_cons hs words_lt_nil)))
    (words_lt_cons (lt_trans hd' (by decide)) (words_lt_cons hr' (words_lt_cons hs' words_lt_nil)))
  simpa using hthree

/-! ### Planned withdrawals -/

/-- A withdrawal as it was planned. -/
structure PlannedWithdrawal (P : Cryptography) where
  plan : LegPlan
  reader : ChainId → Address → Option TokenDomain
  draws : ℕ → LegDraw
  balances : List (ChainId × Address × ℕ)
  /-- The legs, with the domains they are to be signed under. -/
  legs : List (NewWithdrawalLeg × TokenDomain)
  input : NewWithdrawal
  plans : plan.planLegsUnder reader draws balances = .ok legs
  keccak : plan.keccak = P.keccak
  domain : ∀ chainId token, plan.domain chainId token = (reader chainId token).map TokenDomain.token
  inputLegs : input.legs = legs.map Prod.fst
  destinationChainId : plan.destinationChainId = input.destinationChainId
  destination : plan.destination = input.destinationAddress
  -- the values have their types
  wallet_lt : input.walletAddress < 2 ^ 160
  destination_lt : input.destinationAddress < 2 ^ 160
  random_lt : ∀ i, (draws i).random < 2 ^ 256
  balance_lt : ∀ balance ∈ balances, balance.1 < 2 ^ 64 ∧ balance.2.2 < 2 ^ 256
  token_lt : ∀ chainId token domain, reader chainId token = some domain → domain.token < 2 ^ 160
  networks_lt : ∀ chainId cctp, plan.networks.cctp chainId = some cctp →
    cctp.domain < 2 ^ 32 ∧ cctp.forwarder < 2 ^ 160
  validBefore_lt : plan.validBefore < 2 ^ 64

/-- The message that a stored leg asks the wallet to sign. -/
def Leg.message (leg : Leg) (wallet : Address) : Eip3009 := (legAuthorization leg "" "" wallet).1.message

/-- What the planning settled for a stored leg of the withdrawal. -/
structure PlannedWithdrawal.Terms (W : PlannedWithdrawal P) (leg : Leg) (w : Withdrawal) : Prop where
  message : (leg.message w.walletAddress).InRange
  chain : leg.sourceChainId < 2 ^ 256
  token : leg.tokenAddress < 2 ^ 160
  destination : w.destinationAddress = W.input.destinationAddress
  transfer : leg.kind = .transfer → leg.authorizationTo = w.destinationAddress
  bridge : leg.kind = .bridge → ∃ target salt, W.plan.networks.cctp leg.destinationChainId = some target ∧
    leg.salt = some salt ∧ salt < 2 ^ 256 ∧
    leg.nonce = bridgeNonce P.keccak target.domain w.destinationAddress salt

namespace PlannedWithdrawal

variable {W : PlannedWithdrawal P}

lemma Terms.of_terms {leg leg' : Leg} {w w' : Withdrawal} (h : W.Terms leg w) (hleg : leg.SameTerms leg')
    (hw : w.SameTerms w') : W.Terms leg' w' where
  message := by
    have hmessage : leg'.message w'.walletAddress = leg.message w.walletAddress := by
      simp only [Leg.message, legAuthorization, hleg.kind, hleg.authorizationTo, hleg.amount,
        hleg.validBefore, hleg.nonce, hw.walletAddress]
    rw [hmessage]
    exact h.message
  chain := by
    rw [hleg.sourceChainId]
    exact h.chain
  token := by
    rw [hleg.tokenAddress]
    exact h.token
  destination := by
    rw [hw.destinationAddress]
    exact h.destination
  transfer := by
    rw [hleg.kind, hleg.authorizationTo, hw.destinationAddress]
    exact h.transfer
  bridge := by
    rw [hleg.kind, hleg.destinationChainId, hleg.salt, hleg.nonce, hw.destinationAddress]
    exact h.bridge

/-- One leg of the loop. -/
lemma planLeg_terms {position i : ℕ} {balance : ChainId × Address × ℕ} (hbalance : balance ∈ W.balances)
    {domain : TokenDomain} (hdomain : W.reader balance.1 balance.2.1 = some domain) {leg : NewWithdrawalLeg}
    (h : W.plan.planLeg position (W.draws i) balance.1 balance.2.1 balance.2.2 = .ok leg) (now : Time) :
    W.Terms (leg.row now W.input) W.input.row := by
  obtain ⟨hchain, hamount⟩ := W.balance_lt balance hbalance
  have hchain : balance.1 < 2 ^ 256 := lt_trans hchain (by decide)
  have hbefore : W.plan.validBefore < 2 ^ 256 := lt_trans W.validBefore_lt (by decide)
  have hzero : 0 < 2 ^ 256 := by decide
  have htoken := W.token_lt _ _ _ hdomain
  rw [LegPlan.planLeg, W.domain, hdomain] at h
  dsimp only [Option.map_some] at h
  split at h
  · -- a transfer on the destination chain
    cases h
    have hpayee : W.plan.destination < 2 ^ 160 := by
      rw [W.destination]
      exact W.destination_lt
    exact ⟨⟨W.wallet_lt, hpayee, hamount, hzero, hbefore, W.random_lt i⟩, hchain, htoken, rfl,
      fun _ => W.destination, fun hkind => by cases hkind⟩
  · split at h
    · cases h
    · cases h
    · rename_i source target hsource htarget
      split at h
      · cases h
      · -- a bridge from another chain
        cases h
        rw [W.destinationChainId] at htarget
        refine ⟨⟨W.wallet_lt, (W.networks_lt _ _ hsource).2, hamount, hzero, hbefore, ?_⟩, hchain, htoken,
          rfl, (fun hkind => by cases hkind), fun _ => ⟨target, (W.draws i).random, htarget, rfl,
            W.random_lt i, ?_⟩⟩
        · show bridgeNonce W.plan.keccak _ _ _ < _
          rw [W.keccak]
          exact P.keccak_lt _
        · show bridgeNonce W.plan.keccak _ _ _ = _
          rw [W.keccak, W.destination]
          rfl

lemma planLegs_terms (W : PlannedWithdrawal P) (now : Time) :
    ∀ planned ∈ W.legs, W.Terms (planned.1.row now W.input) W.input.row := by
  refine foldlM_invariant (fun legs => ∀ planned ∈ legs, W.Terms (planned.1.row now W.input) W.input.row)
    W.plans (by simp) fun balance hbalance legs legs' hlegs h => ?_
  unfold LegPlan.planOnto at h
  split at h
  · cases h
    exact hlegs
  split at h
  · cases h
  · rename_i domain hdomain
    obtain ⟨leg, hleg, rfl⟩ := map_eq_ok.1 h
    intro planned hplanned
    rcases List.mem_append.1 hplanned with hplanned | hplanned
    · exact hlegs planned hplanned
    · rw [List.mem_singleton.1 hplanned]
      exact planLeg_terms hbalance hdomain hleg now

/-- The withdrawal was created, and the tables went through operations since. -/
def Recorded (W : PlannedWithdrawal P) (db : Store) : Prop :=
  ∃ (before created : Store) (now : Time), before.create now W.input = .ok created ∧ Relation.ReflTransGen Store.Step created db

/-- The legs of the tables have the terms that were planned. -/
lemma Recorded.terms {db : Store} (h : W.Recorded db) {planned : NewWithdrawalLeg × TokenDomain}
    (hplanned : planned ∈ W.legs) {leg : Leg} (hleg : leg ∈ db.legs.rows) (hid : leg.id = planned.1.id)
    {w : Withdrawal} (hw : db.withdrawals.find? leg.withdrawalId = some w) : W.Terms leg w := by
  obtain ⟨before, created, now, hcreate, hrun⟩ := h
  obtain ⟨hwithdrawals, hlegs, -⟩ := Store.create_ok hcreate
  have hrecalled : Relay.Recalled created (planned.1.row now W.input) W.input.row := by
    refine ⟨planned.1.row now W.input, ?_, W.input.row, ?_, rfl, .refl _, rfl, rfl, rfl, rfl, rfl⟩
    · rw [hlegs, W.inputLegs, List.map_map]
      exact List.mem_append_right _ (List.mem_map_of_mem hplanned)
    · rw [hwithdrawals]
      exact List.mem_append_right _ (List.mem_singleton_self _)
  -- every operation keeps the rows
  have hkept : Relay.Recalled db (planned.1.row now W.input) W.input.row := by
    clear hleg hw
    induction hrun with
    | refl => exact hrecalled
    | tail _ hstep ih =>
      obtain ⟨call, hchange⟩ := hstep.change
      exact ih.change hchange
  obtain ⟨leg', hleg', w', hw', hown, hterms, hsame⟩ := hkept
  have hlegs : leg' = leg := db.legs.eq_of_key_eq hleg' hleg (by rw [hterms.id, hid]; rfl)
  subst hlegs
  have hws : w' = w := db.withdrawals.eq_of_key_eq hw' (Table.mem_of_find? hw)
    (by rw [hown, Table.key_of_find? hw])
  subst hws
  exact (planLegs_terms W now planned hplanned).of_terms hterms hsame

end PlannedWithdrawal

/-! ### What a call does -/

namespace SourceChain

variable {chain chain' : SourceChain}

/-- The token at an address became another one, and there is nothing else to the contracts. -/
structure Replaces (chain : SourceChain) (address : Address) (token token' : Token) (chain' : SourceChain) :
    Prop where
  before : chain.code address = some (.token token)
  code : ∀ a, chain'.code a = if a = address then some (.token token') else chain.code a

lemma Replaces.trans {chain'' : SourceChain} {address : Address} {token token' token'' token₁ : Token}
    (h : chain.Replaces address token token' chain') (h' : chain'.Replaces address token₁ token'' chain'') :
    token₁ = token' ∧ chain.Replaces address token token'' chain'' := by
  have hbefore := h'.before
  rw [h.code, if_pos rfl] at hbefore
  cases hbefore
  refine ⟨rfl, h.before, fun a => ?_⟩
  rw [h'.code]
  split
  · rfl
  · rename_i hne
    rw [h.code, if_neg hne]

section UpdateToken

variable {address : Address} {f : Token → Option Token}
  {hf : ∀ token token', f token = some token' → token'.domain = token.domain}

lemma updateToken_some (h : chain.updateToken address f hf = some chain') :
    ∃ token token', f token = some token' ∧ chain.Replaces address token token' chain' ∧
      chain'.deposits = chain.deposits ∧ chain'.now = chain.now := by
  unfold updateToken at h
  split at h
  · rename_i token htoken
    split at h
    · cases h
    · rename_i token' htoken'
      cases h
      exact ⟨token, token', htoken', ⟨htoken, fun a => rfl⟩, rfl, rfl⟩
  · cases h

lemma exists_updateToken {token token' : Token} (htoken : chain.code address = some (.token token))
    (h : f token = some token') : ∃ chain', chain.updateToken address f hf = some chain' := by
  unfold updateToken
  split
  · rename_i token₁ htoken₁
    rw [htoken] at htoken₁
    cases htoken₁
    split
    · rename_i hnone
      rw [h] at hnone
      cases hnone
    · exact ⟨_, rfl⟩
  · rename_i hother
    exact absurd htoken (hother token)

end UpdateToken

variable {caller address : Address} {m : Eip3009} {signature : List UInt8}

/-- What an accepted authorization does. -/
lemma callToken_some (h : chain.callToken P caller address m signature = some chain') :
    ∃ token token', chain.Replaces address token token' chain' ∧
      token.authorizes P chain.now caller m signature = true ∧ m.value ≤ token.balance m.payer ∧
      (∀ a, token'.balance a = token.balance a - (if a = m.payer then m.value else 0) +
        (if a = m.payee then m.value else 0)) ∧
      chain'.deposits = chain.deposits ∧ chain'.now = chain.now := by
  obtain ⟨token, token', hf, hreplaces, hdeposits, hnow⟩ := updateToken_some h
  unfold Token.withAuthorization at hf
  split at hf
  · rename_i hok
    cases hf
    exact ⟨token, _, hreplaces, hok.1, hok.2, fun a => rfl, hdeposits, hnow⟩
  · cases hf

lemma exists_callToken {token : Token} (htoken : chain.code address = some (.token token))
    (hauthorizes : token.authorizes P chain.now caller m signature = true)
    (hvalue : m.value ≤ token.balance m.payer) :
    ∃ chain', chain.callToken P caller address m signature = some chain' :=
  exists_updateToken htoken (if_pos ⟨hauthorizes, hvalue⟩)

lemma depositForBurn_some {takes : Deposit → Bool} {deposit : Deposit}
    (h : chain.depositForBurn takes deposit = some chain') :
    ∃ token token', chain.Replaces deposit.burnToken token token' chain' ∧ takes deposit = true ∧
      (∀ a, token'.balance a = token.balance a - (if a = deposit.depositor then deposit.amount else 0)) ∧
      chain'.deposits = deposit :: chain.deposits := by
  unfold depositForBurn at h
  split at h
  · rename_i htakes
    obtain ⟨chain₁, h₁, rfl⟩ := Option.map_eq_some_iff.1 h
    obtain ⟨token, token', hf, hreplaces, hdeposits, -⟩ := updateToken_some h₁
    unfold Token.burn at hf
    split at hf
    · cases hf
      exact ⟨token, _, ⟨hreplaces.before, hreplaces.code⟩, htakes, fun a => rfl, congrArg _ hdeposits⟩
    · cases hf
  · cases h

lemma exists_depositForBurn {takes : Deposit → Bool} {deposit : Deposit} {token : Token}
    (htoken : chain.code deposit.burnToken = some (.token token)) (htakes : takes deposit = true)
    (hamount : deposit.amount ≤ token.balance deposit.depositor) :
    ∃ chain', chain.depositForBurn takes deposit = some chain' := by
  unfold depositForBurn
  rw [if_pos htakes]
  have hburn : ∃ token', token.burn deposit.depositor deposit.amount = some token' := ⟨_, if_pos hamount⟩
  obtain ⟨token', hburn⟩ := hburn
  obtain ⟨chain₁, h₁⟩ := exists_updateToken (f := fun token => token.burn deposit.depositor deposit.amount)
    htoken hburn
  exact ⟨_, by rw [h₁]; rfl⟩

end SourceChain

/-- The message that the forwarder at `self` presents to the token. -/
def BridgeArguments.message (P : Cryptography) (args : BridgeArguments) (self : Address) : Eip3009 :=
  ⟨.receive, args.payer, self, args.value, 0, args.validBefore,
    bridgeNonce P.keccak args.destinationDomain args.mintRecipient args.salt⟩

/-- The deposit that the forwarder at `self` makes. -/
def BridgeArguments.deposit (args : BridgeArguments) (self tokenMessenger : Address) : Deposit :=
  ⟨tokenMessenger, self, args.value, args.destinationDomain, args.mintRecipient, args.token, 0, 0, 2000⟩

/-- The forwarder called with the arguments. -/
def SourceChain.bridgeWith (P : Cryptography) (chain : SourceChain) (takes : Deposit → Bool)
    (self tokenMessenger : Address) (args : BridgeArguments) : Option SourceChain :=
  chain.bridge P takes self tokenMessenger args.token args.payer args.value args.destinationDomain
    args.mintRecipient args.salt args.validBefore args.signature

namespace SourceChain

variable {chain chain' : SourceChain} {takes : Deposit → Bool} {self tokenMessenger : Address}
  {args : BridgeArguments}

/-- What an accepted bridge does: the money is in the forwarder in between only. -/
lemma bridgeWith_some (h : chain.bridgeWith P takes self tokenMessenger args = some chain') :
    ∃ token token', chain.Replaces args.token token token' chain' ∧
      token.authorizes P chain.now self (args.message P self) args.signature = true ∧
      args.value ≤ token.balance args.payer ∧ takes (args.deposit self tokenMessenger) = true ∧
      (∀ a, token'.balance a = token.balance a - (if a = args.payer then args.value else 0)) ∧
      chain'.deposits = args.deposit self tokenMessenger :: chain.deposits := by
  obtain ⟨chain₁, hcall, hdeposit⟩ := Option.bind_eq_some_iff.1 h
  obtain ⟨token, token₁, hreplaces, hauthorizes, hvalue, hbalance, hdeposits, -⟩ :=
    callToken_some hcall
  obtain ⟨token₂, token', hreplaces', htakes, hburnt, hdeposits'⟩ := depositForBurn_some hdeposit
  obtain ⟨rfl, hreplaces''⟩ := hreplaces.trans hreplaces'
  refine ⟨token, token', hreplaces'', hauthorizes, hvalue, htakes, fun a => ?_, ?_⟩
  · rw [hburnt, hbalance]
    exact Nat.add_sub_cancel ..
  · rw [hdeposits', hdeposits]
    rfl

lemma exists_bridgeWith {token : Token} (htoken : chain.code args.token = some (.token token))
    (hauthorizes : token.authorizes P chain.now self (args.message P self) args.signature = true)
    (hvalue : args.value ≤ token.balance args.payer)
    (htakes : takes (args.deposit self tokenMessenger) = true) :
    ∃ chain', chain.bridgeWith P takes self tokenMessenger args = some chain' := by
  obtain ⟨chain₁, hcall⟩ := exists_callToken htoken hauthorizes hvalue
  obtain ⟨token₁, token₂, hreplaces, -, -, hbalance, -, -⟩ := callToken_some hcall
  have hreceived : args.value ≤ token₂.balance self := by
    rw [hbalance]
    show args.value ≤ _ + if self = self then args.value else 0
    rw [if_pos rfl]
    exact Nat.le_add_left ..
  have hcode : chain₁.code args.token = some (.token token₂) := by
    rw [hreplaces.code, if_pos rfl]
  obtain ⟨chain', hdeposit⟩ : ∃ chain', chain₁.depositForBurn takes (args.deposit self tokenMessenger) =
      some chain' := exists_depositForBurn hcode htakes hreceived
  exact ⟨chain', Option.bind_eq_some_iff.2 ⟨chain₁, hcall, hdeposit⟩⟩

end SourceChain

/-! ### The calls of a signed leg -/

/-- The two calls that `command` builds for the source chain. -/
lemma command_cases {registry : ChainRegistry} {config : ChainConfig} {finalized : Option ℕ} {now : Time}
    {jobId : JobId} {leg : Leg} {w : Withdrawal} {c : WithdrawalStepCommand}
    (h : command registry config finalized now jobId leg w = .ok c) (hstep : c.step ≠ .mint) :
    (leg.kind = .transfer ∧ c.target = leg.tokenAddress ∧ ∃ signature at', leg.signature = some (signature, at') ∧
      c.calldata = .bytes (StepCall.transferWithAuthorization w.walletAddress leg.authorizationTo leg.amount 0
        leg.validBefore leg.nonce signature).abiEncode) ∨
    leg.kind = .bridge ∧ c.target = leg.authorizationTo ∧ ∃ target salt signature at',
      registry.cctp leg.destinationChainId = some target ∧ leg.salt = some salt ∧
      leg.signature = some (signature, at') ∧
      c.calldata = .bytes (StepCall.bridge leg.tokenAddress w.walletAddress leg.amount target.domain
        w.destinationAddress salt leg.validBefore signature).abiEncode := by
  have hkind : ∀ step, leg.stepKind = some step → (step = .transfer → leg.kind = .transfer) ∧
      (step = .burn → leg.kind = .bridge) := by
    intro step h
    unfold Leg.stepKind at h
    split at h <;> cases h <;> simp_all
  unfold command at h
  dsimp only at h
  split at h
  · cases h
  · rename_i hs
    split at h
    · cases h
    · rename_i signature at' hsignature
      cases h
      exact Or.inl ⟨(hkind _ hs).1 rfl, rfl, signature, at', hsignature, rfl⟩
  · rename_i hs
    split at h
    · cases h
    · cases h
    · cases h
    · rename_i target salt signature at' htarget hsalt hsignature
      cases h
      exact Or.inr ⟨(hkind _ hs).2 rfl, rfl, target, salt, signature, at', htarget, hsalt, hsignature, rfl⟩
  · -- a mint
    exfalso
    split at h
    · cases h
    · cases h
    · cases h
    · split at h
      · cases h
      · cases h
        exact hstep rfl

/-- The domain that a stored leg is signed under, with the columns of the domain that was read. -/
def Leg.signingDomain (leg : Leg) (domain : TokenDomain) : TokenDomain :=
  (legAuthorization leg domain.name domain.version 0).2

/-- The server's digest is the token's, of the message and under the domain. -/
lemma digest_legAuthorization (leg : Leg) (domain : TokenDomain) (wallet : Address) :
    (legAuthorization leg domain.name domain.version wallet).1.digest P
      (legAuthorization leg domain.name domain.version wallet).2 =
    (leg.message wallet).digest P (leg.signingDomain domain) := by
  rw [WithdrawalAuthorization.digest, WithdrawalAuthorization.structHash, Eip3009.digest, Eip3009.signingInput]
  rfl

/-- A signature that recovers to the payer is accepted. -/
lemma verifyAuthorization_eq_ok {a : WithdrawalAuthorization} {domain : TokenDomain} {text : String}
    {raw signature : List UInt8} (htext : parseHex text = some raw) (hlength : raw.length = 65)
    (hraw : P.fromRaw raw = some signature) (hrecover : P.recover signature (a.digest P domain) = some a.payer)
    (hpayer : a.payer ≠ 0) : verifyAuthorization P a domain text = .ok signature := by
  unfold verifyAuthorization
  rw [htext]
  dsimp only
  rw [if_neg (not_not.2 hlength), hraw]
  dsimp only
  rw [hrecover]
  exact if_neg (not_or.2 ⟨hpayer, not_not.2 rfl⟩)

/-- A leg of the withdrawal that the wallet signed. -/
structure PlannedWithdrawal.Signed (W : PlannedWithdrawal P) (leg : Leg) (w : Withdrawal)
    (domain : TokenDomain) (signature : List UInt8) : Prop where
  /-- It is in the tables, some time after it was planned. -/
  stored : ∃ (db : Store) (new : NewWithdrawalLeg), W.Recorded db ∧ (new, domain) ∈ W.legs ∧
    leg ∈ db.legs.rows ∧ leg.id = new.id ∧ db.withdrawals.find? leg.withdrawalId = some w
  onFile : ∃ at', leg.signature = some (signature, at')
  /-- The signature was checked when it came in. -/
  verified : ∃ text, verifyAuthorization P (legAuthorization leg domain.name domain.version w.walletAddress).1
    (legAuthorization leg domain.name domain.version w.walletAddress).2 text = .ok signature
  /-- The wallet's signature is over that message and no other. -/
  exact : ∀ digest < 2 ^ 256, P.recover signature digest = some w.walletAddress →
    digest = (leg.message w.walletAddress).digest P (leg.signingDomain domain)

/-- What was hashed until the leg was signed. -/
def PlannedWithdrawal.hashes (W : PlannedWithdrawal P) (leg : Leg) (w : Withdrawal) (domain : TokenDomain) :
    Set (List UInt8) :=
  (leg.message w.walletAddress).hashed P (leg.signingDomain domain) ∪
    {input | ∃ target salt, W.plan.networks.cctp leg.destinationChainId = some target ∧
      leg.salt = some salt ∧ input = nonceInput target.domain w.destinationAddress salt}

namespace PlannedWithdrawal.Signed

variable {W : PlannedWithdrawal P} {leg : Leg} {w : Withdrawal} {domain : TokenDomain}
  {signature : List UInt8} {inputs : Set (List UInt8)} {chain chain' : SourceChain}

lemma terms (hs : W.Signed leg w domain signature) : W.Terms leg w := by
  obtain ⟨db, new, hrecorded, hnew, hleg, hid, hw⟩ := hs.stored
  exact hrecorded.terms hnew hleg hid hw

lemma recovers (hs : W.Signed leg w domain signature) : signature.length = 65 ∧
    P.recover signature ((leg.message w.walletAddress).digest P (leg.signingDomain domain)) =
      some w.walletAddress := by
  obtain ⟨text, h⟩ := hs.verified
  unfold verifyAuthorization at h
  split at h
  · cases h
  · split at h
    · cases h
    · split at h
      · cases h
      · rename_i hraw
        split at h
        · cases h
        · rename_i recovered hrecovered
          split at h
          · cases h
          · rename_i hpayer
            cases h
            obtain ⟨-, hpayer⟩ := not_or.1 hpayer
            have hwallet : recovered = w.walletAddress := not_not.1 hpayer
            rw [digest_legAuthorization, hwallet] at hrecovered
            exact ⟨P.fromRaw_length _ _ hraw, hrecovered⟩

lemma signingDomain_inRange (hs : W.Signed leg w domain signature) : (leg.signingDomain domain).InRange :=
  ⟨hs.terms.chain, hs.terms.token⟩

/-- A token takes the signature for the leg's message, and only on the leg's chain and as the leg's
token. -/
lemma of_authorizes (hs : W.Signed leg w domain signature) (hfree : Set.InjOn P.keccak inputs)
    (hsigned : W.hashes leg w domain ⊆ inputs) {address : Address} {token : Token}
    (hcode : chain.code address = some (.token token)) {caller : Address} {m : Eip3009} (hm : m.InRange)
    (hpayer : m.payer = w.walletAddress) (hpresented : m.hashed P token.domain ⊆ inputs)
    (h : token.authorizes P chain.now caller m signature = true) :
    m = leg.message w.walletAddress ∧ address = leg.tokenAddress ∧ chain.chainId = leg.sourceChainId ∧
      (leg.kind = .bridge → caller = leg.authorizationTo) := by
  simp only [Token.authorizes, Bool.and_eq_true, Bool.or_eq_true, decide_eq_true_eq] at h
  obtain ⟨⟨-, hcaller⟩, hrecover⟩ := h
  rw [hpayer] at hrecover
  obtain ⟨hchain, htoken, haddress⟩ := chain.own address token hcode
  have hrange : token.domain.InRange := ⟨by rw [hchain]; exact chain.chainId_lt, by rw [htoken]; exact haddress⟩
  have hdigest := hs.exact _ (P.keccak_lt _) hrecover
  obtain ⟨hsame, hchains, htokens⟩ := eq_of_digest_eq hm hs.terms.message hrange hs.signingDomain_inRange
    (hfree.mono (Set.union_subset hpresented (fun input hinput => hsigned (Or.inl hinput)))) hdigest
  refine ⟨hsame, ?_, ?_, fun hkind => ?_⟩
  · rw [← htoken, htokens]
    rfl
  · rw [← hchain, hchains]
    rfl
  · have hreceive : m.kind = .receive := by
      rw [hsame]
      simp [Leg.message, legAuthorization, WithdrawalAuthorization.message, hkind]
    rcases hcaller with hcaller | hcaller
    · rw [hreceive] at hcaller
      cases hcaller
    · rw [hcaller, hsame]
      rfl

/-- A forwarder is served for the destination of the leg, and only where the leg names it. -/
lemma of_bridge (hs : W.Signed leg w domain signature) (hfree : Set.InjOn P.keccak inputs)
    (hsigned : W.hashes leg w domain ⊆ inputs) {self : Address} {args : BridgeArguments} {token : Token}
    (hself : self < 2 ^ 160) (hargs : args.InRange) (hpayer : args.payer = w.walletAddress)
    (hsignature : args.signature = signature) (hcode : chain.code args.token = some (.token token))
    (hpresented : (args.message P self).hashed P token.domain ⊆ inputs)
    (hnonce : nonceInput args.destinationDomain args.mintRecipient args.salt ∈ inputs)
    (h : token.authorizes P chain.now self (args.message P self) args.signature = true) :
    leg.kind = .bridge ∧ self = leg.authorizationTo ∧ args.token = leg.tokenAddress ∧
      args.value = leg.amount ∧ args.validBefore = leg.validBefore ∧ leg.salt = some args.salt ∧
      args.mintRecipient = W.input.destinationAddress ∧
      ∃ target, W.plan.networks.cctp leg.destinationChainId = some target ∧
        args.destinationDomain = target.domain := by
  have hm : (args.message P self).InRange :=
    ⟨hargs.payer, hself, hargs.value, show 0 < 2 ^ 256 by decide, hargs.validBefore, P.keccak_lt _⟩
  rw [hsignature] at h
  obtain ⟨hsame, htoken, -, hcaller⟩ := hs.of_authorizes hfree hsigned hcode hm hpayer hpresented h
  -- the type of the message tells the leg's kind
  have hkind : leg.kind = .bridge := by
    have hkinds := congrArg Eip3009.kind hsame
    cases hk : leg.kind with
    | bridge => rfl
    | transfer => simp [Leg.message, legAuthorization, WithdrawalAuthorization.message, hk,
        BridgeArguments.message] at hkinds
  obtain ⟨target, salt, htarget, hsalt, hsalt_lt, hcommits⟩ := hs.terms.bridge hkind
  have hnonces : bridgeNonce P.keccak args.destinationDomain args.mintRecipient args.salt =
      bridgeNonce P.keccak target.domain w.destinationAddress salt := by
    rw [← hcommits]
    exact congrArg Eip3009.nonce hsame
  have hplanned : nonceInput target.domain w.destinationAddress salt ∈ inputs :=
    hsigned (Or.inr ⟨target, salt, htarget, hsalt, rfl⟩)
  have hdestination : w.destinationAddress < 2 ^ 256 := by
    rw [hs.terms.destination]
    exact address_lt_word W.destination_lt
  obtain ⟨hdomain, hrecipient, hsalts⟩ := eq_of_bridgeNonce_eq hargs.destinationDomain
    (W.networks_lt _ _ htarget).1 hargs.mintRecipient hdestination hargs.salt hsalt_lt
    (hfree.mono (Set.insert_subset hnonce (Set.singleton_subset_iff.2 hplanned))) hnonces
  refine ⟨hkind, hcaller hkind, htoken, congrArg Eip3009.value hsame, congrArg Eip3009.validBefore hsame,
    ?_, ?_, target, htarget, hdomain⟩
  · rw [hsalt, hsalts]
  · rw [hrecipient, hs.terms.destination]

end PlannedWithdrawal.Signed

/-! ### Transactions -/

lemma argumentWord_lt (calldata : List UInt8) (i : ℕ) : argumentWord calldata i < 2 ^ 256 := by
  have hlength : ((calldata.drop (4 + 32 * i)).take 32).length ≤ 32 := List.length_take_le ..
  calc argumentWord calldata i < 256 ^ ((calldata.drop (4 + 32 * i)).take 32).length := ofBE_lt _
    _ ≤ 256 ^ 32 := Nat.pow_le_pow_right (by decide) hlength
    _ = 2 ^ 256 := by decide

lemma decodeBridge_inRange {calldata : List UInt8} {args : BridgeArguments}
    (h : decodeBridge calldata = some args) : args.InRange := by
  unfold decodeBridge at h
  dsimp only at h
  split at h
  · rename_i hwords
    obtain ⟨signature, -, rfl⟩ := Option.map_eq_some_iff.1 h
    exact ⟨hwords.2.2.1, hwords.2.2.2.1, argumentWord_lt _ _, hwords.2.2.2.2, argumentWord_lt _ _,
      argumentWord_lt _ _, argumentWord_lt _ _⟩
  · cases h

namespace SourceChain

variable {chain chain' : SourceChain} {takes : Deposit → Bool} {caller target : Address}
  {calldata : List UInt8}

/-- What the contracts hash when they run the call. -/
def hashes (P : Cryptography) (chain : SourceChain) (target : Address) (calldata : List UInt8) :
    Set (List UInt8) :=
  {input | (∃ token m signature, chain.code target = some (.token token) ∧
      decodeTransfer calldata = some (m, signature) ∧ input ∈ m.hashed P token.domain) ∨
    ∃ tokenMessenger token args, chain.code target = some (.forwarder tokenMessenger) ∧
      decodeBridge calldata = some args ∧ chain.code args.token = some (.token token) ∧
      (input ∈ (args.message P target).hashed P token.domain ∨
        input = nonceInput args.destinationDomain args.mintRecipient args.salt)}

/-- The amount leaves the wallet for the payee, and nothing else happens. -/
def Pays (chain : SourceChain) (tokenAddress wallet payee : Address) (amount : ℕ) (chain' : SourceChain) :
    Prop :=
  ∃ token token', chain.Replaces tokenAddress token token' chain' ∧ amount ≤ token.balance wallet ∧
    (∀ a, token'.balance a = token.balance a - (if a = wallet then amount else 0) +
      (if a = payee then amount else 0)) ∧ chain'.deposits = chain.deposits

/-- The amount leaves the wallet, and the forwarder burns it for the recipient. -/
def Burns (chain : SourceChain) (forwarder tokenAddress wallet : Address) (amount destinationDomain : ℕ)
    (recipient : Address) (chain' : SourceChain) : Prop :=
  ∃ token token' tokenMessenger, chain.code forwarder = some (.forwarder tokenMessenger) ∧
    chain.Replaces tokenAddress token token' chain' ∧ amount ≤ token.balance wallet ∧
    (∀ a, token'.balance a = token.balance a - if a = wallet then amount else 0) ∧
    chain'.deposits =
      ⟨tokenMessenger, forwarder, amount, destinationDomain, recipient, tokenAddress, 0, 0, 2000⟩ ::
        chain.deposits

/-- A transaction whose calldata is a `transferWithAuthorization`. -/
lemma execute_transfer {m : Eip3009} {signature : List UInt8}
    (hcalldata : decodeTransfer calldata = some (m, signature)) {token : Token}
    (hcode : chain.code target = some (.token token)) :
    chain.execute P takes caller target calldata = chain.callToken P caller target m signature := by
  rw [execute, hcode, hcalldata]
  rfl

/-- A transaction whose calldata is a `bridge`. -/
lemma execute_bridge {args : BridgeArguments} (hcalldata : decodeBridge calldata = some args)
    {tokenMessenger : Address} (hcode : chain.code target = some (.forwarder tokenMessenger)) :
    chain.execute P takes caller target calldata =
      chain.bridgeWith P takes target tokenMessenger args := by
  rw [execute, hcode, hcalldata]
  rfl

/-- The two functions' selectors differ. -/
lemma decodeTransfer_of_decodeBridge {args : BridgeArguments} (h : decodeBridge calldata = some args) :
    decodeTransfer calldata = none := by
  unfold decodeBridge at h
  dsimp only at h
  split at h
  · rename_i hbridge
    unfold decodeTransfer
    refine if_neg fun htransfer => ?_
    have hselectors := hbridge.1.symm.trans htransfer.1
    simp at hselectors
  · cases h

lemma decodeBridge_of_decodeTransfer {call : Eip3009 × List UInt8} (h : decodeTransfer calldata = some call) :
    decodeBridge calldata = none := by
  by_contra hne
  obtain ⟨args, hargs⟩ := Option.ne_none_iff_exists'.1 hne
  rw [decodeTransfer_of_decodeBridge hargs] at h
  cases h

/-- A `transferWithAuthorization` succeeds at a token only. -/
lemma callToken_of_execute {call : Eip3009 × List UInt8} (hcalldata : decodeTransfer calldata = some call)
    (h : chain.execute P takes caller target calldata = some chain') :
    chain.callToken P caller target call.1 call.2 = some chain' := by
  unfold execute at h
  split at h
  · cases h
  · rw [hcalldata] at h
    exact h
  · rw [decodeBridge_of_decodeTransfer hcalldata] at h
    cases h

/-- A `bridge` succeeds at a forwarder only. -/
lemma bridgeWith_of_execute {args : BridgeArguments} (hcalldata : decodeBridge calldata = some args)
    (h : chain.execute P takes caller target calldata = some chain') :
    ∃ tokenMessenger, chain.code target = some (.forwarder tokenMessenger) ∧
      chain.bridgeWith P takes target tokenMessenger args = some chain' := by
  unfold execute at h
  split at h
  · cases h
  · rw [decodeTransfer_of_decodeBridge hcalldata] at h
    cases h
  · rename_i tokenMessenger hcode
    rw [hcalldata] at h
    exact ⟨tokenMessenger, hcode, h⟩

end SourceChain

namespace PlannedWithdrawal.Signed

variable {W : PlannedWithdrawal P} {leg : Leg} {w : Withdrawal} {domain : TokenDomain}
  {signature : List UInt8} {inputs : Set (List UInt8)} {chain chain' : SourceChain}
  {takes : Deposit → Bool} {caller : Address}

/-- The arguments of the leg's `bridge`, under a registry. -/
def bridgeArguments (leg : Leg) (w : Withdrawal) (destinationDomain : ℕ) (salt : Hash)
    (signature : List UInt8) : BridgeArguments :=
  ⟨leg.tokenAddress, w.walletAddress, leg.amount, destinationDomain, w.destinationAddress, salt,
    leg.validBefore, signature⟩

lemma bridgeArguments_inRange (hs : W.Signed leg w domain signature) {destinationDomain : ℕ} {salt : Hash}
    (hdomain : destinationDomain < 2 ^ 32) (hkind : leg.kind = .bridge) (hsalt : leg.salt = some salt) :
    (bridgeArguments leg w destinationDomain salt signature).InRange := by
  have hterms := hs.terms
  obtain ⟨target, salt', -, hsalt', hsalt_lt, -⟩ := hterms.bridge hkind
  obtain rfl := Option.some.inj (hsalt'.symm.trans hsalt)
  have hdestination : w.destinationAddress < 2 ^ 256 := by
    rw [hterms.destination]
    exact address_lt_word W.destination_lt
  exact ⟨hterms.token, hterms.message.payer, hterms.message.value, hdomain, hdestination, hsalt_lt,
    hterms.message.validBefore⟩

/-- The token reads the leg's message from the call of a transfer. -/
lemma decodeTransfer_leg (hs : W.Signed leg w domain signature) (hkind : leg.kind = .transfer) :
    decodeTransfer (StepCall.transferWithAuthorization w.walletAddress leg.authorizationTo leg.amount 0
      leg.validBefore leg.nonce signature).abiEncode = some (leg.message w.walletAddress, signature) := by
  have hmessage : (leg.message w.walletAddress).kind = .transfer := by
    simp [Leg.message, legAuthorization, WithdrawalAuthorization.message, hkind]
  have hlength : signature.length < 2 ^ 64 := by
    rw [hs.recovers.1]
    decide
  exact decodeTransfer_abiEncode hs.terms.message hmessage hlength

/-- The forwarder reads the leg's arguments from the call of a burn. -/
lemma decodeBridge_leg (hs : W.Signed leg w domain signature) {destinationDomain : ℕ} {salt : Hash}
    (hdomain : destinationDomain < 2 ^ 32) (hkind : leg.kind = .bridge) (hsalt : leg.salt = some salt) :
    decodeBridge (StepCall.bridge leg.tokenAddress w.walletAddress leg.amount destinationDomain
      w.destinationAddress salt leg.validBefore signature).abiEncode =
      some (bridgeArguments leg w destinationDomain salt signature) := by
  have hlength : signature.length < 2 ^ 64 := by
    rw [hs.recovers.1]
    decide
  have hdecode := decodeBridge_abiEncode (hs.bridgeArguments_inRange hdomain hkind hsalt) hlength
  exact hdecode

/-- Whatever the registry, a call of the leg that succeeds does what was signed. -/
lemma effect (hs : W.Signed leg w domain signature) (hfree : Set.InjOn P.keccak inputs)
    (hsigned : W.hashes leg w domain ⊆ inputs) {registry : ChainRegistry}
    (hregistry : ∀ chainId cctp, registry.cctp chainId = some cctp → cctp.domain < 2 ^ 32)
    {config : ChainConfig} {finalized : Option ℕ} {now : Time} {jobId : JobId} {c : WithdrawalStepCommand}
    (hcommand : command registry config finalized now jobId leg w = .ok c) (hstep : c.step ≠ .mint)
    {calldata : List UInt8} (hcalldata : c.calldata = .bytes calldata)
    (hhashes : chain.hashes P c.target calldata ⊆ inputs)
    (h : chain.execute P takes caller c.target calldata = some chain') :
    (leg.kind = .transfer →
      chain.Pays leg.tokenAddress w.walletAddress W.input.destinationAddress leg.amount chain') ∧
    (leg.kind = .bridge → ∃ target, W.plan.networks.cctp leg.destinationChainId = some target ∧
      chain.Burns leg.authorizationTo leg.tokenAddress w.walletAddress leg.amount target.domain
        W.input.destinationAddress chain') := by
  obtain ⟨at', honFile⟩ := hs.onFile
  rcases command_cases hcommand hstep with ⟨hkind, hto, signature', at'', hsignature, hbytes⟩ |
    ⟨hkind, hto, target, salt, signature', at'', hcctp, hsalt, hsignature, hbytes⟩
  · refine ⟨fun _ => ?_, fun hbridge => by rw [hkind] at hbridge; cases hbridge⟩
    rw [honFile] at hsignature
    cases hsignature
    rw [hbytes] at hcalldata
    cases hcalldata
    have hcall := SourceChain.callToken_of_execute (hs.decodeTransfer_leg hkind) h
    rw [hto] at hcall
    obtain ⟨token, token', hreplaces, -, hvalue, hbalance, hdeposits, -⟩ := SourceChain.callToken_some hcall
    refine ⟨token, token', hreplaces, hvalue, fun a => ?_, hdeposits⟩
    rw [hbalance a, ← hs.terms.destination, ← hs.terms.transfer hkind]
    rfl
  · refine ⟨fun htransfer => (by rw [hkind] at htransfer; cases htransfer), fun _ => ?_⟩
    rw [honFile] at hsignature
    cases hsignature
    rw [hbytes] at hcalldata
    cases hcalldata
    have hdecode := hs.decodeBridge_leg (hregistry _ _ hcctp) hkind hsalt
    have htarget : c.target < 2 ^ 160 := by
      rw [hto]
      exact hs.terms.message.payee
    obtain ⟨tokenMessenger, hcode, hbridge⟩ := SourceChain.bridgeWith_of_execute hdecode h
    obtain ⟨token, token', hreplaces, hauthorizes, hvalue, -, hbalance, hdeposits⟩ :=
      SourceChain.bridgeWith_some hbridge
    -- the token took it, so the domain of this registry is the one that was signed
    obtain ⟨-, -, -, -, -, -, hrecipient, target', htarget', hdomain⟩ := hs.of_bridge hfree hsigned htarget
      (hs.bridgeArguments_inRange (hregistry _ _ hcctp) hkind hsalt) rfl rfl hreplaces.before
      (fun input hinput => hhashes (Or.inr ⟨tokenMessenger, token, _, hcode, hdecode, hreplaces.before,
        Or.inl hinput⟩))
      (hhashes (Or.inr ⟨tokenMessenger, token, _, hcode, hdecode, hreplaces.before, Or.inr rfl⟩)) hauthorizes
    rw [hto] at hcode hdeposits
    refine ⟨target', htarget', token, token', tokenMessenger, hcode, hreplaces, hvalue, hbalance, ?_⟩
    rw [hdeposits, ← hdomain, ← hrecipient]
    rfl

/-- The leg's token takes the signature while it is not expired or used. -/
lemma authorizes (hs : W.Signed leg w domain signature) {token : Token}
    (hdomain : token.domain = leg.signingDomain domain) (hnow : chain.now < leg.validBefore)
    (hunused : token.used w.walletAddress leg.nonce = false)
    (hcaller : leg.kind = .bridge → caller = leg.authorizationTo) :
    token.authorizes P chain.now caller (leg.message w.walletAddress) signature = true := by
  have hrecover := hs.recovers.2
  rw [← hdomain] at hrecover
  simp only [Token.authorizes, Bool.and_eq_true, Bool.or_eq_true, Bool.not_eq_true', decide_eq_true_eq]
  refine ⟨⟨⟨⟨chain.now_pos, hnow⟩, hunused⟩, ?_⟩, hrecover⟩
  cases hkind : leg.kind with
  | transfer => exact Or.inl (by simp [Leg.message, legAuthorization, WithdrawalAuthorization.message, hkind])
  | bridge => exact Or.inr (hcaller hkind)

/-- Under the registry of the planning there is a call, and it succeeds if the money is there. -/
lemma succeeds (hs : W.Signed leg w domain signature)
    (hstate : leg.state = .authorized ∨ leg.state = .relaying) {token : Token}
    (hcode : chain.code leg.tokenAddress = some (.token token))
    (hdomain : token.domain = leg.signingDomain domain) (hnow : chain.now < leg.validBefore)
    (hunused : token.used w.walletAddress leg.nonce = false) (config : ChainConfig) (finalized : Option ℕ)
    (now : Time) (jobId : JobId) :
    ∃ c calldata, command W.plan.networks config finalized now jobId leg w = .ok c ∧ c.step ≠ .mint ∧
      c.calldata = .bytes calldata ∧ ∀ takes caller,
        (∃ chain', chain.execute P takes caller c.target calldata = some chain') ↔
        leg.amount ≤ token.balance w.walletAddress ∧ (leg.kind = .bridge → ∃ tokenMessenger target,
          chain.code leg.authorizationTo = some (.forwarder tokenMessenger) ∧
          W.plan.networks.cctp leg.destinationChainId = some target ∧
          takes ⟨tokenMessenger, leg.authorizationTo, leg.amount, target.domain, W.input.destinationAddress,
            leg.tokenAddress, 0, 0, 2000⟩ = true) := by
  obtain ⟨at', honFile⟩ := hs.onFile
  cases hkind : leg.kind with
  | transfer =>
    have hstep : leg.stepKind = some .transfer := by
      rcases hstate with hstate | hstate <;> simp [Leg.stepKind, hstate, hkind]
    refine ⟨_, _, by rw [command, hstep, honFile], by simp, rfl, fun takes caller => ?_⟩
    show (∃ chain', chain.execute P takes caller leg.tokenAddress _ = some chain') ↔ _
    rw [SourceChain.execute_transfer (hs.decodeTransfer_leg hkind) hcode]
    constructor
    · rintro ⟨chain', h⟩
      obtain ⟨token', token'', hreplaces, -, hvalue, -⟩ := SourceChain.callToken_some h
      cases hcode.symm.trans hreplaces.before
      exact ⟨hvalue, fun hbridge => by cases hbridge⟩
    · rintro ⟨hamount, -⟩
      exact SourceChain.exists_callToken hcode (hs.authorizes hdomain hnow hunused
        fun hbridge => by rw [hkind] at hbridge; cases hbridge) hamount
  | bridge =>
    have hstep : leg.stepKind = some .burn := by
      rcases hstate with hstate | hstate <;> simp [Leg.stepKind, hstate, hkind]
    obtain ⟨target, salt, htarget, hsalt, -, hcommits⟩ := hs.terms.bridge hkind
    have hdecode := hs.decodeBridge_leg (W.networks_lt _ _ htarget).1 hkind hsalt
    refine ⟨_, _, by rw [command, hstep, htarget, hsalt, honFile], by simp, rfl, fun takes caller => ?_⟩
    show (∃ chain', chain.execute P takes caller leg.authorizationTo _ = some chain') ↔ _
    -- the forwarder presents the message that was signed
    have hmessage : (bridgeArguments leg w target.domain salt signature).message P leg.authorizationTo =
        leg.message w.walletAddress := by
      simp [BridgeArguments.message, bridgeArguments, Leg.message, legAuthorization,
        WithdrawalAuthorization.message, hkind, hcommits]
    constructor
    · rintro ⟨chain', h⟩
      obtain ⟨tokenMessenger, hforwarder, hbridge⟩ := SourceChain.bridgeWith_of_execute hdecode h
      obtain ⟨token', token'', hreplaces, -, hvalue, htakes, -⟩ := SourceChain.bridgeWith_some hbridge
      cases hcode.symm.trans hreplaces.before
      refine ⟨hvalue, fun _ => ⟨tokenMessenger, target, hforwarder, htarget, ?_⟩⟩
      rw [← hs.terms.destination]
      exact htakes
    · rintro ⟨hamount, hbridge⟩
      obtain ⟨tokenMessenger, target', hforwarder, htarget', htakes⟩ := hbridge rfl
      cases htarget.symm.trans htarget'
      rw [← hs.terms.destination] at htakes
      rw [SourceChain.execute_bridge hdecode hforwarder]
      refine SourceChain.exists_bridgeWith hcode ?_ hamount htakes
      rw [hmessage]
      exact hs.authorizes hdomain hnow hunused fun _ => rfl

end PlannedWithdrawal.Signed

/-- Of a leg that the wallet signed, whatever registry the server has by then: if the call that
`command` builds succeeds on the chain, exactly the leg's amount leaves the wallet, for the
withdrawal's destination, or to be burned by the leg's forwarder for that destination on the domain
that the registry of the planning had.  A token takes the signature for the leg's own message only, on
the leg's chain, as the leg's token, and from the leg's forwarder if it is a bridge; a forwarder is
served only for the domain, recipient, salt, amount, expiry and token of the leg.  With the registry of
the planning, and as long as the signature is neither expired nor used, the token takes it, and the
call succeeds if the wallet still has the amount and the messenger takes the deposit. -/
theorem signed_withdrawal_pays_only_its_destination {W : PlannedWithdrawal P} {leg : Leg} {w : Withdrawal}
    {domain : TokenDomain} {signature : List UInt8} (hs : W.Signed leg w domain signature)
    (inputs : Set (List UInt8)) (hfree : Set.InjOn P.keccak inputs)
    (hsigned : W.hashes leg w domain ⊆ inputs) (chain : SourceChain) :
    (∀ (registry : ChainRegistry) (config : ChainConfig) (finalized : Option ℕ) (now : Time) (jobId : JobId)
      (c : WithdrawalStepCommand) (calldata : List UInt8) (takes : Deposit → Bool) (caller : Address)
      (chain' : SourceChain),
      (∀ chainId cctp, registry.cctp chainId = some cctp → cctp.domain < 2 ^ 32) →
      command registry config finalized now jobId leg w = .ok c → c.step ≠ .mint →
      c.calldata = .bytes calldata → chain.hashes P c.target calldata ⊆ inputs →
      chain.execute P takes caller c.target calldata = some chain' →
      (leg.kind = .transfer →
        chain.Pays leg.tokenAddress w.walletAddress W.input.destinationAddress leg.amount chain') ∧
      (leg.kind = .bridge → ∃ target, W.plan.networks.cctp leg.destinationChainId = some target ∧
        chain.Burns leg.authorizationTo leg.tokenAddress w.walletAddress leg.amount target.domain
          W.input.destinationAddress chain')) ∧
    (∀ (address : Address) (token : Token) (caller : Address) (m : Eip3009),
      chain.code address = some (.token token) → m.InRange → m.payer = w.walletAddress →
      m.hashed P token.domain ⊆ inputs → token.authorizes P chain.now caller m signature = true →
      m = leg.message w.walletAddress ∧ address = leg.tokenAddress ∧ chain.chainId = leg.sourceChainId ∧
        (leg.kind = .bridge → caller = leg.authorizationTo)) ∧
    (∀ (target : Address) (calldata : List UInt8) (args : BridgeArguments) (takes : Deposit → Bool)
      (caller : Address) (chain' : SourceChain), target < 2 ^ 160 →
      decodeBridge calldata = some args → args.payer = w.walletAddress → args.signature = signature →
      chain.hashes P target calldata ⊆ inputs → chain.execute P takes caller target calldata = some chain' →
      leg.kind = .bridge ∧ target = leg.authorizationTo ∧ args.token = leg.tokenAddress ∧
        args.value = leg.amount ∧ args.validBefore = leg.validBefore ∧ leg.salt = some args.salt ∧
        args.mintRecipient = W.input.destinationAddress ∧
        ∃ planned, W.plan.networks.cctp leg.destinationChainId = some planned ∧
          args.destinationDomain = planned.domain) ∧
    (∀ token : Token, leg.state = .authorized ∨ leg.state = .relaying →
      chain.code leg.tokenAddress = some (.token token) → token.domain = leg.signingDomain domain →
      chain.now < leg.validBefore → token.used w.walletAddress leg.nonce = false →
      (∀ caller, (leg.kind = .bridge → caller = leg.authorizationTo) →
        token.authorizes P chain.now caller (leg.message w.walletAddress) signature = true) ∧
      ∀ (config : ChainConfig) (finalized : Option ℕ) (now : Time) (jobId : JobId),
        ∃ c calldata, command W.plan.networks config finalized now jobId leg w = .ok c ∧ c.step ≠ .mint ∧
          c.calldata = .bytes calldata ∧ ∀ takes caller,
            (∃ chain', chain.execute P takes caller c.target calldata = some chain') ↔
            leg.amount ≤ token.balance w.walletAddress ∧ (leg.kind = .bridge → ∃ tokenMessenger target,
              chain.code leg.authorizationTo = some (.forwarder tokenMessenger) ∧
              W.plan.networks.cctp leg.destinationChainId = some target ∧
              takes ⟨tokenMessenger, leg.authorizationTo, leg.amount, target.domain,
                W.input.destinationAddress, leg.tokenAddress, 0, 0, 2000⟩ = true)) := by
  refine ⟨?_, ?_, ?_, ?_⟩
  · intro registry config finalized now jobId c calldata takes caller chain' hregistry hcommand hstep
      hcalldata hhashes h
    exact hs.effect hfree hsigned hregistry hcommand hstep hcalldata hhashes h
  · intro address token caller m hcode hm hpayer hpresented h
    exact hs.of_authorizes hfree hsigned hcode hm hpayer hpresented h
  · intro target calldata args takes caller chain' htarget hdecode hpayer hsignature hhashes h
    obtain ⟨tokenMessenger, hforwarder, hbridge⟩ := SourceChain.bridgeWith_of_execute hdecode h
    obtain ⟨token, token', hreplaces, hauthorizes, -⟩ := SourceChain.bridgeWith_some hbridge
    exact hs.of_bridge hfree hsigned htarget (decodeBridge_inRange hdecode) hpayer hsignature hreplaces.before
      (fun input hinput => hhashes (Or.inr ⟨tokenMessenger, token, args, hforwarder, hdecode,
        hreplaces.before, Or.inl hinput⟩))
      (hhashes (Or.inr ⟨tokenMessenger, token, args, hforwarder, hdecode, hreplaces.before, Or.inr rfl⟩))
      hauthorizes
  · intro token hstate hcode hdomain hnow hunused
    exact ⟨fun caller hcaller => hs.authorizes hdomain hnow hunused hcaller,
      hs.succeeds hstate hcode hdomain hnow hunused⟩

/-! ### A leg that is bridged -/

/-- A signature names its signer and the digest it is for. -/
def sampleCryptography : Cryptography where
  keccak bytes := ofBE bytes % (2 ^ 256 - 189)
  keccak_lt _ := lt_trans (Nat.mod_lt _ (by decide)) (by decide)
  fromRaw raw := if raw.length = 65 then some raw else none
  fromRaw_length raw signature h := by
    split at h
    · rename_i hlength
      cases h
      exact hlength
    · cases h
  recover signature digest :=
    if (signature.drop 20).take 32 = abiWord digest then some (ofBE (signature.take 20)) else none

def sampleSign (key : Address) (digest : Hash) : List UInt8 :=
  toBE 20 key ++ (abiWord digest ++ List.replicate 13 0)

lemma sampleSign_recover {key : Address} (digest digest' : Hash) (hkey : key < 2 ^ 160) :
    sampleCryptography.recover (sampleSign key digest) digest' =
      if abiWord digest = abiWord digest' then some key else none := by
  have hdrop : ((sampleSign key digest).drop 20).take 32 = abiWord digest := by
    rw [sampleSign, List.drop_left' (length_toBE 20 key), List.take_left' (length_abiWord digest)]
  have htake : ofBE ((sampleSign key digest).take 20) = key := by
    rw [sampleSign, List.take_left' (length_toBE 20 key)]
    exact ofBE_toBE (lt_of_lt_of_eq hkey (by decide))
  have hrecover : ∀ signature, sampleCryptography.recover signature digest' =
      if (signature.drop 20).take 32 = abiWord digest' then some (ofBE (signature.take 20)) else none :=
    fun _ => rfl
  rw [hrecover, hdrop, htake]

/-- Chain 2 holds six units of the token at 21; the destination is on chain 1. -/
def samplePlan : LegPlan where
  keccak := sampleCryptography.keccak
  networks := [⟨1, 0, 1000, some ⟨6, 11, 12, 13⟩⟩, ⟨2, 0, 1000, some ⟨3, 31, 32, 300⟩⟩]
  domain _ _ := some 21
  bridges := true
  destinationChainId := 1
  destination := 200
  validBefore := 9000

def sampleDomain : TokenDomain := ⟨"USDC", "2", 2, 21⟩

def sampleBridge : NewWithdrawalLeg :=
  ⟨10, 0, .bridge, 2, 6, 21, 300, bridgeNonce sampleCryptography.keccak 6 200 4, some 4, 9000⟩

def samplePlanned : PlannedWithdrawal sampleCryptography where
  plan := samplePlan
  reader _ _ := some sampleDomain
  draws _ := ⟨10, 4⟩
  balances := [(2, 21, 6)]
  legs := [(sampleBridge, sampleDomain)]
  input := ⟨1, 7, "key", 100, .usdc, 1, 200, [sampleBridge]⟩
  plans := rfl
  keccak := rfl
  domain _ _ := rfl
  inputLegs := rfl
  destinationChainId := rfl
  destination := rfl
  wallet_lt := by decide
  destination_lt := by decide
  random_lt _ := by decide
  balance_lt := by decide
  token_lt _ _ domain h := by
    cases h
    decide
  networks_lt := by
    intro chainId cctp h
    have hmem : ∀ config ∈ samplePlan.networks, ∀ cctp ∈ config.cctp,
        cctp.domain < 2 ^ 32 ∧ cctp.forwarder < 2 ^ 160 := by decide
    obtain ⟨config, hconfig, hcctp⟩ := Option.bind_eq_some_iff.1 h
    exact hmem config (List.mem_of_find?_eq_some hconfig) cctp hcctp
  validBefore_lt := by decide

/-- What the wallet signs for the leg. -/
def sampleDigest : Hash :=
  ((sampleBridge.row 0 samplePlanned.input).message 100).digest sampleCryptography
    ((sampleBridge.row 0 samplePlanned.input).signingDomain sampleDomain)

/-- The leg once it is signed. -/
def sampleLeg : Leg :=
  { sampleBridge.row 0 samplePlanned.input with
    state := .authorized, signature := some (sampleSign 100 sampleDigest, 1), updatedAt := 1 }

lemma sampleLeg_digest : (sampleLeg.message samplePlanned.input.row.walletAddress).digest sampleCryptography
    (sampleLeg.signingDomain sampleDomain) = sampleDigest := rfl

lemma sampleLeg_message : sampleLeg.message 100 =
    ⟨.receive, 100, 300, 6, 0, 9000, bridgeNonce sampleCryptography.keccak 6 200 4⟩ := rfl

lemma sampleSign_length (digest : Hash) : (sampleSign 100 digest).length = 65 := by simp [sampleSign]

lemma sampleSign_fromRaw (digest : Hash) :
    sampleCryptography.fromRaw (sampleSign 100 digest) = some (sampleSign 100 digest) := by
  have hraw : ∀ raw, sampleCryptography.fromRaw raw = if raw.length = 65 then some raw else none :=
    fun _ => rfl
  rw [hraw, if_pos (sampleSign_length digest)]

lemma sampleLeg_stored : ∃ created, Store.empty.create 0 samplePlanned.input = .ok created ∧
    ∃ db, created.perform 1 (.authorize ⟨[samplePlanned.input.row], by simp⟩ 7 1 10
      (sampleSign 100 sampleDigest)) = some db ∧ db.legs.rows = [sampleLeg] ∧
      db.withdrawals.rows = [samplePlanned.input.row] :=
  ⟨_, rfl, _, rfl, rfl, rfl⟩

lemma sample_signed : samplePlanned.Signed sampleLeg samplePlanned.input.row sampleDomain
    (sampleSign 100 sampleDigest) where
  stored := by
    obtain ⟨created, hcreate, db, hperform, hlegs, hwithdrawals⟩ := sampleLeg_stored
    refine ⟨db, sampleBridge, ⟨Store.empty, created, 0, hcreate, .single ⟨1, _, hperform⟩⟩,
      List.mem_singleton_self _, by rw [hlegs]; exact List.mem_singleton_self _, rfl, ?_⟩
    exact Table.find?_of_mem (by rw [hwithdrawals]; exact List.mem_singleton_self _)
  onFile := ⟨1, rfl⟩
  verified := by
    refine ⟨_, verifyAuthorization_eq_ok (parseHex_fixedText (sampleSign 100 sampleDigest))
      (sampleSign_length _) (sampleSign_fromRaw _) ?_ ?_⟩
    · rw [digest_legAuthorization, sampleLeg_digest, sampleSign_recover _ _ (by decide), if_pos rfl]
      rfl
    · decide
  exact := by
    intro digest hdigest h
    rw [sampleLeg_digest]
    rw [sampleSign_recover _ _ (by decide)] at h
    split at h
    · rename_i hwords
      exact (abiWord_inj (sampleCryptography.keccak_lt _) hdigest hwords).symm
    · cases h

/-- What is hashed for the leg. -/
def sampleInputs : List (List UInt8) :=
  [AuthorizationKind.receive.encodeType, sampleDomain.input sampleCryptography,
    (sampleLeg.message 100).input sampleCryptography,
    (sampleLeg.message 100).signingInput sampleCryptography sampleDomain, nonceInput 6 200 4]

lemma sampleInputs_injOn : Set.InjOn sampleCryptography.keccak {input | input ∈ sampleInputs} := by
  have hpairs : ∀ a ∈ sampleInputs, ∀ b ∈ sampleInputs,
      sampleCryptography.keccak a = sampleCryptography.keccak b → a = b := by decide +kernel
  exact fun a ha b hb h => hpairs a ha b hb h

lemma sample_hashed {input : List UInt8}
    (h : input ∈ (sampleLeg.message 100).hashed sampleCryptography sampleDomain) : input ∈ sampleInputs := by
  rcases h with rfl | rfl | rfl | rfl
  · exact List.mem_cons_self ..
  · exact List.mem_cons_of_mem _ (List.mem_cons_self ..)
  · exact List.mem_cons_of_mem _ (List.mem_cons_of_mem _ (List.mem_cons_self ..))
  · exact List.mem_cons_of_mem _ (List.mem_cons_of_mem _ (List.mem_cons_of_mem _ (List.mem_cons_self ..)))

lemma sample_nonceInput : nonceInput 6 200 4 ∈ sampleInputs :=
  List.mem_cons_of_mem _ (List.mem_cons_of_mem _ (List.mem_cons_of_mem _ (List.mem_cons_of_mem _
    (List.mem_cons_self ..))))

/-- The chain that the leg's money is on. -/
def sampleChain : SourceChain where
  chainId := 2
  chainId_lt := by decide
  now := 5000
  now_pos := by decide
  code a :=
    if a = 21 then some (.token ⟨sampleDomain, fun _ => 6, fun _ _ => false⟩)
    else if a = 300 then some (.forwarder 31) else none
  own := by
    intro a token h
    split at h
    · rename_i ha
      cases h
      rw [ha]
      exact ⟨rfl, rfl, by decide⟩
    · split at h <;> cases h
  deposits := []

/-- The call that is built for the leg. -/
def sampleCall : List UInt8 := (StepCall.bridge 21 100 6 6 200 4 9000 (sampleSign 100 sampleDigest)).abiEncode

lemma sampleChain_hashes : sampleChain.hashes sampleCryptography 300 sampleCall ⊆
    {input | input ∈ sampleInputs} := by
  have hdecode : decodeBridge sampleCall = some ⟨21, 100, 6, 6, 200, 4, 9000, sampleSign 100 sampleDigest⟩ :=
    sample_signed.decodeBridge_leg (by decide) rfl rfl
  rintro input (⟨token, m, signature, hcode, -⟩ | ⟨tokenMessenger, token, args, -, hargs, hcode, hinput⟩)
  · cases hcode
  · rw [hdecode] at hargs
    cases hargs
    cases hcode
    have hmessage : (⟨21, 100, 6, 6, 200, 4, 9000, sampleSign 100 sampleDigest⟩ : BridgeArguments).message
        sampleCryptography 300 = sampleLeg.message 100 := by
      rw [sampleLeg_message]
      rfl
    rcases hinput with hinput | rfl
    · rw [hmessage] at hinput
      exact sample_hashed hinput
    · exact sample_nonceInput

theorem signed_withdrawal_pays_only_its_destination_bridged :
    ∃ c chain', command samplePlan.networks ⟨2, 0, 1000, none⟩ none 0 50 sampleLeg
        samplePlanned.input.row = .ok c ∧ c.target = 300 ∧ c.calldata = .bytes sampleCall ∧
      sampleChain.execute sampleCryptography (fun _ => true) 77 300 sampleCall = some chain' ∧
      sampleChain.Burns 300 21 100 6 6 200 chain' := by
  have hsigned : samplePlanned.hashes sampleLeg samplePlanned.input.row sampleDomain ⊆
      {input | input ∈ sampleInputs} := by
    have hwallet : samplePlanned.input.row.walletAddress = 100 := rfl
    have hdomain : sampleLeg.signingDomain sampleDomain = sampleDomain := rfl
    rw [PlannedWithdrawal.hashes, hwallet, hdomain]
    rintro input (hinput | ⟨target, salt, htarget, hsalt, hinput⟩)
    · exact sample_hashed hinput
    · have htarget' : target = ⟨6, 11, 12, 13⟩ := (Option.some.inj htarget).symm
      have hsalt' : salt = 4 := (Option.some.inj hsalt).symm
      rw [hinput, htarget', hsalt']
      exact sample_nonceInput
  obtain ⟨heffect, -, -, haccepts⟩ := signed_withdrawal_pays_only_its_destination sample_signed
    {input | input ∈ sampleInputs} sampleInputs_injOn hsigned sampleChain
  obtain ⟨-, hcommand⟩ := haccepts ⟨sampleDomain, fun _ => 6, fun _ _ => false⟩ (Or.inl rfl) rfl rfl
    (by decide) rfl
  obtain ⟨c, calldata, hc, hstep, hcalldata, hsucceeds⟩ := hcommand ⟨2, 0, 1000, none⟩ none 0 50
  obtain ⟨hto, hcall⟩ : c.target = 300 ∧ c.calldata = .bytes sampleCall := by
    rcases command_cases hc hstep with ⟨hkind, -⟩ |
      ⟨-, hto, target, salt, signature, at', htarget, hsalt, hsignature, hcall⟩
    · cases hkind
    · obtain rfl := Option.some.inj htarget
      obtain rfl := Option.some.inj hsalt
      obtain ⟨rfl, -⟩ := Prod.mk.inj (Option.some.inj hsignature)
      exact ⟨hto, hcall⟩
  rw [hcall] at hcalldata
  obtain rfl := Calldata.bytes.inj hcalldata
  rw [hto] at hsucceeds
  obtain ⟨chain', hexecute⟩ := (hsucceeds (fun _ => true) 77).2 ⟨le_refl 6, fun _ => ⟨31, _, rfl, rfl, rfl⟩⟩
  refine ⟨c, chain', hc, hto, hcall, hexecute, ?_⟩
  obtain ⟨-, hburns⟩ := heffect _ _ _ _ _ c sampleCall _ _ chain' (fun chainId cctp h =>
    (samplePlanned.networks_lt chainId cctp h).1) hc hstep hcall (by rw [hto]; exact sampleChain_hashes)
    (by rw [hto]; exact hexecute)
  obtain ⟨target, htarget, hburns⟩ := hburns rfl
  cases htarget
  exact hburns

end Payday.Withdrawals
