/-
# What the server asks for is signed

When the server's answer is that of a withdrawal it planned, and the client's configuration is that of
the deployment, both clients ask the wallet to sign the document of every leg that awaits a signature,
and the digest that is signed is the one that the server verifies.
-/
import Payday.Withdrawals.TypedData

namespace Payday.Withdrawals

variable {P : Cryptography} {W : PlannedWithdrawal P}

/-! ### Planned legs -/

/-- What the planning took a leg from. -/
structure PlannedWithdrawal.PlannedFrom (W : PlannedWithdrawal P) (balance : ChainId × Address × ℕ)
    (new : NewWithdrawalLeg) (domain : TokenDomain) : Prop where
  member : balance ∈ W.balances
  reader : W.reader balance.1 balance.2.1 = some domain
  sourceChainId : new.sourceChainId = balance.1
  tokenAddress : new.tokenAddress = domain.token
  validBefore : new.validBefore = W.plan.validBefore
  kind : (new.kind = .transfer ∧ balance.1 = W.plan.destinationChainId) ∨
    (new.kind = .bridge ∧ W.plan.bridges = true ∧ ∃ source, W.plan.networks.cctp balance.1 = some source ∧
      new.authorizationTo = source.forwarder)

lemma planLeg_from {position i : ℕ} {balance : ChainId × Address × ℕ} (hbalance : balance ∈ W.balances)
    (hbridges : ¬ (balance.1 ≠ W.plan.destinationChainId ∧ W.plan.bridges = false)) {domain : TokenDomain}
    (hdomain : W.reader balance.1 balance.2.1 = some domain) {new : NewWithdrawalLeg}
    (h : W.plan.planLeg position (W.draws i) balance.1 balance.2.1 balance.2.2 = .ok new) :
    W.PlannedFrom balance new domain := by
  rw [LegPlan.planLeg, W.domain, hdomain] at h
  dsimp only [Option.map_some] at h
  split at h
  · rename_i hchain
    cases h
    exact ⟨hbalance, hdomain, rfl, rfl, rfl, Or.inl ⟨rfl, hchain⟩⟩
  · rename_i hchain
    split at h
    · cases h
    · cases h
    · rename_i source target hsource htarget
      split at h
      · cases h
      · cases h
        refine ⟨hbalance, hdomain, rfl, rfl, rfl, Or.inr ⟨rfl, ?_, source, hsource, rfl⟩⟩
        by_contra hne
        exact hbridges ⟨hchain, Bool.eq_false_iff.2 hne⟩

lemma planLegs_from (W : PlannedWithdrawal P) :
    ∀ planned ∈ W.legs, ∃ balance, W.PlannedFrom balance planned.1 planned.2 := by
  refine foldlM_invariant (fun legs => ∀ planned ∈ legs, ∃ balance, W.PlannedFrom balance planned.1 planned.2)
    W.plans (by simp) fun balance hbalance legs legs' hlegs h => ?_
  unfold LegPlan.planOnto at h
  split at h
  · cases h
    exact hlegs
  rename_i hskip
  split at h
  · cases h
  · rename_i domain hdomain
    obtain ⟨leg, hleg, rfl⟩ := map_eq_ok.1 h
    intro planned hplanned
    rcases List.mem_append.1 hplanned with hplanned | hplanned
    · exact hlegs planned hplanned
    · rw [List.mem_singleton.1 hplanned]
      exact ⟨balance, planLeg_from hbalance (fun hother => hskip (Or.inr hother)) hdomain hleg⟩

/-- The rows of the tables keep the terms they were created with. -/
lemma PlannedWithdrawal.Recorded.rows {db : Store} (h : W.Recorded db)
    {planned : NewWithdrawalLeg × TokenDomain} (hplanned : planned ∈ W.legs) {leg : Leg}
    (hleg : leg ∈ db.legs.rows) (hid : leg.id = planned.1.id) {w : Withdrawal}
    (hw : db.withdrawals.find? leg.withdrawalId = some w) :
    ∃ now, (planned.1.row now W.input).SameTerms leg ∧ W.input.row.SameTerms w := by
  obtain ⟨before, created, now, hcreate, hrun⟩ := h
  obtain ⟨hwithdrawals, hlegs, -⟩ := Store.create_ok hcreate
  have hrecalled : Relay.Recalled created (planned.1.row now W.input) W.input.row := by
    refine ⟨planned.1.row now W.input, ?_, W.input.row, ?_, rfl, .refl _, rfl, rfl, rfl, rfl, rfl⟩
    · rw [hlegs, W.inputLegs, List.map_map]
      exact List.mem_append_right _ (List.mem_map_of_mem hplanned)
    · rw [hwithdrawals]
      exact List.mem_append_right _ (List.mem_singleton_self _)
  have hkept : Relay.Recalled db (planned.1.row now W.input) W.input.row := by
    clear hleg hw
    induction hrun with
    | refl => exact hrecalled
    | tail _ hstep ih =>
      obtain ⟨call, hchange⟩ := hstep.change
      exact ih.change hchange
  obtain ⟨leg', hleg', w', hw', hown, hterms, hsame⟩ := hkept
  have hlegs : leg' = leg := db.legs.eq_of_key_eq hleg' hleg (by rw [hterms.id, hid]; rfl)
  subst hlegs
  have hws : w' = w := db.withdrawals.eq_of_key_eq hw' (Table.mem_of_find? hw)
    (by rw [hown, Table.key_of_find? hw])
  subst hws
  exact ⟨now, hterms, hsame⟩

/-! ### The deployment -/

/-- The configuration names the contracts that the planning used. -/
structure DeployedAs (W : PlannedWithdrawal P) (currency : Currency) (chains : List PublicChain) : Prop where
  small : ∀ balance ∈ W.balances, balance.1 < 2 ^ 53
  destination_small : W.plan.destinationChainId < 2 ^ 53
  tokens : ∀ balance ∈ W.balances, ∀ domain, W.reader balance.1 balance.2.1 = some domain →
    ∃ chain token, chains.find? (fun chain => decide (chain.id = balance.1)) = some chain ∧
      tokenOn chain (Proofs.currencyCode currency) = some token ∧ hexText 20 token.address = some domain.token
  cctp : ∀ chainId config, W.plan.networks.cctp chainId = some config →
    ∃ chain forwarder, chains.find? (fun chain => decide (chain.id = chainId)) = some chain ∧
      chain.cctp = some ⟨config.domain, forwarder⟩ ∧ hexText 20 forwarder = some config.forwarder
  bridges : W.plan.bridges = true → currency = .usdc

/-- A leg of the withdrawal that awaits its signature, in tables that recorded the withdrawal. -/
structure AwaitingLeg (W : PlannedWithdrawal P) (w : Withdrawal) (leg : Leg) (domain : TokenDomain) : Prop where
  state : leg.state = .awaitingSignature
  planned : ∃ new now balance, W.PlannedFrom balance new domain ∧ (new.row now W.input).SameTerms leg
  withdrawal : W.input.row.SameTerms w
  terms : W.Terms leg w

section Served

variable {J : Javascript} {w : Withdrawal} {leg : Leg} {domain : TokenDomain} {chains : List PublicChain}
  {legs : List (Leg × TokenDomain)}

/-- The document that is served for the leg. -/
def servedAuthorization (W : PlannedWithdrawal P) (w : Withdrawal) (leg : Leg) (domain : TokenDomain) :
    AuthorizationResponse where
  primaryType := (legAuthorization leg domain.name domain.version w.walletAddress).1.kind.primaryType
  typedData := (legAuthorization leg domain.name domain.version w.walletAddress).1.typedData P.keccak
    (legAuthorization leg domain.name domain.version w.walletAddress).2
  forwarder := if leg.kind = .bridge then some (toChecksum P.keccak leg.authorizationTo) else none
  noncePreimage :=
    match leg.kind, leg.salt, (W.plan.networks.cctp w.destinationChainId).map CctpConfig.domain with
    | .bridge, some salt, some domain =>
      some ⟨domain, toChecksum P.keccak w.destinationAddress, fixedText 32 salt⟩
    | _, _, _ => none

/-- The leg as it is served. -/
def servedLeg (W : PlannedWithdrawal P) (w : Withdrawal) (leg : Leg) (domain : TokenDomain) : LegResponse :=
  legResponse P.keccak leg domain.name domain.version w.walletAddress w.destinationAddress
    ((W.plan.networks.cctp w.destinationChainId).map CctpConfig.domain)

lemma servedLeg_authorization (h : leg.state = .awaitingSignature) :
    (servedLeg W w leg domain).authorization = some (servedAuthorization W w leg domain) := by
  exact if_pos h

lemma servedLeg_isBridge : (servedLeg W w leg domain).isBridge = decide (leg.kind = .bridge) := by
  cases h : leg.kind <;> simp [servedLeg, legResponse, LegResponse.isBridge, h, LegKind.asStr]

/-- The client finds the chain and the contract of the leg. -/
lemma AwaitingLeg.source (h : AwaitingLeg W w leg domain) (hd : DeployedAs W w.currency chains) :
    leg.sourceChainId < 2 ^ 53 ∧ ∃ chain token,
      chains.find? (fun chain => decide (chain.id = leg.sourceChainId)) = some chain ∧
      tokenOn chain (Proofs.currencyCode w.currency) = some token ∧
      hexText 20 token.address = some leg.tokenAddress := by
  obtain ⟨new, now, balance, hfrom, hsame⟩ := h.planned
  have hchain : leg.sourceChainId = balance.1 := hsame.sourceChainId.trans hfrom.sourceChainId
  have htoken : leg.tokenAddress = domain.token := hsame.tokenAddress.trans hfrom.tokenAddress
  rw [hchain, htoken]
  exact ⟨hd.small _ hfrom.member, hd.tokens _ hfrom.member domain hfrom.reader⟩

lemma ne_empty_of_hexText {size n : ℕ} {text : String} (h : hexText size text = some n) : text ≠ "" := by
  rintro rfl
  obtain ⟨digits, htext, -⟩ := hexText_eq_some.1 h
  cases htext

/-- What is found in the configuration is in the registry. -/
lemma trustedRegistry_eq_some {id : ℕ} {chain : PublicChain}
    (h : chains.find? (fun chain => decide (chain.id = id)) = some chain) :
    trustedRegistry chains id = some chain.trusted := by
  rw [trustedRegistry, h, Option.map_some]

lemma AwaitingLeg.destination (h : AwaitingLeg W w leg domain) :
    w.destinationChainId = W.plan.destinationChainId ∧ leg.destinationChainId = w.destinationChainId ∧
      w.destinationAddress < 2 ^ 160 := by
  obtain ⟨new, now, balance, -, hsame⟩ := h.planned
  have hchain : w.destinationChainId = W.input.destinationChainId := h.withdrawal.destinationChainId
  refine ⟨hchain.trans W.destinationChainId.symm, hsame.destinationChainId.trans hchain.symm, ?_⟩
  rw [h.terms.destination]
  exact W.destination_lt

/-- The document of a bridge leg goes through the deployment's forwarder, to the destination. -/
lemma AwaitingLeg.bridgesTo (h : AwaitingLeg W w leg domain) (hd : DeployedAs W w.currency chains)
    (hkind : leg.kind = .bridge) : ∃ source target preimage,
      BridgesTo J P.keccak (response P.keccak W.plan.networks w legs) (servedAuthorization W w leg domain)
        (trustedRegistry chains) source target preimage := by
  obtain ⟨hchain, hleg, hdestination⟩ := h.destination
  obtain ⟨target, salt, htarget, hsalt, hsalt_lt, hnonce⟩ := h.terms.bridge hkind
  rw [hleg] at htarget
  obtain ⟨new, now, balance, hfrom, hsame⟩ := h.planned
  have hsource : leg.sourceChainId = balance.1 := hsame.sourceChainId.trans hfrom.sourceChainId
  rcases hfrom.kind with ⟨htransfer, -⟩ | ⟨-, hbridges, source, hcctp, hforwarder⟩
  · rw [← show leg.kind = new.kind from hsame.kind, hkind] at htransfer
    cases htransfer
  obtain ⟨chain, forwarder, hfind, hchain_cctp, htext⟩ := hd.cctp _ _ hcctp
  obtain ⟨chain', forwarder', hfind', hchain_cctp', -⟩ := hd.cctp _ _ htarget
  have hpayee : leg.authorizationTo = source.forwarder := hsame.authorizationTo.trans hforwarder
  have hpreimage : (servedAuthorization W w leg domain).noncePreimage =
      some ⟨target.domain, toChecksum P.keccak w.destinationAddress, fixedText 32 salt⟩ := by
    simp only [servedAuthorization, hkind, hsalt, htarget, Option.map_some]
  have hrecipient : hexText 32 (recipientText J (toChecksum P.keccak w.destinationAddress)) =
      some w.destinationAddress :=
    hexText_recipientText (Javascript.same_refl _) (hexText_toChecksum P.keccak hdestination)
  have hlt := (W.networks_lt _ _ htarget).1
  refine ⟨⟨source.domain, forwarder⟩, ⟨target.domain, forwarder'⟩, _, ?_, ?_, ?_, ?_, hpreimage, rfl, Javascript.same_refl _, ?_⟩
  · show Proofs.currencyCode w.currency = "USDC"
    rw [hd.bridges hbridges]
    rfl
  · show (trustedRegistry chains leg.sourceChainId).bind _ = _
    rw [hsource, trustedRegistry_eq_some hfind]
    exact hchain_cctp
  · refine Javascript.same_of_hexText (n := source.forwarder) ?_ htext
    simp only [servedAuthorization, if_pos hkind, Option.getD_some, hpayee]
    exact hexText_toChecksum P.keccak (W.networks_lt _ _ hcctp).2
  · show ((J.number (Nat.repr w.destinationChainId)).bind (trustedRegistry chains)).bind _ = _
    rw [J.number_repr _ (by rw [hchain]; exact hd.destination_small), Option.bind_some,
      trustedRegistry_eq_some hfind']
    exact hchain_cctp'
  · refine ⟨fixedText 32 leg.nonce, ?_, Javascript.same_refl _⟩
    rw [bridgeNonceText, hrecipient, hexText_fixedText hsalt_lt, hnonce]
    exact if_pos hlt

/-- The clients find nothing wrong with the document of a planned leg. -/
lemma AwaitingLeg.checked (h : AwaitingLeg W w leg domain) (hd : DeployedAs W w.currency chains) {now : ℤ}
    (hnow : now < leg.validBefore) :
    Checked J P.keccak (some (trustedRegistry chains)) now (response P.keccak W.plan.networks w legs)
      (servedLeg W w leg domain) (servedAuthorization W w leg domain) := by
  obtain ⟨hsmall, chain, token, hfind, htoken, htext⟩ := h.source hd
  obtain ⟨hchain, -, hdestination⟩ := h.destination
  have htype : (servedAuthorization W w leg domain).primaryType = (servedLeg W w leg domain).expectedType := by
    rw [LegResponse.expectedType, servedLeg_isBridge]
    cases hkind : leg.kind <;> simp [servedAuthorization, legAuthorization, hkind, AuthorizationKind.primaryType]
  have hcontract : hexText 20 (toChecksum P.keccak leg.tokenAddress) = some leg.tokenAddress :=
    hexText_toChecksum P.keccak h.terms.token
  have hpayee : (servedLeg W w leg domain).documentedPayee (servedAuthorization W w leg domain)
      (response P.keccak W.plan.networks w legs) = toChecksum P.keccak leg.authorizationTo := by
    rw [LegResponse.documentedPayee, servedLeg_isBridge]
    cases hkind : leg.kind with
    | transfer =>
      rw [h.terms.transfer hkind]
      rfl
    | bridge => simp [servedAuthorization, hkind]
  refine ⟨servedLeg_authorization h.state, htype, htype, Javascript.same_refl _, J.number_repr _ hsmall, ?_, ?_, Javascript.same_refl _,
    ⟨leg.validBefore, J.bigInt_repr _, hnow⟩, rfl, rfl, ?_, ?_, fun hbridge => ?_⟩
  · -- a transfer is planned on the destination's chain only
    intro htransfer
    have hkind : leg.kind = .transfer := by
      cases hkind : leg.kind with
      | transfer => rfl
      | bridge => simp [servedLeg, legResponse, hkind, LegKind.asStr] at htransfer
    obtain ⟨new, now, balance, hfrom, hsame⟩ := h.planned
    rcases hfrom.kind with ⟨-, hsource⟩ | ⟨hother, -⟩
    · show Nat.repr leg.sourceChainId = Nat.repr w.destinationChainId
      rw [hchain, ← hsource, ← hfrom.sourceChainId]
      exact congrArg Nat.repr hsame.sourceChainId
    · rw [← show leg.kind = new.kind from hsame.kind, hkind] at hother
      cases hother
  · rintro _ ⟨⟩
    refine ⟨chain.trusted, trustedRegistry_eq_some hfind, token.address, ?_, ne_empty_of_hexText htext,
      Javascript.same_of_hexText hcontract htext⟩
    show (tokenOn chain (Proofs.currencyCode w.currency)).map _ = _
    rw [htoken, Option.map_some]
  · rw [hpayee]
    exact ne_empty_of_hexText (hexText_toChecksum P.keccak h.terms.message.payee)
  · rw [hpayee]
    exact Javascript.same_refl _
  · rw [servedLeg_isBridge, decide_eq_true_eq] at hbridge
    exact ⟨_, rfl, h.bridgesTo hd hbridge⟩

/-! ### The document that is signed -/

/-- The document of the leg, as a signer is given it. -/
def servedDocument (P : Cryptography) (w : Withdrawal) (leg : Leg) (domain : TokenDomain) : SignableTypedData :=
  let m := leg.message w.walletAddress
  ⟨⟨domain.name, domain.version, leg.sourceChainId, toChecksum P.keccak leg.tokenAddress⟩, m.kind.primaryType,
    [(m.kind.primaryType, messageFields)], ⟨toChecksum P.keccak m.payer, toChecksum P.keccak m.payee, m.value,
      m.validAfter, m.validBefore, fixedText 32 m.nonce⟩⟩

lemma signable_served {number : String → Option ℤ} (hnumber : ∀ n : ℕ, number n.repr = some n) :
    (servedAuthorization W w leg domain).typedData.message.signable number =
      some (servedDocument P w leg domain).message := by
  have hzero : number "0" = some 0 := hnumber 0
  simp only [servedAuthorization, WithdrawalAuthorization.typedData, AuthorizationMessage.signable, hnumber, hzero,
    Option.bind_eq_bind, Option.bind_some, Option.pure_def]
  rfl

/-- The SDK drops the type of the domain. -/
lemma toSignableTypedData_served :
    toSignableTypedData J (servedAuthorization W w leg domain).typedData =
      some (servedDocument P w leg domain) := by
  rw [toSignableTypedData, signable_served J.bigInt_repr, Option.map_some]
  congr 1
  cases hkind : leg.kind <;>
    simp [servedAuthorization, servedDocument, WithdrawalAuthorization.typedData, legAuthorization, hkind,
      Leg.message, WithdrawalAuthorization.message, AuthorizationKind.primaryType]

/-- The dashboard brings the types itself. -/
lemma privyTypedData_served (W : PlannedWithdrawal P) (w : Withdrawal) (leg : Leg) (domain : TokenDomain) :
    ∃ typed, privyTypedData (servedAuthorization W w leg domain).typedData = .ok typed ∧
    typed.message = (servedAuthorization W w leg domain).typedData.message ∧
    (⟨typed.domain, typed.primaryType, typed.types, (servedDocument P w leg domain).message⟩ : SignableTypedData) =
      servedDocument P w leg domain := by
  let typed := (servedAuthorization W w leg domain).typedData
  refine ⟨⟨typed.domain, typed.primaryType, [(typed.primaryType, messageFields)], typed.message⟩, ?_, rfl, rfl⟩
  rw [privyTypedData, require_bind_eq_ok]
  refine ⟨?_, rfl⟩
  cases hkind : leg.kind <;>
    simp [servedAuthorization, WithdrawalAuthorization.typedData, legAuthorization, hkind,
      AuthorizationKind.primaryType]

/-- A signer hashes the message of the leg. -/
lemma AwaitingLeg.encode (h : AwaitingLeg W w leg domain) (S : Signer P) :
    S.encode (servedDocument P w leg domain) =
      some ((leg.message w.walletAddress).encoded (leg.signingDomain domain)) :=
  S.standard (leg.signingDomain domain) (leg.message w.walletAddress) ⟨h.terms.chain, h.terms.token⟩ h.terms.message

/-! ### Whole withdrawals -/

/-- Rounds that return what they are given with a result. -/
lemma map_fst_of_rounds {α β : Type} {f : α → Except String β} {xs : List α} {ys : List (α × β)}
    (h : List.Forall₂ (fun x y => (f x).map (fun b => (x, b)) = .ok y) xs ys) : ys.map Prod.fst = xs := by
  induction h with
  | nil => rfl
  | cons hround _ ih =>
    obtain ⟨b, -, rfl⟩ := map_eq_ok.1 hround
    rw [List.map_cons, ih]

lemma LegState.asStr_eq_awaiting {state : LegState} (h : state.asStr = "awaiting_signature") :
    state = .awaitingSignature := by
  cases state <;> first | rfl | exact absurd h (by decide)

/-- The legs that a client signs are those that await their signature. -/
lemma mem_awaiting_response {served : LegResponse} :
    served ∈ (response P.keccak W.plan.networks w legs).awaiting ↔
      ∃ entry ∈ legs, entry.1.state = .awaitingSignature ∧ served = servedLeg W w entry.1 entry.2 := by
  rw [WithdrawalResponse.awaiting, List.mem_filter, Bool.and_eq_true, decide_eq_true_eq]
  constructor
  · rintro ⟨hmem, hstate, -⟩
    obtain ⟨entry, hentry, rfl⟩ := List.mem_map.1 hmem
    exact ⟨entry, hentry, LegState.asStr_eq_awaiting hstate, rfl⟩
  · rintro ⟨entry, hentry, hstate, rfl⟩
    refine ⟨List.mem_map_of_mem hentry, ?_, ?_⟩
    · show entry.1.state.asStr = _
      rw [hstate]
      rfl
    · rw [servedLeg_authorization hstate]
      rfl

/-- The legs of the withdrawal in the tables. -/
lemma awaitingLeg_of_recorded {db : Store} (hdb : W.Recorded db)
    (hw : db.withdrawals.find? leg.withdrawalId = some w) (hleg : leg ∈ db.legs.rows) {new : NewWithdrawalLeg}
    (hnew : (new, domain) ∈ W.legs) (hid : leg.id = new.id) (hstate : leg.state = .awaitingSignature) :
    AwaitingLeg W w leg domain := by
  obtain ⟨now, hsame, hrow⟩ := hdb.rows hnew hleg hid hw
  obtain ⟨balance, hfrom⟩ := planLegs_from W _ hnew
  exact ⟨hstate, ⟨new, now, balance, hfrom, hsame⟩, hrow, hdb.terms hnew hleg hid hw⟩

/-- The SDK takes an answer whose documents it finds nothing wrong with. -/
lemma checkWithdrawal_eq_ok {withdrawal : WithdrawalResponse} {registry : ℕ → Option TrustedWithdrawalChain} {now : ℤ}
    (h : ∀ leg ∈ withdrawal.awaiting, ∃ authorization,
      Checked J P.keccak (some registry) now withdrawal leg authorization ∧
      (hexText 32 authorization.typedData.message.nonce).isSome = true ∧
      (hexText 20 authorization.typedData.domain.verifyingContract).isSome = true) :
    ∃ checked, checkWithdrawal J P.keccak now (some registry) withdrawal = .ok checked ∧
      checked.map Prod.fst = withdrawal.awaiting := by
  have hrounds : ∀ leg ∈ withdrawal.awaiting, ∃ y,
      (checkLeg J P.keccak now (some registry) withdrawal leg).map (fun typed => (leg, typed)) = .ok y := by
    intro leg hleg
    obtain ⟨authorization, hchecked, hshapes⟩ := h leg hleg
    exact ⟨_, map_eq_ok.2 ⟨_, checkLeg_iff.2 ⟨authorization, hchecked, rfl, hshapes⟩, rfl⟩⟩
  obtain ⟨checked, hmap⟩ := exists_mapM_ok hrounds
  exact ⟨checked, require_bind_eq_ok.2 ⟨fun _ => rfl, hmap⟩, map_fst_of_rounds (mapM_eq_ok.1 hmap)⟩

/-- So does the dashboard. -/
lemma sign_eq_ok {withdrawal : WithdrawalResponse} {now : ℤ}
    (h : ∀ leg ∈ withdrawal.awaiting, ∃ authorization,
      Checked J P.keccak (some (trustedRegistry chains)) now withdrawal leg authorization) :
    ∃ documents, sign J P.keccak now chains withdrawal = .ok documents ∧
      documents.length = withdrawal.awaiting.length := by
  have hchecks : withdrawal.awaiting.forM (checkLegAuthorization J P.keccak now chains withdrawal) = .ok () :=
    forM_eq_ok.2 fun leg hleg => checkLegAuthorization_iff.2 (h leg hleg)
  have hrounds : ∀ leg ∈ withdrawal.awaiting, ∃ typed, (do
      let authorization ← orError "This leg is not awaiting a signature." leg.authorization
      privyTypedData authorization.typedData) = .ok typed := by
    intro leg hleg
    obtain ⟨authorization, hchecked⟩ := h leg hleg
    refine ⟨_, orError_bind_eq_ok.2 ⟨authorization, hchecked.awaiting, require_bind_eq_ok.2 ⟨?_, rfl⟩⟩⟩
    -- the type is the one of the leg's kind
    rw [hchecked.type, LegResponse.expectedType]
    split
    · exact Or.inr rfl
    · exact Or.inl rfl
  obtain ⟨documents, hmap⟩ := exists_mapM_ok hrounds
  exact ⟨documents, bind_eq_ok.2 ⟨(), hchecks, hmap⟩, (mapM_eq_ok.1 hmap).length_eq.symm⟩

/-- The clients find nothing wrong with an answer of planned legs. -/
lemma checked_awaiting (h : ∀ entry ∈ legs, entry.1.state = .awaitingSignature → AwaitingLeg W w entry.1 entry.2)
    (hd : DeployedAs W w.currency chains) {now : ℤ} (hnow : ∀ entry ∈ legs, now < entry.1.validBefore) :
    ∀ served ∈ (response P.keccak W.plan.networks w legs).awaiting, ∃ authorization,
      Checked J P.keccak (some (trustedRegistry chains)) now (response P.keccak W.plan.networks w legs) served
        authorization ∧
      (hexText 32 authorization.typedData.message.nonce).isSome = true ∧
      (hexText 20 authorization.typedData.domain.verifyingContract).isSome = true := by
  intro served hserved
  obtain ⟨entry, hentry, hstate, rfl⟩ := mem_awaiting_response.1 hserved
  have hleg := h entry hentry hstate
  exact ⟨_, hleg.checked hd (hnow entry hentry),
    Option.isSome_iff_exists.2 ⟨_, hexText_fixedText hleg.terms.message.nonce⟩,
    Option.isSome_iff_exists.2 ⟨_, hexText_toChecksum P.keccak hleg.terms.token⟩⟩

end Served

/-- Both clients ask for what the server wants signed: with the deployment's own configuration, each of them
signs every leg of a recorded withdrawal that awaits its signature and is not expired.  The document is the
same for both, and a signature of the wallet over it passes the server's verification. -/
theorem served_documents_are_signed (J : Javascript) (S : Signer P) (W : PlannedWithdrawal P) (db : Store)
    (hdb : W.Recorded db) (w : Withdrawal) (chains : List PublicChain) (hd : DeployedAs W w.currency chains)
    (legs : List (Leg × TokenDomain))
    (hlegs : ∀ entry ∈ legs, entry.1 ∈ db.legs.rows ∧ db.withdrawals.find? entry.1.withdrawalId = some w ∧
      ∃ new, (new, entry.2) ∈ W.legs ∧ entry.1.id = new.id)
    (now : ℤ) (hnow : ∀ entry ∈ legs, now < entry.1.validBefore) :
    (∃ checked, checkWithdrawal J P.keccak now (some (trustedRegistry chains))
        (response P.keccak W.plan.networks w legs) = .ok checked ∧
      checked.map Prod.fst = (response P.keccak W.plan.networks w legs).awaiting) ∧
    (∃ documents, sign J P.keccak now chains (response P.keccak W.plan.networks w legs) = .ok documents ∧
      documents.length = (response P.keccak W.plan.networks w legs).awaiting.length) ∧
    ∀ entry ∈ legs, entry.1.state = .awaitingSignature → ∃ authorization document e,
      (servedLeg W w entry.1 entry.2).authorization = some authorization ∧
      toSignableTypedData J authorization.typedData = some document ∧
      (∃ typed message, privyTypedData authorization.typedData = .ok typed ∧
        typed.message.signable S.number = some message ∧
        ⟨typed.domain, typed.primaryType, typed.types, message⟩ = document) ∧
      S.encode document = some e ∧
      ∀ text raw signature, parseHex text = some raw → raw.length = 65 → P.fromRaw raw = some signature →
        P.recover signature (e.digest P) = some w.walletAddress → w.walletAddress ≠ 0 →
        verifyAuthorization P (legAuthorization entry.1 entry.2.name entry.2.version w.walletAddress).1
          (legAuthorization entry.1 entry.2.name entry.2.version w.walletAddress).2 text = .ok signature := by
  have hawaiting : ∀ entry ∈ legs, entry.1.state = .awaitingSignature → AwaitingLeg W w entry.1 entry.2 := by
    intro entry hentry hstate
    obtain ⟨hleg, hw, new, hnew, hid⟩ := hlegs entry hentry
    exact awaitingLeg_of_recorded hdb hw hleg hnew hid hstate
  have hchecked := checked_awaiting (J := J) hawaiting hd hnow
  refine ⟨checkWithdrawal_eq_ok hchecked, ?_, fun entry hentry hstate => ?_⟩
  · apply sign_eq_ok
    intro served hserved
    obtain ⟨authorization, hauthorization, -⟩ := hchecked served hserved
    exact ⟨authorization, hauthorization⟩
  · have h := hawaiting entry hentry hstate
    obtain ⟨typed, htyped, hmessage, hdocument⟩ := privyTypedData_served W w entry.1 entry.2
    refine ⟨servedAuthorization W w entry.1 entry.2, servedDocument P w entry.1 entry.2, _,
      servedLeg_authorization hstate, toSignableTypedData_served, ⟨typed, _, htyped, ?_, hdocument⟩, h.encode S, ?_⟩
    · rw [hmessage]
      exact signable_served S.number_repr
    · intro text raw signature htext hlength hraw hrecover hwallet
      -- the digest is the one that the server verifies a signature against
      rw [Eip3009.digest_encoded, ← digest_legAuthorization] at hrecover
      exact verifyAuthorization_eq_ok htext hlength hraw hrecover hwallet

/-! ### A withdrawal that is served -/

/-- A runtime that lowers the letters of ASCII. -/
def asciiJavascript : Javascript where
  number := parseNat (2 ^ 53)
  number_repr _ h := parseNat_repr h
  bigInt text := text.toInt?
  bigInt_repr := Nat.toInt?_repr
  toLowerCase text := String.ofList (text.toList.map Char.toLower)
  toLowerCase_ascii _ _ := rfl
  toLowerCase_hex := by
    intro text h c hc
    rw [String.toList_ofList] at h
    have hlower : c.toLower.toNat < 128 := by
      rcases h c.toLower (List.mem_map_of_mem hc) with hx | hvalue
      · rw [hx]
        decide
      · exact ascii_of_hexValue hvalue
    rw [toNat_toLower] at hlower
    split at hlower
    · omega
    · exact hlower

/-- The type that a text names. -/
def AuthorizationKind.ofPrimaryType (text : String) : Option AuthorizationKind :=
  if text = "TransferWithAuthorization" then some .transfer
  else if text = "ReceiveWithAuthorization" then some .receive
  else none

lemma AuthorizationKind.ofPrimaryType_primaryType (kind : AuthorizationKind) :
    AuthorizationKind.ofPrimaryType kind.primaryType = some kind := by
  cases kind <;> decide

lemma AuthorizationKind.primaryType_of_eq_some {kind : AuthorizationKind} {text : String}
    (h : AuthorizationKind.ofPrimaryType text = some kind) : text = kind.primaryType := by
  unfold AuthorizationKind.ofPrimaryType at h
  split at h
  · rename_i htext
    cases h
    exact htext
  · split at h
    · rename_i htext
      cases h
      exact htext
    · cases h

/-- The document is encoded if its types are those of EIP-3009. -/
def encodeEip3009 (document : SignableTypedData) : Option Encoded := do
  let kind ← AuthorizationKind.ofPrimaryType document.primaryType
  let m ← document.message.read kind
  let token ← hexText 20 document.domain.verifyingContract
  if document.types = [(document.primaryType, messageFields)] ∧ document.domain.chainId < 2 ^ 256 then
    some ⟨⟨document.domain.name, document.domain.version, document.domain.chainId, token⟩, kind.encodeType, m.words⟩
  else none

lemma encodeEip3009_eq_some {document : SignableTypedData} {e : Encoded} :
    encodeEip3009 document = some e ↔ ∃ kind m token,
      AuthorizationKind.ofPrimaryType document.primaryType = some kind ∧ document.message.read kind = some m ∧
      hexText 20 document.domain.verifyingContract = some token ∧
      (document.types = [(document.primaryType, messageFields)] ∧ document.domain.chainId < 2 ^ 256) ∧
      ⟨⟨document.domain.name, document.domain.version, document.domain.chainId, token⟩, kind.encodeType,
        m.words⟩ = e := by
  simp only [encodeEip3009, Option.bind_eq_bind, Option.bind_eq_some_iff, Option.ite_none_right_eq_some,
    Option.some.injEq]
  constructor
  · rintro ⟨kind, hkind, m, hm, token, htoken, htypes, he⟩
    exact ⟨kind, m, token, hkind, hm, htoken, htypes, he⟩
  · rintro ⟨kind, m, token, hkind, hm, htoken, htypes, he⟩
    exact ⟨kind, hkind, m, hm, token, htoken, htypes, he⟩

/-- The members of a message, written as the standard says. -/
lemma read_written (keccak : List UInt8 → Hash) {m : Eip3009} (h : m.InRange) :
    SignableMessage.read m.kind ⟨toChecksum keccak m.payer, toChecksum keccak m.payee, m.value, m.validAfter,
      m.validBefore, fixedText 32 m.nonce⟩ = some m := by
  have hnumber : ∀ n : ℕ, n < 2 ^ 256 → uint256 n = some n := by
    intro n hn
    rw [uint256, if_pos ⟨by omega, by exact_mod_cast hn⟩, Int.toNat_natCast]
  have hnonce : hexText 32 (fixedText 32 m.nonce) = some m.nonce := hexText_fixedText h.nonce
  simp only [SignableMessage.read, hexText_toChecksum keccak h.payer, hexText_toChecksum keccak h.payee,
    hnumber _ h.value, hnumber _ h.validAfter, hnumber _ h.validBefore, hnonce,
    Option.bind_eq_bind, Option.bind_some, Option.pure_def]

/-- A library that signs EIP-3009 messages and nothing else. -/
def eip3009Signer (P : Cryptography) : Signer P where
  number text := text.toInt?
  number_repr := Nat.toInt?_repr
  encode := encodeEip3009
  inRange document e h := by
    obtain ⟨kind, m, token, -, hm, htoken, htypes, rfl⟩ := encodeEip3009_eq_some.1 h
    obtain ⟨-, hm, -⟩ := SignableMessage.read_eq_some hm
    exact ⟨⟨htypes.2, lt_of_hexText htoken⟩,
      fun w hw => hm.words_lt (P := P) w (List.mem_cons_of_mem _ hw)⟩
  domain document e h := by
    obtain ⟨kind, m, token, -, -, htoken, -, rfl⟩ := encodeEip3009_eq_some.1 h
    exact ⟨rfl, htoken⟩
  members document e kind h htype := by
    obtain ⟨kind', m, token, hkind, hm, -, -, rfl⟩ := encodeEip3009_eq_some.1 h
    obtain rfl := AuthorizationKind.encodeType_injective htype
    exact ⟨AuthorizationKind.primaryType_of_eq_some hkind, m, hm, rfl⟩
  standard domain m hdomain hm :=
    encodeEip3009_eq_some.2 ⟨m.kind, m, domain.token, m.kind.ofPrimaryType_primaryType, read_written P.keccak hm,
      hexText_toChecksum P.keccak hdomain.2, ⟨rfl, hdomain.1⟩, rfl⟩

/-- The leg before it is signed. -/
def sampleAwaiting : Leg := sampleBridge.row 0 samplePlanned.input

def sampleToken (address : Address) (h : address < 2 ^ 160) : PublicToken :=
  ⟨"USDC", toChecksum sampleCryptography.keccak address, by rw [hexText_toChecksum _ h]; rfl⟩

/-- The configuration of the deployment that planned the withdrawal. -/
def samplePublicChains : List PublicChain :=
  [⟨1, "One", [sampleToken 20 (by decide)], some ⟨6, toChecksum sampleCryptography.keccak 13⟩⟩,
    ⟨2, "Two", [sampleToken 21 (by decide)], some ⟨3, toChecksum sampleCryptography.keccak 300⟩⟩]

lemma sample_deployedAs : DeployedAs samplePlanned samplePlanned.input.row.currency samplePublicChains where
  small := by decide
  destination_small := by decide
  tokens balance hbalance domain hdomain := by
    rw [List.mem_singleton.1 hbalance]
    cases hdomain
    exact ⟨_, _, rfl, rfl, hexText_toChecksum _ (by decide)⟩
  cctp chainId config h := by
    obtain ⟨network, hnetwork, hcctp⟩ := Option.bind_eq_some_iff.1 h
    rw [ChainRegistry.get] at hnetwork
    have hid : network.chainId = chainId := by simpa using List.find?_some hnetwork
    have hmem : network ∈ samplePlan.networks := List.mem_of_find?_eq_some hnetwork
    rcases List.mem_cons.1 hmem with rfl | hmem
    · cases hid
      cases hcctp
      exact ⟨_, _, rfl, rfl, hexText_toChecksum _ (by decide)⟩
    · rw [List.mem_singleton.1 hmem] at hid hcctp
      cases hid
      cases hcctp
      exact ⟨_, _, rfl, rfl, hexText_toChecksum _ (by decide)⟩
  bridges _ := rfl

lemma sample_created : ∃ created, Store.empty.create 0 samplePlanned.input = .ok created ∧
    created.legs.rows = [sampleAwaiting] ∧ created.withdrawals.rows = [samplePlanned.input.row] :=
  ⟨_, rfl, rfl, rfl⟩

/-- The dashboard asks for the one document, and the wallet's signature of it is taken. -/
theorem bridge_document_is_signed : ∃ document e,
    toSignableTypedData asciiJavascript
      (servedAuthorization samplePlanned samplePlanned.input.row sampleAwaiting sampleDomain).typedData =
        some document ∧
    encodeEip3009 document = some e ∧
    verifyAuthorization sampleCryptography (legAuthorization sampleAwaiting "USDC" "2" 100).1
      (legAuthorization sampleAwaiting "USDC" "2" 100).2
      (fixedText 65 (ofBE (sampleSign 100 (e.digest sampleCryptography)))) =
        .ok (sampleSign 100 (e.digest sampleCryptography)) := by
  obtain ⟨created, hcreate, hlegs, hwithdrawals⟩ := sample_created
  obtain ⟨-, -, hserved⟩ := served_documents_are_signed asciiJavascript (eip3009Signer sampleCryptography) samplePlanned
    created ⟨Store.empty, created, 0, hcreate, .refl⟩ samplePlanned.input.row samplePublicChains sample_deployedAs
    [(sampleAwaiting, sampleDomain)] (by
      intro entry hentry
      rw [List.mem_singleton.1 hentry]
      refine ⟨by rw [hlegs]; exact List.mem_singleton_self _, ?_, sampleBridge, List.mem_singleton_self _, rfl⟩
      exact Table.find?_of_mem (by rw [hwithdrawals]; exact List.mem_singleton_self _))
    5000 (by
      intro entry hentry
      rw [List.mem_singleton.1 hentry]
      decide)
  obtain ⟨authorization, document, e, hauthorization, hdocument, -, hencode, hverify⟩ :=
    hserved (sampleAwaiting, sampleDomain) (List.mem_singleton_self _) rfl
  cases (servedLeg_authorization rfl).symm.trans hauthorization
  refine ⟨document, e, hdocument, hencode, ?_⟩
  have htext := parseHex_fixedText (sampleSign 100 (e.digest sampleCryptography))
  rw [sampleSign_length] at htext
  refine hverify _ _ _ htext (sampleSign_length _) (sampleSign_fromRaw _) ?_ (by decide)
  rw [sampleSign_recover _ _ (by decide), if_pos rfl]
  rfl

end Payday.Withdrawals
