/-
# What an untrusted server can have signed

The documents come from a server that may have written anything, and the signatures may be presented
by anyone, to any token and through any forwarder.  An approval is what a merchant means by one
signature: an amount of a token on a chain goes to the destination, or is burnt towards it.  Every run of
a chain is one in which the wallet's money only moves as it was approved, once for every approval.
-/
import Payday.Withdrawals.ServedDocuments

namespace Payday.Withdrawals

variable {P : Cryptography}

/-! ### Approvals -/

/-- What a merchant means by one signature. -/
structure Approval (P : Cryptography) where
  /-- The chain and the token. -/
  domain : TokenDomain
  message : Eip3009
  destination : Address
  /-- For a bridge, the domain that is burnt towards, and the salt. -/
  burn : Option (ℕ × Hash)
  domainInRange : domain.InRange
  inRange : message.InRange
  destination_lt : destination < 2 ^ 160
  pays : burn = none → message.kind = .transfer ∧ message.payee = destination
  burns : ∀ target salt, burn = some (target, salt) → message.kind = .receive ∧ target < 2 ^ 32 ∧
    salt < 2 ^ 256 ∧ message.nonce = bridgeNonce P.keccak target destination salt

namespace Approval

/-- The chain moves the money as it was approved. -/
def Moves (a : Approval P) (chain chain' : SourceChain) : Prop :=
  chain.chainId = a.domain.chainId ∧
  match a.burn with
  | none => chain.Pays a.domain.token a.message.payer a.destination a.message.value chain'
  | some (target, _) =>
    chain.Burns a.message.payee a.domain.token a.message.payer a.message.value target a.destination chain'

/-- The document that was signed is that of the approval. -/
structure Encodes (e : Encoded) (a : Approval P) : Prop where
  typeText : e.typeText = a.message.kind.encodeType
  words : e.words = a.message.words
  chainId : e.domain.chainId = a.domain.chainId
  token : e.domain.token = a.domain.token

/-- What the nonce of the approval hashes. -/
def nonceHashed (a : Approval P) : Set (List UInt8) :=
  {input | ∃ target salt, a.burn = some (target, salt) ∧ input = nonceInput target a.destination salt}

end Approval

/-! ### What calls do to nonces -/

namespace SourceChain

variable {chain chain' : SourceChain} {address : Address}

/-- The token at an address took the nonce of a payer, which was not used before. -/
structure Consumes (chain : SourceChain) (address payer : Address) (nonce : Hash) (token token' : Token)
    (chain' : SourceChain) : Prop where
  replaces : chain.Replaces address token token' chain'
  domain : token'.domain = token.domain
  unused : token.used payer nonce = false
  used : ∀ p n, token'.used p n = (token.used p n || decide (p = payer ∧ n = nonce))

lemma Consumes.after {payer : Address} {nonce : Hash} {token token' : Token}
    (h : chain.Consumes address payer nonce token token' chain') : chain'.code address = some (.token token') := by
  rw [h.replaces.code, if_pos rfl]

/-- The chain stays the chain of its tokens. -/
lemma Consumes.chainId {payer : Address} {nonce : Hash} {token token' : Token}
    (h : chain.Consumes address payer nonce token token' chain') : chain'.chainId = chain.chainId := by
  rw [← (chain'.own address token' h.after).1, h.domain, (chain.own address token h.replaces.before).1]

lemma callToken_consumes {caller : Address} {m : Eip3009} {signature : List UInt8}
    (h : chain.callToken P caller address m signature = some chain') :
    ∃ token token', chain.Consumes address m.payer m.nonce token token' chain' ∧
      token.authorizes P chain.now caller m signature = true ∧ m.value ≤ token.balance m.payer ∧
      (∀ a, token'.balance a = token.balance a - (if a = m.payer then m.value else 0) +
        (if a = m.payee then m.value else 0)) ∧
      chain'.deposits = chain.deposits := by
  obtain ⟨token, token', hf, hreplaces, hdeposits, -⟩ := updateToken_some h
  unfold Token.withAuthorization at hf
  split at hf
  · rename_i hok
    cases hf
    have hunused : token.used m.payer m.nonce = false := by
      have hauthorizes := hok.1
      simp only [Token.authorizes, Bool.and_eq_true, Bool.not_eq_true'] at hauthorizes
      exact hauthorizes.1.1.2
    exact ⟨token, _, ⟨hreplaces, rfl, hunused, fun _ _ => rfl⟩, hok.1, hok.2, fun _ => rfl, hdeposits⟩
  · cases hf

lemma bridgeWith_consumes {takes : Deposit → Bool} {self tokenMessenger : Address} {args : BridgeArguments}
    (h : chain.bridgeWith P takes self tokenMessenger args = some chain') :
    ∃ token token', chain.Consumes args.token args.payer (args.message P self).nonce token token' chain' ∧
      token.authorizes P chain.now self (args.message P self) args.signature = true ∧
      args.value ≤ token.balance args.payer ∧
      (∀ a, token'.balance a = token.balance a - (if a = args.payer then args.value else 0)) ∧
      chain'.deposits = args.deposit self tokenMessenger :: chain.deposits := by
  obtain ⟨chain₁, hcall, hdeposit⟩ := Option.bind_eq_some_iff.1 h
  obtain ⟨token, token₁, hconsumes, hauthorizes, hvalue, hbalance, hdeposits⟩ := callToken_consumes hcall
  unfold depositForBurn at hdeposit
  split at hdeposit
  · obtain ⟨chain₂, hburn, rfl⟩ := Option.map_eq_some_iff.1 hdeposit
    obtain ⟨token₂, token', hf, hreplaces, hdeposits', -⟩ := updateToken_some hburn
    obtain ⟨rfl, hboth⟩ := hconsumes.replaces.trans hreplaces
    unfold Token.burn at hf
    split at hf
    · cases hf
      refine ⟨token, _, ⟨⟨hboth.before, hboth.code⟩, hconsumes.domain, hconsumes.unused, hconsumes.used⟩, hauthorizes,
        hvalue, fun a => ?_, ?_⟩
      · show token₂.balance a - _ = _
        rw [hbalance]
        exact Nat.add_sub_cancel ..
      · show args.deposit self tokenMessenger :: chain₂.deposits = _
        rw [hdeposits', hdeposits]
    · cases hf
  · cases hdeposit

end SourceChain

/-! ### Runs of a chain -/

/-- Contracts stay where they are, and nothing that is the wallet's is taken or used. -/
structure Undisturbed (wallet : Address) (chain chain' : SourceChain) : Prop where
  chainId : chain'.chainId = chain.chainId
  forwarders : ∀ a messenger, chain.code a = some (.forwarder messenger) →
    chain'.code a = some (.forwarder messenger)
  tokens : ∀ a token, chain.code a = some (.token token) → ∃ token', chain'.code a = some (.token token') ∧
    token'.domain = token.domain ∧ token.balance wallet ≤ token'.balance wallet ∧
    ∀ nonce, token'.used wallet nonce = token.used wallet nonce

section ChainStep

variable (P) (wallet : Address) (signed : Set Encoded) (inputs : Set (List UInt8))

/-- What anyone can do on the chain.  The wallet signs documents only: a signature that recovers to it is
one it made. -/
inductive ChainStep : SourceChain → SourceChain → Prop
  /-- A signature is presented to a token, by whoever it is; a forwarder does so in `bridge` only. -/
  | present {chain chain' : SourceChain} {caller address : Address} {token : Token} {m : Eip3009}
      {signature : List UInt8} (hcaller : ∀ messenger, chain.code caller ≠ some (.forwarder messenger))
      (hcode : chain.code address = some (.token token)) (hm : m.InRange)
      (hhashed : m.hashed P token.domain ⊆ inputs)
      (hsigned : P.recover signature (m.digest P token.domain) = some wallet →
        ∃ e ∈ signed, e.digest P = m.digest P token.domain)
      (h : chain.callToken P caller address m signature = some chain') : ChainStep chain chain'
  /-- A forwarder is called, with whatever arguments. -/
  | bridge {chain chain' : SourceChain} {takes : Deposit → Bool} {self messenger : Address} {token : Token}
      {args : BridgeArguments} (hself : chain.code self = some (.forwarder messenger)) (hself_lt : self < 2 ^ 160)
      (hcode : chain.code args.token = some (.token token)) (hargs : args.InRange)
      (hhashed : (args.message P self).hashed P token.domain ⊆ inputs)
      (hnonce : nonceInput args.destinationDomain args.mintRecipient args.salt ∈ inputs)
      (hsigned : P.recover args.signature ((args.message P self).digest P token.domain) = some wallet →
        ∃ e ∈ signed, e.digest P = (args.message P self).digest P token.domain)
      (h : chain.bridgeWith P takes self messenger args = some chain') : ChainStep chain chain'
  /-- Time passes, contracts are deployed, others move what is theirs. -/
  | other {chain chain' : SourceChain} (h : Undisturbed wallet chain chain') : ChainStep chain chain'

end ChainStep

/-- The abstract chain: the wallet's money moves as approved, in this order, and not otherwise. -/
inductive Traced (wallet : Address) : SourceChain → List (Approval P) → SourceChain → Prop
  | refl (chain : SourceChain) : Traced wallet chain [] chain
  | quiet {chain chain' chain'' : SourceChain} {moved : List (Approval P)}
      (h : Traced wallet chain moved chain') (hquiet : Undisturbed wallet chain' chain'') :
      Traced wallet chain moved chain''
  | moves {chain chain' chain'' : SourceChain} {moved : List (Approval P)} {a : Approval P}
      (h : Traced wallet chain moved chain') (hmoves : a.Moves chain' chain'') :
      Traced wallet chain (moved ++ [a]) chain''

/-- Each document that was signed, if it is an EIP-3009 message at all, is that of an approval; a
bridge is approved through a forwarder. -/
structure Backed (signed : Set Encoded) (inputs : Set (List UInt8)) (approvals : Set (Approval P))
    (chain : SourceChain) : Prop where
  inRange : ∀ e ∈ signed, e.InRange
  hashed : ∀ e ∈ signed, e.hashed P ⊆ inputs
  approved : ∀ e ∈ signed, ∀ kind : AuthorizationKind, e.typeText = kind.encodeType →
    ∃ a ∈ approvals, a.Encodes e
  nonces : ∀ a ∈ approvals, a.nonceHashed ⊆ inputs
  forwarders : ∀ a ∈ approvals, a.burn.isSome → a.domain.chainId = chain.chainId →
    ∃ messenger, chain.code a.message.payee = some (.forwarder messenger)

section Run

variable {wallet : Address} {signed : Set Encoded} {inputs : Set (List UInt8)}
  {approvals : Set (Approval P)} {chain chain' : SourceChain}

lemma undisturbed_of_consumes {address payer : Address} {nonce : Hash} {token token' : Token}
    (h : chain.Consumes address payer nonce token token' chain') (hpayer : payer ≠ wallet)
    (hbalance : token.balance wallet ≤ token'.balance wallet) : Undisturbed wallet chain chain' where
  chainId := h.chainId
  forwarders a messenger hcode := by
    have hne : a ≠ address := by
      rintro rfl
      rw [h.replaces.before] at hcode
      cases hcode
    rw [h.replaces.code, if_neg hne, hcode]
  tokens a token₁ hcode := by
    rw [h.replaces.code]
    by_cases ha : a = address
    · subst ha
      rw [h.replaces.before] at hcode
      cases hcode
      refine ⟨token', if_pos rfl, h.domain, hbalance, fun n => ?_⟩
      rw [h.used, decide_eq_false (fun hp => hpayer hp.1.symm), Bool.or_false]
    · exact ⟨token₁, by rw [if_neg ha, hcode], rfl, le_rfl, fun _ => rfl⟩

/-- Without a collision, the wallet's signature for a message at a token is for an approval of it. -/
lemma Backed.approval (hb : Backed signed inputs approvals chain) (hfree : Set.InjOn P.keccak inputs)
    {address : Address} {token : Token} (hcode : chain.code address = some (.token token)) {m : Eip3009}
    (hm : m.InRange) (hhashed : m.hashed P token.domain ⊆ inputs)
    (hsigned : ∃ e ∈ signed, e.digest P = m.digest P token.domain) :
    ∃ a ∈ approvals, a.message = m ∧ a.domain.chainId = chain.chainId ∧ a.domain.token = address := by
  obtain ⟨e, he, hdigest⟩ := hsigned
  obtain ⟨hchain, htoken, haddress⟩ := chain.own address token hcode
  have hdomain : token.domain.InRange :=
    ⟨by rw [hchain]; exact chain.chainId_lt, by rw [htoken]; exact haddress⟩
  obtain ⟨htype, hwords, hchains, htokens⟩ := Encoded.eq_of_digest_eq (hb.inRange e he) hm hdomain
    (hfree.mono (Set.union_subset (hb.hashed e he) hhashed)) hdigest
  obtain ⟨a, ha, hencodes⟩ := hb.approved e he m.kind htype
  have hkind : a.message.kind = m.kind :=
    AuthorizationKind.encodeType_injective (hencodes.typeText.symm.trans htype)
  refine ⟨a, ha, ?_, by rw [← hencodes.chainId, hchains, hchain], by rw [← hencodes.token, htokens, htoken]⟩
  have hmembers := hencodes.words.symm.trans hwords
  simp only [Eip3009.words, List.cons.injEq, and_true] at hmembers
  obtain ⟨hpayer, hpayee, hvalue, hafter, hbefore, hnonce⟩ := hmembers
  cases m
  cases hmessage : a.message
  simp_all

/-- A token takes a signature for one whose recovered signer is the payer, and a payee's message from the
payee only. -/
lemma recovers_of_authorizes {token : Token} {now : ℕ} {caller : Address} {m : Eip3009} {signature : List UInt8}
    (h : token.authorizes P now caller m signature = true) :
    P.recover signature (m.digest P token.domain) = some m.payer ∧ (m.kind = .transfer ∨ caller = m.payee) := by
  simp only [Token.authorizes, Bool.and_eq_true, Bool.or_eq_true, decide_eq_true_eq] at h
  exact ⟨h.2, h.1.2⟩

/-- The money of the wallet moved as one of the approvals says, and its nonce is spent. -/
def Spends (wallet : Address) (approvals : Set (Approval P)) (chain chain' : SourceChain) : Prop :=
  ∃ a ∈ approvals, a.message.payer = wallet ∧ a.Moves chain chain' ∧
    ∃ token token', chain.Consumes a.domain.token wallet a.message.nonce token token' chain'

lemma Backed.present (hb : Backed signed inputs approvals chain) (hfree : Set.InjOn P.keccak inputs)
    {caller address : Address} {token : Token} {m : Eip3009} {signature : List UInt8}
    (hcaller : ∀ messenger, chain.code caller ≠ some (.forwarder messenger))
    (hcode : chain.code address = some (.token token)) (hm : m.InRange)
    (hhashed : m.hashed P token.domain ⊆ inputs)
    (hsigned : P.recover signature (m.digest P token.domain) = some wallet →
      ∃ e ∈ signed, e.digest P = m.digest P token.domain)
    (h : chain.callToken P caller address m signature = some chain') :
    Undisturbed wallet chain chain' ∨ Spends wallet approvals chain chain' := by
  obtain ⟨token₁, token', hconsumes, hauthorizes, hvalue, hbalance, hdeposits⟩ :=
    SourceChain.callToken_consumes h
  cases hcode.symm.trans hconsumes.replaces.before
  obtain ⟨hrecover, htaken⟩ := recovers_of_authorizes hauthorizes
  by_cases hpayer : m.payer = wallet
  · obtain ⟨a, ha, rfl, hchain, rfl⟩ := hb.approval hfree hcode hm hhashed (hsigned (by rw [hrecover, hpayer]))
    refine Or.inr ⟨a, ha, hpayer, ⟨hchain.symm, ?_⟩, token, token', by rw [← hpayer]; exact hconsumes⟩
    cases hburn : a.burn with
    | none =>
      refine ⟨token, token', hconsumes.replaces, hvalue, fun b => ?_, hdeposits⟩
      rw [hbalance b, (a.pays hburn).2]
    | some target =>
      -- only the payee can present it, and that is a forwarder
      obtain ⟨hreceive, -⟩ := a.burns target.1 target.2 hburn
      obtain ⟨messenger, hforwarder⟩ := hb.forwarders a ha (by rw [hburn]; rfl) hchain
      rcases htaken with htransfer | rfl
      · rw [hreceive] at htransfer
        cases htransfer
      · exact absurd hforwarder (hcaller messenger)
  · refine Or.inl (undisturbed_of_consumes hconsumes hpayer ?_)
    rw [hbalance, if_neg (Ne.symm hpayer)]
    omega

lemma Backed.bridge (hb : Backed signed inputs approvals chain) (hfree : Set.InjOn P.keccak inputs)
    {takes : Deposit → Bool} {self messenger : Address} {token : Token} {args : BridgeArguments}
    (hself : chain.code self = some (.forwarder messenger)) (hself_lt : self < 2 ^ 160)
    (hcode : chain.code args.token = some (.token token)) (hargs : args.InRange)
    (hhashed : (args.message P self).hashed P token.domain ⊆ inputs)
    (hnonce : nonceInput args.destinationDomain args.mintRecipient args.salt ∈ inputs)
    (hsigned : P.recover args.signature ((args.message P self).digest P token.domain) = some wallet →
      ∃ e ∈ signed, e.digest P = (args.message P self).digest P token.domain)
    (h : chain.bridgeWith P takes self messenger args = some chain') :
    Undisturbed wallet chain chain' ∨ Spends wallet approvals chain chain' := by
  obtain ⟨token₁, token', hconsumes, hauthorizes, hvalue, hbalance, hdeposits⟩ :=
    SourceChain.bridgeWith_consumes h
  cases hcode.symm.trans hconsumes.replaces.before
  obtain ⟨hrecover, -⟩ := recovers_of_authorizes hauthorizes
  have hm : (args.message P self).InRange :=
    ⟨hargs.payer, hself_lt, hargs.value, show 0 < 2 ^ 256 by decide, hargs.validBefore, P.keccak_lt _⟩
  by_cases hpayer : args.payer = wallet
  · obtain ⟨a, ha, hmessage, hchain, htoken⟩ := hb.approval hfree hcode hm hhashed
      (hsigned (by rw [hrecover]; exact congrArg some hpayer))
    have hpaid : a.message.payer = wallet := by rw [hmessage]; exact hpayer
    refine Or.inr ⟨a, ha, hpaid, ⟨hchain.symm, ?_⟩, token, token', by rw [htoken, hmessage, ← hpayer]; exact hconsumes⟩
    cases hburn : a.burn with
    | none =>
      have hkind := (a.pays hburn).1
      rw [hmessage] at hkind
      cases hkind
    | some target =>
      obtain ⟨target, salt⟩ := target
      obtain ⟨-, htarget, hsalt, hcommits⟩ := a.burns target salt hburn
      -- the nonce is that of the destination, so the burn is towards it
      have hnonces : bridgeNonce P.keccak args.destinationDomain args.mintRecipient args.salt =
          bridgeNonce P.keccak target a.destination salt := by
        rw [← hcommits, hmessage]
        rfl
      obtain ⟨hdomain, hrecipient, -⟩ := eq_of_bridgeNonce_eq hargs.destinationDomain htarget
        hargs.mintRecipient (address_lt_word a.destination_lt) hargs.salt hsalt
        (hfree.mono (Set.insert_subset hnonce (Set.singleton_subset_iff.2
          (hb.nonces a ha ⟨target, salt, hburn, rfl⟩)))) hnonces
      refine ⟨token, token', messenger, by rw [hmessage]; exact hself, by rw [htoken]; exact hconsumes.replaces,
        by rw [hmessage]; exact hvalue, fun b => ?_, ?_⟩
      · rw [hbalance b, hmessage]
        rfl
      · rw [hdeposits, hmessage, ← hdomain, ← hrecipient, htoken]
        rfl
  · refine Or.inl (undisturbed_of_consumes hconsumes hpayer ?_)
    rw [hbalance, if_neg (Ne.symm hpayer)]
    omega

/-- What a step does: nothing to the wallet, or what it approved. -/
lemma ChainStep.effect (h : ChainStep P wallet signed inputs chain chain') (hfree : Set.InjOn P.keccak inputs)
    (hb : Backed signed inputs approvals chain) :
    Undisturbed wallet chain chain' ∨ Spends wallet approvals chain chain' := by
  cases h with
  | present hcaller hcode hm hhashed hsigned h => exact hb.present hfree hcaller hcode hm hhashed hsigned h
  | bridge hself hself_lt hcode hargs hhashed hnonce hsigned h =>
    exact hb.bridge hfree hself hself_lt hcode hargs hhashed hnonce hsigned h
  | other h => exact Or.inl h

/-- Contracts stay, and what the wallet used stays used. -/
structure Keeps (wallet : Address) (chain chain' : SourceChain) : Prop where
  chainId : chain'.chainId = chain.chainId
  forwarders : ∀ a messenger, chain.code a = some (.forwarder messenger) →
    chain'.code a = some (.forwarder messenger)
  used : ∀ a token, chain.code a = some (.token token) → ∃ token', chain'.code a = some (.token token') ∧
    ∀ nonce, token.used wallet nonce = true → token'.used wallet nonce = true

lemma Undisturbed.keeps (h : Undisturbed wallet chain chain') : Keeps wallet chain chain' where
  chainId := h.chainId
  forwarders := h.forwarders
  used a token hcode := by
    obtain ⟨token', hcode', -, -, hused⟩ := h.tokens a token hcode
    exact ⟨token', hcode', fun nonce hnonce => by rw [hused, hnonce]⟩

lemma Spends.keeps (h : Spends wallet approvals chain chain') : Keeps wallet chain chain' := by
  obtain ⟨a, -, -, -, token, token', h⟩ := h
  refine ⟨h.chainId, fun b messenger hcode => ?_, fun b token₁ hcode => ?_⟩
  · have hne : b ≠ a.domain.token := by
      rintro rfl
      rw [h.replaces.before] at hcode
      cases hcode
    rw [h.replaces.code, if_neg hne, hcode]
  · by_cases hb : b = a.domain.token
    · subst hb
      cases hcode.symm.trans h.replaces.before
      exact ⟨token', h.after, fun nonce hnonce => by rw [h.used, hnonce, Bool.true_or]⟩
    · refine ⟨token₁, ?_, fun _ hnonce => hnonce⟩
      rw [h.replaces.code, if_neg hb, hcode]

lemma Backed.keeps (hb : Backed signed inputs approvals chain) (h : Keeps wallet chain chain') :
    Backed signed inputs approvals chain' where
  inRange := hb.inRange
  hashed := hb.hashed
  approved := hb.approved
  nonces := hb.nonces
  forwarders a ha hburn hchain := by
    obtain ⟨messenger, hcode⟩ := hb.forwarders a ha hburn (hchain.trans h.chainId)
    exact ⟨messenger, h.forwarders _ messenger hcode⟩

/-- The nonce of the approval is spent at its token. -/
def Approval.Spent (a : Approval P) (wallet : Address) (chain : SourceChain) : Prop :=
  ∃ token, chain.code a.domain.token = some (.token token) ∧ token.used wallet a.message.nonce = true

lemma Approval.Spent.keeps {a : Approval P} (h : a.Spent wallet chain) (hkeeps : Keeps wallet chain chain') :
    a.Spent wallet chain' := by
  obtain ⟨token, hcode, hused⟩ := h
  obtain ⟨token', hcode', hkept⟩ := hkeeps.used _ token hcode
  exact ⟨token', hcode', hkept _ hused⟩

/-- What an approval's nonce is spent under. -/
def Approval.key (a : Approval P) : Address × Hash := (a.domain.token, a.message.nonce)

/-- Every run of a chain is a run of the abstract one, with each approval used once at most. -/
lemma Backed.run (hb : Backed signed inputs approvals chain) (hfree : Set.InjOn P.keccak inputs)
    (h : Relation.ReflTransGen (ChainStep P wallet signed inputs) chain chain') :
    Backed signed inputs approvals chain' ∧ ∃ moved : List (Approval P), Traced wallet chain moved chain' ∧
      (∀ a ∈ moved, a ∈ approvals ∧ a.message.payer = wallet ∧ a.Spent wallet chain') ∧
      (moved.map Approval.key).Nodup := by
  induction h with
  | refl => exact ⟨hb, [], .refl chain, by simp, by simp⟩
  | tail _ hstep ih =>
    rename_i chain₁ chain₂ hrun
    obtain ⟨hb₁, moved, htraced, hmoved, hnodup⟩ := ih
    rcases hstep.effect hfree hb₁ with hquiet | hspends
    · refine ⟨hb₁.keeps hquiet.keeps, moved, .quiet htraced hquiet, fun a ha => ?_, hnodup⟩
      obtain ⟨hmem, hpayer, hspent⟩ := hmoved a ha
      exact ⟨hmem, hpayer, hspent.keeps hquiet.keeps⟩
    · have hkeeps := hspends.keeps
      obtain ⟨a, ha, hpayer, hmoves, token, token', hconsumes⟩ := hspends
      refine ⟨hb₁.keeps hkeeps, moved ++ [a], .moves htraced hmoves, fun b hmem => ?_, ?_⟩
      · rcases List.mem_append.1 hmem with hmem | hmem
        · obtain ⟨hmem, hpayer, hspent⟩ := hmoved b hmem
          exact ⟨hmem, hpayer, hspent.keeps hkeeps⟩
        · rw [List.mem_singleton.1 hmem]
          refine ⟨ha, hpayer, token', hconsumes.after, ?_⟩
          rw [hconsumes.used, decide_eq_true ⟨rfl, rfl⟩, Bool.or_true]
      · rw [List.map_append, List.map_singleton, List.nodup_append]
        refine ⟨hnodup, List.nodup_singleton _, ?_⟩
        -- an approval with this nonce would have spent it
        intro key hkey key' hkey' heq
        obtain ⟨b, hmem, rfl⟩ := List.mem_map.1 hkey
        rw [List.mem_singleton.1 hkey'] at heq
        obtain ⟨htokens, hnonces⟩ := Prod.mk.inj heq
        obtain ⟨-, -, token₁, hcode, hused⟩ := hmoved b hmem
        rw [htokens] at hcode
        cases hcode.symm.trans hconsumes.replaces.before
        rw [hnonces, hconsumes.unused] at hused
        cases hused

end Run

/-! ### What the merchant approves -/

section Asked

variable {J : Javascript} {S : Signer P} {withdrawal : WithdrawalResponse}
  {registry : Option (ℕ → Option TrustedWithdrawalChain)} {leg : LegResponse} {document : SignableTypedData}

/-- The approval is what the merchant entered, for this leg. -/
structure Approval.Intended (a : Approval P) (withdrawal : WithdrawalResponse)
    (registry : Option (ℕ → Option TrustedWithdrawalChain)) (leg : LegResponse) (destination : Address)
    (chain : Option ℕ) : Prop where
  destination : a.destination = destination
  /-- The contract is the registry's for the currency. -/
  token : ∀ chains ∈ registry, ∃ source token, chains a.domain.chainId = some source ∧
    source.tokens withdrawal.currency = some token ∧ ∀ contract, hexText 20 token = some contract →
      a.domain.token = contract
  pays : leg.isBridge = false → a.burn = none
  /-- A transfer is on the chain that was entered. -/
  settles : leg.kind = "transfer" → chain = some a.domain.chainId
  /-- A bridge is through the registry's forwarder, towards the domain of the chain that was entered. -/
  bridges : leg.isBridge = true → ∃ chains ∈ registry, ∃ source target salt,
    (chains a.domain.chainId).bind TrustedWithdrawalChain.cctp = some source ∧
    (chain.bind chains).bind TrustedWithdrawalChain.cctp = some target ∧ a.burn = some (target.domain, salt) ∧
    ∀ forwarder, hexText 20 source.forwarder = some forwarder → a.message.payee = forwarder

/-- Whatever the answer was, an EIP-3009 message that a signer was asked for is an approval of what the
merchant entered. -/
lemma Asked.approval (h : Asked J S withdrawal registry leg document) {destination : Address}
    {chain : Option ℕ} (hentered : Entered J withdrawal destination chain) {e : Encoded}
    (hencode : S.encode document = some e) {kind : AuthorizationKind} (htype : e.typeText = kind.encodeType) :
    ∃ a : Approval P, a.Encodes e ∧ a.Intended withdrawal registry leg destination chain ∧
      a.nonceHashed ⊆ withdrawal.nonceHashed J := by
  obtain ⟨hleg, now, authorization, number, hchecked, hdomain, hprimary, -, hreads⟩ := h.checked
  obtain ⟨hchain, text, hechoed, htext⟩ := hentered.echoed
  obtain ⟨hchainId, hcontract⟩ := S.domain _ _ hencode
  obtain ⟨hkind, m, hread, hwords⟩ := S.members _ _ kind hencode htype
  obtain ⟨rfl, hm, hpayee, hnonce⟩ := SignableMessage.read_eq_some hread
  rw [hdomain] at hchainId hcontract
  rw [hreads.payee] at hpayee
  rw [hreads.nonce] at hnonce
  have hinRange := S.inRange _ _ hencode
  -- what holds for legs of both kinds
  have htoken : ∀ chains ∈ registry, ∃ source token, chains e.domain.chainId = some source ∧
      source.tokens withdrawal.currency = some token ∧ ∀ contract, hexText 20 token = some contract →
        e.domain.token = contract := by
    intro chains hchains
    obtain ⟨source, hsource, token, htoken, -, hsame⟩ := hchecked.token chains hchains
    refine ⟨source, token, by rw [hchainId]; exact hsource, htoken, fun contract htrusted => ?_⟩
    exact Javascript.hexText_of_same hsame hcontract htrusted
  have hsettles : leg.kind = "transfer" → chain = some e.domain.chainId := by
    intro htransfer
    rw [← hchain, ← hchecked.transfer htransfer, hchecked.chain, hchainId]
  have hprimaryType : m.kind.primaryType = leg.expectedType := by
    rw [← hkind, hprimary, hchecked.type]
  cases hbridge : leg.isBridge with
  | false =>
    have htransfer : m.kind = .transfer := AuthorizationKind.eq_of_primaryType
      (hprimaryType.trans (by simp [LegResponse.expectedType, hbridge, AuthorizationKind.primaryType]))
    have hpays : m.payee = destination := by
      have hsame := hchecked.payee
      simp only [LegResponse.documentedPayee, hbridge, Bool.false_eq_true, if_false] at hsame
      exact Javascript.hexText_of_same (Javascript.same_trans hsame hechoed) hpayee htext
    refine ⟨⟨e.domain, m, destination, none, hinRange.domain, hm, lt_of_hexText htext, fun _ => ⟨htransfer, hpays⟩,
      fun _ _ hburn => by cases hburn⟩, ⟨htype, hwords, rfl, rfl⟩, ⟨rfl, htoken, fun _ => rfl, hsettles, ?_⟩, ?_⟩
    · intro hcontra
      rw [hbridge] at hcontra
      cases hcontra
    · rintro input ⟨_, _, hburn, -⟩
      cases hburn
  | true =>
    have hreceive : m.kind = .receive := AuthorizationKind.eq_of_primaryType
      (hprimaryType.trans (by simp [LegResponse.expectedType, hbridge, AuthorizationKind.primaryType]))
    obtain ⟨chains, hchains, source, target, preimage, hb⟩ := hchecked.bridge hbridge
    obtain ⟨expected, hexpected, hsameNonce⟩ := hb.nonce
    obtain ⟨recipient, salt, hrecipient, hsalt, hlt, rfl⟩ := bridgeNonceText_eq_some hexpected
    have hrecipients : recipient = destination := by
      have hmint := hexText_recipientText (Javascript.same_trans hb.recipient hechoed) htext
      exact Option.some.inj (hrecipient.symm.trans hmint)
    subst hrecipients
    have hcommits : m.nonce = bridgeNonce P.keccak target.domain recipient salt := by
      have hword : hexText 32 (fixedText 32 (bridgeNonce P.keccak preimage.destinationDomain recipient salt)) =
          some (bridgeNonce P.keccak preimage.destinationDomain recipient salt) :=
        hexText_fixedText (P.keccak_lt _)
      rw [← hb.domain, Javascript.hexText_of_same hsameNonce hword hnonce]
    refine ⟨⟨e.domain, m, recipient, some (target.domain, salt), hinRange.domain, hm, lt_of_hexText htext,
      fun hburn => (by cases hburn), ?_⟩, ⟨htype, hwords, rfl, rfl⟩, ⟨rfl, htoken, ?_, hsettles, fun _ => ?_⟩, ?_⟩
    · rintro _ _ ⟨⟩
      exact ⟨hreceive, by rw [← hb.domain]; exact hlt, lt_of_hexText hsalt, hcommits⟩
    · intro hcontra
      rw [hbridge] at hcontra
      cases hcontra
    · refine ⟨chains, hchains, source, target, salt, by rw [hchainId]; exact hb.onSource,
        by rw [← hchain]; exact hb.onTarget, rfl, fun forwarder hforwarder => ?_⟩
      have hsame := hchecked.payee
      simp only [LegResponse.documentedPayee, hbridge, if_true] at hsame
      exact Javascript.hexText_of_same (Javascript.same_trans hsame hb.forwarder) hpayee hforwarder
    · rintro input ⟨domain, word, hburn, hinput⟩
      obtain ⟨hdomains, hwords⟩ := Prod.mk.inj (Option.some.inj hburn)
      refine ⟨leg, hleg, authorization, hchecked.awaiting, preimage, hb.documented, recipient, salt, hrecipient,
        hsalt, ?_⟩
      rw [hinput, ← hdomains, ← hwords]
      exact congrArg (fun domain => nonceInput domain recipient salt) hb.domain.symm

end Asked

/-! ### All that moves -/

/-- The approvals of a list that are for one token. -/
def approvedAt (moved : List (Approval P)) (address : Address) : ℕ :=
  ((moved.filter fun a => decide (a.domain.token = address)).map fun a => a.message.value).sum

lemma approvedAt_concat (moved : List (Approval P)) (a : Approval P) (address : Address) :
    approvedAt (moved ++ [a]) address =
      approvedAt moved address + if a.domain.token = address then a.message.value else 0 := by
  rw [approvedAt, List.filter_append, List.map_append, List.sum_append, ← approvedAt]
  by_cases h : a.domain.token = address <;> simp [h]

/-- One movement costs the wallet its amount, at its token only. -/
lemma Approval.Moves.balance {a : Approval P} {chain chain' : SourceChain} (h : a.Moves chain chain')
    {address : Address} {token : Token} (hcode : chain.code address = some (.token token)) :
    ∃ token', chain'.code address = some (.token token') ∧ token.balance a.message.payer ≤
      token'.balance a.message.payer + if a.domain.token = address then a.message.value else 0 := by
  obtain ⟨before, after, hreplaces, hbalance⟩ : ∃ before after,
      chain.Replaces a.domain.token before after chain' ∧
        before.balance a.message.payer ≤ after.balance a.message.payer + a.message.value := by
    have hmoves := h.2
    cases hburn : a.burn with
    | none =>
      rw [hburn] at hmoves
      obtain ⟨before, after, hreplaces, -, hbalance, -⟩ := hmoves
      refine ⟨before, after, hreplaces, ?_⟩
      rw [hbalance, if_pos rfl]
      omega
    | some target =>
      rw [hburn] at hmoves
      obtain ⟨before, after, -, -, hreplaces, -, hbalance, -⟩ := hmoves
      refine ⟨before, after, hreplaces, ?_⟩
      rw [hbalance, if_pos rfl]
      omega
  rw [hreplaces.code]
  by_cases ha : address = a.domain.token
  · subst ha
    cases hcode.symm.trans hreplaces.before
    exact ⟨after, if_pos rfl, by rw [if_pos rfl]; exact hbalance⟩
  · exact ⟨token, by rw [if_neg ha, hcode], by omega⟩

/-- The wallet loses what was approved, and no more. -/
lemma Traced.balance {wallet : Address} {chain chain' : SourceChain} {moved : List (Approval P)}
    (h : Traced wallet chain moved chain') (hpayer : ∀ a ∈ moved, a.message.payer = wallet)
    {address : Address} {token : Token} (hcode : chain.code address = some (.token token)) :
    ∃ token', chain'.code address = some (.token token') ∧
      token.balance wallet ≤ token'.balance wallet + approvedAt moved address := by
  induction h with
  | refl => exact ⟨token, hcode, Nat.le_add_right ..⟩
  | quiet _ hquiet ih =>
    obtain ⟨token₁, hcode₁, hle⟩ := ih hpayer
    obtain ⟨token₂, hcode₂, -, hmore, -⟩ := hquiet.tokens _ _ hcode₁
    exact ⟨token₂, hcode₂, by omega⟩
  | @moves _ _ moved a _ hmoves ih =>
    obtain ⟨token₁, hcode₁, hle⟩ := ih (fun b hb => hpayer b (List.mem_append_left _ hb))
    obtain ⟨token₂, hcode₂, hcost⟩ := hmoves.balance hcode₁
    rw [hpayer a (by simp)] at hcost
    exact ⟨token₂, hcode₂, by rw [approvedAt_concat]; omega⟩

/-- A document that the wallet signed, with the answer that it came with and what the merchant entered. -/
structure SignedDocument (J : Javascript) (S : Signer P) where
  withdrawal : WithdrawalResponse
  registry : Option (ℕ → Option TrustedWithdrawalChain)
  leg : LegResponse
  document : SignableTypedData
  destination : Address
  chain : Option ℕ
  encoded : Encoded
  asked : Asked J S withdrawal registry leg document
  entered : Entered J withdrawal destination chain
  encodes : S.encode document = some encoded

/-- Whatever the server answered, and whoever presents the signatures in whatever order: in every run of a
chain the wallet's money moves only as the merchant entered it, to the destination or burnt towards it, at
most once for each nonce that was signed, and each token keeps all but what was approved. -/
theorem wallet_moves_only_as_entered (J : Javascript) (S : Signer P) (wallet : Address)
    (documents : Set (SignedDocument J S)) (inputs : Set (List UInt8)) (hfree : Set.InjOn P.keccak inputs)
    (hinputs : ∀ d ∈ documents, d.encoded.hashed P ∪ d.withdrawal.nonceHashed J ⊆ inputs)
    (chain chain' : SourceChain)
    (hforwarders : ∀ d ∈ documents, ∀ chains ∈ d.registry, ∀ source,
      (chains chain.chainId).bind TrustedWithdrawalChain.cctp = some source →
        ∃ forwarder messenger, hexText 20 source.forwarder = some forwarder ∧
          chain.code forwarder = some (.forwarder messenger))
    (hrun : Relation.ReflTransGen (ChainStep P wallet (SignedDocument.encoded '' documents) inputs) chain chain') :
    ∃ moved : List (Approval P), Traced wallet chain moved chain' ∧ (moved.map Approval.key).Nodup ∧
      (∀ a ∈ moved, a.message.payer = wallet ∧ ∃ d ∈ documents, a.Encodes d.encoded ∧
        a.Intended d.withdrawal d.registry d.leg d.destination d.chain) ∧
      ∀ address token, chain.code address = some (.token token) → ∃ token',
        chain'.code address = some (.token token') ∧
          token.balance wallet ≤ token'.balance wallet + approvedAt moved address := by
  let approvals : Set (Approval P) := {a | (∃ d ∈ documents, a.Encodes d.encoded ∧
    a.Intended d.withdrawal d.registry d.leg d.destination d.chain) ∧ a.nonceHashed ⊆ inputs}
  have hbacked : Backed (SignedDocument.encoded '' documents) inputs approvals chain := by
    refine ⟨?_, ?_, ?_, fun a ha => ha.2, ?_⟩
    · rintro _ ⟨d, -, rfl⟩
      exact S.inRange _ _ d.encodes
    · rintro _ ⟨d, hd, rfl⟩ input hinput
      exact hinputs d hd (Or.inl hinput)
    · rintro _ ⟨d, hd, rfl⟩ kind htype
      obtain ⟨a, hencodes, hintended, hnonce⟩ := d.asked.approval d.entered d.encodes htype
      exact ⟨a, ⟨⟨d, hd, hencodes, hintended⟩, fun input hinput => hinputs d hd (Or.inr (hnonce hinput))⟩, hencodes⟩
    · rintro a ⟨⟨d, hd, -, hintended⟩, -⟩ hburn hchain
      have hbridge : d.leg.isBridge = true := by
        by_contra hne
        rw [hintended.pays (Bool.eq_false_iff.2 hne)] at hburn
        cases hburn
      obtain ⟨chains, hchains, source, target, salt, hsource, -, -, hpayee⟩ := hintended.bridges hbridge
      rw [hchain] at hsource
      obtain ⟨forwarder, messenger, hforwarder, hcode⟩ := hforwarders d hd chains hchains source hsource
      exact ⟨messenger, by rw [hpayee forwarder hforwarder]; exact hcode⟩
  obtain ⟨-, moved, htraced, hmoved, hnodup⟩ := hbacked.run hfree hrun
  refine ⟨moved, htraced, hnodup, fun a ha => ?_, fun address token hcode => ?_⟩
  · obtain ⟨⟨hdocument, -⟩, hpayer, -⟩ := hmoved a ha
    exact ⟨hpayer, hdocument⟩
  · exact htraced.balance (fun a ha => (hmoved a ha).2.1) hcode

/-! ### A bridge that is signed and presented -/

def sampleResponse : WithdrawalResponse :=
  response sampleCryptography.keccak samplePlanned.plan.networks samplePlanned.input.row
    [(sampleAwaiting, sampleDomain)]

lemma mem_sampleResponse {leg : LegResponse} : leg ∈ sampleResponse.awaiting ↔
    leg = servedLeg samplePlanned samplePlanned.input.row sampleAwaiting sampleDomain := by
  rw [sampleResponse, mem_awaiting_response]
  constructor
  · rintro ⟨entry, hentry, -, rfl⟩
    rw [List.mem_singleton.1 hentry]
  · rintro rfl
    exact ⟨(sampleAwaiting, sampleDomain), List.mem_singleton_self _, rfl, rfl⟩

lemma sampleAwaiting_awaits : AwaitingLeg samplePlanned samplePlanned.input.row sampleAwaiting sampleDomain := by
  obtain ⟨created, hcreate, hlegs, hwithdrawals⟩ := sample_created
  have hdb : samplePlanned.Recorded created := ⟨Store.empty, created, 0, hcreate, .refl⟩
  have hw : created.withdrawals.find? sampleAwaiting.withdrawalId = some samplePlanned.input.row :=
    Table.find?_of_mem (by rw [hwithdrawals]; exact List.mem_singleton_self _)
  have hleg : sampleAwaiting ∈ created.legs.rows := by
    rw [hlegs]
    exact List.mem_singleton_self _
  exact awaitingLeg_of_recorded hdb hw hleg (List.mem_singleton_self _) rfl rfl

lemma sample_asked : Asked asciiJavascript (eip3009Signer sampleCryptography) sampleResponse
    (some (trustedRegistry samplePublicChains))
    (servedLeg samplePlanned samplePlanned.input.row sampleAwaiting sampleDomain)
    (servedDocument sampleCryptography samplePlanned.input.row sampleAwaiting sampleDomain) := by
  have hchecked : ∀ leg ∈ sampleResponse.awaiting, ∃ authorization, Checked asciiJavascript sampleCryptography.keccak
      (some (trustedRegistry samplePublicChains)) 5000 sampleResponse leg authorization := by
    intro leg hleg
    rw [mem_sampleResponse.1 hleg]
    exact ⟨_, sampleAwaiting_awaits.checked sample_deployedAs (by decide)⟩
  obtain ⟨documents, hsign, -⟩ := sign_eq_ok hchecked
  obtain ⟨typed, htyped, hmessage, hdocument⟩ :=
    privyTypedData_served samplePlanned samplePlanned.input.row sampleAwaiting sampleDomain
  have hauthorization : (servedLeg samplePlanned samplePlanned.input.row sampleAwaiting sampleDomain).authorization =
      some (servedAuthorization samplePlanned samplePlanned.input.row sampleAwaiting sampleDomain) :=
    servedLeg_authorization sampleAwaiting_awaits.state
  have hread : typed.message.signable (eip3009Signer sampleCryptography).number =
      some (servedDocument sampleCryptography samplePlanned.input.row sampleAwaiting sampleDomain).message := by
    rw [hmessage]
    exact signable_served (eip3009Signer sampleCryptography).number_repr
  rw [← hdocument]
  exact Asked.dashboard hsign (mem_sampleResponse.2 rfl) hauthorization htyped hread

/-- The document of the leg, as the dashboard had it signed. -/
def sampleDocument : SignedDocument asciiJavascript (eip3009Signer sampleCryptography) where
  withdrawal := sampleResponse
  registry := some (trustedRegistry samplePublicChains)
  leg := servedLeg samplePlanned samplePlanned.input.row sampleAwaiting sampleDomain
  document := servedDocument sampleCryptography samplePlanned.input.row sampleAwaiting sampleDomain
  destination := 200
  chain := asciiJavascript.number sampleResponse.destinationChain
  encoded := (sampleAwaiting.message samplePlanned.input.row.walletAddress).encoded
    (sampleAwaiting.signingDomain sampleDomain)
  asked := sample_asked
  entered := .given (hexText_toChecksum _ (by decide))
  encodes := sampleAwaiting_awaits.encode (eip3009Signer sampleCryptography)

lemma sampleAwaiting_message :
    sampleAwaiting.message samplePlanned.input.row.walletAddress = sampleLeg.message 100 := rfl

lemma sampleDocument_encoded : sampleDocument.encoded = (sampleLeg.message 100).encoded sampleDomain := by
  have hencoded : sampleDocument.encoded = (sampleAwaiting.message samplePlanned.input.row.walletAddress).encoded
      (sampleAwaiting.signingDomain sampleDomain) := rfl
  rw [hencoded, sampleAwaiting_message]
  rfl

lemma sampleResponse_nonceHashed {input : List UInt8} (h : input ∈ sampleResponse.nonceHashed asciiJavascript) :
    input ∈ sampleInputs := by
  obtain ⟨leg, hleg, authorization, hauthorization, preimage, hpreimage, recipient, salt, hrecipient, hsalt,
    hinput⟩ := h
  rw [mem_sampleResponse.1 hleg, servedLeg_authorization sampleAwaiting_awaits.state] at hauthorization
  rw [← Option.some.inj hauthorization] at hpreimage
  have hdocumented : (servedAuthorization samplePlanned samplePlanned.input.row sampleAwaiting
      sampleDomain).noncePreimage = some ⟨6, toChecksum sampleCryptography.keccak 200, fixedText 32 4⟩ := rfl
  rw [← Option.some.inj (hdocumented.symm.trans hpreimage)] at hrecipient hsalt hinput
  have hdestination : hexText 20 (toChecksum sampleCryptography.keccak 200) = some 200 :=
    hexText_toChecksum _ (by decide)
  have hword : hexText 32 (fixedText 32 4) = some 4 := hexText_fixedText (by decide)
  rw [hinput, ← Option.some.inj ((hexText_recipientText (Javascript.same_refl _) hdestination).symm.trans hrecipient),
    ← Option.some.inj (hword.symm.trans hsalt)]
  exact sample_nonceInput

/-- The call of the forwarder that the leg was signed for. -/
def sampleArguments : BridgeArguments := ⟨21, 100, 6, 6, 200, 4, 9000, sampleSign 100 sampleDigest⟩

lemma sampleArguments_message : sampleArguments.message sampleCryptography 300 = sampleLeg.message 100 := by
  rw [sampleLeg_message]
  rfl

lemma sampleArguments_inRange : sampleArguments.InRange :=
  ⟨by decide, by decide, by decide, by decide, by decide, by decide, by decide⟩

/-- The forwarder burns the six units that the wallet has, as it was entered. -/
theorem bridge_moves_as_entered : ∃ (chain' : SourceChain) (moved : List (Approval sampleCryptography)),
    sampleChain.bridgeWith sampleCryptography (fun _ => true) 300 31 sampleArguments = some chain' ∧
    Traced 100 sampleChain moved chain' ∧ (∀ a ∈ moved, a.destination = 200) ∧ 6 ≤ approvedAt moved 21 := by
  have hcode : sampleChain.code sampleArguments.token =
      some (.token ⟨sampleDomain, fun _ => 6, fun _ _ => false⟩) := rfl
  obtain ⟨chain', hbridge⟩ : ∃ chain',
      sampleChain.bridgeWith sampleCryptography (fun _ => true) 300 31 sampleArguments = some chain' := by
    refine SourceChain.exists_bridgeWith hcode ?_ (le_refl 6) rfl
    rw [sampleArguments_message]
    exact sample_signed.authorizes rfl (by decide) rfl fun _ => rfl
  have hstep : ChainStep sampleCryptography 100 (SignedDocument.encoded '' {sampleDocument})
      {input | input ∈ sampleInputs} sampleChain chain' := by
    refine .bridge rfl (by decide) hcode sampleArguments_inRange ?_ sample_nonceInput
      (fun _ => ⟨_, ⟨sampleDocument, rfl, rfl⟩, ?_⟩) hbridge
    · rw [sampleArguments_message]
      exact fun input hinput => sample_hashed hinput
    · rw [sampleArguments_message, sampleDocument_encoded, Eip3009.digest_encoded]
  obtain ⟨moved, htraced, -, hmoved, hbalance⟩ := wallet_moves_only_as_entered asciiJavascript
    (eip3009Signer sampleCryptography) 100 {sampleDocument} {input | input ∈ sampleInputs} sampleInputs_injOn
    (by
      rintro _ rfl input (hinput | hinput)
      · rw [sampleDocument_encoded, Eip3009.hashed_encoded] at hinput
        exact sample_hashed hinput
      · exact sampleResponse_nonceHashed hinput)
    sampleChain chain'
    (by
      rintro _ rfl _ ⟨⟩ source hsource
      have hsource' : (trustedRegistry samplePublicChains 2).bind TrustedWithdrawalChain.cctp =
          some ⟨3, toChecksum sampleCryptography.keccak 300⟩ := rfl
      obtain rfl := Option.some.inj (hsource'.symm.trans hsource)
      exact ⟨300, 31, hexText_toChecksum _ (by decide), rfl⟩)
    (.single hstep)
  refine ⟨chain', moved, hbridge, htraced, fun a ha => ?_, ?_⟩
  · obtain ⟨-, _, rfl, -, hintended⟩ := hmoved a ha
    exact hintended.destination
  · -- nothing is left of what the wallet had
    obtain ⟨token, token', hconsumes, -, -, hleft, -⟩ := SourceChain.bridgeWith_consumes hbridge
    cases hcode.symm.trans hconsumes.replaces.before
    obtain ⟨token'', hcode'', hle⟩ := hbalance 21 _ hcode
    cases hconsumes.after.symm.trans hcode''
    rw [hleft 100] at hle
    have hpayer : (100 : Address) = sampleArguments.payer := rfl
    rw [if_pos hpayer] at hle
    have hvalue : sampleArguments.value = 6 := rfl
    have hsix : (⟨sampleDomain, fun _ => 6, fun _ _ => false⟩ : Token).balance 100 = 6 := rfl
    rw [hvalue, hsix] at hle
    omega

end Payday.Withdrawals
