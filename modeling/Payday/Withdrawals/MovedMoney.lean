/-
# A completed leg moved its money

What the server knows of a leg it knows from the signers' conclusions, and those rest on the final
chain.  A bridge leg that is past its burn has the hash of the transaction that consumed its
authorization.  A transfer leg that is completed has a consumed authorization; whether its money
was moved is another matter, because a token reports a cancelled authorization as consumed too.
-/
import Payday.Lib.Checks
import Payday.Withdrawals.Relay

namespace Payday.Withdrawals

open Signers (WithdrawalStepKind WithdrawalStepCommand StepResult StepPrecondition ExecutionCommand
  ChainWorker FinalChain Consumption)

variable {D : Deployment} {W : ChainWorker} {C : FinalChain} {made : Hash → ContractCall → Prop}

/-! ### Planned legs -/

/-- What the planning of a leg guarantees.  The token is known to be one on the chain at hand. -/
structure Planned (D : Deployment) (W : ChainWorker) (leg : Leg) (w : Withdrawal) : Prop where
  token : leg.sourceChainId = W.config.chainId → D.isToken leg.tokenAddress ∧ leg.tokenAddress < 2 ^ 160
  wallet_lt : w.walletAddress < 2 ^ 160
  destination_lt : w.destinationAddress < 2 ^ 160
  amount_lt : leg.amount < 2 ^ 256
  nonce_lt : leg.nonce < 2 ^ 256
  transfer : leg.kind = .transfer → leg.authorizationTo = w.destinationAddress
  bridge : leg.kind = .bridge → ∃ source target salt,
    D.registry.cctp leg.sourceChainId = some source ∧
    D.registry.cctp leg.destinationChainId = some target ∧ leg.authorizationTo = source.forwarder ∧
    leg.salt = some salt ∧ salt < 2 ^ 256 ∧
    leg.nonce = bridgeNonce D.keccak target.domain w.destinationAddress salt

lemma Planned.of_terms {leg leg' : Leg} {w w' : Withdrawal} (hp : Planned D W leg w)
    (hleg : leg.SameTerms leg') (hw : w.SameTerms w') : Planned D W leg' w' where
  token := by
    rw [hleg.sourceChainId, hleg.tokenAddress]
    exact hp.token
  wallet_lt := by
    rw [hw.walletAddress]
    exact hp.wallet_lt
  destination_lt := by
    rw [hw.destinationAddress]
    exact hp.destination_lt
  amount_lt := by
    rw [hleg.amount]
    exact hp.amount_lt
  nonce_lt := by
    rw [hleg.nonce]
    exact hp.nonce_lt
  transfer := by
    rw [hleg.kind, hleg.authorizationTo, hw.destinationAddress]
    exact hp.transfer
  bridge := by
    rw [hleg.kind, hleg.sourceChainId, hleg.destinationChainId, hleg.authorizationTo, hleg.salt,
      hleg.nonce, hw.destinationAddress]
    exact hp.bridge

/-- A leg that `plan_legs` computed is planned. -/
lemma planLeg_planned {plan : LegPlan} {draws : ℕ → LegDraw} {balances : List (ChainId × Address × ℕ)}
    {input : NewWithdrawal} (hplan : Relay.Plans D W plan draws balances input) {position i : ℕ}
    {balance : ChainId × Address × ℕ} (hbalance : balance ∈ balances) {leg : NewWithdrawalLeg}
    (h : plan.planLeg position (draws i) balance.1 balance.2.1 balance.2.2 = .ok leg) (now : Time) :
    Planned D W (leg.row now input) input.row := by
  unfold LegPlan.planLeg at h
  split at h
  · cases h
  rename_i domainToken hdomain
  have htoken : balance.1 = W.config.chainId → D.isToken domainToken ∧ domainToken < 2 ^ 160 := by
    intro hchain
    rw [hchain] at hdomain
    exact hplan.domain _ _ hdomain
  split at h
  · -- a transfer on the destination chain
    cases h
    exact ⟨htoken, hplan.wallet_lt, hplan.destination_lt, hplan.balance _ hbalance, hplan.random i,
      fun _ => hplan.destination, fun hkind => by cases hkind⟩
  · split at h
    · cases h
    · cases h
    · rename_i source target hsource htarget
      split at h
      · cases h
      · -- a bridge from another chain
        cases h
        rw [hplan.networks] at hsource htarget
        rw [hplan.destinationChainId] at htarget
        refine ⟨htoken, hplan.wallet_lt, hplan.destination_lt, hplan.balance _ hbalance, ?_,
          (fun hkind => by cases hkind), fun _ => ⟨source, target, (draws i).random, hsource, htarget, rfl,
            rfl, hplan.random i, ?_⟩⟩
        · show bridgeNonce plan.keccak _ _ _ < _
          rw [hplan.keccak]
          exact D.keccak_lt _
        · show bridgeNonce plan.keccak _ _ _ = _
          rw [hplan.keccak, hplan.destination]
          rfl

lemma planLegs_planned {plan : LegPlan} {draws : ℕ → LegDraw} {balances : List (ChainId × Address × ℕ)}
    {input : NewWithdrawal} (hplan : Relay.Plans D W plan draws balances input) (now : Time) :
    ∀ leg ∈ input.legs, Planned D W (leg.row now input) input.row := by
  -- the loop keeps every leg it has so far planned
  refine foldlM_invariant (fun legs => ∀ leg ∈ legs, Planned D W (leg.row now input) input.row)
    hplan.legs (by simp) fun balance hbalance legs legs' hlegs h => ?_
  split at h
  · cases h
    exact hlegs
  · obtain ⟨leg, hleg, rfl⟩ := map_eq_ok.1 h
    intro leg' hleg'
    rcases List.mem_append.1 hleg' with hleg' | hleg'
    · exact hlegs leg' hleg'
    · rw [List.mem_singleton.1 hleg']
      exact planLeg_planned hplan hbalance hleg now

/-! ### Commands -/

/-- What a published command asks for.  A mint is made on another chain than its leg's source. -/
structure CommandOf (D : Deployment) (c : WithdrawalStepCommand) (leg : Leg) (w : Withdrawal) :
    Prop where
  authorization : c.step ≠ .mint → c.chainId = leg.sourceChainId ∧ ∃ searchFromBlock,
    c.precondition = some (.authorizationUnused leg.tokenAddress w.walletAddress leg.nonce searchFromBlock)
  transfer : c.step = .transfer → c.target = leg.tokenAddress ∧ ∃ signature, c.calldata = .bytes
    (StepCall.transferWithAuthorization w.walletAddress leg.authorizationTo leg.amount 0 leg.validBefore
      leg.nonce signature).abiEncode
  burn : c.step = .burn → c.target = leg.authorizationTo ∧ ∃ target salt signature,
    D.registry.cctp leg.destinationChainId = some target ∧ leg.salt = some salt ∧
    c.calldata = .bytes (StepCall.bridge leg.tokenAddress w.walletAddress leg.amount target.domain
      w.destinationAddress salt leg.validBefore signature).abiEncode

lemma CommandOf.of_terms {c : WithdrawalStepCommand} {leg leg' : Leg} {w w' : Withdrawal}
    (hc : CommandOf D c leg w) (hleg : leg.SameTerms leg') (hw : w.SameTerms w') :
    CommandOf D c leg' w' where
  authorization := by
    rw [hleg.sourceChainId, hleg.tokenAddress, hleg.nonce, hw.walletAddress]
    exact hc.authorization
  transfer := by
    rw [hleg.tokenAddress, hleg.authorizationTo, hleg.amount, hleg.validBefore, hleg.nonce,
      hw.walletAddress]
    exact hc.transfer
  burn := by
    rw [hleg.tokenAddress, hleg.authorizationTo, hleg.amount, hleg.validBefore, hleg.salt,
      hleg.destinationChainId, hw.walletAddress, hw.destinationAddress]
    exact hc.burn

/-- The leg was due on the chain when it was read. -/
def Leg.DueOn (leg : Leg) (chainId : ChainId) : Prop :=
  leg.state = .attested ∨ leg.state = .authorized ∧ leg.sourceChainId = chainId

lemma relayable_dueOn {db : Store} {now : Time} {chainId : ChainId} {minValidity : ℕ} {leg : Leg}
    (h : leg ∈ db.relayable now chainId minValidity) : leg ∈ db.legs.rows ∧ leg.DueOn chainId := by
  rw [Store.relayable, List.mem_filter] at h
  simp only [Bool.and_eq_true, Bool.or_eq_true, decide_eq_true_eq] at h
  obtain ⟨hleg, -, ⟨hstate, -⟩ | ⟨hstate, hsource, -⟩⟩ := h
  · exact ⟨hleg, Or.inl hstate⟩
  · exact ⟨hleg, Or.inr ⟨hstate, hsource⟩⟩

/-- The command of a leg that was due asks for what the leg's terms say. -/
lemma command_commandOf {config : ChainConfig} {finalized : Option ℕ} {now : Time} {jobId : JobId}
    {leg : Leg} {w : Withdrawal} {c : WithdrawalStepCommand} (hdue : leg.DueOn config.chainId)
    (h : command D.registry config finalized now jobId leg w = .ok c) :
    c.jobId = jobId ∧ c.legId = leg.id ∧ CommandOf D c leg w := by
  -- a leg that calls for a transfer or a burn was due on its source chain
  have hsource : ∀ step, leg.stepKind = some step → step ≠ .mint → leg.sourceChainId = config.chainId := by
    intro step hstep hmint
    rcases hdue with hstate | ⟨-, hsource⟩
    · simp only [Leg.stepKind, hstate, Option.some.injEq] at hstep
      exact absurd hstep.symm hmint
    · exact hsource
  unfold command at h
  dsimp only at h
  split at h
  · cases h
  · rename_i hstep
    split at h
    · cases h
    · rename_i signature signedAt hsignature
      cases h
      refine ⟨rfl, rfl, fun _ => ⟨(hsource _ hstep (by simp)).symm, _, rfl⟩,
        fun _ => ⟨rfl, signature, rfl⟩, fun hburn => by cases hburn⟩
  · rename_i hstep
    split at h
    · cases h
    · cases h
    · cases h
    · rename_i target salt signature signedAt htarget hsalt hsignature
      cases h
      exact ⟨rfl, rfl, fun _ => ⟨(hsource _ hstep (by simp)).symm, _, rfl⟩,
        (fun htransfer => by cases htransfer), fun _ => ⟨rfl, target, salt, signature, htarget, hsalt, rfl⟩⟩
  · split at h
    · cases h
    · cases h
    · cases h
    · split at h
      · cases h
      · cases h
        exact ⟨rfl, rfl, (fun hmint => absurd rfl hmint), (fun htransfer => by cases htransfer),
          fun hburn => by cases hburn⟩

/-! ### What a result moves -/

/-- How the leg's authorization was consumed. -/
def FinalConsumption (C : FinalChain) (leg : Leg) (w : Withdrawal) : Option Consumption :=
  C.consumption leg.tokenAddress w.walletAddress leg.nonce

/-- What the chain has to show for a step that moves a leg on. -/
def Shown (C : FinalChain) (leg : Leg) (w : Withdrawal) (txHash : Option Hash) :
    WithdrawalStepKind → Prop
  | .transfer => FinalConsumption C leg w ≠ none
  | .burn => ∃ h block payee amount, txHash = some h ∧
      FinalConsumption C leg w = some (.used h block payee amount)
  | .mint => True

/-- A conclusion that moves the leg on shows what it has to. -/
lemma shown_of_proves (hruns : D.Runs W C made) {c : WithdrawalStepCommand} {leg : Leg} {w : Withdrawal}
    (hc : CommandOf D c leg w) (hp : Planned D W leg w) (hsource : leg.sourceChainId = W.config.chainId)
    (hkind : leg.stepKind = some c.step) {result : StepResult} (hproves : C.Proves W c result)
    {txHash : Option Hash} (hresult : advancedBy c.step result = some txHash) :
    Shown C leg w txHash c.step := by
  obtain ⟨htoken, htoken_lt⟩ := hp.token hsource
  cases result with
  | reverted tx => cases hs : c.step <;> rw [hs] at hresult <;> cases hresult
  | expired => cases hs : c.step <;> rw [hs] at hresult <;> cases hresult
  | abandoned reason => cases hs : c.step <;> rw [hs] at hresult <;> cases hresult
  | executedElsewhere tx =>
    obtain ⟨precondition, hprecondition, hviolated⟩ := hproves
    cases hs : c.step with
    | mint => exact trivial
    | transfer =>
      obtain ⟨-, n, hunused⟩ := hc.authorization (by rw [hs]; simp)
      rw [hunused] at hprecondition
      cases hprecondition
      exact hviolated.1
    | burn =>
      obtain ⟨-, n, hunused⟩ := hc.authorization (by rw [hs]; simp)
      rw [hunused] at hprecondition
      cases hprecondition
      rw [hs] at hresult
      cases tx with
      | none => cases hresult
      | some h =>
        cases hresult
        obtain ⟨block, payee, amount, hused⟩ := hviolated.2 h rfl
        exact ⟨h, block, payee, amount, rfl, hused⟩
  | succeeded tx block blockHash =>
    obtain ⟨hexecuted, raw, rfl, htarget, hcalldata⟩ := hproves
    cases hs : c.step with
    | mint => exact trivial
    | transfer =>
      -- the transaction is the transfer itself
      obtain ⟨hto, signature, hcall⟩ := hc.transfer hs
      have hkind : leg.kind = .transfer := by
        rw [hs] at hkind
        revert hkind
        unfold Leg.stepKind
        split <;> simp_all
      have hpayee : leg.authorizationTo < 2 ^ 160 := by
        rw [hp.transfer hkind]
        exact hp.destination_lt
      have hmade := hruns.token raw w.walletAddress leg.authorizationTo leg.amount 0 leg.validBefore
        leg.nonce signature hexecuted (by rw [htarget, hto]; exact htoken)
        ⟨hp.wallet_lt, hpayee, hp.amount_lt, hp.nonce_lt⟩ (hcalldata.trans hcall)
      rw [htarget, hto] at hmade
      obtain ⟨block, hused⟩ := hruns.transferred _ _ _ _ _ _ _ _ _ htoken (Or.inl hmade)
      intro hnone
      rw [FinalConsumption, hused] at hnone
      cases hnone
    | burn =>
      -- the transaction is a call of the forwarder
      obtain ⟨hto, target, salt, signature, hdestination, hsalt, hcall⟩ := hc.burn hs
      have hkind : leg.kind = .bridge := by
        rw [hs] at hkind
        revert hkind
        unfold Leg.stepKind
        split <;> simp_all
      obtain ⟨source, target', salt', hcctp, htarget', hforwarder, hsalt', hsalt_lt, hnonce⟩ :=
        hp.bridge hkind
      rw [hdestination] at htarget'
      cases htarget'
      rw [hsalt] at hsalt'
      cases hsalt'
      rw [hsource] at hcctp
      have hself : D.isForwarder raw.target source.tokenMessenger := by
        rw [htarget, hto, hforwarder]
        exact hruns.deployed source hcctp
      have hmade := hruns.forwarder raw source.tokenMessenger leg.tokenAddress w.walletAddress leg.amount
        target.domain w.destinationAddress salt leg.validBefore signature hexecuted hself
        ⟨htoken_lt, hp.wallet_lt, hp.amount_lt, D.domain_lt _ _ hdestination, hp.destination_lt, hsalt_lt⟩
        (hcalldata.trans hcall) _ (List.mem_cons_self ..)
      obtain ⟨block, hused⟩ := hruns.transferred _ _ _ _ _ _ _ _ _ htoken (Or.inr hmade)
      rw [← hnonce] at hused
      rw [hs] at hresult
      cases hresult
      exact ⟨_, block, _, _, rfl, hused⟩

/-! ### Settled legs -/

/-- The leg was burned: it is a bridge leg, and past its burn. -/
def Leg.isBurned (leg : Leg) : Bool :=
  decide (leg.kind = .bridge) && (leg.state.isBridged || decide (leg.state = .completed))

/-- What the chain has to show for where a leg is. -/
structure Settled (C : FinalChain) (leg : Leg) (w : Withdrawal) : Prop where
  transfer : leg.kind = .transfer → leg.state = .completed → FinalConsumption C leg w ≠ none
  burn : leg.isBurned = true → ∃ h block payee amount, leg.burnTxHash = some h ∧
    FinalConsumption C leg w = some (.used h block payee amount)

lemma finalConsumption_of_terms {leg leg' : Leg} {w w' : Withdrawal} (hleg : leg.SameTerms leg')
    (hw : w.SameTerms w') : FinalConsumption C leg' w' = FinalConsumption C leg w := by
  rw [FinalConsumption, FinalConsumption, hleg.tokenAddress, hleg.nonce, hw.walletAddress]

/-- A move that neither completes nor burns a leg keeps what the chain has to show. -/
lemma Settled.of_state {leg leg' : Leg} {w w' : Withdrawal} (hs : Settled C leg w)
    (hleg : leg.SameTerms leg') (hw : w.SameTerms w') (hburn : leg'.burnTxHash = leg.burnTxHash)
    (hcompleted : leg'.state = .completed → leg.state = .completed)
    (hburned : leg'.state.isBridged = true → leg.state.isBridged = true) : Settled C leg' w' where
  transfer := by
    rw [hleg.kind, finalConsumption_of_terms hleg hw]
    exact fun hkind hstate => hs.transfer hkind (hcompleted hstate)
  burn := by
    rw [hburn, finalConsumption_of_terms hleg hw]
    intro hpast
    refine hs.burn ?_
    simp only [Leg.isBurned, Bool.and_eq_true, decide_eq_true_eq, Bool.or_eq_true, hleg.kind] at hpast ⊢
    exact ⟨hpast.1, hpast.2.imp hburned hcompleted⟩

/-- A move keeps what the chain has to show, if a move on a result shows it. -/
lemma Settled.moves {leg leg' : Leg} {w w' : Withdrawal} {call : Call} (hs : Settled C leg w)
    (h : leg.Moves call leg') (hw : w.SameTerms w') (hl : leg.Lawful)
    (hshown : ∀ jobId step result policy txHash, call = .applyStepResult jobId step result policy →
      leg.step.map OpenStep.jobId = some jobId → leg.stepKind = some step →
      advancedBy step result = some txHash → Shown C leg w txHash step) : Settled C leg' w' := by
  have hterms := h.sameTerms
  cases h with
  | authorized snapshot account withdrawalId signature now h =>
    exact hs.of_state hterms hw rfl (by simp) (by simp [LegState.isBridged])
  | cancelled account now h =>
    exact hs.of_state hterms hw rfl (by simp) (by simp [LegState.isBridged])
  | expired margin now h =>
    exact hs.of_state hterms hw rfl (by simp) (by simp [LegState.isBridged])
  | opened now jobId chainId h =>
    rcases h with h | h <;> exact hs.of_state hterms hw rfl (by simp [h]) (by simp [h, LegState.isBridged])
  | released jobId reported result policy now reverts retryAt hjob hstep =>
    rcases Leg.hasStep_cases hstep with h | h <;>
      exact hs.of_state hterms hw rfl (by simp [h, LegState.released])
        (by simp [h, LegState.released, LegState.isBridged])
  | failed call now reason hcall h =>
    exact hs.of_state hterms hw rfl (by simp) (by simp [LegState.isBridged])
  | attested now message attestation h =>
    exact hs.of_state hterms hw rfl (by simp) (by simp [h, LegState.isBridged])
  | deferred now nextCheckAt h => exact hs.of_state hterms hw rfl (fun h => h) (fun h => h)
  | advanced now nextCheckAt jobId step result policy txHash hjob hstep hkind hresult =>
    have hshown := hshown jobId step result policy txHash rfl hjob hkind hresult
    have hconsumption := finalConsumption_of_terms (C := C) hterms hw
    have hkinds : leg.kind = .transfer ∨ leg.kind = .bridge := by cases leg.kind <;> simp
    rcases Leg.hasStep_cases hstep with h | h
    · rcases hkinds with hk | hk
      · -- the transfer is made
        obtain rfl : step = .transfer := by simpa [Leg.stepKind, h, hk] using hkind.symm
        refine ⟨fun _ _ => ?_, fun hburned => ?_⟩
        · rw [hconsumption]
          exact hshown
        · simp [Leg.isBurned, hk] at hburned
      · -- the burn is made
        obtain rfl : step = .burn := by simpa [Leg.stepKind, h, hk] using hkind.symm
        refine ⟨fun htransfer => ?_, fun _ => ?_⟩
        · cases hk.symm.trans htransfer
        · rw [hconsumption]
          obtain ⟨tx, block, payee, amount, heq, hused⟩ := hshown
          exact ⟨tx, block, payee, amount, heq, hused⟩
    · -- the mint is made: the burn is behind
      have hk : leg.kind = .bridge := hl.kind (by rw [h]; rfl)
      obtain rfl : step = .mint := by simpa [Leg.stepKind, h, hk] using hkind.symm
      refine ⟨fun htransfer => ?_, fun _ => ?_⟩
      · cases hk.symm.trans htransfer
      · rw [hconsumption]
        exact hs.burn (by simp [Leg.isBurned, hk, h, LegState.isBridged])

/-- A leg of the tables, with its withdrawal. -/
def LegSettled (D : Deployment) (W : ChainWorker) (C : FinalChain) (db : Store) (leg : Leg) : Prop :=
  ∃ w ∈ db.withdrawals.rows, w.id = leg.withdrawalId ∧ Planned D W leg w ∧
    (leg.sourceChainId = W.config.chainId → Settled C leg w)

/-- An operation keeps what the chain has to show for every leg. -/
lemma legSettled_change {db db' : Store} {call : Call} (h : Store.Change db call db') (hl : db.Lawful)
    (hlegs : ∀ leg ∈ db.legs.rows, LegSettled D W C db leg)
    (hplanned : ∀ now input, call = .create input → ∀ leg ∈ input.legs,
      Planned D W (NewWithdrawalLeg.row leg now input) input.row)
    (hshown : ∀ leg ∈ db.legs.rows, ∀ w, w ∈ db.withdrawals.rows → w.id = leg.withdrawalId →
      Planned D W leg w → leg.sourceChainId = W.config.chainId →
      ∀ jobId step result policy txHash, call = .applyStepResult jobId step result policy →
        leg.step.map OpenStep.jobId = some jobId → leg.stepKind = some step →
        advancedBy step result = some txHash → Shown C leg w txHash step) :
    ∀ leg ∈ db'.legs.rows, LegSettled D W C db' leg := by
  -- a leg that was there, as it was or moved
  have hold : ∀ leg ∈ db.legs.rows, ∀ leg', leg' = leg ∨ leg.Moves call leg' →
      LegSettled D W C db' leg' := by
    intro leg hleg leg' hmove
    obtain ⟨w, hw, hid, hp, hs⟩ := hlegs leg hleg
    obtain ⟨w', hw', hterms⟩ := h.withdrawal_after hw
    have hsame : leg.SameTerms leg' := by
      rcases hmove with rfl | hmove
      · exact .refl leg'
      · exact hmove.sameTerms
    refine ⟨w', hw', ?_, hp.of_terms hsame hterms, fun hsource => ?_⟩
    · rw [hterms.id, hid, hsame.withdrawalId]
    · rw [hsame.sourceChainId] at hsource
      rcases hmove with rfl | hmove
      · exact (hs hsource).of_state (.refl leg') hterms rfl (fun h => h) (fun h => h)
      · exact (hs hsource).moves hmove hterms (hl.legs leg hleg) (hshown leg hleg w hw hid hp hsource)
  intro leg' hleg'
  cases h with
  | created now input hcall withdrawals legs new =>
    rw [legs, List.mem_append, List.mem_map] at hleg'
    rcases hleg' with hleg' | ⟨row, hrow, rfl⟩
    · exact hold leg' hleg' leg' (Or.inl rfl)
    · -- a new leg waits for its signature
      refine ⟨input.row, by rw [withdrawals]; simp, rfl, hplanned now input hcall row hrow, fun _ => ?_⟩
      refine ⟨fun _ hstate => ?_, fun hburned => ?_⟩
      · cases hstate
      · simp [Leg.isBurned, NewWithdrawalLeg.row, LegState.isBridged] at hburned
  | moved db₁ g now ids moved settles ends =>
    rw [settles.legs, moved.rows, List.mem_map] at hleg'
    obtain ⟨leg, hleg, rfl⟩ := hleg'
    exact hold leg hleg _ (moved.moves leg hleg)
  | cancelled db₁ g now w moved legs withdrawals mem live own others =>
    rw [legs, moved.rows, List.mem_map] at hleg'
    obtain ⟨leg, hleg, rfl⟩ := hleg'
    exact hold leg hleg _ (moved.moves leg hleg)

/-! ### Runs -/

namespace Relay

/-- The leg is still there, with its terms, and so is its withdrawal. -/
def Recalled (db : Store) (leg : Leg) (w : Withdrawal) : Prop :=
  ∃ leg' ∈ db.legs.rows, ∃ w' ∈ db.withdrawals.rows, w'.id = leg'.withdrawalId ∧ leg.SameTerms leg' ∧
    w.SameTerms w'

/-- What the server remembers and has published, and what the signers know. -/
structure Sound (D : Deployment) (W : ChainWorker) (C : FinalChain) (s : Relay) : Prop where
  lawful : s.db.Lawful
  durable : Signers.Fleet.Durable W s.fleet
  evident : Signers.Fleet.Evident C W s.fleet
  jobs : ∀ job ∈ s.fleet.db.jobs.rows, job.id = job.command.jobId ∧
    ∀ c, job.command = .withdrawalStep c → c ∈ s.commands
  due : ∀ read ∈ s.due, read.2.DueOn read.1.chainId ∧ ∃ leg ∈ s.db.legs.rows, read.2.SameTerms leg
  found : ∀ read ∈ s.found, read.2.1.DueOn read.1.chainId ∧ Recalled s.db read.2.1 read.2.2
  commands : ∀ c ∈ s.commands, ∃ leg w, leg.id = c.legId ∧ Recalled s.db leg w ∧ CommandOf D c leg w
  once : ∀ c ∈ s.commands, ∀ c' ∈ s.commands, c.jobId = c'.jobId → c = c'
  /-- A leg's open step is a published command of the leg. -/
  steps : ∀ leg ∈ s.db.legs.rows, ∀ step, leg.step = some step →
    ∃ c ∈ s.commands, c.jobId = step.jobId ∧ c.legId = leg.id
  legs : ∀ leg ∈ s.db.legs.rows, LegSettled D W C s.db leg

lemma Sound.start : Sound D W C start where
  lawful := Store.Lawful.empty
  durable := Signers.Fleet.Durable.start
  evident := Signers.Fleet.Evident.start
  jobs := by simp [Relay.start, Signers.Fleet.start, Signers.Execution.empty]
  due := by simp [Relay.start]
  found := by simp [Relay.start]
  commands := by simp [Relay.start]
  once := by simp [Relay.start]
  steps := by simp [Relay.start, Store.empty]
  legs := by simp [Relay.start, Store.empty]

variable {s s' : Relay} {call : Call} {db db' : Store}

lemma leg_terms_after (h : Store.Change db call db') {leg : Leg} (hleg : leg ∈ db.legs.rows) :
    ∃ leg' ∈ db'.legs.rows, leg.SameTerms leg' := by
  obtain ⟨leg', hleg', rfl | hmove⟩ := h.leg_after hleg
  · exact ⟨leg', hleg', .refl leg'⟩
  · exact ⟨leg', hleg', hmove.sameTerms⟩

lemma Recalled.change {leg : Leg} {w : Withdrawal} (hr : Recalled db leg w)
    (h : Store.Change db call db') : Recalled db' leg w := by
  obtain ⟨leg', hleg', w', hw', hid, hleg, hw⟩ := hr
  obtain ⟨leg₁, hleg₁, hterms⟩ := leg_terms_after h hleg'
  obtain ⟨w₁, hw₁, hsame⟩ := h.withdrawal_after hw'
  refine ⟨leg₁, hleg₁, w₁, hw₁, ?_, hleg.trans hterms, hw.trans hsame⟩
  rw [hsame.id, hid, hterms.withdrawalId]

/-- The command of a leg of the tables asks for what the leg's terms say. -/
lemma Sound.commandOf (hs : Sound D W C s) {c : WithdrawalStepCommand} (hc : c ∈ s.commands) {leg : Leg}
    (hleg : leg ∈ s.db.legs.rows) (hid : c.legId = leg.id) {w : Withdrawal}
    (hw : w ∈ s.db.withdrawals.rows) (hwid : w.id = leg.withdrawalId) : CommandOf D c leg w := by
  obtain ⟨leg₀, w₀, hid₀, ⟨leg₁, hleg₁, w₁, hw₁, hwid₁, hterms, hsame⟩, hof⟩ := hs.commands c hc
  have hlegs : leg₁ = leg := s.db.legs.eq_of_key_eq hleg₁ hleg (by rw [hterms.id, hid₀, hid])
  subst hlegs
  have hws : w₁ = w := s.db.withdrawals.eq_of_key_eq hw₁ hw (by rw [hwid₁, hwid])
  subst hws
  exact hof.of_terms hterms hsame

/-- An operation on the tables keeps the invariant, if it opens no step but those of published
commands, and a result it applies to a leg shows what it has to. -/
lemma Sound.change (hs : Sound D W C s) (h : Store.Change s.db call db')
    (hopened : ∀ legId jobId chainId, call = .beginStep legId jobId chainId →
      ∃ c ∈ s.commands, c.jobId = jobId ∧ c.legId = legId)
    (hplanned : ∀ now input, call = .create input → ∀ leg ∈ input.legs,
      Planned D W (NewWithdrawalLeg.row leg now input) input.row)
    (hshown : ∀ leg ∈ s.db.legs.rows, ∀ w, w ∈ s.db.withdrawals.rows → w.id = leg.withdrawalId →
      Planned D W leg w → leg.sourceChainId = W.config.chainId →
      ∀ jobId step result policy txHash, call = .applyStepResult jobId step result policy →
        leg.step.map OpenStep.jobId = some jobId → leg.stepKind = some step →
        advancedBy step result = some txHash → Shown C leg w txHash step) :
    Sound D W C { s with db := db' } where
  lawful := hs.lawful.change h
  durable := hs.durable
  evident := hs.evident
  jobs := hs.jobs
  due := by
    intro read hread
    obtain ⟨hdue, leg, hleg, hterms⟩ := hs.due read hread
    obtain ⟨leg', hleg', hterms'⟩ := leg_terms_after h hleg
    exact ⟨hdue, leg', hleg', hterms.trans hterms'⟩
  found := fun read hread => ⟨(hs.found read hread).1, (hs.found read hread).2.change h⟩
  commands := by
    intro c hc
    obtain ⟨leg, w, hid, hrecalled, hof⟩ := hs.commands c hc
    exact ⟨leg, w, hid, hrecalled.change h, hof⟩
  once := hs.once
  steps := by
    intro leg' hleg' step hstep
    rcases h.leg_before hleg' with ⟨now, input, new, -, -, rfl⟩ | ⟨leg, hleg, rfl | hmove⟩
    · cases hstep
    · exact hs.steps leg' hleg step hstep
    · cases hmove with
      | opened now jobId chainId h =>
        cases hstep
        exact hopened leg.id jobId chainId rfl
      | authorized | cancelled | expired | attested | deferred => exact hs.steps leg hleg step hstep
      | advanced | released | failed => cases hstep
  legs := legSettled_change h hs.lawful hs.legs hplanned hshown

/-- A command is published. -/
lemma Sound.publish (hs : Sound D W C s) {c : WithdrawalStepCommand} {leg : Leg} {w : Withdrawal}
    (hid : leg.id = c.legId) (hrecalled : Recalled s.db leg w) (hof : CommandOf D c leg w)
    (hnew : ∀ c' ∈ s.commands, c'.jobId ≠ c.jobId) :
    Sound D W C { s with commands := c :: s.commands } where
  lawful := hs.lawful
  durable := hs.durable
  evident := hs.evident
  jobs := fun job hjob => ⟨(hs.jobs job hjob).1, fun c' hc' =>
    List.mem_cons_of_mem _ ((hs.jobs job hjob).2 c' hc')⟩
  due := hs.due
  found := hs.found
  commands := by
    intro c' hc'
    rcases List.mem_cons.1 hc' with rfl | hc'
    · exact ⟨leg, w, hid, hrecalled, hof⟩
    · exact hs.commands c' hc'
  once := by
    intro a ha b hb hjob
    rcases List.mem_cons.1 ha with rfl | ha' <;> rcases List.mem_cons.1 hb with rfl | hb'
    · rfl
    · exact absurd hjob.symm (hnew b hb')
    · exact absurd hjob (hnew a ha')
    · exact hs.once a ha' b hb' hjob
  steps := by
    intro leg' hleg' step hstep
    obtain ⟨c', hc', hc'⟩ := hs.steps leg' hleg' step hstep
    exact ⟨c', List.mem_cons_of_mem _ ‹_›, hc'⟩
  legs := hs.legs

/-- The signers go on. -/
lemma Sound.signers (hs : Sound D W C s) {fleet : Signers.Fleet} (hd : Signers.Fleet.Durable W fleet)
    (he : Signers.Fleet.Evident C W fleet)
    (hjobs : ∀ job ∈ fleet.db.jobs.rows, job.id = job.command.jobId ∧
      ∀ c, job.command = .withdrawalStep c → c ∈ s.commands) :
    Sound D W C { s with fleet := fleet } :=
  ⟨hs.lawful, hd, he, hjobs, hs.due, hs.found, hs.commands, hs.once, hs.steps, hs.legs⟩

/-- The jobs after a command was taken. -/
lemma jobs_insertJob {execution : Signers.Execution} {now : Time} {taken : ExecutionCommand}
    {state : Signers.JobState} {job : Signers.Job}
    (h : job ∈ (execution.insertJob now taken state).1.jobs.rows) :
    job ∈ execution.jobs.rows ∨ job.id = job.command.jobId ∧ job.command = taken := by
  rcases Signers.Fleet.insertJob_cases execution now taken state with hno | ⟨jobs, hyes, hrows, -⟩
  · rw [hno] at h
    exact Or.inl h
  · rw [hyes] at h
    change job ∈ jobs.rows at h
    rw [hrows] at h
    rcases List.mem_append.1 h with h | h
    · exact Or.inl h
    · rw [List.mem_singleton.1 h]
      exact Or.inr ⟨rfl, rfl⟩

lemma jobs_publish {execution execution' : Signers.Execution} {event : Signers.ExecutionEvent}
    {origin : Signers.Origin} (h : execution.publish event origin = .ok execution') :
    execution'.jobs = execution.jobs := by
  unfold Signers.Execution.publish at h
  split at h
  · split at h
    · cases h
      rfl
    · cases h
  · cases h
    rfl

/-- A step of the signers makes no new job. -/
lemma jobs_workerStep {w : ℕ} {fleet fleet' : Signers.Fleet} (h : Signers.Fleet.WorkerStep W w fleet fleet')
    {job' : Signers.Job} (hjob' : job' ∈ fleet'.db.jobs.rows) :
    ∃ job ∈ fleet.db.jobs.rows, job'.id = job.id ∧ job'.command = job.command := by
  rcases h.change with ⟨hdb, -⟩ | ⟨task, next, -, hstep⟩
  · rw [hdb] at hjob'
    exact ⟨job', hjob', rfl, rfl⟩
  · exact hstep.change.job_before hjob'

/-- A published conclusion that moves a leg on shows what it has to. -/
lemma Sound.shown (hruns : D.Runs W C made) (hs : Sound D W C s) {p : Signers.Publication} {jobId : JobId}
    {legId : LegId} {chainId : ChainId} {step : WithdrawalStepKind} {result : StepResult}
    (hp : p ∈ s.fleet.db.events) (hevent : p.event = .withdrawalStepFinalized jobId legId chainId step result)
    {leg : Leg} (hleg : leg ∈ s.db.legs.rows) {w : Withdrawal} (hw : w ∈ s.db.withdrawals.rows)
    (hid : w.id = leg.withdrawalId) (hplanned : Planned D W leg w)
    (hsource : leg.sourceChainId = W.config.chainId)
    (hjob : leg.step.map OpenStep.jobId = some jobId) (hkind : leg.stepKind = some step)
    {txHash : Option Hash} (hresult : advancedBy step result = some txHash) :
    Shown C leg w txHash step := by
  -- the event's job is the command that opened the leg's step
  obtain ⟨job, hjobRow, hjobId, hevidences⟩ := hs.evident.published p
    (List.mem_filter.2 ⟨hp, by rw [hevent]; rfl⟩)
  rw [hevent] at hjobId hevidences
  obtain ⟨c, hcommand, rfl, hproves⟩ := hevidences
  obtain ⟨hid', hpublished⟩ := hs.jobs job hjobRow
  have hc := hpublished c hcommand
  obtain ⟨open', hopen, rfl⟩ := Option.map_eq_some_iff.1 hjob
  obtain ⟨c', hc', hjob', hlegId⟩ := hs.steps leg hleg open' hopen
  have heq : c' = c := by
    refine hs.once c' hc' c hc ?_
    rw [hcommand] at hid'
    exact hjob'.trans (hjobId.symm.trans hid')
  subst heq
  exact shown_of_proves hruns (hs.commandOf hc hleg hlegId hw hid) hplanned hsource hkind hproves hresult

lemma Sound.step (hruns : D.Runs W C made)
    (hnode : ∀ answers, W.node answers → Signers.Honest C answers) (hs : Sound D W C s)
    (h : Step D W s s') : Sound D W C s' := by
  cases h with
  | create now plan draws balances input db hplan h =>
    refine hs.change (Store.create_change h) (fun _ _ _ hc => by cases hc) (fun now' input' hc => ?_)
      (fun _ _ _ _ _ _ _ _ _ _ _ _ hc => by cases hc)
    cases hc
    exact planLegs_planned hplan now'
  | operation now call db hfree h =>
    refine hs.change (Store.perform_change h) (fun _ _ _ hc => ?_) (fun _ _ hc => ?_)
      (fun _ _ _ _ _ _ _ _ _ _ _ _ hc => ?_) <;>
    · rw [hc] at hfree
      cases hfree
  | read now config minValidity leg h =>
    obtain ⟨hleg, hdue⟩ := relayable_dueOn h
    refine ⟨hs.lawful, hs.durable, hs.evident, hs.jobs, ?_, hs.found, hs.commands, hs.once, hs.steps,
      hs.legs⟩
    intro read hread
    rcases List.mem_cons.1 hread with rfl | hread
    · exact ⟨hdue, leg, hleg, .refl leg⟩
    · exact hs.due read hread
  | lookUp config leg w hdue h =>
    refine ⟨hs.lawful, hs.durable, hs.evident, hs.jobs, hs.due, ?_, hs.commands, hs.once, hs.steps,
      hs.legs⟩
    intro read hread
    rcases List.mem_cons.1 hread with rfl | hread
    · obtain ⟨hdueOn, leg', hleg', hterms⟩ := hs.due _ hdue
      refine ⟨hdueOn, leg', hleg', w, Table.mem_of_find? h, ?_, hterms, ⟨rfl, rfl, rfl, rfl, rfl⟩⟩
      rw [hterms.withdrawalId]
      exact Table.key_of_find? h
    · exact hs.found read hread
  | openStep config leg w finalized asked now jobId published db hfound hnew hcommand h =>
    obtain ⟨hdue, hrecalled⟩ := hs.found _ hfound
    obtain ⟨rfl, hlegId, hof⟩ := command_commandOf hdue hcommand
    have hpublished := hs.publish hlegId.symm hrecalled hof hnew
    refine hpublished.change (Store.beginStep_change h) (fun legId jobId chainId hc => ?_)
      (fun _ _ hc => by cases hc) (fun _ _ _ _ _ _ _ _ _ _ _ _ hc => by cases hc)
    cases hc
    exact ⟨published, List.mem_cons_self .., rfl, hlegId⟩
  | accept now taken htaken =>
    have hstep : Signers.Fleet.HandlerStep s.fleet _ := .accept now taken
    refine hs.signers (hs.durable.handlerStep hstep) (hs.evident.handlerStep hstep) fun job hjob => ?_
    rcases jobs_insertJob hjob with hjob | ⟨hid, hcommand⟩
    · exact hs.jobs job hjob
    · exact ⟨hid, fun c hc => htaken c (hcommand.symm.trans hc)⟩
  | refuse now taken reason db db' htaken hinsert h =>
    have hstep : Signers.Fleet.HandlerStep s.fleet _ := .refuse now taken reason db db' hinsert h
    refine hs.signers (hs.durable.handlerStep hstep) (hs.evident.handlerStep hstep) fun job hjob => ?_
    change job ∈ db'.jobs.rows at hjob
    rw [jobs_publish h] at hjob
    have hdb : (s.fleet.db.insertJob now taken (.resolved .rejected now
        (.executionRejected taken.jobId taken.chainId reason))).1 = db := by rw [hinsert]
    rw [← hdb] at hjob
    rcases jobs_insertJob hjob with hjob | ⟨hid, hcommand⟩
    · exact hs.jobs job hjob
    · exact ⟨hid, fun c hc => htaken c (hcommand.symm.trans hc)⟩
  | execute w fleet h =>
    refine hs.signers (hs.durable.workerStep h) (hs.evident.workerStep hnode hs.durable h) fun job hjob => ?_
    obtain ⟨job₀, hjob₀, hid, hcommand⟩ := jobs_workerStep h hjob
    rw [hid, hcommand]
    exact hs.jobs job₀ hjob₀
  | conclude now p jobId legId chainId step result policy db applied hp hevent h =>
    refine hs.change (Store.applyStepResult_change h) (fun _ _ _ hc => by cases hc)
      (fun _ _ hc => by cases hc) ?_
    intro leg hleg w hw hid hplanned hsource jobId' step' result' policy' txHash hc hjob hkind hresult
    cases hc
    exact hs.shown hruns hp hevent hleg hw hid hplanned hsource hjob hkind hresult
  | concludeElsewhere now c result policy db applied hc hchain h =>
    refine hs.change (Store.applyStepResult_change h) (fun _ _ _ hc => by cases hc)
      (fun _ _ hc => by cases hc) ?_
    intro leg hleg w hw hid hplanned hsource jobId' step' result' policy' txHash hcall hjob hkind hresult
    cases hcall
    by_cases hmint : c.step = .mint
    · rw [hmint]
      exact trivial
    · -- the leg's own chain runs its transfer or burn
      obtain ⟨open', hopen, heq⟩ := Option.map_eq_some_iff.1 hjob
      obtain ⟨c', hc', hjob', hlegId⟩ := hs.steps leg hleg open' hopen
      obtain rfl : c' = c := hs.once c' hc' c hc (hjob'.trans heq)
      have hof := hs.commandOf hc hleg hlegId hw hid
      exact absurd ((hof.authorization hmint).1.trans hsource) hchain

lemma Sound.run (hruns : D.Runs W C made)
    (hnode : ∀ answers, W.node answers → Signers.Honest C answers)
    (h : Relation.ReflTransGen (Step D W) Relay.start s) : Sound D W C s := by
  induction h with
  | refl => exact Sound.start
  | tail _ hstep ih => exact ih.step hruns hnode hstep

/-- The leg's money was moved: a transfer of the amount to the payee used the authorization. -/
def MovedMoney (C : FinalChain) (leg : Leg) (w : Withdrawal) : Prop :=
  ∃ txHash block, FinalConsumption C leg w = some (.used txHash block leg.authorizationTo leg.amount)

/-- The merchant neither cancels the authorization, nor signs another one with its nonce that is
used. -/
def KeptForLeg (C : FinalChain) (leg : Leg) (w : Withdrawal) : Prop :=
  (∀ txHash block, FinalConsumption C leg w ≠ some (.cancelled txHash block)) ∧
    ∀ txHash block payee amount, FinalConsumption C leg w = some (.used txHash block payee amount) →
      payee = leg.authorizationTo ∧ amount = leg.amount

/-- In every run, a completed transfer leg moved its money exactly when its authorization was kept
for it, and a bridge leg past its burn has the hash of the transaction that consumed its
authorization. -/
theorem completed_legs_moved_their_money_iff_kept (D : Deployment) (W : ChainWorker) (C : FinalChain)
    (made : Hash → ContractCall → Prop) (hruns : D.Runs W C made)
    (hnode : ∀ answers, W.node answers → Signers.Honest C answers) (s : Relay)
    (h : Relation.ReflTransGen (Step D W) Relay.start s) :
    ∀ leg ∈ s.db.legs.rows, ∀ w ∈ s.db.withdrawals.rows, w.id = leg.withdrawalId →
      leg.sourceChainId = W.config.chainId →
      (leg.kind = .transfer → leg.state = .completed → (MovedMoney C leg w ↔ KeptForLeg C leg w)) ∧
      (leg.isBurned = true → ∃ txHash block payee amount, leg.burnTxHash = some txHash ∧
        FinalConsumption C leg w = some (.used txHash block payee amount)) := by
  intro leg hleg w hw hid hsource
  obtain ⟨w', hw', hid', -, hsettled⟩ := (Sound.run hruns hnode h).legs leg hleg
  obtain rfl : w' = w := s.db.withdrawals.eq_of_key_eq hw' hw (hid'.trans hid.symm)
  refine ⟨fun hkind hstate => ⟨?_, ?_⟩, (hsettled hsource).burn⟩
  · rintro ⟨txHash, block, hused⟩
    refine ⟨fun txHash' block' hcancelled => ?_, fun txHash' block' payee amount hother => ?_⟩
    · rw [hused] at hcancelled
      cases hcancelled
    · rw [hused] at hother
      cases hother
      exact ⟨rfl, rfl⟩
  · rintro ⟨hcancelled, hused⟩
    -- the authorization is consumed, one way or another
    have hconsumed := (hsettled hsource).transfer hkind hstate
    cases hc : FinalConsumption C leg w' with
    | none => exact absurd hc hconsumed
    | some consumption =>
      cases consumption with
      | cancelled txHash block => exact absurd hc (hcancelled txHash block)
      | used txHash block payee amount =>
        obtain ⟨rfl, rfl⟩ := hused txHash block payee amount hc
        exact ⟨txHash, block, hc⟩

/-! ### A leg whose authorization is consumed elsewhere -/

/-- The authorization of the sample leg. -/
def isSample (token authorizer : Address) (nonce : Hash) : Bool :=
  decide (token = 21 ∧ authorizer = 100 ∧ nonce = 3)

/-- The transaction that used the authorization. -/
def usedIn : Consumption → Option Hash
  | .used txHash _ _ _ => some txHash
  | .cancelled _ _ => none

/-- The sample leg's authorization is consumed. -/
def sampleChain (consumed : Consumption) : FinalChain where
  block n := n
  includes _ txHash succeeded := usedIn consumed = some txHash ∧ succeeded = true
  consumption token authorizer nonce := if isSample token authorizer nonce then some consumed else none

/-- A node of that chain, at block 5. -/
def sampleNode (consumed : Consumption) : Signers.Answers where
  receipts := ⟨fun _ => .ok none, fun _ => .ok none⟩
  receiptsAgain := ⟨fun _ => .ok none, fun _ => .ok none⟩
  minedNonce _ := .ok 0
  pendingNonce _ := .ok 0
  boundary := .ok ⟨5, 5, 60⟩
  blockHeader n := .ok ⟨n, n, 12 * n⟩
  blockHeaderAgain n := .ok ⟨n, n, 12 * n⟩
  reader := ⟨fun n => .ok ⟨n, n, 12 * n⟩, fun _ _ _ _ => .ok none, fun _ _ _ _ _ _ => .error .readOnly⟩
  stepReader := ⟨fun token authorizer nonce _ => .ok (isSample token authorizer nonce),
    fun token authorizer nonce _ _ => .ok (if isSample token authorizer nonce then
      (usedIn consumed).map fun txHash => (txHash, ⟨true, 4, 4⟩) else none), fun _ _ => .ok 0⟩
  estimateFees := .ok ⟨2, 1⟩
  sign _ := .ok ()

/-- A process for chain 1 without signers. -/
def sampleExecutor (consumed : Consumption) : ChainWorker where
  config := ⟨1, 40, 0, 100⟩
  policy := ⟨60, 5, 5⟩
  signers := []
  keccak _ := 0
  node answers := answers = sampleNode consumed

def sampleDeployment : Deployment where
  registry := [⟨1, 0, 1000, none⟩]
  keccak _ := 0
  keccak_lt _ := Nat.two_pow_pos 256
  domain_lt := by
    intro chainId cctp h
    simp only [ChainRegistry.cctp, ChainRegistry.get, List.find?] at h
    split at h <;> simp at h
  isToken token := token = 21
  isForwarder _ _ := False

lemma sampleNode_honest (consumed : Consumption) :
    Signers.Honest (sampleChain consumed) (sampleNode consumed) where
  receipt := by
    intro txHash outcome h
    cases h
  receiptAgain := by
    intro txHash outcome h
    cases h
  header := by
    intro boundary n header _ _ h
    cases h
    rfl
  state := by
    intro token authorizer nonce n h hnone
    have hsample : isSample token authorizer nonce = true := Except.ok.inj h
    simp [sampleChain, hsample] at hnone
  used := by
    intro token authorizer nonce fromBlock toBlock txHash outcome h
    have h := Except.ok.inj h
    split at h
    · rename_i hsample
      cases consumed with
      | used txHash' block payee amount =>
        cases h
        exact ⟨block, payee, amount, by simp [sampleChain, hsample]⟩
      | cancelled txHash' block => cases h
    · cases h

/-- The transfer that used the authorization. -/
def sampleMade : Consumption → Hash → ContractCall → Prop
  | .used used _ payee amount, txHash, call => txHash = used ∧ ∃ signature,
      call = .transferWithAuthorization 21 100 payee amount 0 9000 3 signature
  | .cancelled _ _, _, _ => False

lemma sampleDeployment_runs {consumed : Consumption} (hother : usedIn consumed ≠ some 0) :
    sampleDeployment.Runs (sampleExecutor consumed) (sampleChain consumed) (sampleMade consumed) where
  deployed := by
    intro cctp h
    cases h
  token := by
    rintro raw payer payee value validAfter validBefore nonce signature ⟨n, h, -⟩
    exact absurd h hother
  forwarder := by
    rintro raw tokenMessenger token payer value destinationDomain mintRecipient salt validBefore signature
      ⟨n, h, -⟩
    exact absurd h hother
  transferred := by
    rintro txHash token payer payee value validAfter validBefore nonce signature - h
    cases consumed with
    | cancelled txHash' block => rcases h with h | h <;> cases h
    | used txHash' block payee' amount =>
      rcases h with ⟨rfl, signature', h⟩ | ⟨-, signature', h⟩
      · cases h
        exact ⟨block, rfl⟩
      · cases h

/-- A transfer of 6 on chain 1. -/
def sampleTransfer : NewWithdrawal :=
  ⟨1, 7, "key", 100, .usdc, 1, 200, [⟨11, 0, .transfer, 1, 6, 21, 200, 3, none, 9000⟩]⟩

def samplePlan : LegPlan :=
  ⟨fun _ => 0, [⟨1, 0, 1000, none⟩], fun _ token => if token = 21 then some 21 else none, true, 1, 200, 9000⟩

lemma samplePlan_plans (consumed : Consumption) : Plans sampleDeployment (sampleExecutor consumed)
    samplePlan (fun _ => ⟨11, 3⟩) [(1, 21, 6)] sampleTransfer where
  keccak := rfl
  networks := rfl
  destinationChainId := rfl
  destination := rfl
  domain := by
    intro token domainToken h
    simp only [samplePlan] at h
    split at h
    · cases h
      exact ⟨rfl, by decide⟩
    · cases h
  random := by
    intro i
    decide
  balance := by
    intro balance h
    rw [List.mem_singleton.1 h]
    decide
  wallet_lt := by decide
  destination_lt := by decide
  legs := rfl

/-- The command that is published for the sample leg. -/
def sampleStep : WithdrawalStepCommand :=
  ⟨50, 11, 1, .transfer, 21, .bytes (StepCall.transferWithAuthorization 100 200 6 0 9000 3
    Store.sampleSignature).abiEncode, transferGas, some (.authorizationUnused 21 100 3 0), some 8940⟩

def sampleStepJob : Signers.Job := ⟨50, 1, .withdrawalStep sampleStep, .queued, 0, 0, none, 0⟩

lemma queuedJobs_sampleStepJob : Signers.Execution.queuedJobs
    { Signers.Execution.empty with jobs := ⟨[sampleStepJob], by simp⟩ } 0 1 = [sampleStepJob] := by
  have hqueued : (([sampleStepJob] : List Signers.Job).filter fun job => decide (job.chainId = 1 ∧
      job.state = .queued ∧ job.nextAttemptAt ≤ 0)) = [sampleStepJob] := rfl
  rw [Signers.Execution.queuedJobs, hqueued, List.mergeSort_singleton]

/-- The conclusion that the sample leg's step was executed elsewhere. -/
lemma tryStart_sampleStepJob (consumed : Consumption) :
    (sampleExecutor consumed).tryStart (sampleNode consumed) 0 sampleStepJob [] =
      .ok (.conclude (.withdrawalStepFinalized 50 11 1 .transfer (.executedElsewhere (usedIn consumed)))) := by
  have hfind : Signers.findAuthorizationUse (sampleNode consumed).stepReader 21 100 3 0 100 5 =
      .ok (usedIn consumed) := by
    rw [Signers.findAuthorizationUse]
    cases consumed <;> rfl
  have hcheck : Signers.check (sampleNode consumed).stepReader 100 (.authorizationUnused 21 100 3 0)
      ⟨5, 5, 60⟩ = .ok (.violated (usedIn consumed)) := by
    have hstate : (sampleNode consumed).stepReader.authorizationState 21 100 3 5 = .ok true := rfl
    have hchunk : max 100 1 = 100 := rfl
    simp only [Signers.check, hstate, hchunk, hfind]
  have hfree : (sampleExecutor consumed).nonceFree (sampleNode consumed) 0 sampleStepJob =
      .ok (some (.withdrawalStepFinalized 50 11 1 .transfer (.executedElsewhere (usedIn consumed)))) := by
    have hboundary : (sampleNode consumed).boundary = .ok ⟨5, 5, 60⟩ := rfl
    simp only [ChainWorker.nonceFree, sampleStepJob, sampleStep, hboundary]
    rw [show (sampleExecutor consumed).config.logRangeSize = 100 from rfl, hcheck]
    rfl
  rw [ChainWorker.tryStart, hfree]

/-- The sample leg, signed. -/
def sampleSigned : Leg :=
  { NewWithdrawalLeg.row ⟨11, 0, .transfer, 1, 6, 21, 200, 3, none, 9000⟩ 0 sampleTransfer with
    state := .authorized
    signature := some (Store.sampleSignature, 1)
    updatedAt := 1 }

lemma command_sampleSigned : command sampleDeployment.registry ⟨1, 0, 1000, none⟩ none 3 50 sampleSigned
    sampleTransfer.row = .ok sampleStep := by
  have hsearch : searchStart ⟨1, 0, 1000, none⟩ none 3 sampleSigned = 0 := by decide
  simp only [command, hsearch]
  rfl

/-- The merchant signs the sample leg, and the signers find its authorization consumed. -/
lemma sampleTransfer_run (consumed : Consumption) : ∃ s leg w,
    Relation.ReflTransGen (Step sampleDeployment (sampleExecutor consumed)) Relay.start s ∧
    leg ∈ s.db.legs.rows ∧ w ∈ s.db.withdrawals.rows ∧ leg.state = .completed ∧
    sampleSigned.SameTerms leg ∧ sampleTransfer.row.SameTerms w := by
  have h₁ := Relation.ReflTransGen.single (r := Step sampleDeployment (sampleExecutor consumed))
    (Step.create 0 samplePlan (fun _ => ⟨11, 3⟩) [(1, 21, 6)] sampleTransfer _ (samplePlan_plans consumed)
      (rfl : Relay.start.db.create 0 sampleTransfer = .ok _))
  have h₂ := h₁.tail (.operation 1 (.authorize ⟨[sampleTransfer.row], by simp⟩ 7 1 11 Store.sampleSignature)
    _ rfl rfl)
  have h₃ := h₂.tail (.read 2 ⟨1, 0, 1000, none⟩ 0 sampleSigned (List.mem_cons_self ..))
  have h₄ := h₃.tail (.lookUp ⟨1, 0, 1000, none⟩ sampleSigned sampleTransfer.row (List.mem_cons_self ..) rfl)
  have h₅ := h₄.tail (.openStep ⟨1, 0, 1000, none⟩ sampleSigned sampleTransfer.row none 3 3 50 sampleStep _
    (List.mem_cons_self ..) (by simp [Relay.start]) command_sampleSigned rfl)
  -- the signers take the command, and have no signer to start it with
  have h₆ := h₅.tail (.accept 0 (.withdrawalStep sampleStep) fun c hc => by
    cases hc
    exact List.mem_cons_self ..)
  have h₇ := h₆.tail (.execute 0 _ (.openTransactions rfl))
  have h₈ := h₇.tail (.execute 0 _ (.queuedJobs 0 rfl))
  have h₉ := h₈.tail (.execute 0 _ (.busySigners [sampleStepJob] []
    (congrArg Signers.Pass.queued queuedJobs_sampleStepJob) (List.Perm.refl _)))
  have h₁₀ := h₉.tail (.execute 0 _ (.drain [sampleStepJob] [] rfl (Or.inr rfl)))
  have h₁₁ := h₁₀.tail (.execute 0 _ (.nextJob sampleStepJob [] rfl))
  have h₁₂ := h₁₁.tail (.execute 0 _ (.runDrained (.start sampleStepJob []) [] _ _ _ rfl
    (.start sampleStepJob [] (sampleNode consumed) 0 _ rfl (tryStart_sampleStepJob consumed))))
  have h₁₃ := h₁₂.tail (.execute 0 _ (.runDrained _ [] _ _ _ rfl (.conclude _ _ _ 4 _ rfl)))
  have h₁₄ := h₁₃.tail (.conclude 5 _ 50 11 1 .transfer (.executedElsewhere (usedIn consumed))
    Store.samplePolicy _ _ (List.mem_cons_self ..) rfl rfl)
  exact ⟨_, _, _, h₁₄, List.mem_cons_self .., List.mem_cons_self .., rfl,
    ⟨rfl, rfl, rfl, rfl, rfl, rfl, rfl, rfl, rfl, rfl, rfl⟩, ⟨rfl, rfl, rfl, rfl, rfl⟩⟩

lemma finalConsumption_sample (consumed : Consumption) {leg : Leg} {w : Withdrawal}
    (hleg : sampleSigned.SameTerms leg) (hw : sampleTransfer.row.SameTerms w) :
    FinalConsumption (sampleChain consumed) leg w = some consumed := by
  rw [FinalConsumption, hleg.tokenAddress, hleg.nonce, hw.walletAddress]
  rfl

/-- The transfer was made in transaction 77. -/
theorem completed_legs_moved_their_money_sampleTransfer : ∃ s leg w,
    Relation.ReflTransGen (Step sampleDeployment (sampleExecutor (.used 77 4 200 6))) Relay.start s ∧
    leg ∈ s.db.legs.rows ∧ w ∈ s.db.withdrawals.rows ∧ leg.state = .completed ∧
    MovedMoney (sampleChain (.used 77 4 200 6)) leg w := by
  obtain ⟨s, leg, w, hrun, hleg, hw, hstate, hterms, hsame⟩ := sampleTransfer_run (.used 77 4 200 6)
  have hconsumed := finalConsumption_sample (.used 77 4 200 6) hterms hsame
  have hmoved := completed_legs_moved_their_money_iff_kept sampleDeployment _ _ _
    (sampleDeployment_runs (by simp [usedIn])) (fun answers h => by
      rw [show answers = sampleNode _ from h]
      exact sampleNode_honest _) s hrun leg hleg w hw (by rw [hsame.id, hterms.withdrawalId]; rfl)
    (by rw [hterms.sourceChainId]; rfl)
  refine ⟨s, leg, w, hrun, hleg, hw, hstate, (hmoved.1 (by rw [hterms.kind]; rfl) hstate).2 ⟨?_, ?_⟩⟩
  · rw [hconsumed]
    simp
  · rintro txHash block payee amount h
    rw [hconsumed] at h
    cases h
    rw [hterms.authorizationTo, hterms.amount]
    exact ⟨rfl, rfl⟩

/-- The merchant cancelled the authorization in transaction 88: the leg is completed all the same. -/
theorem a_cancelled_authorization_completes_its_leg : ∃ s leg w,
    Relation.ReflTransGen (Step sampleDeployment (sampleExecutor (.cancelled 88 4))) Relay.start s ∧
    (∀ answers, (sampleExecutor (.cancelled 88 4)).node answers →
      Signers.Honest (sampleChain (.cancelled 88 4)) answers) ∧
    sampleDeployment.Runs (sampleExecutor (.cancelled 88 4)) (sampleChain (.cancelled 88 4))
      (sampleMade (.cancelled 88 4)) ∧
    leg ∈ s.db.legs.rows ∧ w ∈ s.db.withdrawals.rows ∧ w.id = leg.withdrawalId ∧
    leg.kind = .transfer ∧ leg.state = .completed ∧ ¬ MovedMoney (sampleChain (.cancelled 88 4)) leg w := by
  obtain ⟨s, leg, w, hrun, hleg, hw, hstate, hterms, hsame⟩ := sampleTransfer_run (.cancelled 88 4)
  have hconsumed := finalConsumption_sample (.cancelled 88 4) hterms hsame
  refine ⟨s, leg, w, hrun, fun answers h => ?_, sampleDeployment_runs (by simp [usedIn]), hleg, hw, ?_, ?_,
    hstate, ?_⟩
  · rw [show answers = sampleNode _ from h]
    exact sampleNode_honest _
  · rw [hsame.id, hterms.withdrawalId]
    rfl
  · rw [hterms.kind]
    rfl
  · rintro ⟨txHash, block, hused⟩
    rw [hconsumed] at hused
    cases hused

end Relay

end Payday.Withdrawals
