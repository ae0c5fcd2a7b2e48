/-
# Legs that were closed without being relayed

A merchant who cancels a withdrawal is told that the signatures of its legs are never used, and a leg
expires because it was not relayed in time.  Both operations look at the states of the legs only,
and a leg whose step came back from the signers is authorized again.  When the step's job was
concluded before it had a slot this is right: it never gets one.  A transaction that was mined and
reverted, on the other hand, has shown the signature to everybody; and so will the transaction of a
job that was rejected because the acknowledgement of its slot was lost.
-/
import Payday.Signers.LostCommits
import Payday.Withdrawals.MovedMoney

namespace Payday.Withdrawals

open Signers (WithdrawalStepKind WithdrawalStepCommand StepResult ExecutionCommand
  ChainWorker)

/-! ### Which legs are closed -/

namespace LegState

/-- The merchant was told that the leg's signature will not be used. -/
def isWithdrawn : LegState → Bool
  | cancelled | expired => true
  | _ => false

/-- No step of the leg has succeeded, and none can have failed for good. -/
def isUnmoved : LegState → Bool
  | awaitingSignature | authorized | relaying | cancelled | expired => true
  | _ => false

lemma isUnmoved_of_isUnrelayed {state : LegState} (h : state.isUnrelayed = true) :
    state.isUnmoved = true := by
  rcases Leg.isUnrelayed_cases h with rfl | rfl <;> rfl

end LegState

namespace Store

variable {db db' : Store} {now : Time} {call : Call} {leg leg' : Leg}

/-- The legs that a call cancels, or lets expire. -/
def takes (db : Store) (now : Time) : Call → Leg → Bool
  | .cancel account withdrawalId, leg =>
    (db.withdrawals.rows.any fun w =>
      decide (w.accountId = account ∧ w.id = withdrawalId) && !w.ended) &&
    ((db.legsOf withdrawalId).all fun other =>
      other.state.isUnrelayed || decide (other.state = .expired)) &&
    decide (leg.withdrawalId = withdrawalId) && leg.state.isUnrelayed
  | .expireStale margin, leg => stale now margin leg
  | _, _ => false

lemma isUnrelayed_of_takes (h : db.takes now call leg = true) : leg.state.isUnrelayed = true := by
  cases call with
  | cancel account withdrawalId => exact (Bool.and_eq_true _ _ ▸ h).2
  | expireStale margin => exact (Bool.and_eq_true _ _ ▸ h).1
  | _ => cases h

/-- A leg without a step. -/
lemma step_eq_none_of_isUnrelayed (hleg : leg ∈ db.legs.rows) (h : leg.state.isUnrelayed = true) :
    leg.step = none := by
  rcases (db.checked leg hleg).2.2.2.2.2.1 with hnone | hstep
  · exact hnone
  · rcases Leg.isUnrelayed_cases h with heq | heq <;>
    · rw [heq] at hstep
      cases hstep

lemma takes_of_cancel {account : AccountId} {withdrawalId : WithdrawalId} {outcome : CancelOutcome}
    (h : db.cancel now account withdrawalId = .ok (db', outcome)) (hleg : leg ∈ db.legs.rows)
    (hmine : leg.withdrawalId = withdrawalId) (hstate : leg.state.isUnrelayed = true)
    (hnot : leg ∉ db'.legs.rows) : db.takes now (.cancel account withdrawalId) leg = true := by
  unfold cancel at h
  split at h
  · cases h
    exact absurd hleg hnot
  · rename_i row hfind
    have hrow := List.mem_of_find?_eq_some hfind
    have hid := of_decide_eq_true (List.find?_some hfind :)
    split at h
    · cases h
      exact absurd hleg hnot
    · rename_i hcancelled
      split at h
      · cases h
        exact absurd hleg hnot
      · rename_i hfinished
        split at h
        · cases h
          exact absurd hleg hnot
        · rename_i hrelayed
          simp only [takes, Bool.and_eq_true, decide_eq_true_eq]
          refine ⟨⟨⟨List.any_eq_true.2 ⟨row, hrow, ?_⟩, List.all_eq_true.2 fun other hother => ?_⟩, hmine⟩,
            hstate⟩
          · have hlive : row.ended = false := by
              simp only [Bool.or_eq_true, not_or, Bool.not_eq_true] at hcancelled hfinished
              rw [Withdrawal.ended, hcancelled, hfinished.1, hfinished.2]
              rfl
            simp [hid, hlive]
          · have hother := List.any_eq_false.1 (Bool.eq_false_iff.2 hrelayed) other hother
            simpa [Bool.not_eq_true] using Decidable.not_not.1 fun h => hother (by simpa using h)

lemma stale_of_expireStale {margin expired : ℕ} (h : db.expireStale now margin = .ok (db', expired))
    (hleg : leg ∈ db.legs.rows) (hnot : leg ∉ db'.legs.rows) : stale now margin leg = true := by
  obtain ⟨db₁, hupdate, h⟩ := bind_eq_ok.1 h
  obtain ⟨db₂, hsettle, hok⟩ := bind_eq_ok.1 h
  cases hok
  by_contra hstale
  refine hnot ?_
  rw [(settles_foldlM hsettle).legs, (updateLegs_ok hupdate).2]
  refine List.mem_map.2 ⟨leg, hleg, ?_⟩
  rw [if_neg hstale]

/-- A leg that an operation cancels or lets expire is one that the operation takes. -/
lemma takes_of_moves (h : db.perform now call = some db') (hleg : leg ∈ db.legs.rows)
    (hmove : leg.Moves call leg') (hleg' : leg' ∈ db'.legs.rows)
    (hclosed : leg'.state.isWithdrawn = true) : db.takes now call leg = true := by
  -- the row is replaced, since its state changes
  have hnot : leg ∉ db'.legs.rows := by
    intro hstill
    obtain rfl := db'.legs.eq_of_key_eq hstill hleg' hmove.sameTerms.id.symm
    have hlive := hmove.not_terminal
    revert hlive hclosed
    cases leg.state <;> simp [LegState.isWithdrawn, LegState.isTerminal]
  cases hmove with
  | cancelled account at' hstate =>
    obtain ⟨outcome, hok⟩ := exists_ok h
    exact takes_of_cancel hok hleg rfl hstate hnot
  | expired margin at' hstate =>
    obtain ⟨expired, hok⟩ := exists_ok h
    exact stale_of_expireStale hok hleg hnot
  | authorized | attested | failed => cases hclosed
  | opened at' jobId chainId hstate =>
    revert hclosed
    dsimp only
    split <;> simp [LegState.isWithdrawn]
  | advanced at' nextCheckAt jobId step result policy txHash hjob hstep hkind hresult =>
    revert hclosed
    dsimp only
    split <;> simp [LegState.isWithdrawn]
  | released jobId reported result policy at' reverts retryAt hjob hstep =>
    revert hclosed
    dsimp only
    rcases Leg.hasStep_cases hstep with heq | heq <;> rw [heq] <;> simp [LegState.released, LegState.isWithdrawn]
  | deferred at' nextCheckAt hstate =>
    dsimp only at hclosed
    rw [hstate] at hclosed
    cases hclosed

lemma beginStep_leg {legId : LegId} {jobId : JobId} {chainId : ChainId}
    (h : db.beginStep now legId jobId chainId = .ok (db', true)) :
    ∃ leg ∈ db.legs.rows, leg.id = legId := by
  unfold beginStep at h
  split at h
  · rename_i hany
    obtain ⟨leg, hleg, hp⟩ := List.any_eq_true.1 hany
    rw [Bool.and_eq_true, decide_eq_true_eq] at hp
    exact ⟨leg, hleg, hp.1⟩
  · cases h

/-- An opened step is the leg's. -/
lemma beginStep_opened {legId : LegId} {jobId : JobId} {chainId : ChainId}
    (h : db.beginStep now legId jobId chainId = .ok (db', true)) (hleg' : leg' ∈ db'.legs.rows)
    (hid : leg'.id = legId) : leg'.step.map OpenStep.jobId = some jobId ∧ leg'.state.hasStep = true := by
  unfold beginStep at h
  split at h
  · dsimp only at h
    obtain ⟨db₁, hupdate, hok⟩ := bind_eq_ok.1 h
    obtain ⟨rfl, hopened⟩ := Prod.mk.inj (Except.ok.inj hok)
    obtain ⟨leg, hleg, hp⟩ := List.any_eq_true.1 hopened
    rw [(updateLegs_ok hupdate).2] at hleg'
    obtain ⟨row, hrow, rfl⟩ := List.mem_map.1 hleg'
    have hrowId : row.id = legId := by
      split at hid <;> exact hid
    obtain rfl := db.legs.eq_of_key_eq hrow hleg (hrowId.trans (of_decide_eq_true hp).1.symm)
    rw [if_pos hp]
    refine ⟨rfl, ?_⟩
    dsimp only
    split <;> rfl
  · cases h

end Store

lemma command_ids {registry : ChainRegistry} {config : ChainConfig} {finalized : Option ℕ} {now : Time}
    {jobId : JobId} {leg : Leg} {w : Withdrawal} {c : WithdrawalStepCommand}
    (h : command registry config finalized now jobId leg w = .ok c) :
    c.jobId = jobId ∧ c.legId = leg.id := by
  unfold command at h
  dsimp only at h
  split at h
  · cases h
  · split at h
    · cases h
    · cases h
      exact ⟨rfl, rfl⟩
  · split at h
    · cases h
    · cases h
    · cases h
    · cases h
      exact ⟨rfl, rfl⟩
  · split at h
    · cases h
    · cases h
    · cases h
    · split at h
      · cases h
      · cases h
        exact ⟨rfl, rfl⟩

/-! ### What is accounted for -/

namespace Relay

variable {D : Deployment} {W : ChainWorker} {s s' : Relay} {call : Call} {db' : Store}

/-- A transaction of the job's slot was handed to a node. -/
def Broadcast (s : Relay) (jobId : JobId) : Prop :=
  ∃ slot ∈ s.fleet.db.transactions.rows, slot.jobId = jobId ∧ ∃ row ∈ s.fleet.db.attempts.rows,
    row.transactionId = slot.id ∧ row.attempt.rawTransaction ∈ s.fleet.sent

/-- The leg had a step on the executor's chain whose transaction was broadcast. -/
def Relayed (W : ChainWorker) (s : Relay) (leg : Leg) : Prop :=
  ∃ c ∈ s.commands, c.legId = leg.id ∧ c.chainId = W.config.chainId ∧ s.Broadcast c.jobId

/-- No slot was opened for the leg's steps on the executor's chain. -/
def Unopened (W : ChainWorker) (s : Relay) (leg : Leg) : Prop :=
  ∀ c ∈ s.commands, c.legId = leg.id → c.chainId = W.config.chainId →
    ∀ slot ∈ s.fleet.db.transactions.rows, slot.jobId ≠ c.jobId

/-- A step of the server, or of the one executor of the chain, which may not learn of its commits. -/
def AloneStep (D : Deployment) (W : ChainWorker) (s s' : Relay) : Prop :=
  (Step D W s s' ∧ (s'.fleet = s.fleet ∨ Signers.Fleet.SoloStep W s.fleet s'.fleet)) ∨
    ∃ fleet, Signers.Fleet.LostCommit W 0 s.fleet fleet ∧ s' = { s with fleet := fleet }

/-- The legs that are cancelled or let expire had no slot for their earlier steps. -/
def CleanStep (D : Deployment) (W : ChainWorker) (s s' : Relay) : Prop :=
  AloneStep D W s s' ∧ ∀ now call, s.db.perform now call = some s'.db →
    ∀ leg ∈ s.db.legs.rows, s.db.takes now call leg = true → Unopened W s leg

/-- The step has a conclusion. -/
def Answered (s : Relay) (c : WithdrawalStepCommand) : Prop :=
  ∃ p ∈ s.fleet.db.conclusions, p.event.jobId = c.jobId

/-- What became of the published steps. -/
structure Accounted (W : ChainWorker) (s : Relay) : Prop where
  lone : Signers.Fleet.Lone W s.fleet
  known : ∀ c ∈ s.commands, ∃ leg ∈ s.db.legs.rows, leg.id = c.legId
  once : ∀ c ∈ s.commands, ∀ c' ∈ s.commands, c.jobId = c'.jobId → c = c'
  /-- While no step of a leg has succeeded, its steps are open or have a conclusion. -/
  answered : ∀ leg ∈ s.db.legs.rows, leg.state.isUnmoved = true → ∀ c ∈ s.commands, c.legId = leg.id →
    c.chainId = W.config.chainId → leg.step.map OpenStep.jobId = some c.jobId ∨ Answered s c
  /-- The steps of a withdrawn leg were concluded without a slot. -/
  unsent : ∀ leg ∈ s.db.legs.rows, leg.state.isWithdrawn = true → ∀ c ∈ s.commands, c.legId = leg.id →
    c.chainId = W.config.chainId → Signers.EndedUnopened s.fleet.db c.jobId

lemma Accounted.start : Accounted W start where
  lone := Signers.Fleet.Lone.start
  known := by simp [Relay.start]
  once := by simp [Relay.start]
  answered := by simp [Relay.start]
  unsent := by simp [Relay.start]

/-- The leg of an old step, before an operation. -/
lemma Accounted.leg_before (hs : Accounted W s) (h : Store.Change s.db call db') {c : WithdrawalStepCommand}
    (hc : c ∈ s.commands) {leg' : Leg} (hleg' : leg' ∈ db'.legs.rows) (hid : c.legId = leg'.id) :
    ∃ leg ∈ s.db.legs.rows, c.legId = leg.id ∧ (leg' = leg ∨ leg.Moves call leg') := by
  obtain ⟨leg, hleg, hlegId⟩ := hs.known c hc
  obtain ⟨leg₁, hleg₁, hmove⟩ := h.leg_after hleg
  have hid₁ : leg₁.id = leg.id := by
    rcases hmove with rfl | hmove
    · rfl
    · exact hmove.sameTerms.id
  obtain rfl := db'.legs.eq_of_key_eq hleg₁ hleg' (hid₁.trans (hlegId.trans hid))
  exact ⟨leg, hleg, hlegId.symm, hmove⟩

/-- The steps of a leg that is not relayed all have a conclusion. -/
lemma Accounted.answered_of_isUnrelayed (hs : Accounted W s) {leg : Leg} (hleg : leg ∈ s.db.legs.rows)
    (hstate : leg.state.isUnrelayed = true) {c : WithdrawalStepCommand} (hc : c ∈ s.commands)
    (hid : c.legId = leg.id) (hchain : c.chainId = W.config.chainId) : Answered s c := by
  rcases hs.answered leg hleg (LegState.isUnmoved_of_isUnrelayed hstate) c hc hid hchain with hopen | h
  · rw [Store.step_eq_none_of_isUnrelayed hleg hstate] at hopen
    cases hopen
  · exact h

/-- The steps of a leg after a move. -/
lemma Accounted.answered_moves (hs : Accounted W s) {leg leg' : Leg} (hleg : leg ∈ s.db.legs.rows)
    (hmove : leg.Moves call leg') (hstate : leg'.state.isUnmoved = true) {c : WithdrawalStepCommand}
    (hc : c ∈ s.commands) (hid : c.legId = leg.id) (hchain : c.chainId = W.config.chainId)
    (hconcluded : ∀ jobId reported result policy, call = .applyStepResult jobId reported result policy →
      c.jobId = jobId → Answered s c) : Answered s c := by
  cases hmove with
  | authorized snapshot account withdrawalId signature now h =>
    exact hs.answered_of_isUnrelayed hleg (by rw [h]; rfl) hc hid hchain
  | cancelled account now h => exact hs.answered_of_isUnrelayed hleg h hc hid hchain
  | expired margin now h => exact hs.answered_of_isUnrelayed hleg h hc hid hchain
  | opened now jobId chainId h =>
    rcases h with h | h
    · exact hs.answered_of_isUnrelayed hleg (by rw [h]; rfl) hc hid hchain
    · -- the leg is about to be minted
      simp [h, LegState.isUnmoved] at hstate
  | released jobId reported result policy now reverts retryAt hjob hstep =>
    rcases Leg.hasStep_cases hstep with h | h
    · rcases hs.answered leg hleg (by rw [h]; rfl) c hc hid hchain with hopen | hanswered
      · exact hconcluded jobId reported result policy rfl (Option.some.inj (hopen.symm.trans hjob))
      · exact hanswered
    · simp [h, LegState.released, LegState.isUnmoved] at hstate
  | advanced now nextCheckAt jobId step result policy txHash hjob hstep hkind hresult =>
    revert hstate
    dsimp only
    split <;> simp [LegState.isUnmoved]
  | deferred now nextCheckAt h => simp [h, LegState.isUnmoved] at hstate
  | failed | attested => cases hstate

/-- An operation, which may publish steps that it opens. -/
lemma Accounted.change (hs : Accounted W s) (cs : List WithdrawalStepCommand)
    (h : Store.Change s.db call db')
    (honce : ∀ c ∈ cs, ∀ c' ∈ cs, c.jobId = c'.jobId → c = c')
    (hnew : ∀ c ∈ cs, c ∈ s.commands ∨ ((∃ leg ∈ s.db.legs.rows, leg.id = c.legId) ∧
      ∀ leg' ∈ db'.legs.rows, leg'.id = c.legId →
        leg'.step.map OpenStep.jobId = some c.jobId ∧ leg'.state.hasStep = true))
    (hconcluded : ∀ jobId reported result policy, call = .applyStepResult jobId reported result policy →
      ∀ c ∈ s.commands, c.chainId = W.config.chainId → c.jobId = jobId → Answered s c)
    (htaken : ∀ leg ∈ s.db.legs.rows, ∀ leg' ∈ db'.legs.rows, leg.Moves call leg' →
      leg'.state.isWithdrawn = true → Unopened W s leg ∧ leg.state.isUnrelayed = true) :
    Accounted W { s with db := db', commands := cs } where
  lone := hs.lone
  known := by
    intro c hc
    have hold : ∃ leg ∈ s.db.legs.rows, leg.id = c.legId := by
      rcases hnew c hc with hc | ⟨hleg, -⟩
      · exact hs.known c hc
      · exact hleg
    obtain ⟨leg, hleg, hid⟩ := hold
    obtain ⟨leg', hleg', hterms⟩ := leg_terms_after h hleg
    exact ⟨leg', hleg', hterms.id.trans hid⟩
  once := honce
  answered := by
    intro leg' hleg' hstate c hc hid hchain
    rcases hnew c hc with hc | ⟨-, hopened⟩
    · obtain ⟨leg, hleg, hid, rfl | hmove⟩ := hs.leg_before h hc hleg' hid
      · exact hs.answered leg' hleg hstate c hc hid hchain
      · exact Or.inr (hs.answered_moves hleg hmove hstate hc hid hchain
          fun jobId reported result policy hcall hjob =>
            hconcluded jobId reported result policy hcall c hc hchain hjob)
    · exact Or.inl (hopened leg' hleg' hid.symm).1
  unsent := by
    intro leg' hleg' hstate c hc hid hchain
    rcases hnew c hc with hc | ⟨-, hopened⟩
    · obtain ⟨leg, hleg, hid, rfl | hmove⟩ := hs.leg_before h hc hleg' hid
      · exact hs.unsent leg' hleg hstate c hc hid hchain
      · obtain ⟨hunopened, hunrelayed⟩ := htaken leg hleg leg' hleg' hmove hstate
        exact ⟨hs.answered_of_isUnrelayed hleg hunrelayed hc hid hchain, hunopened c hc hid hchain⟩
    · -- a leg with an open step is not withdrawn
      have hstep := (hopened leg' hleg' hid.symm).2
      rcases Leg.hasStep_cases hstep with heq | heq <;>
      · rw [heq] at hstate
        cases hstate

/-- The executor goes on. -/
lemma Accounted.signers (hs : Accounted W s) {fleet : Signers.Fleet}
    (h : fleet = s.fleet ∨ Signers.Fleet.LoneStep W s.fleet fleet) : Accounted W { s with fleet := fleet } := by
  rcases h with rfl | h
  · exact hs
  · refine ⟨hs.lone.step h, hs.known, hs.once, fun leg hleg hstate c hc hid hchain => ?_,
      fun leg hleg hstate c hc hid hchain => ?_⟩
    · rcases hs.answered leg hleg hstate c hc hid hchain with hopen | ⟨p, hp, hjob⟩
      · exact Or.inl hopen
      · exact Or.inr ⟨p, h.conclusions hp, hjob⟩
    · exact hs.lone.endedUnopened h (hs.unsent leg hleg hstate c hc hid hchain)

/-- An operation that opens no step and applies no result. -/
lemma Accounted.operation (hs : Accounted W s) {now : Time} (hfree : isFree call = true)
    (h : s.db.perform now call = some db')
    (hclean : ∀ leg ∈ s.db.legs.rows, s.db.takes now call leg = true → Unopened W s leg) :
    Accounted W { s with db := db' } := by
  refine hs.change s.commands (Store.perform_change h) hs.once (fun c hc => Or.inl hc) ?_ ?_
  · rintro jobId reported result policy rfl
    cases hfree
  · intro leg hleg leg' hleg' hmove hstate
    have htakes := Store.takes_of_moves h hleg hmove hleg' hstate
    exact ⟨hclean leg hleg htakes, Store.isUnrelayed_of_takes htakes⟩

/-- A result is applied, for a step of another chain or with its conclusion. -/
lemma Accounted.conclude (hs : Accounted W s) {now : Time} {jobId : JobId} {step : WithdrawalStepKind}
    {result : StepResult} {policy : StepPolicy} {applied : StepApplied}
    (h : s.db.applyStepResult now jobId step result policy = .ok (db', applied))
    (hanswered : ∀ c ∈ s.commands, c.chainId = W.config.chainId → c.jobId = jobId → Answered s c) :
    Accounted W { s with db := db' } := by
  refine hs.change s.commands (Store.applyStepResult_change h) hs.once (fun c hc => Or.inl hc) ?_ ?_
  · rintro jobId' reported result' policy' hcall c hc hchain hjob
    cases hcall
    exact hanswered c hc hchain hjob
  · intro leg hleg leg' hleg' hmove hstate
    -- a result moves no leg to these states
    have hperform : s.db.perform now (.applyStepResult jobId step result policy) = some db' := by
      rw [Store.perform, h]
      rfl
    cases Store.takes_of_moves hperform hleg hmove hleg' hstate

/-- A step is opened, and its command published. -/
lemma Accounted.openStep (hs : Accounted W s) {now : Time} {legId : LegId} {chainId : ChainId}
    {c : WithdrawalStepCommand} (hid : c.legId = legId) (hnew : ∀ c' ∈ s.commands, c'.jobId ≠ c.jobId)
    (h : s.db.beginStep now legId c.jobId chainId = .ok (db', true)) :
    Accounted W { s with db := db', commands := c :: s.commands } := by
  subst hid
  refine hs.change (c :: s.commands) (Store.beginStep_change h) ?_ (fun c' hc' => ?_) (by simp) ?_
  · intro a ha b hb hjob
    rcases List.mem_cons.1 ha with rfl | ha' <;> rcases List.mem_cons.1 hb with rfl | hb'
    · rfl
    · exact absurd hjob.symm (hnew b hb')
    · exact absurd hjob (hnew a ha')
    · exact hs.once a ha' b hb' hjob
  · rcases List.mem_cons.1 hc' with rfl | hc'
    · refine Or.inr ⟨Store.beginStep_leg h, fun leg' hleg' hlegId => ?_⟩
      exact Store.beginStep_opened h hleg' hlegId
    · exact Or.inl hc'
  · intro leg hleg leg' hleg' hmove hstate
    have hperform : s.db.perform now (.beginStep c.legId c.jobId chainId) = some db' := by
      rw [Store.perform, h]
      rfl
    cases Store.takes_of_moves hperform hleg hmove hleg' hstate

lemma Accounted.step (hs : Accounted W s) (h : CleanStep D W s s') : Accounted W s' := by
  obtain ⟨⟨hstep, hfleet⟩ | ⟨fleet, hlost, rfl⟩, hclean⟩ := h
  case inr => exact hs.signers (Or.inr (Or.inr hlost))
  have hfleet : s'.fleet = s.fleet ∨ Signers.Fleet.LoneStep W s.fleet s'.fleet := hfleet.imp_right Or.inl
  cases hstep with
  | create now plan draws balances input db hplan h =>
    refine hs.change s.commands (Store.create_change h) hs.once (fun c hc => Or.inl hc) (by simp) ?_
    intro leg hleg leg' hleg' hmove
    cases hmove with
    | failed call now reason hcall => cases hcall
  | operation now call db hfree h => exact hs.operation hfree h (hclean now call h)
  | read now config minValidity leg h => exact ⟨hs.lone, hs.known, hs.once, hs.answered, hs.unsent⟩
  | lookUp config leg w hdue h => exact ⟨hs.lone, hs.known, hs.once, hs.answered, hs.unsent⟩
  | openStep config leg w finalized asked now jobId published db hfound hnew hcommand h =>
    obtain ⟨rfl, hlegId⟩ := command_ids hcommand
    exact hs.openStep hlegId hnew h
  | accept now taken htaken => exact hs.signers hfleet
  | refuse now taken reason db db' htaken hinsert h => exact hs.signers hfleet
  | execute w fleet h => exact hs.signers hfleet
  | conclude now p jobId legId chainId step result policy db applied hp hevent h =>
    refine hs.conclude h fun c hc hchain hjob => ⟨p, List.mem_filter.2 ⟨hp, ?_⟩, ?_⟩
    · rw [hevent]
      rfl
    · rw [hevent, hjob]
      rfl
  | concludeElsewhere now c result policy db applied hc hchain h =>
    refine hs.conclude h fun c' hc' hchain' hjob => absurd hchain' ?_
    rwa [hs.once c' hc' c hc hjob]

/-- In every run of the server with one executor of the chain, in which a leg is cancelled or let
expire only when no slot was opened for its earlier steps, a cancelled or expired leg never had a
step whose transaction was broadcast. -/
theorem withdrawn_legs_were_never_relayed (D : Deployment) (W : ChainWorker) (s : Relay)
    (h : Relation.ReflTransGen (CleanStep D W) Relay.start s) :
    ∀ leg ∈ s.db.legs.rows, leg.state = .cancelled ∨ leg.state = .expired → ¬ Relayed W s leg := by
  have hs : Accounted W s := by
    induction h with
    | refl => exact Accounted.start
    | tail _ hstep ih => exact ih.step hstep
  rintro leg hleg hstate ⟨c, hc, hid, hchain, slot, hslot, hjob, -⟩
  have hwithdrawn : leg.state.isWithdrawn = true := by
    rcases hstate with h | h <;> rw [h] <;> rfl
  exact (hs.unsent leg hleg hwithdrawn c hc hid hchain).free slot hslot hjob

/-! ### A leg whose transaction reverts -/

/-- A node of a chain on which the sample leg's authorization stays unused. -/
def relayNode (outcome : Option Signers.TransactionOutcome) : Signers.Answers where
  receipts := ⟨fun _ => .ok none, fun _ => .ok outcome⟩
  receiptsAgain := ⟨fun _ => .ok none, fun _ => .ok outcome⟩
  minedNonce _ := .ok 0
  pendingNonce _ := .ok 0
  boundary := .ok ⟨5, 5, 60⟩
  blockHeader n := .ok ⟨n, n, 12 * n⟩
  blockHeaderAgain n := .ok ⟨n, n, 12 * n⟩
  reader := ⟨fun n => .ok ⟨n, n, 12 * n⟩, fun _ _ _ _ => .ok none, fun _ _ _ _ _ _ => .error .readOnly⟩
  stepReader := ⟨fun _ _ _ _ => .ok false, fun _ _ _ _ _ => .ok none, fun _ _ => .ok 0⟩
  estimateFees := .ok ⟨2, 1⟩
  sign _ := .ok ()

/-- A process for chain 1 with one signer. -/
def relayer : ChainWorker where
  config := ⟨1, 40, 0, 100⟩
  policy := ⟨60, 5, 5⟩
  signers := [9]
  keccak _ := 77
  node answers := ∃ outcome, answers = relayNode outcome

/-- The bytes that carry the sample leg's signature. -/
def relayBytes : Signers.SignedTransaction := ⟨9, 1, 0, 21, sampleStep.calldata, transferGas, 2, 1⟩

def relayTransaction : Signers.Execution.NewTransaction :=
  ⟨50, 1, 9, 0, 21, sampleStep.calldata, transferGas, ⟨0, 77, relayBytes, 2, 1, none⟩⟩

/-- The slot as it is after the broadcast, with its job. -/
def relaySlot : Signers.OpenTransaction :=
  ⟨{ relayTransaction.slot 4 1 with broadcastAt := some 5, submittedAt := 5, state := .broadcast },
    { sampleStepJob with state := .executing }, [⟨0, 77, relayBytes, 2, 1, some 5⟩]⟩

/-- The signers after the broadcast. -/
def relayDb : Signers.Execution :=
  ⟨⟨[relaySlot.job], by simp⟩, ⟨[relaySlot.slot], by simp⟩, ⟨[⟨1, ⟨0, 77, relayBytes, 2, 1, some 5⟩⟩], by simp⟩,
    []⟩

lemma openTransactions_relayDb : relayDb.openTransactions 1 = [relaySlot] := by
  have hattempts : relayDb.attemptsOf 1 = relaySlot.attempts := by
    rw [Signers.Execution.attemptsOf]
    exact List.mergeSort_singleton _
  have hslots : relayDb.openTransactions 1 =
      [⟨relaySlot.slot, relaySlot.job, relayDb.attemptsOf 1⟩] := rfl
  rw [hslots, hattempts]

lemma samplePlan_plans_relayer : Plans sampleDeployment relayer samplePlan (fun _ => ⟨11, 3⟩) [(1, 21, 6)]
    sampleTransfer :=
  have h := samplePlan_plans (.cancelled 0 0)
  ⟨h.keccak, h.networks, h.destinationChainId, h.destination, h.domain, h.random, h.balance, h.wallet_lt,
    h.destination_lt, h.legs⟩

lemma tryStart_relayer : relayer.tryStart (relayNode none) 0 sampleStepJob [9] =
    .ok (.beginTx relayTransaction []) := rfl

/-- The sample step is started after its deadline. -/
lemma tryStart_late : relayer.tryStart (relayNode none) 9000 sampleStepJob [9] =
    .ok (.conclude (.withdrawalStepFinalized 50 11 1 .transfer .expired)) := rfl

lemma AloneStep.server (h : Step D W s s') (hfleet : s'.fleet = s.fleet) : AloneStep D W s s' :=
  Or.inl ⟨h, Or.inl hfleet⟩

lemma AloneStep.execute {fleet : Signers.Fleet} (h : Signers.Fleet.WorkerStep W 0 s.fleet fleet) :
    AloneStep D W s { s with fleet := fleet } :=
  Or.inl ⟨.execute 0 fleet h, Or.inr (Or.inr h)⟩

lemma AloneStep.accept (now : Time) (taken : ExecutionCommand)
    (htaken : ∀ c, taken = .withdrawalStep c → c ∈ s.commands) : AloneStep D W s { s with
      fleet := { s.fleet with db := (s.fleet.db.insertJob now taken .queued).1 } } :=
  Or.inl ⟨.accept now taken htaken, Or.inr (Or.inl (.accept now taken))⟩

lemma AloneStep.lost {fleet : Signers.Fleet} (h : Signers.Fleet.LostCommit W 0 s.fleet fleet) :
    AloneStep D W s { s with fleet := fleet } :=
  Or.inr ⟨fleet, h, rfl⟩

lemma AloneStep.clean (h : AloneStep D W s s') (hslots : s.fleet.db.transactions.rows = []) :
    CleanStep D W s s' := by
  refine ⟨h, fun now call _ leg _ _ c _ _ _ slot hslot => ?_⟩
  rw [hslots] at hslot
  cases hslot

/-- The sample leg, with its step open. -/
def sampleOpened : Leg := { sampleSigned with state := .relaying, step := some ⟨50, 1⟩, updatedAt := 3 }

/-- The store in which the step is open. -/
def openedStore : Store where
  withdrawals := ⟨[sampleTransfer.row], by simp⟩
  legs := ⟨[sampleOpened], by simp⟩
  oneEnding := by decide
  checked := by decide
  stepJobs := by decide
  references := by decide

/-- The sample leg is signed, its step opened, and the executor is about to start the step's job. -/
lemma sampleTransfer_starting : ∃ s, Relation.ReflTransGen (CleanStep sampleDeployment relayer) Relay.start s ∧
    s.db = openedStore ∧ s.commands = [sampleStep] ∧
    s.fleet.db = { Signers.Execution.empty with jobs := ⟨[sampleStepJob], by simp⟩ } ∧ s.fleet.sent = [] ∧
    s.fleet.passes 0 = .starting [] [] [.start sampleStepJob [9]] := by
  have h₁ := Relation.ReflTransGen.single ((AloneStep.server (Step.create 0 samplePlan (fun _ => ⟨11, 3⟩)
    [(1, 21, 6)] sampleTransfer _ samplePlan_plans_relayer
    (rfl : Relay.start.db.create 0 sampleTransfer = .ok _)) rfl).clean rfl)
  have h₂ := h₁.tail ((AloneStep.server (.operation 1 (.authorize ⟨[sampleTransfer.row], by simp⟩ 7 1 11
    Store.sampleSignature) _ rfl rfl) rfl).clean rfl)
  have h₃ := h₂.tail ((AloneStep.server (.read 2 ⟨1, 0, 1000, none⟩ 0 sampleSigned
    (List.mem_cons_self ..)) rfl).clean rfl)
  have h₄ := h₃.tail ((AloneStep.server (.lookUp ⟨1, 0, 1000, none⟩ sampleSigned sampleTransfer.row
    (List.mem_cons_self ..) rfl) rfl).clean rfl)
  have h₅ := h₄.tail ((AloneStep.server (.openStep ⟨1, 0, 1000, none⟩ sampleSigned sampleTransfer.row none 3
    3 50 sampleStep _ (List.mem_cons_self ..) (by simp [Relay.start]) command_sampleSigned rfl) rfl).clean rfl)
  -- the executor takes the command
  have h₆ := h₅.tail ((AloneStep.accept 0 (.withdrawalStep sampleStep) fun c hc => by
    cases hc
    exact List.mem_cons_self ..).clean rfl)
  have h₇ := h₆.tail ((AloneStep.execute (.openTransactions rfl)).clean rfl)
  have h₈ := h₇.tail ((AloneStep.execute (.queuedJobs 0 rfl)).clean rfl)
  have h₉ := h₈.tail ((AloneStep.execute (.busySigners [sampleStepJob] [9]
    (congrArg Signers.Pass.queued queuedJobs_sampleStepJob) (List.Perm.refl _))).clean rfl)
  have h₁₀ := h₉.tail ((AloneStep.execute (.fill sampleStepJob [] 9 [] [] rfl)).clean rfl)
  exact ⟨_, h₁₀, rfl, rfl, rfl, rfl, rfl⟩

/-- The executor concludes the sample leg's step after the deadline, and does not learn of its
commit.  The leg is authorized again, and the merchant cancels the withdrawal. -/
theorem withdrawn_legs_were_never_relayed_sampleTransfer : ∃ s leg,
    Relation.ReflTransGen (CleanStep sampleDeployment relayer) Relay.start s ∧
    leg ∈ s.db.legs.rows ∧ leg.state = .cancelled ∧ s.commands = [sampleStep] ∧
    sampleStep.legId = leg.id ∧ ¬ Relayed relayer s leg := by
  obtain ⟨⟨db, ⟨signers, sent, passes⟩, commands, due, found⟩, h, rfl, rfl, rfl, rfl, hpass⟩ :=
    sampleTransfer_starting
  have h₁ := h.tail ((AloneStep.execute (.run [] [] [] [] (.start sampleStepJob [9]) _ _ _ hpass
    (.start _ _ (relayNode none) 9000 _ (⟨none, rfl⟩ : relayer.node _) tryStart_late))).clean rfl)
  have h₂ := h₁.tail ((AloneStep.lost (.lost _ _ _ _ _ _ _ "connection closed"
    (.starting [] [] [] [] _) (.conclude _ _ _ 9000 _ rfl))).clean rfl)
  have h₃ := h₂.tail ((AloneStep.execute .stop).clean rfl)
  have h₄ := h₃.tail ((AloneStep.server (.conclude 9001 _ 50 11 1 .transfer .expired Store.samplePolicy _ _
    (List.mem_cons_self ..) rfl rfl) rfl).clean rfl)
  have h₅ := h₄.tail ((AloneStep.server (.operation 9002 (.cancel 7 1) _ rfl rfl) rfl).clean rfl)
  exact ⟨_, _, h₅, List.mem_cons_self .., rfl, rfl, rfl, withdrawn_legs_were_never_relayed _ _ _ h₅ _
    (List.mem_cons_self ..) (Or.inl rfl)⟩

/-- The sample leg's transaction is mined and reverts; the leg is authorized again, and the merchant
cancels the withdrawal. -/
theorem a_cancelled_leg_was_relayed : ∃ s leg,
    Relation.ReflTransGen (AloneStep sampleDeployment relayer) Relay.start s ∧
    leg ∈ s.db.legs.rows ∧ leg.state = .cancelled ∧ Relayed relayer s leg ∧
    ∃ raw ∈ s.fleet.sent, raw.calldata = .bytes (StepCall.transferWithAuthorization 100 200 6 0 9000 3
      Store.sampleSignature).abiEncode := by
  obtain ⟨⟨db, ⟨signers, sent, passes⟩, commands, due, found⟩, h, rfl, rfl, rfl, rfl, hpass⟩ :=
    sampleTransfer_starting
  have h := Relation.ReflTransGen.mono (fun _ _ h => h.1) _ _ h
  -- the executor sends the transaction
  have h₁ := h.tail (.execute (.run [] [] [] [] (.start sampleStepJob [9]) _ _ _ hpass
    (.start _ _ (relayNode none) 0 _ ⟨none, rfl⟩ tryStart_relayer)))
  have h₂ := h₁.tail (.execute (.run [] [] [] [] (.beginTransaction sampleStepJob relayTransaction [])
    _ _ _ rfl (.beginTransaction _ _ _ 4 1 _ rfl)))
  have h₃ := h₂.tail (.execute (.run [] [] [] [] _ _ _ _ rfl (.broadcast _ _)))
  have h₄ := h₃.tail (.execute (.run [] [] [] [] _ _ _ _ rfl (.markBroadcast _ _ 5 _ rfl)))
  have h₅ := h₄.tail (.execute .stop)
  -- the next pass finds that it reverted, with the authorization unused
  have h₆ := h₅.tail (.execute (.openTransactions rfl))
  have h₇ := h₆.tail (.execute (.nextSlot relaySlot []
    (congrArg (Signers.Pass.reconciling none) openTransactions_relayDb)))
  have h₈ := h₇.tail (.execute (.reconcile (.reconcile relaySlot) [] _ _ _ rfl
    (.reconcile _ _ (relayNode (some ⟨false, 4, 4⟩)) 6 _ ⟨_, rfl⟩ rfl rfl)))
  have h₉ := h₈.tail (.execute (.reconcile _ [] _ _ _ rfl (.recordMined _ _ _)))
  have h₁₀ := h₉.tail (.execute (.reconcile _ [] _ _ _ rfl
    (.onMined _ _ _ (relayNode (some ⟨false, 4, 4⟩)) _ ⟨_, rfl⟩ rfl)))
  have h₁₁ := h₁₀.tail (.execute (.reconcile _ [] _ _ _ rfl (.resolve _ _ _ _ 7 _ rfl)))
  have h₁₂ := h₁₁.tail (.server (.conclude 8 _ 50 11 1 .transfer (.reverted 77) Store.samplePolicy _ _
    (List.mem_cons_self ..) rfl rfl) rfl)
  have h₁₃ := h₁₂.tail (.server (.operation 9 (.cancel 7 1) _ rfl rfl) rfl)
  exact ⟨_, _, h₁₃, List.mem_cons_self .., rfl, ⟨sampleStep, List.mem_cons_self .., rfl, rfl, _,
    List.mem_cons_self .., rfl, _, List.mem_cons_self .., rfl, List.mem_cons_self ..⟩, relayBytes,
    List.mem_cons_self .., rfl⟩

end Relay

end Payday.Withdrawals
