/-
# What an operation does to a withdrawal

A statement on the legs rewrites some of them, each by one of the moves below; afterwards the
withdrawals whose legs came to an end are settled.  Only a cancellation closes a withdrawal
otherwise.  Every operation is described once in these terms, and the laws of the state machine
follow from the description.
-/
import Mathlib.Logic.Relation
import Mathlib.Data.List.Dedup
import Payday.Lib.Checks
import Payday.Withdrawals.Operations

namespace Payday.Withdrawals

open Signers (WithdrawalStepKind StepResult)

/-- The operations, with their arguments. -/
inductive Call
  | create (input : NewWithdrawal)
  | authorize (snapshot : Table Withdrawal.id) (account : AccountId) (withdrawalId : WithdrawalId)
      (legId : LegId) (signature : List UInt8)
  | cancel (account : AccountId) (withdrawalId : WithdrawalId)
  | beginStep (legId : LegId) (jobId : JobId) (chainId : ChainId)
  | applyStepResult (jobId : JobId) (reported : WithdrawalStepKind) (result : StepResult)
      (policy : StepPolicy)
  | rejectStep (jobId : JobId) (reason : String)
  | failLeg (legId : LegId) (reason : String)
  | expireStale (margin : ℕ)
  | recordAttestation (legId : LegId) (message attestation : List UInt8)
  | deferAttestation (legId : LegId) (nextCheckAt : Time)

/-- The operations that can fail a leg. -/
def Call.mayFail : Call → Bool
  | applyStepResult .. | rejectStep .. | failLeg .. => true
  | _ => false

/-- The transaction that is recorded for a step when a result about it moves the leg on. -/
def advancedBy : WithdrawalStepKind → StepResult → Option (Option Hash)
  | _, .succeeded txHash _ _ => some (some txHash)
  | .mint, .executedElsewhere _ => some none
  | .transfer, .executedElsewhere txHash => some txHash
  | .burn, .executedElsewhere (some txHash) => some (some txHash)
  | _, _ => none

/-- The ways an operation rewrites a leg. -/
inductive Leg.Moves (leg : Leg) : Call → Leg → Prop
  | authorized (snapshot : Table Withdrawal.id) (account : AccountId) (withdrawalId : WithdrawalId)
      (signature : List UInt8) (now : Time) (h : leg.state = .awaitingSignature) :
      Moves leg (.authorize snapshot account withdrawalId leg.id signature)
        { leg with state := .authorized, signature := some (signature, now), updatedAt := now }
  | cancelled (account : AccountId) (now : Time) (h : leg.state.isUnrelayed = true) :
      Moves leg (.cancel account leg.withdrawalId) { leg with state := .cancelled, updatedAt := now }
  | expired (margin now : ℕ) (h : leg.state.isUnrelayed = true) :
      Moves leg (.expireStale margin) { leg with state := .expired, updatedAt := now }
  | opened (now : Time) (jobId : JobId) (chainId : ChainId)
      (h : leg.state = .authorized ∨ leg.state = .attested) :
      Moves leg (.beginStep leg.id jobId chainId) { leg with
        state := if leg.state = .authorized then .relaying else .minting
        step := some ⟨jobId, chainId⟩
        updatedAt := now }
  | advanced (now nextCheckAt : Time) (jobId : JobId) (step : WithdrawalStepKind) (result : StepResult)
      (policy : StepPolicy) (txHash : Option Hash) (hjob : leg.step.map OpenStep.jobId = some jobId)
      (hstep : leg.state.hasStep = true) (hkind : leg.stepKind = some step)
      (hresult : advancedBy step result = some txHash) :
      Moves leg (.applyStepResult jobId step result policy) { leg with
        state := if step = .burn then .burned else .completed
        transferTxHash := if step = .transfer then txHash else leg.transferTxHash
        burnTxHash := if step = .burn then txHash else leg.burnTxHash
        mintTxHash := if step = .mint then txHash else leg.mintTxHash
        attestationNextCheckAt := if step = .burn then some nextCheckAt else none
        step := none
        stepReverts := 0
        stepRetryAt := none
        updatedAt := now }
  | released (jobId : JobId) (reported : WithdrawalStepKind) (result : StepResult)
      (policy : StepPolicy) (now : Time) (reverts : ℕ) (retryAt : Option Time)
      (hjob : leg.step.map OpenStep.jobId = some jobId) (hstep : leg.state.hasStep = true) :
      Moves leg (.applyStepResult jobId reported result policy) { leg with
        state := leg.state.released
        step := none
        stepReverts := reverts
        stepRetryAt := retryAt
        updatedAt := now }
  | failed (call : Call) (now : Time) (reason : String) (hcall : call.mayFail = true)
      (h : leg.state.isTerminal = false) :
      Moves leg call { leg with
        state := .failed
        failureReason := some reason
        step := none
        stepRetryAt := none
        updatedAt := now }
  | attested (now : Time) (message attestation : List UInt8) (h : leg.state = .burned) :
      Moves leg (.recordAttestation leg.id message attestation) { leg with
        state := .attested
        attestation := some (message, attestation)
        attestationNextCheckAt := none
        updatedAt := now }
  | deferred (now nextCheckAt : Time) (h : leg.state = .burned) :
      Moves leg (.deferAttestation leg.id nextCheckAt)
        { leg with attestationNextCheckAt := some nextCheckAt, updatedAt := now }

/-- What no move changes: the leg's identity and the terms that were signed. -/
structure Leg.SameTerms (leg leg' : Leg) : Prop where
  id : leg'.id = leg.id
  withdrawalId : leg'.withdrawalId = leg.withdrawalId
  kind : leg'.kind = leg.kind
  sourceChainId : leg'.sourceChainId = leg.sourceChainId
  destinationChainId : leg'.destinationChainId = leg.destinationChainId
  amount : leg'.amount = leg.amount
  tokenAddress : leg'.tokenAddress = leg.tokenAddress
  authorizationTo : leg'.authorizationTo = leg.authorizationTo
  nonce : leg'.nonce = leg.nonce
  salt : leg'.salt = leg.salt
  validBefore : leg'.validBefore = leg.validBefore

lemma Leg.SameTerms.refl (leg : Leg) : leg.SameTerms leg :=
  ⟨rfl, rfl, rfl, rfl, rfl, rfl, rfl, rfl, rfl, rfl, rfl⟩

lemma Leg.SameTerms.trans {a b c : Leg} (h : a.SameTerms b) (h' : b.SameTerms c) : a.SameTerms c :=
  ⟨h'.id.trans h.id, h'.withdrawalId.trans h.withdrawalId, h'.kind.trans h.kind,
    h'.sourceChainId.trans h.sourceChainId, h'.destinationChainId.trans h.destinationChainId,
    h'.amount.trans h.amount, h'.tokenAddress.trans h.tokenAddress,
    h'.authorizationTo.trans h.authorizationTo, h'.nonce.trans h.nonce, h'.salt.trans h.salt,
    h'.validBefore.trans h.validBefore⟩

lemma Leg.Moves.sameTerms {leg leg' : Leg} {call : Call} (h : leg.Moves call leg') : leg.SameTerms leg' := by
  cases h <;> exact ⟨rfl, rfl, rfl, rfl, rfl, rfl, rfl, rfl, rfl, rfl, rfl⟩

/-- What no operation changes of a withdrawal. -/
structure Withdrawal.SameTerms (w w' : Withdrawal) : Prop where
  id : w'.id = w.id
  accountId : w'.accountId = w.accountId
  walletAddress : w'.walletAddress = w.walletAddress
  destinationChainId : w'.destinationChainId = w.destinationChainId
  destinationAddress : w'.destinationAddress = w.destinationAddress

lemma Withdrawal.SameTerms.trans {a b c : Withdrawal} (h : a.SameTerms b) (h' : b.SameTerms c) :
    a.SameTerms c :=
  ⟨h'.id.trans h.id, h'.accountId.trans h.accountId, h'.walletAddress.trans h.walletAddress,
    h'.destinationChainId.trans h.destinationChainId, h'.destinationAddress.trans h.destinationAddress⟩

/-- A leg that came to an end does not move. -/
lemma Leg.Moves.not_terminal {leg leg' : Leg} {call : Call} (h : leg.Moves call leg') :
    leg.state.isTerminal = false := by
  cases h with
  | authorized snapshot account withdrawalId signature now h | attested now message attestation h
  | deferred now nextCheckAt h =>
    rw [h]
    rfl
  | opened now jobId chainId h => rcases h with h | h <;> rw [h] <;> rfl
  | failed call now reason hcall h => exact h
  | cancelled account now h | expired margin now h
  | advanced now nextCheckAt jobId step result policy txHash hjob h hkind hresult
  | released jobId reported result policy now reverts retryAt hjob h =>
    revert h
    cases leg.state <;> simp [LegState.isUnrelayed, LegState.hasStep, LegState.isTerminal]

namespace Store

/-- The legs are rewritten by `g`, every one of them by a move or not at all. -/
structure Moved (db : Store) (call : Call) (db' : Store) (g : Leg → Leg) : Prop where
  withdrawals : db'.withdrawals = db.withdrawals
  rows : db'.legs.rows = db.legs.rows.map g
  moves : ∀ leg ∈ db.legs.rows, g leg = leg ∨ leg.Moves call (g leg)

/-- `settle_in` would close the withdrawal. -/
def closable (db : Store) (w : Withdrawal) : Bool :=
  !w.ended && (db.legsOf w.id).all (·.state.isTerminal)

/-- The withdrawal as `settle_in` closes it. -/
def close (db : Store) (now : Time) (w : Withdrawal) : Withdrawal :=
  if (db.legsOf w.id).all fun leg => decide (leg.state = .completed) then
    { w with completedAt := some now, failedAt := none }
  else { w with completedAt := none, failedAt := some now }

/-- Some withdrawals were settled. -/
structure Settles (db db' : Store) (now : Time) (ids : List WithdrawalId) : Prop where
  legs : db'.legs = db.legs
  rows : db'.withdrawals.rows = db.withdrawals.rows.map fun w =>
    if w.id ∈ ids ∧ db.closable w = true then db.close now w else w

/-- What an operation can do. -/
inductive Change (db : Store) (call : Call) (db' : Store) : Prop
  | created (now : Time) (input : NewWithdrawal) (hcall : call = .create input)
      (withdrawals : db'.withdrawals.rows = db.withdrawals.rows ++ [input.row])
      (legs : db'.legs.rows = db.legs.rows ++ input.legs.map fun leg => leg.row now input)
      (new : input.id ∉ db.withdrawals.rows.map Withdrawal.id)
  /-- The withdrawals of the legs that came to an end are settled. -/
  | moved (db₁ : Store) (g : Leg → Leg) (now : Time) (ids : List WithdrawalId)
      (moved : Moved db call db₁ g) (settles : Settles db₁ db' now ids)
      (ends : ∀ leg ∈ db.legs.rows, (g leg).state.isTerminal = true → leg.state.isTerminal = false →
        leg.withdrawalId ∈ ids)
  /-- No leg of the withdrawal was relayed, and all that had not expired are cancelled. -/
  | cancelled (db₁ : Store) (g : Leg → Leg) (now : Time) (w : Withdrawal)
      (moved : Moved db call db₁ g) (legs : db'.legs = db₁.legs)
      (withdrawals : db'.withdrawals.rows = db.withdrawals.rows.map fun row =>
        if row.id = w.id then { row with cancelledAt := some now } else row)
      (mem : w ∈ db.withdrawals.rows) (live : w.ended = false)
      (own : ∀ leg ∈ db.legs.rows, leg.withdrawalId = w.id →
        (g leg).state = .cancelled ∨ (g leg).state = .expired)
      (others : ∀ leg ∈ db.legs.rows, leg.withdrawalId ≠ w.id → g leg = leg)

/-! ### Statements -/

variable {db db' : Store} {now : Time} {call : Call}

lemma updateLegs_ok {p : Leg → Bool} {f : Leg → Leg}
    {hf : ∀ leg, (f leg).id = leg.id ∧ (f leg).withdrawalId = leg.withdrawalId}
    (h : db.updateLegs p f hf = .ok db') :
    db'.withdrawals = db.withdrawals ∧
      db'.legs.rows = db.legs.rows.map fun leg => if p leg then f leg else leg := by
  unfold updateLegs at h
  dsimp only at h
  split at h
  · split at h
    · cases h
      exact ⟨rfl, rfl⟩
    · cases h
  · cases h

lemma updateWithdrawals_ok {p : Withdrawal → Bool} {f : Withdrawal → Withdrawal}
    {hf : ∀ w, (f w).id = w.id} (h : db.updateWithdrawals p f hf = .ok db') :
    db'.legs = db.legs ∧
      db'.withdrawals.rows = db.withdrawals.rows.map fun w => if p w then f w else w := by
  unfold updateWithdrawals at h
  dsimp only at h
  split at h
  · cases h
    exact ⟨rfl, rfl⟩
  · cases h

lemma insertWithdrawal_ok {w : Withdrawal} (h : db.insertWithdrawal w = .ok db') :
    db'.legs = db.legs ∧ db'.withdrawals.rows = db.withdrawals.rows ++ [w] ∧
      w.id ∉ db.withdrawals.rows.map Withdrawal.id := by
  unfold insertWithdrawal at h
  split at h
  · cases h
  · split at h
    · cases h
    · split at h
      · cases h
      · rename_i hkey
        split at h
        · cases h
          exact ⟨rfl, rfl, hkey⟩
        · cases h

lemma insertLeg_ok {leg : Leg} (h : db.insertLeg leg = .ok db') :
    db'.withdrawals = db.withdrawals ∧ db'.legs.rows = db.legs.rows ++ [leg] := by
  unfold insertLeg at h
  split at h
  · cases h
  · split at h
    · cases h
    · split at h
      · split at h
        · split at h
          · cases h
            exact ⟨rfl, rfl⟩
          · cases h
        · cases h
      · cases h

/-- An update of the legs that moves every leg it touches. -/
lemma Moved.of_updateLegs {p : Leg → Bool} {f : Leg → Leg}
    {hf : ∀ leg, (f leg).id = leg.id ∧ (f leg).withdrawalId = leg.withdrawalId}
    (h : db.updateLegs p f hf = .ok db')
    (hmoves : ∀ leg ∈ db.legs.rows, p leg = true → leg.Moves call (f leg)) :
    Moved db call db' fun leg => if p leg then f leg else leg := by
  obtain ⟨hwithdrawals, hrows⟩ := updateLegs_ok h
  refine ⟨hwithdrawals, hrows, fun leg hleg => ?_⟩
  by_cases hp : p leg = true
  · rw [if_pos hp]
    exact Or.inr (hmoves leg hleg hp)
  · rw [if_neg hp]
    exact Or.inl rfl

/-! ### Settling -/

@[simp] lemma close_id (w : Withdrawal) : (db.close now w).id = w.id := by
  unfold close
  split <;> rfl

@[simp] lemma close_ended (w : Withdrawal) : (db.close now w).ended = true := by
  unfold close
  split <;> simp [Withdrawal.ended]

lemma legsOf_of_legs (h : db'.legs = db.legs) (id : WithdrawalId) : db'.legsOf id = db.legsOf id := by
  rw [legsOf, h, legsOf]

lemma closable_of_legs (h : db'.legs = db.legs) (w : Withdrawal) : db'.closable w = db.closable w := by
  rw [closable, legsOf_of_legs h, closable]

lemma close_of_legs (h : db'.legs = db.legs) (w : Withdrawal) :
    db'.close now w = db.close now w := by
  rw [close, legsOf_of_legs h, close]

lemma Settles.refl (db : Store) (now : Time) : Settles db db now [] :=
  ⟨rfl, by simp⟩

lemma settleIn_ok {id : WithdrawalId} (h : db.settleIn now id = .ok db') : Settles db db' now [id] := by
  obtain ⟨hlegs, hrows⟩ := updateWithdrawals_ok h
  refine ⟨hlegs, hrows.trans (List.map_congr_left fun w _ => ?_)⟩
  have hiff : (decide (w.id = id) && !w.ended && (db.legsOf w.id).all (·.state.isTerminal)) = true ↔
      w.id ∈ [id] ∧ db.closable w = true := by
    simp [closable, and_assoc]
  by_cases hw : w.id ∈ [id] ∧ db.closable w = true
  · rw [if_pos (hiff.2 hw), if_pos hw]
    rfl
  · rw [if_neg fun hp => hw (hiff.1 hp), if_neg hw]

/-- Settling one withdrawal after others. -/
lemma Settles.trans {db'' : Store} {ids ids' : List WithdrawalId} (h : Settles db db' now ids)
    (h' : Settles db' db'' now ids') : Settles db db'' now (ids ++ ids') := by
  refine ⟨h'.legs.trans h.legs, ?_⟩
  rw [h'.rows, h.rows, List.map_map]
  refine List.map_congr_left fun w _ => ?_
  simp only [Function.comp_apply, closable_of_legs h.legs, close_of_legs h.legs]
  by_cases hids : w.id ∈ ids ∧ db.closable w = true
  · -- it is closed already, and stays as it is
    have hclosed : ¬ db.closable (db.close now w) = true := by simp [closable]
    rw [if_pos hids, if_neg fun hc => hclosed hc.2,
      if_pos ⟨List.mem_append_left _ hids.1, hids.2⟩]
  · rw [if_neg hids]
    by_cases hids' : w.id ∈ ids' ∧ db.closable w = true
    · rw [if_pos hids', if_pos ⟨List.mem_append_right _ hids'.1, hids'.2⟩]
    · rw [if_neg hids', if_neg]
      rintro ⟨hmem, hclosable⟩
      rcases List.mem_append.1 hmem with hmem | hmem
      · exact hids ⟨hmem, hclosable⟩
      · exact hids' ⟨hmem, hclosable⟩

lemma settles_foldlM {ids : List WithdrawalId}
    (h : ids.foldlM (fun db id => db.settleIn now id) db = .ok db') : Settles db db' now ids := by
  induction ids generalizing db with
  | nil =>
    cases h
    exact Settles.refl _ _
  | cons id rest ih =>
    rw [List.foldlM_cons] at h
    obtain ⟨db₁, hsettle, hrest⟩ := bind_eq_ok.1 h
    exact (settleIn_ok hsettle).trans (ih hrest)

/-! ### Operations -/

/-- Nothing happened. -/
lemma Change.refl (db : Store) (call : Call) : Change db call db :=
  .moved db id 0 [] ⟨rfl, by simp, fun _ _ => Or.inl rfl⟩ (Settles.refl db 0) fun _ _ h h' => by
    rw [id, h'] at h
    cases h

/-- An update of the legs after which no leg that it touched is terminal. -/
lemma Change.of_updateLegs {p : Leg → Bool} {f : Leg → Leg}
    {hf : ∀ leg, (f leg).id = leg.id ∧ (f leg).withdrawalId = leg.withdrawalId}
    (h : db.updateLegs p f hf = .ok db')
    (hmoves : ∀ leg ∈ db.legs.rows, p leg = true → leg.Moves call (f leg))
    (hopen : ∀ leg, p leg = true → (f leg).state.isTerminal = false) : Change db call db' := by
  refine .moved db' _ 0 [] (Moved.of_updateLegs h hmoves) (Settles.refl db' 0) fun leg _ hend hlive => ?_
  by_cases hp : p leg = true
  · rw [if_pos hp, hopen leg hp] at hend
    cases hend
  · rw [if_neg hp, hlive] at hend
    cases hend

/-- An update of one leg, after which its withdrawal is settled. -/
lemma Change.of_updateLegs_settleIn {leg : Leg} (hleg : leg ∈ db.legs.rows) {p : Leg → Bool}
    {f : Leg → Leg} {hf : ∀ leg, (f leg).id = leg.id ∧ (f leg).withdrawalId = leg.withdrawalId}
    (h : ((db.updateLegs p f hf).bind fun db' => db'.settleIn now leg.withdrawalId) = .ok db')
    (hp : ∀ row, p row = true → row.id = leg.id) (hmoves : p leg = true → leg.Moves call (f leg)) :
    Change db call db' := by
  obtain ⟨db₁, hupdate, hsettle⟩ := bind_eq_ok.1 h
  have hsame : ∀ row ∈ db.legs.rows, p row = true → row = leg := fun row hrow hrowp =>
    db.legs.eq_of_key_eq hrow hleg (hp row hrowp)
  refine .moved db₁ _ now [leg.withdrawalId]
    (Moved.of_updateLegs hupdate fun row hrow hrowp => ?_) (settleIn_ok hsettle)
    fun row hrow hend hlive => ?_
  · obtain rfl := hsame row hrow hrowp
    exact hmoves hrowp
  · by_cases hrowp : p row = true
    · rw [hsame row hrow hrowp]
      simp
    · rw [if_neg hrowp, hlive] at hend
      cases hend

lemma create_legs {input : NewWithdrawal} {legs : List NewWithdrawalLeg}
    (h : legs.foldlM (fun db leg => db.insertLeg (leg.row now input)) db = .ok db') :
    db'.withdrawals = db.withdrawals ∧
      db'.legs.rows = db.legs.rows ++ legs.map fun leg => leg.row now input := by
  induction legs generalizing db with
  | nil =>
    cases h
    simp
  | cons leg rest ih =>
    rw [List.foldlM_cons] at h
    obtain ⟨db₁, hinsert, hrest⟩ := bind_eq_ok.1 h
    obtain ⟨hwithdrawals, hrows⟩ := insertLeg_ok hinsert
    obtain ⟨hwithdrawals', hrows'⟩ := ih hrest
    refine ⟨hwithdrawals'.trans hwithdrawals, ?_⟩
    rw [hrows', hrows]
    simp

/-- The rows that a creation adds. -/
lemma create_ok {input : NewWithdrawal} (h : db.create now input = .ok db') :
    db'.withdrawals.rows = db.withdrawals.rows ++ [input.row] ∧
      db'.legs.rows = db.legs.rows ++ input.legs.map (fun leg => leg.row now input) ∧
      input.id ∉ db.withdrawals.rows.map Withdrawal.id := by
  unfold create at h
  split at h
  · cases h
  · cases h
  · cases h
  · rename_i db₁ hinsert
    split at h
    · cases h
    · rename_i db₂ hlegs
      cases h
      obtain ⟨hsame, hrows, hnew⟩ := insertWithdrawal_ok hinsert
      obtain ⟨hwithdrawals, hrows'⟩ := create_legs hlegs
      exact ⟨by rw [hwithdrawals, hrows], by rw [hrows', hsame], hnew⟩

lemma create_change {input : NewWithdrawal} (h : db.create now input = .ok db') :
    Change db (.create input) db' := by
  obtain ⟨hwithdrawals, hlegs, hnew⟩ := create_ok h
  exact .created now input rfl hwithdrawals hlegs hnew

lemma authorize_change {snapshot : Table Withdrawal.id} {account : AccountId}
    {withdrawalId : WithdrawalId} {legId : LegId} {signature : List UInt8} {outcome : AuthorizeOutcome}
    (h : db.authorize snapshot now account withdrawalId legId signature = .ok (db', outcome)) :
    Change db (.authorize snapshot account withdrawalId legId signature) db' := by
  unfold authorize at h
  dsimp only at h
  split at h
  · cases h
    exact Change.refl _ _
  · rename_i leg hfind
    have hleg := List.mem_of_find?_eq_some hfind
    have hid : leg.id = legId := by
      have := List.find?_some hfind
      simp only [Bool.and_eq_true, decide_eq_true_eq] at this
      exact this.1
    split at h
    · rename_i hstate
      obtain ⟨db₁, hupdate, hok⟩ := bind_eq_ok.1 h
      cases hok
      refine Change.of_updateLegs hupdate (fun row hrow hp => ?_) fun _ _ => rfl
      have hrow : row = leg := db.legs.eq_of_key_eq hrow hleg ((of_decide_eq_true hp).trans hid.symm)
      rw [hrow]
      obtain rfl := hid
      exact .authorized snapshot account withdrawalId signature now hstate
    · split at h
      · cases h
        exact Change.refl _ _
      · cases h
        exact Change.refl _ _

lemma cancel_change {account : AccountId} {withdrawalId : WithdrawalId} {outcome : CancelOutcome}
    (h : db.cancel now account withdrawalId = .ok (db', outcome)) :
    Change db (.cancel account withdrawalId) db' := by
  unfold cancel at h
  split at h
  · cases h
    exact Change.refl _ _
  · rename_i row hfind
    have hrow := List.mem_of_find?_eq_some hfind
    obtain ⟨-, hid⟩ := of_decide_eq_true (List.find?_some hfind :)
    split at h
    · cases h
      exact Change.refl _ _
    · rename_i hcancelled
      split at h
      · cases h
        exact Change.refl _ _
      · rename_i hfinished
        split at h
        · cases h
          exact Change.refl _ _
        · rename_i hrelayed
          obtain ⟨db₁, hlegs, h⟩ := bind_eq_ok.1 h
          obtain ⟨db₂, hwithdrawals, hok⟩ := bind_eq_ok.1 h
          cases hok
          obtain ⟨hsame, hrows⟩ := updateWithdrawals_ok hwithdrawals
          have hlive : row.ended = false := by
            simp only [Withdrawal.ended]
            simp only [Bool.or_eq_true, not_or, Bool.not_eq_true] at hcancelled hfinished
            rw [hcancelled, hfinished.1, hfinished.2]
            rfl
          refine .cancelled db₁ _ now row (Moved.of_updateLegs hlegs fun leg _ hp => ?_) hsame ?_ hrow
            hlive ?_ ?_
          · rw [Bool.and_eq_true, decide_eq_true_eq] at hp
            obtain ⟨rfl, hstate⟩ := hp
            exact .cancelled account now hstate
          · rw [hrows, (updateLegs_ok hlegs).1]
            refine List.map_congr_left fun w _ => ?_
            simp only [decide_eq_true_eq, hid]
          · -- what is not relayed and has not expired is cancelled
            intro leg hleg hmine
            have hleg : leg ∈ db.legsOf withdrawalId := by
              simp [legsOf, hleg, hmine, hid]
            have hstate := List.any_eq_false.1 (Bool.eq_false_iff.2 hrelayed) leg hleg
            by_cases hunrelayed : leg.state.isUnrelayed = true
            · rw [if_pos (by simp [hunrelayed, hmine, hid])]
              exact Or.inl rfl
            · rw [if_neg (by simp [hunrelayed])]
              right
              simpa [hunrelayed] using hstate
          · intro leg _ hother
            rw [hid] at hother
            rw [if_neg (by simp [hother])]

lemma beginStep_change {legId : LegId} {jobId : JobId} {chainId : ChainId} {opened : Bool}
    (h : db.beginStep now legId jobId chainId = .ok (db', opened)) :
    Change db (.beginStep legId jobId chainId) db' := by
  unfold beginStep at h
  split at h
  · dsimp only at h
    obtain ⟨db₁, hupdate, hok⟩ := bind_eq_ok.1 h
    cases hok
    refine Change.of_updateLegs hupdate (fun leg _ hp => ?_) fun leg _ => ?_
    · obtain ⟨rfl, -, hstate⟩ := of_decide_eq_true hp
      exact .opened now jobId chainId hstate
    · dsimp only
      split <;> rfl
  · cases h
    exact Change.refl _ _

/-- The leg that runs a step. -/
lemma legOfJob_some {jobId : JobId} {leg : Leg} (h : db.legOfJob jobId = some leg) :
    leg ∈ db.legs.rows ∧ leg.step.map OpenStep.jobId = some jobId ∧ leg.state.hasStep = true := by
  have hleg : leg ∈ db.legs.rows := List.mem_of_find?_eq_some h
  have hstep : leg.step.map OpenStep.jobId = some jobId := of_decide_eq_true (List.find?_some h :)
  refine ⟨hleg, hstep, ?_⟩
  rcases (db.checked leg hleg).2.2.2.2.2.1 with hnone | hstate
  · rw [hnone] at hstep
    cases hstep
  · exact hstate

lemma hasStep_not_terminal {state : LegState} (h : state.hasStep = true) : state.isTerminal = false := by
  cases state <;> simp_all [LegState.hasStep, LegState.isTerminal]

variable {leg : Leg} {applied : StepApplied} {policy : StepPolicy} {reason : String} {jobId : JobId}

lemma advance_change {step : WithdrawalStepKind} {result : StepResult} {txHash : Option Hash}
    {nextCheckAt : Time} (hleg : leg ∈ db.legs.rows)
    (hjob : leg.step.map OpenStep.jobId = some jobId) (hstep : leg.state.hasStep = true)
    (hkind : leg.stepKind = some step) (hresult : advancedBy step result = some txHash)
    (h : db.advance now leg step txHash nextCheckAt = .ok (db', applied)) :
    Change db (.applyStepResult jobId step result policy) db' := by
  unfold advance at h
  dsimp only at h
  split at h
  · cases h
  · rename_i db₁ hok
    cases h
    refine Change.of_updateLegs_settleIn hleg hok (fun row hp => of_decide_eq_true hp) fun _ => ?_
    have hmove := Leg.Moves.advanced now nextCheckAt jobId step result policy txHash hjob hstep hkind
      hresult
    cases step <;> exact hmove

lemma fail_change (hcall : call.mayFail = true) (hleg : leg ∈ db.legs.rows)
    (hlive : leg.state.isTerminal = false) (h : db.fail now leg reason = .ok (db', applied)) :
    Change db call db' := by
  unfold fail at h
  split at h
  · cases h
  · rename_i db₁ hok
    cases h
    exact Change.of_updateLegs_settleIn hleg hok (fun row hp => of_decide_eq_true hp) fun _ =>
      .failed call now reason hcall hlive

section

variable {reported : WithdrawalStepKind} {result : StepResult}

/-- The step's leg goes back to its queue. -/
lemma release_change {reverts : Leg → ℕ} {retryAt : Leg → Option Time} (hleg : leg ∈ db.legs.rows)
    (hjob : leg.step.map OpenStep.jobId = some jobId) (hstep : leg.state.hasStep = true)
    (h : db.updateLegs (fun row => decide (row.id = leg.id))
      (fun row => { row with
        state := row.state.released
        step := none
        stepReverts := reverts row
        stepRetryAt := retryAt row
        updatedAt := now }) = .ok db') : Change db (.applyStepResult jobId reported result policy) db' := by
  refine Change.of_updateLegs h (fun row hrow hp => ?_) fun row _ => ?_
  · obtain rfl := db.legs.eq_of_key_eq hrow hleg (of_decide_eq_true hp)
    exact .released jobId reported result policy now _ _ hjob hstep
  · dsimp only
    cases row.state <;> rfl

lemma retryOrFail_change (hleg : leg ∈ db.legs.rows)
    (hjob : leg.step.map OpenStep.jobId = some jobId) (hstep : leg.state.hasStep = true)
    (h : db.retryOrFail now leg policy reason = .ok (db', applied)) :
    Change db (.applyStepResult jobId reported result policy) db' := by
  unfold retryOrFail at h
  dsimp only at h
  split at h
  · exact fail_change rfl hleg (hasStep_not_terminal hstep) h
  · split at h
    · cases h
    · split at h
      · cases h
      · rename_i db₁ hok
        cases h
        exact release_change hleg hjob hstep hok

lemma applyStepResult_change
    (h : db.applyStepResult now jobId reported result policy = .ok (db', applied)) :
    Change db (.applyStepResult jobId reported result policy) db' := by
  unfold applyStepResult at h
  split at h
  · cases h
  · rename_i leg hfind
    obtain ⟨hleg, hjob, hstep⟩ := legOfJob_some hfind
    split at h
    · cases h
    · rename_i expected hkind
      split at h
      · cases h
      · rename_i hreported
        obtain rfl : expected = reported := not_not.1 hreported
        dsimp only at h
        cases result with
        | succeeded txHash block blockHash => exact advance_change hleg hjob hstep hkind rfl h
        | executedElsewhere txHash =>
          dsimp only at h
          cases expected with
          | mint => exact advance_change hleg hjob hstep hkind rfl h
          | transfer => exact advance_change hleg hjob hstep hkind rfl h
          | burn =>
            cases txHash with
            | some hash => exact advance_change hleg hjob hstep hkind rfl h
            | none => exact fail_change rfl hleg (hasStep_not_terminal hstep) h
        | reverted txHash => exact retryOrFail_change hleg hjob hstep h
        | abandoned reason => exact retryOrFail_change hleg hjob hstep h
        | expired =>
          dsimp only at h
          split at h
          · cases h
          · rename_i db₁ hok
            cases h
            exact release_change hleg hjob hstep hok

end

lemma rejectStep_change {rejected : Bool}
    (h : db.rejectStep now jobId reason = .ok (db', rejected)) :
    Change db (.rejectStep jobId reason) db' := by
  unfold rejectStep at h
  split at h
  · cases h
    exact Change.refl _ _
  · rename_i leg hfind
    obtain ⟨hleg, -, hstep⟩ := legOfJob_some hfind
    split at h
    · cases h
    · rename_i db₁ applied hok
      cases h
      exact fail_change rfl hleg (hasStep_not_terminal hstep) hok

lemma failLeg_change {legId : LegId} {failed : Bool}
    (h : db.failLeg now legId reason = .ok (db', failed)) : Change db (.failLeg legId reason) db' := by
  unfold failLeg at h
  split at h
  · cases h
    exact Change.refl _ _
  · rename_i leg hfind
    have hleg := List.mem_of_find?_eq_some hfind
    have hfound := List.find?_some hfind
    simp only [Bool.and_eq_true, decide_eq_true_eq, Bool.not_eq_true'] at hfound
    obtain ⟨db₁, hupdate, h⟩ := bind_eq_ok.1 h
    obtain ⟨db₂, hsettle, hok⟩ := bind_eq_ok.1 h
    cases hok
    refine Change.of_updateLegs_settleIn hleg (p := fun leg => decide (leg.id = legId) &&
      !leg.state.isTerminal) (by rw [hupdate]; exact hsettle) (fun row hp => ?_) fun _ =>
      .failed _ now reason rfl hfound.2
    rw [Bool.and_eq_true, decide_eq_true_eq] at hp
    exact hp.1.trans hfound.1.symm

lemma expireStale_change {margin expired : ℕ} (h : db.expireStale now margin = .ok (db', expired)) :
    Change db (.expireStale margin) db' := by
  obtain ⟨db₁, hupdate, h⟩ := bind_eq_ok.1 h
  obtain ⟨db₂, hsettle, hok⟩ := bind_eq_ok.1 h
  cases hok
  refine .moved db₁ _ now _ (Moved.of_updateLegs hupdate fun leg _ hp => ?_) (settles_foldlM hsettle)
    fun leg hleg hend hlive => ?_
  · rw [stale, Bool.and_eq_true] at hp
    exact .expired margin now hp.1
  · by_cases hp : stale now margin leg = true
    · rw [List.mem_dedup, List.mem_mergeSort]
      exact List.mem_map_of_mem (List.mem_filter.2 ⟨hleg, hp⟩)
    · rw [if_neg hp, hlive] at hend
      cases hend

lemma recordAttestation_change {legId : LegId} {message attestation : List UInt8} {recorded : Bool}
    (h : db.recordAttestation now legId message attestation = .ok (db', recorded)) :
    Change db (.recordAttestation legId message attestation) db' := by
  obtain ⟨db₁, hupdate, hok⟩ := bind_eq_ok.1 h
  cases hok
  refine Change.of_updateLegs hupdate (fun leg _ hp => ?_) fun _ _ => rfl
  obtain ⟨rfl, hstate⟩ := of_decide_eq_true hp
  exact .attested now message attestation hstate

lemma deferAttestation_change {legId : LegId} {nextCheckAt : Time} {deferred : Bool}
    (h : db.deferAttestation now legId nextCheckAt = .ok (db', deferred)) :
    Change db (.deferAttestation legId nextCheckAt) db' := by
  obtain ⟨db₁, hupdate, hok⟩ := bind_eq_ok.1 h
  cases hok
  refine Change.of_updateLegs hupdate (fun leg _ hp => ?_) fun leg hp => ?_
  · obtain ⟨rfl, hstate⟩ := of_decide_eq_true hp
    exact .deferred now nextCheckAt hstate
  · dsimp only
    rw [(of_decide_eq_true hp).2]
    rfl

/-- The tables after an operation that does not fail. -/
def perform (db : Store) (now : Time) : Call → Option Store
  | .create input => (db.create now input).toOption
  | .authorize snapshot account withdrawalId legId signature =>
    (db.authorize snapshot now account withdrawalId legId signature).toOption.map (·.1)
  | .cancel account withdrawalId => (db.cancel now account withdrawalId).toOption.map (·.1)
  | .beginStep legId jobId chainId => (db.beginStep now legId jobId chainId).toOption.map (·.1)
  | .applyStepResult jobId reported result policy =>
    (db.applyStepResult now jobId reported result policy).toOption.map (·.1)
  | .rejectStep jobId reason => (db.rejectStep now jobId reason).toOption.map (·.1)
  | .failLeg legId reason => (db.failLeg now legId reason).toOption.map (·.1)
  | .expireStale margin => (db.expireStale now margin).toOption.map (·.1)
  | .recordAttestation legId message attestation =>
    (db.recordAttestation now legId message attestation).toOption.map (·.1)
  | .deferAttestation legId nextCheckAt => (db.deferAttestation now legId nextCheckAt).toOption.map (·.1)

/-- One operation. -/
def Step (db db' : Store) : Prop := ∃ now call, db.perform now call = some db'

/-- An operation that returned. -/
lemma exists_ok {ε α : Type*} {x : Except ε (Store × α)} (h : x.toOption.map (·.1) = some db') :
    ∃ a, x = .ok (db', a) := by
  cases x with
  | error e => cases h
  | ok p =>
    cases h
    exact ⟨p.2, rfl⟩

lemma perform_change (h : db.perform now call = some db') : Change db call db' := by
  cases call with
  | create input =>
    have hok : db.create now input = .ok db' := by
      unfold perform at h
      cases hc : db.create now input with
      | error e => simp [hc, Except.toOption] at h
      | ok db₁ => simpa [hc, Except.toOption] using h
    exact create_change hok
  | authorize snapshot account withdrawalId legId signature =>
    obtain ⟨outcome, hok⟩ := exists_ok h
    exact authorize_change hok
  | cancel account withdrawalId =>
    obtain ⟨outcome, hok⟩ := exists_ok h
    exact cancel_change hok
  | beginStep legId jobId chainId =>
    obtain ⟨opened, hok⟩ := exists_ok h
    exact beginStep_change hok
  | applyStepResult jobId reported result policy =>
    obtain ⟨applied, hok⟩ := exists_ok h
    exact applyStepResult_change hok
  | rejectStep jobId reason =>
    obtain ⟨rejected, hok⟩ := exists_ok h
    exact rejectStep_change hok
  | failLeg legId reason =>
    obtain ⟨failed, hok⟩ := exists_ok h
    exact failLeg_change hok
  | expireStale margin =>
    obtain ⟨expired, hok⟩ := exists_ok h
    exact expireStale_change hok
  | recordAttestation legId message attestation =>
    obtain ⟨recorded, hok⟩ := exists_ok h
    exact recordAttestation_change hok
  | deferAttestation legId nextCheckAt =>
    obtain ⟨deferred, hok⟩ := exists_ok h
    exact deferAttestation_change hok

/-! ### Rows before and after -/

/-- A leg after an operation: it was created, or it is a leg as it was, or a leg that moved. -/
lemma Change.leg_before (h : Change db call db') {leg' : Leg} (hleg' : leg' ∈ db'.legs.rows) :
    (∃ now input new, call = .create input ∧ new ∈ input.legs ∧ leg' = NewWithdrawalLeg.row new now input) ∨
      ∃ leg ∈ db.legs.rows, leg' = leg ∨ leg.Moves call leg' := by
  have hmoved : ∀ {db₁ : Store} {g : Leg → Leg}, Moved db call db₁ g → db'.legs = db₁.legs →
      ∃ leg ∈ db.legs.rows, leg' = leg ∨ leg.Moves call leg' := by
    intro db₁ g hm hlegs
    rw [hlegs, hm.rows, List.mem_map] at hleg'
    obtain ⟨leg, hleg, rfl⟩ := hleg'
    exact ⟨leg, hleg, hm.moves leg hleg⟩
  cases h with
  | created now input hcall withdrawals legs new =>
    rw [legs, List.mem_append, List.mem_map] at hleg'
    rcases hleg' with hleg' | ⟨row, hrow, rfl⟩
    · exact Or.inr ⟨leg', hleg', Or.inl rfl⟩
    · exact Or.inl ⟨now, input, row, hcall, hrow, rfl⟩
  | moved db₁ g now ids moved settles ends => exact Or.inr (hmoved moved settles.legs)
  | cancelled db₁ g now w moved legs withdrawals mem live own others =>
    exact Or.inr (hmoved moved legs)

/-- No leg is lost. -/
lemma Change.leg_after (h : Change db call db') {leg : Leg} (hleg : leg ∈ db.legs.rows) :
    ∃ leg' ∈ db'.legs.rows, leg' = leg ∨ leg.Moves call leg' := by
  have hmoved : ∀ {db₁ : Store} {g : Leg → Leg}, Moved db call db₁ g → db'.legs = db₁.legs →
      ∃ leg' ∈ db'.legs.rows, leg' = leg ∨ leg.Moves call leg' := by
    intro db₁ g hm hlegs
    refine ⟨g leg, ?_, hm.moves leg hleg⟩
    rw [hlegs, hm.rows]
    exact List.mem_map_of_mem hleg
  cases h with
  | created now input hcall withdrawals legs new =>
    exact ⟨leg, by rw [legs]; exact List.mem_append_left _ hleg, Or.inl rfl⟩
  | moved db₁ g now ids moved settles ends => exact hmoved moved settles.legs
  | cancelled db₁ g now w moved legs withdrawals mem live own others => exact hmoved moved legs

/-- No withdrawal is lost. -/
lemma Change.withdrawal_after (h : Change db call db') {w : Withdrawal}
    (hw : w ∈ db.withdrawals.rows) : ∃ w' ∈ db'.withdrawals.rows, w.SameTerms w' := by
  cases h with
  | created now input hcall withdrawals legs new =>
    exact ⟨w, by rw [withdrawals]; exact List.mem_append_left _ hw, rfl, rfl, rfl, rfl, rfl⟩
  | moved db₁ g now ids moved settles ends =>
    rw [settles.rows, moved.withdrawals]
    refine ⟨_, List.mem_map_of_mem hw, ?_⟩
    split
    · unfold close
      split <;> exact ⟨rfl, rfl, rfl, rfl, rfl⟩
    · exact ⟨rfl, rfl, rfl, rfl, rfl⟩
  | cancelled db₁ g now w₀ moved legs withdrawals mem live own others =>
    rw [withdrawals]
    refine ⟨_, List.mem_map_of_mem hw, ?_⟩
    split <;> exact ⟨rfl, rfl, rfl, rfl, rfl⟩

lemma Step.change (h : Step db db') : ∃ call, Change db call db' := by
  obtain ⟨now, call, h⟩ := h
  exact ⟨call, perform_change h⟩

end Store

end Payday.Withdrawals
