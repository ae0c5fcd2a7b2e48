/-
# The state machine of a withdrawal

A leg is signed, relayed and either transferred, or burned, attested and minted; a step that has no
effect gives it back to its queue, and from the four terminal states nothing leads on.  The
withdrawal has an ending exactly when all its legs are terminal, and which one it has is told by the
legs.  Both hold whatever the order of the operations, and whatever the signers report.
-/
import Payday.Withdrawals.Changes

namespace Payday.Withdrawals

open Signers (WithdrawalStepKind StepResult)

/-- The arrows between the states of a leg. -/
inductive LegState.Follows : LegKind → LegState → LegState → Prop
  | signed (kind : LegKind) : Follows kind awaitingSignature authorized
  | relayed (kind : LegKind) : Follows kind authorized relaying
  | transferred : Follows .transfer relaying completed
  | burned : Follows .bridge relaying burned
  | attested : Follows .bridge burned attested
  | mintRelayed : Follows .bridge attested minting
  | minted : Follows .bridge minting completed
  | relayReleased (kind : LegKind) : Follows kind relaying authorized
  | mintReleased : Follows .bridge minting attested
  | failed (kind : LegKind) (state : LegState) (h : state.isTerminal = false) : Follows kind state failed
  | expired (kind : LegKind) (state : LegState) (h : state.isUnrelayed = true) : Follows kind state expired
  | cancelled (kind : LegKind) (state : LegState) (h : state.isUnrelayed = true) :
      Follows kind state cancelled

/-- No arrow leaves a terminal state. -/
lemma LegState.Follows.not_terminal {kind : LegKind} {state state' : LegState}
    (h : Follows kind state state') : state.isTerminal = false := by
  cases h with
  | failed _ _ h => exact h
  | expired _ _ h | cancelled _ _ h =>
    revert h
    cases state <;> simp [isUnrelayed, isTerminal]
  | _ => rfl

/-- The states that only a bridge leg has. -/
def LegState.isBridged : LegState → Bool
  | burned | attested | minting => true
  | _ => false

namespace Leg

variable {leg leg' : Leg}

/-- What the state tells about the rest of the leg. -/
structure Lawful (leg : Leg) : Prop where
  step : leg.step.isSome = leg.state.hasStep
  kind : leg.state.isBridged = true → leg.kind = .bridge

lemma isUnrelayed_cases {state : LegState} (h : state.isUnrelayed = true) :
    state = .awaitingSignature ∨ state = .authorized := by
  cases state <;> simp_all [LegState.isUnrelayed]

lemma hasStep_cases {state : LegState} (h : state.hasStep = true) :
    state = .relaying ∨ state = .minting := by
  cases state <;> simp_all [LegState.hasStep]

/-- A move keeps to the arrows, and to the laws of a leg. -/
lemma Moves.lawful {call : Call} (h : leg.Moves call leg') (hl : leg.Lawful) :
    (leg'.state = leg.state ∨ LegState.Follows leg.kind leg.state leg'.state) ∧ leg'.Lawful := by
  cases h with
  | authorized snapshot account withdrawalId signature now h =>
    refine ⟨Or.inr (by rw [h]; exact .signed _), ?_, fun hb => ?_⟩
    · show leg.step.isSome = false
      rw [hl.step, h]
      rfl
    · cases hb
  | cancelled account now h =>
    refine ⟨Or.inr (.cancelled _ _ h), ?_, fun hb => ?_⟩
    · show leg.step.isSome = false
      rw [hl.step]
      rcases isUnrelayed_cases h with h | h <;> rw [h] <;> rfl
    · cases hb
  | expired margin now h =>
    refine ⟨Or.inr (.expired _ _ h), ?_, fun hb => ?_⟩
    · show leg.step.isSome = false
      rw [hl.step]
      rcases isUnrelayed_cases h with h | h <;> rw [h] <;> rfl
    · cases hb
  | opened now jobId chainId h =>
    rcases h with h | h
    · refine ⟨Or.inr ?_, ?_, fun hb => ?_⟩
      · rw [h]
        exact .relayed _
      · rw [h]
        rfl
      · rw [h] at hb
        cases hb
    · -- only a bridge leg is attested
      have hkind : leg.kind = .bridge := hl.kind (by rw [h]; rfl)
      refine ⟨Or.inr ?_, ?_, fun _ => hkind⟩
      · rw [h, hkind]
        exact .mintRelayed
      · rw [h]
        rfl
  | advanced now nextCheckAt jobId step result policy txHash hjob hstep hkind hresult =>
    rcases hasStep_cases hstep with h | h
    · rcases hk : leg.kind with _ | _
      · have hstep : step = .transfer := by simpa [stepKind, h, hk] using hkind.symm
        subst hstep
        exact ⟨Or.inr (by rw [h]; exact .transferred), rfl, fun hb => by cases hb⟩
      · have hstep : step = .burn := by simpa [stepKind, h, hk] using hkind.symm
        subst hstep
        exact ⟨Or.inr (by rw [h]; exact .burned), rfl, fun _ => rfl⟩
    · have hk : leg.kind = .bridge := hl.kind (by rw [h]; rfl)
      have hstep : step = .mint := by simpa [stepKind, h, hk] using hkind.symm
      subst hstep
      exact ⟨Or.inr (by rw [h, hk]; exact .minted), rfl, fun hb => by cases hb⟩
  | released jobId reported result policy now reverts retryAt hjob hstep =>
    rcases hasStep_cases hstep with h | h
    · refine ⟨Or.inr ?_, ?_, fun hb => ?_⟩
      · rw [h]
        exact .relayReleased _
      · rw [h]
        rfl
      · rw [h] at hb
        cases hb
    · have hk : leg.kind = .bridge := hl.kind (by rw [h]; rfl)
      refine ⟨Or.inr ?_, ?_, fun _ => hk⟩
      · rw [h, hk]
        exact .mintReleased
      · rw [h]
        rfl
  | failed call now reason hcall h => exact ⟨Or.inr (.failed _ _ h), rfl, fun hb => by cases hb⟩
  | attested now message attestation h =>
    have hk : leg.kind = .bridge := hl.kind (by rw [h]; rfl)
    refine ⟨Or.inr (by rw [h, hk]; exact .attested), ?_, fun _ => hk⟩
    show leg.step.isSome = false
    rw [hl.step, h]
    rfl
  | deferred now nextCheckAt h => exact ⟨Or.inl rfl, hl.step, hl.kind⟩

end Leg

namespace Store

variable {db db' db₁ : Store} {g : Leg → Leg} {now : Time} {w : Withdrawal} {call : Call}

/-! ### Endings -/

/-- What an ending tells about the legs. -/
structure Ending (db : Store) (w : Withdrawal) : Prop where
  terminal : w.ended = true → ∀ leg ∈ db.legsOf w.id, leg.state.isTerminal = true
  completed : w.completedAt.isSome = true → ∀ leg ∈ db.legsOf w.id, leg.state = .completed
  failed : w.failedAt.isSome = true → ∃ leg ∈ db.legsOf w.id, leg.state ≠ .completed
  cancelled : w.cancelledAt.isSome = true →
    ∀ leg ∈ db.legsOf w.id, leg.state = .cancelled ∨ leg.state = .expired

/-- A withdrawal without live legs has an ending. -/
def Closed (db : Store) (w : Withdrawal) : Prop :=
  db.legsOf w.id ≠ [] → (∀ leg ∈ db.legsOf w.id, leg.state.isTerminal = true) → w.ended = true

lemma mem_legsOf {leg : Leg} {id : WithdrawalId} :
    leg ∈ db.legsOf id ↔ leg ∈ db.legs.rows ∧ leg.withdrawalId = id := by
  simp [legsOf]

/-- Nothing is asked of a withdrawal that goes on. -/
lemma Ending.of_live (h : w.ended = false) : Ending db w := by
  have hsplit : w.completedAt.isSome = false ∧ w.cancelledAt.isSome = false ∧
      w.failedAt.isSome = false := by
    simpa [Withdrawal.ended, Bool.or_eq_false_iff, and_assoc] using h
  refine ⟨fun he => ?_, fun he => ?_, fun he => ?_, fun he => ?_⟩
  · rw [h] at he
    cases he
  · rw [hsplit.1] at he
    cases he
  · rw [hsplit.2.2] at he
    cases he
  · rw [hsplit.2.1] at he
    cases he

lemma Ending.of_legsOf (he : Ending db w) (h : db'.legsOf w.id = db.legsOf w.id) : Ending db' w :=
  ⟨by rw [h]; exact he.terminal, by rw [h]; exact he.completed, by rw [h]; exact he.failed,
    by rw [h]; exact he.cancelled⟩

lemma Closed.of_legsOf (hc : Closed db w) (h : db'.legsOf w.id = db.legsOf w.id) : Closed db' w := by
  rw [Closed, h]
  exact hc

lemma Moved.sameTerms (h : Moved db call db' g) {leg : Leg} (hleg : leg ∈ db.legs.rows) :
    leg.SameTerms (g leg) := by
  rcases h.moves leg hleg with hsame | hmove
  · rw [hsame]
    exact .refl leg
  · exact hmove.sameTerms

lemma Moved.legsOf (h : Moved db call db' g) (id : WithdrawalId) :
    db'.legsOf id = (db.legsOf id).map g := by
  rw [Store.legsOf, h.rows, List.filter_map, Store.legsOf]
  congr 1
  refine List.filter_congr fun leg hleg => ?_
  simp [(h.sameTerms hleg).withdrawalId]

/-- The legs of a withdrawal that has ended do not move. -/
lemma Moved.legsOf_of_ended (h : Moved db call db' g) (he : Ending db w) (hended : w.ended = true) :
    db'.legsOf w.id = db.legsOf w.id := by
  rw [h.legsOf]
  refine (List.map_congr_left fun leg hleg => ?_).trans (List.map_id _)
  rcases h.moves leg (mem_legsOf.1 hleg).1 with hsame | hmove
  · exact hsame
  · have hlive := hmove.not_terminal
    rw [he.terminal hended leg hleg] at hlive
    cases hlive

lemma Moved.ending (h : Moved db call db' g) (he : Ending db w) : Ending db' w := by
  by_cases hended : w.ended = true
  · exact he.of_legsOf (h.legsOf_of_ended he hended)
  · exact Ending.of_live (by simpa using hended)

/-- A withdrawal as it is after settling. -/
lemma Settles.cases {ids : List WithdrawalId} (h : Settles db db' now ids) {w' : Withdrawal}
    (hw' : w' ∈ db'.withdrawals.rows) :
    (w' ∈ db.withdrawals.rows ∧ (w'.id ∈ ids → db.closable w' = false)) ∨
      ∃ w ∈ db.withdrawals.rows, db.closable w = true ∧ w' = db.close now w := by
  rw [h.rows, List.mem_map] at hw'
  obtain ⟨w, hw, rfl⟩ := hw'
  by_cases hclose : w.id ∈ ids ∧ db.closable w = true
  · rw [if_pos hclose]
    exact Or.inr ⟨w, hw, hclose.2, rfl⟩
  · rw [if_neg hclose]
    refine Or.inl ⟨hw, fun hid => ?_⟩
    by_contra hclosable
    exact hclose ⟨hid, by simpa using hclosable⟩

lemma closable_iff : db.closable w = true ↔
    w.ended = false ∧ ∀ leg ∈ db.legsOf w.id, leg.state.isTerminal = true := by
  simp [closable]

/-- The ending that `settle_in` chooses is the one the legs tell. -/
lemma close_ending (h : db.closable w = true) : Ending db (db.close now w) := by
  obtain ⟨hlive, hterminal⟩ := closable_iff.1 h
  have hsplit : w.completedAt.isSome = false ∧ w.cancelledAt.isSome = false ∧
      w.failedAt.isSome = false := by
    simpa [Withdrawal.ended, Bool.or_eq_false_iff, and_assoc] using hlive
  unfold close
  split
  · rename_i hall
    have hall : ∀ leg ∈ db.legsOf w.id, leg.state = .completed := by simpa using hall
    refine ⟨fun _ => hterminal, fun _ => hall, fun hf => ?_, fun hc => ?_⟩
    · cases hf
    · exact absurd hc (by simp [hsplit.2.1])
  · rename_i hall
    refine ⟨fun _ => hterminal, fun hc => ?_, fun _ => ?_, fun hc => ?_⟩
    · cases hc
    · simpa using hall
    · exact absurd hc (by simp [hsplit.2.1])

/-! ### One operation -/

/-- The laws of the two tables. -/
structure Lawful (db : Store) : Prop where
  legs : ∀ leg ∈ db.legs.rows, leg.Lawful
  endings : ∀ w ∈ db.withdrawals.rows, Ending db w
  closed : ∀ w ∈ db.withdrawals.rows, Closed db w

lemma Lawful.empty : Lawful Store.empty :=
  ⟨by simp [Store.empty], by simp [Store.empty], by simp [Store.empty]⟩

lemma Moved.lawful_legs (h : Moved db call db' g) (hl : Lawful db) : ∀ leg ∈ db'.legs.rows, leg.Lawful := by
  intro leg' hleg'
  rw [h.rows, List.mem_map] at hleg'
  obtain ⟨leg, hleg, rfl⟩ := hleg'
  rcases h.moves leg hleg with hsame | hmove
  · rw [hsame]
    exact hl.legs leg hleg
  · exact (hmove.lawful (hl.legs leg hleg)).2

/-- The legs of another withdrawal than the one created. -/
lemma legsOf_created {input : NewWithdrawal}
    (hlegs : db'.legs.rows = db.legs.rows ++ input.legs.map fun leg => leg.row now input)
    {id : WithdrawalId} (hid : id ≠ input.id) : db'.legsOf id = db.legsOf id := by
  have hnone : (input.legs.map fun leg => leg.row now input).filter
      (fun leg => decide (leg.withdrawalId = id)) = [] := by
    refine List.filter_eq_nil_iff.2 fun leg hleg => ?_
    obtain ⟨new, -, rfl⟩ := List.mem_map.1 hleg
    simp [NewWithdrawalLeg.row, Ne.symm hid]
  rw [legsOf, hlegs, List.filter_append, hnone, List.append_nil, legsOf]

lemma Lawful.created (hl : Lawful db) {input : NewWithdrawal}
    (hwithdrawals : db'.withdrawals.rows = db.withdrawals.rows ++ [input.row])
    (hlegs : db'.legs.rows = db.legs.rows ++ input.legs.map fun leg => leg.row now input)
    (hnew : input.id ∉ db.withdrawals.rows.map Withdrawal.id) : Lawful db' := by
  have hid : ∀ w ∈ db.withdrawals.rows, w.id ≠ input.id := by
    rintro w hw heq
    exact hnew (heq ▸ List.mem_map_of_mem hw)
  refine ⟨fun leg hleg => ?_, fun w hw => ?_, fun w hw => ?_⟩
  · rw [hlegs, List.mem_append] at hleg
    rcases hleg with hleg | hleg
    · exact hl.legs leg hleg
    · obtain ⟨new, -, rfl⟩ := List.mem_map.1 hleg
      exact ⟨rfl, fun hb => by cases hb⟩
  · rw [hwithdrawals, List.mem_append, List.mem_singleton] at hw
    rcases hw with hw | rfl
    · exact (hl.endings w hw).of_legsOf (legsOf_created hlegs (hid w hw))
    · exact Ending.of_live rfl
  · rw [hwithdrawals, List.mem_append, List.mem_singleton] at hw
    rcases hw with hw | rfl
    · exact (hl.closed w hw).of_legsOf (legsOf_created hlegs (hid w hw))
    · -- its legs are the ones created, and they await their signatures
      intro hne hterminal
      obtain ⟨leg, hleg⟩ := List.exists_mem_of_ne_nil _ hne
      have hlive := hterminal leg hleg
      obtain ⟨hmem, hmine⟩ := mem_legsOf.1 hleg
      rw [hlegs, List.mem_append] at hmem
      rcases hmem with hmem | hmem
      · have href := db.references leg hmem
        rw [hmine] at href
        exact absurd href hnew
      · obtain ⟨new, -, rfl⟩ := List.mem_map.1 hmem
        cases hlive

lemma Lawful.moved (hl : Lawful db) {ids : List WithdrawalId} (hmoved : Moved db call db₁ g)
    (hsettles : Settles db₁ db' now ids)
    (hends : ∀ leg ∈ db.legs.rows, (g leg).state.isTerminal = true → leg.state.isTerminal = false →
      leg.withdrawalId ∈ ids) : Lawful db' := by
  refine ⟨?_, fun w' hw' => ?_, fun w' hw' => ?_⟩
  · rw [hsettles.legs]
    exact hmoved.lawful_legs hl
  · rcases hsettles.cases hw' with ⟨hw, -⟩ | ⟨w, -, hclosable, rfl⟩
    · rw [hmoved.withdrawals] at hw
      exact (hmoved.ending (hl.endings w' hw)).of_legsOf (legsOf_of_legs hsettles.legs _)
    · exact (close_ending hclosable).of_legsOf (legsOf_of_legs hsettles.legs _)
  · rcases hsettles.cases hw' with ⟨hw, hsettled⟩ | ⟨w, -, -, rfl⟩
    · rw [hmoved.withdrawals] at hw
      suffices hclosed : Closed db₁ w' from hclosed.of_legsOf (legsOf_of_legs hsettles.legs _)
      intro hne hterminal
      by_contra hlive
      have hlive : w'.ended = false := by simpa using hlive
      have hclosable : db₁.closable w' = true := closable_iff.2 ⟨hlive, hterminal⟩
      rw [hmoved.legsOf] at hne hterminal
      -- a leg that came to an end has its withdrawal settled; otherwise none of them was live
      by_cases hall : ∀ leg ∈ db.legsOf w'.id, leg.state.isTerminal = true
      · have hended := hl.closed w' hw (fun hnil => hne (by rw [hnil]; rfl)) hall
        rw [hlive] at hended
        cases hended
      · push Not at hall
        obtain ⟨leg, hleg, hopen⟩ := hall
        have hid := hends leg (mem_legsOf.1 hleg).1 (hterminal _ (List.mem_map_of_mem hleg))
          (by simpa using hopen)
        rw [(mem_legsOf.1 hleg).2] at hid
        rw [hsettled hid] at hclosable
        cases hclosable
    · exact fun _ _ => close_ended _

lemma Lawful.cancelled (hl : Lawful db) (hmoved : Moved db call db₁ g) (hlegs : db'.legs = db₁.legs)
    (hwithdrawals : db'.withdrawals.rows = db.withdrawals.rows.map fun row =>
      if row.id = w.id then { row with cancelledAt := some now } else row)
    (hw : w ∈ db.withdrawals.rows) (hlive : w.ended = false)
    (hown : ∀ leg ∈ db.legs.rows, leg.withdrawalId = w.id →
      (g leg).state = .cancelled ∨ (g leg).state = .expired)
    (hothers : ∀ leg ∈ db.legs.rows, leg.withdrawalId ≠ w.id → g leg = leg) : Lawful db' := by
  have hsplit : w.completedAt.isSome = false ∧ w.cancelledAt.isSome = false ∧
      w.failedAt.isSome = false := by
    simpa [Withdrawal.ended, Bool.or_eq_false_iff, and_assoc] using hlive
  -- the cancelled withdrawal, or one whose legs are untouched
  have hrow : ∀ w' ∈ db'.withdrawals.rows, w' = { w with cancelledAt := some now } ∨
      (w' ∈ db.withdrawals.rows ∧ db'.legsOf w'.id = db.legsOf w'.id) := by
    intro w' hw'
    rw [hwithdrawals, List.mem_map] at hw'
    obtain ⟨row, hmem, rfl⟩ := hw'
    by_cases hid : row.id = w.id
    · left
      rw [if_pos hid, db.withdrawals.eq_of_key_eq hmem hw hid]
    · right
      rw [if_neg hid]
      refine ⟨hmem, ?_⟩
      rw [legsOf_of_legs hlegs, hmoved.legsOf]
      refine (List.map_congr_left fun leg hleg => ?_).trans (List.map_id _)
      obtain ⟨hleg, hmine⟩ := mem_legsOf.1 hleg
      exact hothers leg hleg (hmine ▸ hid)
  have hmine : ∀ leg' ∈ db'.legsOf w.id, leg'.state = .cancelled ∨ leg'.state = .expired := by
    intro leg' hleg'
    rw [legsOf_of_legs hlegs, hmoved.legsOf, List.mem_map] at hleg'
    obtain ⟨leg, hleg, rfl⟩ := hleg'
    exact hown leg (mem_legsOf.1 hleg).1 (mem_legsOf.1 hleg).2
  refine ⟨by rw [hlegs]; exact hmoved.lawful_legs hl, fun w' hw' => ?_, fun w' hw' => ?_⟩
  · rcases hrow w' hw' with rfl | ⟨hmem, hsame⟩
    · refine ⟨fun _ leg hleg => ?_, fun hc => ?_, fun hf => ?_, fun _ => hmine⟩
      · rcases hmine leg hleg with h | h <;> rw [h] <;> rfl
      · exact absurd hc (by simp [hsplit.1])
      · exact absurd hf (by simp [hsplit.2.2])
    · exact (hl.endings w' hmem).of_legsOf hsame
  · rcases hrow w' hw' with rfl | ⟨hmem, hsame⟩
    · intro _ _
      simp [Withdrawal.ended]
    · exact (hl.closed w' hmem).of_legsOf hsame

lemma Lawful.change (hl : Lawful db) (h : Change db call db') : Lawful db' := by
  cases h with
  | created now input hcall withdrawals legs new => exact hl.created withdrawals legs new
  | moved db₁ g now ids moved settles ends => exact hl.moved moved settles ends
  | cancelled db₁ g now w moved legs withdrawals mem live own others =>
    exact hl.cancelled moved legs withdrawals mem live own others

lemma Lawful.step (hl : Lawful db) (h : Step db db') : Lawful db' := by
  obtain ⟨call, hchange⟩ := h.change
  exact hl.change hchange

lemma Lawful.run (h : Relation.ReflTransGen Step Store.empty db) : Lawful db := by
  induction h with
  | refl => exact Lawful.empty
  | tail _ hstep ih => exact ih.step hstep

/-! ### Runs -/

/-- A leg after an operation is where an arrow leads. -/
lemma Lawful.follows (hl : Lawful db) (h : Step db db') {leg : Leg} (hleg : leg ∈ db.legs.rows) :
    ∃ leg' ∈ db'.legs.rows, leg.SameTerms leg' ∧
      (leg'.state = leg.state ∨ LegState.Follows leg.kind leg.state leg'.state) := by
  obtain ⟨call, hchange⟩ := h.change
  obtain ⟨leg', hleg', rfl | hmove⟩ := hchange.leg_after hleg
  · exact ⟨leg', hleg', .refl leg', Or.inl rfl⟩
  · exact ⟨leg', hleg', hmove.sameTerms, (hmove.lawful (hl.legs leg hleg)).1⟩

/-- A leg that was not there awaits its signature. -/
lemma Step.new_leg (h : Step db db') {leg' : Leg} (hleg' : leg' ∈ db'.legs.rows)
    (hnew : ∀ leg ∈ db.legs.rows, leg.id ≠ leg'.id) : leg'.state = .awaitingSignature := by
  obtain ⟨call, hchange⟩ := h.change
  rcases hchange.leg_before hleg' with ⟨now, input, new, -, -, rfl⟩ | ⟨leg, hleg, rfl | hmove⟩
  · rfl
  · exact absurd rfl (hnew leg' hleg)
  · exact absurd hmove.sameTerms.id.symm (hnew leg hleg)

/-- A withdrawal that has ended keeps its ending. -/
lemma Step.ended (h : Step db db') (hw : w ∈ db.withdrawals.rows) (hended : w.ended = true) :
    w ∈ db'.withdrawals.rows := by
  obtain ⟨call, hchange⟩ := h.change
  cases hchange with
  | created now input hcall withdrawals legs new =>
    rw [withdrawals]
    exact List.mem_append_left _ hw
  | moved db₁ g now ids moved settles ends =>
    rw [settles.rows, moved.withdrawals, List.mem_map]
    refine ⟨w, hw, if_neg fun hclose => ?_⟩
    rw [(closable_iff.1 hclose.2).1] at hended
    cases hended
  | cancelled db₁ g now row moved legs withdrawals mem live own others =>
    rw [withdrawals, List.mem_map]
    refine ⟨w, hw, if_neg fun hid => ?_⟩
    rw [db.withdrawals.eq_of_key_eq hw mem hid, live] at hended
    cases hended

/-- No step is opened for a leg of a cancelled withdrawal. -/
lemma beginStep_of_cancelled (hw : w ∈ db.withdrawals.rows) (hcancelled : w.cancelledAt.isSome = true)
    {leg : Leg} (hleg : leg ∈ db.legsOf w.id) (jobId : JobId) (chainId : ChainId) :
    db.beginStep now leg.id jobId chainId = .ok (db, false) := by
  obtain ⟨hleg, hmine⟩ := mem_legsOf.1 hleg
  refine if_neg ?_
  rw [Bool.not_eq_true, List.any_eq_false]
  intro row hrow hp
  rw [Bool.and_eq_true, decide_eq_true_eq, List.any_eq_true] at hp
  obtain ⟨hid, w', hw', hopen⟩ := hp
  obtain ⟨hid', hnone⟩ := of_decide_eq_true hopen
  rw [db.legs.eq_of_key_eq hrow hleg hid, hmine] at hid'
  rw [db.withdrawals.eq_of_key_eq hw' hw hid'] at hnone
  rw [hnone] at hcancelled
  cases hcancelled

/-- In every run: a leg runs a step exactly while it is relaying or minting; a withdrawal has at
most one ending, and one exactly when its legs are terminal, and it is completed exactly when they
are; the legs of a cancelled withdrawal are cancelled or expired.  Every further operation moves the
legs along the arrows or not at all, leaves the terminal ones as they are, and opens no step for a
withdrawal that was cancelled. -/
theorem withdrawals_follow_their_state_machine (db : Store)
    (h : Relation.ReflTransGen Step Store.empty db) :
    (∀ leg ∈ db.legs.rows, leg.step.isSome = true ↔ leg.state = .relaying ∨ leg.state = .minting) ∧
    (∀ w ∈ db.withdrawals.rows, w.endings ≤ 1 ∧
      (db.legsOf w.id ≠ [] →
        (w.ended = true ↔ ∀ leg ∈ db.legsOf w.id, leg.state.isTerminal = true) ∧
        (w.completedAt.isSome = true ↔ ∀ leg ∈ db.legsOf w.id, leg.state = .completed)) ∧
      (w.cancelledAt.isSome = true → ∀ leg ∈ db.legsOf w.id,
        (leg.state = .cancelled ∨ leg.state = .expired) ∧
        ∀ now jobId chainId, db.beginStep now leg.id jobId chainId = .ok (db, false))) ∧
    ∀ db', Step db db' →
      (∀ leg ∈ db.legs.rows, ∃ leg' ∈ db'.legs.rows, leg.SameTerms leg' ∧
        (leg'.state = leg.state ∨ LegState.Follows leg.kind leg.state leg'.state) ∧
        (leg.state.isTerminal = true → leg'.state = leg.state)) ∧
      (∀ leg' ∈ db'.legs.rows, (∀ leg ∈ db.legs.rows, leg.id ≠ leg'.id) →
        leg'.state = .awaitingSignature) ∧
      ∀ w ∈ db.withdrawals.rows, w.ended = true → w ∈ db'.withdrawals.rows := by
  have hl := Lawful.run h
  refine ⟨fun leg hleg => ?_, fun w hw => ⟨db.oneEnding w hw, fun hne => ⟨?_, ?_⟩, ?_⟩, fun db' hstep =>
    ⟨fun leg hleg => ?_, fun leg' hleg' hnew => hstep.new_leg hleg' hnew, fun w hw hended =>
      hstep.ended hw hended⟩⟩
  · rw [(hl.legs leg hleg).step]
    cases leg.state <;> simp [LegState.hasStep]
  · exact ⟨(hl.endings w hw).terminal, hl.closed w hw hne⟩
  · refine ⟨(hl.endings w hw).completed, fun hall => ?_⟩
    have hended : w.ended = true := hl.closed w hw hne fun leg hleg => by rw [hall leg hleg]; rfl
    obtain ⟨leg, hleg⟩ := List.exists_mem_of_ne_nil _ hne
    by_contra hnot
    simp only [Withdrawal.ended, Bool.or_eq_true, hnot, false_or] at hended
    -- neither cancelled nor failed, as its legs are completed
    rcases hended with hcancelled | hfailed
    · rcases (hl.endings w hw).cancelled hcancelled leg hleg with hstate | hstate <;>
        · rw [hall leg hleg] at hstate
          cases hstate
    · obtain ⟨other, hother, hstate⟩ := (hl.endings w hw).failed hfailed
      exact hstate (hall other hother)
  · intro hcancelled leg hleg
    exact ⟨(hl.endings w hw).cancelled hcancelled leg hleg, fun now jobId chainId =>
      beginStep_of_cancelled hw hcancelled hleg jobId chainId⟩
  · obtain ⟨leg', hleg', hterms, hfollows⟩ := hl.follows hstep hleg
    refine ⟨leg', hleg', hterms, hfollows, fun hterminal => ?_⟩
    rcases hfollows with hsame | hfollows
    · exact hsame
    · -- no arrow leaves a terminal state
      rw [hfollows.not_terminal] at hterminal
      cases hterminal

/-! ### A withdrawal of two legs -/

/-- A transfer on chain 1 and a bridge from chain 2. -/
def sampleWithdrawal : NewWithdrawal :=
  ⟨1, 7, "key", 100, .usdc, 1, 200,
    [⟨10, 0, .transfer, 1, 5, 20, 200, 1000, none, 9000⟩,
      ⟨11, 1, .bridge, 2, 6, 21, 300, 1001, some 4, 9000⟩]⟩

def sampleSignature : List UInt8 := List.replicate 65 1

def samplePolicy : StepPolicy := ⟨30, 5, 20⟩

/-- The transfer lands; the burn was made in a transaction that is not found, and the leg fails. -/
lemma sample_run : ∃ db, Relation.ReflTransGen Step Store.empty db ∧
    db.legs.rows.map (fun leg => (leg.id, leg.state)) = [(10, .completed), (11, .failed)] ∧
    db.withdrawals.rows.map (fun w => (w.id, w.failedAt)) = [(1, some 6)] := by
  have h₁ : Relation.ReflTransGen Step Store.empty _ :=
    Relation.ReflTransGen.single ⟨0, .create sampleWithdrawal, rfl⟩
  have h₂ := h₁.tail ⟨1, .authorize ⟨[sampleWithdrawal.row], by simp⟩ 7 1 10 sampleSignature, rfl⟩
  have h₃ := h₂.tail ⟨2, .beginStep 10 50 1, rfl⟩
  have h₄ := h₃.tail ⟨3, .applyStepResult 50 .transfer (.succeeded 77 5 55) samplePolicy, rfl⟩
  have h₅ := h₄.tail ⟨4, .authorize ⟨[sampleWithdrawal.row], by simp⟩ 7 1 11 sampleSignature, rfl⟩
  have h₆ := h₅.tail ⟨5, .beginStep 11 51 2, rfl⟩
  have h₇ := h₆.tail ⟨6, .applyStepResult 51 .burn (.executedElsewhere none) samplePolicy, rfl⟩
  exact ⟨_, h₇, rfl, rfl⟩

theorem withdrawals_follow_their_state_machine_sampleWithdrawal : ∃ db,
    Relation.ReflTransGen Step Store.empty db ∧
    db.legs.rows.map (fun leg => (leg.id, leg.state)) = [(10, .completed), (11, .failed)] ∧
    ∀ w ∈ db.withdrawals.rows, w.endings ≤ 1 := by
  obtain ⟨db, hrun, hlegs, -⟩ := sample_run
  exact ⟨db, hrun, hlegs, fun w hw => ((withdrawals_follow_their_state_machine db hrun).2.1 w hw).1⟩

end Store

end Payday.Withdrawals
