/-
# Replacement fees

A same-nonce replacement pays the node's estimate or an eighth more than the attempt it replaces,
whichever is more, fee by fee (`FeeEstimate::bumped`).  `Ladder` is what this makes of the attempts
of a slot over every run of the executors: the first one pays an estimate, and every other one is
the replacement of the one before it, also when several executors reconcile the slot at once.
-/
import Payday.Signers.StepEvidence

namespace Payday.Signers

open ChainWorker

/-! ### One replacement -/

namespace FeeEstimate

/-- The tip is part of what is paid at most. -/
def WellFormed (fees : FeeEstimate) : Prop := fees.maxPriorityFeePerGas ≤ fees.maxFeePerGas

/-- Both fees are more than a tenth higher. -/
structure Raises (fees previous : FeeEstimate) : Prop where
  maxFee : 11 * previous.maxFeePerGas < 10 * fees.maxFeePerGas
  maxPriorityFee : 11 * previous.maxPriorityFeePerGas < 10 * fees.maxPriorityFeePerGas

/-- Below a ninth of `u128::MAX` the raise does not wrap. -/
lemma bump_eq {fee : ℕ} (h : fee < (2 ^ 128 - 1) / 9) :
    (fee + fee / 8 + 1) % 2 ^ 128 = fee + fee / 8 + 1 := by
  refine Nat.mod_eq_of_lt ?_
  omega

/-- The quotient is rounded down by less than the one that is added. -/
lemma bump_raises {fee : ℕ} (h : fee < (2 ^ 128 - 1) / 9) :
    11 * fee < 10 * ((fee + fee / 8 + 1) % 2 ^ 128) := by
  rw [bump_eq h]
  omega

lemma bumped_raises {fees : FeeEstimate} (hmax : fees.maxFeePerGas < (2 ^ 128 - 1) / 9)
    (hpriority : fees.maxPriorityFeePerGas < (2 ^ 128 - 1) / 9) : fees.bumped.Raises fees :=
  ⟨bump_raises hmax, bump_raises hpriority⟩

lemma bumped_wellFormed {fees : FeeEstimate} (h : fees.WellFormed)
    (hmax : fees.maxFeePerGas < (2 ^ 128 - 1) / 9) : fees.bumped.WellFormed := by
  have hpriority := lt_of_le_of_lt h hmax
  show (fees.maxPriorityFeePerGas + fees.maxPriorityFeePerGas / 8 + 1) % 2 ^ 128 ≤
    (fees.maxFeePerGas + fees.maxFeePerGas / 8 + 1) % 2 ^ 128
  rw [bump_eq hmax, bump_eq hpriority]
  unfold WellFormed at h
  omega

lemma max_wellFormed {fees other : FeeEstimate} (h : fees.WellFormed) (h' : other.WellFormed) :
    (fees.max other).WellFormed :=
  Nat.max_le.2 ⟨le_trans h (Nat.le_max_left _ _), le_trans h' (Nat.le_max_right _ _)⟩

lemma Raises.max {fees previous : FeeEstimate} (h : fees.Raises previous) (estimate : FeeEstimate) :
    (estimate.max fees).Raises previous := by
  have hmax : fees.maxFeePerGas ≤ (estimate.max fees).maxFeePerGas := Nat.le_max_right _ _
  have hpriority : fees.maxPriorityFeePerGas ≤ (estimate.max fees).maxPriorityFeePerGas :=
    Nat.le_max_right _ _
  exact ⟨lt_of_lt_of_le h.maxFee (by omega), lt_of_lt_of_le h.maxPriorityFee (by omega)⟩

end FeeEstimate

def Attempt.fees (attempt : Attempt) : FeeEstimate :=
  ⟨attempt.maxFeePerGas, attempt.maxPriorityFeePerGas⟩

/-! ### The attempts as they were signed -/

/-- The row without the time it was broadcast, which is all that changes of it. -/
def AttemptRow.signed (row : AttemptRow) : AttemptRow :=
  { row with attempt := { row.attempt with broadcastAt := none } }

def Execution.signed (db : Execution) : List AttemptRow := db.attempts.rows.map AttemptRow.signed

/-- The attempt is of the kind `prepare` makes: the stored fees are the signed ones. -/
def Attempt.Prepared (attempt : Attempt) : Prop :=
  attempt.rawTransaction.maxFeePerGas = attempt.maxFeePerGas ∧
    attempt.rawTransaction.maxPriorityFeePerGas = attempt.maxPriorityFeePerGas ∧
    attempt.broadcastAt = none

/-- The attempt replaces another one of its slot. -/
def Replaces (rows : List AttemptRow) (id : TransactionId) (attempt : Attempt) : Prop :=
  ∃ row ∈ rows, row.transactionId = id ∧
    attempt.replacementNumber = row.attempt.replacementNumber + 1 ∧
    ∃ estimate : FeeEstimate, estimate.WellFormed ∧
      attempt.fees = estimate.max row.attempt.fees.bumped

/-- Every attempt is a first one that pays an estimate, or replaces the one before it. -/
structure Ladder (rows : List AttemptRow) : Prop where
  prepared : ∀ row ∈ rows, row.attempt.Prepared
  rungs : ∀ row ∈ rows,
    (row.attempt.replacementNumber = 0 ∧ row.attempt.fees.WellFormed) ∨
      Replaces rows row.transactionId row.attempt

lemma Replaces.mono {rows rows' : List AttemptRow} (hsub : rows ⊆ rows') {id : TransactionId}
    {attempt : Attempt} (h : Replaces rows id attempt) : Replaces rows' id attempt := by
  obtain ⟨row, hrow, hrest⟩ := h
  exact ⟨row, hsub hrow, hrest⟩

lemma Ladder.append {rows : List AttemptRow} (h : Ladder rows) {row : AttemptRow}
    (hprepared : row.attempt.Prepared)
    (hrow : (row.attempt.replacementNumber = 0 ∧ row.attempt.fees.WellFormed) ∨
      Replaces rows row.transactionId row.attempt) : Ladder (rows ++ [row]) := by
  have hsub : rows ⊆ rows ++ [row] := List.subset_append_left _ _
  constructor
  · intro r hr
    rcases List.mem_append.1 hr with hr | hr
    · exact h.prepared r hr
    · rw [List.mem_singleton.1 hr]
      exact hprepared
  · intro r hr
    rcases List.mem_append.1 hr with hr | hr
    · exact (h.rungs r hr).imp_right fun hold => hold.mono hsub
    · rw [List.mem_singleton.1 hr]
      exact hrow.imp_right fun hnew => hnew.mono hsub

/-! ### Decisions -/

variable {W : ChainWorker} {db db' : Execution}

/-- The estimates that the node may give are well formed. -/
def ChainWorker.FairEstimates (W : ChainWorker) : Prop :=
  ∀ answers, W.node answers → ∀ estimate, answers.estimateFees = .ok estimate → estimate.WellFormed

lemma ChainWorker.prepare_eq_ok {answers : Answers} {command : ExecutionCommand} {signer : Address}
    {nonce gasLimit number : ℕ} {fees : FeeEstimate} {attempt : Attempt}
    (h : W.prepare answers command signer nonce gasLimit fees number = .ok attempt) :
    attempt.Prepared ∧ attempt.fees = fees ∧ attempt.replacementNumber = number := by
  unfold ChainWorker.prepare at h
  dsimp only at h
  split at h
  · cases h
  · cases h
    exact ⟨⟨rfl, rfl, rfl⟩, rfl, rfl⟩

/-- The attempts of a slot that an executor read are stored. -/
def OpenTransaction.Read (rows : List AttemptRow) (t : OpenTransaction) : Prop :=
  ∀ attempt ∈ t.attempts, AttemptRow.signed ⟨t.slot.id, attempt⟩ ∈ rows

/-- What a task relies on when it makes an attempt. -/
def Task.Priced (rows : List AttemptRow) : Task → Prop
  | reconcile t => t.Read rows
  | insertAttempt t attempt => attempt.Prepared ∧ Replaces rows t.slot.id attempt
  | beginTransaction _ new _ => new.attempt.Prepared ∧ new.attempt.replacementNumber = 0 ∧
      new.attempt.fees.WellFormed
  | _ => True

def Next.Priced (rows : List AttemptRow) : Next → Prop
  | .go task => task.Priced rows
  | _ => True

lemma Task.Priced.mono {rows rows' : List AttemptRow} (hsub : rows ⊆ rows') {task : Task}
    (h : task.Priced rows) : task.Priced rows' := by
  cases task with
  | reconcile t => exact fun attempt hattempt => hsub (h attempt hattempt)
  | insertAttempt t attempt => exact ⟨h.1, h.2.mono hsub⟩
  | beginTransaction job new rest => exact h
  | _ => trivial

/-- `reconcile` replaces the newest attempt at the higher of the estimate and the raised fees. -/
lemma ChainWorker.reconcile_replace {answers : Answers} {now : Time} {t : OpenTransaction}
    {newest attempt : Attempt} (h : W.reconcile answers now t newest = .ok (.replace attempt)) :
    ∃ estimate, answers.estimateFees = .ok estimate ∧ attempt.Prepared ∧
      attempt.fees = estimate.max newest.fees.bumped ∧
      attempt.replacementNumber = newest.replacementNumber + 1 := by
  unfold ChainWorker.reconcile at h
  split at h
  · cases h
  · cases h
  split at h
  · cases h
  split at h
  · cases h
  split at h
  · cases h
  split at h
  · split at h
    · cases h
    · cases h
    · -- the nonce is consumed: nothing is signed
      unfold ChainWorker.onNonceConsumed at h
      split at h
      · split at h
        · cases h
        split at h
        · cases h
        split at h <;> cases h
      · cases h
  split at h
  · cases h
  split at h
  · cases h
  rename_i estimate hestimate
  split at h
  · cases h
  rename_i prepared hprepare
  cases h
  exact ⟨estimate, hestimate, prepare_eq_ok hprepare⟩

/-- A replacement is computed from the newest attempt that was read. -/
lemma ChainWorker.reconcile_priced (hfair : W.FairEstimates) {answers : Answers}
    (hanswers : W.node answers) {now : Time} {t : OpenTransaction} {newest : Attempt} {action : Action}
    (h : W.reconcile answers now t newest = .ok action) (hnewest : newest ∈ t.attempts)
    {rows : List AttemptRow} (ht : t.Read rows) : (action.next t).Priced rows := by
  cases action with
  | replace attempt =>
    obtain ⟨estimate, hestimate, hprepared, hfees, hnumber⟩ := reconcile_replace h
    exact ⟨hprepared, _, ht newest hnewest, rfl, hnumber, estimate,
      hfair answers hanswers estimate hestimate, hfees⟩
  | onMined txHash receipt =>
    simp only [Action.next]
    split <;> trivial
  | _ => trivial

/-- A first attempt pays an estimate. -/
lemma ChainWorker.tryStart_priced (hfair : W.FairEstimates) {answers : Answers}
    (hanswers : W.node answers) {seconds : ℕ} {job : Job} {lane : List Address} {action : StartAction}
    (h : W.tryStart answers seconds job lane = .ok action) (lane' : List Address)
    (rows : List AttemptRow) : (action.next job lane').Priced rows := by
  induction lane with
  | nil =>
    unfold ChainWorker.tryStart at h
    split at h
    · cases h
    · cases h
      trivial
    · cases h
      trivial
  | cons signer rest ih =>
    unfold ChainWorker.tryStart at h
    split at h
    · cases h
    · cases h
      trivial
    split at h
    · cases h
    · cases h
    split at h
    · split at h
      · cases h
        trivial
      · exact ih h
    split at h
    · cases h
    rename_i fees hestimate
    split at h
    · cases h
    split at h
    · cases h
    rename_i attempt hprepare
    cases h
    obtain ⟨hprepared, hfees, hnumber⟩ := prepare_eq_ok hprepare
    refine ⟨hprepared, hnumber, ?_⟩
    rw [hfees]
    exact hfair answers hanswers fees hestimate

/-! ### Steps -/

lemma publish_attempts {event : ExecutionEvent} {origin : Origin}
    (h : db.publish event origin = .ok db') : db'.attempts = db.attempts := by
  unfold Execution.publish at h
  split at h
  · split at h
    · cases h
      rfl
    · cases h
  · cases h
    rfl

lemma concludeJob_attempts {now : Time} {jobId : JobId} {conclusion : Conclusion}
    {event : ExecutionEvent} {origin : Origin}
    (h : db.concludeJob now jobId conclusion event origin = .ok db') :
    db'.attempts = db.attempts := by
  unfold Execution.concludeJob at h
  split at h
  · rename_i db₁ hresolve
    obtain ⟨rfl, -⟩ := Prod.mk.inj hresolve
    exact (publish_attempts h).trans rfl
  · rename_i db₁ hresolve
    obtain ⟨rfl, -⟩ := Prod.mk.inj hresolve
    cases h
    rfl

lemma signed_markBroadcast (db : Execution) (now : Time) (id : TransactionId) (number : ℕ) :
    (db.markBroadcast now id number).signed = db.signed := by
  refine Table.column_of_rows_map rfl fun row => ?_
  split <;> rfl

lemma recordBroadcast_signed {now : Time} {t : OpenTransaction} {attempt : Attempt}
    (h : W.recordBroadcast db now t attempt = .ok db') : db'.signed = db.signed := by
  unfold ChainWorker.recordBroadcast at h
  dsimp only at h
  split at h
  · rw [Execution.signed, publish_attempts h]
    exact signed_markBroadcast db now _ _
  · cases h
    exact signed_markBroadcast db now _ _

/-- What a statement does to the signed attempts: nothing, or it stores the attempt of its task. -/
lemma ChainWorker.TaskStep.signed {sent sent' : List SignedTransaction} {task : Task} {next : Next}
    (h : W.TaskStep db sent task db' sent' next) : db'.signed = db.signed ∨
      (∃ t attempt, task = .insertAttempt t attempt ∧
        db'.signed = db.signed ++ [AttemptRow.signed ⟨t.slot.id, attempt⟩]) ∨
      ∃ job new rest id, task = .beginTransaction job new rest ∧
        db'.signed = db.signed ++ [AttemptRow.signed ⟨id, new.attempt⟩] := by
  have hsame : ∀ {db₁ : Execution}, db₁.attempts = db.attempts → db₁.signed = db.signed := by
    intro db₁ h
    rw [Execution.signed, h, Execution.signed]
  cases h with
  | resolve t conclusion state event now _ h =>
    unfold ChainWorker.resolveSlot at h
    exact Or.inl (hsame ((concludeJob_attempts h).trans rfl))
  | reportStall t resend now _ new h =>
    left
    unfold ChainWorker.reportStall at h
    split at h
    · cases h
    · rename_i db₁ hpublish
      cases h
      exact hsame ((publish_attempts hpublish).trans rfl)
  | insertAttempt t attempt _ h =>
    refine Or.inr (Or.inl ⟨t, attempt, rfl, ?_⟩)
    rw [Execution.signed, (Stores.of_insertAttemptRow h).attempts, List.map_append]
    rfl
  | markBroadcast t attempt now _ h => exact Or.inl (recordBroadcast_signed h)
  | conclude job event lane now _ h => exact Or.inl (hsame (concludeJob_attempts h))
  | beginTransaction job new rest now id _ h =>
    refine Or.inr (Or.inr ⟨job, new, rest, id, rfl, ?_⟩)
    rw [Execution.signed, (Opens.of_beginTransaction h).attempts, List.map_append]
    rfl
  | deferJob job error lane nextAttemptAt _ h =>
    left
    unfold Execution.deferJob at h
    split at h
    · cases h
    · cases h
      rfl
  | rejectJob job event lane now _ h => exact Or.inl (hsame (concludeJob_attempts h))
  | _ => exact Or.inl rfl

lemma signed_eq_self {attempt : Attempt} (h : attempt.Prepared) (id : TransactionId) :
    AttemptRow.signed ⟨id, attempt⟩ = ⟨id, attempt⟩ := by
  rcases attempt with ⟨number, txHash, raw, maxFee, maxPriorityFee, broadcastAt⟩
  obtain ⟨-, -, rfl⟩ := h
  rfl

/-- A step of a task keeps the ladder, and only adds to it. -/
lemma ChainWorker.TaskStep.ladder {sent sent' : List SignedTransaction} {task : Task} {next : Next}
    (h : W.TaskStep db sent task db' sent' next) (hladder : Ladder db.signed)
    (hpriced : task.Priced db.signed) : Ladder db'.signed ∧ db.signed ⊆ db'.signed := by
  rcases h.signed with hsame | ⟨t, attempt, rfl, hrows⟩ | ⟨job, new, rest, id, rfl, hrows⟩
  · rw [hsame]
    exact ⟨hladder, List.Subset.refl _⟩
  · obtain ⟨hprepared, hreplaces⟩ := hpriced
    rw [hrows, signed_eq_self hprepared]
    exact ⟨hladder.append hprepared (Or.inr hreplaces), List.subset_append_left _ _⟩
  · obtain ⟨hprepared, hfirst⟩ := hpriced
    rw [hrows, signed_eq_self hprepared]
    exact ⟨hladder.append hprepared (Or.inl hfirst), List.subset_append_left _ _⟩

/-- What follows a step of a task. -/
lemma ChainWorker.TaskStep.priced (hfair : W.FairEstimates) {sent sent' : List SignedTransaction}
    {task : Task} {next : Next} (h : W.TaskStep db sent task db' sent' next)
    (hpriced : task.Priced db.signed) : next.Priced db.signed := by
  cases h with
  | reconcile t newest answers now action hanswers hnewest h =>
    exact reconcile_priced hfair hanswers h (List.mem_of_getLast? hnewest) hpriced
  | onMined t txHash receipt answers finality hanswers h => cases finality <;> trivial
  | reportStall t resend now _ new h => cases resend <;> trivial
  | stallReported t resend old => cases resend <;> trivial
  | start job lane answers seconds action hanswers h => exact tryStart_priced hfair hanswers h lane _
  | fail job error lane =>
    unfold ChainWorker.onError
    split <;> trivial
  | _ => trivial

namespace Fleet

variable {f f' : Fleet}

/-- Executor `w` has read the slot and not reconciled it yet. -/
def Awaits (f : Fleet) (w : ℕ) (t : OpenTransaction) : Prop :=
  ∃ task rest, f.passes w = .reconciling task rest ∧ t ∈ rest

/-- The ladder, and what the executors have in memory. -/
structure Priced (f : Fleet) : Prop where
  ladder : Ladder f.db.signed
  tasks : ∀ w task, f.Holds w task → task.Priced f.db.signed
  awaited : ∀ w t, f.Awaits w t → t.Read f.db.signed

/-- A slot that an executor is to reconcile was read before, or is read now. -/
lemma WorkerStep.awaits {w w' : ℕ} {t : OpenTransaction} (h : WorkerStep W w f f')
    (ht : f'.Awaits w' t) : f.Awaits w' t ∨ t ∈ f'.db.openTransactions W.config.chainId := by
  by_cases hw : w' = w
  swap
  · left
    cases h <;> simpa [Awaits, setPass, Function.update_of_ne hw] using ht
  subst hw
  obtain ⟨task', rest', hpass, ht⟩ := ht
  cases h with
  | openTransactions h =>
    simp only [setPass, Function.update_self] at hpass
    obtain ⟨-, rfl⟩ := Pass.reconciling.inj hpass
    exact Or.inr ht
  | nextSlot t' rest h =>
    simp only [setPass, Function.update_self] at hpass
    obtain ⟨-, rfl⟩ := Pass.reconciling.inj hpass
    exact Or.inl ⟨none, _, h, List.mem_cons_of_mem _ ht⟩
  | reconcile task rest db sent next h hstep =>
    left
    refine ⟨some task, rest, h, ?_⟩
    simp only [Function.update_self] at hpass
    cases next with
    | go task₁ =>
      obtain ⟨-, rfl⟩ := Pass.reconciling.inj hpass
      exact ht
    | _ =>
      obtain ⟨-, rfl⟩ := Pass.reconciling.inj hpass
      exact ht
  | run pending free before after task db sent next h hstep =>
    simp only [Function.update_self] at hpass
    cases next <;> cases hpass
  | runDrained task rest db sent next h hstep =>
    simp only [Function.update_self] at hpass
    cases next <;> cases hpass
  | _ =>
    simp only [setPass, Function.update_self] at hpass
    cases hpass

/-- What is read of the schema is stored in it. -/
lemma openTransactions_read {t : OpenTransaction} {chainId : ChainId}
    (h : t ∈ db.openTransactions chainId) : t.Read db.signed := by
  obtain ⟨slot, -, ht⟩ := List.mem_filterMap.1 h
  obtain ⟨job, -, rfl⟩ := Option.map_eq_some_iff.1 ht
  intro attempt hattempt
  rw [Execution.attemptsOf, List.mem_mergeSort] at hattempt
  obtain ⟨row, hrow, rfl⟩ := List.mem_map.1 hattempt
  obtain ⟨hrow, hid⟩ := List.mem_filter.1 hrow
  refine List.mem_map.2 ⟨row, hrow, ?_⟩
  rw [← of_decide_eq_true hid]

lemma Priced.start : Priced Fleet.start where
  ladder := ⟨by simp [Fleet.start, Execution.signed, Execution.empty],
    by simp [Fleet.start, Execution.signed, Execution.empty]⟩
  tasks := by
    rintro w task (⟨rest, h⟩ | ⟨pending, free, before, after, h⟩ | ⟨rest, h⟩) <;> cases h
  awaited := by
    rintro w t ⟨task, rest, h, -⟩
    cases h

lemma Priced.workerStep (hfair : W.FairEstimates) {w : ℕ} (hp : Priced f) (h : WorkerStep W w f f') :
    Priced f' := by
  have hladder : Ladder f'.db.signed ∧ f.db.signed ⊆ f'.db.signed := by
    rcases h.change with ⟨hdb, -⟩ | ⟨task, next, hheld, hstep⟩
    · rw [hdb]
      exact ⟨hp.ladder, List.Subset.refl _⟩
    · exact hstep.ladder hp.ladder (hp.tasks w task hheld)
  have hread : ∀ {w t}, f.Awaits w t → t.Read f'.db.signed :=
    fun ht attempt hattempt => hladder.2 (hp.awaited _ _ ht attempt hattempt)
  refine ⟨hladder.1, fun w' task hheld => ?_, fun w' t ht => ?_⟩
  · rcases h.holds hheld with hheld | ⟨t, rest, rfl, hpass⟩ | ⟨job, lane, rfl⟩ | ⟨task₀, hheld₀, hstep⟩
    · exact (hp.tasks w' task hheld).mono hladder.2
    · exact hread ⟨none, t :: rest, hpass, List.mem_cons_self⟩
    · trivial
    · exact Task.Priced.mono hladder.2 (hstep.priced hfair (hp.tasks w task₀ hheld₀))
  · rcases h.awaits ht with hold | hnew
    · exact hread hold
    · exact openTransactions_read hnew

lemma Priced.handlerStep (hp : Priced f) (h : HandlerStep f f') : Priced f' := by
  obtain ⟨-, hpasses, hdb⟩ := h.change
  have hsigned : f'.db.signed = f.db.signed := by
    rcases hdb with hdb | ⟨job, haccept⟩
    · rw [hdb]
    · rw [Execution.signed, haccept.attempts, Execution.signed]
  refine ⟨?_, fun w task hheld => ?_, fun w t ht => ?_⟩
  · rw [hsigned]
    exact hp.ladder
  · rw [hsigned]
    unfold Holds at hheld
    rw [hpasses] at hheld
    exact hp.tasks w task hheld
  · rw [hsigned]
    unfold Awaits at ht
    rw [hpasses] at ht
    exact hp.awaited w t ht

/-- Over a run. -/
lemma Priced.run (hfair : W.FairEstimates) (h : Relation.ReflTransGen (Step W) Fleet.start f) :
    Priced f := by
  induction h with
  | refl => exact Priced.start
  | tail _ hstep ih =>
    rcases hstep with hstep | ⟨w, hstep⟩
    · exact ih.handlerStep hstep
    · exact ih.workerStep hfair hstep

end Fleet

/-! ### The ladder of a slot -/

/-- The row is another attempt of the same slot, made before. -/
def AttemptRow.Before (row later : AttemptRow) : Prop :=
  row.transactionId = later.transactionId ∧
    row.attempt.replacementNumber < later.attempt.replacementNumber

/-- As long as the fees before it do not come near `u128::MAX`, an attempt is well formed, and it
raises the fees of the attempt before it. -/
lemma Ladder.raises {rows : List AttemptRow} (h : Ladder rows) {row : AttemptRow} (hrow : row ∈ rows)
    (hbelow : ∀ earlier ∈ rows, earlier.Before row →
      earlier.attempt.maxFeePerGas < (2 ^ 128 - 1) / 9) :
    row.attempt.fees.WellFormed ∧ (row.attempt.replacementNumber = 0 ∨
      ∃ previous ∈ rows, previous.transactionId = row.transactionId ∧
        row.attempt.replacementNumber = previous.attempt.replacementNumber + 1 ∧
        row.attempt.fees.Raises previous.attempt.fees) := by
  -- by induction on the number of the replacement
  induction hn : row.attempt.replacementNumber generalizing row with
  | zero =>
    rcases h.rungs row hrow with ⟨-, hfees⟩ | ⟨previous, -, -, hnumber, -⟩
    · exact ⟨hfees, Or.inl rfl⟩
    · omega
  | succ n ih =>
    rcases h.rungs row hrow with ⟨hzero, -⟩ | ⟨previous, hprevious, hid, hnumber, estimate, hestimate, hfees⟩
    · omega
    · have hbefore : previous.Before row := ⟨hid, by omega⟩
      have hmax := hbelow previous hprevious hbefore
      have hwell : previous.attempt.fees.WellFormed := by
        refine (ih hprevious (fun earlier hearlier hb => ?_) (by omega)).1
        exact hbelow earlier hearlier ⟨hb.1.trans hid, hb.2.trans hbefore.2⟩
      have hpriority : previous.attempt.fees.maxPriorityFeePerGas < (2 ^ 128 - 1) / 9 :=
        lt_of_le_of_lt hwell hmax
      rw [hfees]
      refine ⟨FeeEstimate.max_wellFormed hestimate (FeeEstimate.bumped_wellFormed hwell hmax),
        Or.inr ⟨previous, hprevious, hid, by omega, ?_⟩⟩
      exact (FeeEstimate.bumped_raises hmax hpriority).max estimate

/-- Over every run of any number of executors on a node with well-formed estimates, as long as the
fees stay below a ninth of `u128::MAX`: an attempt never tips more than it pays at most, its stored
fees are the signed ones, and a replacement raises both fees of the attempt before it by more than
a tenth. -/
theorem replacements_clear_the_mempool_rule (W : ChainWorker) (hfair : W.FairEstimates) (f : Fleet)
    (h : Relation.ReflTransGen (Fleet.Step W) Fleet.start f) (row : AttemptRow)
    (hrow : row ∈ f.db.attempts.rows)
    (hbelow : ∀ earlier ∈ f.db.attempts.rows, earlier.Before row →
      earlier.attempt.maxFeePerGas < (2 ^ 128 - 1) / 9) :
    row.attempt.maxPriorityFeePerGas ≤ row.attempt.maxFeePerGas ∧
    (row.attempt.rawTransaction.maxFeePerGas = row.attempt.maxFeePerGas ∧
      row.attempt.rawTransaction.maxPriorityFeePerGas = row.attempt.maxPriorityFeePerGas) ∧
    (row.attempt.replacementNumber ≠ 0 → ∃ previous ∈ f.db.attempts.rows,
      previous.transactionId = row.transactionId ∧
      row.attempt.replacementNumber = previous.attempt.replacementNumber + 1) ∧
    ∀ previous ∈ f.db.attempts.rows, previous.transactionId = row.transactionId →
      row.attempt.replacementNumber = previous.attempt.replacementNumber + 1 →
      11 * previous.attempt.maxFeePerGas < 10 * row.attempt.maxFeePerGas ∧
        11 * previous.attempt.maxPriorityFeePerGas < 10 * row.attempt.maxPriorityFeePerGas := by
  have hladder := (Fleet.Priced.run hfair h).ladder
  have hmem : row.signed ∈ f.db.signed := List.mem_map_of_mem hrow
  obtain ⟨hwell, hprevious⟩ := hladder.raises hmem fun earlier hearlier hbefore => by
    obtain ⟨r, hr, rfl⟩ := List.mem_map.1 hearlier
    exact hbelow r hr hbefore
  obtain ⟨hraw, hrawPriority, -⟩ := hladder.prepared _ hmem
  refine ⟨hwell, ⟨hraw, hrawPriority⟩, fun hne => ?_, fun previous hmem' hid hnumber => ?_⟩
  · rcases hprevious with hzero | ⟨_, hold, hid, hnumber, -⟩
    · exact absurd hzero hne
    · obtain ⟨r, hr, rfl⟩ := List.mem_map.1 hold
      exact ⟨r, hr, hid, hnumber⟩
  · rcases hprevious with hzero | ⟨_, hold, hid', hnumber', hraises⟩
    · have hzero : row.attempt.replacementNumber = 0 := hzero
      omega
    · -- the number of a replacement is used once in its slot
      obtain ⟨r, hr, rfl⟩ := List.mem_map.1 hold
      have hnumber' : row.attempt.replacementNumber = r.attempt.replacementNumber + 1 := hnumber'
      have hkey : r.key = previous.key :=
        Prod.ext (hid'.trans hid.symm) (Nat.succ.inj (hnumber'.symm.trans hnumber))
      obtain rfl := f.db.attempts.eq_of_key_eq hr hmem' hkey
      exact ⟨hraises.maxFee, hraises.maxPriorityFee⟩

/-! ### One replacement of a sample job -/

namespace Fleet

/-- The sample executor on a node with well-formed estimates. -/
def feeWorker : ChainWorker :=
  { sampleWorker with
    keccak := fun raw => raw.maxFeePerGas
    node := fun answers => ∀ estimate, answers.estimateFees = .ok estimate → estimate.WellFormed }

lemma sampleAnswers_fair : feeWorker.node sampleAnswers := by
  intro estimate h
  obtain rfl := Except.ok.inj h
  show 1 ≤ 2
  decide

/-- The attempts of the sample job at its two prices. -/
def feeAttempt (number maxFee maxPriorityFee : ℕ) (broadcastAt : Option Time) : Attempt :=
  ⟨number, maxFee, ⟨11, 1, 0, 99, sampleWorker.calldata sampleCommand, 500000, maxFee,
    maxPriorityFee⟩, maxFee, maxPriorityFee, broadcastAt⟩

def feeNew : Execution.NewTransaction :=
  ⟨5, 1, 11, 0, 99, .bytes [], 500000, feeAttempt 0 2 1 none⟩

lemma tryStart_feeWorker : feeWorker.tryStart sampleAnswers 0 sampleJob [11] =
    .ok (.beginTx feeNew []) := rfl

/-- The slot as the second pass reads it. -/
def feeOpen : OpenTransaction where
  slot := { feeNew.slot 1 1 with
    state := .broadcast, submittedAt := 2, broadcastAt := some 2 }
  job := { sampleJob with state := .executing }
  attempts := [feeAttempt 0 2 1 (some 2)]

/-- The schema after the first pass. -/
def feeDb : Execution where
  jobs := ⟨[{ sampleJob with state := .executing }], by simp⟩
  transactions := ⟨[feeOpen.slot], by simp⟩
  attempts := ⟨[⟨1, feeAttempt 0 2 1 (some 2)⟩], by simp⟩
  events := [⟨.sweepSubmitted 5 1 11 0 2 0, .reconciling⟩]

lemma openTransactions_feeDb : feeDb.openTransactions 1 = [feeOpen] := by
  have hattempts : feeDb.attemptsOf 1 = [feeAttempt 0 2 1 (some 2)] :=
    List.mergeSort_singleton _
  show [(⟨feeOpen.slot, feeOpen.job, feeDb.attemptsOf 1⟩ : OpenTransaction)] = [feeOpen]
  rw [hattempts]
  rfl

lemma reconcile_feeOpen :
    feeWorker.reconcile sampleAnswers 100 feeOpen (feeAttempt 0 2 1 (some 2)) =
      .ok (.replace (feeAttempt 1 3 2 none)) := by
  rfl

/-- The sample job is replaced once, from fees of 2 and 1 to fees of 3 and 2. -/
theorem replacements_clear_the_mempool_rule_sampleJob : ∃ f,
    Relation.ReflTransGen (Step feeWorker) start f ∧
      ⟨1, feeAttempt 1 3 2 none⟩ ∈ f.db.attempts.rows ∧
      ∀ previous ∈ f.db.attempts.rows, previous.transactionId = 1 →
        1 = previous.attempt.replacementNumber + 1 →
        11 * previous.attempt.maxFeePerGas < 10 * 3 ∧
          11 * previous.attempt.maxPriorityFeePerGas < 10 * 2 := by
  have h₀ : Relation.ReflTransGen (Step feeWorker) start start := Relation.ReflTransGen.refl
  have h₁ : Relation.ReflTransGen (Step feeWorker) start ⟨acceptedDb, [], fun _ => .idle⟩ :=
    h₀.tail (Or.inl (.accept 0 sampleCommand))
  have h₂ := h₁.tail (Or.inr ⟨0, .openTransactions rfl⟩)
  have h₃ := h₂.tail (Or.inr ⟨0, .queuedJobs 0 rfl⟩)
  have h₄ := h₃.tail (Or.inr ⟨0, .busySigners [sampleJob] [11, 12]
    (congrArg Pass.queued queuedJobs_acceptedDb) (List.Perm.refl _)⟩)
  have h₅ := h₄.tail (Or.inr ⟨0, .fill sampleJob [] 11 [12] [] rfl⟩)
  have h₆ := h₅.tail (Or.inr ⟨0, .run [] [12] [] [] (.start sampleJob [11]) _ _ _ rfl
    (.start _ _ sampleAnswers 0 _ sampleAnswers_fair tryStart_feeWorker)⟩)
  have h₇ := h₆.tail (Or.inr ⟨0, .run [] [12] [] [] (.beginTransaction sampleJob feeNew [])
    _ _ _ rfl (.beginTransaction _ _ _ 1 1 _ rfl)⟩)
  have h₈ := h₇.tail (Or.inr ⟨0, .run [] [12] [] [] (.broadcast _ _) _ _ _ rfl (.broadcast _ _)⟩)
  have h₉ := h₈.tail (Or.inr ⟨0, .run [] [12] [] [] (.markBroadcast _ _) _ _ _ rfl
    (.markBroadcast _ _ 2 _ rfl)⟩)
  have h₁₀ := h₉.tail (Or.inr ⟨0, .stop⟩)
  -- the next pass finds the attempt unmined after the timeout
  have h₁₁ := h₁₀.tail (Or.inr ⟨0, .openTransactions rfl⟩)
  have h₁₂ := h₁₁.tail (Or.inr ⟨0, .nextSlot feeOpen []
    (congrArg (Pass.reconciling none) openTransactions_feeDb)⟩)
  have h₁₃ := h₁₂.tail (Or.inr ⟨0, .reconcile _ _ _ _ _ rfl
    (.reconcile feeOpen _ sampleAnswers 100 _ sampleAnswers_fair rfl reconcile_feeOpen)⟩)
  have h₁₄ := h₁₃.tail (Or.inr ⟨0, .reconcile _ _ _ _ _ rfl
    (.insertAttempt feeOpen (feeAttempt 1 3 2 none) _ rfl)⟩)
  have hnew : ⟨1, feeAttempt 1 3 2 none⟩ ∈
      [(⟨1, feeAttempt 0 2 1 (some 2)⟩ : AttemptRow), ⟨1, feeAttempt 1 3 2 none⟩] := by simp
  refine ⟨_, h₁₄, hnew, (replacements_clear_the_mempool_rule feeWorker
    (fun answers h => h) _ h₁₄ _ hnew ?_).2.2.2⟩
  intro earlier hearlier _
  rcases List.mem_cons.1 hearlier with rfl | hearlier
  · show 2 < (2 ^ 128 - 1) / 9
    decide
  · rw [List.mem_singleton.1 hearlier]
    show 3 < (2 ^ 128 - 1) / 9
    decide

end Fleet

end Payday.Signers
