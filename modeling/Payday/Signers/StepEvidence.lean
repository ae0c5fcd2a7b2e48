/-
# What a step's result proves

The chain as it is final: which transactions were executed in which blocks, and how each EIP-3009
authorization was consumed, by a transfer or by a cancellation.  A node that answers truthfully
about the final chain makes every published result of a withdrawal step evidence: a step that
succeeded was executed with the command's call, and a step that was executed elsewhere has its
precondition consumed, in the transaction that the result names, if it names one.
-/
import Payday.Signers.SoloExecutor

namespace Payday.Signers

open ChainWorker

/-- How an authorization was consumed.  Either way the token reports it as used. -/
inductive Consumption
  | used (txHash : Hash) (block : ℕ) (payee : Address) (amount : ℕ)
  | cancelled (txHash : Hash) (block : ℕ)
deriving DecidableEq, Repr

/-- The final chain. -/
structure FinalChain where
  /-- The block at a height. -/
  block : ℕ → Hash
  /-- The block has the transaction, with this status. -/
  includes : Hash → Hash → Bool → Prop
  /-- By token, authorizer and nonce. -/
  consumption : Address → Address → Hash → Option Consumption

/-- The transaction is in the final chain and was successful. -/
def FinalChain.Executed (C : FinalChain) (txHash : Hash) : Prop :=
  ∃ n, C.includes (C.block n) txHash true

/-- The answers are true of the final chain. -/
structure Honest (C : FinalChain) (answers : Answers) : Prop where
  receipt : ∀ txHash outcome, answers.receipts.transactionReceipt txHash = .ok (some outcome) →
    C.includes outcome.blockHash txHash outcome.succeeded
  receiptAgain : ∀ txHash outcome, answers.receiptsAgain.transactionReceipt txHash = .ok (some outcome) →
    C.includes outcome.blockHash txHash outcome.succeeded
  /-- A block below the finality boundary is the final chain's. -/
  header : ∀ boundary n header, answers.boundary = .ok boundary → n ≤ boundary.number →
    answers.blockHeader n = .ok header → header.hash = C.block n
  /-- `authorizationState` is true of consumed authorizations only. -/
  state : ∀ token authorizer nonce n,
    answers.stepReader.authorizationState token authorizer nonce n = .ok true →
      C.consumption token authorizer nonce ≠ none
  /-- Only a transfer emits `AuthorizationUsed`. -/
  used : ∀ token authorizer nonce fromBlock toBlock txHash outcome,
    answers.stepReader.authorizationUsedTx token authorizer nonce fromBlock toBlock =
      .ok (some (txHash, outcome)) →
      ∃ block payee amount, C.consumption token authorizer nonce = some (.used txHash block payee amount)

variable {C : FinalChain} {W : ChainWorker} {answers : Answers}

/-! ### Results -/

/-- What an authorization's precondition being violated proves. -/
def FinalChain.Violated (C : FinalChain) (txHash : Option Hash) : StepPrecondition → Prop
  | .authorizationUnused token authorizer nonce _ =>
    C.consumption token authorizer nonce ≠ none ∧ ∀ h, txHash = some h →
      ∃ block payee amount, C.consumption token authorizer nonce = some (.used h block payee amount)
  | .messageNonceUnused .. => True

/-- What a result proves about the step. -/
def FinalChain.Proves (C : FinalChain) (W : ChainWorker) (command : WithdrawalStepCommand) :
    StepResult → Prop
  | .succeeded txHash _ _ => C.Executed txHash ∧ ∃ raw, W.keccak raw = txHash ∧
      raw.target = command.target ∧ raw.calldata = command.calldata
  | .executedElsewhere txHash => ∃ precondition, command.precondition = some precondition ∧
      C.Violated txHash precondition
  | _ => True

/-- What an event proves about its job. -/
def FinalChain.Evidences (C : FinalChain) (W : ChainWorker) (command : ExecutionCommand) :
    ExecutionEvent → Prop
  | .withdrawalStepFinalized _ _ _ step result => ∃ c, command = .withdrawalStep c ∧ c.step = step ∧
      C.Proves W c result
  | _ => True

lemma findAuthorizationUse_used (h : Honest C answers) {token authorizer : Address} {nonce txHash : Hash}
    {fromBlock chunk upper : ℕ}
    (hfind : findAuthorizationUse answers.stepReader token authorizer nonce fromBlock chunk upper =
      .ok (some txHash)) :
    ∃ block payee amount, C.consumption token authorizer nonce = some (.used txHash block payee amount) := by
  fun_induction findAuthorizationUse answers.stepReader token authorizer nonce fromBlock chunk upper with
  | case1 upper e he => cases hfind
  | case2 upper tx receipt hused hsucceeded =>
    cases hfind
    exact h.used _ _ _ _ _ _ _ hused
  | case3 upper tx receipt hused hreverted => cases hfind
  | case4 upper hnone hlast => cases hfind
  | case5 upper hnone hmore ih => exact ih hfind

lemma check_violated (h : Honest C answers) {size : ℕ} {precondition : StepPrecondition}
    {boundary : BlockHeader} {txHash : Option Hash}
    (hcheck : check answers.stepReader size precondition boundary = .ok (.violated txHash)) :
    C.Violated txHash precondition := by
  cases precondition with
  | messageNonceUnused messageTransmitter sourceDomain nonce => exact trivial
  | authorizationUnused token authorizer nonce searchFromBlock =>
    simp only [check] at hcheck
    split at hcheck
    · cases hcheck
    · cases hcheck
    · rename_i hstate
      split at hcheck
      · cases hcheck
      · rename_i found hfind
        cases hcheck
        refine ⟨h.state _ _ _ _ hstate, ?_⟩
        rintro tx rfl
        exact findAuthorizationUse_used h hfind

/-! ### Decisions -/

/-- The receipt is of one of the slot's attempts, and tells what a block says. -/
def FinalChain.Mined (C : FinalChain) (t : OpenTransaction) (txHash : Hash) (receipt : Receipt) : Prop :=
  (∃ attempt ∈ t.attempts, attempt.txHash = txHash) ∧ ∀ outcome, receipt = .step outcome →
    C.includes outcome.blockHash txHash outcome.succeeded

/-- What a task knows of the chain. -/
def Task.Evident (C : FinalChain) (W : ChainWorker) : Task → Prop
  | recordMined t txHash receipt | onMined t txHash receipt => C.Mined t txHash receipt
  | resolve t _ _ event => C.Evidences W t.job.command event
  | conclude job event _ | rejectJob job event _ => C.Evidences W job.command event
  | _ => True

def Next.Evident (C : FinalChain) (W : ChainWorker) : Next → Prop
  | .go task => task.Evident C W
  | _ => True

/-- The attempt whose receipt was found. -/
lemma findReceipt_some {receipts : Receipts} {command : ExecutionCommand} {attempts : List Attempt}
    {txHash : Hash} {receipt : Receipt}
    (hreceipts : ∀ txHash outcome, receipts.transactionReceipt txHash = .ok (some outcome) →
      C.includes outcome.blockHash txHash outcome.succeeded)
    (h : findReceipt (receipts.receipt command) attempts = .ok (some (txHash, receipt))) :
    (∃ attempt ∈ attempts, attempt.txHash = txHash) ∧ ∀ outcome, receipt = .step outcome →
      C.includes outcome.blockHash txHash outcome.succeeded := by
  induction attempts with
  | nil => cases h
  | cons attempt rest ih =>
    unfold findReceipt at h
    split at h
    · cases h
    · rename_i r hr
      cases h
      refine ⟨⟨attempt, List.mem_cons_self .., rfl⟩, fun outcome houtcome => ?_⟩
      -- a step's receipt is the node's answer
      cases command with
      | sweepBatch command =>
        simp only [Receipts.receipt] at hr
        rcases hs : receipts.sweepReceipt attempt.txHash with e | o
        · rw [hs] at hr
          cases hr
        · rw [hs] at hr
          cases o with
          | none => cases hr
          | some o =>
            cases hr
            cases houtcome
      | withdrawalStep command =>
        simp only [Receipts.receipt] at hr
        rcases hs : receipts.transactionReceipt attempt.txHash with e | o
        · rw [hs] at hr
          cases hr
        · rw [hs] at hr
          cases o with
          | none => cases hr
          | some o =>
            cases hr
            cases houtcome
            exact hreceipts _ _ hs
    · obtain ⟨⟨found, hfound, heq⟩, hmined⟩ := ih h
      exact ⟨⟨found, List.mem_cons_of_mem _ hfound, heq⟩, hmined⟩

lemma abandonEvent_evidences (job : Job) (reason : AbandonReason) :
    C.Evidences W job.command (W.abandonEvent job reason) := by
  unfold abandonEvent
  split
  · exact trivial
  · rename_i command hcommand
    exact ⟨command, hcommand, rfl, trivial⟩

lemma reconcile_evident (hh : Honest C answers) {now : Time} {t : OpenTransaction} {newest : Attempt}
    {action : Action} (h : W.reconcile answers now t newest = .ok action) :
    (action.next t).Evident C W := by
  have hmined : ∀ {receipts : Receipts} {txHash : Hash} {receipt : Receipt},
      (∀ txHash outcome, receipts.transactionReceipt txHash = .ok (some outcome) →
        C.includes outcome.blockHash txHash outcome.succeeded) →
      findReceipt (receipts.receipt t.job.command) t.attempts.reverse = .ok (some (txHash, receipt)) →
        ((Action.onMined txHash receipt).next t).Evident C W := by
    intro receipts txHash receipt hreceipts hfind
    obtain ⟨⟨attempt, hattempt, heq⟩, hblock⟩ := findReceipt_some hreceipts hfind
    have hmined : C.Mined t txHash receipt := ⟨⟨attempt, List.mem_reverse.1 hattempt, heq⟩, hblock⟩
    simp only [Action.next]
    split <;> exact hmined
  unfold ChainWorker.reconcile at h
  split at h
  · cases h
  · rename_i hfind
    cases h
    exact hmined hh.receipt hfind
  split at h
  · cases h
    exact trivial
  split at h
  · cases h
    exact trivial
  split at h
  · cases h
  split at h
  · split at h
    · cases h
    · rename_i hfind
      cases h
      exact hmined hh.receiptAgain hfind
    · -- the nonce is consumed
      unfold ChainWorker.onNonceConsumed at h
      split at h
      · rename_i command hcommand
        split at h
        · cases h
        split at h
        · cases h
          exact trivial
        rename_i precondition hprecondition
        split at h
        · cases h
        · rename_i hcheck
          cases h
          exact ⟨command, hcommand, rfl, precondition, hprecondition, check_violated hh hcheck⟩
        · cases h
          exact trivial
      · cases h
        exact abandonEvent_evidences _ _
  split at h
  · cases h
    exact trivial
  split at h
  · cases h
  split at h
  · cases h
  · cases h
    exact trivial

lemma onMined_evident (hh : Honest C answers) {db : Execution} (hs : Sound W db) {t : OpenTransaction}
    (ht : Known W db t) {txHash : Hash} {receipt : Receipt} (hmined : C.Mined t txHash receipt)
    {finality : Finality} (h : W.onMined answers t txHash receipt = .ok finality) :
    (finality.next t).Evident C W := by
  unfold ChainWorker.onMined at h
  split at h
  · cases h
  rename_i boundary hboundary
  split at h
  · cases h
    exact trivial
  rename_i hfinal
  split at h
  · cases h
  rename_i header hheader
  split at h
  · cases h
    exact trivial
  rename_i hhash
  split at h
  · -- a sweep
    unfold ChainWorker.finalizeSweep at h
    split at h
    · cases h
      exact trivial
    split at h
    · cases h
    split at h
    · cases h
    split at h
    · cases h
      exact trivial
    · cases h
      exact trivial
  · -- a withdrawal step
    rename_i command outcome hcommand
    unfold ChainWorker.finalizeStep at h
    split at h
    · rename_i hsucceeded
      cases h
      refine ⟨command, hcommand, rfl, ?_, ?_⟩
      · -- its block is final
        have hblock := hh.header boundary _ header hboundary (not_lt.1 hfinal) hheader
        have hincluded := hmined.2 outcome rfl
        refine ⟨outcome.block, ?_⟩
        have heq : outcome.blockHash = C.block outcome.block := (not_not.1 hhash).symm.trans hblock
        rw [← heq, ← hsucceeded]
        exact hincluded
      · -- and its bytes are an attempt of the slot
        obtain ⟨attempt, hattempt, rfl⟩ := hmined.1
        obtain ⟨row, hrow, hid, hrowHash, hraw⟩ := ht.attempts attempt hattempt
        obtain ⟨slot, hslot, hslotId, job, hjob, hjobId, hfits⟩ := hs.attempts row hrow
        obtain ⟨slot', hslot', hsame⟩ := ht.slot
        have hslots : slot = slot' := db.transactions.eq_of_key_eq hslot hslot'
          (by rw [hslotId, hid, hsame.id])
        obtain ⟨job', hjob', hjobId', hcommand'⟩ := ht.job
        have hjobs : job = job' := db.jobs.eq_of_key_eq hjob hjob'
          (by rw [hjobId, hslots, hsame.jobId, ht.jobId, hjobId'])
        refine ⟨row.attempt.rawTransaction, by rw [← hfits.txHash, hrowHash], ?_, ?_⟩
        · rw [hfits.target, hslots, hsame.target, ht.target, hcommand]
          rfl
        · rw [hfits.calldata, hjobs, hcommand', hcommand]
          rfl
    split at h
    · cases h
      exact ⟨command, hcommand, rfl, trivial⟩
    rename_i precondition hprecondition
    split at h
    · cases h
    · rename_i hcheck
      cases h
      exact ⟨command, hcommand, rfl, precondition, hprecondition, check_violated hh hcheck⟩
    · cases h
      exact ⟨command, hcommand, rfl, trivial⟩
  · cases h
    exact trivial

lemma nonceFree_evidences (hh : Honest C answers) {seconds : ℕ} {job : Job} {event : ExecutionEvent}
    (h : W.nonceFree answers seconds job = .ok (some event)) : C.Evidences W job.command event := by
  unfold ChainWorker.nonceFree at h
  split at h
  · cases h
  rename_i command hcommand
  have hdeadline : ∀ {p : Prop} [Decidable p],
      (if p then some (W.stepEvent job command .expired) else none) = some event →
        C.Evidences W job.command event := by
    intro p _ hif
    split at hif
    · cases hif
      exact ⟨command, hcommand, rfl, trivial⟩
    · cases hif
  dsimp only at h
  split at h
  · exact hdeadline (Except.ok.inj h)
  rename_i precondition hprecondition
  split at h
  · cases h
  split at h
  · cases h
  · rename_i hcheck
    cases h
    exact ⟨command, hcommand, rfl, precondition, hprecondition, check_violated hh hcheck⟩
  · exact hdeadline (Except.ok.inj h)

lemma tryStart_evident (hh : Honest C answers) {seconds : ℕ} {job : Job} {lane : List Address}
    {action : StartAction} (h : W.tryStart answers seconds job lane = .ok action) (lane' : List Address) :
    (action.next job lane').Evident C W := by
  induction lane with
  | nil =>
    unfold ChainWorker.tryStart at h
    split at h
    · cases h
    · rename_i event hevent
      cases h
      exact nonceFree_evidences hh hevent
    · cases h
      exact trivial
  | cons signer rest ih =>
    unfold ChainWorker.tryStart at h
    split at h
    · cases h
    · rename_i event hevent
      cases h
      exact nonceFree_evidences hh hevent
    split at h
    · cases h
    · cases h
    split at h
    · split at h
      · cases h
        exact trivial
      · exact ih h
    split at h
    · cases h
    split at h
    · cases h
    split at h
    · cases h
    · cases h
      exact trivial

/-! ### Tasks -/

/-- What follows a step of a task is evident. -/
lemma ChainWorker.TaskStep.evident (hnode : ∀ answers, W.node answers → Honest C answers)
    {db db' : Execution} {sent sent' : List SignedTransaction} {task : Task} {next : Next}
    (h : W.TaskStep db sent task db' sent' next) (hs : Sound W db) (hg : task.Good W db)
    (he : task.Evident C W) : next.Evident C W := by
  cases h with
  | reconcile t newest answers now action hanswers hnewest h =>
    exact reconcile_evident (hnode answers hanswers) h
  | recordMined t txHash receipt => exact he
  | onMined t txHash receipt answers finality hanswers h =>
    exact onMined_evident (hnode answers hanswers) hs hg he h
  | reportStall t resend now _ new h => cases resend <;> exact trivial
  | stallReported t resend old => cases resend <;> exact trivial
  | start job lane answers seconds action hanswers h =>
    exact tryStart_evident (hnode answers hanswers) h lane
  | fail job error lane =>
    unfold ChainWorker.onError
    split
    · exact trivial
    · exact abandonEvent_evidences job _
  | _ => exact trivial

namespace Fleet

variable {f f' : Fleet}

/-- A task in an executor's memory was there before, is new, or follows a step of a task. -/
lemma WorkerStep.holds {w w' : ℕ} {task : Task} (h : WorkerStep W w f f') (hheld : f'.Holds w' task) :
    f.Holds w' task ∨ (∃ t rest, task = .reconcile t ∧ f.passes w' = .reconciling none (t :: rest)) ∨
      (∃ job lane, task = .start job lane) ∨
      ∃ task₀, f.Holds w task₀ ∧ W.TaskStep f.db f.sent task₀ f'.db f'.sent (.go task) := by
  by_cases hw : w' = w
  swap
  · -- the memory of another executor
    left
    cases h <;> simpa [Holds, setPass, Function.update_of_ne hw] using hheld
  subst hw
  cases h with
  | openTransactions h => simp [Holds, setPass] at hheld
  | nextSlot t rest h =>
    right
    left
    simp only [Holds, setPass, Function.update_self, Pass.reconciling.injEq, Option.some.injEq,
      reduceCtorEq, exists_false, or_false] at hheld
    obtain ⟨rest', heq, -⟩ := hheld
    exact ⟨t, rest, heq.symm, h⟩
  | reconcile task₀ rest db sent next h hstep =>
    right
    right
    right
    cases next with
    | go task' =>
      simp only [Holds, Pass.reconciled, Function.update_self, Pass.reconciling.injEq,
        Option.some.injEq, reduceCtorEq, exists_false, or_false] at hheld
      obtain ⟨rest', rfl, -⟩ := hheld
      exact ⟨task₀, Or.inl ⟨rest, h⟩, hstep⟩
    | _ => simp [Holds, Pass.reconciled] at hheld
  | queuedJobs now h => simp [Holds, setPass] at hheld
  | busySigners jobs free h hfree =>
    simp only [Holds, setPass, Function.update_self, reduceCtorEq, exists_false, false_or,
      or_false, Pass.starting.injEq] at hheld
    obtain ⟨_, _, before, after, -, -, heq⟩ := hheld
    simp at heq
  | fill job pending signer free running h =>
    simp only [Holds, setPass, Function.update_self, reduceCtorEq, exists_false, false_or,
      or_false, Pass.starting.injEq] at hheld
    obtain ⟨_, _, before, after, -, -, heq⟩ := hheld
    have hmem : task ∈ running ++ [.start job [signer]] := by
      rw [heq]
      simp
    rcases List.mem_append.1 hmem with hmem | hmem
    · left
      obtain ⟨before', after', rfl⟩ := List.append_of_mem hmem
      exact Or.inr (Or.inl ⟨_, _, before', after', h⟩)
    · exact Or.inr (Or.inr (Or.inl ⟨job, _, List.mem_singleton.1 hmem⟩))
  | run pending free before after task₀ db sent next h hstep =>
    -- the other tasks were there
    have hothers : task ∈ before ++ after → f.Holds w' task := by
      intro hmem
      have hmem : task ∈ before ++ task₀ :: after := by
        rcases List.mem_append.1 hmem with hmem | hmem
        · exact List.mem_append_left _ hmem
        · exact List.mem_append_right _ (List.mem_cons_of_mem _ hmem)
      obtain ⟨before', after', heq⟩ := List.append_of_mem hmem
      exact Or.inr (Or.inl ⟨_, _, before', after', by rw [h, heq]⟩)
    cases next with
    | go task' =>
      simp only [Holds, Pass.started, Function.update_self, reduceCtorEq, exists_false, false_or,
        or_false, Pass.starting.injEq] at hheld
      obtain ⟨_, _, before', after', -, -, heq⟩ := hheld
      have hmem : task ∈ before ++ task' :: after := by
        rw [heq]
        simp
      rcases List.mem_append.1 hmem with hmem | hmem
      · exact Or.inl (hothers (List.mem_append_left _ hmem))
      · rcases List.mem_cons.1 hmem with rfl | hmem
        · exact Or.inr (Or.inr (Or.inr ⟨task₀, Or.inr (Or.inl ⟨_, _, before, after, h⟩), hstep⟩))
        · exact Or.inl (hothers (List.mem_append_right _ hmem))
    | _ =>
      simp only [Holds, Pass.started, Function.update_self, reduceCtorEq, exists_false, false_or,
        or_false, Pass.starting.injEq] at hheld
      obtain ⟨_, _, before', after', -, -, heq⟩ := hheld
      exact Or.inl (hothers (by rw [heq]; simp))
  | drain pending free h idle => simp [Holds, setPass] at hheld
  | nextJob job rest h =>
    right
    right
    left
    simp only [Holds, setPass, Function.update_self, Pass.draining.injEq, Option.some.injEq,
      reduceCtorEq, exists_false, false_or] at hheld
    obtain ⟨rest', heq, -⟩ := hheld
    exact ⟨job, _, heq.symm⟩
  | runDrained task₀ rest db sent next h hstep =>
    right
    right
    right
    cases next with
    | go task' =>
      simp only [Holds, Pass.drained, Function.update_self, Pass.draining.injEq,
        Option.some.injEq, reduceCtorEq, exists_false, false_or] at hheld
      obtain ⟨rest', rfl, -⟩ := hheld
      exact ⟨task₀, Or.inr (Or.inr ⟨rest, h⟩), hstep⟩
    | _ => simp [Holds, Pass.drained] at hheld
  | stop => simp [Holds, setPass] at hheld

/-! ### Runs -/

/-- What an executor has in memory is good. -/
lemma Durable.holds (hd : Durable W f) {w : ℕ} {task : Task} (h : f.Holds w task) : task.Good W f.db := by
  have hw := hd.passes w
  rcases h with ⟨rest, h⟩ | ⟨pending, free, before, after, h⟩ | ⟨rest, h⟩
  · rw [h] at hw
    exact hw.1 task rfl
  · rw [h] at hw
    exact hw.2 task (by simp)
  · rw [h] at hw
    exact hw.1 task rfl

/-- What the executors have in memory is evident, and so is every published conclusion. -/
structure Evident (C : FinalChain) (W : ChainWorker) (f : Fleet) : Prop where
  tasks : ∀ w task, f.Holds w task → task.Evident C W
  published : ∀ p ∈ f.db.conclusions, ∃ job ∈ f.db.jobs.rows, job.id = p.event.jobId ∧
    C.Evidences W job.command p.event

lemma Evident.start : Evident C W Fleet.start where
  tasks := by
    rintro w task (⟨rest, h⟩ | ⟨pending, free, before, after, h⟩ | ⟨rest, h⟩) <;> cases h
  published := by simp [Fleet.start, Execution.empty, Execution.conclusions]

/-- What was published stays evident when rows are only added. -/
lemma Evident.published_grows (he : Evident C W f) {db' : Execution} (hg : Grows f.db db')
    {p : Publication} (hp : p ∈ f.db.conclusions) :
    ∃ job ∈ db'.jobs.rows, job.id = p.event.jobId ∧ C.Evidences W job.command p.event := by
  obtain ⟨job, hjob, hid, hevidences⟩ := he.published p hp
  obtain ⟨job', hjob', hid', hcommand⟩ := hg.jobs job hjob
  exact ⟨job', hjob', hid'.trans hid, by rwa [hcommand]⟩

/-- The event that a task is about to publish is evident. -/
lemma conclusion_evident {task : Task} {jobId : JobId} {event : ExecutionEvent} {origin : Origin}
    {db : Execution} (h : task.conclusion = some (jobId, event, origin)) (hg : task.Good W db)
    (he : task.Evident C W) :
    ∃ job, JobKnown db job ∧ job.id = event.jobId ∧ C.Evidences W job.command event := by
  cases task with
  | resolve t conclusion state event' =>
    cases h
    exact ⟨t.job, hg.1.job, hg.2.1.symm, he⟩
  | conclude job event' lane | rejectJob job event' lane =>
    cases h
    exact ⟨job, hg.1, hg.2.1.symm, he⟩
  | _ => cases h

/-- A conclusion was published before, or a task of the step publishes it. -/
lemma Change.conclusions {task : Task} {db db' : Execution} (h : Change task db db') {p : Publication}
    (hp : p ∈ db'.conclusions) :
    p ∈ db.conclusions ∨ ∃ jobId, task.conclusion = some (jobId, p.event, p.origin) := by
  cases h with
  | quiet h =>
    rw [h.conclusions] at hp
    exact Or.inl hp
  | stores t attempt htask h =>
    rw [Execution.conclusions, h.events] at hp
    exact Or.inl hp
  | opens job new rest now id htask h =>
    rw [Execution.conclusions, h.events] at hp
    exact Or.inl hp
  | concludes jobId event origin db₁ htask hquiet h =>
    obtain ⟨hmem, hterminal⟩ := List.mem_filter.1 hp
    have hold : p ∈ db₁.events → p ∈ db.conclusions := by
      intro hmem
      rw [← hquiet.conclusions]
      exact List.mem_filter.2 ⟨hmem, hterminal⟩
    rcases h.events with hevents | ⟨hevents, -⟩
    · rw [hevents] at hmem
      rcases List.mem_append.1 hmem with hmem | hmem
      · exact Or.inl (hold hmem)
      · rw [List.mem_singleton.1 hmem]
        exact Or.inr ⟨jobId, htask⟩
    · rw [hevents] at hmem
      exact Or.inl (hold hmem)

lemma Evident.workerStep (hnode : ∀ answers, W.node answers → Honest C answers) {w : ℕ}
    (he : Evident C W f) (hd : Durable W f) (h : WorkerStep W w f f') : Evident C W f' where
  tasks := by
    intro w' task hheld
    rcases h.holds hheld with hheld | ⟨t, rest, rfl, -⟩ | ⟨job, lane, rfl⟩ | ⟨task₀, hheld₀, hstep⟩
    · exact he.tasks w' task hheld
    · exact trivial
    · exact trivial
    · exact hstep.evident hnode hd.sound (hd.holds hheld₀) (he.tasks w task₀ hheld₀)
  published := by
    rcases h.change with ⟨hdb, -⟩ | ⟨task, next, hheld, hstep⟩
    · rw [hdb]
      exact he.published
    · intro p hp
      rcases Change.conclusions hstep.change hp with hp | ⟨jobId, hconclusion⟩
      · exact he.published_grows hstep.change.grows hp
      · obtain ⟨job, hknown, hid, hevidences⟩ :=
          conclusion_evident hconclusion (hd.holds hheld) (he.tasks w task hheld)
        obtain ⟨row, hrow, hrowId, hcommand⟩ := hknown.grows hstep.change.grows
        exact ⟨row, hrow, hrowId.trans hid, by rwa [hcommand]⟩

lemma Evident.handlerStep (he : Evident C W f) (h : HandlerStep f f') : Evident C W f' := by
  obtain ⟨-, hpasses, hdb⟩ := h.change
  have htasks : ∀ w task, f'.Holds w task → task.Evident C W := by
    intro w task hheld
    refine he.tasks w task ?_
    rwa [Holds, hpasses] at hheld
  rcases hdb with hdb | ⟨job, haccept⟩
  · exact ⟨htasks, by rw [hdb]; exact he.published⟩
  refine ⟨htasks, fun p hp => ?_⟩
  obtain ⟨hmem, hterminal⟩ := List.mem_filter.1 hp
  have hold : p ∈ f.db.events → ∃ job ∈ f'.db.jobs.rows, job.id = p.event.jobId ∧
      C.Evidences W job.command p.event := fun hmem =>
    he.published_grows haccept.grows (List.mem_filter.2 ⟨hmem, hterminal⟩)
  rcases haccept.events with ⟨-, hevents⟩ | ⟨conclusion, now, event, -, hid, -, ⟨chainId, reason, heq⟩, hevents⟩
  · rw [hevents] at hmem
    exact hold hmem
  · rcases hevents with hevents | ⟨hevents, -⟩
    · rw [hevents] at hmem
      rcases List.mem_append.1 hmem with hmem | hmem
      · exact hold hmem
      · -- a refusal proves nothing about a step
        rw [List.mem_singleton.1 hmem]
        exact ⟨job, by rw [haccept.jobs]; simp, hid.symm, by rw [heq]; exact trivial⟩
    · rw [hevents] at hmem
      exact hold hmem

end Fleet

end Payday.Signers
