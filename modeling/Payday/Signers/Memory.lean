/-
# What an executor remembers is true

Between two commits an executor works on what it read and on what it computed from it.  Rows are
never deleted and what identifies them never changes, so what it remembers stays true of the
schema, whatever the other executors commit meanwhile: its slots exist with their jobs and
attempts, the bytes it is about to send are stored, and the event it is about to publish is a
conclusion of the job at hand.
-/
import Payday.Signers.OneSlot

namespace Payday.Signers

variable {W : ChainWorker} {db db' : Execution}

/-- Rows are kept, with what identifies them. -/
structure Grows (db db' : Execution) : Prop where
  jobs : ∀ job ∈ db.jobs.rows, ∃ job' ∈ db'.jobs.rows, job'.id = job.id ∧ job'.command = job.command
  slots : ∀ slot ∈ db.transactions.rows, ∃ slot' ∈ db'.transactions.rows, slot.Same slot'
  attempts : ∀ row ∈ db.attempts.rows, ∃ row' ∈ db'.attempts.rows, row.Same row'

lemma Grows.refl (db : Execution) : Grows db db where
  jobs := fun job h => ⟨job, h, rfl, rfl⟩
  slots := fun slot h => ⟨slot, h, Slot.Same.refl slot⟩
  attempts := fun row h => ⟨row, h, AttemptRow.Same.refl row⟩

lemma Quiet.grows (h : Quiet db db') : Grows db db' where
  jobs := fun job hjob => by
    obtain ⟨job', hjob', hsame⟩ := h.job_after hjob
    exact ⟨job', hjob', hsame.id, hsame.command⟩
  slots := fun _ hslot => h.slot_after hslot
  attempts := fun _ hrow => h.attempt_after hrow

lemma Stores.grows {id : TransactionId} {attempt : Attempt} (h : Stores db db' id attempt) :
    Grows db db' where
  jobs := fun job hjob => ⟨job, by rwa [h.jobs], rfl, rfl⟩
  slots := fun slot hslot => ⟨slot, by rwa [h.slots], Slot.Same.refl slot⟩
  attempts := fun row hrow =>
    ⟨row, by rw [h.attempts]; exact List.mem_append_left _ hrow, AttemptRow.Same.refl row⟩

lemma Opens.grows {slot : Slot} {attempt : Attempt} (h : Opens db db' slot attempt) :
    Grows db db' where
  jobs := by
    intro job hjob
    rw [h.jobs]
    refine ⟨_, List.mem_map_of_mem hjob, ?_⟩
    split <;> exact ⟨rfl, rfl⟩
  slots := fun slot hslot =>
    ⟨slot, by rw [h.slots]; exact List.mem_append_left _ hslot, Slot.Same.refl slot⟩
  attempts := fun row hrow =>
    ⟨row, by rw [h.attempts]; exact List.mem_append_left _ hrow, AttemptRow.Same.refl row⟩

lemma Concludes.grows {jobId : JobId} {event : ExecutionEvent} {origin : Origin}
    (h : Concludes db db' jobId event origin) : Grows db db' where
  jobs := by
    obtain ⟨conclusion, now, hrows⟩ := h.jobs
    intro job hjob
    rw [hrows]
    refine ⟨_, List.mem_map_of_mem hjob, ?_⟩
    split <;> exact ⟨rfl, rfl⟩
  slots := fun slot hslot => ⟨slot, by rwa [h.slots], Slot.Same.refl slot⟩
  attempts := fun row hrow => ⟨row, by rwa [h.attempts], AttemptRow.Same.refl row⟩

lemma Grows.trans {db'' : Execution} (h : Grows db db') (h' : Grows db' db'') : Grows db db'' where
  jobs := by
    intro job hjob
    obtain ⟨job₁, hjob₁, hid, hcommand⟩ := h.jobs job hjob
    obtain ⟨job₂, hjob₂, hid', hcommand'⟩ := h'.jobs job₁ hjob₁
    exact ⟨job₂, hjob₂, hid'.trans hid, hcommand'.trans hcommand⟩
  slots := by
    intro slot hslot
    obtain ⟨slot₁, hslot₁, hsame⟩ := h.slots slot hslot
    obtain ⟨slot₂, hslot₂, hsame'⟩ := h'.slots slot₁ hslot₁
    exact ⟨slot₂, hslot₂, hsame.trans hsame'⟩
  attempts := by
    intro row hrow
    obtain ⟨row₁, hrow₁, hsame⟩ := h.attempts row hrow
    obtain ⟨row₂, hrow₂, hsame'⟩ := h'.attempts row₁ hrow₁
    exact ⟨row₂, hrow₂, hsame'.transactionId.trans hsame.transactionId,
      hsame'.txHash.trans hsame.txHash, hsame'.rawTransaction.trans hsame.rawTransaction⟩

lemma Change.grows {task : Task} (h : Change task db db') : Grows db db' := by
  cases h with
  | quiet h => exact h.grows
  | stores t attempt _ h => exact h.grows
  | opens job new rest now id _ h => exact h.grows
  | concludes jobId event origin db₁ _ hquiet h => exact hquiet.grows.trans h.grows

/-- A step of a task makes no new job. -/
lemma Change.job_before {task : Task} (h : Change task db db') {job' : Job}
    (hjob' : job' ∈ db'.jobs.rows) :
    ∃ job ∈ db.jobs.rows, job'.id = job.id ∧ job'.command = job.command := by
  cases h with
  | quiet h =>
    obtain ⟨job, hjob, hsame⟩ := h.job_before hjob'
    exact ⟨job, hjob, hsame.id, hsame.command⟩
  | stores t attempt _ h =>
    rw [h.jobs] at hjob'
    exact ⟨job', hjob', rfl, rfl⟩
  | opens job new rest now id _ h =>
    rw [h.jobs] at hjob'
    obtain ⟨job₀, hjob₀, rfl⟩ := List.mem_map.1 hjob'
    refine ⟨job₀, hjob₀, ?_⟩
    split <;> exact ⟨rfl, rfl⟩
  | concludes jobId event origin db₁ _ hquiet h =>
    obtain ⟨conclusion, now, hrows⟩ := h.jobs
    rw [hrows] at hjob'
    obtain ⟨job₁, hjob₁, rfl⟩ := List.mem_map.1 hjob'
    obtain ⟨job, hjob, hsame⟩ := hquiet.job_before hjob₁
    refine ⟨job, hjob, ?_⟩
    split <;> exact ⟨hsame.id, hsame.command⟩

lemma Fleet.Accepts.grows {job : Job} (h : Fleet.Accepts db db' job) : Grows db db' where
  jobs := fun other hother =>
    ⟨other, by rw [h.jobs]; exact List.mem_append_left _ hother, rfl, rfl⟩
  slots := fun slot hslot => ⟨slot, by rwa [h.slots], Slot.Same.refl slot⟩
  attempts := fun row hrow => ⟨row, by rwa [h.attempts], AttemptRow.Same.refl row⟩

/-! ### Remembered rows -/

/-- The job is in the schema. -/
def JobKnown (db : Execution) (job : Job) : Prop :=
  ∃ row ∈ db.jobs.rows, row.id = job.id ∧ row.command = job.command

/-- The attempt's hash and bytes are stored under the slot. -/
def Stored (db : Execution) (id : TransactionId) (attempt : Attempt) : Prop :=
  ∃ row ∈ db.attempts.rows, row.transactionId = id ∧ row.attempt.txHash = attempt.txHash ∧
    row.attempt.rawTransaction = attempt.rawTransaction

/-- The slot is in the schema with its job and its attempts. -/
structure Known (W : ChainWorker) (db : Execution) (t : OpenTransaction) : Prop where
  slot : ∃ slot ∈ db.transactions.rows, t.slot.Same slot
  job : JobKnown db t.job
  jobId : t.slot.jobId = t.job.id
  target : t.slot.target = W.target t.job.command
  chainId : t.slot.chainId = W.config.chainId
  attempts : ∀ attempt ∈ t.attempts, Stored db t.slot.id attempt

lemma JobKnown.grows {job : Job} (hk : JobKnown db job) (h : Grows db db') : JobKnown db' job := by
  obtain ⟨row, hrow, hid, hcommand⟩ := hk
  obtain ⟨row', hrow', hid', hcommand'⟩ := h.jobs row hrow
  exact ⟨row', hrow', hid'.trans hid, hcommand'.trans hcommand⟩

lemma Stored.grows {id : TransactionId} {attempt : Attempt} (hk : Stored db id attempt)
    (h : Grows db db') : Stored db' id attempt := by
  obtain ⟨row, hrow, hid, hhash, hraw⟩ := hk
  obtain ⟨row', hrow', hsame⟩ := h.attempts row hrow
  exact ⟨row', hrow', hsame.transactionId.trans hid, hsame.txHash.trans hhash,
    hsame.rawTransaction.trans hraw⟩

lemma Known.grows {t : OpenTransaction} (hk : Known W db t) (h : Grows db db') : Known W db' t where
  slot := by
    obtain ⟨slot, hslot, hsame⟩ := hk.slot
    obtain ⟨slot', hslot', hsame'⟩ := h.slots slot hslot
    exact ⟨slot', hslot', hsame.trans hsame'⟩
  job := hk.job.grows h
  jobId := hk.jobId
  target := hk.target
  chainId := hk.chainId
  attempts := fun attempt ha => (hk.attempts attempt ha).grows h

/-- The attempt's bytes carry the slot's lane, nonce, target and gas limit and the job's input, and
have the attempt's hash. -/
structure Fits (W : ChainWorker) (slot : Slot) (command : ExecutionCommand) (attempt : Attempt) :
    Prop where
  signer : attempt.rawTransaction.signer = slot.signer
  chainId : attempt.rawTransaction.chainId = slot.chainId
  nonce : attempt.rawTransaction.nonce = slot.nonce
  target : attempt.rawTransaction.target = slot.target
  gasLimit : attempt.rawTransaction.gasLimit = slot.gasLimit
  calldata : attempt.rawTransaction.calldata = W.calldata command
  txHash : attempt.txHash = W.keccak attempt.rawTransaction

/-- The event says that nothing was sent for its job. -/
def ExecutionEvent.nothingSent : ExecutionEvent → Bool
  | sweepAbandoned _ _ (.rejected _) => true
  | withdrawalStepFinalized _ _ _ _ .expired => true
  | withdrawalStepFinalized _ _ _ _ (.abandoned (.rejected _)) => true
  | executionRejected .. => true
  | _ => false

/-- What a task relies on. -/
def Task.Good (W : ChainWorker) (db : Execution) : Task → Prop
  | reconcile t | recordMined t _ _ | onMined t _ _ | clearMined t => Known W db t
  | resolve t _ _ event => Known W db t ∧ event.jobId = t.job.id ∧ event.isTerminal = true ∧
      event.nothingSent = false
  | reportStall t resend => Known W db t ∧ ∀ attempt, resend = some attempt →
      Stored db t.slot.id attempt
  | insertAttempt t attempt => Known W db t ∧ Fits W t.slot t.job.command attempt
  | touch t attempt | broadcast t attempt | markBroadcast t attempt =>
      Known W db t ∧ Stored db t.slot.id attempt
  | start job _ | fail job _ _ | deferJob job _ _ => JobKnown db job
  | conclude job event _ | rejectJob job event _ =>
      JobKnown db job ∧ event.jobId = job.id ∧ event.isTerminal = true
  | beginTransaction job new _ => JobKnown db job ∧ new.jobId = job.id ∧
      new.chainId = W.config.chainId ∧ new.target = W.target job.command ∧
      new.calldata = ChainWorker.slotCalldata job.command ∧
      ∀ now id, Fits W (new.slot now id) job.command new.attempt

/-- What comes next relies on true facts. -/
def Next.Good (W : ChainWorker) (db : Execution) : Next → Prop
  | .go task => task.Good W db
  | .returned job => JobKnown db job
  | .finished | .released _ => True

lemma Task.Good.grows {task : Task} (hg : task.Good W db) (h : Grows db db') : task.Good W db' := by
  cases task with
  | reconcile t => exact Known.grows hg h
  | recordMined t _ _ => exact Known.grows hg h
  | onMined t _ _ => exact Known.grows hg h
  | clearMined t => exact Known.grows hg h
  | resolve t _ _ event => exact ⟨hg.1.grows h, hg.2⟩
  | reportStall t resend => exact ⟨hg.1.grows h, fun a ha => (hg.2 a ha).grows h⟩
  | insertAttempt t attempt => exact ⟨hg.1.grows h, hg.2⟩
  | touch t attempt => exact ⟨hg.1.grows h, hg.2.grows h⟩
  | broadcast t attempt => exact ⟨hg.1.grows h, hg.2.grows h⟩
  | markBroadcast t attempt => exact ⟨hg.1.grows h, hg.2.grows h⟩
  | start job _ => exact JobKnown.grows hg h
  | fail job _ _ => exact JobKnown.grows hg h
  | deferJob job _ _ => exact JobKnown.grows hg h
  | conclude job event _ => exact ⟨hg.1.grows h, hg.2⟩
  | rejectJob job event _ => exact ⟨hg.1.grows h, hg.2⟩
  | beginTransaction job new _ => exact ⟨hg.1.grows h, hg.2⟩

/-! ### Decisions -/

lemma ChainWorker.prepare_fits {answers : Answers} {command : ExecutionCommand} {signer : Address}
    {nonce gasLimit number : ℕ} {fees : FeeEstimate} {attempt : Attempt}
    (h : W.prepare answers command signer nonce gasLimit fees number = .ok attempt) {slot : Slot}
    (hsigner : slot.signer = signer) (hchain : slot.chainId = W.config.chainId)
    (hnonce : slot.nonce = nonce) (htarget : slot.target = W.target command)
    (hgas : slot.gasLimit = gasLimit) : Fits W slot command attempt := by
  unfold ChainWorker.prepare at h
  dsimp only at h
  split at h
  · cases h
  · cases h
    exact ⟨hsigner.symm, hchain.symm, hnonce.symm, htarget.symm, hgas.symm, rfl, rfl⟩

open ChainWorker

/-- What `reconcile` decides on a known slot relies on true facts. -/
lemma ChainWorker.reconcile_good {answers : Answers} {now : Time} {t : OpenTransaction}
    {newest : Attempt} {action : Action} (h : W.reconcile answers now t newest = .ok action)
    (ht : Known W db t) (hnewest : newest ∈ t.attempts) : (action.next t).Good W db := by
  have hstored := ht.attempts newest hnewest
  -- a receipt leads to `on_mined`
  have hmined : ∀ txHash receipt, ((Action.onMined txHash receipt).next t).Good W db := by
    intro txHash receipt
    simp only [Action.next]
    split <;> exact ht
  unfold ChainWorker.reconcile at h
  split at h
  · cases h
  · cases h
    exact hmined _ _
  split at h
  · cases h
    exact ⟨ht, hstored⟩
  split at h
  · cases h
    exact trivial
  split at h
  · cases h
  split at h
  · split at h
    · cases h
    · cases h
      exact hmined _ _
    · -- the nonce is consumed
      unfold ChainWorker.onNonceConsumed at h
      split at h
      · split at h
        · cases h
        split at h
        · cases h
          exact ⟨ht, by simp⟩
        split at h
        · cases h
        · cases h
          exact ⟨ht, rfl, rfl, rfl⟩
        · cases h
          exact ⟨ht, by simp⟩
      · rename_i command hcommand
        cases h
        refine ⟨ht, ?_⟩
        simp only [abandonEvent, hcommand]
        exact ⟨rfl, rfl, rfl⟩
  split at h
  · cases h
    refine ⟨ht, ?_⟩
    rintro attempt hattempt
    cases hattempt
    exact hstored
  split at h
  · cases h
  split at h
  · cases h
  · rename_i attempt hprepare
    cases h
    exact ⟨ht, prepare_fits hprepare rfl ht.chainId rfl ht.target rfl⟩

/-- What `on_mined` decides on a known slot relies on true facts. -/
lemma ChainWorker.onMined_good {answers : Answers} {t : OpenTransaction} {txHash : Hash}
    {receipt : Receipt} {finality : Finality} (h : W.onMined answers t txHash receipt = .ok finality)
    (ht : Known W db t) : (finality.next t).Good W db := by
  unfold ChainWorker.onMined at h
  split at h
  · cases h
  split at h
  · cases h
    exact trivial
  split at h
  · cases h
  split at h
  · cases h
    exact ht
  split at h
  · -- a sweep
    unfold ChainWorker.finalizeSweep at h
    split at h
    · cases h
      exact ⟨ht, rfl, rfl, rfl⟩
    split at h
    · cases h
    split at h
    · cases h
    split at h
    · cases h
      exact ht
    · cases h
      exact ⟨ht, rfl, rfl, rfl⟩
  · -- a withdrawal step
    unfold ChainWorker.finalizeStep at h
    split at h
    · cases h
      exact ⟨ht, rfl, rfl, rfl⟩
    split at h
    · cases h
      exact ⟨ht, rfl, rfl, rfl⟩
    split at h
    · cases h
    · cases h
      exact ⟨ht, rfl, rfl, rfl⟩
    · cases h
      exact ⟨ht, rfl, rfl, rfl⟩
  · cases h
    exact trivial

lemma ChainWorker.nonceFree_event {answers : Answers} {seconds : ℕ} {job : Job}
    {event : ExecutionEvent} (h : W.nonceFree answers seconds job = .ok (some event)) :
    event.jobId = job.id ∧ event.isTerminal = true := by
  have hdeadline : ∀ {command : WithdrawalStepCommand} {p : Prop} [Decidable p],
      (if p then some (W.stepEvent job command .expired) else none) = some event →
        event.jobId = job.id ∧ event.isTerminal = true := by
    intro command p _ hif
    split at hif
    · cases hif
      exact ⟨rfl, rfl⟩
    · cases hif
  unfold ChainWorker.nonceFree at h
  split at h
  · cases h
  dsimp only at h
  split at h
  · exact hdeadline (Except.ok.inj h)
  split at h
  · cases h
  split at h
  · cases h
  · cases h
    exact ⟨rfl, rfl⟩
  · exact hdeadline (Except.ok.inj h)

/-- What `try_start` decides on a known job relies on true facts. -/
lemma ChainWorker.tryStart_good {answers : Answers} {seconds : ℕ} {job : Job} {lane : List Address}
    {action : StartAction} (h : W.tryStart answers seconds job lane = .ok action)
    (hjob : JobKnown db job) (lane' : List Address) : (action.next job lane').Good W db := by
  induction lane with
  | nil =>
    unfold ChainWorker.tryStart at h
    split at h
    · cases h
    · rename_i event hevent
      cases h
      exact ⟨hjob, nonceFree_event hevent⟩
    · cases h
      exact hjob
  | cons signer rest ih =>
    unfold ChainWorker.tryStart at h
    split at h
    · cases h
    · rename_i event hevent
      cases h
      exact ⟨hjob, nonceFree_event hevent⟩
    split at h
    · cases h
    · cases h
    split at h
    · split at h
      · cases h
        exact hjob
      · exact ih h
    split at h
    · cases h
    split at h
    · cases h
    split at h
    · cases h
    · rename_i attempt hprepare
      cases h
      exact ⟨hjob, rfl, rfl, rfl, rfl, fun now id => prepare_fits hprepare rfl rfl rfl rfl rfl⟩

lemma ChainWorker.onError_good (job : Job) (error : ExecutorError) (lane : List Address)
    (hjob : JobKnown db job) : ((W.onError job error).next job lane).Good W db := by
  unfold ChainWorker.onError
  split
  · exact hjob
  · refine ⟨hjob, ?_⟩
    unfold abandonEvent
    split <;> exact ⟨rfl, rfl⟩

end Payday.Signers
