/-
# What a step does to the execution schema

Every statement of the executors is of one of five kinds: it records progress, stores another
attempt, opens a slot, concludes a job, or accepts one.  The invariants of the schema are proved
once for each kind.
-/
import Payday.Signers.Passes

namespace Payday.Signers

/-! ### Progress -/

/-- The slot is the same, possibly further on: it is not opened again. -/
structure Slot.Same (slot slot' : Slot) : Prop where
  id : slot'.id = slot.id
  jobId : slot'.jobId = slot.jobId
  chainId : slot'.chainId = slot.chainId
  signer : slot'.signer = slot.signer
  nonce : slot'.nonce = slot.nonce
  target : slot'.target = slot.target
  calldata : slot'.calldata = slot.calldata
  gasLimit : slot'.gasLimit = slot.gasLimit
  isOpen : slot'.state.isOpen = true → slot.state.isOpen = true

lemma Slot.Same.refl (slot : Slot) : slot.Same slot := ⟨rfl, rfl, rfl, rfl, rfl, rfl, rfl, rfl, fun h => h⟩

lemma Slot.Same.trans {a b c : Slot} (h : a.Same b) (h' : b.Same c) : a.Same c where
  id := h'.id.trans h.id
  jobId := h'.jobId.trans h.jobId
  chainId := h'.chainId.trans h.chainId
  signer := h'.signer.trans h.signer
  nonce := h'.nonce.trans h.nonce
  target := h'.target.trans h.target
  calldata := h'.calldata.trans h.calldata
  gasLimit := h'.gasLimit.trans h.gasLimit
  isOpen := fun hc => h.isOpen (h'.isOpen hc)

/-- The job is the same, and as far as it was. -/
structure Job.Same (job job' : Job) : Prop where
  id : job'.id = job.id
  chainId : job'.chainId = job.chainId
  command : job'.command = job.command
  state : job'.state = job.state

lemma Job.Same.refl (job : Job) : job.Same job := ⟨rfl, rfl, rfl, rfl⟩

/-- The attempt is the same, possibly broadcast by now. -/
structure AttemptRow.Same (row row' : AttemptRow) : Prop where
  transactionId : row'.transactionId = row.transactionId
  txHash : row'.attempt.txHash = row.attempt.txHash
  rawTransaction : row'.attempt.rawTransaction = row.attempt.rawTransaction

lemma AttemptRow.Same.refl (row : AttemptRow) : row.Same row := ⟨rfl, rfl, rfl⟩

/-- Conclusions that were published, in order. -/
def Execution.conclusions (db : Execution) : List Publication :=
  db.events.filter (fun p => p.event.isTerminal)

/-- Progress is recorded: rows go on, and nothing is concluded. -/
structure Quiet (db db' : Execution) : Prop where
  jobs : ∃ f, db'.jobs.rows = db.jobs.rows.map f ∧ ∀ job, Job.Same job (f job)
  slots : ∃ f, db'.transactions.rows = db.transactions.rows.map f ∧ ∀ slot, Slot.Same slot (f slot)
  attempts : ∃ f, db'.attempts.rows = db.attempts.rows.map f ∧ ∀ row, AttemptRow.Same row (f row)
  conclusions : db'.conclusions = db.conclusions

namespace Quiet

variable {db db' db'' : Execution}

lemma refl (db : Execution) : Quiet db db where
  jobs := ⟨id, by simp, Job.Same.refl⟩
  slots := ⟨id, by simp, Slot.Same.refl⟩
  attempts := ⟨id, by simp, AttemptRow.Same.refl⟩
  conclusions := rfl

lemma trans (h : Quiet db db') (h' : Quiet db' db'') : Quiet db db'' := by
  obtain ⟨⟨j, hj, hjs⟩, ⟨s, hs, hss⟩, ⟨a, ha, has⟩, hc⟩ := h
  obtain ⟨⟨j', hj', hjs'⟩, ⟨s', hs', hss'⟩, ⟨a', ha', has'⟩, hc'⟩ := h'
  refine ⟨⟨j' ∘ j, by rw [hj', hj, List.map_map], fun job => ?_⟩,
    ⟨s' ∘ s, by rw [hs', hs, List.map_map], fun slot => (hss slot).trans (hss' (s slot))⟩,
    ⟨a' ∘ a, by rw [ha', ha, List.map_map], fun row => ?_⟩, hc'.trans hc⟩
  · have h₁ := hjs job
    have h₂ := hjs' (j job)
    exact ⟨h₂.id.trans h₁.id, h₂.chainId.trans h₁.chainId, h₂.command.trans h₁.command,
      h₂.state.trans h₁.state⟩
  · have h₁ := has row
    have h₂ := has' (a row)
    exact ⟨h₂.transactionId.trans h₁.transactionId, h₂.txHash.trans h₁.txHash,
      h₂.rawTransaction.trans h₁.rawTransaction⟩

/-- A job after the step was there before. -/
lemma job_before (h : Quiet db db') {job' : Job} (hjob : job' ∈ db'.jobs.rows) :
    ∃ job ∈ db.jobs.rows, job.Same job' := by
  obtain ⟨f, hrows, hsame⟩ := h.jobs
  rw [hrows] at hjob
  obtain ⟨job, hmem, rfl⟩ := List.mem_map.1 hjob
  exact ⟨job, hmem, hsame job⟩

lemma job_after (h : Quiet db db') {job : Job} (hjob : job ∈ db.jobs.rows) :
    ∃ job' ∈ db'.jobs.rows, job.Same job' := by
  obtain ⟨f, hrows, hsame⟩ := h.jobs
  exact ⟨f job, by rw [hrows]; exact List.mem_map_of_mem hjob, hsame job⟩

lemma slot_before (h : Quiet db db') {slot' : Slot} (hslot : slot' ∈ db'.transactions.rows) :
    ∃ slot ∈ db.transactions.rows, slot.Same slot' := by
  obtain ⟨f, hrows, hsame⟩ := h.slots
  rw [hrows] at hslot
  obtain ⟨slot, hmem, rfl⟩ := List.mem_map.1 hslot
  exact ⟨slot, hmem, hsame slot⟩

lemma slot_after (h : Quiet db db') {slot : Slot} (hslot : slot ∈ db.transactions.rows) :
    ∃ slot' ∈ db'.transactions.rows, slot.Same slot' := by
  obtain ⟨f, hrows, hsame⟩ := h.slots
  exact ⟨f slot, by rw [hrows]; exact List.mem_map_of_mem hslot, hsame slot⟩

lemma attempt_before (h : Quiet db db') {row' : AttemptRow} (hrow : row' ∈ db'.attempts.rows) :
    ∃ row ∈ db.attempts.rows, row.Same row' := by
  obtain ⟨f, hrows, hsame⟩ := h.attempts
  rw [hrows] at hrow
  obtain ⟨row, hmem, rfl⟩ := List.mem_map.1 hrow
  exact ⟨row, hmem, hsame row⟩

lemma attempt_after (h : Quiet db db') {row : AttemptRow} (hrow : row ∈ db.attempts.rows) :
    ∃ row' ∈ db'.attempts.rows, row.Same row' := by
  obtain ⟨f, hrows, hsame⟩ := h.attempts
  exact ⟨f row, by rw [hrows]; exact List.mem_map_of_mem hrow, hsame row⟩

/-- An update of slots that keeps what they are and opens none again. -/
lemma updateSlots {p : Slot → Bool} {f : Slot → Slot} (hf : ∀ slot, (f slot).id = slot.id)
    (h : ∀ slot, p slot = true → slot.Same (f slot)) : Quiet db (db.updateSlots p f hf) where
  jobs := ⟨id, by simp [Execution.updateSlots], Job.Same.refl⟩
  slots := by
    refine ⟨fun slot => if p slot then f slot else slot, rfl, fun slot => ?_⟩
    by_cases hp : p slot = true
    · simpa [hp] using h slot hp
    · simpa [hp] using Slot.Same.refl slot
  attempts := ⟨id, by simp [Execution.updateSlots], AttemptRow.Same.refl⟩
  conclusions := rfl

lemma updateJobs {p : Job → Bool} {f : Job → Job} (hf : ∀ job, (f job).id = job.id)
    (h : ∀ job, Job.Same job (f job)) : Quiet db (db.updateJobs p f hf) where
  jobs := by
    refine ⟨fun job => if p job then f job else job, rfl, fun job => ?_⟩
    by_cases hp : p job = true
    · simpa [hp] using h job
    · simpa [hp] using Job.Same.refl job
  slots := ⟨id, by simp [Execution.updateJobs], Slot.Same.refl⟩
  attempts := ⟨id, by simp [Execution.updateJobs], AttemptRow.Same.refl⟩
  conclusions := rfl

lemma recordMined (id : TransactionId) (mined : Mined) : Quiet db (db.recordMined id mined) := by
  refine updateSlots _ fun _ hp => ⟨rfl, rfl, rfl, rfl, rfl, rfl, rfl, rfl, fun _ => ?_⟩
  rw [Bool.and_eq_true] at hp
  exact hp.2

lemma clearMined (id : TransactionId) : Quiet db (db.clearMined id) := by
  refine updateSlots _ fun _ hp => ⟨rfl, rfl, rfl, rfl, rfl, rfl, rfl, rfl, fun _ => ?_⟩
  rw [Bool.and_eq_true] at hp
  exact hp.2

lemma resolveTransaction (id : TransactionId) (state : TxState) :
    Quiet db (db.resolveTransaction id state) := by
  refine updateSlots _ fun _ hp => ⟨rfl, rfl, rfl, rfl, rfl, rfl, rfl, rfl, fun _ => ?_⟩
  rw [Bool.and_eq_true] at hp
  exact hp.2

lemma touch (now : Time) (id : TransactionId) : Quiet db (db.touch now id) :=
  updateSlots _ fun _ _ => ⟨rfl, rfl, rfl, rfl, rfl, rfl, rfl, rfl, fun hopen => hopen⟩

lemma markStallReported (now : Time) (id : TransactionId) : Quiet db (db.markStallReported now id) :=
  updateSlots _ fun _ _ => ⟨rfl, rfl, rfl, rfl, rfl, rfl, rfl, rfl, fun hopen => hopen⟩

lemma markBroadcast (now : Time) (id : TransactionId) (number : ℕ) :
    Quiet db (db.markBroadcast now id number) := by
  have hattempts : Quiet db (db.updateAttempts
      (fun row => decide (row.transactionId = id ∧ row.attempt.replacementNumber = number))
      (fun row => { row with
        attempt := { row.attempt with broadcastAt := row.attempt.broadcastAt.or (some now) } })) := by
    refine ⟨⟨fun job => job, by simp [Execution.updateAttempts], Job.Same.refl⟩,
      ⟨fun slot => slot, by simp [Execution.updateAttempts], Slot.Same.refl⟩,
      ⟨_, rfl, fun row => ?_⟩, rfl⟩
    dsimp only
    split
    · exact ⟨rfl, rfl, rfl⟩
    · exact AttemptRow.Same.refl row
  refine hattempts.trans (updateSlots _ fun _ _ =>
    ⟨rfl, rfl, rfl, rfl, rfl, rfl, rfl, rfl, fun hopen => ?_⟩)
  -- a prepared slot is open, and any other one keeps its state
  dsimp only at hopen
  split at hopen
  · rename_i hprepared
    rw [hprepared]
    rfl
  · exact hopen

lemma publish {event : ExecutionEvent} {origin : Origin} (hevent : event.isTerminal = false)
    (h : db.publish event origin = .ok db') : Quiet db db' := by
  unfold Execution.publish at h
  split at h
  · split at h
    · cases h
      exact refl db
    · cases h
  · cases h
    refine ⟨⟨id, by simp, Job.Same.refl⟩, ⟨id, by simp, Slot.Same.refl⟩,
      ⟨id, by simp, AttemptRow.Same.refl⟩, ?_⟩
    simp [Execution.conclusions, List.filter_append, hevent]

lemma deferJob {jobId : JobId} {nextAttemptAt : Time} {error : String}
    (h : db.deferJob jobId nextAttemptAt error = .ok db') : Quiet db db' := by
  unfold Execution.deferJob at h
  split at h
  · cases h
  · cases h
    exact updateJobs _ fun job => ⟨rfl, rfl, rfl, rfl⟩

lemma reportStall {W : ChainWorker} {now : Time} {t : OpenTransaction}
    (h : W.reportStall db now t = .ok db') : Quiet db db' := by
  unfold ChainWorker.reportStall at h
  split at h
  · cases h
  · rename_i db₁ hpublish
    cases h
    exact (publish rfl hpublish).trans (markStallReported now t.slot.id)

lemma recordBroadcast {W : ChainWorker} {now : Time} {t : OpenTransaction} {attempt : Attempt}
    (h : W.recordBroadcast db now t attempt = .ok db') : Quiet db db' := by
  have hmark : Quiet db (db.markBroadcast now t.slot.id attempt.replacementNumber) :=
    markBroadcast now t.slot.id attempt.replacementNumber
  unfold ChainWorker.recordBroadcast at h
  dsimp only at h
  split at h
  · exact hmark.trans (publish rfl h)
  · cases h
    exact hmark

end Quiet

/-! ### Attempts and slots -/

/-- An attempt is stored under a slot. -/
structure Stores (db db' : Execution) (id : TransactionId) (attempt : Attempt) : Prop where
  attempts : db'.attempts.rows = db.attempts.rows ++ [⟨id, attempt⟩]
  jobs : db'.jobs = db.jobs
  slots : db'.transactions = db.transactions
  events : db'.events = db.events

lemma Stores.of_insertAttemptRow {db db' : Execution} {id : TransactionId} {attempt : Attempt}
    (h : db.insertAttemptRow id attempt = .ok db') : Stores db db' id attempt := by
  unfold Execution.insertAttemptRow at h
  split at h
  · cases h
  · split at h
    · rename_i attempts hinsert
      cases h
      exact ⟨(Table.insert?_eq_some_iff.1 hinsert).2, rfl, rfl, rfl⟩
    · cases h

/-- A slot is opened for a job, with its first attempt. -/
structure Opens (db db' : Execution) (slot : Slot) (attempt : Attempt) : Prop where
  slots : db'.transactions.rows = db.transactions.rows ++ [slot]
  attempts : db'.attempts.rows = db.attempts.rows ++ [⟨slot.id, attempt⟩]
  events : db'.events = db.events
  /-- A queued job is executing now. -/
  jobs : db'.jobs.rows = db.jobs.rows.map fun job =>
    if job.id = slot.jobId ∧ job.state = .queued then { job with state := .executing } else job
  /-- The job exists. -/
  job : ∃ job ∈ db.jobs.rows, job.id = slot.jobId
  /-- The lane was free. -/
  lane : ∀ other ∈ db.transactions.rows, other.chainId = slot.chainId → other.signer = slot.signer →
    other.state.isOpen = false
  new : ∀ other ∈ db.transactions.rows, other.id ≠ slot.id

lemma Opens.of_beginTransaction {db db' : Execution} {now : Time} {id : TransactionId}
    {new : Execution.NewTransaction} (h : db.beginTransaction now id new = .ok db') :
    Opens db db' (new.slot now id) new.attempt := by
  unfold Execution.beginTransaction at h
  split at h
  · cases h
  split at h
  · cases h
  rename_i hlane
  split at h
  · cases h
  split at h
  · cases h
  rename_i hjob
  split at h
  · cases h
  rename_i transactions hinsert
  split at h
  · cases h
  rename_i db₁ hattempt
  cases h
  obtain ⟨hnew, hrows⟩ := Table.insert?_eq_some_iff.1 hinsert
  have hstores := Stores.of_insertAttemptRow hattempt
  refine ⟨?_, hstores.attempts, hstores.events, ?_, ?_, ?_, ?_⟩
  · show db₁.transactions.rows = _
    rw [hstores.slots]
    exact hrows
  · have hjobs : db₁.jobs = db.jobs := hstores.jobs
    rw [Execution.updateJobs, Table.rows_updateWhere, hjobs]
    refine List.map_congr_left fun job _ => ?_
    by_cases hqueued : job.id = new.jobId ∧ job.state = .queued
    · simp [Execution.NewTransaction.slot, hqueued]
    · simp [Execution.NewTransaction.slot, hqueued]
  · simpa [Execution.NewTransaction.slot] using hjob
  · intro other hother hchain hsigner
    refine Bool.eq_false_iff.2 fun hopen => hlane (List.any_eq_true.2 ⟨other, hother, ?_⟩)
    rw [Bool.and_eq_true, decide_eq_true_eq]
    exact ⟨⟨hchain, hsigner⟩, hopen⟩
  · intro other hother heq
    exact hnew (by rw [← heq]; exact List.mem_map_of_mem hother)

/-! ### Conclusions -/

/-- An open job is closed, and its conclusion published in the same transaction. -/
structure Concludes (db db' : Execution) (jobId : JobId) (event : ExecutionEvent) (origin : Origin) :
    Prop where
  jobs : ∃ conclusion now, db'.jobs.rows = db.jobs.rows.map fun job =>
    if job.id = jobId ∧ job.state.isOpen = true then
      { job with state := .resolved conclusion now event } else job
  slots : db'.transactions = db.transactions
  attempts : db'.attempts = db.attempts
  job : ∃ job ∈ db.jobs.rows, job.id = jobId ∧ job.state.isOpen = true
  events : db'.events = db.events ++ [⟨event, origin⟩] ∨ (db'.events = db.events ∧
    ∃ p ∈ db.events, p.event.deduplicationKey = event.deduplicationKey)

/-- Concluding a job closes it if it is open, and does nothing otherwise. -/
lemma concludeJob_cases {db db' : Execution} {now : Time} {jobId : JobId} {conclusion : Conclusion}
    {event : ExecutionEvent} {origin : Origin}
    (h : db.concludeJob now jobId conclusion event origin = .ok db') :
    Quiet db db' ∨ Concludes db db' jobId event origin := by
  unfold Execution.concludeJob at h
  split at h
  · rename_i db₁ hresolve
    obtain ⟨hdb, hany⟩ := Prod.mk.inj hresolve
    obtain ⟨job, hjob, hopen⟩ := List.any_eq_true.1 hany
    rw [Bool.and_eq_true, decide_eq_true_eq] at hopen
    have hjobs : ∃ conclusion now, db₁.jobs.rows = db.jobs.rows.map fun job =>
        if job.id = jobId ∧ job.state.isOpen = true then
          { job with state := .resolved conclusion now event } else job := by
      refine ⟨conclusion, now, ?_⟩
      rw [← hdb]
      refine List.map_congr_left fun job _ => ?_
      simp
    unfold Execution.publish at h
    split at h
    · rename_i p hp
      split at h
      · cases h
        refine Or.inr ⟨hjobs, by rw [← hdb]; rfl, by rw [← hdb]; rfl, ⟨job, hjob, hopen⟩,
          Or.inr ⟨by rw [← hdb]; rfl, p, ?_, by simpa using List.find?_some hp⟩⟩
        rw [← hdb] at hp
        exact List.mem_of_find?_eq_some hp
      · cases h
    · cases h
      refine Or.inr ⟨hjobs, by rw [← hdb]; rfl, by rw [← hdb]; rfl, ⟨job, hjob, hopen⟩, Or.inl ?_⟩
      rw [← hdb]
      rfl
  · rename_i db₁ hresolve
    cases h
    obtain ⟨hdb, hany⟩ := Prod.mk.inj hresolve
    -- no row qualified
    left
    have hself : db.jobs.updateWhere (fun job => decide (job.id = jobId) && job.state.isOpen)
        (fun job => { job with state := .resolved conclusion now event }) = db.jobs := by
      refine Table.updateWhere_eq_self _ fun job hjob => ?_
      exact Bool.eq_false_iff.2 fun hp => Bool.eq_false_iff.1 hany (List.any_eq_true.2 ⟨job, hjob, hp⟩)
    rw [← hdb, Execution.updateJobs, hself]
    exact Quiet.refl db

/-! ### Steps -/

/-- The job that the task is about to conclude, with the event and where it comes from. -/
def Task.conclusion : Task → Option (JobId × ExecutionEvent × Origin)
  | resolve t _ _ event => some (t.job.id, event, .reconciling)
  | conclude job event _ => some (job.id, event, .starting)
  | rejectJob job event _ => some (job.id, event, .starting)
  | _ => none

/-- What one step of a task does to the schema. -/
inductive Change (task : Task) (db db' : Execution) : Prop
  | quiet (h : Quiet db db')
  | stores (t : OpenTransaction) (attempt : Attempt) (htask : task = .insertAttempt t attempt)
      (h : Stores db db' t.slot.id attempt)
  | opens (job : Job) (new : Execution.NewTransaction) (rest : List Address) (now : Time)
      (id : TransactionId) (htask : task = .beginTransaction job new rest)
      (h : Opens db db' (new.slot now id) new.attempt)
  | concludes (jobId : JobId) (event : ExecutionEvent) (origin : Origin) (db₁ : Execution)
      (htask : task.conclusion = some (jobId, event, origin)) (hquiet : Quiet db db₁)
      (h : Concludes db₁ db' jobId event origin)

lemma ChainWorker.TaskStep.change {W : ChainWorker} {db db' : Execution}
    {sent sent' : List SignedTransaction} {task : Task} {next : Next}
    (h : W.TaskStep db sent task db' sent' next) : Change task db db' := by
  cases h with
  | reconcile => exact .quiet (Quiet.refl db)
  | recordMined t txHash receipt => exact .quiet (Quiet.recordMined _ _)
  | onMined => exact .quiet (Quiet.refl db)
  | clearMined t => exact .quiet (Quiet.clearMined _)
  | resolve t conclusion state event now _ h =>
    have hclose : Quiet db (db.resolveTransaction t.slot.id state) := Quiet.resolveTransaction _ _
    rcases concludeJob_cases h with hquiet | hconclude
    · exact .quiet (hclose.trans hquiet)
    · exact .concludes _ _ _ _ rfl hclose hconclude
  | reportStall t resend now _ new h => exact .quiet (Quiet.reportStall h)
  | stallReported => exact .quiet (Quiet.refl db)
  | insertAttempt t attempt _ h => exact .stores t attempt rfl (Stores.of_insertAttemptRow h)
  | touch t attempt now => exact .quiet (Quiet.touch _ _)
  | broadcast => exact .quiet (Quiet.refl db)
  | broadcastUncertain => exact .quiet (Quiet.refl db)
  | markBroadcast t attempt now _ h => exact .quiet (Quiet.recordBroadcast h)
  | start => exact .quiet (Quiet.refl db)
  | startFailed => exact .quiet (Quiet.refl db)
  | conclude job event lane now _ h =>
    rcases concludeJob_cases h with hquiet | hconclude
    · exact .quiet hquiet
    · exact .concludes _ _ _ _ rfl (Quiet.refl db) hconclude
  | concludeFailed => exact .quiet (Quiet.refl db)
  | beginTransaction job new rest now id _ h =>
    exact .opens job new rest now id rfl (Opens.of_beginTransaction h)
  | beginFailed => exact .quiet (Quiet.refl db)
  | fail => exact .quiet (Quiet.refl db)
  | deferJob job error lane nextAttemptAt _ h => exact .quiet (Quiet.deferJob h)
  | rejectJob job event lane now _ h =>
    rcases concludeJob_cases h with hquiet | hconclude
    · exact .quiet hquiet
    · exact .concludes _ _ _ _ rfl (Quiet.refl db) hconclude
  | stop => exact .quiet (Quiet.refl db)

namespace Fleet

variable {W : ChainWorker} {f f' : Fleet}

/-- The task is in the memory of executor `w`. -/
def Holds (f : Fleet) (w : ℕ) (task : Task) : Prop :=
  (∃ rest, f.passes w = .reconciling (some task) rest) ∨
    (∃ pending free before after, f.passes w = .starting pending free (before ++ task :: after)) ∨
    ∃ rest, f.passes w = .draining (some task) rest

/-- A step of an executor leaves the schema and the bytes alone, or is a step of one of its tasks. -/
lemma WorkerStep.change {w : ℕ} (h : WorkerStep W w f f') : (f'.db = f.db ∧ f'.sent = f.sent) ∨
    ∃ task next, f.Holds w task ∧ W.TaskStep f.db f.sent task f'.db f'.sent next := by
  cases h with
  | reconcile task rest db sent next h hstep =>
    exact Or.inr ⟨task, next, Or.inl ⟨rest, h⟩, hstep⟩
  | run pending free before after task db sent next h hstep =>
    exact Or.inr ⟨task, next, Or.inr (Or.inl ⟨pending, free, before, after, h⟩), hstep⟩
  | runDrained task rest db sent next h hstep =>
    exact Or.inr ⟨task, next, Or.inr (Or.inr ⟨rest, h⟩), hstep⟩
  | _ => exact Or.inl ⟨rfl, rfl⟩

/-- A job is accepted, or refused with its event. -/
structure Accepts (db db' : Execution) (job : Job) : Prop where
  jobs : db'.jobs.rows = db.jobs.rows ++ [job]
  id : job.id = job.command.jobId
  new : ∀ other ∈ db.jobs.rows, other.id ≠ job.id
  slots : db'.transactions = db.transactions
  attempts : db'.attempts = db.attempts
  events : (job.state = .queued ∧ db'.events = db.events) ∨ ∃ conclusion now event,
    job.state = .resolved conclusion now event ∧ event.jobId = job.id ∧ event.isTerminal = true ∧
      (∃ chainId reason, event = .executionRejected job.id chainId reason) ∧
      (db'.events = db.events ++ [⟨event, .accepting⟩] ∨ (db'.events = db.events ∧
        ∃ p ∈ db.events, p.event.deduplicationKey = event.deduplicationKey))

lemma insertJob_cases (db : Execution) (now : Time) (command : ExecutionCommand) (state : JobState) :
    (db.insertJob now command state = (db, false)) ∨ ∃ jobs, db.insertJob now command state =
        ({ db with jobs := jobs }, true) ∧ jobs.rows = db.jobs.rows ++
          [⟨command.jobId, command.chainId, command, state, 0, now, none, now⟩] ∧
        ∀ other ∈ db.jobs.rows, other.id ≠ command.jobId := by
  unfold Execution.insertJob
  split
  · rename_i jobs hinsert
    obtain ⟨hnew, hrows⟩ := Table.insert?_eq_some_iff.1 hinsert
    refine Or.inr ⟨jobs, rfl, hrows, fun other hother heq => hnew ?_⟩
    exact List.mem_map.2 ⟨other, hother, heq⟩
  · exact Or.inl rfl

lemma HandlerStep.change (h : HandlerStep f f') : f'.sent = f.sent ∧ f'.passes = f.passes ∧
    (f'.db = f.db ∨ ∃ job, Accepts f.db f'.db job) := by
  cases h with
  | accept now command =>
    refine ⟨rfl, rfl, ?_⟩
    rcases insertJob_cases f.db now command .queued with h | ⟨jobs, h, hrows, hnew⟩
    · left
      rw [h]
    · right
      rw [h]
      exact ⟨_, hrows, rfl, hnew, rfl, rfl, Or.inl ⟨rfl, rfl⟩⟩
  | refuse now command reason db db' hinsert h =>
    refine ⟨rfl, rfl, Or.inr ?_⟩
    rcases insertJob_cases f.db now command (.resolved .rejected now
      (.executionRejected command.jobId command.chainId reason)) with hno | ⟨jobs, hyes, hrows, hnew⟩
    · rw [hno] at hinsert
      cases hinsert
    · rw [hyes] at hinsert
      cases hinsert
      unfold Execution.publish at h
      split at h
      · rename_i p hp
        split at h
        · cases h
          refine ⟨_, hrows, rfl, hnew, rfl, rfl,
            Or.inr ⟨_, _, _, rfl, rfl, rfl, ⟨_, _, rfl⟩, Or.inr ⟨rfl, p, ?_, ?_⟩⟩⟩
          · exact List.mem_of_find?_eq_some hp
          · simpa using List.find?_some hp
        · cases h
      · cases h
        exact ⟨_, hrows, rfl, hnew, rfl, rfl, Or.inr ⟨_, _, _, rfl, rfl, rfl, ⟨_, _, rfl⟩, Or.inl rfl⟩⟩

end Fleet

end Payday.Signers
