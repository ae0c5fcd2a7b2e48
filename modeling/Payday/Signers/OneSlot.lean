/-
# One open transaction per job

Several executors may run passes on one chain at once.  The unique indexes keep a signer from two
open slots and a nonce from two uses; nothing but the job's state keeps a job from two slots, and
`begin_transaction` does not look whether its update of the state touched a row.  As long as a slot
is only opened for a job that is still queued, a job has one slot at most.  A start whose view of
the queue is stale while its view of the busy signers is fresh opens a second one.
-/
import Payday.Signers.Changes

namespace Payday.Signers

/-- A job that has a slot is not queued. -/
def Slotted (db : Execution) : Prop :=
  ∀ slot ∈ db.transactions.rows, ∃ job ∈ db.jobs.rows, job.id = slot.jobId ∧ job.state ≠ .queued

namespace Slotted

variable {db db' : Execution}

/-- A queued job has no slot. -/
lemma free (h : Slotted db) {job : Job} (hjob : job ∈ db.jobs.rows) (hqueued : job.state = .queued) :
    ∀ slot ∈ db.transactions.rows, slot.jobId ≠ job.id := by
  intro slot hslot heq
  obtain ⟨job', hjob', hid, hstate⟩ := h slot hslot
  have hsame : job' = job := db.jobs.eq_of_key_eq hjob' hjob (hid.trans heq)
  exact hstate (by rw [hsame, hqueued])

/-- The slots stay, and jobs only move away from `queued`. -/
lemma of_jobs (h : Slotted db) (hslots : db'.transactions.rows = db.transactions.rows)
    (hjobs : ∀ job ∈ db.jobs.rows, job.state ≠ .queued →
      ∃ job' ∈ db'.jobs.rows, job'.id = job.id ∧ job'.state ≠ .queued) : Slotted db' := by
  intro slot hslot
  rw [hslots] at hslot
  obtain ⟨job, hjob, hid, hstate⟩ := h slot hslot
  obtain ⟨job', hjob', hid', hstate'⟩ := hjobs job hjob hstate
  exact ⟨job', hjob', hid'.trans hid, hstate'⟩

lemma quiet (h : Slotted db) (hq : Quiet db db') : Slotted db' := by
  intro slot' hslot'
  obtain ⟨slot, hslot, hsame⟩ := hq.slot_before hslot'
  obtain ⟨job, hjob, hid, hstate⟩ := h slot hslot
  obtain ⟨job', hjob', hjobSame⟩ := hq.job_after hjob
  exact ⟨job', hjob', by rw [hjobSame.id, hid, hsame.jobId], by rwa [hjobSame.state]⟩

lemma opens {slot : Slot} {attempt : Attempt} (h : Slotted db) (ho : Opens db db' slot attempt) :
    Slotted db' := by
  intro slot' hslot'
  rw [ho.slots] at hslot'
  rw [ho.jobs]
  rcases List.mem_append.1 hslot' with hslot' | hslot'
  · obtain ⟨job, hjob, hid, hstate⟩ := h slot' hslot'
    refine ⟨_, List.mem_map_of_mem hjob, ?_⟩
    split
    · exact ⟨hid, by simp⟩
    · exact ⟨hid, hstate⟩
  · obtain ⟨job, hjob, hid⟩ := ho.job
    rw [List.mem_singleton.1 hslot']
    refine ⟨_, List.mem_map_of_mem hjob, ?_⟩
    split
    · exact ⟨hid, by simp⟩
    · rename_i hno
      exact ⟨hid, fun hqueued => hno ⟨hid, hqueued⟩⟩

lemma concludes {jobId : JobId} {event : ExecutionEvent} {origin : Origin} (h : Slotted db)
    (hc : Concludes db db' jobId event origin) : Slotted db' := by
  obtain ⟨conclusion, now, hrows⟩ := hc.jobs
  refine h.of_jobs (by rw [hc.slots]) fun job hjob hstate => ?_
  rw [hrows]
  refine ⟨_, List.mem_map_of_mem hjob, ?_⟩
  split
  · exact ⟨rfl, by simp⟩
  · exact ⟨rfl, hstate⟩

lemma accepts {job : Job} (h : Slotted db) (ha : Fleet.Accepts db db' job) : Slotted db' := by
  refine h.of_jobs (by rw [ha.slots]) fun other hother hstate => ?_
  exact ⟨other, by rw [ha.jobs]; exact List.mem_append_left _ hother, rfl, hstate⟩

/-- A step of a task. -/
lemma change {task : Task} (h : Slotted db) (hc : Change task db db') : Slotted db' := by
  cases hc with
  | quiet hq => exact h.quiet hq
  | stores t attempt _ hs =>
    exact h.of_jobs (by rw [hs.slots]) fun job hjob hstate => ⟨job, by rwa [hs.jobs], rfl, hstate⟩
  | opens job new rest now id _ ho => exact h.opens ho
  | concludes jobId event origin db₁ _ hquiet hc => exact (h.quiet hquiet).concludes hc

end Slotted

namespace Fleet

variable {W : ChainWorker} {f f' : Fleet}

/-- No job has two unresolved transactions. -/
def OneOpenTransaction (db : Execution) : Prop :=
  ∀ slot ∈ db.transactions.rows, ∀ slot' ∈ db.transactions.rows, slot.state.isOpen = true →
    slot'.state.isOpen = true → slot.jobId = slot'.jobId → slot = slot'

/-- The step opens a slot for a job that is not queued any more. -/
def Stale (f f' : Fleet) : Prop :=
  ∃ slot ∈ f'.db.transactions.rows, (∀ other ∈ f.db.transactions.rows, other.id ≠ slot.id) ∧
    ∀ job ∈ f.db.jobs.rows, job.id = slot.jobId → job.state ≠ .queued

/-- A step that is not stale. -/
def FreshStep (W : ChainWorker) (f f' : Fleet) : Prop := Step W f f' ∧ ¬ Stale f f'

/-- A job that has a slot is not queued, and no job has two. -/
structure Single (db : Execution) : Prop where
  jobs : Slotted db
  once : ∀ slot ∈ db.transactions.rows, ∀ slot' ∈ db.transactions.rows, slot.jobId = slot'.jobId →
    slot = slot'

variable {db db' : Execution}

lemma Single.quiet (hs : Single db) (h : Quiet db db') : Single db' where
  jobs := hs.jobs.quiet h
  once := by
    obtain ⟨g, hrows, hsame⟩ := h.slots
    intro slot hslot slot' hslot' hjob
    rw [hrows] at hslot hslot'
    obtain ⟨a, ha, rfl⟩ := List.mem_map.1 hslot
    obtain ⟨b, hb, rfl⟩ := List.mem_map.1 hslot'
    rw [(hsame a).jobId, (hsame b).jobId] at hjob
    rw [hs.once a ha b hb hjob]

/-- No slot is opened. -/
lemma Single.of_slots (hs : Single db) (hjobs : Slotted db')
    (hslots : db'.transactions = db.transactions) : Single db' where
  jobs := hjobs
  once := by
    rw [hslots]
    exact hs.once

/-- A slot is opened for a queued job. -/
lemma Single.opens {slot : Slot} {attempt : Attempt} (hs : Single db) (h : Opens db db' slot attempt)
    {job : Job} (hjob : job ∈ db.jobs.rows) (hid : job.id = slot.jobId) (hqueued : job.state = .queued) :
    Single db' where
  jobs := hs.jobs.opens h
  once := by
    have hfree : ∀ other ∈ db.transactions.rows, other.jobId ≠ slot.jobId := by
      rw [← hid]
      exact hs.jobs.free hjob hqueued
    intro a ha b hb hjobs
    rw [h.slots, List.mem_append, List.mem_singleton] at ha hb
    rcases ha with ha | rfl <;> rcases hb with hb | rfl
    · exact hs.once a ha b hb hjobs
    · exact absurd hjobs (hfree a ha)
    · exact absurd hjobs.symm (hfree b hb)
    · rfl

/-- A step that is not stale keeps jobs to one slot. -/
lemma Single.step (hs : Single f.db) (h : FreshStep W f f') : Single f'.db := by
  obtain ⟨hstep, hfresh⟩ := h
  rcases hstep with hstep | ⟨w, hstep⟩
  · obtain ⟨-, -, hdb | ⟨job, haccept⟩⟩ := hstep.change
    · rwa [hdb]
    · exact hs.of_slots (hs.jobs.accepts haccept) haccept.slots
  · rcases hstep.change with ⟨hdb, -⟩ | ⟨task, next, -, htask⟩
    · rwa [hdb]
    · cases htask.change with
      | quiet h => exact hs.quiet h
      | stores t attempt _ h => exact hs.of_slots (hs.jobs.change htask.change) h.slots
      | opens job new rest now id _ h =>
        -- the job is queued, as the step is not stale
        have hmem : new.slot now id ∈ f'.db.transactions.rows := by
          rw [h.slots]
          simp
        by_contra hno
        refine hfresh ⟨new.slot now id, hmem, h.new, fun job hjob hid hqueued => hno ?_⟩
        exact hs.opens h hjob hid hqueued
      | concludes jobId event origin db₁ _ hquiet h =>
        exact (hs.quiet hquiet).of_slots ((hs.jobs.quiet hquiet).concludes h) h.slots

/-- In every run without a stale start, no job has two unresolved transactions. -/
theorem jobs_have_one_open_transaction (W : ChainWorker) (f : Fleet)
    (h : Relation.ReflTransGen (FreshStep W) start f) : OneOpenTransaction f.db := by
  have hsingle : Single f.db := by
    induction h with
    | refl => exact ⟨by simp [Slotted, start, Execution.empty], by simp [start, Execution.empty]⟩
    | tail _ hstep ih => exact ih.step hstep
  exact fun slot hslot slot' hslot' _ _ hjob => hsingle.once slot hslot slot' hslot' hjob

/-! ### Two executors and one job -/

/-- An executor with two signers. -/
def sampleWorker : ChainWorker where
  config := ⟨1, 99, 0, 100⟩
  policy := ⟨60, 3, 5⟩
  signers := [11, 12]
  keccak := fun raw => raw.signer
  node := fun _ => True

/-- A sweep of one request. -/
def sampleCommand : ExecutionCommand :=
  .sweepBatch ⟨5, 1, [⟨7, 40, .usdc, 20, 100, 50, 1000, 60, 30, .open, false, some 3⟩]⟩

def sampleJob : Job := ⟨5, 1, sampleCommand, .queued, 0, 0, none, 0⟩

/-- A chain on which the signers have sent nothing. -/
def sampleAnswers : Answers where
  receipts := ⟨fun _ => .ok none, fun _ => .ok none⟩
  receiptsAgain := ⟨fun _ => .ok none, fun _ => .ok none⟩
  minedNonce := fun _ => .ok 0
  pendingNonce := fun _ => .ok 0
  boundary := .ok ⟨10, 10, 10⟩
  blockHeader := fun n => .ok ⟨n, n, n⟩
  blockHeaderAgain := fun n => .ok ⟨n, n, n⟩
  reader := ⟨fun n => .ok ⟨n, n, n⟩, fun _ _ _ _ => .ok none, fun _ _ _ _ _ _ => .error .readOnly⟩
  stepReader := ⟨fun _ _ _ _ => .ok false, fun _ _ _ _ _ => .ok none, fun _ _ => .ok 0⟩
  estimateFees := .ok ⟨2, 1⟩
  sign := fun _ => .ok ()

/-- What a start on `signer` persists. -/
def sampleNew (signer : Address) : Execution.NewTransaction :=
  ⟨5, 1, signer, 0, 99, .bytes [], 500000, ⟨0, signer, ⟨signer, 1, 0, 99,
    sampleWorker.calldata sampleCommand, 500000, 2, 1⟩, 2, 1, none⟩⟩

lemma tryStart_sampleJob (signer : Address) : sampleWorker.tryStart sampleAnswers 0 sampleJob [signer] =
    .ok (.beginTx (sampleNew signer) []) := rfl

def acceptedDb : Execution := { Execution.empty with jobs := ⟨[sampleJob], by simp⟩ }

lemma queuedJobs_acceptedDb : acceptedDb.queuedJobs 0 1 = [sampleJob] := by
  have hqueued : (acceptedDb.jobs.rows.filter fun job => decide (job.chainId = 1 ∧
      job.state = .queued ∧ job.nextAttemptAt ≤ 0)) = [sampleJob] := rfl
  rw [Execution.queuedJobs, hqueued, List.mergeSort_singleton]

/-- A step that opens no slot is not stale. -/
lemma not_stale_of_transactions (h : f'.db.transactions = f.db.transactions) : ¬ Stale f f' := by
  rintro ⟨slot, hslot, hnew, -⟩
  rw [h] at hslot
  exact hnew slot hslot rfl

/-- One executor starts the job. -/
theorem jobs_have_one_open_transaction_sampleJob :
    ∃ f, Relation.ReflTransGen (FreshStep sampleWorker) start f ∧
      (sampleNew 11).slot 1 1 ∈ f.db.transactions.rows ∧ OneOpenTransaction f.db := by
  have h₀ : Relation.ReflTransGen (FreshStep sampleWorker) start start := Relation.ReflTransGen.refl
  have h₁ : Relation.ReflTransGen (FreshStep sampleWorker) start ⟨acceptedDb, [], fun _ => .idle⟩ :=
    h₀.tail ⟨Or.inl (.accept 0 sampleCommand), not_stale_of_transactions rfl⟩
  have h₂ := h₁.tail ⟨Or.inr ⟨0, .openTransactions rfl⟩, not_stale_of_transactions rfl⟩
  have h₃ := h₂.tail ⟨Or.inr ⟨0, .queuedJobs 0 rfl⟩, not_stale_of_transactions rfl⟩
  have h₄ := h₃.tail ⟨Or.inr ⟨0, .busySigners [sampleJob] [11, 12]
    (congrArg Pass.queued queuedJobs_acceptedDb) (List.Perm.refl _)⟩, not_stale_of_transactions rfl⟩
  have h₅ := h₄.tail ⟨Or.inr ⟨0, .fill sampleJob [] 11 [12] [] rfl⟩, not_stale_of_transactions rfl⟩
  have h₆ := h₅.tail ⟨Or.inr ⟨0, .run [] [12] [] [] (.start sampleJob [11]) _ _ _ rfl
    (.start _ _ sampleAnswers 0 _ trivial (tryStart_sampleJob 11))⟩, not_stale_of_transactions rfl⟩
  have h₇ := h₆.tail ⟨Or.inr ⟨0, .run [] [12] [] [] (.beginTransaction sampleJob (sampleNew 11) [])
    _ _ _ rfl (.beginTransaction _ _ _ 1 1 _ rfl)⟩, by
      -- the job is queued
      rintro ⟨slot, hslot, -, hjobs⟩
      have hslot : slot = (sampleNew 11).slot 1 1 := List.mem_singleton.1 hslot
      exact hjobs sampleJob (List.mem_singleton.2 rfl) (by rw [hslot]; rfl) rfl⟩
  exact ⟨_, h₇, List.mem_singleton.2 rfl, jobs_have_one_open_transaction sampleWorker _ h₇⟩

/-- The second executor reads the queue before, and the busy signers after, the first one has
started the job. -/
theorem jobs_can_have_two_open_transactions : ∃ f, Relation.ReflTransGen (Step sampleWorker) start f ∧
    ¬ OneOpenTransaction f.db := by
  have h₀ : Relation.ReflTransGen (Step sampleWorker) start start := Relation.ReflTransGen.refl
  have h₁ : Relation.ReflTransGen (Step sampleWorker) start ⟨acceptedDb, [], fun _ => .idle⟩ :=
    h₀.tail (Or.inl (.accept 0 sampleCommand))
  -- both read the queue
  have h₂ := h₁.tail (Or.inr ⟨0, .openTransactions rfl⟩)
  have h₃ := h₂.tail (Or.inr ⟨0, .queuedJobs 0 rfl⟩)
  have h₄ := h₃.tail (Or.inr ⟨1, .openTransactions rfl⟩)
  have h₅ := h₄.tail (Or.inr ⟨1, .queuedJobs 0 rfl⟩)
  -- the first one starts the job on its first signer
  have h₆ := h₅.tail (Or.inr ⟨0, .busySigners [sampleJob] [11, 12]
    (congrArg Pass.queued queuedJobs_acceptedDb) (List.Perm.refl _)⟩)
  have h₇ := h₆.tail (Or.inr ⟨0, .fill sampleJob [] 11 [12] [] rfl⟩)
  have h₈ := h₇.tail (Or.inr ⟨0, .run [] [12] [] [] (.start sampleJob [11]) _ _ _ rfl
    (.start _ _ sampleAnswers 0 _ trivial (tryStart_sampleJob 11))⟩)
  have h₉ := h₈.tail (Or.inr ⟨0, .run [] [12] [] [] (.beginTransaction sampleJob (sampleNew 11) [])
    _ _ _ rfl (.beginTransaction _ _ _ 1 1 _ rfl)⟩)
  -- the second one finds the first signer busy, and starts the job on the other
  have h₁₀ := h₉.tail (Or.inr ⟨1, .busySigners [sampleJob] [12]
    (congrArg Pass.queued queuedJobs_acceptedDb) (List.Perm.refl _)⟩)
  have h₁₁ := h₁₀.tail (Or.inr ⟨1, .fill sampleJob [] 12 [] [] rfl⟩)
  have h₁₂ := h₁₁.tail (Or.inr ⟨1, .run [] [] [] [] (.start sampleJob [12]) _ _ _ rfl
    (.start _ _ sampleAnswers 0 _ trivial (tryStart_sampleJob 12))⟩)
  have h₁₃ := h₁₂.tail (Or.inr ⟨1, .run [] [] [] [] (.beginTransaction sampleJob (sampleNew 12) [])
    _ _ _ rfl (.beginTransaction _ _ _ 2 2 _ rfl)⟩)
  refine ⟨_, h₁₃, fun hone => ?_⟩
  have heq := hone ((sampleNew 11).slot 1 1) (by decide) ((sampleNew 12).slot 2 2) (by decide) rfl rfl rfl
  exact absurd heq (by decide)

end Fleet

end Payday.Signers
