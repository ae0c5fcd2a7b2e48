/-
# Commits whose acknowledgement is lost

A statement can be committed while its acknowledgement is lost; the executor then goes on as if the
commit had failed.  When this happens to `begin_transaction` the job has a slot that the executor
does not know of: it defers or rejects the job, and the next pass finds the slot and sends its
transaction.  What stays true of one executor is that the jobs it may still start are queued.  So a
job that was concluded without a slot never gets one.
-/
import Payday.Signers.SoloExecutor

namespace Payday.Signers

variable {W : ChainWorker} {db db' : Execution}

/-- What the executor does when a statement of the task returns an error: `start` handles the errors
of `try_start`, the other ones end the task. -/
def Task.failed (error : ExecutorError) : Task → Next
  | conclude job _ lane => .go (.fail job error lane)
  | beginTransaction job new rest => .go (.fail job error (new.signer :: rest))
  | _ => .finished

lemma Task.Good.failed {task : Task} (hg : task.Good W db) (hgrows : Grows db db') (error : ExecutorError) :
    (task.failed error).Good W db' := by
  cases task with
  | conclude => exact hg.1.grows hgrows
  | beginTransaction => exact hg.1.grows hgrows
  | _ => exact trivial

/-! ### Jobs in hand -/

/-- The job that a task takes to be not started. -/
def Task.startable : Task → Option Job
  | start job _ | conclude job _ _ | beginTransaction job _ _ => some job
  | _ => none

lemma Task.unstarted_of_startable {task : Task} {job : Job} (h : task.startable = some job) :
    task.unstarted = some job := by
  cases task with
  | start => exact h
  | conclude => exact h
  | beginTransaction => exact h
  | _ => cases h

/-- The jobs in hand are different ones, and those that may still be started are queued. -/
structure InHand (db : Execution) (pass : Pass) : Prop where
  nodup : (pass.unstarted.map (·.id)).Nodup
  queued : ∀ job ∈ pass.held Task.startable, Queued db job

/-- The other jobs in hand stay in the queue. -/
lemma Queued.change {task : Task} {job : Job} (h : Queued db job) (hc : Change task db db')
    (hg : task.Good W db) (hs : Slotted db) (hne : ∀ own, task.unstarted = some own → job.id ≠ own.id) :
    Queued db' job := by
  have hone : Queue db [job] := ⟨by simp, by simpa using h⟩
  cases hc with
  | quiet hquiet => exact h.quiet hquiet
  | stores t attempt _ hstores =>
    obtain ⟨row, hrow, hid⟩ := h
    exact ⟨row, by rwa [hstores.jobs], hid⟩
  | opens own new rest now id htask hopens =>
    subst htask
    have hother : job.id ≠ new.jobId := by
      rw [hg.2.1]
      exact hne own rfl
    have hothers : ∀ other ∈ [job], other.id ≠ (new.slot now id).jobId := by
      rintro other hmem
      rw [List.mem_singleton.1 hmem]
      exact hother
    exact (hone.opens hopens hothers).queued job (List.mem_cons_self ..)
  | concludes jobId event origin db₁ htask hquiet hconcludes =>
    have hother : job.id ≠ jobId := by
      cases task with
      | resolve t conclusion state event =>
        -- the job of a slot is not queued
        cases htask
        obtain ⟨slot, hslot, hsame⟩ := hg.1.slot
        obtain ⟨row, hrow, hid, hqueued⟩ := h
        have hfree := hs.free hrow hqueued slot hslot
        rw [hsame.jobId, hg.1.jobId, hid] at hfree
        exact hfree.symm
      | conclude own => cases htask; exact hne own rfl
      | rejectJob own => cases htask; exact hne own rfl
      | _ => cases htask
    exact ((hone.quiet hquiet).concludes hconcludes (by simpa using hother)).queued job
      (List.mem_cons_self ..)

/-- A job that is still startable after a step of its task was startable before. -/
lemma ChainWorker.TaskStep.startable {sent sent' : List SignedTransaction} {task : Task} {next : Next}
    (h : W.TaskStep db sent task db' sent' next) : next.held Task.startable = none ∨
      next.held Task.startable = task.startable ∧ Quiet db db' := by
  cases h with
  | reconcile t newest answers now action hnode hnewest h =>
    left
    cases action with
    | onMined txHash receipt =>
      simp only [Action.next]
      split <;> rfl
    | _ => rfl
  | onMined t txHash receipt answers finality hnode h =>
    left
    cases finality <;> rfl
  | reportStall t resend =>
    left
    cases resend <;> rfl
  | stallReported t resend =>
    left
    cases resend <;> rfl
  | start job lane answers seconds action hnode h =>
    right
    cases action <;> exact ⟨rfl, Quiet.refl db⟩
  | fail job error lane =>
    left
    unfold ChainWorker.onError
    split <;> rfl
  | _ => exact Or.inl rfl

/-- A step of a task, which the executor may take for another one. -/
structure Leaves (db db' : Execution) (task : Task) (next : Next) : Prop where
  unstarted : next.unstarted = none ∨ next.unstarted = task.unstarted
  startable : next.held Task.startable = none ∨
    next.held Task.startable = task.startable ∧ Quiet db db'

lemma ChainWorker.TaskStep.leaves {sent sent' : List SignedTransaction} {task : Task} {next : Next}
    (h : W.TaskStep db sent task db' sent' next) : Leaves db db' task next where
  unstarted := h.unstarted.imp_right And.left
  startable := h.startable

lemma Task.failed_leaves (db db' : Execution) (task : Task) (error : ExecutorError) :
    Leaves db db' task (task.failed error) := by
  cases task with
  | conclude => exact ⟨Or.inr rfl, Or.inl rfl⟩
  | beginTransaction => exact ⟨Or.inr rfl, Or.inl rfl⟩
  | _ => exact ⟨Or.inl rfl, Or.inl rfl⟩

lemma InHand.runs {pass : Pass} {task : Task} {after : Next → Pass} {pending : List Job}
    {others : List Task} {next : Next} (h : InHand db pass) (hruns : pass.Runs task after pending others)
    (hl : Leaves db db' task next) (hg : task.Good W db) (hs : Slotted db) (hc : Change task db db') :
    InHand db' (after next) := by
  have hnodup : ((task.unstarted.toList ++ (pending ++ others.filterMap Task.unstarted)).map (·.id)).Nodup :=
    nodup_of_subperm (hruns.held_before Task.unstarted).symm.subperm h.nodup
  constructor
  · refine nodup_of_subperm (hruns.held_after Task.unstarted next) ?_
    rcases hl.unstarted with hnext | hnext <;> rw [Next.unstarted] at hnext <;> rw [hnext]
    · exact nodup_of_subperm (List.sublist_append_right _ _).subperm hnodup
    · exact hnodup
  · intro job hjob
    rcases List.mem_append.1 ((hruns.held_after Task.startable next).subset hjob) with hjob | hjob
    · -- the task's own job
      rcases hl.startable with hnext | ⟨hnext, hquiet⟩ <;> rw [hnext] at hjob
      · cases hjob
      · refine (h.queued job ?_).quiet hquiet
        exact (hruns.held_before Task.startable).mem_iff.2 (List.mem_append_left _ hjob)
    · refine (h.queued job ?_).change hc hg hs fun own hown heq => ?_
      · exact (hruns.held_before Task.startable).mem_iff.2 (List.mem_append_right _ hjob)
      · rw [hown, Option.toList_some, List.singleton_append, List.map_cons, List.nodup_cons] at hnodup
        refine hnodup.1 (List.mem_map.2 ⟨job, ?_, heq⟩)
        rcases List.mem_append.1 hjob with hjob | hjob
        · exact List.mem_append_left _ hjob
        · obtain ⟨other, hother, hstartable⟩ := List.mem_filterMap.1 hjob
          exact List.mem_append_right _
            (List.mem_filterMap.2 ⟨other, hother, Task.unstarted_of_startable hstartable⟩)

/-! ### Runs -/

/-- The job was concluded, and has no slot. -/
structure EndedUnopened (db : Execution) (jobId : JobId) : Prop where
  concluded : ∃ p ∈ db.conclusions, p.event.jobId = jobId
  free : ∀ slot ∈ db.transactions.rows, slot.jobId ≠ jobId

/-- Conclusions stay published. -/
lemma Change.conclusions {task : Task} (h : Change task db db') {p : Publication}
    (hp : p ∈ db.conclusions) : p ∈ db'.conclusions := by
  cases h with
  | quiet h => rwa [h.conclusions]
  | stores t attempt _ h => simpa only [Execution.conclusions, h.events] using hp
  | opens job new rest now id _ h => simpa only [Execution.conclusions, h.events] using hp
  | concludes jobId event origin db₁ _ hquiet h =>
    rw [← hquiet.conclusions] at hp
    obtain ⟨hevent, hterminal⟩ := List.mem_filter.1 hp
    refine List.mem_filter.2 ⟨?_, hterminal⟩
    rcases h.events with h | ⟨h, -⟩ <;> rw [h]
    · exact List.mem_append_left _ hevent
    · exact hevent

namespace Fleet

variable {f f' : Fleet}

/-- A statement of executor `w` is committed, and the executor takes it to have failed. -/
inductive LostCommit (W : ChainWorker) (w : ℕ) (f : Fleet) : Fleet → Prop
  | lost (task : Task) (after : Next → Pass) (pending : List Job) (others : List Task) (db : Execution)
      (sent : List SignedTransaction) (next : Next) (message : String)
      (hruns : (f.passes w).Runs task after pending others)
      (hstep : W.TaskStep f.db f.sent task db sent next) :
      LostCommit W w f ⟨db, sent, Function.update f.passes w (after (task.failed (.database message)))⟩

/-- A step of the one executor of the chain or of the command handler, whose acknowledgement may be
lost. -/
def LoneStep (W : ChainWorker) (f f' : Fleet) : Prop := SoloStep W f f' ∨ LostCommit W 0 f f'

/-- What still holds of one executor. -/
structure Lone (W : ChainWorker) (f : Fleet) : Prop where
  durable : Durable W f
  slotted : Slotted f.db
  inHand : InHand f.db (f.passes 0)

lemma Lone.start : Lone W start where
  durable := Durable.start
  slotted := by simp [Slotted, Fleet.start, Execution.empty]
  inHand := ⟨by simp [Fleet.start, Pass.unstarted, Pass.held], by simp [Fleet.start, Pass.held]⟩

lemma Lone.workerStep (hf : Lone W f) (h : WorkerStep W 0 f f') : Lone W f' := by
  rcases h.held with ⟨task, after, pending, others, next, hruns, hstep, hpass⟩ | ⟨hdb, hpass⟩
  · refine ⟨hf.durable.workerStep h, hf.slotted.change hstep.change, ?_⟩
    rw [hpass]
    exact hf.inHand.runs hruns hstep.leaves (hruns.good (hf.durable.passes 0)) hf.slotted hstep.change
  · refine ⟨hf.durable.workerStep h, by rw [hdb]; exact hf.slotted, ?_⟩
    rw [hdb]
    rcases hpass with ⟨now, hpass⟩ | hheld
    · have hqueue := queue_queuedJobs f.db now W.config.chainId
      rw [hpass]
      exact ⟨hqueue.nodup, hqueue.queued⟩
    · have hunstarted := hheld Task.unstarted (fun _ _ => rfl) fun _ => rfl
      have hstartable := hheld Task.startable (fun _ _ => rfl) fun _ => rfl
      exact ⟨nodup_of_subperm hunstarted hf.inHand.nodup,
        fun job hjob => hf.inHand.queued job (hstartable.subset hjob)⟩

lemma Lone.step (hf : Lone W f) (h : LoneStep W f f') : Lone W f' := by
  rcases h with (h | h) | h
  · obtain ⟨-, hpasses, hdb | ⟨job, haccept⟩⟩ := h.change
    · exact ⟨hf.durable.handlerStep h, by rw [hdb]; exact hf.slotted, by rw [hdb, hpasses]; exact hf.inHand⟩
    · refine ⟨hf.durable.handlerStep h, hf.slotted.accepts haccept, ?_⟩
      rw [hpasses]
      refine ⟨hf.inHand.nodup, fun job hjob => ?_⟩
      obtain ⟨row, hrow, hqueued⟩ := hf.inHand.queued job hjob
      exact ⟨row, by rw [haccept.jobs]; exact List.mem_append_left _ hrow, hqueued⟩
  · exact hf.workerStep h
  · obtain ⟨task, after, pending, others, db, sent, next, message, hruns, hstep⟩ := h
    have hg := hruns.good (hf.durable.passes 0)
    refine ⟨hf.durable.task hruns hstep (hg.failed hstep.change.grows _),
      hf.slotted.change hstep.change, ?_⟩
    simp only [Function.update_self]
    exact hf.inHand.runs hruns (Task.failed_leaves ..) hg hf.slotted hstep.change

/-- What a step does to the schema. -/
lemma LoneStep.change (h : LoneStep W f f') : f'.db = f.db ∨ (∃ job, Accepts f.db f'.db job) ∨
    ∃ task after pending others, (f.passes 0).Runs task after pending others ∧
      Change task f.db f'.db := by
  rcases h with (h | h) | h
  · exact h.change.2.2.imp_right Or.inl
  · rcases h.held with ⟨task, after, pending, others, next, hruns, hstep, -⟩ | ⟨hdb, -⟩
    · exact Or.inr (Or.inr ⟨task, after, pending, others, hruns, hstep.change⟩)
    · exact Or.inl hdb
  · obtain ⟨task, after, pending, others, db, sent, next, message, hruns, hstep⟩ := h
    exact Or.inr (Or.inr ⟨task, after, pending, others, hruns, hstep.change⟩)

lemma LoneStep.conclusions (h : LoneStep W f f') {p : Publication} (hp : p ∈ f.db.conclusions) :
    p ∈ f'.db.conclusions := by
  rcases h.change with hdb | ⟨job, haccept⟩ | ⟨task, after, pending, others, -, hchange⟩
  · rwa [hdb]
  · obtain ⟨hevent, hterminal⟩ := List.mem_filter.1 hp
    refine List.mem_filter.2 ⟨?_, hterminal⟩
    rcases haccept.events with ⟨-, h⟩ | ⟨conclusion, now, event, -, -, -, -, h | ⟨h, -⟩⟩ <;> rw [h]
    · exact hevent
    · exact List.mem_append_left _ hevent
    · exact hevent
  · exact hchange.conclusions hp

/-- A job that was concluded without a slot never gets one. -/
lemma Lone.endedUnopened (hf : Lone W f) (h : LoneStep W f f') {jobId : JobId}
    (hended : EndedUnopened f.db jobId) : EndedUnopened f'.db jobId := by
  obtain ⟨p, hp, hid⟩ := hended.concluded
  refine ⟨⟨p, h.conclusions hp, hid⟩, ?_⟩
  rcases h.change with hdb | ⟨job, haccept⟩ | ⟨task, after, pending, others, hruns, hchange⟩
  · rw [hdb]
    exact hended.free
  · rw [haccept.slots]
    exact hended.free
  · cases hchange with
    | quiet hquiet =>
      intro slot' hslot'
      obtain ⟨slot, hslot, hsame⟩ := hquiet.slot_before hslot'
      rw [hsame.jobId]
      exact hended.free slot hslot
    | stores t attempt _ hstores =>
      rw [hstores.slots]
      exact hended.free
    | opens job new rest now id htask hopens =>
      subst htask
      intro slot hslot
      rw [hopens.slots] at hslot
      rcases List.mem_append.1 hslot with hslot | hslot
      · exact hended.free slot hslot
      · -- the job is queued, so it was not concluded
        have hheld : job ∈ (f.passes 0).held Task.startable :=
          (hruns.held_before Task.startable).mem_iff.2 (List.mem_cons_self ..)
        obtain ⟨row, hrow, hrowId, hqueued⟩ := hf.inHand.queued job hheld
        have hjobId : new.jobId = job.id := (hruns.good (hf.durable.passes 0)).2.1
        have hne := hf.durable.sound.not_concluded hrow hqueued hp
        rw [hid, hrowId, ← hjobId] at hne
        rw [List.mem_singleton.1 hslot]
        exact hne.symm
    | concludes jobId' event origin db₁ _ hquiet hconcludes =>
      rw [hconcludes.slots]
      intro slot' hslot'
      obtain ⟨slot, hslot, hsame⟩ := hquiet.slot_before hslot'
      rw [hsame.jobId]
      exact hended.free slot hslot

end Fleet

end Payday.Signers
