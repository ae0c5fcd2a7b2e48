/-
# Runs of one executor

The laws of the schema along every run, with the memory of the executors as part of the invariant.
When one executor runs, the jobs it has in hand and has not started are still queued, so a job that
it concludes while starting it has no slot, and never gets one.
-/
import Payday.Signers.Durability

namespace Payday.Signers

open ChainWorker

variable {W : ChainWorker}

/-! ### Every executor's memory -/

/-- What a pass relies on. -/
def Pass.Good (W : ChainWorker) (db : Execution) : Pass → Prop
  | idle => True
  | reconciling task rest => (∀ t, task = some t → t.Good W db) ∧ ∀ t ∈ rest, Known W db t
  | queued jobs => ∀ job ∈ jobs, JobKnown db job
  | starting pending _ running =>
    (∀ job ∈ pending, JobKnown db job) ∧ ∀ task ∈ running, task.Good W db
  | draining task rest => (∀ t, task = some t → t.Good W db) ∧ ∀ job ∈ rest, JobKnown db job

lemma Pass.Good.grows {db db' : Execution} {pass : Pass} (hg : pass.Good W db) (h : Grows db db') :
    pass.Good W db' := by
  cases pass with
  | idle => exact trivial
  | reconciling task rest => exact ⟨fun t ht => (hg.1 t ht).grows h, fun t ht => (hg.2 t ht).grows h⟩
  | queued jobs => exact fun job hjob => (hg job hjob).grows h
  | starting pending free running =>
    exact ⟨fun job hjob => (hg.1 job hjob).grows h, fun task ht => (hg.2 task ht).grows h⟩
  | draining task rest => exact ⟨fun t ht => (hg.1 t ht).grows h, fun job hjob => (hg.2 job hjob).grows h⟩

/-- A pass with one of its tasks, what it becomes after a step of the task, and the jobs and the
tasks that it has besides. -/
inductive Pass.Runs : Pass → Task → (Next → Pass) → List Job → List Task → Prop
  | reconciling (task : Task) (rest : List OpenTransaction) :
      Runs (.reconciling (some task) rest) task (.reconciled rest) [] []
  | starting (pending : List Job) (free : List Address) (before after : List Task) (task : Task) :
      Runs (.starting pending free (before ++ task :: after)) task (.started pending free before after)
        pending (before ++ after)
  | draining (task : Task) (rest : List Job) :
      Runs (.draining (some task) rest) task (.drained rest) rest []

namespace Pass.Runs

variable {pass : Pass} {task : Task} {after : Next → Pass} {pending : List Job} {others : List Task}

lemma good {db : Execution} (h : pass.Runs task after pending others) (hg : pass.Good W db) :
    task.Good W db := by
  cases h with
  | reconciling => exact hg.1 task rfl
  | starting => exact hg.2 task (by simp)
  | draining => exact hg.1 task rfl

/-- What the pass relies on after a step of the task. -/
lemma good_after {db db' : Execution} (h : pass.Runs task after pending others) (hg : pass.Good W db)
    (hgrows : Grows db db') {next : Next} (hnext : next.Good W db') : (after next).Good W db' := by
  cases h with
  | reconciling _ rest =>
    have hrest : ∀ t ∈ rest, Known W db' t := fun t ht => (hg.2 t ht).grows hgrows
    cases next with
    | go task' =>
      refine ⟨?_, hrest⟩
      rintro t ht
      cases ht
      exact hnext
    | _ => exact ⟨by simp, hrest⟩
  | starting _ free before after =>
    have hpending : ∀ job ∈ pending, JobKnown db' job := fun job hjob => (hg.1 job hjob).grows hgrows
    have hothers : ∀ t ∈ before ++ after, t.Good W db' := by
      intro t ht
      refine (hg.2 t ?_).grows hgrows
      rcases List.mem_append.1 ht with ht | ht
      · exact List.mem_append_left _ ht
      · exact List.mem_append_right _ (List.mem_cons_of_mem _ ht)
    cases next with
    | go task' =>
      refine ⟨hpending, fun t ht => ?_⟩
      rcases List.mem_append.1 ht with ht | ht
      · exact hothers t (List.mem_append_left _ ht)
      · rcases List.mem_cons.1 ht with rfl | ht
        · exact hnext
        · exact hothers t (List.mem_append_right _ ht)
    | finished => exact ⟨hpending, hothers⟩
    | released lane => exact ⟨hpending, hothers⟩
    | returned job =>
      refine ⟨fun j hj => ?_, hothers⟩
      rcases List.mem_cons.1 hj with rfl | hj
      · exact hnext
      · exact hpending j hj
  | draining =>
    have hrest : ∀ job ∈ pending, JobKnown db' job := fun job hjob => (hg.2 job hjob).grows hgrows
    cases next with
    | go task' =>
      refine ⟨?_, hrest⟩
      rintro t ht
      cases ht
      exact hnext
    | _ => exact ⟨by simp, hrest⟩

end Pass.Runs

lemma openTransactions_known {db : Execution} (hs : Sound W db) {t : OpenTransaction}
    (h : t ∈ db.openTransactions W.config.chainId) : Known W db t := by
  obtain ⟨slot, hslot, ht⟩ := List.mem_filterMap.1 h
  obtain ⟨job, hfind, rfl⟩ := Option.map_eq_some_iff.1 ht
  have hslot := (List.mem_filter.1 hslot).1
  obtain ⟨hjob, hid⟩ := Table.find?_eq_some_iff.1 hfind
  obtain ⟨job', hjob', hid', htarget, -, hchain⟩ := hs.slots slot hslot
  have heq : job' = job := db.jobs.eq_of_key_eq hjob' hjob (by rw [hid', hid])
  subst heq
  refine ⟨⟨slot, hslot, Slot.Same.refl slot⟩, ⟨job', hjob, rfl, rfl⟩, hid'.symm, htarget, hchain, ?_⟩
  intro attempt hattempt
  rw [Execution.attemptsOf, List.mem_mergeSort] at hattempt
  obtain ⟨row, hrow, rfl⟩ := List.mem_map.1 hattempt
  obtain ⟨hrow, hrowId⟩ := List.mem_filter.1 hrow
  exact ⟨row, hrow, of_decide_eq_true hrowId, rfl, rfl⟩

lemma queuedJobs_mem {db : Execution} {now : Time} {chainId : ChainId} {job : Job}
    (h : job ∈ db.queuedJobs now chainId) : job ∈ db.jobs.rows ∧ job.state = .queued := by
  rw [Execution.queuedJobs, List.mem_mergeSort, List.mem_filter, decide_eq_true_eq] at h
  exact ⟨h.1, h.2.2.1⟩

namespace Fleet

variable {f f' : Fleet}

/-- The laws of the schema, the executors' memory, and the bytes that were sent. -/
structure Durable (W : ChainWorker) (f : Fleet) : Prop where
  sound : Sound W f.db
  passes : ∀ w, (f.passes w).Good W f.db
  sent : ∀ raw ∈ f.sent, ∃ row ∈ f.db.attempts.rows, row.attempt.rawTransaction = raw

lemma Durable.start : Durable W Fleet.start where
  sound := Sound.empty
  passes := fun _ => trivial
  sent := by simp [Fleet.start]

/-- The memory of the other executors, and the new one of executor `w`. -/
lemma Durable.passes_update (hd : Durable W f) (f' : Fleet) (hg : Grows f.db f'.db) {w : ℕ} {pass : Pass}
    (hpasses : f'.passes = Function.update f.passes w pass) (hpass : pass.Good W f'.db) (w' : ℕ) :
    (f'.passes w').Good W f'.db := by
  rw [hpasses, Function.update_apply]
  split
  · exact hpass
  · exact (hd.passes w').grows hg

/-- A pass of executor `w` goes on without a commit. -/
lemma Durable.setPass (hd : Durable W f) {w : ℕ} {pass : Pass} (hpass : pass.Good W f.db) :
    Durable W (f.setPass w pass) where
  sound := hd.sound
  passes := hd.passes_update (f.setPass w pass) (Grows.refl f.db) rfl hpass
  sent := hd.sent

/-- A step of one of the tasks of executor `w`, whatever the executor takes it for. -/
lemma Durable.task (hd : Durable W f) {w : ℕ} {task : Task} {after : Next → Pass} {pending : List Job}
    {others : List Task} {db : Execution} {sent : List SignedTransaction} {next next' : Next}
    (hruns : (f.passes w).Runs task after pending others)
    (hstep : W.TaskStep f.db f.sent task db sent next) (hnext : next'.Good W db) :
    Durable W ⟨db, sent, Function.update f.passes w (after next')⟩ where
  sound := hd.sound.change (hruns.good (hd.passes w)) hstep.change
  passes := hd.passes_update ⟨db, sent, Function.update f.passes w (after next')⟩ hstep.change.grows rfl
    (hruns.good_after (hd.passes w) hstep.change.grows hnext)
  sent := by
    intro raw hraw
    rcases (hstep.good (hruns.good (hd.passes w))).2 raw hraw with hraw | hrow
    · obtain ⟨row, hrow, heq⟩ := hd.sent raw hraw
      obtain ⟨row', hrow', hsame⟩ := hstep.change.grows.attempts row hrow
      exact ⟨row', hrow', hsame.rawTransaction.trans heq⟩
    · exact hrow

lemma Durable.workerStep {w : ℕ} (hd : Durable W f) (h : WorkerStep W w f f') : Durable W f' := by
  have hw := hd.passes w
  cases h with
  | openTransactions h =>
    exact hd.setPass ⟨by simp, fun t ht => openTransactions_known hd.sound ht⟩
  | nextSlot t rest h =>
    rw [h] at hw
    refine hd.setPass ⟨?_, fun t' ht' => hw.2 t' (List.mem_cons_of_mem _ ht')⟩
    rintro task htask
    cases htask
    exact hw.2 t (List.mem_cons_self ..)
  | reconcile task rest db sent next h hstep =>
    have hruns : (f.passes w).Runs task (.reconciled rest) [] [] := h ▸ .reconciling task rest
    exact hd.task hruns hstep (hstep.good (hruns.good hw)).1
  | queuedJobs now h =>
    exact hd.setPass fun job hjob => ⟨job, (queuedJobs_mem hjob).1, rfl, rfl⟩
  | busySigners jobs free h hfree =>
    rw [h] at hw
    exact hd.setPass ⟨hw, by simp⟩
  | fill job pending signer free running h =>
    rw [h] at hw
    refine hd.setPass ⟨fun j hj => hw.1 j (List.mem_cons_of_mem _ hj), ?_⟩
    intro task htask
    rcases List.mem_append.1 htask with htask | htask
    · exact hw.2 task htask
    · rw [List.mem_singleton.1 htask]
      exact hw.1 job (List.mem_cons_self ..)
  | run pending free before after task db sent next h hstep =>
    have hruns : (f.passes w).Runs task (.started pending free before after) pending (before ++ after) :=
      h ▸ .starting pending free before after task
    exact hd.task hruns hstep (hstep.good (hruns.good hw)).1
  | drain pending free h idle =>
    rw [h] at hw
    exact hd.setPass ⟨by simp, hw.1⟩
  | nextJob job rest h =>
    rw [h] at hw
    refine hd.setPass ⟨?_, fun j hj => hw.2 j (List.mem_cons_of_mem _ hj)⟩
    rintro task htask
    cases htask
    exact hw.2 job (List.mem_cons_self ..)
  | runDrained task rest db sent next h hstep =>
    have hruns : (f.passes w).Runs task (.drained rest) rest [] := h ▸ .draining task rest
    exact hd.task hruns hstep (hstep.good (hruns.good hw)).1
  | stop => exact hd.setPass trivial

lemma Durable.handlerStep (hd : Durable W f) (h : HandlerStep f f') : Durable W f' := by
  obtain ⟨hsent, hpasses, hdb | ⟨job, haccept⟩⟩ := h.change
  · exact ⟨by rw [hdb]; exact hd.sound, by rw [hdb, hpasses]; exact hd.passes,
      by rw [hsent, hdb]; exact hd.sent⟩
  · refine ⟨(hd.sound.accepts haccept).1, ?_, ?_⟩
    · rw [hpasses]
      exact fun w => (hd.passes w).grows haccept.grows
    · rw [hsent, haccept.attempts]
      exact hd.sent

end Fleet

/-! ### Jobs that are not started -/

/-- The job that a step hands back, or that the next task has in hand. -/
def Next.held (g : Task → Option Job) : Next → Option Job
  | go task => g task
  | returned job => some job
  | finished | released _ => none

/-- The jobs a pass has read from the queue, and those that its tasks have in hand. -/
def Pass.held (g : Task → Option Job) : Pass → List Job
  | idle => []
  | reconciling task _ => (task.bind g).toList
  | queued jobs => jobs
  | starting pending _ running => pending ++ running.filterMap g
  | draining task rest => (task.bind g).toList ++ rest

lemma perm_running (g : Task → Option Job) (pending : List Job) (before after : List Task) (task : Task) :
    (pending ++ (before ++ task :: after).filterMap g).Perm
      ((g task).toList ++ (pending ++ (before ++ after).filterMap g)) := by
  rcases hjob : g task with _ | job
  · simp [List.filterMap_append, hjob]
  · simp only [List.filterMap_append, List.filterMap_cons, hjob, Option.toList_some,
      List.singleton_append]
    rw [← List.append_assoc, ← List.append_assoc]
    exact List.perm_middle

namespace Pass.Runs

variable {pass : Pass} {task : Task} {after : Next → Pass} {pending : List Job} {others : List Task}

lemma held_before (h : pass.Runs task after pending others) (g : Task → Option Job) :
    (pass.held g).Perm ((g task).toList ++ (pending ++ others.filterMap g)) := by
  cases h with
  | reconciling => simp [Pass.held]
  | starting => exact perm_running g ..
  | draining => simp [Pass.held]

lemma held_after (h : pass.Runs task after pending others) (g : Task → Option Job) (next : Next) :
    ((after next).held g).Subperm ((next.held g).toList ++ (pending ++ others.filterMap g)) := by
  cases h with
  | reconciling => cases next <;> simp [Pass.reconciled, Pass.held, Next.held, List.Subperm.refl]
  | starting =>
    cases next with
    | go task' => exact (perm_running g ..).subperm
    | finished => exact List.Subperm.refl _
    | released => exact List.Subperm.refl _
    | returned => exact List.Subperm.refl _
  | draining =>
    cases next with
    | returned job => simpa [Pass.drained, Pass.held, Next.held] using List.Subperm.cons_self
    | _ => simp [Pass.drained, Pass.held, Next.held, List.Subperm.refl]

end Pass.Runs

/-- A step of an executor is a step of a task, or leaves the schema alone; then the pass reads the
queue, or has no job in hand that it did not have. -/
lemma Fleet.WorkerStep.held {f f' : Fleet} {w : ℕ} (h : WorkerStep W w f f') :
    (∃ task after pending others next, (f.passes w).Runs task after pending others ∧
      W.TaskStep f.db f.sent task f'.db f'.sent next ∧ f'.passes w = after next) ∨
    f'.db = f.db ∧ ((∃ now, f'.passes w = .queued (f.db.queuedJobs now W.config.chainId)) ∨
      ∀ g : Task → Option Job, (∀ job lane, g (.start job lane) = some job) →
        (∀ t, g (.reconcile t) = none) → ((f'.passes w).held g).Subperm ((f.passes w).held g)) := by
  cases h with
  | openTransactions => exact Or.inr ⟨rfl, Or.inr fun g _ _ => by simp [setPass, Pass.held]⟩
  | nextSlot t rest => exact Or.inr ⟨rfl, Or.inr fun g _ hg => by simp [setPass, Pass.held, hg]⟩
  | reconcile task rest db sent next h hstep =>
    exact Or.inl ⟨task, _, _, _, next, by rw [h]; exact .reconciling task rest, hstep,
      Function.update_self ..⟩
  | queuedJobs now h => exact Or.inr ⟨rfl, Or.inl ⟨now, Function.update_self ..⟩⟩
  | busySigners jobs free h hfree =>
    exact Or.inr ⟨rfl, Or.inr fun g _ _ => by simp [setPass, Pass.held, h, List.Subperm.refl]⟩
  | fill job pending signer free running h =>
    refine Or.inr ⟨rfl, Or.inr fun g hg _ => ?_⟩
    have hfilled : ((f.setPass w (.starting pending free (running ++ [.start job [signer]]))).passes w).held g
        = pending ++ (running ++ [Task.start job [signer]]).filterMap g := by
      simp [setPass, Pass.held]
    rw [hfilled, h]
    simpa [hg, Pass.held] using (perm_running g pending running [] (.start job [signer])).subperm
  | run pending free before after task db sent next h hstep =>
    exact Or.inl ⟨task, _, _, _, next, by rw [h]; exact .starting pending free before after task, hstep,
      Function.update_self ..⟩
  | drain pending free h idle =>
    exact Or.inr ⟨rfl, Or.inr fun g _ _ => by simp [setPass, Pass.held, h, List.Subperm.refl]⟩
  | nextJob job rest h =>
    exact Or.inr ⟨rfl, Or.inr fun g hg _ => by simp [setPass, Pass.held, h, hg, List.Subperm.refl]⟩
  | runDrained task rest db sent next h hstep =>
    exact Or.inl ⟨task, _, _, _, next, by rw [h]; exact .draining task rest, hstep,
      Function.update_self ..⟩
  | stop => exact Or.inr ⟨rfl, Or.inr fun g _ _ => by simp [setPass, Pass.held]⟩

/-- The job that a task is about to start or to conclude. -/
def Task.unstarted : Task → Option Job
  | start job _ | conclude job _ _ | beginTransaction job _ _ | fail job _ _ | deferJob job _ _
  | rejectJob job _ _ => some job
  | _ => none

def Next.unstarted (next : Next) : Option Job := next.held Task.unstarted

/-- The jobs a pass has read from the queue and not started yet. -/
def Pass.unstarted (pass : Pass) : List Job := pass.held Task.unstarted

/-- The job is in the queue. -/
def Queued (db : Execution) (job : Job) : Prop :=
  ∃ row ∈ db.jobs.rows, row.id = job.id ∧ row.state = .queued

lemma Queued.quiet {db db' : Execution} {job : Job} (h : Queued db job) (hq : Quiet db db') :
    Queued db' job := by
  obtain ⟨row, hrow, hid, hqueued⟩ := h
  obtain ⟨row', hrow', hsame⟩ := hq.job_after hrow
  exact ⟨row', hrow', hsame.id.trans hid, hsame.state.trans hqueued⟩

/-- Different jobs, all of them still queued. -/
structure Queue (db : Execution) (jobs : List Job) : Prop where
  nodup : (jobs.map (·.id)).Nodup
  queued : ∀ job ∈ jobs, Queued db job

lemma nodup_of_subperm {jobs jobs' : List Job} (hsub : jobs'.Subperm jobs)
    (h : (jobs.map (·.id)).Nodup) : (jobs'.map (·.id)).Nodup := by
  obtain ⟨kept, hperm, hsub⟩ := hsub
  exact (hperm.map _).nodup_iff.1 (h.sublist (hsub.map _))

namespace Queue

variable {db db' : Execution} {jobs jobs' : List Job}

lemma subperm (h : Queue db jobs) (hsub : jobs'.Subperm jobs) : Queue db jobs' where
  nodup := nodup_of_subperm hsub h.nodup
  queued := fun job hjob => h.queued job (hsub.subset hjob)

/-- The jobs are queued after a step that leaves their rows alone. -/
lemma of_rows (h : Queue db jobs) (hrows : ∀ job ∈ jobs, ∀ row ∈ db.jobs.rows, row.id = job.id →
    row.state = .queued → ∃ row' ∈ db'.jobs.rows, row'.id = row.id ∧ row'.state = .queued) :
    Queue db' jobs where
  nodup := h.nodup
  queued := by
    intro job hjob
    obtain ⟨row, hrow, hid, hqueued⟩ := h.queued job hjob
    obtain ⟨row', hrow', hid', hqueued'⟩ := hrows job hjob row hrow hid hqueued
    exact ⟨row', hrow', hid'.trans hid, hqueued'⟩

lemma quiet (h : Queue db jobs) (hq : Quiet db db') : Queue db' jobs where
  nodup := h.nodup
  queued := fun job hjob => (h.queued job hjob).quiet hq

/-- A slot is opened for a job that is not among them. -/
lemma opens {slot : Slot} {attempt : Attempt} (h : Queue db jobs) (ho : Opens db db' slot attempt)
    (hne : ∀ job ∈ jobs, job.id ≠ slot.jobId) : Queue db' jobs := by
  refine h.of_rows fun job hjob row hrow hid hqueued => ?_
  rw [ho.jobs]
  refine ⟨_, List.mem_map_of_mem hrow, ?_⟩
  rw [if_neg fun hc => hne job hjob (hid.symm.trans hc.1)]
  exact ⟨rfl, hqueued⟩

/-- A job is concluded that is not among them. -/
lemma concludes {jobId : JobId} {event : ExecutionEvent} {origin : Origin} (h : Queue db jobs)
    (hc : Concludes db db' jobId event origin) (hne : ∀ job ∈ jobs, job.id ≠ jobId) : Queue db' jobs := by
  obtain ⟨conclusion, now, hrows⟩ := hc.jobs
  refine h.of_rows fun job hjob row hrow hid hqueued => ?_
  rw [hrows]
  refine ⟨_, List.mem_map_of_mem hrow, ?_⟩
  rw [if_neg fun hc => hne job hjob (hid.symm.trans hc.1)]
  exact ⟨rfl, hqueued⟩

/-- A job that is not in the queue has another id than those that are. -/
lemma head_notMem {job : Job} (h : Queue db (job :: jobs)) : ∀ other ∈ jobs, other.id ≠ job.id := by
  intro other hother heq
  have hnodup := h.nodup
  rw [List.map_cons, List.nodup_cons] at hnodup
  exact hnodup.1 (List.mem_map.2 ⟨other, hother, heq⟩)

end Queue

/-- A queued job has no conclusion. -/
lemma Sound.not_concluded {db : Execution} (hs : Sound W db) {job : Job} (hjob : job ∈ db.jobs.rows)
    (hqueued : job.state = .queued) {p : Publication} (hp : p ∈ db.conclusions) :
    p.event.jobId ≠ job.id := by
  intro heq
  have hlist := hs.conclusions job hjob
  rw [hqueued] at hlist
  have hmem : p.event ∈ db.conclusionsOf job.id :=
    List.mem_map_of_mem (List.mem_filter.2 ⟨hp, by simp [heq]⟩)
  rw [hlist] at hmem
  cases hmem

/-- What a single executor adds to the laws of the schema. -/
structure Unsent (db : Execution) : Prop where
  slotted : Slotted db
  unsent : ∀ p ∈ db.conclusions, p.origin ≠ .reconciling → ∀ slot ∈ db.transactions.rows,
    slot.jobId ≠ p.event.jobId
  kinds : ∀ p ∈ db.conclusions, p.event.nothingSent = true → p.origin ≠ .reconciling

namespace Unsent

variable {db db' : Execution}

lemma quiet (h : Unsent db) (hq : Quiet db db') : Unsent db' where
  slotted := h.slotted.quiet hq
  unsent := by
    rw [hq.conclusions]
    intro p hp horigin slot' hslot'
    obtain ⟨slot, hslot, hsame⟩ := hq.slot_before hslot'
    rw [hsame.jobId]
    exact h.unsent p hp horigin slot hslot
  kinds := by
    rw [hq.conclusions]
    exact h.kinds

lemma stores {id : TransactionId} {attempt : Attempt} (h : Unsent db) (hs : Stores db db' id attempt) :
    Unsent db' where
  slotted := h.slotted.of_jobs (by rw [hs.slots]) fun job hjob hstate => ⟨job, by rwa [hs.jobs], rfl, hstate⟩
  unsent := by
    simp only [Execution.conclusions, hs.events, hs.slots]
    exact h.unsent
  kinds := by
    simp only [Execution.conclusions, hs.events]
    exact h.kinds

/-- A slot is opened for a queued job, which is not concluded. -/
lemma opens {slot : Slot} {attempt : Attempt} (h : Unsent db) (hs : Sound W db)
    (ho : Opens db db' slot attempt) {job : Job} (hjob : job ∈ db.jobs.rows)
    (hid : slot.jobId = job.id) (hqueued : job.state = .queued) : Unsent db' where
  slotted := h.slotted.opens ho
  unsent := by
    intro p hp horigin slot' hslot'
    simp only [Execution.conclusions, ho.events] at hp
    rw [ho.slots] at hslot'
    rcases List.mem_append.1 hslot' with hslot' | hslot'
    · exact h.unsent p hp horigin slot' hslot'
    · rw [List.mem_singleton.1 hslot', hid]
      exact (hs.not_concluded hjob hqueued hp).symm
  kinds := by
    simp only [Execution.conclusions, ho.events]
    exact h.kinds

/-- A job is concluded that has no slot, unless a slot of it is resolved with it. -/
lemma concludes {jobId : JobId} {event : ExecutionEvent} {origin : Origin} (h : Unsent db)
    (hc : Concludes db db' jobId event origin) (hjobId : event.jobId = jobId)
    (hconclusions : db'.conclusions = db.conclusions ++ [⟨event, origin⟩])
    (hnoslot : origin ≠ .reconciling → ∀ slot ∈ db.transactions.rows, slot.jobId ≠ jobId)
    (hkind : event.nothingSent = true → origin ≠ .reconciling) : Unsent db' where
  slotted := h.slotted.concludes hc
  unsent := by
    intro p hp horigin slot hslot
    rw [hc.slots] at hslot
    rw [hconclusions] at hp
    rcases List.mem_append.1 hp with hp | hp
    · exact h.unsent p hp horigin slot hslot
    · rw [List.mem_singleton.1 hp] at horigin ⊢
      rw [hjobId]
      exact hnoslot horigin slot hslot
  kinds := by
    intro p hp hsent
    rw [hconclusions] at hp
    rcases List.mem_append.1 hp with hp | hp
    · exact h.kinds p hp hsent
    · rw [List.mem_singleton.1 hp] at hsent ⊢
      exact hkind hsent

lemma accepts {job : Job} (h : Unsent db) (hs : Sound W db) (ha : Fleet.Accepts db db' job) :
    Unsent db' := by
  -- a job that was not there has no slot
  have hnoslot : ∀ slot ∈ db.transactions.rows, slot.jobId ≠ job.id := by
    intro slot hslot heq
    obtain ⟨job', hjob', hid', -⟩ := h.slotted slot hslot
    exact ha.new job' hjob' (hid'.trans heq)
  refine ⟨h.slotted.accepts ha, ?_, ?_⟩
  · intro p hp horigin slot hslot
    rw [ha.slots] at hslot
    rcases (hs.accepts ha).2 with heq | ⟨event, hevent, heq⟩
    · rw [heq] at hp
      exact h.unsent p hp horigin slot hslot
    · rw [heq] at hp
      rcases List.mem_append.1 hp with hp | hp
      · exact h.unsent p hp horigin slot hslot
      · rw [List.mem_singleton.1 hp, hevent]
        exact hnoslot slot hslot
  · intro p hp hsent
    rcases (hs.accepts ha).2 with heq | ⟨event, -, heq⟩
    · rw [heq] at hp
      exact h.kinds p hp hsent
    · rw [heq] at hp
      rcases List.mem_append.1 hp with hp | hp
      · exact h.kinds p hp hsent
      · rw [List.mem_singleton.1 hp]
        simp

end Unsent

/-- A step of a task ends with its job, or keeps it and only records progress. -/
lemma ChainWorker.TaskStep.unstarted {db db' : Execution} {sent sent' : List SignedTransaction}
    {task : Task} {next : Next} (h : W.TaskStep db sent task db' sent' next) :
    next.unstarted = none ∨ (next.unstarted = task.unstarted ∧ Quiet db db') := by
  cases h with
  | reconcile t newest answers now action hnode hnewest h =>
    left
    cases action with
    | onMined txHash receipt =>
      simp only [Action.next]
      split <;> rfl
    | _ => rfl
  | onMined t txHash receipt answers finality hnode h =>
    left
    cases finality <;> rfl
  | reportStall t resend =>
    left
    cases resend <;> rfl
  | stallReported t resend =>
    left
    cases resend <;> rfl
  | start job lane answers seconds action hnode h =>
    right
    cases action <;> exact ⟨rfl, Quiet.refl db⟩
  | startFailed => exact Or.inr ⟨rfl, Quiet.refl db⟩
  | concludeFailed => exact Or.inr ⟨rfl, Quiet.refl db⟩
  | beginFailed => exact Or.inr ⟨rfl, Quiet.refl db⟩
  | fail job error lane =>
    right
    unfold ChainWorker.onError
    split <;> exact ⟨rfl, Quiet.refl db⟩
  | _ => exact Or.inl rfl

/-- What a task of the only executor is about to conclude: the job is not one of the others in
hand, and it has no slot unless a slot of it is resolved with it. -/
lemma Task.Good.alone {db : Execution} {task : Task} {others : List Job} {jobId : JobId}
    {event : ExecutionEvent} {origin : Origin} (hg : task.Good W db) (hu : Unsent db)
    (hq : Queue db (task.unstarted.toList ++ others))
    (htask : task.conclusion = some (jobId, event, origin)) :
    (∀ other ∈ others, other.id ≠ jobId) ∧
      (origin ≠ .reconciling → ∀ slot ∈ db.transactions.rows, slot.jobId ≠ jobId) ∧
      (event.nothingSent = true → origin ≠ .reconciling) := by
  have hstarting : ∀ job : Job, task.unstarted = some job →
      (∀ other ∈ others, other.id ≠ job.id) ∧ ∀ slot ∈ db.transactions.rows, slot.jobId ≠ job.id := by
    intro job hjob
    rw [hjob] at hq
    have hq : Queue db (job :: others) := hq
    obtain ⟨row, hrow, hrowId, hqueued⟩ := hq.queued job (List.mem_cons_self ..)
    refine ⟨hq.head_notMem, ?_⟩
    rw [← hrowId]
    exact hu.slotted.free hrow hqueued
  cases task with
  | resolve t c st e =>
    cases htask
    obtain ⟨ht, -, -, hsent⟩ := hg
    refine ⟨fun other hother heq => ?_, by simp, fun hsent' => ?_⟩
    · -- the job has a slot, so it is not queued
      obtain ⟨slot, hslot, hsame⟩ := ht.slot
      obtain ⟨row, hrow, hrowId, hqueued⟩ := hq.queued other (List.mem_append_right _ hother)
      exact hu.slotted.free hrow hqueued slot hslot (by rw [hsame.jobId, ht.jobId, hrowId, heq])
    · rw [hsent] at hsent'
      cases hsent'
  | conclude job e lane =>
    cases htask
    obtain ⟨hothers, hslots⟩ := hstarting job rfl
    exact ⟨hothers, fun _ => hslots, by simp⟩
  | rejectJob job e lane =>
    cases htask
    obtain ⟨hothers, hslots⟩ := hstarting job rfl
    exact ⟨hothers, fun _ => hslots, by simp⟩
  | _ => cases htask

/-- A step of a task of the only executor. -/
lemma solo_task {db db' : Execution} {sent sent' : List SignedTransaction} {task : Task} {next : Next}
    {others : List Job} (hstep : W.TaskStep db sent task db' sent' next) (hg : task.Good W db)
    (hs : Sound W db) (hu : Unsent db) (hq : Queue db (task.unstarted.toList ++ others)) :
    Unsent db' ∧ Queue db' (next.unstarted.toList ++ others) := by
  rcases hstep.unstarted with hnone | ⟨hsame, hquiet⟩
  · rw [hnone, Option.toList_none, List.nil_append]
    have hothers : Queue db others := hq.subperm (List.sublist_append_right _ _).subperm
    cases hstep.change with
    | quiet h => exact ⟨hu.quiet h, hothers.quiet h⟩
    | stores t attempt _ h =>
      refine ⟨hu.stores h, hothers.of_rows fun job _ row hrow _ hqueued => ?_⟩
      exact ⟨row, by rwa [h.jobs], rfl, hqueued⟩
    | opens job new rest now id htask h =>
      rw [htask] at hg hq
      have hjobId : new.jobId = job.id := hg.2.1
      have hq : Queue db (job :: others) := hq
      obtain ⟨row, hrow, hrowId, hqueued⟩ := hq.queued job (List.mem_cons_self ..)
      refine ⟨hu.opens hs h hrow (hjobId.trans hrowId.symm) hqueued, hothers.opens h ?_⟩
      show ∀ other ∈ others, other.id ≠ new.jobId
      rw [hjobId]
      exact hq.head_notMem
    | concludes jobId event origin db₁ htask hquiet h =>
      obtain ⟨hjobId, hterminal⟩ := hg.conclusion htask
      obtain ⟨-, hconclusions⟩ := (hs.quiet hquiet).concludes h hjobId hterminal
      obtain ⟨hne, hnoslot, hkind⟩ :=
        (hg.grows hquiet.grows).alone (hu.quiet hquiet) (hq.quiet hquiet) htask
      exact ⟨(hu.quiet hquiet).concludes h hjobId hconclusions hnoslot hkind,
        (hothers.quiet hquiet).concludes h hne⟩
  · rw [hsame]
    exact ⟨hu.quiet hquiet, hq.quiet hquiet⟩

namespace Fleet

variable {f f' : Fleet}

/-- What holds when one executor runs. -/
structure Solo (W : ChainWorker) (f : Fleet) : Prop where
  durable : Durable W f
  unsent : Unsent f.db
  queue : Queue f.db (f.passes 0).unstarted

lemma Solo.start : Solo W Fleet.start where
  durable := Durable.start
  unsent := ⟨by simp [Slotted, Fleet.start, Execution.empty], by simp [Fleet.start, Execution.empty,
    Execution.conclusions], by simp [Fleet.start, Execution.empty, Execution.conclusions]⟩
  queue := ⟨by simp [Fleet.start, Pass.unstarted, Pass.held], by simp [Fleet.start, Pass.unstarted, Pass.held]⟩

/-- What an executor reads from the queue. -/
lemma queue_queuedJobs (db : Execution) (now : Time) (chainId : ChainId) :
    Queue db (db.queuedJobs now chainId) where
  nodup := by
    have hperm := (List.mergeSort_perm (db.jobs.rows.filter fun job =>
      decide (job.chainId = chainId ∧ job.state = .queued ∧ job.nextAttemptAt ≤ now))
      fun a b => decide (a.acceptedAt ≤ b.acceptedAt)).map (·.id)
    exact hperm.nodup_iff.2 (db.jobs.nodup.sublist (List.filter_sublist.map _))
  queued := by
    intro job hjob
    obtain ⟨hrow, hqueued⟩ := queuedJobs_mem hjob
    exact ⟨job, hrow, rfl, hqueued⟩

lemma Solo.workerStep (hf : Solo W f) (h : WorkerStep W 0 f f') :
    Unsent f'.db ∧ Queue f'.db (f'.passes 0).unstarted := by
  rcases h.held with ⟨task, after, pending, others, next, hruns, hstep, hpass⟩ | ⟨hdb, hpass⟩
  · have hgood := hruns.good (hf.durable.passes 0)
    obtain ⟨hu, hq⟩ := solo_task hstep hgood hf.durable.sound hf.unsent
      (hf.queue.subperm (hruns.held_before Task.unstarted).symm.subperm)
    rw [hpass]
    exact ⟨hu, hq.subperm (hruns.held_after Task.unstarted next)⟩
  · rw [hdb]
    refine ⟨hf.unsent, ?_⟩
    rcases hpass with ⟨now, hpass⟩ | hheld
    · rw [hpass]
      exact queue_queuedJobs ..
    · exact hf.queue.subperm (hheld Task.unstarted (fun _ _ => rfl) fun _ => rfl)

lemma Solo.step (hf : Solo W f) (h : SoloStep W f f') : Solo W f' := by
  rcases h with h | h
  · obtain ⟨-, hpasses, hdb | ⟨job, haccept⟩⟩ := h.change
    · exact ⟨hf.durable.handlerStep h, by rw [hdb]; exact hf.unsent, by rw [hdb, hpasses]; exact hf.queue⟩
    · refine ⟨hf.durable.handlerStep h, hf.unsent.accepts hf.durable.sound haccept, ?_⟩
      rw [hpasses]
      refine hf.queue.of_rows fun _ _ row hrow _ hqueued => ⟨row, ?_, rfl, hqueued⟩
      rw [haccept.jobs]
      exact List.mem_append_left _ hrow
  · obtain ⟨hu, hq⟩ := hf.workerStep h
    exact ⟨hf.durable.workerStep h, hu, hq⟩

/-- The step was found to have been executed by somebody else. -/
def executedElsewhere : ExecutionEvent → Bool
  | .withdrawalStepFinalized _ _ _ _ (.executedElsewhere _) => true
  | _ => false

/-- In every run of one executor: what was sent is stored; the attempts of a slot have its lane,
nonce, target and gas limit and its job's input; a signer has one open slot; a job's one conclusion
is published when it is resolved; and a job that was concluded without sending anything has no
stored attempt. -/
theorem executor_stores_what_it_sends_and_concludes_once (W : ChainWorker) (f : Fleet)
    (h : Relation.ReflTransGen (SoloStep W) Fleet.start f) :
    (∀ raw ∈ f.sent, ∃ row ∈ f.db.attempts.rows, row.attempt.rawTransaction = raw) ∧
    (∀ row ∈ f.db.attempts.rows, ∃ slot ∈ f.db.transactions.rows, slot.id = row.transactionId ∧
      row.attempt.rawTransaction.signer = slot.signer ∧
      row.attempt.rawTransaction.nonce = slot.nonce ∧
      row.attempt.rawTransaction.target = slot.target ∧
      row.attempt.rawTransaction.gasLimit = slot.gasLimit ∧
      ∃ job ∈ f.db.jobs.rows, job.id = slot.jobId ∧
        row.attempt.rawTransaction.calldata = W.calldata job.command ∧
        ∀ command, job.command = .withdrawalStep command →
          row.attempt.rawTransaction.calldata = slot.calldata) ∧
    (∀ slot ∈ f.db.transactions.rows, ∀ slot' ∈ f.db.transactions.rows, slot.state.isOpen = true →
      slot'.state.isOpen = true → slot.chainId = slot'.chainId → slot.signer = slot'.signer →
        slot = slot') ∧
    (∀ job ∈ f.db.jobs.rows, f.db.conclusionsOf job.id = job.state.resolution.toList) ∧
    ∀ p ∈ f.db.conclusions, (p.event.nothingSent = true ∨
        (executedElsewhere p.event = true ∧ p.origin = .starting)) →
      ∀ row ∈ f.db.attempts.rows, ∀ slot ∈ f.db.transactions.rows, slot.id = row.transactionId →
        slot.jobId ≠ p.event.jobId := by
  have hsolo : Solo W f := by
    induction h with
    | refl => exact Solo.start
    | tail _ hstep ih => exact ih.step hstep
  have hsound := hsolo.durable.sound
  refine ⟨hsolo.durable.sent, ?_, hsound.lanes, hsound.conclusions, ?_⟩
  · intro row hrow
    obtain ⟨slot, hslot, hid, job, hjob, hjobId, hfits⟩ := hsound.attempts row hrow
    obtain ⟨job', hjob', hjobId', -, hcalldata, -⟩ := hsound.slots slot hslot
    have heq : job' = job := f.db.jobs.eq_of_key_eq hjob' hjob (hjobId'.trans hjobId.symm)
    refine ⟨slot, hslot, hid, hfits.signer, hfits.nonce, hfits.target, hfits.gasLimit, job, hjob, hjobId,
      hfits.calldata, fun command hcommand => ?_⟩
    rw [hfits.calldata, hcalldata, heq, hcommand]
    rfl
  · intro p hp hnothing row _ slot hslot _
    refine hsolo.unsent.unsent p hp ?_ slot hslot
    rcases hnothing with hnothing | ⟨-, horigin⟩
    · exact hsolo.unsent.kinds p hp hnothing
    · rw [horigin]
      simp

/-- One executor starts a sweep of one request and hands its bytes to a node. -/
lemma sampleJob_sent : ∃ f, Relation.ReflTransGen (SoloStep sampleWorker) start f ∧
    f.sent = [(sampleNew 11).attempt.rawTransaction] ∧
    f.db.transactions.rows = [(sampleNew 11).slot 1 1] ∧
    f.db.attempts.rows = [⟨1, (sampleNew 11).attempt⟩] := by
  have h₁ : Relation.ReflTransGen (SoloStep sampleWorker) start ⟨acceptedDb, [], fun _ => .idle⟩ :=
    Relation.ReflTransGen.single (Or.inl (.accept 0 sampleCommand))
  have h₂ := h₁.tail (Or.inr (.openTransactions rfl))
  have h₃ := h₂.tail (Or.inr (.queuedJobs 0 rfl))
  have h₄ := h₃.tail (Or.inr (.busySigners [sampleJob] [11, 12]
    (congrArg Pass.queued queuedJobs_acceptedDb) (List.Perm.refl _)))
  have h₅ := h₄.tail (Or.inr (.fill sampleJob [] 11 [12] [] rfl))
  have h₆ := h₅.tail (Or.inr (.run [] [12] [] [] (.start sampleJob [11]) _ _ _ rfl
    (.start _ _ sampleAnswers 0 _ trivial (tryStart_sampleJob 11))))
  have h₇ := h₆.tail (Or.inr (.run [] [12] [] [] (.beginTransaction sampleJob (sampleNew 11) [])
    _ _ _ rfl (.beginTransaction _ _ _ 1 1 _ rfl)))
  have h₈ := h₇.tail (Or.inr (.run [] [12] [] [] _ _ _ _ rfl (.broadcast _ _)))
  exact ⟨_, h₈, rfl, rfl, rfl⟩

theorem executor_stores_what_it_sends_sampleJob : ∃ f,
    Relation.ReflTransGen (SoloStep sampleWorker) start f ∧ f.sent ≠ [] ∧
    ∀ raw ∈ f.sent, ∃ row ∈ f.db.attempts.rows, row.attempt.rawTransaction = raw := by
  obtain ⟨f, hrun, hsent, -, -⟩ := sampleJob_sent
  refine ⟨f, hrun, ?_, (executor_stores_what_it_sends_and_concludes_once sampleWorker f hrun).1⟩
  rw [hsent]
  simp

/-- A sweep's slot has no input of its own: its attempts carry the input encoded from the command. -/
theorem sweep_attempts_leave_the_slot_calldata : ∃ f,
    Relation.ReflTransGen (SoloStep sampleWorker) start f ∧
    ∃ slot ∈ f.db.transactions.rows, ∃ row ∈ f.db.attempts.rows, row.transactionId = slot.id ∧
      row.attempt.rawTransaction.calldata ≠ slot.calldata := by
  obtain ⟨f, hrun, -, hslots, hattempts⟩ := sampleJob_sent
  refine ⟨f, hrun, (sampleNew 11).slot 1 1, by simp [hslots], ⟨1, (sampleNew 11).attempt⟩,
    by simp [hattempts], rfl, ?_⟩
  show sampleWorker.calldata sampleCommand ≠ .bytes []
  simp [ChainWorker.calldata, sampleCommand]

end Fleet

end Payday.Signers
