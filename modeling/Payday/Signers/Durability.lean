/-
# What is sent is stored, and a job is concluded once

The laws of the execution schema, over every run of the executors.  Bytes are handed to a node only
after they were stored; the attempts of a slot differ in their fees only; a signer has one open slot
on the chain; and a job is resolved by the transaction that publishes its one conclusion.  When a
single executor runs, a conclusion that was reached while the job was being started also means that
the job has no slot: the job was still queued, and jobs with a slot are not.
-/
import Payday.Signers.Memory

namespace Payday.Signers

open ChainWorker

variable {W : ChainWorker} {db db' : Execution}

/-- The event that resolved a job. -/
def JobState.resolution : JobState → Option ExecutionEvent
  | resolved _ _ event => some event
  | queued | executing => none

/-- The published conclusions of a job. -/
def Execution.conclusionsOf (db : Execution) (jobId : JobId) : List ExecutionEvent :=
  (db.conclusions.filter fun p => decide (p.event.jobId = jobId)).map (·.event)

/-- The laws of the schema. -/
structure Sound (W : ChainWorker) (db : Execution) : Prop where
  slots : ∀ slot ∈ db.transactions.rows, ∃ job ∈ db.jobs.rows, job.id = slot.jobId ∧
    slot.target = W.target job.command ∧ slot.calldata = slotCalldata job.command ∧
    slot.chainId = W.config.chainId
  attempts : ∀ row ∈ db.attempts.rows, ∃ slot ∈ db.transactions.rows, slot.id = row.transactionId ∧
    ∃ job ∈ db.jobs.rows, job.id = slot.jobId ∧ Fits W slot job.command row.attempt
  lanes : ∀ slot ∈ db.transactions.rows, ∀ slot' ∈ db.transactions.rows, slot.state.isOpen = true →
    slot'.state.isOpen = true → slot.chainId = slot'.chainId → slot.signer = slot'.signer → slot = slot'
  /-- A job is resolved with the one conclusion that is published for it. -/
  conclusions : ∀ job ∈ db.jobs.rows, db.conclusionsOf job.id = job.state.resolution.toList
  concluded : ∀ p ∈ db.conclusions, ∃ job ∈ db.jobs.rows, job.id = p.event.jobId

lemma Sound.empty : Sound W Execution.empty where
  slots := by simp [Execution.empty]
  attempts := by simp [Execution.empty]
  lanes := by simp [Execution.empty]
  conclusions := by simp [Execution.empty]
  concluded := by simp [Execution.empty, Execution.conclusions]

/-- Bytes that fit a slot fit it later on. -/
lemma Fits.same {slot slot' : Slot} {command : ExecutionCommand} {attempt : Attempt}
    (h : Fits W slot command attempt) (hsame : slot.Same slot') : Fits W slot' command attempt where
  signer := h.signer.trans hsame.signer.symm
  chainId := h.chainId.trans hsame.chainId.symm
  nonce := h.nonce.trans hsame.nonce.symm
  target := h.target.trans hsame.target.symm
  gasLimit := h.gasLimit.trans hsame.gasLimit.symm
  calldata := h.calldata
  txHash := h.txHash

/-- What the schema says of slots and attempts is kept when rows are only added. -/
lemma Sound.slot_grows {slot : Slot} (hg : Grows db db')
    (h : ∃ job ∈ db.jobs.rows, job.id = slot.jobId ∧ slot.target = W.target job.command ∧
      slot.calldata = slotCalldata job.command ∧ slot.chainId = W.config.chainId)
    {slot' : Slot} (hsame : slot.Same slot') :
    ∃ job ∈ db'.jobs.rows, job.id = slot'.jobId ∧ slot'.target = W.target job.command ∧
      slot'.calldata = slotCalldata job.command ∧ slot'.chainId = W.config.chainId := by
  obtain ⟨job, hjob, hid, htarget, hcalldata, hchain⟩ := h
  obtain ⟨job', hjob', hid', hcommand⟩ := hg.jobs job hjob
  exact ⟨job', hjob', by rw [hid', hid, hsame.jobId], by rw [hsame.target, htarget, hcommand],
    by rw [hsame.calldata, hcalldata, hcommand], hsame.chainId.trans hchain⟩

lemma Sound.attempt_grows {row : AttemptRow} (hg : Grows db db')
    (h : ∃ slot ∈ db.transactions.rows, slot.id = row.transactionId ∧
      ∃ job ∈ db.jobs.rows, job.id = slot.jobId ∧ Fits W slot job.command row.attempt)
    {row' : AttemptRow} (hsame : row.Same row') :
    ∃ slot ∈ db'.transactions.rows, slot.id = row'.transactionId ∧
      ∃ job ∈ db'.jobs.rows, job.id = slot.jobId ∧
        Fits W slot job.command row'.attempt := by
  obtain ⟨slot, hslot, hid, job, hjob, hjobId, hfits⟩ := h
  obtain ⟨slot', hslot', hslotSame⟩ := hg.slots slot hslot
  obtain ⟨job', hjob', hjobId', hcommand⟩ := hg.jobs job hjob
  refine ⟨slot', hslot', by rw [hslotSame.id, hid, hsame.transactionId], job', hjob',
    by rw [hjobId', hjobId, hslotSame.jobId], ?_⟩
  have hfits := hfits.same hslotSame
  rw [hcommand]
  exact ⟨by rw [hsame.rawTransaction, hfits.signer], by rw [hsame.rawTransaction, hfits.chainId],
    by rw [hsame.rawTransaction, hfits.nonce], by rw [hsame.rawTransaction, hfits.target],
    by rw [hsame.rawTransaction, hfits.gasLimit], by rw [hsame.rawTransaction, hfits.calldata],
    by rw [hsame.rawTransaction, hsame.txHash, hfits.txHash]⟩

lemma Sound.quiet (hs : Sound W db) (h : Quiet db db') : Sound W db' where
  slots := by
    intro slot' hslot'
    obtain ⟨slot, hslot, hsame⟩ := h.slot_before hslot'
    exact slot_grows h.grows (hs.slots slot hslot) hsame
  attempts := by
    intro row' hrow'
    obtain ⟨row, hrow, hsame⟩ := h.attempt_before hrow'
    exact attempt_grows h.grows (hs.attempts row hrow) hsame
  lanes := by
    obtain ⟨g, hrows, hsame⟩ := h.slots
    intro a ha b hb hopen hopen' hchain hsigner
    rw [hrows] at ha hb
    obtain ⟨a₀, ha₀, rfl⟩ := List.mem_map.1 ha
    obtain ⟨b₀, hb₀, rfl⟩ := List.mem_map.1 hb
    rw [(hsame a₀).chainId, (hsame b₀).chainId] at hchain
    rw [(hsame a₀).signer, (hsame b₀).signer] at hsigner
    rw [hs.lanes a₀ ha₀ b₀ hb₀ ((hsame a₀).isOpen hopen) ((hsame b₀).isOpen hopen') hchain hsigner]
  conclusions := by
    intro job' hjob'
    obtain ⟨job, hjob, hsame⟩ := h.job_before hjob'
    rw [Execution.conclusionsOf, h.conclusions, hsame.id, hsame.state]
    exact hs.conclusions job hjob
  concluded := by
    rw [h.conclusions]
    intro p hp
    obtain ⟨job, hjob, hid⟩ := hs.concluded p hp
    obtain ⟨job', hjob', hsame⟩ := h.job_after hjob
    exact ⟨job', hjob', hsame.id.trans hid⟩

/-- An attempt is stored that fits its slot. -/
lemma Sound.stores {id : TransactionId} {attempt : Attempt} (hs : Sound W db)
    (h : Stores db db' id attempt)
    (hfits : ∃ slot ∈ db.transactions.rows, slot.id = id ∧ ∃ job ∈ db.jobs.rows, job.id = slot.jobId ∧
      Fits W slot job.command attempt) : Sound W db' where
  slots := by
    rw [h.slots, h.jobs]
    exact hs.slots
  attempts := by
    rw [h.attempts, h.slots, h.jobs]
    intro row hrow
    rcases List.mem_append.1 hrow with hrow | hrow
    · exact hs.attempts row hrow
    · rw [List.mem_singleton.1 hrow]
      exact hfits
  lanes := by
    rw [h.slots]
    exact hs.lanes
  conclusions := by
    rw [h.jobs]
    simp only [Execution.conclusionsOf, Execution.conclusions, h.events]
    exact hs.conclusions
  concluded := by
    rw [h.jobs]
    simp only [Execution.conclusions, h.events]
    exact hs.concluded

/-- A slot is opened for a job, and fits it. -/
lemma Sound.opens {slot : Slot} {attempt : Attempt} (hs : Sound W db) (h : Opens db db' slot attempt)
    {job : Job} (hjob : job ∈ db.jobs.rows) (hid : job.id = slot.jobId)
    (htarget : slot.target = W.target job.command) (hcalldata : slot.calldata = slotCalldata job.command)
    (hchain : slot.chainId = W.config.chainId) (hfits : Fits W slot job.command attempt) :
    Sound W db' where
  slots := by
    intro slot' hslot'
    rw [h.slots] at hslot'
    rcases List.mem_append.1 hslot' with hslot' | hslot'
    · exact slot_grows h.grows (hs.slots slot' hslot') (Slot.Same.refl slot')
    · rw [List.mem_singleton.1 hslot']
      exact slot_grows h.grows ⟨job, hjob, hid, htarget, hcalldata, hchain⟩ (Slot.Same.refl slot)
  attempts := by
    intro row hrow
    rw [h.attempts] at hrow
    rcases List.mem_append.1 hrow with hrow | hrow
    · exact attempt_grows h.grows (hs.attempts row hrow) (AttemptRow.Same.refl row)
    · obtain ⟨job', hjob', hid', hcommand⟩ := h.grows.jobs job hjob
      rw [List.mem_singleton.1 hrow]
      exact ⟨slot, by rw [h.slots]; simp, rfl, job', hjob', hid'.trans hid, by rwa [hcommand]⟩
  lanes := by
    intro a ha b hb hopen hopen' hchains hsigner
    rw [h.slots, List.mem_append, List.mem_singleton] at ha hb
    rcases ha with ha | rfl <;> rcases hb with hb | rfl
    · exact hs.lanes a ha b hb hopen hopen' hchains hsigner
    · rw [h.lane a ha hchains hsigner] at hopen
      cases hopen
    · rw [h.lane b hb hchains.symm hsigner.symm] at hopen'
      cases hopen'
    · rfl
  conclusions := by
    intro job' hjob'
    rw [h.jobs] at hjob'
    obtain ⟨job₀, hjob₀, rfl⟩ := List.mem_map.1 hjob'
    have hold := hs.conclusions job₀ hjob₀
    simp only [Execution.conclusionsOf, Execution.conclusions, h.events] at hold ⊢
    split
    · rename_i hqueued
      rw [hqueued.2] at hold
      exact hold
    · exact hold
  concluded := by
    intro p hp
    simp only [Execution.conclusions, h.events] at hp
    obtain ⟨job₀, hjob₀, hid₀⟩ := hs.concluded p hp
    obtain ⟨job', hjob', hid', -⟩ := h.grows.jobs job₀ hjob₀
    exact ⟨job', hjob', hid'.trans hid₀⟩

/-- Only a conclusion of the same job has the key of a conclusion. -/
lemma terminal_of_key {event event' : ExecutionEvent} (h : event'.deduplicationKey = event.deduplicationKey)
    (hterminal : event.isTerminal = true) : event'.isTerminal = true ∧ event'.jobId = event.jobId := by
  cases event <;> cases event' <;>
    simp_all [ExecutionEvent.deduplicationKey, ExecutionEvent.isTerminal, ExecutionEvent.jobId,
      ExecutionEvent.kind]

/-- A conclusion that no conclusion of the job precedes is published. -/
lemma conclusions_of_append {event : ExecutionEvent} {origin : Origin} {events events' : List Publication}
    (hevents : events' = events ++ [⟨event, origin⟩] ∨ (events' = events ∧
      ∃ p ∈ events, p.event.deduplicationKey = event.deduplicationKey))
    (hterminal : event.isTerminal = true)
    (hnone : ∀ p ∈ events, p.event.isTerminal = true → p.event.jobId ≠ event.jobId) :
    events'.filter (fun p => p.event.isTerminal) =
      events.filter (fun p => p.event.isTerminal) ++ [⟨event, origin⟩] := by
  rcases hevents with rfl | ⟨-, p, hp, hkey⟩
  · simp [List.filter_append, hterminal]
  · obtain ⟨hp', hjob⟩ := terminal_of_key hkey hterminal
    exact absurd hjob (hnone p hp hp')

lemma Sound.concludes {jobId : JobId} {event : ExecutionEvent} {origin : Origin} (hs : Sound W db)
    (h : Concludes db db' jobId event origin) (hjobId : event.jobId = jobId)
    (hterminal : event.isTerminal = true) :
    Sound W db' ∧ db'.conclusions = db.conclusions ++ [⟨event, origin⟩] := by
  obtain ⟨conclusion, now, hjobs⟩ := h.jobs
  obtain ⟨job, hjob, hid, hopen⟩ := h.job
  -- the job is open, so nothing is published for it
  have hnone : ∀ p ∈ db.events, p.event.isTerminal = true → p.event.jobId ≠ event.jobId := by
    intro p hp hp' heq
    have hlist := hs.conclusions job hjob
    have hres : job.state.resolution = none := by
      cases hstate : job.state with
      | resolved =>
        rw [hstate] at hopen
        cases hopen
      | queued => rfl
      | executing => rfl
    rw [hres] at hlist
    have hmem : p.event ∈ db.conclusionsOf job.id := by
      refine List.mem_map_of_mem (List.mem_filter.2 ⟨List.mem_filter.2 ⟨hp, hp'⟩, ?_⟩)
      simp [heq, hjobId, hid]
    rw [hlist] at hmem
    cases hmem
  have hconclusions : db'.conclusions = db.conclusions ++ [⟨event, origin⟩] :=
    conclusions_of_append h.events hterminal hnone
  have hof : ∀ id, db'.conclusionsOf id =
      db.conclusionsOf id ++ if event.jobId = id then [event] else [] := by
    intro id
    simp only [Execution.conclusionsOf, hconclusions, List.filter_append, List.map_append]
    congr 1
    by_cases hid : event.jobId = id <;> simp [hid]
  refine ⟨⟨?_, ?_, by rw [h.slots]; exact hs.lanes, ?_, ?_⟩, hconclusions⟩
  · intro slot hslot
    rw [h.slots] at hslot
    exact slot_grows h.grows (hs.slots slot hslot) (Slot.Same.refl slot)
  · intro row hrow
    rw [h.attempts] at hrow
    exact attempt_grows h.grows (hs.attempts row hrow) (AttemptRow.Same.refl row)
  · intro job' hjob'
    rw [hjobs] at hjob'
    obtain ⟨job₀, hjob₀, rfl⟩ := List.mem_map.1 hjob'
    have hold := hs.conclusions job₀ hjob₀
    split
    · -- the job itself
      rename_i hit
      have heq : job₀ = job := db.jobs.eq_of_key_eq hjob₀ hjob (by rw [hit.1, hid])
      have hempty : db.conclusionsOf job₀.id = [] := by
        rw [hold]
        cases hstate : job₀.state with
        | resolved =>
          rw [hstate] at hit
          cases hit.2
        | queued => rfl
        | executing => rfl
      show db'.conclusionsOf job₀.id = _
      rw [hof, hempty, if_pos (by rw [hjobId, hit.1])]
      rfl
    · rename_i hmiss
      rw [hof, if_neg, List.append_nil, hold]
      intro heq
      have heq' : job₀ = job := db.jobs.eq_of_key_eq hjob₀ hjob (by rw [← heq, hjobId, hid])
      exact hmiss ⟨by rw [heq', hid], by rw [heq']; exact hopen⟩
  · intro p hp
    rw [hconclusions] at hp
    rcases List.mem_append.1 hp with hp | hp
    · obtain ⟨job₀, hjob₀, hid₀⟩ := hs.concluded p hp
      obtain ⟨job', hjob', hid', -⟩ := h.grows.jobs job₀ hjob₀
      exact ⟨job', hjob', hid'.trans hid₀⟩
    · obtain ⟨job', hjob', hid', -⟩ := h.grows.jobs job hjob
      rw [List.mem_singleton.1 hp]
      exact ⟨job', hjob', by rw [hid', hid, hjobId]⟩

lemma Sound.accepts {job : Job} (hs : Sound W db) (h : Fleet.Accepts db db' job) :
    Sound W db' ∧ (db'.conclusions = db.conclusions ∨
      ∃ event, event.jobId = job.id ∧ db'.conclusions = db.conclusions ++ [⟨event, .accepting⟩]) := by
  -- nothing is published for a job that was not there
  have hnone : ∀ p ∈ db.conclusions, p.event.jobId ≠ job.id := by
    intro p hp heq
    obtain ⟨other, hother, hid⟩ := hs.concluded p hp
    exact h.new other hother (hid.trans heq)
  have hconclusions : db'.conclusions = db.conclusions ++
      (job.state.resolution.map fun event => (⟨event, .accepting⟩ : Publication)).toList ∧
      ∀ event, job.state.resolution = some event → event.jobId = job.id := by
    rcases h.events with ⟨hqueued, hevents⟩ | ⟨conclusion, now, event, hstate, hjobId, hterminal, -, hevents⟩
    · rw [hqueued]
      exact ⟨by simp [Execution.conclusions, hevents, JobState.resolution], by simp [JobState.resolution]⟩
    · rw [hstate]
      refine ⟨conclusions_of_append hevents hterminal fun p hp hp' => ?_, ?_⟩
      · rw [hjobId]
        exact hnone p (List.mem_filter.2 ⟨hp, hp'⟩)
      · rintro event' hevent
        cases hevent
        exact hjobId
  obtain ⟨hconclusions, hjobId⟩ := hconclusions
  refine ⟨⟨?_, ?_, by rw [h.slots]; exact hs.lanes, ?_, ?_⟩, ?_⟩
  · intro slot hslot
    rw [h.slots] at hslot
    exact slot_grows h.grows (hs.slots slot hslot) (Slot.Same.refl slot)
  · intro row hrow
    rw [h.attempts] at hrow
    exact attempt_grows h.grows (hs.attempts row hrow) (AttemptRow.Same.refl row)
  · intro job' hjob'
    rw [h.jobs] at hjob'
    simp only [Execution.conclusionsOf, hconclusions, List.filter_append, List.map_append]
    rcases List.mem_append.1 hjob' with hjob' | hjob'
    · -- a job that was there
      have hold := hs.conclusions job' hjob'
      rw [Execution.conclusionsOf] at hold
      rw [hold]
      rcases hres : job.state.resolution with _ | event
      · simp
      · have hne : event.jobId ≠ job'.id := by
          rw [hjobId event hres]
          exact (h.new job' hjob').symm
        simp [hne]
    · rw [List.mem_singleton.1 hjob']
      have hold : db.conclusions.filter (fun p => decide (p.event.jobId = job.id)) = [] := by
        rw [List.filter_eq_nil_iff]
        intro p hp
        simpa using hnone p hp
      rw [hold]
      rcases hres : job.state.resolution with _ | event
      · simp
      · simp [hjobId event hres]
  · intro p hp
    rw [hconclusions] at hp
    rw [h.jobs]
    rcases List.mem_append.1 hp with hp | hp
    · obtain ⟨other, hother, hid⟩ := hs.concluded p hp
      exact ⟨other, List.mem_append_left _ hother, hid⟩
    · rcases hres : job.state.resolution with _ | event
      · simp [hres] at hp
      · have hp : p = ⟨event, .accepting⟩ := by simpa [hres] using hp
        rw [hp]
        exact ⟨job, by simp, (hjobId event hres).symm⟩
  · rcases hres : job.state.resolution with _ | event
    · left
      simp [hconclusions, hres]
    · right
      exact ⟨event, hjobId event hres, by simp [hconclusions, hres]⟩

/-! ### Tasks -/

/-- The slot of a task in the schema, with its job. -/
lemma Known.row {t : OpenTransaction} (h : Known W db t) : ∃ slot ∈ db.transactions.rows,
    t.slot.Same slot ∧ ∃ job ∈ db.jobs.rows, job.id = slot.jobId ∧ job.command = t.job.command := by
  obtain ⟨slot, hslot, hsame⟩ := h.slot
  obtain ⟨job, hjob, hid, hcommand⟩ := h.job
  exact ⟨slot, hslot, hsame, job, hjob, by rw [hid, ← h.jobId, hsame.jobId], hcommand⟩

/-- What a task concludes is a conclusion of the job at hand. -/
lemma Task.Good.conclusion {task : Task} (hg : task.Good W db) {jobId : JobId} {event : ExecutionEvent}
    {origin : Origin} (h : task.conclusion = some (jobId, event, origin)) :
    event.jobId = jobId ∧ event.isTerminal = true := by
  cases task with
  | resolve t conclusion state e =>
    cases h
    exact ⟨hg.2.1, hg.2.2.1⟩
  | conclude job e lane =>
    cases h
    exact hg.2
  | rejectJob job e lane =>
    cases h
    exact hg.2
  | _ => cases h

/-- A step of a task keeps the laws of the schema. -/
lemma Sound.change {task : Task} (hs : Sound W db) (hg : task.Good W db) (h : Change task db db') :
    Sound W db' := by
  cases h with
  | quiet h => exact hs.quiet h
  | stores t attempt htask h =>
    subst htask
    obtain ⟨ht, hfits⟩ := hg
    obtain ⟨slot, hslot, hsame, job, hjob, hid, hcommand⟩ := ht.row
    exact hs.stores h ⟨slot, hslot, hsame.id, job, hjob, hid, by rw [hcommand]; exact hfits.same hsame⟩
  | opens job new rest now id htask h =>
    subst htask
    obtain ⟨⟨row, hrow, hid, hcommand⟩, hjobId, hchain, htarget, hcalldata, hfits⟩ := hg
    refine hs.opens h hrow (hid.trans hjobId.symm) ?_ ?_ hchain ?_
    · rw [hcommand]
      exact htarget
    · rw [hcommand]
      exact hcalldata
    · rw [hcommand]
      exact hfits now id
  | concludes jobId event origin db₁ htask hquiet h =>
    obtain ⟨hjobId, hterminal⟩ := hg.conclusion htask
    exact ((hs.quiet hquiet).concludes h hjobId hterminal).1

/-- What follows a step of a task relies on true facts, and the bytes it sent are stored. -/
lemma ChainWorker.TaskStep.good {sent sent' : List SignedTransaction} {task : Task} {next : Next}
    (h : W.TaskStep db sent task db' sent' next) (hg : task.Good W db) :
    next.Good W db' ∧ ∀ raw ∈ sent', raw ∈ sent ∨
      ∃ row ∈ db'.attempts.rows, row.attempt.rawTransaction = raw := by
  have hgrows := h.change.grows
  have hkept : ∀ raw ∈ sent, raw ∈ sent ∨
      ∃ row ∈ db'.attempts.rows, row.attempt.rawTransaction = raw := fun raw hraw => Or.inl hraw
  -- the bytes of a stored attempt
  have hsend : ∀ {id : TransactionId} {attempt : Attempt}, Stored db id attempt →
      ∀ raw ∈ sent ++ [attempt.rawTransaction], raw ∈ sent ∨
        ∃ row ∈ db.attempts.rows, row.attempt.rawTransaction = raw := by
    intro id attempt hstored raw hraw
    rcases List.mem_append.1 hraw with hraw | hraw
    · exact Or.inl hraw
    · obtain ⟨row, hrow, -, -, heq⟩ := hstored
      exact Or.inr ⟨row, hrow, by rw [heq, List.mem_singleton.1 hraw]⟩
  cases h with
  | reconcile t newest answers now action hnode hnewest h =>
    exact ⟨reconcile_good h hg (List.mem_of_getLast? hnewest), hkept⟩
  | recordMined t txHash receipt => exact ⟨Known.grows hg hgrows, hkept⟩
  | onMined t txHash receipt answers finality hnode h => exact ⟨onMined_good h hg, hkept⟩
  | clearMined t => exact ⟨trivial, hkept⟩
  | resolve t conclusion state event now _ h => exact ⟨trivial, hkept⟩
  | reportStall t resend now _ new h =>
    refine ⟨?_, hkept⟩
    cases resend with
    | none => exact trivial
    | some attempt => exact ⟨hg.1.grows hgrows, (hg.2 attempt rfl).grows hgrows⟩
  | stallReported t resend old =>
    refine ⟨?_, hkept⟩
    cases resend with
    | none => exact trivial
    | some attempt => exact ⟨hg.1, hg.2 attempt rfl⟩
  | insertAttempt t attempt _ h =>
    refine ⟨⟨hg.1.grows hgrows, ⟨t.slot.id, attempt⟩, ?_, rfl, rfl, rfl⟩, hkept⟩
    rw [(Stores.of_insertAttemptRow h).attempts]
    simp
  | touch t attempt now => exact ⟨⟨hg.1.grows hgrows, hg.2.grows hgrows⟩, hkept⟩
  | broadcast t attempt => exact ⟨hg, hsend hg.2⟩
  | broadcastUncertain t attempt => exact ⟨trivial, hsend hg.2⟩
  | markBroadcast t attempt now _ h => exact ⟨trivial, hkept⟩
  | start job lane answers seconds action hnode h => exact ⟨tryStart_good h hg lane, hkept⟩
  | startFailed => exact ⟨hg, hkept⟩
  | conclude job event lane now _ h => exact ⟨trivial, hkept⟩
  | concludeFailed => exact ⟨hg.1, hkept⟩
  | beginTransaction job new rest now id _ h =>
    obtain ⟨hjob, hjobId, hchain, htarget, hcalldata, hfits⟩ := hg
    have hopens := Opens.of_beginTransaction h
    have hslot : new.slot now id ∈ db'.transactions.rows := by
      rw [hopens.slots]
      simp
    have hstored : Stored db' id new.attempt :=
      ⟨⟨id, new.attempt⟩, by rw [hopens.attempts]; simp [Execution.NewTransaction.slot], rfl, rfl, rfl⟩
    refine ⟨⟨⟨⟨_, hslot, Slot.Same.refl _⟩, hjob.grows hgrows, hjobId, htarget, hchain, ?_⟩, hstored⟩, hkept⟩
    intro attempt hattempt
    rw [List.mem_singleton.1 hattempt]
    exact hstored
  | beginFailed => exact ⟨hg.1, hkept⟩
  | fail job error lane => exact ⟨onError_good job error lane hg, hkept⟩
  | deferJob => exact ⟨trivial, hkept⟩
  | rejectJob => exact ⟨trivial, hkept⟩
  | stop => exact ⟨trivial, hkept⟩

end Payday.Signers
