/-
# Membership and exactly-once resolution

The claim on a request, the items of a job, its command and its resolution are written by
four operations.  `Ledger.Membership` is the invariant that ties them: while a job is
unresolved, its items, its claims and its command name the same requests.  A job is resolved
by the first accepted event for it, and every other delivery leaves the ledger as it was.
-/
import Payday.Ledger.Jobs
import Payday.Ledger.Simulation

namespace Payday

/-! ### The items of a command -/

lemma sweepItems_forall₂ {L : Ledger} {rows : List Invoice} {items : List SweepItem}
    (h : sweepItems L rows = .ok items) :
    List.Forall₂ (fun row item => sweepItem row (firstObservedBlock L row.id) = .ok item)
      rows items := by
  induction rows generalizing items with
  | nil =>
    obtain rfl := Except.ok.inj h
    exact List.Forall₂.nil
  | cons row rest ih =>
    unfold sweepItems at h
    split at h
    · cases h
    · cases h
    · rename_i item items' hitem hrest
      obtain rfl := Except.ok.inj h
      exact List.Forall₂.cons hitem (ih hrest)

lemma sweepItem_invoiceId {row : Invoice} {first : Option ℕ} {item : SweepItem}
    (h : sweepItem row first = .ok item) : item.invoiceId = row.id := by
  unfold sweepItem at h
  split at h
  · cases h
  · rw [← Except.ok.inj h]

lemma firstObservedBlock_sweepItem {row : Invoice} {first : Option ℕ} {item : SweepItem}
    (h : sweepItem row first = .ok item) : item.firstObservedBlock = first := by
  unfold sweepItem at h
  split at h
  · cases h
  · obtain rfl := Except.ok.inj h
    rfl

/-- A command names the requests of its job. -/
lemma sweepItems_ids {L : Ledger} {rows : List Invoice} {items : List SweepItem}
    (h : sweepItems L rows = .ok items) : items.map (·.invoiceId) = rows.map (·.id) := by
  have hall := sweepItems_forall₂ h
  clear h
  induction hall with
  | nil => rfl
  | cons hitem _ ih => rw [List.map_cons, List.map_cons, ih, sweepItem_invoiceId hitem]

/-! ### The invariant -/

/-- Claims, items, commands and resolutions agree. -/
structure Ledger.Membership (L : Ledger) : Prop where
  /-- A claim is on an unresolved job that has an item for the request. -/
  claimed : ∀ id q j, L.request? id = some q → q.sweepJobId = some j →
    L.resolution? j = some none ∧ (j, id) ∈ L.jobItems
  /-- An item of an unresolved job is a claim. -/
  unresolved : ∀ j id, (j, id) ∈ L.jobItems → L.resolution? j = some none →
    ∃ q, L.request? id = some q ∧ q.sweepJobId = some j
  /-- Items belong to jobs. -/
  items_known : ∀ j id, (j, id) ∈ L.jobItems → L.resolution? j ≠ none
  /-- Commands belong to jobs. -/
  commands_known : ∀ command ∈ L.commands.rows, L.resolution? command.jobId ≠ none
  /-- The command of a job names exactly its items. -/
  commanded : ∀ j id, (j, id) ∈ L.jobItems ↔
    ∃ command, L.commands.find? j = some command ∧ id ∈ command.items.map (·.invoiceId)

lemma Membership.empty : Ledger.empty.Membership where
  claimed := by
    intro id q j hq
    cases hq
  unresolved := by
    intro j id hitem
    cases hitem
  items_known := by
    intro j id hitem
    cases hitem
  commands_known := by
    intro command hcommand
    cases hcommand
  commanded := by
    intro j id
    constructor
    · intro hitem
      cases hitem
    · rintro ⟨command, hcommand, -⟩
      cases hcommand

/-- The jobs of a ledger after a job was opened. -/
lemma Scheduled.resolution? {L L' : Ledger} {now : Time} {policy : SweepPolicy}
    {chainId : ChainId} {jobId : JobId} {correlationId : ℕ} {scan : SweepScan}
    {rows : List Invoice} {items : List SweepItem}
    (h : Scheduled L L' now policy chainId jobId correlationId scan rows items) (j : JobId) :
    L'.resolution? j = if j = jobId then some none else L.resolution? j := by
  have hins : L.sweepJobs.insert? ⟨jobId, chainId, correlationId, now, none, none, none⟩ =
      some L'.sweepJobs := Table.insert?_eq_some_iff.2 ⟨h.job_new, h.sweepJobs⟩
  rw [Ledger.resolution?, Table.find?_of_insert? hins]
  split
  · rfl
  · rfl

lemma Scheduled.mem_jobItems {L L' : Ledger} {now : Time} {policy : SweepPolicy}
    {chainId : ChainId} {jobId : JobId} {correlationId : ℕ} {scan : SweepScan}
    {rows : List Invoice} {items : List SweepItem}
    (h : Scheduled L L' now policy chainId jobId correlationId scan rows items) {j : JobId}
    {id : InvoiceId} :
    (j, id) ∈ L'.jobItems ↔ (j = jobId ∧ id ∈ rows.map (·.id)) ∨ (j, id) ∈ L.jobItems := by
  rw [Ledger.jobItems, h.sweepJobItems, ← List.foldl_map]
  refine Table.mem_keys_foldl_insertNew.trans (or_congr_left ?_)
  simp only [List.map_map, List.mem_map, Function.comp_apply, Prod.mk.injEq]
  constructor
  · rintro ⟨row, hrow, rfl, rfl⟩
    exact ⟨rfl, row, hrow, rfl⟩
  · rintro ⟨rfl, row, hrow, rfl⟩
    exact ⟨row, hrow, rfl, rfl⟩

lemma Scheduled.job_unknown {L L' : Ledger} {now : Time} {policy : SweepPolicy}
    {chainId : ChainId} {jobId : JobId} {correlationId : ℕ} {scan : SweepScan}
    {rows : List Invoice} {items : List SweepItem}
    (h : Scheduled L L' now policy chainId jobId correlationId scan rows items) :
    L.resolution? jobId = none := by
  rw [Ledger.resolution?, Option.map_eq_none_iff]
  exact Table.find?_eq_none_iff.2 h.job_new

/-- The commands after a job was opened. -/
lemma Scheduled.find?_commands {L L' : Ledger} {now : Time} {policy : SweepPolicy}
    {chainId : ChainId} {jobId : JobId} {correlationId : ℕ} {scan : SweepScan}
    {rows : List Invoice} {items : List SweepItem}
    (h : Scheduled L L' now policy chainId jobId correlationId scan rows items)
    (hm : L.Membership) (j : JobId) :
    L'.commands.find? j =
      if j = jobId then some ⟨jobId, chainId, items⟩ else L.commands.find? j := by
  rw [h.commands]
  refine Table.find?_insertNew_of_notMem (fun hmem => ?_) j
  obtain ⟨command, hcommand, hid⟩ := List.mem_map.1 hmem
  exact hm.commands_known command hcommand (hid ▸ h.job_unknown)

/-- Opening a job keeps the invariant. -/
lemma Membership.opened {L L' : Ledger} {now : Time} {policy : SweepPolicy}
    {chainId : ChainId} {jobId : JobId} {correlationId : ℕ} {scan : SweepScan}
    {rows : List Invoice} {items : List SweepItem} (hm : L.Membership)
    (h : Scheduled L L' now policy chainId jobId correlationId scan rows items)
    (hreq : ∀ id q', L'.request? id = some q' → ∃ q, L.request? id = some q) : L'.Membership where
  claimed := by
    intro id q' j hq' hj
    obtain ⟨q, hq⟩ := hreq id q' hq'
    obtain ⟨hout, hin⟩ := h.request hq
    rw [h.resolution?, h.mem_jobItems]
    by_cases hmem : id ∈ rows.map (·.id)
    · obtain rfl := Option.some.inj ((hin hmem).2.symm.trans hq')
      obtain rfl : jobId = j := Option.some.inj hj
      rw [if_pos rfl]
      exact ⟨rfl, Or.inl ⟨rfl, hmem⟩⟩
    · obtain rfl := Option.some.inj ((hout hmem).symm.trans hq')
      obtain ⟨hres, hitem⟩ := hm.claimed id q j hq hj
      have hne : j ≠ jobId := by
        rintro rfl
        rw [h.job_unknown] at hres
        cases hres
      rw [if_neg hne]
      exact ⟨hres, Or.inr hitem⟩
  unresolved := by
    intro j id hitem hres
    rcases h.mem_jobItems.1 hitem with ⟨rfl, hmem⟩ | hold
    · obtain ⟨row, hrow, rfl⟩ := List.mem_map.1 hmem
      have hq : L.request? row.id = some (row.request (L.observationsOf row.id)) :=
        Ledger.request?_eq_some.2
          ⟨row, Table.find?_of_mem (mem_candidates h.candidates_eq hrow).1, rfl⟩
      exact ⟨_, ((h.request hq).2 hmem).2, rfl⟩
    · have hne : j ≠ jobId := by
        rintro rfl
        exact hm.items_known j id hold h.job_unknown
      rw [h.resolution?, if_neg hne] at hres
      obtain ⟨q, hq, hj⟩ := hm.unresolved j id hold hres
      -- a claimed request is no candidate
      have hout : id ∉ rows.map (·.id) := by
        intro hmem
        have := ((h.request hq).2 hmem).1.1
        rw [hj] at this
        cases this
      exact ⟨q, (h.request hq).1 hout, hj⟩
  items_known := by
    intro j id hitem
    rw [h.resolution?]
    split
    · simp
    · rename_i hne
      rcases h.mem_jobItems.1 hitem with ⟨rfl, -⟩ | hold
      · exact absurd rfl hne
      · exact hm.items_known j id hold
  commands_known := by
    intro command hcommand
    rw [h.resolution?]
    split
    · simp
    · rename_i hne
      have hfind := Table.find?_of_mem hcommand
      rw [h.find?_commands hm, if_neg hne] at hfind
      exact hm.commands_known command (Table.mem_of_find? hfind)
  commanded := by
    intro j id
    rw [h.mem_jobItems, h.find?_commands hm]
    by_cases hj : j = jobId
    · subst hj
      rw [if_pos rfl]
      have hnone : (j, id) ∉ L.jobItems := fun hitem => hm.items_known j id hitem h.job_unknown
      constructor
      · rintro (⟨-, hmem⟩ | hold)
        · exact ⟨_, rfl, by rw [sweepItems_ids h.items_eq]; exact hmem⟩
        · exact absurd hold hnone
      · rintro ⟨command, hcommand, hmem⟩
        obtain rfl := Option.some.inj hcommand
        rw [sweepItems_ids h.items_eq] at hmem
        exact Or.inl ⟨rfl, hmem⟩
    · rw [if_neg hj]
      simp only [hj, false_and, false_or]
      exact hm.commanded j id

/-- Resolving a job whose members all leave it keeps the invariant. -/
lemma Membership.resolved {L L' : Ledger} {jobId : JobId} {resolution : JobResolution}
    {now : Time} (hm : L.Membership) (h : Resolves L L' jobId resolution now)
    (hreq : ∀ id q', L'.request? id = some q' → ∃ q, L.request? id = some q)
    (hleave : ∀ id q, L.request? id = some q → ∃ q', L'.request? id = some q' ∧
      q'.sweepJobId = if q.sweepJobId = some jobId then none else q.sweepJobId) :
    L'.Membership where
  claimed := by
    intro id q' j hq' hj
    obtain ⟨q, hq⟩ := hreq id q' hq'
    obtain ⟨q'', hq'', hleft⟩ := hleave id q hq
    obtain rfl := Option.some.inj (hq''.symm.trans hq')
    split at hleft
    · rw [hleft] at hj
      cases hj
    · rename_i hother
      rw [hleft] at hj
      obtain ⟨hres, hitem⟩ := hm.claimed id q j hq hj
      have hne : j ≠ jobId := by
        rintro rfl
        exact hother hj
      rw [h.resolution?, if_neg hne, h.jobItems]
      exact ⟨hres, hitem⟩
  unresolved := by
    intro j id hitem hres
    rw [h.jobItems] at hitem
    rw [h.resolution?] at hres
    split at hres
    · cases hres
    · rename_i hne
      obtain ⟨q, hq, hj⟩ := hm.unresolved j id hitem hres
      obtain ⟨q', hq', hleft⟩ := hleave id q hq
      rw [hj, if_neg (fun e => hne (Option.some.inj e))] at hleft
      exact ⟨q', hq', hleft⟩
  items_known := by
    intro j id hitem
    rw [h.jobItems] at hitem
    rw [h.resolution?]
    split
    · simp
    · exact hm.items_known j id hitem
  commands_known := by
    intro command hcommand
    rw [h.commands] at hcommand
    rw [h.resolution?]
    split
    · simp
    · exact hm.commands_known command hcommand
  commanded := by
    intro j id
    rw [h.jobItems, h.commands]
    exact hm.commanded j id

/-- Every transaction keeps claims, items, commands and resolutions in agreement. -/
lemma membership_step {L : Ledger} (hm : L.Membership) (now : Time) (op : Op) :
    (step L now op).Membership := by
  have hmoved : ∀ id q, L.request? id = some q →
      (step L now op).request? id = some (q.apply (L.event now op id)) :=
    fun id q hq => (request?_step now op hq).moved
  -- issuance is the one transaction that adds requests, and the new ones are unclaimed
  have hreq : ∀ id q', (step L now op).request? id = some q' →
      (∃ q, L.request? id = some q) ∨ (q'.sweepJobId = none ∧ ∃ input, op = .insertIssued input) := by
    intro id q' hq'
    rcases hq : L.request? id with _ | q
    · obtain ⟨input, hop, rfl⟩ := request?_step_issued op hq hq'
      exact Or.inr ⟨rfl, input, hop⟩
    · exact Or.inl ⟨q, rfl⟩
  have hold : (∀ input, op ≠ .insertIssued input) → ∀ id q', (step L now op).request? id = some q' →
      ∃ q, L.request? id = some q := by
    intro hop id q' hq'
    rcases hreq id q' hq' with h | ⟨-, input, hinput⟩
    · exact h
    · exact absurd hinput (hop input)
  cases step_jobEffect L now op with
  | unchanged h =>
    rw [h]
    exact hm
  | kept h hop =>
    refine ⟨?_, ?_, ?_, ?_, ?_⟩
    · intro id q' j hq' hj
      rcases hreq id q' hq' with ⟨q, hq⟩ | ⟨hnone, -⟩
      · obtain rfl := Option.some.inj ((hmoved id q hq).symm.trans hq')
        rw [event_keeps_job hop] at hj
        rw [h.resolution?, h.jobItems]
        exact hm.claimed id q j hq hj
      · rw [hnone] at hj
        cases hj
    · intro j id hitem hres
      rw [h.jobItems] at hitem
      rw [h.resolution?] at hres
      obtain ⟨q, hq, hj⟩ := hm.unresolved j id hitem hres
      exact ⟨_, hmoved id q hq, by rw [event_keeps_job hop, hj]⟩
    · intro j id hitem
      rw [h.jobItems] at hitem
      rw [h.resolution?]
      exact hm.items_known j id hitem
    · intro command hcommand
      rw [h.commands] at hcommand
      rw [h.resolution?]
      exact hm.commands_known command hcommand
    · intro j id
      rw [h.jobItems, h.commands]
      exact hm.commanded j id
  | opened h => exact Membership.opened hm h (hold (by simp))
  | @finalized policy receipt applied L₁ hf h =>
    refine Membership.resolved hm h (hold (by simp)) (fun id q hq => ?_)
    obtain ⟨hother, hmember⟩ := hf.request hq
    by_cases hj : q.sweepJobId = some receipt.jobId
    · obtain ⟨item, -, hq'⟩ := hmember hj
      exact ⟨_, hq', by rw [if_pos hj, Request.apply_receipt_sweepJobId]⟩
    · exact ⟨q, hother hj, by rw [if_neg hj]⟩
  | closed _ hc h =>
    refine Membership.resolved hm h (hold (by simp)) (fun id q hq => ?_)
    refine ⟨_, hc.request hq, ?_⟩
    split <;> rfl

/-- A published command stays. -/
lemma commands_step {L : Ledger} (hm : L.Membership) {j : JobId} {command : SweepBatchCommand}
    (h : L.commands.find? j = some command) (now : Time) (op : Op) :
    (step L now op).commands.find? j = some command := by
  cases step_jobEffect L now op with
  | unchanged hs => rw [hs, h]
  | kept hs => rw [hs.commands, h]
  | finalized _ hr => rw [hr.commands, h]
  | closed _ _ hr => rw [hr.commands, h]
  | @opened _ _ jobId _ _ _ _ hs =>
    -- the new job has no command yet
    have hne : j ≠ jobId := by
      rintro rfl
      have hknown := hm.commands_known command (Table.mem_of_find? h)
      rw [Table.key_of_find? h] at hknown
      exact hknown hs.job_unknown
    rw [hs.find?_commands hm, if_neg hne, h]

lemma Reachable.membership {L : Ledger} (h : Reachable L) : L.Membership :=
  h.induction Membership.empty (fun _ now op hm => membership_step hm now op)

/-! ### Exactly once -/

/-- Whether a delivery for an open job is accepted. -/
def accepts (L : Ledger) (now : Time) (policy : SweepPolicy) (event : ExecutionEvent) : Bool :=
  event.resolves && L.jobOpen event.jobId && (handle L now policy event).2.isOk

/-- The deliveries of a run that were accepted for a job. -/
def acceptedFor (jobId : JobId) : Ledger → List (Time × Op) → List ExecutionEvent
  | _, [] => []
  | L, (now, .deliver policy event) :: rest =>
    if event.jobId = jobId ∧ accepts L now policy event then
      event :: acceptedFor jobId (handleOne L now policy event) rest
    else acceptedFor jobId (handleOne L now policy event) rest
  | L, (now, op) :: rest => acceptedFor jobId (step L now op) rest

/-- A delivery is accepted, and resolves its job, or leaves the ledger as it was. -/
lemma accepts_cases (L : Ledger) (now : Time) (policy : SweepPolicy) {event : ExecutionEvent}
    (h : event.resolves = true) :
    (accepts L now policy event = true ∧
      ∃ resolution, Resolves L (handleOne L now policy event) event.jobId resolution now) ∨
    (accepts L now policy event = false ∧ handleOne L now policy event = L) := by
  have hclose : ∀ resolution txHash,
      handle L now policy event = ((closeWithoutEffect L now event.jobId resolution txHash).1,
        sweepOutcome (closeWithoutEffect L now event.jobId resolution txHash).2) →
      (accepts L now policy event = true ∧
        ∃ resolution, Resolves L (handleOne L now policy event) event.jobId resolution now) ∨
      (accepts L now policy event = false ∧ handleOne L now policy event = L) := by
    intro resolution txHash hhandle
    rcases closeWithoutEffect_cases L now event.jobId resolution txHash with
      ⟨hclosed, heq⟩ | ⟨L', n, heq, hc⟩
    · exact Or.inr ⟨by simp [accepts, hclosed],
        by simp [handleOne, hhandle, heq, sweepOutcome]⟩
    · refine Or.inl ⟨?_, resolution, ?_⟩
      · simp [accepts, h, hc.job_open, hhandle, heq, sweepOutcome, Except.isOk, Except.toBool]
      · simpa [handleOne, hhandle, heq, sweepOutcome] using hc.resolves
  cases event with
  | sweepFinalized receipt =>
    rcases handleOne_sweepFinalized L now policy receipt with ⟨hsame, e, he⟩ | ⟨applied, L₁, hok, hf⟩
    · refine Or.inr ⟨?_, hsame⟩
      rcases applySweepFinalized_cases L now receipt policy with
        ⟨hclosed, -⟩ | ⟨-, L', e', hne, heq⟩ | ⟨L', applied, L₁, heq, -⟩
      · simp [accepts, ExecutionEvent.jobId, hclosed]
      · rcases e' with e' | id | jobId | ⟨jobId, id⟩ | ⟨jobId, n⟩
        · simp [accepts, handle, heq, sweepOutcome, Except.isOk, Except.toBool]
        · simp [accepts, handle, heq, sweepOutcome, Except.isOk, Except.toBool]
        · exact absurd rfl (hne jobId)
        · simp [accepts, handle, heq, sweepOutcome, Except.isOk, Except.toBool]
        · simp [accepts, handle, heq, sweepOutcome, Except.isOk, Except.toBool]
      · rw [heq] at he
        cases he
    · refine Or.inl ⟨?_, .finalized, hf.resolves⟩
      simp [accepts, h, ExecutionEvent.jobId, hf.job_open, handle, hok, sweepOutcome, Except.isOk,
        Except.toBool]
  | sweepAbandoned jobId reason => exact hclose _ _ rfl
  | executionRejected jobId reason => exact hclose _ _ rfl
  | sweepSubmitted jobId txHash => cases h
  | withdrawalStepFinalized jobId => cases h
  | executionStalled jobId => cases h

/-- A resolution is never changed. -/
lemma resolution?_step_of_resolved {L : Ledger} {jobId : JobId} {r : JobResolution × Time}
    (h : L.resolution? jobId = some (some r)) (now : Time) (op : Op) :
    (step L now op).resolution? jobId = some (some r) := by
  have hother : ∀ {L' : Ledger} {j : JobId} {resolution : JobResolution},
      Resolves L L' j resolution now → L'.resolution? jobId = some (some r) := by
    intro L' j resolution hr
    have hne : jobId ≠ j := by
      rintro rfl
      rw [hr.job_open] at h
      cases h
    rw [hr.resolution?, if_neg hne, h]
  cases step_jobEffect L now op with
  | unchanged hs => rw [hs, h]
  | kept hs => rw [hs.resolution?, h]
  | @opened _ _ j _ _ _ _ hs =>
    have hne : jobId ≠ j := by
      rintro rfl
      rw [hs.job_unknown] at h
      cases h
    rw [hs.resolution?, if_neg hne, h]
  | finalized _ hr => exact hother hr
  | closed _ _ hr => exact hother hr

/-- A job is resolved by an accepted delivery for it. -/
lemma accepts_of_resolved {L : Ledger} {jobId : JobId} {r : JobResolution × Time} {now : Time}
    {op : Op} (hbefore : ∀ r, L.resolution? jobId ≠ some (some r))
    (hafter : (step L now op).resolution? jobId = some (some r)) :
    ∃ policy event, op = .deliver policy event ∧ event.jobId = jobId ∧
      accepts L now policy event = true := by
  -- the event resolved its own job, so it is an event for this one, and it was accepted
  have hevent : ∀ {policy : SweepPolicy} {event : ExecutionEvent} {resolution : JobResolution},
      event.resolves = true → op = .deliver policy event →
      Resolves L (step L now op) event.jobId resolution now →
      ∃ policy event, op = .deliver policy event ∧ event.jobId = jobId ∧
        accepts L now policy event = true := by
    rintro policy event resolution he rfl hr
    have hid : jobId = event.jobId := by
      by_contra hne
      rw [hr.resolution?, if_neg hne] at hafter
      exact hbefore r hafter
    refine ⟨policy, event, rfl, hid.symm, ?_⟩
    rcases accepts_cases L now policy he with ⟨hacc, -⟩ | ⟨-, hsame⟩
    · exact hacc
    · have hstep : step L now (.deliver policy event) = L := hsame
      rw [hstep] at hafter
      exact absurd hafter (hbefore r)
  cases hj : step_jobEffect L now op with
  | unchanged hs =>
    rw [hs] at hafter
    exact absurd hafter (hbefore r)
  | kept hs =>
    rw [hs.resolution?] at hafter
    exact absurd hafter (hbefore r)
  | opened hs =>
    rw [hs.resolution?] at hafter
    split at hafter
    · cases hafter
    · exact absurd hafter (hbefore r)
  | finalized _ hr => exact hevent rfl rfl hr
  | closed he _ hr => exact hevent he rfl hr

/-- Whether a job has a resolution. -/
def Ledger.jobResolved (L : Ledger) (jobId : JobId) : Bool :=
  (L.sweepJobs.find? jobId).any (·.resolution.isSome)

lemma jobResolved_iff {L : Ledger} {jobId : JobId} :
    L.jobResolved jobId = true ↔ ∃ r, L.resolution? jobId = some (some r) := by
  rw [Ledger.jobResolved, Ledger.resolution?]
  rcases L.sweepJobs.find? jobId with _ | job
  · simp
  · simp [Option.isSome_iff_exists]

lemma jobResolved_run {L : Ledger} {jobId : JobId} (h : L.jobResolved jobId = true)
    (ops : List (Time × Op)) : (run L ops).jobResolved jobId = true := by
  induction ops generalizing L with
  | nil => exact h
  | cons op rest ih =>
    obtain ⟨r, hr⟩ := jobResolved_iff.1 h
    exact ih (jobResolved_iff.2 ⟨r, resolution?_step_of_resolved hr op.1 op.2⟩)

/-- The first transaction of a run, as far as the deliveries for a job go. -/
lemma acceptedFor_cons (jobId : JobId) (L : Ledger) (now : Time) (op : Op)
    (rest : List (Time × Op)) :
    (∃ policy event, op = .deliver policy event ∧ event.jobId = jobId ∧
        accepts L now policy event = true ∧
        acceptedFor jobId L ((now, op) :: rest) = event :: acceptedFor jobId (step L now op) rest) ∨
      ((∀ policy event, op = .deliver policy event → event.jobId = jobId →
          accepts L now policy event = false) ∧
        acceptedFor jobId L ((now, op) :: rest) = acceptedFor jobId (step L now op) rest) := by
  cases op with
  | deliver policy event =>
    by_cases hcond : event.jobId = jobId ∧ accepts L now policy event = true
    · exact Or.inl ⟨policy, event, rfl, hcond.1, hcond.2, by rw [acceptedFor, if_pos hcond]; rfl⟩
    · refine Or.inr ⟨?_, by rw [acceptedFor, if_neg hcond]; rfl⟩
      rintro policy' event' heq hid
      obtain ⟨rfl, rfl⟩ := Op.deliver.inj heq
      simpa using fun hacc => hcond ⟨hid, hacc⟩
  | _ => exact Or.inr ⟨by simp, rfl⟩

/-- Nothing is accepted for a resolved job. -/
lemma acceptedFor_of_resolved {L : Ledger} {jobId : JobId} (h : L.jobResolved jobId = true)
    (ops : List (Time × Op)) : acceptedFor jobId L ops = [] := by
  induction ops generalizing L with
  | nil => rfl
  | cons op rest ih =>
    obtain ⟨r, hr⟩ := jobResolved_iff.1 h
    have hnext := ih (jobResolved_iff.2 ⟨r, resolution?_step_of_resolved hr op.1 op.2⟩)
    rcases acceptedFor_cons jobId L op.1 op.2 rest with
      ⟨policy, event, -, hid, hacc, -⟩ | ⟨-, heq⟩
    · -- an accepted delivery needs an open job
      simp only [accepts, Bool.and_eq_true, hid] at hacc
      rw [jobOpen_iff.1 hacc.1.2] at hr
      cases hr
    · exact heq.trans hnext

/-- A job that a run resolves was resolved by one accepted delivery, and any other job by
none. -/
lemma acceptedFor_length {L : Ledger} {jobId : JobId} (h : L.jobResolved jobId = false)
    (ops : List (Time × Op)) :
    (acceptedFor jobId L ops).length = if (run L ops).jobResolved jobId then 1 else 0 := by
  induction ops generalizing L with
  | nil => simp [acceptedFor, h]
  | cons op rest ih =>
    rw [run_cons]
    rcases acceptedFor_cons jobId L op.1 op.2 rest with
      ⟨policy, event, hop, hid, hacc, heq⟩ | ⟨hnot, heq⟩
    · -- accepted: the job is resolved from here on
      have he : event.resolves = true := by
        simp only [accepts, Bool.and_eq_true] at hacc
        exact hacc.1.1
      have hres : (step L op.1 op.2).jobResolved jobId = true := by
        rcases accepts_cases L op.1 policy he with ⟨-, resolution, hr⟩ | ⟨hno, -⟩
        · refine jobResolved_iff.2 ⟨(resolution, op.1), ?_⟩
          rw [hop, ← hid]
          exact (hr.resolution? event.jobId).trans (if_pos rfl)
        · rw [hacc] at hno
          cases hno
      rw [heq, List.length_cons, acceptedFor_of_resolved hres rest,
        if_pos (jobResolved_run hres rest)]
      rfl
    · have hres : (step L op.1 op.2).jobResolved jobId = false := by
        rw [← Bool.not_eq_true]
        intro hafter
        obtain ⟨r, hr⟩ := jobResolved_iff.1 hafter
        have hbefore : ∀ r, L.resolution? jobId ≠ some (some r) := by
          intro r' hr'
          rw [jobResolved_iff.2 ⟨r', hr'⟩] at h
          cases h
        obtain ⟨policy, event, hop, hid, hacc⟩ := accepts_of_resolved hbefore hr
        rw [hnot policy event hop hid] at hacc
        cases hacc
      rw [heq]
      exact ih hres

/-- In every run: a claim is on an unresolved job whose items and whose command name the
request; a request is in at most one unresolved job; a job is resolved by exactly one accepted
delivery or by none, and every delivery for it that is not that one leaves the ledger as it
was; and so does a receipt with a foreign item or a missing outcome. -/
theorem membership_and_exactly_once_resolution (ops : List (Time × Op)) :
    (∀ row ∈ (run Ledger.empty ops).invoices.rows, ∀ j, row.sweepJobId = some j →
      (run Ledger.empty ops).jobOpen j = true ∧
      (∃ item ∈ (run Ledger.empty ops).sweepJobItems.rows,
        item.jobId = j ∧ item.invoiceId = row.id) ∧
      ∃ command ∈ (run Ledger.empty ops).commands.rows,
        command.jobId = j ∧ row.id ∈ command.items.map (·.invoiceId)) ∧
    (∀ i₁ ∈ (run Ledger.empty ops).sweepJobItems.rows,
      ∀ i₂ ∈ (run Ledger.empty ops).sweepJobItems.rows, i₁.invoiceId = i₂.invoiceId →
      (run Ledger.empty ops).jobOpen i₁.jobId = true →
      (run Ledger.empty ops).jobOpen i₂.jobId = true → i₁.jobId = i₂.jobId) ∧
    (∀ jobId, (acceptedFor jobId Ledger.empty ops).length =
      if (run Ledger.empty ops).jobResolved jobId then 1 else 0) ∧
    (∀ now policy event, event.resolves = true →
      accepts (run Ledger.empty ops) now policy event = false →
      step (run Ledger.empty ops) now (.deliver policy event) = run Ledger.empty ops) ∧
    (∀ now policy receipt e,
      (applySweepFinalized (run Ledger.empty ops) now receipt policy).2 = .error e →
      step (run Ledger.empty ops) now (.deliver policy (.sweepFinalized receipt)) =
        run Ledger.empty ops) := by
  have hm : (run Ledger.empty ops).Membership := Reachable.membership ⟨ops, rfl⟩
  refine ⟨?_, ?_, ?_, ?_, ?_⟩
  · intro row hrow j hj
    have hq : (run Ledger.empty ops).request? row.id = some _ :=
      Ledger.request?_eq_some.2 ⟨row, Table.find?_of_mem hrow, rfl⟩
    obtain ⟨hres, hitem⟩ := hm.claimed row.id _ j hq hj
    obtain ⟨item, hmem, heq⟩ := List.mem_map.1 hitem
    obtain ⟨command, hfind, hin⟩ := (hm.commanded j row.id).1 hitem
    exact ⟨jobOpen_iff.2 hres, ⟨item, hmem, congrArg Prod.fst heq, congrArg Prod.snd heq⟩,
      command, Table.mem_of_find? hfind, Table.key_of_find? hfind, hin⟩
  · intro i₁ h₁ i₂ h₂ hid hopen₁ hopen₂
    obtain ⟨q₁, hq₁, hj₁⟩ := hm.unresolved i₁.jobId i₁.invoiceId (List.mem_map.2 ⟨i₁, h₁, rfl⟩)
      (jobOpen_iff.1 hopen₁)
    obtain ⟨q₂, hq₂, hj₂⟩ := hm.unresolved i₂.jobId i₂.invoiceId (List.mem_map.2 ⟨i₂, h₂, rfl⟩)
      (jobOpen_iff.1 hopen₂)
    rw [hid] at hq₁
    obtain rfl := Option.some.inj (hq₁.symm.trans hq₂)
    exact Option.some.inj (hj₁.symm.trans hj₂)
  · exact fun jobId => acceptedFor_length rfl ops
  · intro now policy event he hnot
    rcases accepts_cases (run Ledger.empty ops) now policy he with ⟨hacc, -⟩ | ⟨-, hsame⟩
    · rw [hnot] at hacc
      cases hacc
    · exact hsame
  · intro now policy receipt e herror
    rcases handleOne_sweepFinalized (run Ledger.empty ops) now policy receipt with
      ⟨hsame, -⟩ | ⟨applied, L₁, hok, -⟩
    · exact hsame
    · rw [hok] at herror
      cases herror

end Payday
