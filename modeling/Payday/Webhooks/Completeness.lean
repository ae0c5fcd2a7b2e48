/-
# Every change of a request has its event

No statement sets an attention reason and changes the status of a request at once
(`status_of_flagged`), so the trigger never has to choose between the two, and what it enqueues for
two versions of a row is what the new version reports and the old one did not
(`enqueuePaymentWebhook_iff`).  The unique index then keeps the first event of each kind: a request
has an event of a kind when one of its versions reports it, and has it once.
-/
import Payday.Webhooks.Events

namespace Payday.Webhooks

/-! ### One statement -/

/-- A kind of event the row trigger may write. -/
def EventType.isOfRow (kind : EventType) : Prop := kind ≠ .recoveredFunds ∧ kind ≠ .test

section

variable {now : Time} {row : Invoice} {kind : EventType}

/-- A statement that sets an attention reason leaves the status. -/
lemma status_of_flagged (w : Write) (hnew : (w.apply now row).attentionReason.isSome = true)
    (hold : row.attentionReason = none) : (w.apply now row).status = row.status := by
  cases w with
  | flag reason => rfl
  | release => cases hnew
  | credit c =>
    simp only [Write.apply, InvoiceCredit.write] at hnew
    split at hnew <;> simp [hold] at hnew
  | _ =>
    simp only [Write.apply, Invoice.expire, Invoice.claim, Invoice.requeue, Invoice.drain, hold] at hnew
    cases hnew

/-- The kinds the trigger enqueues. -/
lemma exists_enqueued_iff {old : Option Invoice} {new : Invoice} :
    (∃ c ∈ enqueuePaymentWebhook old new, c.eventType = kind) ↔
      lifecycleKind old new = some kind ∨
      (kind = .approved ∧ new.verificationCompletedAt.isSome ∧
        old.bind (·.verificationCompletedAt) = none) ∨
      (kind = .ready ∧ new.binding.isSome ∧ old.bind (·.binding) = none) ∨
      (kind = .likelyUnsolicited ∧ new.likelyUnsolicitedAt.isSome ∧
        old.bind (·.likelyUnsolicitedAt) = none) := by
  have hone : ∀ (p : Bool) (call : Call),
      (∃ c ∈ (if p then [call] else []), c.eventType = kind) ↔ kind = call.eventType ∧ p = true := by
    intro p call
    cases p <;> simp [eq_comm]
  have hlifecycle : ∀ f : EventType → Call, (∀ k, (f k).eventType = k) →
      ((∃ c ∈ (lifecycleKind old new).toList.map f, c.eventType = kind) ↔
        lifecycleKind old new = some kind) := by
    intro f hf
    rcases lifecycleKind old new with _ | k
    · simp
    · simp [hf]
  simp only [enqueuePaymentWebhook, List.mem_append, or_and_right, exists_or]
  rw [hlifecycle _ (by intro k; rfl), hone, hone, hone]
  simp only [Bool.and_eq_true, Option.isNone_iff_eq_none, or_assoc]

/-- When the attention reason and the status are not new at once, each is picked when it is new. -/
lemma lifecycleKind_iff {old : Option Invoice} {new : Invoice}
    (hclean : newlyFlagged old new = true → old.map (·.status) = some new.status) :
    lifecycleKind old new = some kind ↔ (kind = .needsAttention ∧ newlyFlagged old new = true) ∨
      (statusKind new.status = some kind ∧ old.map (·.status) ≠ some new.status) := by
  unfold lifecycleKind
  by_cases hflagged : newlyFlagged old new = true
  · simp [hflagged, hclean hflagged, eq_comm]
  · by_cases hstatus : old.map (·.status) = some new.status
    · simp [hflagged, hstatus]
    · simp [hflagged, hstatus]

/-- What the trigger enqueues for two versions that do not differ in status and attention at
once. -/
lemma enqueuePaymentWebhook_iff (old : Option Invoice) (new : Invoice) (hkind : kind.isOfRow)
    (hclean : newlyFlagged old new = true → old.map (·.status) = some new.status) :
    (∃ c ∈ enqueuePaymentWebhook old new, c.eventType = kind) ↔
      Reports kind new ∧ ∀ row, old = some row → ¬ Reports kind row := by
  have hstatus : ∀ (status : InvoiceStatus) (k : EventType), statusKind status = some k →
      ((statusKind new.status = some k ∧ old.map (·.status) ≠ some new.status) ↔
        (new.status = status ∧ ∀ row, old = some row → ¬ row.status = status)) := by
    intro status k hk
    have heq : statusKind new.status = some k ↔ new.status = status := by
      rw [← hk]
      rcases new.status with _ | _ | _ | _ | _ <;> rcases status with _ | _ | _ | _ | _ <;>
        simp [statusKind] at hk ⊢
    rw [heq]
    refine and_congr_right fun h => ?_
    rcases old with _ | row
    · simp
    · simp [h]
  rw [exists_enqueued_iff, lifecycleKind_iff hclean]
  obtain ⟨hrecovered, htest⟩ := hkind
  cases kind with
  | deposited => simpa [Reports] using hstatus .funded .deposited rfl
  | settled => simpa [Reports] using hstatus .fulfilled .settled rfl
  | expired => simpa [Reports] using hstatus .expired .expired rfl
  | returned => simpa [Reports] using hstatus .recovered .returned rfl
  | needsAttention =>
    have hnone : statusKind new.status ≠ some .needsAttention := by
      rcases new.status with _ | _ | _ | _ | _ <;> simp [statusKind]
    rcases old with _ | row <;> simp [Reports, hnone, newlyFlagged]
  | likelyUnsolicited =>
    have hnone : statusKind new.status ≠ some .likelyUnsolicited := by
      rcases new.status with _ | _ | _ | _ | _ <;> simp [statusKind]
    rcases old with _ | row <;> simp [Reports, hnone]
  | ready =>
    have hnone : statusKind new.status ≠ some .ready := by
      rcases new.status with _ | _ | _ | _ | _ <;> simp [statusKind]
    rcases old with _ | row <;> simp [Reports, hnone]
  | approved =>
    have hnone : statusKind new.status ≠ some .approved := by
      rcases new.status with _ | _ | _ | _ | _ <;> simp [statusKind]
    rcases old with _ | row <;> simp [Reports, hnone]
  | recoveredFunds => exact absurd rfl hrecovered
  | test => exact absurd rfl htest

/-- One statement enqueues what its version reports and the version before did not. -/
lemma enqueued_by_write_iff (hkind : kind.isOfRow) (w : Write) :
    (∃ c ∈ enqueuePaymentWebhook (some row) (w.apply now row), c.eventType = kind) ↔
      Reports kind (w.apply now row) ∧ ¬ Reports kind row := by
  rw [enqueuePaymentWebhook_iff _ _ hkind]
  · simp
  · intro hflagged
    rw [newlyFlagged, Bool.and_eq_true, Option.isNone_iff_eq_none] at hflagged
    exact congrArg some (status_of_flagged w hflagged.1 hflagged.2).symm

/-! ### One transaction -/

/-- What a version reports is enqueued, unless the row reported it before. -/
lemma updateCalls_of_reported (hkind : kind.isOfRow) {ws : List Write}
    (h : ∃ v ∈ rowVersions now row ws, Reports kind v) :
    Reports kind row ∨ ∃ c ∈ updateCalls now row ws, c.eventType = kind := by
  induction ws generalizing row with
  | nil => simp [rowVersions] at h
  | cons w rest ih =>
    simp only [updateCalls, List.mem_append, or_and_right, exists_or]
    have hfirst : Reports kind (w.apply now row) → Reports kind row ∨
        ∃ c ∈ enqueuePaymentWebhook (some row) (w.apply now row), c.eventType = kind := by
      intro hreports
      by_cases hrow : Reports kind row
      · exact Or.inl hrow
      · exact Or.inr ((enqueued_by_write_iff hkind w).2 ⟨hreports, hrow⟩)
    have hnext : Reports kind (w.apply now row) ∨
        ∃ c ∈ updateCalls now (w.apply now row) rest, c.eventType = kind := by
      obtain ⟨v, hv, hreports⟩ := h
      rcases List.mem_cons.1 hv with rfl | hv
      · exact Or.inl hreports
      · exact ih ⟨v, hv, hreports⟩
    rcases hnext with hreports | hcalls
    · exact (hfirst hreports).imp_right Or.inl
    · exact Or.inr (Or.inr hcalls)

/-- The version a transaction leaves is the last one, or the row was not written. -/
lemma writeAll_version (now : Time) (row : Invoice) (ws : List Write) :
    row.writeAll now ws = row ∨ row.writeAll now ws ∈ rowVersions now row ws := by
  induction ws generalizing row with
  | nil => exact Or.inl rfl
  | cons w rest ih =>
    right
    rw [Invoice.writeAll_cons]
    rcases ih (w.apply now row) with hsame | hmem
    · rw [hsame]
      exact List.mem_cons_self ..
    · exact List.mem_cons_of_mem _ hmem

lemma lifecycleKind_isOfRow {old : Option Invoice} {new : Invoice}
    (h : lifecycleKind old new = some kind) : kind.isOfRow := by
  unfold lifecycleKind at h
  split at h
  · split at h
    · cases h
      exact ⟨by simp, by simp⟩
    · rcases hstatus : new.status with _ | _ | _ | _ | _ <;> rw [hstatus] at h <;> cases h <;>
        exact ⟨by simp, by simp⟩
  · cases h

/-- The row trigger enqueues events of its request, of the kinds of a row. -/
lemma enqueuePaymentWebhook_call {old : Option Invoice} {new : Invoice} {c : Call}
    (h : c ∈ enqueuePaymentWebhook old new) :
    c.invoiceId = new.id ∧ c.eventType.isOfRow ∧ c.depositRequest = new := by
  simp only [enqueuePaymentWebhook, List.mem_append, List.mem_map, List.mem_ite_nil_right,
    List.mem_singleton] at h
  rcases h with ((⟨k, hk, rfl⟩ | ⟨-, rfl⟩) | ⟨-, rfl⟩) | ⟨-, rfl⟩
  · exact ⟨rfl, lifecycleKind_isOfRow (Option.mem_toList.1 hk), rfl⟩
  · exact ⟨rfl, ⟨by simp, by simp⟩, rfl⟩
  · exact ⟨rfl, ⟨by simp, by simp⟩, rfl⟩
  · exact ⟨rfl, ⟨by simp, by simp⟩, rfl⟩

/-- An event of a request renders the version that it reports. -/
lemma updateCalls_call {ws : List Write} {c : Call} (h : c ∈ updateCalls now row ws) :
    c.invoiceId = row.id ∧ c.eventType.isOfRow ∧
      c.depositRequest ∈ rowVersions now row ws ∧ Reports c.eventType c.depositRequest := by
  induction ws generalizing row with
  | nil => cases h
  | cons w rest ih =>
    rcases List.mem_append.1 h with hfirst | hrest
    · obtain ⟨hid, hkind, hrow⟩ := enqueuePaymentWebhook_call hfirst
      rw [hrow]
      exact ⟨hid.trans (w.apply_id now row), hkind, List.mem_cons_self ..,
        ((enqueued_by_write_iff hkind w).1 ⟨c, hfirst, rfl⟩).1⟩
    · obtain ⟨hid, hkind, hrow, hreports⟩ := ih hrest
      exact ⟨hid.trans (w.apply_id now row), hkind, List.mem_cons_of_mem _ hrow, hreports⟩

end

section

variable {L : Ledger} {now : Time} {op : Op} {id : InvoiceId} {kind : EventType}

lemma newRecoveries_spec : (step L now op).recoveriesOf id =
    L.recoveriesOf id ++ newRecoveries L now op id := by
  obtain ⟨new, hnew, -⟩ := step_recoveries L now op id
  rw [newRecoveries, hnew, List.drop_left]

lemma invoiceId_of_newRecoveries {r : RecoveredFunds} (h : r ∈ newRecoveries L now op id) :
    r.invoiceId = id := by
  have hmem : r ∈ (step L now op).recoveriesOf id := by
    rw [newRecoveries_spec]
    exact List.mem_append_right _ h
  simpa using (List.mem_filter.1 hmem).2

/-- A request that is not there gets no recovery. -/
lemma newRecoveries_of_none (h : L.invoices.find? id = none) : newRecoveries L now op id = [] := by
  obtain ⟨new, hnew, hnil | ⟨q, _, _, _, hq, -⟩⟩ := step_recoveries L now op id
  · rw [newRecoveries, hnew, hnil]
    simp
  · rw [Ledger.request?, h] at hq
    cases hq

lemma rowCalls_invoiceId {row : Invoice} {c : Call} (h : c ∈ rowCalls L now op row) :
    c.invoiceId = row.id := by
  rcases List.mem_append.1 h with hupdate | hrecovery
  · exact (updateCalls_call hupdate).1
  · obtain ⟨r, hr, rfl⟩ := List.mem_map.1 hrecovery
    exact invoiceId_of_newRecoveries hr

/-- The calls of a transaction for one request. -/
def callsFor (L : Ledger) (now : Time) (op : Op) (id : InvoiceId) : List Call :=
  match L.invoices.find? id with
  | some row => rowCalls L now op row
  | none => ((step L now op).invoices.find? id).toList.flatMap (enqueuePaymentWebhook none)

/-- Of the elements that rows with distinct keys produce, those of one key come from its row. -/
lemma filter_flatMap_own {ρ κ α : Type} [DecidableEq κ] {key : ρ → κ} (owner : α → κ)
    (f : ρ → List α) {rows : List ρ} (hrows : (rows.map key).Nodup)
    (hf : ∀ r, ∀ a ∈ f r, owner a = key r) (k : κ) :
    (rows.flatMap f).filter (fun a => owner a = k) =
      (rows.find? (fun r => key r = k)).toList.flatMap f := by
  induction rows with
  | nil => rfl
  | cons r rest ih =>
    obtain ⟨hnew, hrest⟩ := List.nodup_cons.1 hrows
    rw [List.flatMap_cons, List.filter_append, ih hrest]
    by_cases hk : key r = k
    · have hown : (f r).filter (fun a => owner a = k) = f r :=
        List.filter_eq_self.2 fun a ha => decide_eq_true ((hf r a ha).trans hk)
      have hnone : rest.find? (fun r => key r = k) = none := by
        rw [List.find?_eq_none]
        intro r' hr' heq
        exact hnew (List.mem_map.2 ⟨r', hr', (of_decide_eq_true heq).trans hk.symm⟩)
      rw [hown, hnone, List.find?_cons_of_pos (by simpa using hk)]
      simp
    · have hother : (f r).filter (fun a => owner a = k) = [] := by
        refine List.filter_eq_nil_iff.2 fun a ha heq => ?_
        exact hk ((hf r a ha).symm.trans (of_decide_eq_true heq))
      rw [hother, List.find?_cons_of_neg (by simpa using hk), List.nil_append]

/-- The rows a transaction inserts under one id. -/
lemma issuedRows_find? : (issuedRows L now op).find? (fun row => row.id = id) =
    if L.invoices.find? id = none then (step L now op).invoices.find? id else none := by
  rw [issuedRows, List.find?_filter]
  split
  · rename_i hnone
    show _ = (step L now op).invoices.rows.find? (fun row => decide (row.id = id))
    congr 1
    funext row
    by_cases hid : row.id = id
    · simp [hid, hnone]
    · simp [hid]
  · rename_i hsome
    rw [List.find?_eq_none]
    intro row _ hrow
    simp only [decide_eq_true_eq, Option.isNone_iff_eq_none] at hrow
    rw [hrow.2] at hrow
    exact hsome hrow.1

/-- A request's calls are those of its own row. -/
lemma calls_filter : (calls L now op).filter (fun c => c.invoiceId = id) = callsFor L now op id := by
  have hissued : ((issuedRows L now op).map Invoice.id).Nodup :=
    (step L now op).invoices.nodup.sublist (List.filter_sublist.map _)
  have hrow : (L.invoices.rows.flatMap (rowCalls L now op)).filter (fun c => c.invoiceId = id) =
      (L.invoices.find? id).toList.flatMap (rowCalls L now op) :=
    filter_flatMap_own Call.invoiceId (rowCalls L now op) L.invoices.nodup (fun _ _ hc => rowCalls_invoiceId hc) id
  have hnew := filter_flatMap_own Call.invoiceId (enqueuePaymentWebhook none) hissued
    (fun _ _ hc => (enqueuePaymentWebhook_call hc).1) id
  rw [issuedRows_find?] at hnew
  rw [calls, List.filter_append, hrow, hnew, callsFor]
  rcases L.invoices.find? id with _ | row <;> simp

/-- A call of a transaction is about a version it leaves, which reports it, or about a recovery it
adds. -/
lemma callsFor_source {c : Call} (h : c ∈ callsFor L now op id) :
    (c.eventType.isOfRow ∧ c.depositRequest ∈ versions L now op id ∧
      Reports c.eventType c.depositRequest) ∨
    (c.eventType = .recoveredFunds ∧ ∃ r ∈ newRecoveries L now op id, c.recovery = some r) := by
  rw [callsFor] at h
  rw [versions]
  rcases hfound : L.invoices.find? id with _ | row
  · -- the transaction issues the request
    rw [hfound] at h
    obtain ⟨row, hrow, hc⟩ := List.mem_flatMap.1 h
    obtain ⟨-, hkind, hrequest⟩ := enqueuePaymentWebhook_call hc
    obtain ⟨input, -, rfl⟩ := find?_step_issued op hfound (Option.mem_toList.1 hrow)
    rw [hrequest]
    exact Or.inl ⟨hkind, hrow, ((enqueuePaymentWebhook_iff none _ hkind
      (by simp [newlyFlagged, IssuedRequest.row])).1 ⟨c, hc, rfl⟩).1⟩
  · rw [hfound] at h
    rcases List.mem_append.1 h with hupdate | hrecovery
    · exact Or.inl (updateCalls_call hupdate).2
    · obtain ⟨r, hr, rfl⟩ := List.mem_map.1 hrecovery
      rw [Table.key_of_find? hfound] at hr
      exact Or.inr ⟨rfl, r, hr, rfl⟩

/-- What a version reports is called for, unless the row reported it before. -/
lemma call_of_reported (hkind : kind.isOfRow) (h : ∃ v ∈ versions L now op id, Reports kind v) :
    (∃ row, L.invoices.find? id = some row ∧ Reports kind row) ∨
      ∃ c ∈ callsFor L now op id, c.eventType = kind := by
  unfold versions at h
  unfold callsFor
  split at h
  · rename_i row hrow
    simp only [hrow]
    rcases updateCalls_of_reported hkind h with hreports | ⟨c, hc, heq⟩
    · exact Or.inl ⟨row, rfl, hreports⟩
    · exact Or.inr ⟨c, List.mem_append_left _ hc, heq⟩
  · rename_i hnone
    simp only [hnone]
    obtain ⟨row, hrow, hreports⟩ := h
    obtain ⟨input, -, rfl⟩ := find?_step_issued op hnone (Option.mem_toList.1 hrow)
    obtain ⟨c, hc, heq⟩ := (enqueuePaymentWebhook_iff none _ hkind
      (by simp [newlyFlagged, IssuedRequest.row])).2 ⟨hreports, by simp⟩
    exact Or.inr ⟨c, List.mem_flatMap.2 ⟨_, hrow, hc⟩, heq⟩

/-- What the row of a request reports after a transaction it reported before, or a version of the
transaction reports it. -/
lemma reported_step {row' : Invoice} (hrow' : (step L now op).invoices.find? id = some row')
    (hreports : Reports kind row') :
    (∃ row, L.invoices.find? id = some row ∧ Reports kind row) ∨
      ∃ v ∈ versions L now op id, Reports kind v := by
  unfold versions
  rcases hrow : L.invoices.find? id with _ | row
  · exact Or.inr ⟨row', Option.mem_toList.2 hrow', hreports⟩
  · have hfound := (find?_step now op hrow).found
    rw [hrow'] at hfound
    rcases writeAll_version now row (L.writes now row op) with hsame | hmem
    · rw [hsame] at hfound
      cases hfound
      exact Or.inl ⟨row', rfl, hreports⟩
    · rw [← Option.some.inj hfound] at hmem
      exact Or.inr ⟨row', hmem, hreports⟩

/-- The recoveries that a transaction calls for. -/
lemma callsFor_recovered :
    ((callsFor L now op id).filter (fun c => c.eventType = .recoveredFunds)).map (·.recovery) =
      (newRecoveries L now op id).map some := by
  unfold callsFor
  split
  · rename_i row hrow
    have hupdate : (updateCalls now row (L.writes now row op)).filter
        (fun c => c.eventType = .recoveredFunds) = [] :=
      List.filter_eq_nil_iff.2 fun c hc heq =>
        (updateCalls_call hc).2.1.1 (of_decide_eq_true heq)
    rw [rowCalls, List.filter_append, hupdate, List.nil_append, Table.key_of_find? hrow]
    simp [List.filter_map, Function.comp_def, enqueueRecoveredFundsWebhook]
  · rename_i hnone
    have hissued : ((((step L now op).invoices.find? id).toList.flatMap
        (enqueuePaymentWebhook none)).filter (fun c => c.eventType = .recoveredFunds)) = [] := by
      refine List.filter_eq_nil_iff.2 fun c hc heq => ?_
      obtain ⟨row, -, hc⟩ := List.mem_flatMap.1 hc
      exact (enqueuePaymentWebhook_call hc).2.1.1 (of_decide_eq_true heq)
    rw [hissued, newRecoveries_of_none hnone]
    rfl

end

/-! ### The events of a transaction -/

namespace State

section

variable {accountOf : InvoiceId → ℕ} {now : Time} {s s' : State} {id : InvoiceId} {kind : EventType}

/-- Events of requests fan out, and the rows are numbered in the order of their insertion. -/
structure WellFormed (s : State) : Prop where
  fanout : ∀ e ∈ s.events, e.invoiceId.isSome → e.fanout = true
  ids : ∀ e ∈ s.events, e.id < s.events.length
  deliveries : ∀ d ∈ s.deliveries, d.eventId < s.events.length

lemma eventsOf_insertEvent (event : WebhookEvent) (endpoints : List EndpointId) :
    (s.insertEvent now event endpoints).eventsOf id kind = s.eventsOf id kind ++
      if event.invoiceId = some id ∧ event.eventType = kind then [event] else [] := by
  rw [eventsOf, insertEvent, List.filter_append]
  by_cases h : event.invoiceId = some id ∧ event.eventType = kind
  · simp [eventsOf, h]
  · simp only [if_neg h, eventsOf, List.filter_cons, List.filter_nil, Bool.and_eq_true,
      decide_eq_true_eq]

lemma conflicts_iff (hs : WellFormed s) (c : Call) : s.conflicts c = true ↔
    c.eventType ≠ .recoveredFunds ∧ s.eventsOf c.invoiceId c.eventType ≠ [] := by
  simp only [conflicts, eventsOf, List.any_eq_true, Bool.and_eq_true, decide_eq_true_eq, ne_eq,
    List.filter_eq_nil_iff, not_forall, not_not, exists_prop]
  constructor
  · rintro ⟨e, he, ⟨⟨hid, hkind⟩, -⟩, hne⟩
    exact ⟨hkind ▸ hne, e, he, hid, hkind⟩
  · rintro ⟨hne, e, he, hid, hkind⟩
    exact ⟨e, he, ⟨⟨hid, hkind⟩, hs.fanout e he (by rw [hid]; rfl)⟩, hkind ▸ hne⟩

/-- The deliveries of an inserted event, and of those before it. -/
lemma targets_insertEvent (hs : WellFormed s) {event : WebhookEvent} (hid : event.id = s.events.length)
    (endpoints : List EndpointId) :
    (s.insertEvent now event endpoints).targets event.id = endpoints ∧
      ∀ k < s.events.length, (s.insertEvent now event endpoints).targets k = s.targets k := by
  have hmapped : ∀ k, ((endpoints.mapIdx (fun i endpoint =>
      WebhookDelivery.new (s.deliveries.length + i) event.id endpoint now)).filter
        (fun d => d.eventId = k)).map (·.endpointId) = if event.id = k then endpoints else [] := by
    intro k
    by_cases hk : event.id = k
    · have hall : (endpoints.mapIdx (fun i endpoint =>
          WebhookDelivery.new (s.deliveries.length + i) event.id endpoint now)).filter
            (fun d => d.eventId = k) = endpoints.mapIdx (fun i endpoint =>
          WebhookDelivery.new (s.deliveries.length + i) event.id endpoint now) := by
        refine List.filter_eq_self.2 fun d hd => ?_
        obtain ⟨i, hi, rfl⟩ := List.mem_mapIdx.1 hd
        exact decide_eq_true hk
      rw [hall, if_pos hk]
      refine List.ext_getElem (by simp) fun i h₁ h₂ => ?_
      simp [WebhookDelivery.new]
    · rw [if_neg hk, List.map_eq_nil_iff, List.filter_eq_nil_iff]
      intro d hd
      obtain ⟨i, hi, rfl⟩ := List.mem_mapIdx.1 hd
      exact fun heq => hk (of_decide_eq_true heq)
  have htargets : ∀ k, (s.insertEvent now event endpoints).targets k =
      s.targets k ++ if event.id = k then endpoints else [] := by
    intro k
    rw [targets, insertEvent, List.filter_append, List.map_append, hmapped]
    rfl
  constructor
  · have hnone : s.targets event.id = [] := by
      rw [targets, List.map_eq_nil_iff, List.filter_eq_nil_iff]
      intro d hd heq
      have hlt := hs.deliveries d hd
      rw [of_decide_eq_true heq, hid] at hlt
      exact lt_irrefl _ hlt
    rw [htargets, hnone, if_pos rfl, List.nil_append]
  · intro k hk
    have hne : event.id ≠ k := by
      rw [hid]
      exact Nat.ne_of_gt hk
    rw [htargets, if_neg hne, List.append_nil]

lemma WellFormed.insertEvent (hs : WellFormed s) {event : WebhookEvent}
    (hid : event.id = s.events.length) (hfanout : event.invoiceId.isSome → event.fanout = true)
    (endpoints : List EndpointId) : WellFormed (s.insertEvent now event endpoints) := by
  have hlength : (s.insertEvent now event endpoints).events.length = s.events.length + 1 := by
    simp [State.insertEvent]
  refine ⟨?_, ?_, ?_⟩
  · intro e he
    rcases List.mem_append.1 he with he | he
    · exact hs.fanout e he
    · rw [List.mem_singleton.1 he]
      exact hfanout
  · intro e he
    rw [hlength]
    rcases List.mem_append.1 he with he | he
    · exact Nat.lt_succ_of_lt (hs.ids e he)
    · rw [List.mem_singleton.1 he, hid]
      exact Nat.lt_succ_self _
  · intro d hd
    rw [hlength]
    rcases List.mem_append.1 hd with hd | hd
    · exact Nat.lt_succ_of_lt (hs.deliveries d hd)
    · obtain ⟨i, hi, rfl⟩ := List.mem_mapIdx.1 hd
      rw [WebhookDelivery.new, hid]
      exact Nat.lt_succ_self _

/-- What some calls of `enqueue_invoice_webhook_event` do to the tables. -/
structure Enqueued (accountOf : InvoiceId → ℕ) (cs : List Call) (s s' : State) : Prop where
  wellFormed : WellFormed s'
  ledger : s'.ledger = s.ledger
  endpoints : s'.endpoints = s.endpoints
  /-- The new events are behind the old ones, and go to the active endpoints. -/
  events : ∃ new, s'.events = s.events ++ new ∧ ∀ e ∈ new,
    s'.targets e.id = s.active e.accountId ∧ ∃ c ∈ cs, e.invoiceId = some c.invoiceId ∧
      e.accountId = accountOf c.invoiceId ∧ e.eventType = c.eventType ∧
      e.depositRequest = some c.depositRequest ∧ e.attention = c.attention ∧
      e.recovery = c.recovery
  kept : ∀ k < s.events.length, s'.targets k = s.targets k
  once : ∀ id kind, kind ≠ .recoveredFunds → (s.eventsOf id kind).length ≤ 1 →
    (s'.eventsOf id kind).length ≤ 1
  present : ∀ id kind, kind ≠ .recoveredFunds → (s'.eventsOf id kind ≠ [] ↔
    s.eventsOf id kind ≠ [] ∨ ∃ c ∈ cs, c.invoiceId = id ∧ c.eventType = kind)
  recovered : ∀ id, (s'.eventsOf id .recoveredFunds).map (·.recovery) =
    (s.eventsOf id .recoveredFunds).map (·.recovery) ++
      (cs.filter (fun c => c.invoiceId = id ∧ c.eventType = .recoveredFunds)).map (·.recovery)

lemma Enqueued.nil (hs : WellFormed s) : Enqueued accountOf [] s s where
  wellFormed := hs
  ledger := rfl
  endpoints := rfl
  events := ⟨[], by simp, by simp⟩
  kept _ _ := rfl
  once _ _ _ h := h
  present := by simp
  recovered := by simp

/-- A call that meets an event of its kind does nothing. -/
lemma Enqueued.conflicting (hs : WellFormed s) {c : Call} (hne : c.eventType ≠ .recoveredFunds)
    (hevents : s.eventsOf c.invoiceId c.eventType ≠ []) : Enqueued accountOf [c] s s where
  wellFormed := hs
  ledger := rfl
  endpoints := rfl
  events := ⟨[], by simp, by simp⟩
  kept _ _ := rfl
  once _ _ _ h := h
  present := by
    intro id kind _
    refine ⟨Or.inl, ?_⟩
    rintro (h | ⟨c', hc', rfl, rfl⟩)
    · exact h
    · rw [List.mem_singleton.1 hc']
      exact hevents
  recovered := by
    intro id
    simp [hne]

/-- A call that meets none inserts its event. -/
lemma Enqueued.inserted (hs : WellFormed s) {c : Call}
    (hnone : c.eventType = .recoveredFunds ∨ s.eventsOf c.invoiceId c.eventType = []) :
    Enqueued accountOf [c] s
      (s.insertEvent now (s.eventOf accountOf now c) (s.active (accountOf c.invoiceId))) where
  wellFormed := hs.insertEvent rfl (fun _ => rfl) _
  ledger := rfl
  endpoints := rfl
  events := by
    refine ⟨[s.eventOf accountOf now c], rfl, ?_⟩
    intro e he
    rw [List.mem_singleton.1 he]
    exact ⟨(targets_insertEvent hs rfl _).1, c, List.mem_singleton_self c, rfl, rfl, rfl, rfl, rfl,
      rfl⟩
  kept := (targets_insertEvent hs rfl _).2
  once := by
    intro id kind hne hlength
    rw [eventsOf_insertEvent]
    split
    · rename_i hof
      obtain ⟨hid, rfl⟩ := hof
      cases hid
      have hnil : s.eventsOf c.invoiceId (s.eventOf accountOf now c).eventType = [] :=
        hnone.resolve_left hne
      rw [hnil]
      exact le_refl 1
    · rwa [List.append_nil]
  present := by
    intro id kind _
    rw [eventsOf_insertEvent]
    split
    · rename_i hof
      obtain ⟨hid, rfl⟩ := hof
      cases hid
      exact ⟨fun _ => Or.inr ⟨c, List.mem_singleton_self c, rfl, rfl⟩, fun _ => by simp⟩
    · rename_i hof
      rw [List.append_nil]
      refine ⟨Or.inl, ?_⟩
      rintro (h | ⟨c', hc', rfl, rfl⟩)
      · exact h
      · rw [List.mem_singleton.1 hc'] at hof
        exact absurd ⟨rfl, rfl⟩ hof
  recovered := by
    intro id
    rw [eventsOf_insertEvent, List.map_append]
    congr 1
    by_cases hof : c.invoiceId = id ∧ c.eventType = .recoveredFunds
    · simp [hof, eventOf]
    · simp [hof, eventOf]

lemma Enqueued.one (hs : WellFormed s) (c : Call) :
    Enqueued accountOf [c] s (enqueueInvoiceWebhookEvent accountOf now s c) := by
  unfold enqueueInvoiceWebhookEvent
  split
  · rename_i hconflicts
    obtain ⟨hne, hevents⟩ := (conflicts_iff hs c).1 hconflicts
    exact .conflicting hs hne hevents
  · rename_i hconflicts
    rw [conflicts_iff hs c, not_and_or, not_not, not_not] at hconflicts
    exact .inserted hs hconflicts

lemma active_congr {s t : State} (h : s.endpoints = t.endpoints) (account : ℕ) :
    s.active account = t.active account := by
  rw [active, active, h]

lemma Enqueued.trans {cs ds : List Call} {s t u : State} (hst : Enqueued accountOf cs s t)
    (htu : Enqueued accountOf ds t u) : Enqueued accountOf (cs ++ ds) s u where
  wellFormed := htu.wellFormed
  ledger := htu.ledger.trans hst.ledger
  endpoints := htu.endpoints.trans hst.endpoints
  events := by
    obtain ⟨new, hnew, hfirst⟩ := hst.events
    obtain ⟨new', hnew', hsecond⟩ := htu.events
    refine ⟨new ++ new', by rw [hnew', hnew, List.append_assoc], ?_⟩
    intro e he
    rcases List.mem_append.1 he with he | he
    · -- the later calls leave its deliveries
      obtain ⟨htargets, c, hc, hof⟩ := hfirst e he
      have hid : e.id < t.events.length :=
        hst.wellFormed.ids e (hnew ▸ List.mem_append_right _ he)
      exact ⟨(htu.kept e.id hid).trans htargets, c, List.mem_append_left _ hc, hof⟩
    · obtain ⟨htargets, c, hc, hof⟩ := hsecond e he
      exact ⟨htargets.trans (active_congr hst.endpoints _), c, List.mem_append_right _ hc, hof⟩
  kept := by
    intro k hk
    obtain ⟨new, hnew, -⟩ := hst.events
    have hk' : k < t.events.length := by
      rw [hnew, List.length_append]
      exact Nat.lt_add_right _ hk
    exact (htu.kept k hk').trans (hst.kept k hk)
  once id kind hne h := htu.once id kind hne (hst.once id kind hne h)
  present := by
    intro id kind hne
    rw [htu.present id kind hne, hst.present id kind hne]
    simp only [List.mem_append, or_and_right, exists_or, or_assoc]
  recovered := by
    intro id
    rw [htu.recovered id, hst.recovered id, List.filter_append, List.map_append, List.append_assoc]

/-- The calls of a transaction, one after the other. -/
lemma Enqueued.foldl (hs : WellFormed s) (cs : List Call) :
    Enqueued accountOf cs s (cs.foldl (enqueueInvoiceWebhookEvent accountOf now) s) := by
  induction cs generalizing s with
  | nil => exact .nil hs
  | cons c rest ih =>
    have hone : Enqueued accountOf [c] s (enqueueInvoiceWebhookEvent accountOf now s c) := .one hs c
    exact hone.trans (ih hone.wellFormed)

/-! ### Whole runs -/

/-- The events account for the requests and the recoveries of the ledger. -/
structure Accounts (s : State) : Prop where
  wellFormed : WellFormed s
  once : ∀ id kind, kind ≠ .recoveredFunds → (s.eventsOf id kind).length ≤ 1
  reported : ∀ id kind row, kind.isOfRow → s.ledger.invoices.find? id = some row →
    Reports kind row → s.eventsOf id kind ≠ []
  recovered : ∀ id, (s.eventsOf id .recoveredFunds).map (·.recovery) =
    (s.ledger.recoveriesOf id).map some

lemma Accounts.empty : Accounts empty where
  wellFormed := ⟨by simp [State.empty], by simp [State.empty], by simp [State.empty]⟩
  once _ _ _ := Nat.zero_le 1
  reported _ _ _ _ hrow := by cases hrow
  recovered _ := rfl

/-- The calls of a transaction, with its new ledger. -/
lemma enqueued_transact (accountOf : InvoiceId → ℕ) (now : Time) (hs : WellFormed s) (op : Op) :
    ∃ t, Enqueued accountOf (calls s.ledger now op) s t ∧
      s.act accountOf now (.transact op) = { t with ledger := step s.ledger now op } :=
  ⟨_, .foldl hs _, rfl⟩

/-- A transaction adds the kinds that its versions report. -/
lemma present_transact (hs : Accounts s) (op : Op) (hkind : kind.isOfRow) :
    (s.act accountOf now (.transact op)).eventsOf id kind ≠ [] ↔
      s.eventsOf id kind ≠ [] ∨ ∃ v ∈ versions s.ledger now op id, Reports kind v := by
  obtain ⟨t, ht, hact⟩ := enqueued_transact accountOf now hs.wellFormed op
  have hcalls : (∃ c ∈ calls s.ledger now op, c.invoiceId = id ∧ c.eventType = kind) ↔
      ∃ c ∈ callsFor s.ledger now op id, c.eventType = kind := by
    rw [← calls_filter]
    simp only [List.mem_filter, decide_eq_true_eq, and_assoc]
  rw [hact]
  show t.eventsOf id kind ≠ [] ↔ _
  rw [ht.present id kind hkind.1, hcalls]
  constructor
  · rintro (hold | ⟨c, hc, rfl⟩)
    · exact Or.inl hold
    · rcases callsFor_source hc with ⟨-, hv, hreports⟩ | ⟨heq, -⟩
      · exact Or.inr ⟨_, hv, hreports⟩
      · exact absurd heq hkind.1
  · rintro (hold | hreports)
    · exact Or.inl hold
    · rcases call_of_reported hkind hreports with ⟨row, hrow, hreports⟩ | hcall
      · exact Or.inl (hs.reported id kind row hkind hrow hreports)
      · exact Or.inr hcall

lemma Accounts.transact (hs : Accounts s) (op : Op) :
    Accounts (s.act accountOf now (.transact op)) := by
  obtain ⟨t, ht, hact⟩ := enqueued_transact accountOf now hs.wellFormed op
  refine ⟨?_, ?_, ?_, ?_⟩
  · rw [hact]
    exact ⟨ht.wellFormed.fanout, ht.wellFormed.ids, ht.wellFormed.deliveries⟩
  · intro id kind hne
    rw [hact]
    exact ht.once id kind hne (hs.once id kind hne)
  · intro id kind row hkind hrow hreports
    rw [present_transact hs op hkind]
    rw [hact] at hrow
    rcases reported_step hrow hreports with ⟨old, hold, hreports⟩ | hversion
    · exact Or.inl (hs.reported id kind old hkind hold hreports)
    · exact Or.inr hversion
  · intro id
    have hfilter : (calls s.ledger now op).filter
        (fun c => c.invoiceId = id ∧ c.eventType = .recoveredFunds) =
          (callsFor s.ledger now op id).filter (fun c => c.eventType = .recoveredFunds) := by
      rw [← calls_filter, List.filter_filter]
      simp only [Bool.decide_and, Bool.and_comm]
    rw [hact]
    show (t.eventsOf id .recoveredFunds).map (·.recovery) = _
    rw [ht.recovered id, hs.recovered id, hfilter, callsFor_recovered, ← List.map_append,
      ← newRecoveries_spec]

/-- Nothing but a transaction writes the event of a request. -/
lemma act_quiet (accountOf : InvoiceId → ℕ) (now : Time) (s : State) {action : Action}
    (h : ∀ op, action ≠ .transact op) :
    (s.act accountOf now action).ledger = s.ledger ∧
      ∀ id kind, (s.act accountOf now action).eventsOf id kind = s.eventsOf id kind := by
  cases action with
  | transact op => exact absurd rfl (h op)
  | addEndpoint endpoint => exact ⟨rfl, fun _ _ => rfl⟩
  | disable account endpoint => exact ⟨rfl, fun _ _ => rfl⟩
  | testEvent account endpoint =>
    simp only [act, testEvent]
    split
    · refine ⟨rfl, fun id kind => ?_⟩
      rw [eventsOf_insertEvent]
      simp
    · exact ⟨rfl, fun _ _ => rfl⟩

lemma WellFormed.act_quiet (hs : WellFormed s) {action : Action} (h : ∀ op, action ≠ .transact op) :
    WellFormed (s.act accountOf now action) := by
  cases action with
  | transact op => exact absurd rfl (h op)
  | addEndpoint endpoint => exact ⟨hs.fanout, hs.ids, hs.deliveries⟩
  | disable account endpoint => exact ⟨hs.fanout, hs.ids, hs.deliveries⟩
  | testEvent account endpoint =>
    simp only [act, testEvent]
    split
    · exact hs.insertEvent rfl (by simp) _
    · exact hs

lemma Accounts.quiet (hs : Accounts s) {action : Action} (h : ∀ op, action ≠ .transact op) :
    Accounts (s.act accountOf now action) := by
  obtain ⟨hledger, hevents⟩ := act_quiet accountOf now s h
  refine ⟨hs.wellFormed.act_quiet h, ?_, ?_, ?_⟩
  · intro id kind hne
    rw [hevents]
    exact hs.once id kind hne
  · intro id kind row hkind hrow hreports
    rw [hledger] at hrow
    rw [hevents]
    exact hs.reported id kind row hkind hrow hreports
  · intro id
    rw [hevents, hledger]
    exact hs.recovered id

lemma runVersions_quiet {L : Ledger} {action : Action} (h : ∀ op, action ≠ .transact op)
    (rest : List (Time × Action)) :
    runVersions id L ((now, action) :: rest) = runVersions id L rest := by
  cases action with
  | transact op => exact absurd rfl (h op)
  | _ => rfl

/-- After a run the events account for its ledger, and a kind is there when it was or when some
version of the run reports it. -/
lemma Accounts.run (accountOf : InvoiceId → ℕ) (hs : Accounts s) (actions : List (Time × Action)) :
    Accounts (s.runActions accountOf actions) ∧ ∀ id kind, kind.isOfRow →
      ((s.runActions accountOf actions).eventsOf id kind ≠ [] ↔
        s.eventsOf id kind ≠ [] ∨ ∃ v ∈ runVersions id s.ledger actions, Reports kind v) := by
  induction actions generalizing s with
  | nil =>
    refine ⟨hs, fun id kind _ => ?_⟩
    simp [runActions, runVersions]
  | cons step rest ih =>
    obtain ⟨now, action⟩ := step
    show Accounts ((s.act accountOf now action).runActions accountOf rest) ∧ _
    by_cases hop : ∃ op, action = .transact op
    · obtain ⟨op, rfl⟩ := hop
      obtain ⟨hgood, hpresent⟩ := ih (hs.transact op)
      refine ⟨hgood, fun id kind hkind => (hpresent id kind hkind).trans ?_⟩
      rw [present_transact hs op hkind, or_assoc]
      simp only [runVersions, List.mem_append, or_and_right, exists_or]
      rfl
    · have hquiet : ∀ op, action ≠ .transact op := fun op heq => hop ⟨op, heq⟩
      obtain ⟨hgood, hpresent⟩ := ih (hs.quiet hquiet)
      refine ⟨hgood, fun id kind hkind => (hpresent id kind hkind).trans ?_⟩
      obtain ⟨hledger, hevents⟩ := act_quiet accountOf now s hquiet
      rw [hevents, hledger, runVersions_quiet hquiet]

end

end State

/-- The event is about a change that the action makes to the request, the first of its kind, or
about a recovery that it adds. -/
def ReportsChange (accountOf : InvoiceId → ℕ) (earlier : List Invoice) (L : Ledger) (now : Time)
    (action : Action) (id : InvoiceId) (e : WebhookEvent) : Prop :=
  ∃ op, action = .transact op ∧ e.accountId = accountOf id ∧
    ((∃ v ∈ versions L now op id, e.depositRequest = some v ∧ Reports e.eventType v ∧
        ∀ v ∈ earlier, ¬ Reports e.eventType v) ∨
      (e.eventType = .recoveredFunds ∧ ∃ r ∈ newRecoveries L now op id, e.recovery = some r))

namespace State

section

variable {accountOf : InvoiceId → ℕ} {now : Time} {s : State}

/-- Nothing but a transaction writes the event of a request; the others keep the deliveries. -/
lemma events_quiet (accountOf : InvoiceId → ℕ) (now : Time) (hs : WellFormed s) {action : Action}
    (h : ∀ op, action ≠ .transact op) :
    ∃ new, (s.act accountOf now action).events = s.events ++ new ∧
      (∀ e ∈ new, e.invoiceId = none) ∧
      ∀ k < s.events.length, (s.act accountOf now action).targets k = s.targets k := by
  cases action with
  | transact op => exact absurd rfl (h op)
  | addEndpoint endpoint => exact ⟨[], (List.append_nil _).symm, by simp, fun _ _ => rfl⟩
  | disable account endpoint => exact ⟨[], (List.append_nil _).symm, by simp, fun _ _ => rfl⟩
  | testEvent account endpoint =>
    simp only [act, testEvent]
    split
    · exact ⟨_, rfl, by simp, (targets_insertEvent hs rfl _).2⟩
    · exact ⟨[], (List.append_nil _).symm, by simp, fun _ _ => rfl⟩

/-- A kind that has a new event had none. -/
lemma Accounts.eventsOf_eq_nil {s' : State} (hs' : Accounts s') {new : List WebhookEvent}
    (hnew : s'.events = s.events ++ new) {e : WebhookEvent} (he : e ∈ new) {id : InvoiceId}
    (hid : e.invoiceId = some id) (hne : e.eventType ≠ .recoveredFunds) :
    s.eventsOf id e.eventType = [] := by
  have hlength := hs'.once id e.eventType hne
  rw [eventsOf, hnew, List.filter_append, List.length_append] at hlength
  have hpos : 0 < (new.filter (fun event =>
      event.invoiceId = some id && event.eventType = e.eventType)).length :=
    List.length_pos_of_mem (List.mem_filter.2 ⟨he, by simp [hid]⟩)
  refine List.eq_nil_of_length_eq_zero ?_
  rw [eventsOf]
  omega

/-- A transaction writes its events about its own changes, and they fan out to the endpoints that
are active. -/
lemma events_transact (accountOf : InvoiceId → ℕ) (now : Time) (hs : Accounts s) (op : Op) :
    ∃ new, (s.act accountOf now (.transact op)).events = s.events ++ new ∧
      (∀ e ∈ new, (s.act accountOf now (.transact op)).targets e.id = s.active e.accountId ∧
        ∃ id, e.invoiceId = some id ∧ ∀ earlier : List Invoice,
          (∀ kind : EventType, kind.isOfRow → s.eventsOf id kind = [] →
            ∀ v ∈ earlier, ¬ Reports kind v) →
          ReportsChange accountOf earlier s.ledger now (.transact op) id e) ∧
      ∀ k < s.events.length, (s.act accountOf now (.transact op)).targets k = s.targets k := by
  obtain ⟨t, ht, hact⟩ := enqueued_transact accountOf now hs.wellFormed op
  have hgood : Accounts (s.act accountOf now (.transact op)) := hs.transact op
  rw [hact] at hgood ⊢
  obtain ⟨new, hnew, hall⟩ := ht.events
  refine ⟨new, hnew, ?_, ht.kept⟩
  intro e he
  obtain ⟨htargets, c, hc, hid, haccount, hkind, hrequest, -, hrecovery⟩ := hall e he
  refine ⟨htargets, c.invoiceId, hid, fun earlier hearlier => ⟨op, rfl, haccount, ?_⟩⟩
  have hfor : c ∈ callsFor s.ledger now op c.invoiceId := by
    rw [← calls_filter]
    exact List.mem_filter.2 ⟨hc, by simp⟩
  rcases callsFor_source hfor with ⟨hrow, hv, hreports⟩ | ⟨heq, r, hr, hof⟩
  · rw [← hkind] at hrow hreports
    have hnil := hgood.eventsOf_eq_nil hnew he hid hrow.1
    exact Or.inl ⟨_, hv, hrequest, hreports, hearlier _ hrow hnil⟩
  · exact Or.inr ⟨hkind.trans heq, r, hr, hrecovery.trans hof⟩

end

end State

/-- In every run of transactions and of changes to the endpoints, a request has one event of a kind
when one of its versions was in the state, or had the column set, that the kind reports, and none
otherwise; its `recovered_funds` events are its recoveries.  Each event is written with the change
it reports, the first of its kind, and is delivered to the endpoints of the account that are active
then, and to no other later. -/
theorem lifecycle_webhooks_are_complete (accountOf : InvoiceId → ℕ)
    (actions : List (Time × Action)) :
    (∀ id kind, kind.isOfRow →
      ((∃ v ∈ runVersions id Ledger.empty actions, Reports kind v) →
        ((State.empty.runActions accountOf actions).eventsOf id kind).length = 1) ∧
      ((¬ ∃ v ∈ runVersions id Ledger.empty actions, Reports kind v) →
        (State.empty.runActions accountOf actions).eventsOf id kind = [])) ∧
    (∀ id, ((State.empty.runActions accountOf actions).eventsOf id .recoveredFunds).map
        (·.recovery) =
      ((State.empty.runActions accountOf actions).ledger.recoveriesOf id).map some) ∧
    (∀ now action, ∃ new,
      ((State.empty.runActions accountOf actions).act accountOf now action).events =
        (State.empty.runActions accountOf actions).events ++ new ∧
      (∀ e ∈ new, ∀ id, e.invoiceId = some id →
        ReportsChange accountOf (runVersions id Ledger.empty actions)
          (State.empty.runActions accountOf actions).ledger now action id e ∧
        ((State.empty.runActions accountOf actions).act accountOf now action).targets e.id =
          (State.empty.runActions accountOf actions).active e.accountId) ∧
      ∀ e ∈ (State.empty.runActions accountOf actions).events,
        ((State.empty.runActions accountOf actions).act accountOf now action).targets e.id =
          (State.empty.runActions accountOf actions).targets e.id) := by
  obtain ⟨hs, hpresent⟩ := State.Accounts.empty.run accountOf actions
  have hreported : ∀ id (kind : EventType), kind.isOfRow →
      ((State.empty.runActions accountOf actions).eventsOf id kind ≠ [] ↔
        ∃ v ∈ runVersions id Ledger.empty actions, Reports kind v) := by
    intro id kind hkind
    rw [hpresent id kind hkind]
    refine ⟨fun h => h.resolve_left fun hne => hne rfl, Or.inr⟩
  refine ⟨?_, hs.recovered, ?_⟩
  · intro id kind hkind
    rw [← hreported id kind hkind]
    refine ⟨fun hne => ?_, not_not.1⟩
    exact le_antisymm (hs.once id kind hkind.1) (List.length_pos_of_ne_nil hne)
  · intro now action
    by_cases hop : ∃ op, action = .transact op
    · obtain ⟨op, rfl⟩ := hop
      obtain ⟨new, hnew, hall, hkept⟩ := State.events_transact accountOf now hs op
      refine ⟨new, hnew, ?_, fun e he => hkept e.id (hs.wellFormed.ids e he)⟩
      intro e he id hid
      obtain ⟨htargets, id', hid', hchange⟩ := hall e he
      cases hid.symm.trans hid'
      refine ⟨hchange _ ?_, htargets⟩
      intro kind hkind hnil v hv hreports
      exact (hreported id kind hkind).2 ⟨v, hv, hreports⟩ hnil
    · have hquiet : ∀ op, action ≠ .transact op := fun op heq => hop ⟨op, heq⟩
      obtain ⟨new, hnew, hnone, hkept⟩ :=
        State.events_quiet accountOf now hs.wellFormed hquiet
      refine ⟨new, hnew, ?_, fun e he => hkept e.id (hs.wellFormed.ids e he)⟩
      intro e he id hid
      rw [hnone e he] at hid
      cases hid

end Payday.Webhooks
