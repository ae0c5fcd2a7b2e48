/-
# Running out of retries

A sweep that failed for an unexplained reason is tried again, and the policy says how often
before an operator must look at the request.  Four paths count a failed attempt and one of
them compares the count with the limit, so the limit holds unless the attempt that reaches it
comes back through a path that does not look: an abandoned job or a rejected command.
-/
import Payday.Ledger.Queue

namespace Payday

/-- The result an event brings back. -/
def QueueEvent.result? : QueueEvent → Option SweepResult
  | .returned _ result => some result
  | _ => none

def QueueEvent.isClaim : QueueEvent → Bool
  | .claimed _ => true
  | _ => false

/-- The events that forget the counted failures. -/
def QueueEvent.resets : QueueEvent → Bool
  | .drained _ | .released => true
  | _ => false

/-- The results of some events, in order. -/
def resultsIn (events : List QueueEvent) : List SweepResult := events.filterMap QueueEvent.result?

/-- How many unexplained results came back. -/
def unexplainedIn (events : List QueueEvent) : ℕ :=
  (resultsIn events).countP SweepResult.isUnexplained

/-- How often the token was paused. -/
def pausedIn (events : List QueueEvent) : ℕ := (resultsIn events).countP SweepResult.isPaused

/-- How often the request was scheduled. -/
def claimsIn (events : List QueueEvent) : ℕ := events.countP QueueEvent.isClaim

/-- The books of a ticket that was never drained nor released. -/
structure Tally (maxAttempts : ℕ) (events : List QueueEvent) (t : Ticket) : Prop where
  attempts : t.attempts = (resultsIn events).length
  /-- A request is scheduled again only after its result came back. -/
  claims : claimsIn events = (resultsIn events).length + t.jobId.toList.length
  /-- The results that blame the request flag it. -/
  explained : t.attention = none →
    (resultsIn events).length = unexplainedIn events + pausedIn events
  below : t.attention = none → unexplainedIn events = 0 ∨ unexplainedIn events < maxAttempts
  bounded : claimsIn events ≤ max maxAttempts 1 + pausedIn events

namespace Tally

variable {maxAttempts : ℕ} {events : List QueueEvent} {t : Ticket} {now : Time}

lemma issued : Tally maxAttempts [] Ticket.issued :=
  ⟨rfl, rfl, fun _ => rfl, fun _ => Or.inl rfl, Nat.zero_le _⟩

/-- A request leaves the queue for a job only while it is not flagged. -/
lemma claimed (h : Tally maxAttempts events t) (jobId : JobId) (he : t.Enabled (.claimed jobId)) :
    Tally maxAttempts (events ++ [.claimed jobId]) (t.next now (.claimed jobId)) := by
  obtain ⟨hjob, hnone⟩ := he
  have hresults : resultsIn (events ++ [.claimed jobId]) = resultsIn events := by
    simp [resultsIn, QueueEvent.result?]
  have hclaims : claimsIn (events ++ [.claimed jobId]) = claimsIn events + 1 := by
    simp [claimsIn, QueueEvent.isClaim]
  have hbooks := h.claims
  have hexplained := h.explained hnone
  have hbelow := h.below hnone
  rw [hjob] at hbooks
  simp only [Option.toList_none, List.length_nil] at hbooks
  refine ⟨?_, ?_, ?_, ?_, ?_⟩
  · rw [hresults]
    exact h.attempts
  · rw [hresults, hclaims, hbooks]
    rfl
  · rw [unexplainedIn, pausedIn, hresults]
    exact h.explained
  · rw [unexplainedIn, hresults]
    exact h.below
  · rw [hclaims, pausedIn, hresults, ← pausedIn]
    omega

/-- A result comes back.  The limit holds unless an abandonment or a rejection reaches it. -/
lemma returned (h : Tally maxAttempts events t) (result : SweepResult)
    (he : t.Enabled (.returned maxAttempts result))
    (hlooked : result = .abandoned ∨ result = .rejected → t.attention = none →
      unexplainedIn events + 1 < maxAttempts) :
    Tally maxAttempts (events ++ [.returned maxAttempts result])
      (t.next now (.returned maxAttempts result)) := by
  have hresults : resultsIn (events ++ [.returned maxAttempts result]) =
      resultsIn events ++ [result] := by
    simp [resultsIn, QueueEvent.result?]
  have hunexplained : unexplainedIn (events ++ [.returned maxAttempts result]) =
      unexplainedIn events + if result.isUnexplained then 1 else 0 := by
    rw [unexplainedIn, hresults, List.countP_append, List.countP_singleton, ← unexplainedIn]
  have hpaused : pausedIn (events ++ [.returned maxAttempts result]) =
      pausedIn events + if result.isPaused then 1 else 0 := by
    rw [pausedIn, hresults, List.countP_append, List.countP_singleton, ← pausedIn]
  have hclaims : claimsIn (events ++ [.returned maxAttempts result]) = claimsIn events := by
    simp [claimsIn, QueueEvent.isClaim]
  obtain ⟨jobId, hjob⟩ := Option.isSome_iff_exists.1 he
  have hbooks := h.claims
  rw [hjob] at hbooks
  simp only [Option.toList_some, List.length_singleton] at hbooks
  have hattempts := h.attempts
  have hle : unexplainedIn events ≤ (resultsIn events).length := List.countP_le_length
  have hbound := h.bounded
  have hsplit : (t.next now (.returned maxAttempts result)).attention = none →
      t.attention = none ∧ result.attention maxAttempts t.attempts = none := Option.or_eq_none_iff.1
  refine ⟨?_, ?_, fun hnone => ?_, fun hnone => ?_, ?_⟩
  · rw [hresults, List.length_append, ← hattempts]
    rfl
  · rw [hclaims, hresults, List.length_append, hbooks]
    rfl
  · -- a result that flags nothing is unexplained or a pause
    obtain ⟨hold, hquiet⟩ := hsplit hnone
    have hexplained := h.explained hold
    have hkind : (if result.isUnexplained then 1 else 0) + (if result.isPaused then 1 else 0) = 1 := by
      rcases result with (_ | _ | _ | _ | _ | _) | _ | _
      all_goals first | rfl | cases hquiet
    rw [hresults, hunexplained, hpaused, List.length_append, List.length_singleton]
    omega
  · obtain ⟨hold, hquiet⟩ := hsplit hnone
    have hbelow := h.below hold
    rw [hunexplained]
    rcases result with (_ | _ | _ | _ | _ | _) | _ | _
    · simpa [SweepResult.isUnexplained] using hbelow
    · cases hquiet
    · cases hquiet
    · cases hquiet
    · cases hquiet
    · -- an unknown failure that does not flag is below the limit
      have hmax : ¬ maxAttempts ≤ t.attempts + 1 := by
        intro hmax
        simp [SweepResult.attention, hmax] at hquiet
      simp only [SweepResult.isUnexplained, if_true]
      omega
    · simp only [SweepResult.isUnexplained, if_true]
      exact Or.inr (hlooked (Or.inl rfl) hold)
    · simp only [SweepResult.isUnexplained, if_true]
      exact Or.inr (hlooked (Or.inr rfl) hold)
  · rw [hclaims, hpaused]
    omega

lemma flagged (h : Tally maxAttempts events t) (now : Time) (reason : String) :
    Tally maxAttempts (events ++ [.flagged reason]) (t.next now (.flagged reason)) := by
  have hresults : resultsIn (events ++ [.flagged reason]) = resultsIn events := by
    simp [resultsIn, QueueEvent.result?]
  have hclaims : claimsIn (events ++ [.flagged reason]) = claimsIn events := by
    simp [claimsIn, QueueEvent.isClaim]
  have hsome : (t.next now (.flagged reason)).attention ≠ none := by
    simp [Ticket.next]
  refine ⟨?_, ?_, fun hnone => absurd hnone hsome, fun hnone => absurd hnone hsome, ?_⟩
  · rw [hresults]
    exact h.attempts
  · rw [hresults, hclaims]
    exact h.claims
  · rw [hclaims, pausedIn, hresults]
    exact h.bounded

end Tally

/-! ### Runs -/

/-- The transaction brings an abandonment or a rejection to an unflagged request whose
unexplained results then reach the limit. -/
def GivesUp (maxAttempts : ℕ) (id : InvoiceId) (ops : List (Time × Op)) (op : Time × Op) : Prop :=
  ∃ row n result, (run Ledger.empty ops).invoices.find? id = some row ∧
    (run Ledger.empty ops).queueEvent? op.1 row op.2 = some (.returned n result) ∧
    (result = .abandoned ∨ result = .rejected) ∧ row.attentionReason = none ∧
    maxAttempts ≤ unexplainedIn (Ledger.empty.queueHistory id ops) + 1

/-- The books of a request along a run in which the limit is never reached unseen. -/
lemma tally_run {maxAttempts : ℕ} {ops : List (Time × Op)} {id : InvoiceId} {row : Invoice}
    (hpolicy : ∀ now policy event, (now, Op.deliver policy event) ∈ ops →
      policy.maxAttempts = maxAttempts)
    (hkept : ∀ e ∈ Ledger.empty.queueHistory id ops, e.resets = false)
    (hlooked : ∀ ops₁ op ops₂, ops = ops₁ ++ op :: ops₂ → ¬ GivesUp maxAttempts id ops₁ op)
    (hrow : (run Ledger.empty ops).invoices.find? id = some row) :
    Tally maxAttempts (Ledger.empty.queueHistory id ops) row.ticket := by
  induction ops using List.reverseRecOn generalizing row with
  | nil => cases hrow
  | append_singleton ops op ih =>
    have hlast := hlooked ops op [] rfl
    rw [run_append] at hrow
    rcases hprev : (run Ledger.empty ops).invoices.find? id with _ | row₀
    · obtain ⟨input, -, rfl⟩ := find?_step_issued op.2 hprev hrow
      rw [Ledger.queueHistory_append, queueHistory_of_none hprev]
      simp only [Ledger.queueHistory, hprev]
      exact Tally.issued
    · rw [queueHistory_concat hprev] at hkept ⊢
      obtain ⟨row', hrow', hticket⟩ := ticket_step op.1 op.2 hprev
      obtain rfl := Option.some.inj (hrow'.symm.trans hrow)
      have htally := ih (fun now policy event hmem => hpolicy now policy event
          (List.mem_append_left _ hmem)) (fun e he => hkept e (List.mem_append_left _ he))
        (fun ops₁ op' ops₂ hsplit => hlooked ops₁ op' (ops₂ ++ [op]) (by simp [hsplit])) hprev
      rw [hticket]
      rcases hevent : (run Ledger.empty ops).queueEvent? op.1 row₀ op.2 with _ | e
      · simpa [Ticket.nextOf] using htally
      · have henabled := queueEvent?_enabled hprev hevent
        have hreset : e.resets = false := hkept e (by simp [hevent])
        cases e with
        | claimed jobId => exact htally.claimed jobId henabled
        | returned n result =>
          obtain ⟨policy, event, hop, rfl⟩ := queueEvent?_returned hevent
          have hmax : policy.maxAttempts = maxAttempts :=
            hpolicy op.1 policy event (by rw [← hop]; simp)
          subst hmax
          refine htally.returned result henabled (fun hwithout hnone => ?_)
          by_contra hreached
          exact hlast ⟨row₀, _, result, hprev, hevent, hwithout, hnone, by omega⟩
        | drained attention => cases hreset
        | flagged reason => exact htally.flagged op.1 reason
        | released => cases hreset

/-- Along every run that neither drains nor releases the request, it is flagged once
`maxAttempts` unexplained results came back, and scheduled at most that often (a pause of the
token apart), exactly when no abandonment or rejection is the result that reaches the limit of
an unflagged request. -/
theorem unexplained_failures_are_bounded_iff {maxAttempts : ℕ} {ops : List (Time × Op)}
    {id : InvoiceId}
    (hpolicy : ∀ now policy event, (now, Op.deliver policy event) ∈ ops →
      policy.maxAttempts = maxAttempts)
    (hkept : ∀ e ∈ Ledger.empty.queueHistory id ops, e.resets = false) :
    ((∀ ops₁ ops₂ row, ops = ops₁ ++ ops₂ → (run Ledger.empty ops₁).invoices.find? id = some row →
        0 < unexplainedIn (Ledger.empty.queueHistory id ops₁) →
        maxAttempts ≤ unexplainedIn (Ledger.empty.queueHistory id ops₁) →
        row.attentionReason ≠ none) ∧
      claimsIn (Ledger.empty.queueHistory id ops) ≤
        max maxAttempts 1 + pausedIn (Ledger.empty.queueHistory id ops)) ↔
    ∀ ops₁ op ops₂, ops = ops₁ ++ op :: ops₂ → ¬ GivesUp maxAttempts id ops₁ op := by
  constructor
  · rintro ⟨hflagged, -⟩ ops₁ op ops₂ hsplit ⟨row, n, result, hrow, hevent, hwithout, hnone, hreached⟩
    -- the result leaves the attention unset and reaches the limit
    obtain ⟨row', hrow', hticket⟩ := ticket_step op.1 op.2 hrow
    have hhistory := queueHistory_concat hrow op
    rw [hevent] at hhistory
    have hcount : unexplainedIn (Ledger.empty.queueHistory id (ops₁ ++ [op])) =
        unexplainedIn (Ledger.empty.queueHistory id ops₁) + 1 := by
      rw [hhistory]
      rcases hwithout with rfl | rfl <;>
        simp [unexplainedIn, resultsIn, QueueEvent.result?, SweepResult.isUnexplained]
    refine hflagged (ops₁ ++ [op]) ops₂ row' (by simp [hsplit]) ?_ (by omega) (by omega) ?_
    · rw [run_append]
      exact hrow'
    · have hattention : row'.ticket.attention = none := by
        rw [hticket, hevent]
        show row.attentionReason.or _ = none
        rw [hnone]
        rcases hwithout with rfl | rfl <;> rfl
      exact hattention
  · intro hlooked
    refine ⟨?_, ?_⟩
    · rintro ops₁ ops₂ row rfl hrow hpos hmax hnone
      rw [Ledger.queueHistory_append] at hkept
      have htally := tally_run
        (fun now policy event hmem => hpolicy now policy event (List.mem_append_left _ hmem))
        (fun e he => hkept e (List.mem_append_left _ he))
        (fun ops' op ops'' hsplit => hlooked ops' op (ops'' ++ ops₂) (by simp [hsplit])) hrow
      rcases htally.below hnone with hzero | hlt <;> omega
    · rcases hrow : (run Ledger.empty ops).invoices.find? id with _ | row
      · rw [queueHistory_of_none hrow]
        exact Nat.zero_le _
      · exact (tally_run hpolicy hkept hlooked hrow).bounded

/-- One more job for the sample request, and its end without a receipt. -/
def emptyRound (event : JobId → ExecutionEvent) (n : ℕ) : List (Time × Op) :=
  [(4000000000 * (n + 1), .scheduleSweepJob .default 1 (9 + n) 0 {}),
    (4000000000 * (n + 1) + 1, .deliver .default (event (9 + n)))]

/-- The sample request is paid, and some jobs end without a receipt. -/
def emptyRounds (event : JobId → ExecutionEvent) (rounds : ℕ) : List (Time × Op) :=
  [(0, .insertIssued sampleRequest),
    (1, .applyFinalizedRange (sampleRange none 5 [sampleTransfer 3 0 0 100]))] ++
    (List.range rounds).flatMap (emptyRound event)

/-- Five sweeps of the sample request fail for an unknown reason. -/
def unknownRounds : List (Time × Op) :=
  emptyRounds (fun jobId => .sweepFinalized (sampleReceipt jobId 8 (.failed .unknown))) 5

/-- The fifth unknown failure flags the sample request. -/
theorem unexplained_failures_are_bounded_iff_unknownRounds :
    ∃ row, (run Ledger.empty unknownRounds).invoices.find? 7 = some row ∧
      unexplainedIn (Ledger.empty.queueHistory 7 unknownRounds) = 5 ∧ row.attentionReason ≠ none := by
  have hpolicy : ∀ now policy event, (now, Op.deliver policy event) ∈ unknownRounds →
      policy.maxAttempts = 5 := by
    intro now policy event hmem
    simp only [unknownRounds, emptyRounds, emptyRound, List.mem_append, List.mem_flatMap,
      List.mem_cons, List.not_mem_nil, or_false, Prod.mk.injEq, reduceCtorEq, and_false,
      false_or, Op.deliver.injEq] at hmem
    obtain ⟨n, -, -, rfl, -⟩ := hmem
    rfl
  have hkept : ∀ e ∈ Ledger.empty.queueHistory 7 unknownRounds, e.resets = false := by
    decide +kernel
  have hcount : unexplainedIn (Ledger.empty.queueHistory 7 unknownRounds) = 5 := by
    decide +kernel
  refine ⟨((run Ledger.empty unknownRounds).invoices.find? 7).get (by decide +kernel), by simp,
    hcount, ?_⟩
  refine ((unexplained_failures_are_bounded_iff hpolicy hkept).2 ?_).1 unknownRounds [] _ (by simp)
    (by simp) (by omega) (by omega)
  -- every result of this run is a failed item of a receipt
  rintro ops₁ ⟨now, op⟩ ops₂ hsplit ⟨row, n, result, -, hevent, hwithout, -⟩
  have hmem : (now, op) ∈ unknownRounds := by simp [hsplit]
  simp only [unknownRounds, emptyRounds, emptyRound, List.mem_append, List.mem_flatMap,
    List.mem_cons, List.not_mem_nil, or_false, Prod.mk.injEq] at hmem
  obtain ⟨policy, event, hop, -⟩ := queueEvent?_returned hevent
  rcases hmem with (⟨-, rfl⟩ | ⟨-, rfl⟩) | ⟨k, -, ⟨-, rfl⟩ | ⟨-, rfl⟩⟩
  · cases hop
  · cases hop
  · cases hop
  · simp only [Ledger.queueEvent?] at hevent
    split at hevent
    · rename_i item _ hitem
      have hin : item = ⟨7, .failed .unknown⟩ := by
        simpa [sampleReceipt] using List.mem_of_find?_eq_some hitem
      split_ifs at hevent
      rw [hin] at hevent
      cases hevent
      rcases hwithout with h | h <;> cases h
    · cases hevent

/-- Six jobs of the sample request are abandoned, one more than the policy tolerates. -/
def abandonedRounds : List (Time × Op) :=
  emptyRounds (fun jobId => .sweepAbandoned jobId (.nonceConsumed 70 3)) 6

/-- The sixth abandonment leaves the sample request unflagged, scheduled six times. -/
theorem abandonments_are_not_bounded :
    SweepPolicy.default.maxAttempts = 5 ∧
    ∃ row, (run Ledger.empty abandonedRounds).invoices.find? 7 = some row ∧
      (∀ e ∈ Ledger.empty.queueHistory 7 abandonedRounds, e.resets = false) ∧
      unexplainedIn (Ledger.empty.queueHistory 7 abandonedRounds) = 6 ∧
      claimsIn (Ledger.empty.queueHistory 7 abandonedRounds) = 6 ∧
      pausedIn (Ledger.empty.queueHistory 7 abandonedRounds) = 0 ∧ row.attentionReason = none := by
  refine ⟨rfl, ((run Ledger.empty abandonedRounds).invoices.find? 7).get (by decide +kernel),
    by simp, ?_⟩
  decide +kernel

end Payday
