/-
# The history of a payment address

What the chain keeps of a payment address: the transactions in order, the events its contract
emitted, and what the two readers of `gum-chain` make of them.  A contract emits nothing before
it is deployed, so the first event of its token is the deployment; the search for a settlement
finds the first event at or after the block it starts from.
-/
import Mathlib.Data.List.Induction
import Payday.Chain.Logs
import Payday.Contracts.Payment

namespace Payday

namespace Site

variable (S : Site)

/-! ### Events -/

/-- The events of a list of transactions that starts in a state. -/
def log : PaymentState → List Tx → List (Tx × PaymentEvent)
  | _, [] => []
  | s, tx :: rest => (S.exec tx s).events.map (tx, ·) ++ log (S.exec tx s).state rest

/-- The events of a history. -/
def events (txs : List Tx) : List (Tx × PaymentEvent) := S.log .fresh txs

lemma log_append (txs txs' : List Tx) (s : PaymentState) :
    S.log s (txs ++ txs') =
      S.log s txs ++ S.log (txs.foldl (fun s tx => (S.exec tx s).state) s) txs' := by
  induction txs generalizing s with
  | nil => rfl
  | cons tx rest ih => rw [List.cons_append, log, log, ih, List.append_assoc, List.foldl_cons]

lemma events_append (txs txs' : List Tx) :
    S.events (txs ++ txs') = S.events txs ++ S.log (S.after txs) txs' :=
  S.log_append txs txs' .fresh

/-- The events of the transaction after `before`. -/
def eventsOf (before : List Tx) (tx : Tx) : List PaymentEvent := (S.exec tx (S.after before)).events

lemma events_split (before after : List Tx) (tx : Tx) :
    S.events (before ++ tx :: after) = S.events before ++ ((S.eventsOf before tx).map (tx, ·) ++
      S.log (S.after (before ++ [tx])) after) := by
  rw [S.events_append, log, S.after_append]
  rfl

lemma mem_events {txs : List Tx} {x : Tx × PaymentEvent} (h : x ∈ S.events txs) :
    ∃ before after, txs = before ++ x.1 :: after ∧ x.2 ∈ S.eventsOf before x.1 := by
  have hlog : ∀ (txs before : List Tx), x ∈ S.log (S.after before) txs →
      ∃ before' after, before ++ txs = before' ++ x.1 :: after ∧ x.2 ∈ S.eventsOf before' x.1 := by
    intro txs
    induction txs with
    | nil =>
      intro before hx
      cases hx
    | cons tx rest ih =>
      intro before hx
      rcases List.mem_append.1 hx with hx | hx
      · obtain ⟨e, he, rfl⟩ := List.mem_map.1 hx
        exact ⟨before, rest, rfl, he⟩
      · rw [← S.after_append] at hx
        obtain ⟨before', after, hsplit, he⟩ := ih (before ++ [tx]) hx
        exact ⟨before', after, by rw [← hsplit]; simp, he⟩
  exact hlog txs [] h

lemma mem_log {txs : List Tx} {s : PaymentState} {x : Tx × PaymentEvent} (h : x ∈ S.log s txs) :
    x.1 ∈ txs := by
  induction txs generalizing s with
  | nil => cases h
  | cons tx rest ih =>
    rcases List.mem_append.1 h with hx | hx
    · obtain ⟨e, -, rfl⟩ := List.mem_map.1 hx
      simp
    · simp [ih hx]

/-- The events of one transaction of a history, found by its hash. -/
lemma events_of_hash {before after : List Tx} {tx : Tx}
    (hnodup : ((before ++ tx :: after).map Tx.hash).Nodup) :
    (S.events (before ++ tx :: after)).filter (fun x => decide (x.1.hash = tx.hash)) =
      (S.eventsOf before tx).map (tx, ·) := by
  obtain ⟨-, hafter, hbefore⟩ := List.nodup_append.1 (List.map_append ▸ hnodup)
  have hother : ∀ (txs : List Tx) (s : PaymentState), (∀ tx' ∈ txs, tx'.hash ≠ tx.hash) →
      (S.log s txs).filter (fun x => decide (x.1.hash = tx.hash)) = [] := by
    intro txs s hne
    rw [List.filter_eq_nil_iff]
    intro x hx
    simpa using hne x.1 (S.mem_log hx)
  have hown : ((S.eventsOf before tx).map (tx, ·)).filter (fun x => decide (x.1.hash = tx.hash)) =
      (S.eventsOf before tx).map (tx, ·) := by
    rw [List.filter_eq_self]
    intro x hx
    obtain ⟨e, -, rfl⟩ := List.mem_map.1 hx
    simp
  rw [S.events_split, List.filter_append, List.filter_append, hown, events,
    hother before .fresh, hother after, List.nil_append, List.append_nil]
  · intro tx' htx' heq
    refine (List.nodup_cons.1 hafter).1 ?_
    rw [← heq]
    exact List.mem_map.2 ⟨tx', htx', rfl⟩
  · intro tx' htx' heq
    exact hbefore tx'.hash (List.mem_map.2 ⟨tx', htx', rfl⟩) tx.hash (by simp) heq

/-! ### Chain order -/

lemma block_le_of_position_le {b i b' i' : ℕ} (h : position b i ≤ position b' i') : b ≤ b' := by
  rcases Prod.Lex.toLex_le_toLex.1 h with hlt | ⟨heq, -⟩
  · exact hlt.le
  · exact heq.le

/-- The transactions of a history, in chain order. -/
def Ordered (txs : List Tx) : Prop := txs.Pairwise (fun tx tx' => tx.position < tx'.position)

/-- The events of a history are in chain order. -/
lemma log_pairwise {txs : List Tx} (h : Ordered txs) (s : PaymentState) :
    (S.log s txs).Pairwise (fun x y => x.1.position ≤ y.1.position) := by
  induction txs generalizing s with
  | nil => exact List.Pairwise.nil
  | cons tx rest ih =>
    obtain ⟨hlt, hrest⟩ := List.pairwise_cons.1 h
    refine List.pairwise_append.2 ⟨?_, ih hrest _, ?_⟩
    · exact List.pairwise_map.2 (List.pairwise_of_forall (fun _ _ => le_rfl))
    · intro x hx y hy
      obtain ⟨e, -, rfl⟩ := List.mem_map.1 hx
      exact (hlt y.1 (S.mem_log hy)).le

lemma events_pairwise {txs : List Tx} (h : Ordered txs) :
    (S.events txs).Pairwise (fun x y => x.1.block ≤ y.1.block) :=
  (S.log_pairwise h .fresh).imp block_le_of_position_le

/-- A transfer is where its transaction is. -/
lemma mem_transfersOf {tx : Tx} {o : PaymentObservation} (h : o ∈ S.transfersOf tx) :
    o.position = tx.position ∧ o.blockNumber = tx.block ∧
      o.blockTimestamp = S.timestamp tx.block := by
  unfold transfersOf at h
  split at h
  · obtain ⟨c, -, hc⟩ := List.mem_filterMap.1 h
    cases c with
    | transfer token sender amount logIndex =>
      obtain rfl := Option.some.inj hc
      exact ⟨rfl, rfl, rfl⟩
    | execute refused => cases hc
    | recover token refused => cases hc
  · cases h

lemma mem_ownTransfers {txs : List Tx} {o : PaymentObservation} (h : o ∈ S.ownTransfers txs) :
    ∃ tx ∈ txs, o ∈ S.transfersOf tx ∧ o.token = S.terms.token := by
  obtain ⟨hmem, htoken⟩ := List.mem_filter.1 h
  obtain ⟨tx, htx, ho⟩ := List.mem_flatMap.1 hmem
  exact ⟨tx, htx, ho, of_decide_eq_true htoken⟩

lemma ownTransfers_append (txs txs' : List Tx) :
    S.ownTransfers (txs ++ txs') = S.ownTransfers txs ++ S.ownTransfers txs' := by
  simp [ownTransfers]

/-- The transfers of a history are in chain order. -/
lemma ownTransfers_pairwise {txs : List Tx} (h : Ordered txs) :
    (S.ownTransfers txs).Pairwise (fun o o' => o.blockNumber ≤ o'.blockNumber) := by
  induction txs with
  | nil => exact List.Pairwise.nil
  | cons tx rest ih =>
    obtain ⟨hlt, hrest⟩ := List.pairwise_cons.1 h
    rw [← List.singleton_append, S.ownTransfers_append]
    refine List.pairwise_append.2 ⟨?_, ih hrest, ?_⟩
    · refine List.pairwise_of_forall_mem_list fun o ho o' ho' => ?_
      obtain ⟨t, ht, hot, -⟩ := S.mem_ownTransfers ho
      obtain ⟨t', ht', hot', -⟩ := S.mem_ownTransfers ho'
      obtain rfl := List.mem_singleton.1 ht
      obtain rfl := List.mem_singleton.1 ht'
      rw [(S.mem_transfersOf hot).2.1, (S.mem_transfersOf hot').2.1]
    · intro o ho o' ho'
      obtain ⟨t, ht, hot, -⟩ := S.mem_ownTransfers ho
      obtain ⟨t', ht', hot', -⟩ := S.mem_ownTransfers ho'
      obtain rfl := List.mem_singleton.1 ht
      rw [(S.mem_transfersOf hot).2.1, (S.mem_transfersOf hot').2.1]
      exact block_le_of_position_le (hlt t' ht').le

/-! ### Deployment -/

/-- A deployed contract stays. -/
lemma after_settled {txs : List Tx} {b : Bool} (h : (S.after txs).settled = some b)
    (txs' : List Tx) : (S.after (txs ++ txs')).settled = some b := by
  induction txs' using List.reverseRecOn with
  | nil => simpa using h
  | append_singleton txs' tx ih =>
    rw [← List.append_assoc, S.after_append]
    exact (S.exec_deployed tx ih).1

/-- The transaction that deployed the contract. -/
lemma deployment {txs : List Tx} {b : Bool} (h : (S.after txs).settled = some b) :
    ∃ before tx after, txs = before ++ tx :: after ∧ (S.after before).settled = none ∧
      (S.after (before ++ [tx])).settled = some b := by
  induction txs using List.reverseRecOn with
  | nil => cases h
  | append_singleton txs tx ih =>
    rcases hb : (S.after txs).settled with _ | b'
    · exact ⟨txs, tx, [], rfl, hb, h⟩
    · have hsame := S.after_settled hb [tx]
      obtain rfl := Option.some.inj (hsame.symm.trans h)
      obtain ⟨before, tx', after, rfl, hnone, hdeployed⟩ := ih hb
      exact ⟨before, tx', after ++ [tx], by simp, hnone, hdeployed⟩

/-- Before the deployment nothing leaves the address and nothing is emitted. -/
lemma undeployed {txs : List Tx} (h : (S.after txs).settled = none) :
    (S.after txs).balance S.terms.token = ((S.ownTransfers txs).map (·.amount)).sum ∧
      S.events txs = [] := by
  induction txs using List.reverseRecOn with
  | nil => exact ⟨rfl, rfl⟩
  | append_singleton txs tx ih =>
    rcases hb : (S.after txs).settled with _ | b
    · obtain ⟨hbalance, hevents⟩ := ih hb
      have hexec := S.exec_undeployed tx hb
      rw [S.after_append] at h ⊢
      cases hexec with
      | idle settled events forwarded balance =>
        refine ⟨?_, ?_⟩
        · rw [balance, hbalance, ← S.arrived_eq, ← S.arrived_eq, List.flatMap_append, arrived_append]
          simp
        · rw [S.events_append, hevents, log, log, events]
          rfl
      | returned settled => rw [settled] at h; cases h
      | settled settled => rw [settled] at h; cases h
    · rw [S.after_settled hb [tx]] at h
      cases h

/-- The events of the deployment, and how much had arrived by then. -/
lemma deployment_events {before : List Tx} {tx : Tx} {b : Bool}
    (hnone : (S.after before).settled = none)
    (hdeployed : (S.after (before ++ [tx])).settled = some b) :
    (b = true → ∃ rest, S.eventsOf before tx = .settled S.terms.amount :: rest ∧ OnlyRecovered rest ∧
      S.timestamp tx.block ≤ S.terms.expirationTimestamp) ∧
    (b = false → ∃ amount rest, S.eventsOf before tx = .recovered S.terms.token amount :: rest ∧
      OnlyRecovered rest ∧ S.terms.expirationTimestamp < S.timestamp tx.block) := by
  rw [S.after_append] at hdeployed
  cases S.exec_undeployed tx hnone with
  | idle settled => rw [settled] at hdeployed; cases hdeployed
  | returned settled late amount rest events only =>
    rw [settled] at hdeployed
    obtain rfl := Option.some.inj hdeployed
    exact ⟨fun hc => (by cases hc), fun _ => ⟨amount, rest, events, only, late⟩⟩
  | settled settled inTime held rest events only =>
    rw [settled] at hdeployed
    obtain rfl := Option.some.inj hdeployed
    exact ⟨fun _ => ⟨rest, events, only, inTime⟩, fun hc => (by cases hc)⟩

/-- What had arrived when the contract paid the receiver. -/
lemma deployment_held {before : List Tx} {tx : Tx} (hnone : (S.after before).settled = none)
    (hdeployed : (S.after (before ++ [tx])).settled = some true) :
    S.terms.amount ≤ ((S.ownTransfers (before ++ [tx])).map (·.amount)).sum := by
  have hbalance := (S.undeployed hnone).1
  have harrived : S.arrived (S.transfersOf tx) = ((S.ownTransfers [tx]).map (·.amount)).sum := by
    rw [← S.arrived_eq]
    simp
  rw [S.after_append] at hdeployed
  rw [S.ownTransfers_append, List.map_append, List.sum_append, ← hbalance, ← harrived]
  cases S.exec_undeployed tx hnone with
  | idle settled => rw [settled] at hdeployed; cases hdeployed
  | returned settled => rw [settled] at hdeployed; cases hdeployed
  | settled settled inTime held => exact held

/-- A contract that paid its receiver was reached by a transfer no later than its deployment. -/
lemma deployment_transfer {before : List Tx} {tx : Tx} (hnone : (S.after before).settled = none)
    (hdeployed : (S.after (before ++ [tx])).settled = some true) :
    ∃ o ∈ S.ownTransfers (before ++ [tx]), o.amount ≠ 0 := by
  by_contra hzero
  have hsum : ((S.ownTransfers (before ++ [tx])).map (·.amount)).sum = 0 := by
    refine List.sum_eq_zero fun n hn => ?_
    obtain ⟨o, ho, rfl⟩ := List.mem_map.1 hn
    by_contra hne
    exact hzero ⟨o, ho, hne⟩
  have hheld := S.deployment_held hnone hdeployed
  have hpos := S.amount_pos
  omega

/-- A `Settled` event is the deployment's. -/
lemma settled_of_mem_events {txs : List Tx} {tx : Tx} {amount : ℕ}
    (h : (tx, PaymentEvent.settled amount) ∈ S.events txs) : (S.after txs).settled = some true := by
  obtain ⟨before, after, rfl, he⟩ := S.mem_events h
  have hnot : ∀ {es : List PaymentEvent}, OnlyRecovered es → .settled amount ∉ es := by
    intro es honly hmem
    obtain ⟨token, a, heq⟩ := honly _ hmem
    cases heq
  have hsplit : before ++ tx :: after = before ++ [tx] ++ after := by simp
  rw [hsplit]
  refine S.after_settled ?_ after
  rw [S.after_append]
  rcases hb : (S.after before).settled with _ | b
  · cases S.exec_undeployed tx hb with
    | idle settled events =>
      rw [eventsOf, events] at he
      cases he
    | returned settled late amount' rest events only =>
      rw [eventsOf, events] at he
      rcases List.mem_cons.1 he with heq | hrest
      · cases heq
      · exact absurd hrest (hnot only)
    | settled settled => exact settled
  · exact absurd he (hnot (S.exec_deployed tx hb).2.1)

end Site

end Payday
