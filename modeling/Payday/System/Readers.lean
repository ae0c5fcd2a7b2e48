/-
# What the readers see of a history

A provider that answers `eth_getLogs` completely for finalized blocks, and the receipt of a
job's transaction.  Over such answers `find_settlement` returns the first event of the contract
at or after the block it starts from, and `decode_sweep_outcomes` returns what the sweep did.
-/
import Mathlib.Algebra.Order.BigOperators.Group.List
import Mathlib.Algebra.Order.Group.Nat
import Payday.Lib.Window
import Payday.System.History

namespace Payday

namespace Site

variable (S : Site)

/-! ### The provider -/

/-- The log of an event. -/
def rpcEvent : PaymentEvent → LogEvent
  | .settled amount => .settled (.ok amount)
  | .recovered token amount => .recovered (.ok (token, amount))
  | .wrongChain _ _ => .other

/-- The log is the event's. -/
structure Reports (l : RpcLog) (x : Tx × PaymentEvent) : Prop where
  address : l.address = S.payment
  removed : l.removed = false
  event : l.event = rpcEvent x.2
  transactionHash : l.transactionHash = some x.1.hash
  blockNumber : l.blockNumber = some x.1.block
  blockHash : l.blockHash = some (S.blockHash x.1.block)
  transactionIndex : l.transactionIndex = some x.1.index

/-- The events of a history in the blocks `[lo, hi)`. -/
def eventsIn (txs : List Tx) (lo hi : ℕ) : List (Tx × PaymentEvent) :=
  window (fun x : Tx × PaymentEvent => x.1.block) lo hi (S.events txs)

/-- `eth_getLogs` of the contract answers with the contract's logs of the range, in any order,
whenever it answers for a finalized range: put in order by their places, they report the events
in chain order. -/
def Complete (getLogs : Address → ℕ → ℕ → Except ChainError (List RpcLog)) (txs : List Tx)
    (finalized : ℕ) : Prop :=
  ∀ a b logs, b ≤ finalized → getLogs S.payment a b = .ok logs →
    List.Forall₂ S.Reports (logs.insertionSort (fun l l' => l.sortKey ≤ l'.sortKey))
      (S.eventsIn txs a (b + 1))

/-- The log of an event, at a place in its block. -/
def report (logIndex : Tx × PaymentEvent → ℕ) (x : Tx × PaymentEvent) : RpcLog where
  address := S.payment
  event := rpcEvent x.2
  removed := false
  transactionHash := some x.1.hash
  blockNumber := some x.1.block
  blockHash := some (S.blockHash x.1.block)
  transactionIndex := some x.1.index
  logIndex := some (logIndex x)

/-- A provider that knows a history. -/
def provider (logIndex : Tx × PaymentEvent → ℕ) (txs : List Tx) (address : Address) (a b : ℕ) :
    Except ChainError (List RpcLog) :=
  .ok (if address = S.payment then (S.eventsIn txs a (b + 1)).map (S.report logIndex) else [])

lemma provider_complete {logIndex : Tx × PaymentEvent → ℕ} {txs : List Tx}
    (h : (S.events txs).Pairwise (fun x y =>
      (S.report logIndex x).sortKey ≤ (S.report logIndex y).sortKey)) (finalized : ℕ) :
    S.Complete (S.provider logIndex txs) txs finalized := by
  intro a b logs _ hlogs
  rw [provider, if_pos rfl] at hlogs
  obtain rfl := Except.ok.inj hlogs
  have hsorted : ((S.eventsIn txs a (b + 1)).map (S.report logIndex)).Pairwise
      (fun l l' => l.sortKey ≤ l'.sortKey) := List.pairwise_map.2 (h.filter _)
  rw [hsorted.insertionSort_eq, List.forall₂_map_left_iff, List.forall₂_same]
  exact fun x _ => ⟨rfl, rfl, rfl, rfl, rfl, rfl, rfl⟩

/-- An event of the contract that can be a settlement. -/
def settlementLog (x : Tx × PaymentEvent) : Option SettlementLog :=
  match x.2 with
  | .settled amount =>
    some ⟨x.1.hash, x.1.block, S.blockHash x.1.block, x.1.index, .settled amount⟩
  | .recovered token amount =>
    if token = S.terms.token then
      some ⟨x.1.hash, x.1.block, S.blockHash x.1.block, x.1.index, .recovered amount⟩
    else none
  | .wrongChain _ _ => none

/-- A settlement log is where its transaction is. -/
lemma settlementLog_eq_some {x : Tx × PaymentEvent} {l : SettlementLog}
    (h : S.settlementLog x = some l) : l.transactionHash = x.1.hash ∧ l.blockNumber = x.1.block ∧
      l.transactionIndex = x.1.index ∧ (∀ a, l.amount = .settled a → x.2 = .settled a) := by
  obtain ⟨tx, event⟩ := x
  cases event with
  | settled amount =>
    obtain rfl := Option.some.inj h
    refine ⟨rfl, rfl, rfl, fun a ha => ?_⟩
    cases ha
    rfl
  | recovered token amount =>
    simp only [settlementLog] at h
    split at h
    · obtain rfl := Option.some.inj h
      exact ⟨rfl, rfl, rfl, fun a ha => (by cases ha)⟩
    · cases h
  | wrongChain expected actual => cases h

/-- The settlement logs of the blocks `[lo, hi)`. -/
def settlements (txs : List Tx) (lo hi : ℕ) : List SettlementLog :=
  (S.eventsIn txs lo hi).filterMap S.settlementLog

lemma decodeSettlementLogs_reports {logs : List RpcLog} {xs : List (Tx × PaymentEvent)}
    (h : List.Forall₂ S.Reports logs xs) :
    decodeSettlementLogs S.terms.token (logs.filter (RpcLog.isSettlement S.payment)) =
      .ok (xs.filterMap S.settlementLog) := by
  induction h with
  | nil => rfl
  | @cons l x logs xs hl _ ih =>
    obtain ⟨tx, event⟩ := x
    have haddr := hl.address
    have hrem := hl.removed
    have hevent := hl.event
    -- an event of the contract decodes to its settlement log
    have hdecode : decodeSettlementLog S.terms.token l = .ok (S.settlementLog (tx, event)) := by
      simp only [decodeSettlementLog, hl.transactionHash, hl.blockNumber, hl.blockHash,
        hl.transactionIndex, hevent, settlementLog]
      cases event with
      | settled amount => rfl
      | recovered token amount =>
        simp only [rpcEvent]
        by_cases ht : token = S.terms.token
        · simp [ht]
        · simp [ht]
      | wrongChain expected actual => rfl
    cases event with
    | wrongChain expected actual =>
      have hskip : RpcLog.isSettlement S.payment l = false := by
        simp [RpcLog.isSettlement, hevent, rpcEvent]
      rw [List.filter_cons_of_neg (by simp [hskip]), ih]
      rfl
    | settled amount =>
      have hkeep : RpcLog.isSettlement S.payment l = true := by
        simp [RpcLog.isSettlement, haddr, hrem, hevent, rpcEvent]
      rw [List.filter_cons_of_pos hkeep, decodeSettlementLogs, hdecode, ih]
      rfl
    | recovered token amount =>
      have hkeep : RpcLog.isSettlement S.payment l = true := by
        simp [RpcLog.isSettlement, haddr, hrem, hevent, rpcEvent]
      rw [List.filter_cons_of_pos hkeep, decodeSettlementLogs, hdecode, ih, List.filterMap_cons]
      rcases S.settlementLog (tx, .recovered token amount) with _ | y <;> rfl

/-- What `payment_settlement_tx` returns for a finalized range. -/
lemma paymentSettlementTx_ok {getLogs : Address → ℕ → ℕ → Except ChainError (List RpcLog)}
    {txs : List Tx} {finalized : ℕ} (hc : S.Complete getLogs txs finalized) {a b : ℕ}
    (hb : b ≤ finalized) {r : Option SettlementEvent}
    (h : paymentSettlementTx getLogs S.payment S.terms.token a b = .ok r) :
    firstSettlement S.payment (S.settlements txs a (b + 1)) = .ok r := by
  unfold paymentSettlementTx at h
  split at h
  · cases h
  · rename_i logs hlogs
    rw [← filter_insertionSort RpcLog.sortKey (RpcLog.isSettlement S.payment),
      S.decodeSettlementLogs_reports (hc a b logs hb hlogs)] at h
    exact h

/-! ### The search -/

lemma settlements_eq_nil {txs : List Tx} {lo hi : ℕ}
    (h : ∀ x ∈ S.events txs, lo ≤ x.1.block → x.1.block < hi → S.settlementLog x = none) :
    S.settlements txs lo hi = [] := by
  rw [settlements, List.filterMap_eq_nil_iff]
  intro x hx
  obtain ⟨hmem, hlo, hhi⟩ := mem_window.1 hx
  exact h x hmem hlo hhi

lemma settlementLog_eq_none {txs : List Tx} {lo hi : ℕ} (h : S.settlements txs lo hi = [])
    {x : Tx × PaymentEvent} (hx : x ∈ S.events txs) (hlo : lo ≤ x.1.block) (hhi : x.1.block < hi) :
    S.settlementLog x = none := by
  rw [settlements, List.filterMap_eq_nil_iff] at h
  exact h x (mem_window.2 ⟨hx, hlo, hhi⟩)

/-- The deployment that paid the receiver is the first settlement of a range that holds it. -/
lemma settlements_deployment {before : List Tx} (after : List Tx) {tx : Tx} {lo hi : ℕ}
    (hnone : (S.after before).settled = none)
    (hdeployed : (S.after (before ++ [tx])).settled = some true) (hlo : lo ≤ tx.block)
    (hhi : tx.block < hi) :
    ∃ first rest, S.settlements (before ++ tx :: after) lo hi = first :: rest ∧
      first.transactionHash = tx.hash ∧ first.amount = .settled S.terms.amount ∧
      first.blockNumber = tx.block ∧ first.transactionIndex = tx.index := by
  obtain ⟨es, hevents, -⟩ := (S.deployment_events hnone hdeployed).1 rfl
  rw [settlements, eventsIn, S.events_split, (S.undeployed hnone).2, hevents, List.map_cons,
    List.nil_append, List.cons_append]
  rw [window, List.filter_cons_of_pos (by simpa using ⟨hlo, hhi⟩), List.filterMap_cons]
  exact ⟨_, _, rfl, rfl, rfl, rfl, rfl⟩

/-- A settlement that comes before another one of a range is not after it. -/
lemma first_settlement_mem {before after : List Tx} {lo hi : ℕ} {first : SettlementLog}
    {rest : List SettlementLog} (h : S.settlements (before ++ after) lo hi = first :: rest)
    {x : Tx × PaymentEvent} (hx : x ∈ S.events before) (hlog : S.settlementLog x ≠ none)
    (hlo : lo ≤ x.1.block) (hhi : x.1.block < hi) :
    ∃ y ∈ S.events before, S.settlementLog y = some first := by
  rw [settlements, eventsIn, S.events_append, window_append, List.filterMap_append] at h
  obtain ⟨l, hl⟩ := Option.ne_none_iff_exists'.1 hlog
  have hmem : l ∈ (window (fun x : Tx × PaymentEvent => x.1.block) lo hi
      (S.events before)).filterMap S.settlementLog :=
    List.mem_filterMap.2 ⟨x, mem_window.2 ⟨hx, hlo, hhi⟩, hl⟩
  rcases hw : (window (fun x : Tx × PaymentEvent => x.1.block) lo hi
      (S.events before)).filterMap S.settlementLog with _ | ⟨l', ls⟩
  · rw [hw] at hmem
    cases hmem
  · rw [hw, List.cons_append] at h
    obtain ⟨rfl, -⟩ := List.cons.inj h
    have hfirst : l' ∈ (window (fun x : Tx × PaymentEvent => x.1.block) lo hi
        (S.events before)).filterMap S.settlementLog := by
      rw [hw]
      simp
    obtain ⟨y, hy, hyl⟩ := List.mem_filterMap.1 hfirst
    exact ⟨y, (mem_window.1 hy).1, hyl⟩

/-- What a settlement event says about the settlement logs of a range. -/
structure Finds (logs : List SettlementLog) (event : SettlementEvent) (first : SettlementLog)
    (rest : List SettlementLog) : Prop where
  logs_eq : logs = first :: rest
  transactionHash : event.transactionHash = first.transactionHash
  blockNumber : event.blockNumber = first.blockNumber
  transactionIndex : event.transactionIndex = first.transactionIndex
  settled_of_first : ∀ a, first.amount = .settled a → event.settled.isSome = true
  settled_of_some : event.settled.isSome = true → ∃ x ∈ logs, ∃ a, x.amount = .settled a
  recovered_le : event.recovered ≤ ((logs.filter (fun x =>
    decide (x.transactionHash = first.transactionHash))).map (·.amount.recoveredPart)).sum

/-- What the settlement logs of a transaction report as recovered, its events report. -/
lemma recovered_of_hash (xs : List (Tx × PaymentEvent)) (h : Hash) :
    (((xs.filterMap S.settlementLog).filter (fun l => decide (l.transactionHash = h))).map
      (·.amount.recoveredPart)).sum =
        S.recoveredIn ((xs.filter (fun x => decide (x.1.hash = h))).map Prod.snd) := by
  induction xs with
  | nil => rfl
  | cons x rest ih =>
    obtain ⟨tx, event⟩ := x
    by_cases hh : tx.hash = h
    · have hkeep : ((tx, event) :: rest).filter (fun x => decide (x.1.hash = h)) =
          (tx, event) :: rest.filter (fun x => decide (x.1.hash = h)) :=
        List.filter_cons_of_pos (by simpa using hh)
      have hcons : S.recoveredIn (event :: (rest.filter (fun x => decide (x.1.hash = h))).map Prod.snd) =
          S.recoveredIn [event] +
            S.recoveredIn ((rest.filter (fun x => decide (x.1.hash = h))).map Prod.snd) :=
        S.recoveredIn_append [event] _
      rw [hkeep, List.map_cons, hcons, ← ih]
      cases event with
      | settled amount =>
        simp [settlementLog, hh, recoveredIn, SettlementAmount.recoveredPart]
      | recovered token amount =>
        by_cases ht : token = S.terms.token
        · simp [settlementLog, hh, ht, recoveredIn, SettlementAmount.recoveredPart]
        · simp [settlementLog, ht, recoveredIn]
      | wrongChain expected actual =>
        rw [List.filterMap_cons_none rfl]
        simp [recoveredIn]
    · have hskip : ((tx, event) :: rest).filter (fun x => decide (x.1.hash = h)) =
          rest.filter (fun x => decide (x.1.hash = h)) :=
        List.filter_cons_of_neg (by simpa using hh)
      rw [hskip, ← ih, List.filterMap_cons]
      rcases hl : S.settlementLog (tx, event) with _ | l
      · rfl
      · have hhash : l.transactionHash = tx.hash := (S.settlementLog_eq_some hl).1
        simp only
        rw [List.filter_cons_of_neg (by simpa [hhash] using hh)]

variable {S} in
/-- The amount a found settlement reports as recovered left the contract in its transaction. -/
lemma Finds.recovered_le_forwarded {before after : List Tx} {tx : Tx} {lo hi : ℕ}
    {event : SettlementEvent} {first : SettlementLog} {rest : List SettlementLog}
    (h : Finds (S.settlements (before ++ tx :: after) lo hi) event first rest)
    (hnodup : ((before ++ tx :: after).map Tx.hash).Nodup)
    (hhash : first.transactionHash = tx.hash) :
    event.recovered ≤ S.forwardedOf (S.exec tx (S.after before)).forwarded := by
  have hsub : (S.eventsIn (before ++ tx :: after) lo hi).Sublist (S.events (before ++ tx :: after)) :=
    List.filter_sublist
  refine h.recovered_le.trans ?_
  rw [settlements, S.recovered_of_hash, hhash]
  calc S.recoveredIn (((S.eventsIn (before ++ tx :: after) lo hi).filter
        (fun x => decide (x.1.hash = tx.hash))).map Prod.snd)
      ≤ S.recoveredIn (((S.events (before ++ tx :: after)).filter
        (fun x => decide (x.1.hash = tx.hash))).map Prod.snd) :=
          (((hsub.filter _).map _).map _).sum_le_sum (fun _ _ => Nat.zero_le _)
    _ = S.recoveredIn (S.eventsOf before tx) := by
          rw [S.events_of_hash hnodup, List.map_map]
          simp [Function.comp_def]
    _ = S.forwardedOf (S.exec tx (S.after before)).forwarded := S.accounted_exec tx _

/-- The search returns the first settlement log of its range. -/
lemma findSettlement_finds {getLogs : Address → ℕ → ℕ → Except ChainError (List RpcLog)}
    {blockHeader : ℕ → Except ChainError BlockHeader}
    {probeFailure : Currency → Address → Address → Address → Address → ℕ →
      Except ChainError FailureProbe}
    {txs : List Tx} {finalized : ℕ} (hc : S.Complete getLogs txs finalized)
    (hsorted : (S.events txs).Pairwise (fun x y => x.1.block ≤ y.1.block))
    {fromBlock toBlock logRangeSize : ℕ} (hto : toBlock ≤ finalized) {event : SettlementEvent}
    (h : findSettlement (alloyChainClient getLogs blockHeader probeFailure) S.payment S.terms.token
      fromBlock toBlock logRangeSize = .ok event) :
    ∃ first rest, Finds (S.settlements txs fromBlock (toBlock + 1)) event first rest := by
  obtain ⟨a, b, ha, hab, hb, hfound, hbefore⟩ := findSettlementLoop_ok h
  obtain ⟨first, rest, hchunk, hhash, hblock, -, hindex, hsettled, hrecovered⟩ :=
    firstSettlement_ok (S.paymentSettlementTx_ok hc (hb.trans hto) hfound)
  -- nothing before the chunk, and the chunk before the rest
  have hempty : S.settlements txs fromBlock a = [] := by
    refine S.settlements_eq_nil fun x hx hlo hhi => ?_
    obtain ⟨c, d, -, hcn, hnd, hd, hnone⟩ := hbefore x.1.block hlo hhi
    have hnil := firstSettlement_none (S.paymentSettlementTx_ok hc (hd.trans hto) hnone)
    exact S.settlementLog_eq_none hnil hx hcn (by omega)
  have hsplit : S.settlements txs fromBlock (toBlock + 1) =
      S.settlements txs a (b + 1) ++ S.settlements txs (b + 1) (toBlock + 1) := by
    rw [settlements, eventsIn, window_adjacent ha (by omega : a ≤ toBlock + 1) hsorted,
      window_adjacent (by omega : a ≤ b + 1) (by omega : b + 1 ≤ toBlock + 1) hsorted,
      List.filterMap_append, List.filterMap_append]
    rw [settlements, eventsIn] at hempty
    rw [hempty, List.nil_append]
    rfl
  have hsub : ((S.settlements txs a (b + 1)).takeWhile (fun x =>
      decide (x.transactionHash = first.transactionHash))).Sublist
        (S.settlements txs fromBlock (toBlock + 1)) := by
    rw [hsplit]
    exact (List.takeWhile_sublist _).trans (List.sublist_append_left _ _)
  refine ⟨first, rest ++ S.settlements txs (b + 1) (toBlock + 1), ?_, hhash, hblock, hindex, ?_, ?_, ?_⟩
  · rw [hsplit, hchunk, List.cons_append]
  · intro amount hamount
    rw [hsettled, hchunk]
    exact ⟨first, by simp, amount, hamount⟩
  · intro hsome
    obtain ⟨x, hx, amount, hamount⟩ := hsettled.1 hsome
    exact ⟨x, hsub.subset hx, amount, hamount⟩
  · rw [hrecovered]
    have hfilter := (hsub.filter (fun x => decide (x.transactionHash = first.transactionHash)))
    rw [List.filter_eq_self.2 (List.all_eq_true.1 List.all_takeWhile)] at hfilter
    exact (hfilter.map _).sum_le_sum (fun _ _ => Nat.zero_le _)

/-! ### The receipt of a sweep -/

/-- The log is the sweeper's report on the address. -/
def ReportsSweep (batchSweeper : Address) (l : RpcLog) (e : SweepEvent) : Prop :=
  l.address = batchSweeper ∧ match e with
    | .sweepFailed => ∃ data, l.event = .sweepFailed (.ok (S.payment, data))
    | .sweepRecovered amount => l.event = .sweepRecovered (.ok (S.payment, amount))

/-- The logs about the address in a receipt are those of its sweep. -/
def ReceiptOf (batchSweeper : Address) (r : CallResult × Option SweepEvent) (logs : List RpcLog) :
    Prop :=
  ∃ own reported, logs.filter (fun l => decide (l.subject batchSweeper = some S.payment)) =
      own ++ reported ∧
    List.Forall₂ (fun l e => l.address = S.payment ∧ l.event = rpcEvent e) own r.1.events ∧
    List.Forall₂ (S.ReportsSweep batchSweeper) reported r.2.toList

/-- What a sweep can have done, by the outcome its receipt carries. -/
inductive Swept (s : PaymentState) (r : CallResult) : SweepOutcome → Prop
  | failed (data : List UInt8) : Swept s r (.failed data)
  | settled (before : s.settled = none) (deployed : r.state.settled = some true) (amount rest : ℕ)
      (forwarded : S.forwardedOf r.forwarded = rest) : Swept s r (.settled amount rest)
  | returned (before : s.settled = none) (deployed : r.state.settled = some false) (amount : ℕ)
      (forwarded : S.forwardedOf r.forwarded = amount) : Swept s r (.recovered amount)
  | collected (before : s.settled ≠ none) (amount : ℕ)
      (forwarded : S.forwardedOf r.forwarded = amount) : Swept s r (.collected amount)

/-- What an event of the contract adds to the entry of the address. -/
def pushEvent (entry : PendingOutcome) : PaymentEvent → PendingOutcome
  | .settled amount => { entry with settled := some amount }
  | .recovered _ amount => { entry with recovered := some amount }
  | .wrongChain _ _ => entry

/-- What the sweeper's report becomes. -/
def reportOutcome (data : List UInt8) : SweepEvent → SweepOutcome
  | .sweepFailed => .failed data
  | .sweepRecovered amount => .collected amount

/-- The entry a sweep's receipt leaves for the address. -/
lemma fold_receipt {batchSweeper : Address} {r : CallResult × Option SweepEvent} {logs : List RpcLog}
    (h : S.ReceiptOf batchSweeper r logs) :
    ∃ data, (logs.filter (fun l => decide (l.subject batchSweeper = some S.payment))).foldl
        PendingOutcome.push {} =
      { r.1.events.foldl pushEvent {} with sweeper := r.2.map (reportOutcome data) } := by
  obtain ⟨own, reported, hfilter, hown, hreported⟩ := h
  have hfold : ∀ entry, own.foldl PendingOutcome.push entry = r.1.events.foldl pushEvent entry := by
    clear hfilter
    generalize r.1.events = events at hown
    induction hown with
    | nil => exact fun entry => rfl
    | @cons l e ls es hl _ ih =>
      intro entry
      rw [List.foldl_cons, List.foldl_cons, ih]
      congr 1
      cases e <;> simp [PendingOutcome.push, hl.2, rpcEvent, pushEvent]
  have hsweeper : ∀ (es : List PaymentEvent) (entry : PendingOutcome), entry.sweeper = none →
      (es.foldl pushEvent entry).sweeper = none := by
    intro es
    induction es with
    | nil => exact fun entry h => h
    | cons e rest ih =>
      intro entry h
      refine ih _ ?_
      cases e <;> exact h
  have hnone := hsweeper r.1.events {} rfl
  rw [hfilter, List.foldl_append, hfold]
  generalize r.1.events.foldl pushEvent {} = entry at hnone
  obtain ⟨settled, recovered, sweeper⟩ := entry
  obtain rfl : sweeper = none := hnone
  rcases hr : r.2 with _ | e
  · rw [hr] at hreported
    cases hreported
    exact ⟨[], rfl⟩
  · rw [hr] at hreported
    cases hreported with
    | cons hl hnil =>
      cases hnil
      cases e with
      | sweepFailed =>
        obtain ⟨-, data, hevent⟩ := hl
        exact ⟨data, by simp [PendingOutcome.push, hevent, reportOutcome]⟩
      | sweepRecovered amount =>
        obtain ⟨-, hevent⟩ := hl
        exact ⟨[], by simp [PendingOutcome.push, hevent, reportOutcome]⟩

/-- The outcome a receipt carries for the address says what the sweep did. -/
lemma swept_of_decode {batchSweeper : Address} {t : ℕ} {refused : Bool} {s : PaymentState}
    {logs : List RpcLog} {txHash : Hash}
    {outcomes : Table (Prod.fst : Address × SweepOutcome → Address)} {x : Address × SweepOutcome}
    (hreceipt : S.ReceiptOf batchSweeper (S.sweep t refused s) logs)
    (hdecode : decodeSweepOutcomes logs batchSweeper txHash = .ok outcomes)
    (hx : outcomes.find? S.payment = some x) : S.Swept s (S.sweep t refused s).1 x.2 := by
  have hresolve := decodeSweepOutcomes_find? hdecode hx
  obtain ⟨data, hentry⟩ := S.fold_receipt hreceipt
  rw [hentry] at hresolve
  obtain ⟨address, outcome⟩ := x
  rcases hs : s.settled with _ | b
  · rcases hc : Payment.construct S.terms S.terms.chainId t refused s with _ | r
    · have hsweep : S.sweep t refused s = (⟨s, [], []⟩, some .sweepFailed) := by
        simp [sweep, hs, PaymentFactory.execute, hc]
      rw [hsweep] at hresolve ⊢
      cases hresolve
      exact .failed data
    · have hsweep : S.sweep t refused s = (r, none) := by
        simp [sweep, hs, PaymentFactory.execute, hc]
      rw [hsweep] at hresolve ⊢
      unfold Payment.construct at hc
      simp only [ne_eq, not_true_eq_false, if_false] at hc
      split_ifs at hc
      all_goals obtain rfl := Option.some.inj hc
      all_goals cases hresolve
      · exact .returned hs rfl _ (by simp [forwardedOf])
      · exact .settled hs rfl _ _ (by simp [forwardedOf, pushEvent])
      · exact .settled hs rfl _ _ (by simp [forwardedOf, pushEvent])
  · rcases hc : Payment.recover S.terms.token refused s with _ | r
    · have hsweep : S.sweep t refused s = (⟨s, [], []⟩, some .sweepFailed) := by
        simp [sweep, hs, hc]
      rw [hsweep] at hresolve ⊢
      cases hresolve
      exact .failed data
    · have hsweep : S.sweep t refused s =
          (r, some (.sweepRecovered (s.balance S.terms.token))) := by
        simp [sweep, hs, hc]
      rw [hsweep] at hresolve ⊢
      unfold Payment.recover at hc
      simp only at hc
      split_ifs at hc with hzero
      all_goals obtain rfl := Option.some.inj hc
      all_goals cases hresolve
      · exact .collected (by simp [hs]) _ (by simp [forwardedOf, hzero])
      · exact .collected (by simp [hs]) _ (by simp [forwardedOf])

end Site

end Payday
