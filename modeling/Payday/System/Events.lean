/-
# Events of a range

A finite set of events of the chain, and a provider that answers `eth_getLogs` with the events
of the range in some order, or rejects a range of more than one block.  What
`payment_settlement_tx` and `authorization_used_tx` return for a range that is answered depends
only on the events of the range, and a range can be split at any block: a transaction is in one
block, so its events are on one side.
-/
import Payday.Signers.Messages
import Payday.System.Readers

namespace Payday

/-! ### Providers -/

/-- A provider of logs, where `logs a b` are the logs of the blocks `a..=b`.  It may answer each
call differently. -/
structure LogProvider (logs : ℕ → ℕ → List RpcLog) where
  /-- The answer to the `n`-th call. -/
  getLogs : ℕ → ℕ → ℕ → Except ChainError (List RpcLog)
  /-- It answers with the logs of the range, or rejects a range larger than one block. -/
  answers : ∀ n a b, (∃ found, getLogs n a b = .ok found ∧ found.Perm (logs a b)) ∨
    a < b ∧ ∃ message, getLogs n a b = .error (.logRangeTooLarge message)

/-- A provider that answers every range. -/
def LogProvider.unlimited (logs : ℕ → ℕ → List RpcLog) : LogProvider logs where
  getLogs := fun _ a b => .ok (logs a b)
  answers := fun _ _ _ => Or.inl ⟨_, rfl, List.Perm.refl _⟩

/-- A provider that answers ranges of at most `limit` blocks, and always single blocks. -/
def LogProvider.limited (logs : ℕ → ℕ → List RpcLog) (limit : ℕ) : LogProvider logs where
  getLogs := fun _ a b =>
    if a < b ∧ limit < b - a + 1 then .error (.logRangeTooLarge "block range is too large")
    else .ok (logs a b)
  answers := by
    intro n a b
    by_cases h : a < b ∧ limit < b - a + 1
    · exact Or.inr ⟨h.1, _, if_pos h⟩
    · exact Or.inl ⟨_, if_neg h, List.Perm.refl _⟩

/-! ### Events of payment contracts -/

/-- An event of a payment contract, where the chain has it. -/
structure MinedEvent where
  address : Address
  event : PaymentEvent
  transactionHash : Hash
  blockNumber : ℕ
  blockHash : Hash
  transactionIndex : ℕ
  logIndex : ℕ
deriving DecidableEq, Repr

namespace MinedEvent

/-- Where the event stands in the chain. -/
def place (x : MinedEvent) : ℕ ×ₗ ℕ ×ₗ ℕ :=
  toLex (x.blockNumber, toLex (x.transactionIndex, x.logIndex))

/-- The event as the provider reports it. -/
def log (x : MinedEvent) : RpcLog where
  address := x.address
  event := Site.rpcEvent x.event
  removed := false
  transactionHash := some x.transactionHash
  blockNumber := some x.blockNumber
  blockHash := some x.blockHash
  transactionIndex := some x.transactionIndex
  logIndex := some x.logIndex

/-- The key of the log orders as the place of the event. -/
lemma sortKey_le_sortKey {x y : MinedEvent} : x.log.sortKey ≤ y.log.sortKey ↔ x.place ≤ y.place := by
  simp only [RpcLog.sortKey, place, log, missingFirst, Prod.Lex.toLex_le_toLex]
  omega

/-- The event as a settlement: a `Recovered` of another token is none. -/
def settlementLog (token : Address) (x : MinedEvent) : Option SettlementLog :=
  match x.event with
  | .settled amount =>
    some ⟨x.transactionHash, x.blockNumber, x.blockHash, x.transactionIndex, .settled amount⟩
  | .recovered token' amount =>
    if token' ≠ token then none
    else some ⟨x.transactionHash, x.blockNumber, x.blockHash, x.transactionIndex, .recovered amount⟩
  | .wrongChain _ _ => none

lemma settlementLog_eq_some {token : Address} {x : MinedEvent} {l : SettlementLog}
    (h : x.settlementLog token = some l) :
    l.transactionHash = x.transactionHash ∧ l.blockNumber = x.blockNumber := by
  unfold settlementLog at h
  split at h
  · obtain rfl := Option.some.inj h
    exact ⟨rfl, rfl⟩
  · split at h
    · cases h
    · obtain rfl := Option.some.inj h
      exact ⟨rfl, rfl⟩
  · cases h

lemma decodeSettlementLog_log (token : Address) (x : MinedEvent) :
    decodeSettlementLog token x.log = .ok (x.settlementLog token) := by
  obtain ⟨address, event, hash, block, blockHash, index, logIndex⟩ := x
  cases event with
  | settled amount => rfl
  | recovered token' amount =>
    by_cases ht : token' = token
    · simp [decodeSettlementLog, log, settlementLog, Site.rpcEvent, ht]
    · simp [decodeSettlementLog, log, settlementLog, Site.rpcEvent, ht]
  | wrongChain expected actual => rfl

/-- What the provider's logs decode to. -/
lemma decodeSettlementLogs_log {payment : Address} (token : Address) {xs : List MinedEvent}
    (h : ∀ x ∈ xs, x.address = payment) :
    decodeSettlementLogs token ((xs.map log).filter (RpcLog.isSettlement payment)) =
      .ok (xs.filterMap (settlementLog token)) := by
  induction xs with
  | nil => rfl
  | cons x rest ih =>
    have ih := ih fun y hy => h y (by simp [hy])
    have haddress : x.address = payment := h x (by simp)
    rw [List.map_cons]
    by_cases hs : RpcLog.isSettlement payment x.log = true
    · rw [List.filter_cons_of_pos hs, decodeSettlementLogs, decodeSettlementLog_log, ih,
        List.filterMap_cons]
      rcases x.settlementLog token with _ | l <;> rfl
    · -- a log that is skipped is no settlement
      have hnone : x.settlementLog token = none := by
        obtain ⟨address, event, hash, block, blockHash, index, logIndex⟩ := x
        obtain rfl : address = payment := haddress
        cases event with
        | wrongChain expected actual => rfl
        | settled amount => simp [RpcLog.isSettlement, log, Site.rpcEvent] at hs
        | recovered token' amount => simp [RpcLog.isSettlement, log, Site.rpcEvent] at hs
      rw [List.filter_cons_of_neg hs, ih, List.filterMap_cons_none hnone]

end MinedEvent

/-- A finite set of events of payment contracts. -/
structure EventSet where
  events : List MinedEvent
  /-- Two events stand at two places. -/
  placed : (events.map MinedEvent.place).Nodup
  /-- A transaction is in one block. -/
  oneBlock : ∀ x ∈ events, ∀ y ∈ events, x.transactionHash = y.transactionHash →
    x.blockNumber = y.blockNumber

namespace EventSet

variable (E : EventSet)

/-- The logs of a contract in `a..=b`. -/
def logs (payment : Address) (a b : ℕ) : List RpcLog :=
  (E.events.filter fun x => decide (x.address = payment ∧ a ≤ x.blockNumber ∧ x.blockNumber ≤ b)).map
    MinedEvent.log

/-- The events of a contract in the order of the chain. -/
def inOrder (payment : Address) : List MinedEvent :=
  (E.events.filter fun x => decide (x.address = payment)).insertionSort (fun x y => x.place ≤ y.place)

/-- The settlement events of a contract in the blocks `[lo, hi)`. -/
def settlements (payment token : Address) (lo hi : ℕ) : List SettlementLog :=
  (window MinedEvent.blockNumber lo hi (E.inOrder payment)).filterMap
    (MinedEvent.settlementLog token)

lemma mem_inOrder {payment : Address} {x : MinedEvent} :
    x ∈ E.inOrder payment ↔ x ∈ E.events ∧ x.address = payment := by
  simp [inOrder]

lemma inOrder_pairwise (payment : Address) :
    (E.inOrder payment).Pairwise (fun x y => x.place ≤ y.place) := by
  have : Std.Total (fun x y : MinedEvent => x.place ≤ y.place) :=
    ⟨fun x y => le_total x.place y.place⟩
  have : IsTrans MinedEvent (fun x y => x.place ≤ y.place) := ⟨fun _ _ _ h h' => h.trans h'⟩
  exact List.pairwise_insertionSort _ _

lemma inOrder_blocks (payment : Address) :
    (E.inOrder payment).Pairwise (fun x y => x.blockNumber ≤ y.blockNumber) := by
  refine (E.inOrder_pairwise payment).imp ?_
  intro x y hle
  rcases (Prod.Lex.toLex_le_toLex.1 hle) with hlt | ⟨heq, -⟩
  · exact hlt.le
  · exact heq.le

variable {E}

/-- Sorting the logs of a range by their keys puts the events in the order of the chain, in
whatever order the provider listed them. -/
lemma sorted_logs {payment : Address} {a b : ℕ} {found : List RpcLog}
    (h : found.Perm (E.logs payment a b)) :
    (found.filter (RpcLog.isSettlement payment)).insertionSort (fun l l' => l.sortKey ≤ l'.sortKey) =
      ((window MinedEvent.blockNumber a (b + 1) (E.inOrder payment)).map MinedEvent.log).filter
        (RpcLog.isSettlement payment) := by
  have : Std.Total (fun l l' : RpcLog => l.sortKey ≤ l'.sortKey) :=
    ⟨fun l l' => le_total l.sortKey l'.sortKey⟩
  have : IsTrans RpcLog (fun l l' => l.sortKey ≤ l'.sortKey) := ⟨fun _ _ _ h h' => h.trans h'⟩
  have hwindow : window MinedEvent.blockNumber a (b + 1) (E.inOrder payment) =
      (E.inOrder payment).filter fun x => decide (a ≤ x.blockNumber ∧ x.blockNumber ≤ b) := by
    refine List.filter_congr fun x _ => ?_
    simp only [Nat.lt_succ_iff]
  -- the same logs
  have hperm : (window MinedEvent.blockNumber a (b + 1) (E.inOrder payment)).Perm
      (E.events.filter fun x =>
        decide (x.address = payment ∧ a ≤ x.blockNumber ∧ x.blockNumber ≤ b)) := by
    rw [hwindow]
    refine ((List.perm_insertionSort _ _).filter _).trans ?_
    rw [List.filter_filter]
    refine List.Perm.of_eq (List.filter_congr fun x _ => ?_)
    rw [← Bool.decide_and]
    simp only [decide_eq_decide]
    tauto
  have hmem : ∀ l ∈ ((window MinedEvent.blockNumber a (b + 1) (E.inOrder payment)).map
      MinedEvent.log).filter (RpcLog.isSettlement payment), ∃ x ∈ E.events, x.log = l := by
    intro l hl
    obtain ⟨x, hx, rfl⟩ := List.mem_map.1 (List.mem_filter.1 hl).1
    exact ⟨x, (E.mem_inOrder.1 (mem_window.1 hx).1).1, rfl⟩
  have hboth : ((found.filter (RpcLog.isSettlement payment)).insertionSort
      (fun l l' => l.sortKey ≤ l'.sortKey)).Perm
        (((window MinedEvent.blockNumber a (b + 1) (E.inOrder payment)).map MinedEvent.log).filter
          (RpcLog.isSettlement payment)) :=
    (List.perm_insertionSort _ _).trans ((h.trans (hperm.symm.map _)).filter _)
  refine hboth.eq_of_pairwise ?_ (List.pairwise_insertionSort _ _) ?_
  · -- two logs with one key are one log
    intro l l' hl hl' hle hge
    obtain ⟨x, hx, rfl⟩ := hmem l (hboth.mem_iff.1 hl)
    obtain ⟨y, hy, rfl⟩ := hmem l' hl'
    have hplace : x.place = y.place :=
      le_antisymm (MinedEvent.sortKey_le_sortKey.1 hle) (MinedEvent.sortKey_le_sortKey.1 hge)
    rw [List.inj_on_of_nodup_map E.placed hx hy hplace]
  · refine List.Pairwise.filter _ (List.pairwise_map.2 ?_)
    exact ((E.inOrder_pairwise payment).filter _).imp MinedEvent.sortKey_le_sortKey.2

/-- What `payment_settlement_tx` returns for an answered range depends on its events only. -/
lemma paymentSettlementTx_eq {payment : Address} (token : Address) {a b : ℕ} {found : List RpcLog}
    (h : found.Perm (E.logs payment a b)) :
    paymentSettlementTx (fun _ _ _ => .ok found) payment token a b =
      firstSettlement payment (E.settlements payment token a (b + 1)) := by
  have haddress : ∀ x ∈ window MinedEvent.blockNumber a (b + 1) (E.inOrder payment),
      x.address = payment :=
    fun x hx => (E.mem_inOrder.1 (mem_window.1 hx).1).2
  have hdecode := MinedEvent.decodeSettlementLogs_log token haddress
  simp only [paymentSettlementTx]
  rw [sorted_logs h, hdecode]
  rfl

lemma settlements_split (payment token : Address) {lo mid hi : ℕ} (hlo : lo ≤ mid) (hhi : mid ≤ hi) :
    E.settlements payment token lo hi =
      E.settlements payment token lo mid ++ E.settlements payment token mid hi := by
  rw [settlements, window_adjacent hlo hhi (E.inOrder_blocks payment), List.filterMap_append]
  rfl

lemma mem_settlements {payment token : Address} {lo hi : ℕ} {l : SettlementLog}
    (h : l ∈ E.settlements payment token lo hi) :
    lo ≤ l.blockNumber ∧ l.blockNumber < hi ∧
      ∃ x ∈ E.events, l.transactionHash = x.transactionHash ∧ l.blockNumber = x.blockNumber := by
  obtain ⟨x, hx, hl⟩ := List.mem_filterMap.1 h
  obtain ⟨hmem, hlo, hhi⟩ := mem_window.1 hx
  obtain ⟨hhash, hblock⟩ := MinedEvent.settlementLog_eq_some hl
  exact ⟨by omega, by omega, x, (E.mem_inOrder.1 hmem).1, hhash, hblock⟩

/-- The first settlement of a range is that of any first part of it that has one: the rest of
the range holds no event of its transaction. -/
lemma firstSettlement_part {payment token : Address} {lo mid hi : ℕ} (hlo : lo ≤ mid) (hhi : mid ≤ hi)
    (hne : E.settlements payment token lo mid ≠ []) :
    firstSettlement payment (E.settlements payment token lo hi) =
      firstSettlement payment (E.settlements payment token lo mid) := by
  rw [settlements_split payment token hlo hhi]
  rcases hpart : E.settlements payment token lo mid with _ | ⟨first, rest⟩
  · exact absurd hpart hne
  · -- no later event has the transaction's hash, because it would be in the transaction's block
    have hother : ∀ l ∈ E.settlements payment token mid hi,
        ¬ l.transactionHash = first.transactionHash := by
      intro l hl heq
      have hfirst : first ∈ E.settlements payment token lo mid := by
        rw [hpart]
        simp
      obtain ⟨hmid, -, y, hy, hyhash, hyblock⟩ := mem_settlements hl
      obtain ⟨-, hbefore, x, hx, hxhash, hxblock⟩ := mem_settlements hfirst
      have hblock := E.oneBlock y hy x hx (by rw [← hyhash, ← hxhash, heq])
      omega
    have htake : ((first :: rest) ++ E.settlements payment token mid hi).takeWhile
        (fun l => decide (l.transactionHash = first.transactionHash)) =
          (first :: rest).takeWhile (fun l => decide (l.transactionHash = first.transactionHash)) := by
      rw [List.takeWhile_append]
      split
      · rename_i hall
        have hnil : (E.settlements payment token mid hi).takeWhile
            (fun l => decide (l.transactionHash = first.transactionHash)) = [] := by
          rcases hrest : E.settlements payment token mid hi with _ | ⟨l, ls⟩
          · rfl
          · refine List.takeWhile_cons_of_neg ?_
            simpa using hother l (by simp [hrest])
        rw [hnil, List.append_nil]
        exact ((List.takeWhile_prefix _).eq_of_length hall).symm
      · rfl
    rw [List.cons_append] at htake ⊢
    simp only [firstSettlement]
    rw [htake]

end EventSet

/-! ### Uses of authorizations -/

/-- `AuthorizationUsed(authorizer, nonce)` of a token, where the chain has it. -/
structure AuthorizationUse where
  token : Address
  authorizer : Address
  nonce : Hash
  transactionHash : Hash
  blockNumber : ℕ
  blockHash : Hash
  transactionIndex : ℕ
  logIndex : ℕ
deriving DecidableEq, Repr

/-- The use as the provider reports it; the reader looks at no topic. -/
def AuthorizationUse.log (x : AuthorizationUse) : RpcLog where
  address := x.token
  event := .other
  removed := false
  transactionHash := some x.transactionHash
  blockNumber := some x.blockNumber
  blockHash := some x.blockHash
  transactionIndex := some x.transactionIndex
  logIndex := some x.logIndex

/-- The uses of an authorization in `a..=b`, among a finite set of uses. -/
def usesIn (uses : List AuthorizationUse) (token authorizer : Address) (nonce : Hash) (a b : ℕ) :
    List AuthorizationUse :=
  uses.filter fun x => decide (x.token = token ∧ x.authorizer = authorizer ∧ x.nonce = nonce ∧
    a ≤ x.blockNumber ∧ x.blockNumber ≤ b)

section

variable {uses : List AuthorizationUse} {token authorizer : Address} {nonce : Hash}

lemma usesIn_eq_nil {a b : ℕ} : usesIn uses token authorizer nonce a b = [] ↔
    ∀ x ∈ uses, x.token = token → x.authorizer = authorizer → x.nonce = nonce →
      a ≤ x.blockNumber → ¬ x.blockNumber ≤ b := by
  simp [usesIn, List.filter_eq_nil_iff]

lemma mem_usesIn_mono {a b a' b' : ℕ} (ha : a ≤ a') (hb : b' ≤ b) {x : AuthorizationUse}
    (h : x ∈ usesIn uses token authorizer nonce a' b') : x ∈ usesIn uses token authorizer nonce a b := by
  simp only [usesIn, List.mem_filter, decide_eq_true_eq] at h ⊢
  obtain ⟨hmem, htoken, hauthorizer, hnonce, hlo, hhi⟩ := h
  exact ⟨hmem, htoken, hauthorizer, hnonce, by omega, by omega⟩

lemma usesIn_eq_nil_mono {a b a' b' : ℕ} (ha : a ≤ a') (hb : b' ≤ b)
    (h : usesIn uses token authorizer nonce a b = []) :
    usesIn uses token authorizer nonce a' b' = [] := by
  refine List.eq_nil_iff_forall_not_mem.2 fun x hx => ?_
  have hmem := mem_usesIn_mono ha hb hx
  rw [h] at hmem
  cases hmem

/-- Two ranges that leave no block between them. -/
lemma usesIn_eq_nil_join {a b c d : ℕ} (hcb : c ≤ b + 1)
    (h : usesIn uses token authorizer nonce a b = [])
    (h' : usesIn uses token authorizer nonce c d = []) :
    usesIn uses token authorizer nonce a d = [] := by
  rw [usesIn_eq_nil] at h h' ⊢
  intro x hx htoken hauthorizer hnonce hlo hhi
  have hb := h x hx htoken hauthorizer hnonce hlo
  exact h' x hx htoken hauthorizer hnonce (by omega) hhi

end

/-- The loop of `authorization_used_tx` over the logs: the first that is mined. -/
def firstUse (transactionReceipt : Hash → Except ChainError (Option Signers.TransactionOutcome)) :
    List RpcLog → Except ChainError (Option (Hash × Signers.TransactionOutcome))
  | [] => .ok none
  | log :: rest =>
    if log.removed then firstUse transactionReceipt rest
    else match log.transactionHash with
      | none => .error (.transient "authorization log is missing its transaction hash")
      | some transactionHash =>
        match transactionReceipt transactionHash with
        | .error e => .error e
        | .ok (some outcome) => .ok (some (transactionHash, outcome))
        | .ok none => firstUse transactionReceipt rest

/-- `authorization_used_tx` over the provider's `eth_getLogs`, filtered by token, authorizer and
nonce. -/
def authorizationUsedTx (getLogs : Address → Address → Hash → ℕ → ℕ → Except ChainError (List RpcLog))
    (transactionReceipt : Hash → Except ChainError (Option Signers.TransactionOutcome))
    (token authorizer : Address) (nonce : Hash) (fromBlock toBlock : ℕ) :
    Except ChainError (Option (Hash × Signers.TransactionOutcome)) :=
  match getLogs token authorizer nonce fromBlock toBlock with
  | .error e => .error e
  | .ok logs => firstUse transactionReceipt logs

/-- The node has the receipt of every use, and only a successful transaction emits one. -/
def Receipts (transactionReceipt : Hash → Except ChainError (Option Signers.TransactionOutcome))
    (uses : List AuthorizationUse) : Prop :=
  ∀ x ∈ uses, ∃ outcome, transactionReceipt x.transactionHash = .ok (some outcome) ∧
    outcome.succeeded = true

/-- What `authorization_used_tx` returns for an answered range. -/
lemma firstUse_eq {transactionReceipt : Hash → Except ChainError (Option Signers.TransactionOutcome)}
    {uses : List AuthorizationUse} (hr : Receipts transactionReceipt uses) {found : List RpcLog}
    (h : found.Perm (uses.map AuthorizationUse.log)) :
    (uses = [] ∧ firstUse transactionReceipt found = .ok none) ∨
      ∃ x ∈ uses, ∃ outcome, outcome.succeeded = true ∧
        firstUse transactionReceipt found = .ok (some (x.transactionHash, outcome)) := by
  rcases found with _ | ⟨log, rest⟩
  · refine Or.inl ⟨?_, rfl⟩
    simpa using h.nil_eq.symm
  · -- every log of the range is a use's, so the first one is returned
    have hmem : log ∈ uses.map AuthorizationUse.log := h.mem_iff.1 (by simp)
    obtain ⟨x, hx, rfl⟩ := List.mem_map.1 hmem
    obtain ⟨outcome, houtcome, hsucceeded⟩ := hr x hx
    refine Or.inr ⟨x, hx, outcome, hsucceeded, ?_⟩
    simp [firstUse, AuthorizationUse.log, houtcome]

end Payday
