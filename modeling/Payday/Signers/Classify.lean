/-
# Classifying a finalized batch receipt

The signers' half of the settlement workflow (`gum-signers/src/sweep.rs`): every item of a
job's command is matched with the outcome its receipt carries for the item's payment address,
and turned into evidence.  A contract that already existed was settled by somebody else unless
the ledger holds the settlement; then the settlement is searched for in the contract's logs,
forward from the first observed block, in chunks that are halved when the provider refuses
them.
-/
import Payday.Ledger.Schema

namespace Payday

/-- Errors from talking to the chain. -/
inductive ChainError
  | rpc (operation : String) (code : Option ℤ) (message : String) (retryable : Bool)
  | logRangeTooLarge (message : String)
  | finalityViolation (message : String)
  | transient (message : String)
  | readOnly
deriving DecidableEq, Repr

structure BlockHeader where
  number : ℕ
  hash : Hash
  timestamp : ℕ
deriving DecidableEq, Repr

/-- The transaction that deployed a `Payment`, with the amounts its constructor routed. -/
structure SettlementEvent where
  transactionHash : Hash
  blockNumber : ℕ
  blockHash : Hash
  transactionIndex : ℕ
  settled : Option ℕ
  recovered : ℕ
deriving DecidableEq, Repr

/-- What one helper-transaction item did to its payment address. -/
inductive SweepOutcome
  | settled (amount recoveredAmount : ℕ)
  | recovered (amount : ℕ)
  | collected (amount : ℕ)
  | failed (revertData : List UInt8)
deriving DecidableEq, Repr

structure SweepReceipt where
  succeeded : Bool
  block : ℕ
  blockHash : Hash
  transactionIndex : ℕ
  outcomes : Table (Prod.fst : Address × SweepOutcome → Address)

/-- The outcome a receipt carries for a payment address. -/
def SweepReceipt.outcome? (receipt : SweepReceipt) (payment : Address) : Option SweepOutcome :=
  (receipt.outcomes.find? payment).map Prod.snd

/-- Token-level facts read at a pinned block to classify a failed item. -/
structure FailureProbe where
  codePresent : Bool
  paused : Option Bool
  paymentBlacklisted : Option Bool
  receiverBlacklisted : Option Bool
  recoveryBlacklisted : Option Bool
  balance : Option ℕ
deriving DecidableEq, Repr

/-- What the classification reads of a chain. -/
structure ChainReader where
  blockHeader : ℕ → Except ChainError BlockHeader
  /-- `payment_settlement_tx(payment, token, from_block, to_block)`. -/
  paymentSettlementTx : Address → Address → ℕ → ℕ → Except ChainError (Option SettlementEvent)
  /-- `probe_failure(currency, token, payment, receiver, recovery, block)`. -/
  probeFailure : Currency → Address → Address → Address → Address → ℕ →
    Except ChainError FailureProbe

/-- The settings of a chain that the classification uses. -/
structure ChainConfig where
  chainId : ChainId
  batchSweeper : Address
  startBlock : ℕ
  logRangeSize : ℕ
deriving DecidableEq, Repr

/-! ### The search for a settlement -/

/-- The loop of `find_settlement`, at block `start` with chunks of `chunk` blocks.  Block
numbers are `u64`, and the loop's saturating additions do not saturate below the last of
them. -/
def findSettlementLoop (chain : ChainReader) (payment token : Address)
    (fromBlock toBlock start chunk : ℕ) : Except ChainError SettlementEvent :=
  if start ≤ toBlock then
    match chain.paymentSettlementTx payment token start (min (start + (chunk - 1)) toBlock) with
    | .ok (some event) => .ok event
    | .ok none =>
      findSettlementLoop chain payment token fromBlock toBlock
        (min (start + (chunk - 1)) toBlock + 1) chunk
    | .error (.logRangeTooLarge message) =>
      if 1 < chunk then
        findSettlementLoop chain payment token fromBlock toBlock start (max (chunk / 2) 1)
      else .error (.logRangeTooLarge message)
    | .error e => .error e
  else .error (.transient s!"payment {payment} is deployed but has no finalized settlement event in blocks {fromBlock}..={toBlock}")
termination_by (toBlock + 1 - start, chunk)

/-- The transaction that created or drained a payment contract, searched forward in
provider-sized chunks. -/
def findSettlement (chain : ChainReader) (payment token : Address)
    (fromBlock toBlock logRangeSize : ℕ) : Except ChainError SettlementEvent :=
  findSettlementLoop chain payment token fromBlock toBlock fromBlock (max logRangeSize 1)

/-- A settlement that is found lies in a chunk of the range, and every block before that chunk
was searched in vain. -/
lemma findSettlementLoop_ok {chain : ChainReader} {payment token : Address}
    {fromBlock toBlock start chunk : ℕ} {event : SettlementEvent}
    (h : findSettlementLoop chain payment token fromBlock toBlock start chunk = .ok event) :
    ∃ a b, start ≤ a ∧ a ≤ b ∧ b ≤ toBlock ∧
      chain.paymentSettlementTx payment token a b = .ok (some event) ∧
      ∀ n, start ≤ n → n < a → ∃ c d, start ≤ c ∧ c ≤ n ∧ n ≤ d ∧ d ≤ toBlock ∧
        chain.paymentSettlementTx payment token c d = .ok none := by
  fun_induction findSettlementLoop chain payment token fromBlock toBlock start chunk with
  | case1 start chunk hle found hfound =>
    obtain rfl := Except.ok.inj h
    refine ⟨start, min (start + (chunk - 1)) toBlock, le_rfl, by omega, by omega, hfound, ?_⟩
    intro n hn hlt
    omega
  | case2 start chunk hle hnone ih =>
    -- the chunk was empty: its blocks are searched, and the rest of the range follows
    obtain ⟨a, b, ha, hab, hb, hfound, hbefore⟩ := ih h
    refine ⟨a, b, by omega, hab, hb, hfound, fun n hn hlt => ?_⟩
    by_cases hin : n ≤ min (start + (chunk - 1)) toBlock
    · exact ⟨start, _, le_rfl, hn, hin, by omega, hnone⟩
    · obtain ⟨c, d, hc, hcn, hnd, hd, hq⟩ := hbefore n (by omega) hlt
      exact ⟨c, d, by omega, hcn, hnd, hd, hq⟩
  | case3 start chunk hle message hrefused hchunk ih => exact ih h
  | case4 start chunk hle message hrefused hchunk => cases h
  | case5 start chunk hle e hno herror => cases h
  | case6 start chunk hgt => cases h

/-! ### Evidence for one item -/

/-- `settlement event block … changed during classification`, else the evidence. -/
def settlementEvidence (chain : ChainReader) (event : SettlementEvent) :
    Except ChainError SettlementEvidence :=
  match chain.blockHeader event.blockNumber with
  | .error e => .error e
  | .ok header =>
    if header.hash ≠ event.blockHash then
      .error (.transient s!"settlement event block {event.blockNumber} changed during classification")
    else .ok {
      txHash := event.transactionHash
      block := event.blockNumber
      transactionIndex := event.transactionIndex
      blockTimestamp := header.timestamp
      settled := event.settled
      recovered := event.recovered }

/-- Why an item failed, from the token-level facts at the receipt's block. -/
def failureCause (item : SweepItem) (header : BlockHeader) (probe : FailureProbe) :
    SweepFailureCause :=
  let expired := decide (item.expirationTimestamp < header.timestamp)
  let toRecovery := probe.codePresent || expired
  let touchesRecovery := toRecovery || probe.balance.any (fun balance => decide (item.amount < balance))
  if probe.paused = some true then .tokenPaused
  else if probe.paymentBlacklisted = some true then .paymentAddressBlacklisted
  else if touchesRecovery && probe.recoveryBlacklisted = some true then .recoveryBlacklisted
  else if !toRecovery && probe.receiverBlacklisted = some true then .beneficiaryBlacklisted
  else if !toRecovery && probe.balance.any (fun balance => decide (balance < item.amount)) then
    .balanceBelowAmount
  else .unknown

/-- The evidence for one item. -/
def classifyItem (chain : ChainReader) (config : ChainConfig) (item : SweepItem)
    (outcome : SweepOutcome) (header : BlockHeader) : Except ChainError SweepItemOutcome :=
  match outcome with
  | .settled _ recoveredAmount => .ok (.settled recoveredAmount)
  | .recovered amount => .ok (.returned amount)
  | .collected amount =>
    if item.settlementRecorded then .ok (.lateCollected amount none)
    else match findSettlement chain item.paymentAddress item.token
        (item.firstObservedBlock.getD config.startBlock) header.number config.logRangeSize with
      | .error e => .error e
      | .ok event =>
        match settlementEvidence chain event with
        | .error e => .error e
        | .ok evidence => .ok (.lateCollected amount (some evidence))
  | .failed _ =>
    match chain.probeFailure item.currency item.token item.paymentAddress item.receiver
        item.recovery header.number with
    | .error e => .error e
    | .ok probe => .ok (.failed (failureCause item header probe))

/-- Classify every item of a finalized, successful batch receipt. -/
def classifyItems (chain : ChainReader) (config : ChainConfig) (receipt : SweepReceipt)
    (header : BlockHeader) : List SweepItem → Except ChainError (List SweepItemResult)
  | [] => .ok []
  | item :: rest =>
    match receipt.outcome? item.paymentAddress with
    | none => .error (.transient s!"receipt carries no outcome for payment address {item.paymentAddress}")
    | some outcome =>
      match classifyItem chain config item outcome header with
      | .error e => .error e
      | .ok evidence =>
        match classifyItems chain config receipt header rest with
        | .error e => .error e
        | .ok results => .ok (⟨item.invoiceId, evidence⟩ :: results)

/-- Each result is the evidence for its item. -/
lemma classifyItems_forall₂ {chain : ChainReader} {config : ChainConfig} {receipt : SweepReceipt}
    {header : BlockHeader} {items : List SweepItem} {results : List SweepItemResult}
    (h : classifyItems chain config receipt header items = .ok results) :
    List.Forall₂ (fun item result => result.invoiceId = item.invoiceId ∧
      ∃ outcome, receipt.outcome? item.paymentAddress = some outcome ∧
        classifyItem chain config item outcome header = .ok result.outcome) items results := by
  induction items generalizing results with
  | nil =>
    obtain rfl := Except.ok.inj h
    exact List.Forall₂.nil
  | cons item rest ih =>
    unfold classifyItems at h
    split at h
    · cases h
    · rename_i outcome houtcome
      split at h
      · cases h
      · rename_i evidence hevidence
        split at h
        · cases h
        · rename_i results' hrest
          obtain rfl := Except.ok.inj h
          exact List.Forall₂.cons ⟨rfl, outcome, houtcome, hevidence⟩ (ih hrest)

/-- Every result is the evidence for one of the items. -/
lemma mem_classifyItems {chain : ChainReader} {config : ChainConfig} {receipt : SweepReceipt}
    {header : BlockHeader} {items : List SweepItem} {results : List SweepItemResult}
    (h : classifyItems chain config receipt header items = .ok results) {result : SweepItemResult}
    (hresult : result ∈ results) :
    ∃ item ∈ items, result.invoiceId = item.invoiceId ∧
      ∃ outcome, receipt.outcome? item.paymentAddress = some outcome ∧
        classifyItem chain config item outcome header = .ok result.outcome := by
  have hall := classifyItems_forall₂ h
  clear h
  induction hall with
  | nil => cases hresult
  | @cons item result' items results hhead _ ih =>
    rcases List.mem_cons.1 hresult with rfl | hrest
    · exact ⟨item, by simp, hhead⟩
    · obtain ⟨item', hmem, hitem'⟩ := ih hrest
      exact ⟨item', by simp [hmem], hitem'⟩

/-- A late collection comes without a settlement exactly when the command said that the ledger
holds one. -/
lemma classifyItem_lateCollected {chain : ChainReader} {config : ChainConfig} {item : SweepItem}
    {outcome : SweepOutcome} {header : BlockHeader} {amount : ℕ}
    {settlement : Option SettlementEvidence}
    (h : classifyItem chain config item outcome header = .ok (.lateCollected amount settlement)) :
    outcome = .collected amount ∧ (settlement = none ↔ item.settlementRecorded = true) := by
  unfold classifyItem at h
  split at h
  · cases h
  · cases h
  · split at h
    · rename_i hrecorded
      cases h
      exact ⟨rfl, fun _ => hrecorded, fun _ => rfl⟩
    · rename_i hrecorded
      split at h
      · cases h
      · split at h
        · cases h
        · cases h
          exact ⟨rfl, fun hc => (by cases hc), fun hr => absurd hr hrecorded⟩
  · split at h <;> cases h

end Payday
