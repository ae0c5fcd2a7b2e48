/-
# Reading logs

`gum-chain/src/lib.rs`, as far as settlements are concerned: `decode_sweep_outcomes` turns the
logs of a helper transaction's receipt into one outcome for each payment address, and
`payment_settlement_tx` finds the transaction that deployed a payment contract among the
contract's own logs.
-/
import Mathlib.Data.List.Sort
import Mathlib.Data.Prod.Lex
import Payday.Signers.Classify

namespace Payday

/-- The first topic of a log and what its data decodes to. -/
inductive LogEvent
  | settled (data : Except String ℕ)
  | recovered (data : Except String (Address × ℕ))
  | sweepFailed (data : Except String (Address × List UInt8))
  | sweepRecovered (data : Except String (Address × ℕ))
  | other

/-- A log, as the provider returns it. -/
structure RpcLog where
  address : Address
  event : LogEvent
  removed : Bool
  transactionHash : Option Hash
  blockNumber : Option ℕ
  blockHash : Option Hash
  transactionIndex : Option ℕ
  logIndex : Option ℕ

/-! ### The receipt of a batch -/

/-- Events seen so far for one payment address while a receipt is decoded. -/
structure PendingOutcome where
  settled : Option ℕ := none
  recovered : Option ℕ := none
  sweeper : Option SweepOutcome := none

/-- The events seen so far, by payment address. -/
abbrev Pending := Table (Prod.fst : Address × PendingOutcome → Address)

/-- `pending.entry(address).or_default()`. -/
def Pending.entry (pending : Pending) (address : Address) : PendingOutcome :=
  ((pending.find? address).map Prod.snd).getD {}

def duplicateEvent (txHash : Hash) (event : String) (address : Address) : ChainError :=
  .transient s!"malformed sweep receipt {txHash}: duplicate {event} event for payment address {address}"

def malformedEvent (txHash : Hash) (event error : String) : ChainError :=
  .transient s!"malformed {event} event in {txHash}: {error}"

/-- A sweeper event about a payment address. -/
def Pending.pushSweeper (pending : Pending) (txHash : Hash) (payment : Address)
    (outcome : SweepOutcome) : Except ChainError Pending :=
  if (pending.entry payment).sweeper.isSome then
    .error (duplicateEvent txHash "BatchSweeper" payment)
  else .ok (pending.upsert (payment, { pending.entry payment with sweeper := some outcome }))

/-- One log of the receipt. -/
def decodeLog (batchSweeper : Address) (txHash : Hash) (pending : Pending) (log : RpcLog) :
    Except ChainError Pending :=
  if log.address = batchSweeper then
    match log.event with
    | .sweepFailed (.error e) => .error (malformedEvent txHash "SweepFailed" e)
    | .sweepFailed (.ok (payment, revertData)) => pending.pushSweeper txHash payment (.failed revertData)
    | .sweepRecovered (.error e) => .error (malformedEvent txHash "SweepRecovered" e)
    | .sweepRecovered (.ok (payment, amount)) => pending.pushSweeper txHash payment (.collected amount)
    | _ => .ok pending
  else
    match log.event with
    | .settled (.error e) => .error (malformedEvent txHash "Settled" e)
    | .settled (.ok amount) =>
      if (pending.entry log.address).settled.isSome then
        .error (duplicateEvent txHash "Settled" log.address)
      else .ok (pending.upsert
        (log.address, { pending.entry log.address with settled := some amount }))
    | .recovered (.error e) => .error (malformedEvent txHash "Recovered" e)
    | .recovered (.ok (_, amount)) =>
      if (pending.entry log.address).recovered.isSome then
        .error (duplicateEvent txHash "Recovered" log.address)
      else .ok (pending.upsert
        (log.address, { pending.entry log.address with recovered := some amount }))
    | _ => .ok pending

def decodeLogs (batchSweeper : Address) (txHash : Hash) :
    List RpcLog → Pending → Except ChainError Pending
  | [], pending => .ok pending
  | log :: rest, pending =>
    match decodeLog batchSweeper txHash pending log with
    | .error e => .error e
    | .ok pending' => decodeLogs batchSweeper txHash rest pending'

def conflictingEvents (txHash : Hash) (address : Address) (detail : String) : ChainError :=
  .transient s!"malformed sweep receipt {txHash}: payment address {address} {detail}"

/-- The outcome of the events of one payment address. -/
def PendingOutcome.resolve (txHash : Hash) (address : Address) (entry : PendingOutcome) :
    Except ChainError SweepOutcome :=
  match entry.sweeper, entry.settled, entry.recovered with
  | some _, some _, _ =>
    .error (conflictingEvents txHash address "both settled and reported by BatchSweeper")
  | some (.failed _), none, some _ =>
    .error (conflictingEvents txHash address "both recovered and reported failed by BatchSweeper")
  | some outcome, none, _ => .ok outcome
  | none, some amount, recovered => .ok (.settled amount (recovered.getD 0))
  | none, none, some amount => .ok (.recovered amount)
  -- an entry is only created by an event
  | none, none, none => .error (.transient "")

def resolveAll (txHash : Hash) : List (Address × PendingOutcome) →
    Except ChainError (List (Address × SweepOutcome))
  | [] => .ok []
  | entry :: rest =>
    match entry.2.resolve txHash entry.1, resolveAll txHash rest with
    | .error e, _ => .error e
    | _, .error e => .error e
    | .ok outcome, .ok outcomes => .ok ((entry.1, outcome) :: outcomes)

/-- The outcomes of a `BatchSweeper.executeBatch` receipt, by payment address. -/
def decodeSweepOutcomes (logs : List RpcLog) (batchSweeper : Address) (txHash : Hash) :
    Except ChainError (Table (Prod.fst : Address × SweepOutcome → Address)) :=
  match decodeLogs batchSweeper txHash logs Table.empty with
  | .error e => .error e
  | .ok pending =>
    match resolveAll txHash pending.rows with
    | .error e => .error e
    | .ok outcomes => .ok (outcomes.foldl Table.upsert Table.empty)

/-- The payment address a log of a receipt is about. -/
def RpcLog.subject (batchSweeper : Address) (log : RpcLog) : Option Address :=
  if log.address = batchSweeper then
    match log.event with
    | .sweepFailed (.ok (payment, _)) => some payment
    | .sweepRecovered (.ok (payment, _)) => some payment
    | _ => none
  else
    match log.event with
    | .settled (.ok _) => some log.address
    | .recovered (.ok _) => some log.address
    | _ => none

/-- What a log adds to the events of its payment address. -/
def PendingOutcome.push (entry : PendingOutcome) (log : RpcLog) : PendingOutcome :=
  match log.event with
  | .settled (.ok amount) => { entry with settled := some amount }
  | .recovered (.ok (_, amount)) => { entry with recovered := some amount }
  | .sweepFailed (.ok (_, revertData)) => { entry with sweeper := some (.failed revertData) }
  | .sweepRecovered (.ok (_, amount)) => { entry with sweeper := some (.collected amount) }
  | _ => entry

lemma Pending.entry_upsert (pending : Pending) (a b : Address) (entry : PendingOutcome) :
    Pending.entry (pending.upsert (a, entry)) b = if b = a then entry else pending.entry b := by
  rw [Pending.entry, Table.find?_upsert]
  split <;> rfl

/-- A log that decodes changes the events of its subject only. -/
lemma decodeLog_entry {batchSweeper : Address} {txHash : Hash} {pending pending' : Pending}
    {log : RpcLog} (h : decodeLog batchSweeper txHash pending log = .ok pending') (a : Address) :
    pending'.entry a =
      if log.subject batchSweeper = some a then (pending.entry a).push log else pending.entry a := by
  have hupsert : ∀ {b : Address} {entry : PendingOutcome}, log.subject batchSweeper = some b →
      (pending.entry b).push log = entry → pending' = pending.upsert (b, entry) →
      pending'.entry a =
        if log.subject batchSweeper = some a then (pending.entry a).push log else pending.entry a := by
    rintro b entry hsubject rfl rfl
    rw [Pending.entry_upsert, hsubject]
    by_cases hab : a = b
    · rw [if_pos hab, if_pos (by rw [hab]), hab]
    · rw [if_neg hab, if_neg (fun hc => hab (Option.some.inj hc).symm)]
  unfold decodeLog at h
  by_cases haddr : log.address = batchSweeper
  · rw [if_pos haddr] at h
    split at h
    · cases h
    · rename_i payment revertData hevent
      unfold Pending.pushSweeper at h
      split at h
      · cases h
      · refine hupsert ?_ ?_ (Except.ok.inj h).symm
        · simp [RpcLog.subject, haddr, hevent]
        · simp [PendingOutcome.push, hevent]
    · cases h
    · rename_i payment amount hevent
      unfold Pending.pushSweeper at h
      split at h
      · cases h
      · refine hupsert ?_ ?_ (Except.ok.inj h).symm
        · simp [RpcLog.subject, haddr, hevent]
        · simp [PendingOutcome.push, hevent]
    · rename_i h₁ h₂ h₃ h₄
      obtain rfl := Except.ok.inj h
      rw [if_neg]
      rw [RpcLog.subject, if_pos haddr]
      split
      · rename_i payment revertData hevent
        exact absurd hevent (h₂ payment revertData)
      · rename_i payment amount hevent
        exact absurd hevent (h₄ payment amount)
      · simp
  · rw [if_neg haddr] at h
    split at h
    · cases h
    · rename_i amount hevent
      split at h
      · cases h
      · refine hupsert ?_ ?_ (Except.ok.inj h).symm
        · simp [RpcLog.subject, haddr, hevent]
        · simp [PendingOutcome.push, hevent]
    · cases h
    · rename_i token amount hevent
      split at h
      · cases h
      · refine hupsert ?_ ?_ (Except.ok.inj h).symm
        · simp [RpcLog.subject, haddr, hevent]
        · simp [PendingOutcome.push, hevent]
    · rename_i h₁ h₂ h₃ h₄
      obtain rfl := Except.ok.inj h
      rw [if_neg]
      rw [RpcLog.subject, if_neg haddr]
      split
      · rename_i amount hevent
        exact absurd hevent (h₂ amount)
      · rename_i data hevent
        exact absurd hevent (h₄ data.1 data.2)
      · simp

/-- The events of a payment address after a receipt are those of the logs about it. -/
lemma decodeLogs_entry {batchSweeper : Address} {txHash : Hash} {logs : List RpcLog}
    {pending pending' : Pending} (h : decodeLogs batchSweeper txHash logs pending = .ok pending')
    (a : Address) :
    pending'.entry a = (logs.filter (fun log => decide (log.subject batchSweeper = some a))).foldl
      PendingOutcome.push (pending.entry a) := by
  induction logs generalizing pending with
  | nil =>
    obtain rfl := Except.ok.inj h
    rfl
  | cons log rest ih =>
    unfold decodeLogs at h
    split at h
    · cases h
    · rename_i pending₁ hlog
      rw [ih h, decodeLog_entry hlog a]
      by_cases hsubject : log.subject batchSweeper = some a
      · rw [if_pos hsubject, List.filter_cons_of_pos (by simpa using hsubject), List.foldl_cons]
      · rw [if_neg hsubject, List.filter_cons_of_neg (by simpa using hsubject)]

lemma resolveAll_mem {txHash : Hash} {entries : List (Address × PendingOutcome)}
    {outcomes : List (Address × SweepOutcome)} (h : resolveAll txHash entries = .ok outcomes)
    {x : Address × SweepOutcome} (hx : x ∈ outcomes) :
    ∃ entry, (x.1, entry) ∈ entries ∧ entry.resolve txHash x.1 = .ok x.2 := by
  induction entries generalizing outcomes with
  | nil =>
    obtain rfl := Except.ok.inj h
    cases hx
  | cons entry rest ih =>
    unfold resolveAll at h
    split at h
    · cases h
    · cases h
    · rename_i outcome outcomes' hentry hrest
      obtain rfl := Except.ok.inj h
      rcases List.mem_cons.1 hx with rfl | hx
      · exact ⟨entry.2, by simp, hentry⟩
      · obtain ⟨entry', hmem, hresolve⟩ := ih hrest hx
        exact ⟨entry', by simp [hmem], hresolve⟩

/-- The outcome of a payment address is the resolution of the events about it. -/
lemma decodeSweepOutcomes_find? {logs : List RpcLog} {batchSweeper : Address} {txHash : Hash}
    {outcomes : Table (Prod.fst : Address × SweepOutcome → Address)}
    (h : decodeSweepOutcomes logs batchSweeper txHash = .ok outcomes) {a : Address}
    {x : Address × SweepOutcome} (hx : outcomes.find? a = some x) :
    ((logs.filter (fun log => decide (log.subject batchSweeper = some a))).foldl
      PendingOutcome.push {}).resolve txHash a = .ok x.2 := by
  unfold decodeSweepOutcomes at h
  split at h
  · cases h
  · rename_i pending hpending
    split at h
    · cases h
    · rename_i list hlist
      obtain rfl := Except.ok.inj h
      have hkey : x.1 = a := Table.key_of_find? hx
      have hmem : ∀ (l : List (Address × SweepOutcome)) (t : Table (Prod.fst : Address × SweepOutcome → Address)),
          ∀ y ∈ (l.foldl Table.upsert t).rows, y ∈ l ∨ y ∈ t.rows := by
        intro l
        induction l with
        | nil => exact fun t y hy => Or.inr hy
        | cons z rest ih =>
          intro t y hy
          rcases ih _ y hy with hy | hy
          · exact Or.inl (by simp [hy])
          · rcases Table.mem_rows_upsert hy with hy | hy
            · exact Or.inl (by simp [hy])
            · exact Or.inr hy
      rcases hmem list Table.empty x (Table.mem_of_find? hx) with hx' | hx'
      · obtain ⟨entry, hentry, hresolve⟩ := resolveAll_mem hlist hx'
        have hfind : pending.find? a = some (x.1, entry) := by
          rw [← hkey]
          exact Table.find?_of_mem hentry
        have hpend := decodeLogs_entry hpending a
        rw [Pending.entry, hfind] at hpend
        rw [hkey] at hresolve
        rw [← hresolve, show entry = _ from hpend]
        rfl
      · cases hx'

/-! ### The logs of a payment contract -/

inductive SettlementAmount
  | settled (amount : ℕ)
  | recovered (amount : ℕ)
deriving DecidableEq, Repr

/-- A decoded event of a payment contract. -/
structure SettlementLog where
  transactionHash : Hash
  blockNumber : ℕ
  blockHash : Hash
  transactionIndex : ℕ
  amount : SettlementAmount
deriving DecidableEq, Repr

/-- A `Settled` or `Recovered` log of the contract. -/
def RpcLog.isSettlement (payment : Address) (log : RpcLog) : Bool :=
  !log.removed && decide (log.address = payment) && (match log.event with
    | .settled _ | .recovered _ => true
    | _ => false)

/-- A missing number sorts before every other. -/
def missingFirst : Option ℕ → ℕ
  | none => 0
  | some n => n + 1

/-- `(log.block_number, log.transaction_index, log.log_index)`. -/
def RpcLog.sortKey (log : RpcLog) : ℕ ×ₗ ℕ ×ₗ ℕ :=
  toLex (missingFirst log.blockNumber,
    toLex (missingFirst log.transactionIndex, missingFirst log.logIndex))

/-- Decode one log; `none` is a `Recovered` event of another token. -/
def decodeSettlementLog (token : Address) (log : RpcLog) :
    Except ChainError (Option SettlementLog) :=
  match log.transactionHash, log.blockNumber, log.blockHash, log.transactionIndex with
  | none, _, _, _ => .error (.transient "settlement log is missing its transaction hash")
  | _, none, _, _ => .error (.transient "settlement log is missing its block number")
  | _, _, none, _ => .error (.transient "settlement log is missing its block hash")
  | _, _, _, none => .error (.transient "settlement log is missing its transaction index")
  | some transactionHash, some blockNumber, some blockHash, some transactionIndex =>
    match log.event with
    | .settled (.error e) => .error (malformedEvent transactionHash "Settled" e)
    | .settled (.ok amount) =>
      .ok (some ⟨transactionHash, blockNumber, blockHash, transactionIndex, .settled amount⟩)
    | .recovered (.error e) => .error (malformedEvent transactionHash "Recovered" e)
    | .recovered (.ok (token', amount)) =>
      if token' ≠ token then .ok none
      else .ok (some ⟨transactionHash, blockNumber, blockHash, transactionIndex, .recovered amount⟩)
    | _ => .ok none

def decodeSettlementLogs (token : Address) :
    List RpcLog → Except ChainError (List SettlementLog)
  | [] => .ok []
  | log :: rest =>
    match decodeSettlementLog token log, decodeSettlementLogs token rest with
    | .error e, _ => .error e
    | _, .error e => .error e
    | .ok event, .ok events => .ok (event.toList ++ events)

def duplicateSettlement (payment : Address) (transactionHash : Hash) (event : String) : ChainError :=
  .transient s!"malformed settlement transaction {transactionHash} for payment {payment}: duplicate {event} event"

/-- The amounts of one transaction; `recover` may be called more than once. -/
def addAmounts (payment : Address) (transactionHash : Hash) :
    List SettlementAmount → Option ℕ → Option ℕ → Except ChainError (Option ℕ × Option ℕ)
  | [], settled, recovered => .ok (settled, recovered)
  | .settled amount :: rest, settled, recovered =>
    if settled.isSome then .error (duplicateSettlement payment transactionHash "Settled")
    else addAmounts payment transactionHash rest (some amount) recovered
  | .recovered amount :: rest, settled, recovered =>
    if 2 ^ 256 ≤ recovered.getD 0 + amount then
      .error (duplicateSettlement payment transactionHash "Recovered amount overflow")
    else addAmounts payment transactionHash rest settled (some (recovered.getD 0 + amount))

/-- The first transaction among the decoded events, with its amounts. -/
def firstSettlement (payment : Address) :
    List SettlementLog → Except ChainError (Option SettlementEvent)
  | [] => .ok none
  | first :: rest =>
    match addAmounts payment first.transactionHash (((first :: rest).takeWhile
        (fun event => decide (event.transactionHash = first.transactionHash))).map (·.amount))
        none none with
    | .error e => .error e
    | .ok (settled, recovered) => .ok (some {
        transactionHash := first.transactionHash
        blockNumber := first.blockNumber
        blockHash := first.blockHash
        transactionIndex := first.transactionIndex
        settled := settled
        recovered := recovered.getD 0 })

/-- `payment_settlement_tx` over the provider's `eth_getLogs(address, from_block, to_block)`. -/
def paymentSettlementTx (getLogs : Address → ℕ → ℕ → Except ChainError (List RpcLog))
    (payment token : Address) (fromBlock toBlock : ℕ) : Except ChainError (Option SettlementEvent) :=
  match getLogs payment fromBlock toBlock with
  | .error e => .error e
  | .ok logs =>
    match decodeSettlementLogs token ((logs.filter (RpcLog.isSettlement payment)).insertionSort
        (fun a b => a.sortKey ≤ b.sortKey)) with
    | .error e => .error e
    | .ok events => firstSettlement payment events

/-- The reader of the signers, over a provider. -/
def alloyChainClient (getLogs : Address → ℕ → ℕ → Except ChainError (List RpcLog))
    (blockHeader : ℕ → Except ChainError BlockHeader)
    (probeFailure : Currency → Address → Address → Address → Address → ℕ →
      Except ChainError FailureProbe) : ChainReader where
  blockHeader := blockHeader
  paymentSettlementTx := paymentSettlementTx getLogs
  probeFailure := probeFailure

/-- What an amount adds to the recovered total. -/
def SettlementAmount.recoveredPart : SettlementAmount → ℕ
  | .settled _ => 0
  | .recovered amount => amount

lemma addAmounts_ok {payment : Address} {transactionHash : Hash} {amounts : List SettlementAmount}
    {settled recovered settled' recovered' : Option ℕ}
    (h : addAmounts payment transactionHash amounts settled recovered = .ok (settled', recovered')) :
    (settled'.isSome = true ↔ settled.isSome = true ∨ ∃ a, .settled a ∈ amounts) ∧
      recovered'.getD 0 = recovered.getD 0 + (amounts.map (·.recoveredPart)).sum := by
  induction amounts generalizing settled recovered with
  | nil =>
    obtain ⟨rfl, rfl⟩ := Prod.mk.inj (Except.ok.inj h)
    simp
  | cons amount rest ih =>
    cases amount with
    | settled amount =>
      unfold addAmounts at h
      split at h
      · cases h
      · obtain ⟨hsettled, hrecovered⟩ := ih h
        refine ⟨?_, by simpa [SettlementAmount.recoveredPart] using hrecovered⟩
        rw [hsettled]
        simp
    | recovered amount =>
      unfold addAmounts at h
      split at h
      · cases h
      · obtain ⟨hsettled, hrecovered⟩ := ih h
        refine ⟨?_, ?_⟩
        · rw [hsettled]
          simp
        · simp only [Option.getD_some] at hrecovered
          have hpart : (SettlementAmount.recovered amount).recoveredPart = amount := rfl
          rw [List.map_cons, List.sum_cons, hpart, hrecovered]
          omega

/-- The settlement that is found is the first event's transaction. -/
lemma firstSettlement_ok {payment : Address} {events : List SettlementLog} {event : SettlementEvent}
    (h : firstSettlement payment events = .ok (some event)) :
    ∃ first rest, events = first :: rest ∧ event.transactionHash = first.transactionHash ∧
      event.blockNumber = first.blockNumber ∧ event.blockHash = first.blockHash ∧
      event.transactionIndex = first.transactionIndex ∧
      (event.settled.isSome = true ↔ ∃ x ∈ events.takeWhile
        (fun x => decide (x.transactionHash = first.transactionHash)), ∃ a, x.amount = .settled a) ∧
      event.recovered = ((events.takeWhile (fun x =>
        decide (x.transactionHash = first.transactionHash))).map (·.amount.recoveredPart)).sum := by
  unfold firstSettlement at h
  split at h
  · cases h
  · rename_i first rest
    split at h
    · cases h
    · rename_i settled recovered hamounts
      obtain rfl := Option.some.inj (Except.ok.inj h)
      obtain ⟨hsettled, hrecovered⟩ := addAmounts_ok hamounts
      refine ⟨first, rest, rfl, rfl, rfl, rfl, rfl, ?_, ?_⟩
      · rw [hsettled]
        constructor
        · rintro (hnone | ⟨a, ha⟩)
          · cases hnone
          · obtain ⟨x, hx, hxa⟩ := List.mem_map.1 ha
            exact ⟨x, hx, a, hxa⟩
        · rintro ⟨x, hx, a, hxa⟩
          exact Or.inr ⟨a, List.mem_map.2 ⟨x, hx, hxa⟩⟩
      · rw [hrecovered, List.map_map]
        simp [Function.comp_def]

lemma firstSettlement_none {payment : Address} {events : List SettlementLog}
    (h : firstSettlement payment events = .ok none) : events = [] := by
  unfold firstSettlement at h
  split at h
  · rfl
  · split at h <;> cases h

end Payday
