/-
# The composed system

The ledger, the chain history of one request's payment address, and the block up to which the
chain is final.  Transactions are mined above the final block, in chain order; the ledger
commits its transactions in any order.  Two kinds of ledger transactions carry what was read of
the chain: a finalized range holds the transfers of its blocks, and a receipt for the request
holds the evidence that `decode_sweep_outcomes`, `classify_items` and `find_settlement` make of
the final history.  Everything else (other requests, other jobs, other chains, operators) is
arbitrary.
-/
import Mathlib.Logic.Relation
import Payday.Ledger.Aggregates
import Payday.Signers.Evidence
import Payday.System.Readers

namespace Payday

/-- A request, its payment address and the chain it is payable on. -/
structure Scene where
  site : Site
  id : InvoiceId
  config : ChainConfig
  /-- The block of a transaction. -/
  blockOf : Hash → ℕ

namespace Scene

variable (S : Scene)

def chainId : ChainId := S.site.terms.chainId

/-- The first block of a range. -/
def firstBlock : Option IndexerCursor → ℕ
  | some cursor => cursor.block + 1
  | none => S.config.startBlock

/-- The request's transfers in the blocks `[lo, hi)` of a history. -/
def transfersIn (chain : List Tx) (lo hi : ℕ) : List PaymentObservation :=
  window PaymentObservation.blockNumber lo hi (S.site.ownTransfers chain)

end Scene

structure World where
  ledger : Ledger
  /-- The transactions that concern the payment address. -/
  chain : List Tx
  finalized : ℕ

namespace Scene

variable (S : Scene)

/-- A range that was read of the chain: the request's transfers in it are those of its
blocks, a transaction is in one block, and a log is reported once. -/
structure Scanned (w : World) (range : FinalizedRange) : Prop where
  finalized : range.endBlock ≤ w.finalized
  nonempty : S.firstBlock range.expectedCursor ≤ range.endBlock
  timestamp : range.endBlockTimestamp = S.site.timestamp range.endBlock
  own : range.observations.filter (fun o =>
      decide (o.recipient = S.site.payment ∧ o.token = S.site.terms.token)) =
    S.transfersIn w.chain (S.firstBlock range.expectedCursor) (range.endBlock + 1)
  blocks : ∀ o ∈ range.observations, o.blockNumber = S.blockOf o.transactionHash ∧
    S.firstBlock range.expectedCursor ≤ o.blockNumber ∧ o.blockNumber ≤ range.endBlock
  once : (range.observations.map (observationKey range.chainId)).Nodup

/-- The receipt of the job's transaction `tx`, built from the job's command and from what a
provider answers about the final history. -/
structure Evidence (w : World) (receipt : FinalizedSweep) (before : List Tx) (tx : Tx)
    (after : List Tx) : Prop where
  chain : w.chain = before ++ tx :: after
  final : tx.block ≤ w.finalized
  txHash : receipt.txHash = tx.hash
  block : receipt.block = tx.block
  index : receipt.transactionIndex = tx.index
  timestamp : receipt.blockTimestamp = S.site.timestamp tx.block
  classified : ∃ refused command logs outcomes getLogs blockHeader probeFailure,
    tx.body = .sweep receipt.jobId refused ∧
    w.ledger.commands.find? receipt.jobId = some command ∧
    S.site.ReceiptOf S.config.batchSweeper
      (S.site.sweep (S.site.timestamp tx.block) refused (S.site.after before)) logs ∧
    decodeSweepOutcomes logs S.config.batchSweeper tx.hash = .ok outcomes ∧
    S.site.Complete getLogs w.chain w.finalized ∧
    classifyItems (alloyChainClient getLogs blockHeader probeFailure) S.config
      ⟨true, tx.block, S.site.blockHash tx.block, tx.index, outcomes⟩
      ⟨tx.block, S.site.blockHash tx.block, S.site.timestamp tx.block⟩ command.items =
        .ok receipt.items

/-- What was read of the chain is true of it. -/
def Honest (w : World) : Op → Prop
  | .applyFinalizedRange range => range.chainId = S.chainId → S.Scanned w range
  | .deliver _ (.sweepFinalized receipt) =>
    ∀ q, w.ledger.request? S.id = some q → q.sweepJobId = some receipt.jobId →
      ∃ before tx after, S.Evidence w receipt before tx after
  | _ => True

/-- Payment addresses are derived from the terms they commit to. -/
structure Derived (L : Ledger) : Prop where
  alone : ∀ row ∈ L.invoices.rows, ∀ b, row.binding = some b → b.chainId = S.chainId →
    b.paymentAddress = S.site.payment → row.id = S.id
  terms : ∀ row b, L.invoices.find? S.id = some row → row.binding = some b →
    b.chainId = S.chainId ∧ b.paymentAddress = S.site.payment ∧ b.token = S.site.terms.token ∧
      row.amount = S.site.terms.amount ∧
      row.expirationTimestamp = S.site.terms.expirationTimestamp

/-- A transaction that can be mined next.  The address is known once the request is bound, and
the helper transaction of a job follows the job's command. -/
structure Minable (w : World) (tx : Tx) : Prop where
  bound : ∃ q, w.ledger.request? S.id = some q ∧ q.binding.isSome
  start : S.config.startBlock ≤ tx.block
  pending : w.finalized < tx.block
  later : ∀ tx' ∈ w.chain, tx'.position < tx.position
  hash_new : ∀ tx' ∈ w.chain, tx'.hash ≠ tx.hash
  blockOf : S.blockOf tx.hash = tx.block
  job : ∀ j refused, tx.body = .sweep j refused → ∃ command,
    w.ledger.commands.find? j = some command ∧ S.id ∈ command.items.map (·.invoiceId)

/-- One step of the system. -/
inductive Step (w : World) : World → Prop
  | mine (tx : Tx) (h : S.Minable w tx) : Step w { w with chain := w.chain ++ [tx] }
  | finalize (n : ℕ) (h : w.finalized ≤ n) : Step w { w with finalized := n }
  | commit (now : Time) (op : Op) (honest : S.Honest w op)
      (derived : S.Derived (step w.ledger now op)) :
      Step w { w with ledger := step w.ledger now op }

/-- The system before anything happened. -/
def start (finalized : ℕ) : World := ⟨Ledger.empty, [], finalized⟩

/-- The states the system reaches. -/
def Reaches (w : World) : Prop := ∃ finalized, Relation.ReflTransGen S.Step (start finalized) w

end Scene

end Payday
