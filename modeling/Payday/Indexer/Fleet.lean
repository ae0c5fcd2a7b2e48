/-
# Indexers, the server and the chain

Any number of indexers scan one chain and send ranges to the server, which applies each in a
database transaction.  A transaction first reads the cursor row with `FOR UPDATE`: when there is
a row it holds the row's lock until it ends, and when there is none there is nothing to lock.
Requests may be delivered late, several times or never, answers may be lost, and an indexer may
stop at any moment.  The other transactions of the ledger, binds among them, commit in any order.
-/
import Mathlib.Logic.Relation
import Payday.Indexer.Pass
import Payday.Ledger.Simulation

namespace Payday

/-- A request, with the first block that was scanned for it. -/
structure SentRange where
  number : ℕ
  fromBlock : ℕ
  range : FinalizedRange
deriving DecidableEq

structure Fleet where
  ledger : Ledger
  /-- The token transfers of the chain. -/
  transfers : List PaymentObservation
  finalized : ℕ
  passes : ℕ → PassState
  requests : List SentRange
  /-- The transaction that holds the lock of the cursor row. -/
  locked : Option SentRange
  /-- The transactions in progress that found no cursor row. -/
  rowless : List SentRange
  answers : List (ℕ × RangeApplied)
  /-- The ranges that were committed, in order. -/
  committed : List SentRange

/-- An indexer's settings on a chain. -/
structure Watcher extends Indexer where
  /-- The headers of the chain's final blocks. -/
  header : ℕ → BlockHeader
  header_number : ∀ n, (header n).number = n

namespace Fleet

/-- Nothing has happened. -/
def start (finalized : ℕ) : Fleet where
  ledger := Ledger.empty
  transfers := []
  finalized := finalized
  passes := fun _ => .idle
  requests := []
  locked := none
  rowless := []
  answers := []
  committed := []

variable (f : Fleet)

def setPass (p : ℕ) (state : PassState) : Fleet :=
  { f with passes := Function.update f.passes p state }

lemma passes_setPass (p p' : ℕ) (state : PassState) :
    (f.setPass p state).passes p' = if p' = p then state else f.passes p' :=
  Function.update_apply ..

/-- Indexer `p` sends the range from the first block of its window up to `header`. -/
def send (I : Indexer) (p : ℕ) (s : Scan) (header : BlockHeader)
    (observations : List PaymentObservation) : Fleet :=
  { f with
    requests := f.requests ++ [⟨f.requests.length, s.fromBlock, I.request s header observations⟩]
    passes := Function.update f.passes p (.applying s header f.requests.length) }

/-- A transfer is mined. -/
def mined (o : PaymentObservation) : Fleet := { f with transfers := f.transfers ++ [o] }

/-- The ledger after the transaction of `r`. -/
def record (r : SentRange) (L : Ledger) (answer : RangeApplied) : Fleet :=
  { f with
    ledger := L
    answers := f.answers ++ [(r.number, answer)]
    committed := f.committed ++ [r] }

end Fleet

namespace Watcher

variable (W : Watcher)

/-- Payment addresses commit to their terms, and requests are only bound to the tokens that the
chain's configuration lists. -/
structure Bindings (L : Ledger) : Prop where
  alone : ∀ row ∈ L.invoices.rows, ∀ row' ∈ L.invoices.rows, ∀ b b', row.binding = some b →
    row'.binding = some b' → b.chainId = W.chainId → b'.chainId = W.chainId →
      b.paymentAddress = b'.paymentAddress → row = row'
  listed : ∀ row ∈ L.invoices.rows, ∀ b, row.binding = some b → b.chainId = W.chainId →
    b.token ∈ W.tokens

/-- What a provider answers about final blocks is true of the chain. -/
structure Reads (f : Fleet) (getLogs : GetLogs) (blockHeader : ℕ → Except ChainError BlockHeader) :
    Prop where
  header : ∀ n header, blockHeader n = .ok header → header = W.header n
  complete : getLogs.Complete blockHeader f.transfers f.finalized

/-- The transfer can be mined next: above the final block, no earlier than the block from which
the chain is indexed, and with a log of its own. -/
structure Mines (f : Fleet) (o : PaymentObservation) : Prop where
  start : W.config.startBlock ≤ o.blockNumber
  pending : f.finalized < o.blockNumber
  new : ∀ o' ∈ f.transfers, observationKey W.chainId o' ≠ observationKey W.chainId o

/-- One step of the system. -/
inductive Step (f : Fleet) : Fleet → Prop
  | mine (o : PaymentObservation) (h : W.Mines f o) : Step f (f.mined o)
  | finalize (n : ℕ) (h : f.finalized ≤ n) : Step f { f with finalized := n }
  /-- Another transaction of the ledger. -/
  | commit (now : Time) (op : Op)
      (other : ∀ range, op = .applyFinalizedRange range → range.chainId ≠ W.chainId)
      (bindings : W.Bindings (step f.ledger now op)) : Step f { f with ledger := step f.ledger now op }
  | readCursor (p : ℕ) (h : f.passes p = .idle) :
      Step f (f.setPass p (.positioned (f.ledger.cursor W.chainId)))
  /-- The finality boundary, and the continuity of the cursor below it. -/
  | readBoundary (p : ℕ) (cursor : Option IndexerCursor) (n : ℕ)
      (h : f.passes p = .positioned cursor) (final : n ≤ f.finalized)
      (continuous : ∀ c, cursor = some c → (W.header c.block).hash = c.blockHash) :
      Step f (f.setPass p (.bounded cursor (W.header n)))
  /-- The watch list, which holds every address that is bound when it is read. -/
  | refreshWatchList (p : ℕ) (cursor : Option IndexerCursor) (boundary : BlockHeader)
      (addresses : List Address) (h : f.passes p = .bounded cursor boundary)
      (all : ∀ row ∈ f.ledger.invoices.rows, ∀ b, row.binding = some b → b.chainId = W.chainId →
        b.paymentAddress ∈ addresses) :
      Step f (f.setPass p (.scanning (W.scan cursor boundary addresses)))
  /-- Nothing is watched: the whole span is one empty range. -/
  | fastForward (p : ℕ) (s : Scan) (h : f.passes p = .scanning s) (first : s.ranges = 0)
      (left : s.fromBlock ≤ s.boundary.number) (nothing : s.addresses = []) :
      Step f (f.send W.toIndexer p s s.boundary [])
  | window (p : ℕ) (s : Scan) (getLogs : GetLogs) (blockHeader : ℕ → Except ChainError BlockHeader)
      (observations : List PaymentObservation) (h : f.passes p = .scanning s) (left : W.more s)
      (watched : s.addresses ≠ []) (reads : W.Reads f getLogs blockHeader)
      (read : tokenTransfers getLogs blockHeader W.tokens s.fromBlock s.toBlock s.addresses =
        .ok observations) :
      Step f (f.send W.toIndexer p s (W.header s.toBlock) observations)
  /-- The provider refused the window. -/
  | splitWindow (p : ℕ) (s : Scan) (h : f.passes p = .scanning s) (left : W.more s)
      (large : 1 < s.rangeSize) : Step f (f.setPass p (.scanning s.split))
  | answer (p : ℕ) (s : Scan) (header : BlockHeader) (number : ℕ) (answer : RangeApplied)
      (h : f.passes p = .applying s header number) (hanswer : (number, answer) ∈ f.answers) :
      Step f (f.setPass p (s.resume header answer))
  /-- The pass ends, by itself, by an error or by a crash. -/
  | stop (p : ℕ) : Step f (f.setPass p .idle)
  /-- A delivered request whose expected cursor is not the stored one. -/
  | refuse (r : SentRange) (hr : r ∈ f.requests) (free : f.locked = none)
      (differs : f.ledger.cursor W.chainId ≠ r.range.expectedCursor) (now : Time)
      (answer : RangeApplied) (h : applyFinalizedRange f.ledger now r.range = .ok (f.ledger, answer)) :
      Step f { f with answers := f.answers ++ [(r.number, answer)] }
  /-- A delivered request that finds the cursor it expects, and locks its row. -/
  | lock (r : SentRange) (hr : r ∈ f.requests) (free : f.locked = none) (c : IndexerCursor)
      (hc : f.ledger.cursor W.chainId = some c) (expected : r.range.expectedCursor = some c) :
      Step f { f with locked := some r }
  /-- A delivered request that expects no cursor and finds no row. -/
  | find (r : SentRange) (hr : r ∈ f.requests) (hc : f.ledger.cursor W.chainId = none)
      (expected : r.range.expectedCursor = none) : Step f { f with rowless := f.rowless ++ [r] }
  | commitLocked (r : SentRange) (now : Time) (L : Ledger) (answer : RangeApplied)
      (hr : f.locked = some r) (h : recordRange f.ledger now r.range = .ok (L, answer)) :
      Step f { f.record r L answer with locked := none }
  /-- The upsert of the cursor waits for the row's lock, and overwrites a row that is there. -/
  | commitRowless (r : SentRange) (now : Time) (L : Ledger) (answer : RangeApplied)
      (hr : r ∈ f.rowless) (free : f.locked = none)
      (h : recordRange f.ledger now r.range = .ok (L, answer)) :
      Step f { f.record r L answer with rowless := f.rowless.erase r }
  /-- The transaction fails, or the server crashes. -/
  | abortLocked : Step f { f with locked := none }
  | abortRowless (r : SentRange) : Step f { f with rowless := f.rowless.erase r }

/-- The step commits a transaction that found no cursor row although there is one now. -/
def Stale (f f' : Fleet) : Prop :=
  ∃ r ∈ f.rowless, f'.committed = f.committed ++ [r] ∧ f.ledger.cursor W.chainId ≠ none

/-- A step that is not stale. -/
def FreshStep (f f' : Fleet) : Prop := W.Step f f' ∧ ¬ W.Stale f f'

end Watcher

end Payday
