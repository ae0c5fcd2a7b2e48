/-
# The indexer's pass

`Indexer::pass` of `gum-indexer/src/indexer.rs`, cut at the answers it waits for: it reads the
cursor, then the finality boundary, then the watch list, and then scans windows of blocks, each
of which becomes one `RecordFinalizedRange` request.  `PassState` is what a pass holds between
two answers.
-/
import Payday.Chain.Transfers
import Payday.Ledger.Range

namespace Payday

/-- What the pass uses of its settings. -/
structure Indexer where
  config : ChainConfig
  /-- `config.token_addresses()`. -/
  tokens : List Address
  /-- Windows scanned per pass. -/
  maxRanges : ℕ

/-- The variables of the loop over the windows. -/
structure Scan where
  cursor : Option IndexerCursor
  boundary : BlockHeader
  addresses : List Address
  fromBlock : ℕ
  rangeSize : ℕ
  ranges : ℕ
deriving DecidableEq, Repr

namespace Indexer

variable (I : Indexer)

def chainId : ChainId := I.config.chainId

/-- The block a scan starts from: `start_block`, or the one after the cursor. -/
def start (cursor : Option IndexerCursor) : ℕ :=
  match cursor with
  | none => I.config.startBlock
  | some c => c.block + 1

/-- The loop's variables before its first window. -/
def scan (cursor : Option IndexerCursor) (boundary : BlockHeader) (addresses : List Address) : Scan where
  cursor := cursor
  boundary := boundary
  addresses := addresses
  fromBlock := I.start cursor
  rangeSize := max I.config.logRangeSize 1
  ranges := 0

/-- Whether the loop has a window left. -/
def more (s : Scan) : Prop := s.fromBlock ≤ s.boundary.number ∧ s.ranges < I.maxRanges

/-- The request of `apply`. -/
def request (s : Scan) (header : BlockHeader) (observations : List PaymentObservation) :
    FinalizedRange where
  chainId := I.chainId
  expectedCursor := s.cursor
  endBlock := header.number
  endBlockHash := header.hash
  endBlockTimestamp := header.timestamp
  observations := observations

end Indexer

namespace Scan

/-- The last block of the next window. -/
def toBlock (s : Scan) : ℕ := min s.boundary.number (s.fromBlock + (s.rangeSize - 1))

/-- The provider refused the window: try a smaller one. -/
def split (s : Scan) : Scan := { s with rangeSize := max (s.rangeSize / 2) 1 }

/-- The window up to `header` is done. -/
def advance (s : Scan) (header : BlockHeader) : Scan :=
  { s with
    cursor := some ⟨header.number, header.hash, some header.timestamp⟩
    fromBlock := header.number + 1
    ranges := s.ranges + 1 }

end Scan

/-- A pass between two answers. -/
inductive PassState
  | idle
  | positioned (cursor : Option IndexerCursor)
  | bounded (cursor : Option IndexerCursor) (boundary : BlockHeader)
  | scanning (scan : Scan)
  /-- Request `number` is on its way, for the window up to `header`. -/
  | applying (scan : Scan) (header : BlockHeader) (number : ℕ)
deriving DecidableEq, Repr

/-- What the pass does with the answer to its request. -/
def Scan.resume (s : Scan) (header : BlockHeader) : RangeApplied → PassState
  | .applied _ _ _ => .scanning (s.advance header)
  -- a replay of the pass's own request whose response was lost
  | .alreadyApplied _ => .scanning (s.advance header)
  | .cursorMismatch _ => .idle

/-- The loop's variables, once the pass scans. -/
def PassState.scan? : PassState → Option Scan
  | .scanning s => some s
  | .applying s _ _ => some s
  | _ => none

namespace Indexer

variable (I : Indexer)

/-- The window starts right after the cursor it expects, and the pass stays below the blocks
that were final. -/
structure Aligned (finalized : ℕ) (s : Scan) : Prop where
  fromBlock : s.fromBlock = I.start s.cursor
  boundary : s.boundary.number ≤ finalized

variable {I} {finalized : ℕ} {s : Scan}

lemma Aligned.split (h : I.Aligned finalized s) : I.Aligned finalized s.split :=
  ⟨h.fromBlock, h.boundary⟩

lemma Aligned.advance (h : I.Aligned finalized s) (header : BlockHeader) :
    I.Aligned finalized (s.advance header) :=
  ⟨rfl, h.boundary⟩

lemma Aligned.mono (h : I.Aligned finalized s) {n : ℕ} (hn : finalized ≤ n) : I.Aligned n s :=
  ⟨h.fromBlock, h.boundary.trans hn⟩

/-- A window is not empty and does not pass the boundary. -/
lemma window_bounds (h : s.fromBlock ≤ s.boundary.number) :
    s.fromBlock ≤ s.toBlock ∧ s.toBlock ≤ s.boundary.number := by
  unfold Scan.toBlock
  omega

/-- The scan that an answer leaves is the one before, or it has advanced. -/
lemma scan?_resume {header : BlockHeader} {answer : RangeApplied} {s' : Scan}
    (h : (s.resume header answer).scan? = some s') : s' = s.advance header := by
  cases answer with
  | applied funded expired cursor => exact (Option.some.inj h).symm
  | alreadyApplied cursor => exact (Option.some.inj h).symm
  | cursorMismatch cursor => cases h

end Indexer

end Payday
