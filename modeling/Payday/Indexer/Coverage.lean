/-
# What the indexers cover

The cursor is a compare-and-set under the row's lock, so the ranges that commit are adjacent, and
every transfer below the cursor to an address that was bound before is recorded.  The lock does
not exist before the first range: two transactions that both found no cursor row can both commit,
and the second one moves the cursor to wherever its own range ends.  `FreshStep` excludes exactly
this.

A transaction that is not stale is `apply_finalized_range` in one piece, so the ledger moves by
its own transactions (`Sane.record`), and what the indexer system adds is the invariant `Sane`.
Coverage is an invariant of the states after a transfer was mined (`Covered`): whoever read a
boundary beyond it read the watch list later still.
-/
import Payday.Indexer.Fleet
import Payday.Lib.Window
import Payday.System.Scan

namespace Payday

namespace SentRange

/-- The blocks of the range. -/
def interval (r : SentRange) : ℕ × ℕ := (r.fromBlock, r.range.endBlock)

end SentRange

namespace Watcher

variable (W : Watcher) {f f' : Fleet}

/-- A request of a window of the chain. -/
structure Sent (f : Fleet) (r : SentRange) : Prop where
  chainId : r.range.chainId = W.chainId
  fromBlock : r.fromBlock = W.start r.range.expectedCursor
  nonempty : r.fromBlock ≤ r.range.endBlock
  final : r.range.endBlock ≤ f.finalized
  transfers : ∀ o ∈ r.range.observations, o ∈ f.transfers

/-- A request is bound to the recipient of the log. -/
def BoundTo (L : Ledger) (id : InvoiceId) (o : PaymentObservation) : Prop :=
  ∃ row b, L.invoices.find? id = some row ∧ row.binding = some b ∧ b.chainId = W.chainId ∧
    b.paymentAddress = o.recipient ∧ b.token = o.token

structure Sane (f : Fleet) : Prop where
  reachable : Reachable f.ledger
  bindings : W.Bindings f.ledger
  cursor : ∀ c, f.ledger.cursor W.chainId = some c → c.block ≤ f.finalized
  boundaries : ∀ p cursor boundary, f.passes p = .bounded cursor boundary →
    boundary.number ≤ f.finalized
  scans : ∀ p s, (f.passes p).scan? = some s → W.Aligned f.finalized s
  requests : ∀ r ∈ f.requests, W.Sent f r
  locked : ∀ r, f.locked = some r → r ∈ f.requests ∧
    f.ledger.cursor W.chainId = r.range.expectedCursor
  rowless : ∀ r ∈ f.rowless, r ∈ f.requests ∧ r.range.expectedCursor = none
  contiguous : Contiguous W.config.startBlock (f.committed.map SentRange.interval)
  next : nextOf W.config.startBlock (f.committed.map SentRange.interval) =
    W.start (f.ledger.cursor W.chainId)
  keys : (f.transfers.map (observationKey W.chainId)).Nodup
  recorded : ∀ x ∈ f.ledger.recorded, x.chainId = W.chainId → x.observation ∈ f.transfers ∧
    W.BoundTo f.ledger x.invoiceId x.observation

variable {W}

/-- A binding stays. -/
lemma BoundTo.step {L : Ledger} {id : InvoiceId} {o : PaymentObservation} (h : W.BoundTo L id o)
    (now : Time) (op : Op) : W.BoundTo (step L now op) id o := by
  obtain ⟨row, b, hrow, hb, hrest⟩ := h
  have hq : L.request? id = some (row.request (L.observationsOf id)) :=
    Ledger.request?_eq_some.2 ⟨row, hrow, rfl⟩
  obtain ⟨henabled, hmoved⟩ := request?_step now op hq
  obtain ⟨row', hrow', hrequest⟩ := Ledger.request?_eq_some.1 hmoved
  refine ⟨row', b, hrow', ?_, hrest⟩
  have hkept := Request.binding_apply (q := row.request (L.observationsOf id)) hb henabled
  rw [← hrequest] at hkept
  exact hkept

/-- The bindings decide `Bindings`. -/
lemma Bindings.of_bindings {L L' : Ledger} (h : W.Bindings L) (hsame : L'.bindings = L.bindings) :
    W.Bindings L' := by
  have hold : ∀ row' ∈ L'.invoices.rows, ∃ row ∈ L.invoices.rows, row.id = row'.id ∧
      row.binding = row'.binding := by
    intro row' hrow'
    have hmem : (row'.id, row'.binding) ∈ L'.bindings :=
      List.mem_map.2 ⟨row', hrow', rfl⟩
    rw [hsame] at hmem
    obtain ⟨row, hrow, heq⟩ := List.mem_map.1 hmem
    exact ⟨row, hrow, (Prod.mk.inj heq).1, (Prod.mk.inj heq).2⟩
  refine ⟨fun row₁ h₁ row₂ h₂ b₁ b₂ hb₁ hb₂ hc₁ hc₂ haddr => ?_, fun row' hrow' b hb hc => ?_⟩
  · obtain ⟨r₁, hr₁, hid₁, hbind₁⟩ := hold row₁ h₁
    obtain ⟨r₂, hr₂, hid₂, hbind₂⟩ := hold row₂ h₂
    have hrows := h.alone r₁ hr₁ r₂ hr₂ b₁ b₂ (hbind₁.trans hb₁) (hbind₂.trans hb₂) hc₁ hc₂ haddr
    exact L'.invoices.eq_of_key_eq h₁ h₂ (hid₁.symm.trans ((congrArg Invoice.id hrows).trans hid₂))
  · obtain ⟨row, hrow, -, hbind⟩ := hold row' hrow'
    exact h.listed row hrow b (hbind.trans hb) hc

/-- A range that finds the cursor it expects is one transaction of the ledger. -/
lemma recordRange_eq_step {L L' : Ledger} {now : Time} {range : FinalizedRange}
    {answer : RangeApplied} (h : recordRange L now range = .ok (L', answer))
    (hcursor : L.cursor range.chainId = range.expectedCursor) :
    step L now (.applyFinalizedRange range) = L' := by
  simp only [step, applyFinalizedRange]
  rw [if_neg (not_not.2 hcursor), h]

/-! ### Every step keeps the invariant -/

lemma Sent.mono {r : SentRange} (h : W.Sent f r) (hfinal : f.finalized ≤ f'.finalized)
    (htransfers : ∀ o ∈ f.transfers, o ∈ f'.transfers) : W.Sent f' r :=
  ⟨h.chainId, h.fromBlock, h.nonempty, h.final.trans hfinal,
    fun o ho => htransfers o (h.transfers o ho)⟩

lemma sane_start (finalized : ℕ) : W.Sane (Fleet.start finalized) where
  reachable := ⟨[], rfl⟩
  bindings := by
    refine ⟨fun row hrow => ?_, fun row hrow => ?_⟩
    · cases hrow
    · cases hrow
  cursor := fun c hc => by cases hc
  boundaries := fun p cursor boundary h => by cases h
  scans := fun p s h => by cases h
  requests := fun r hr => by cases hr
  locked := fun r hr => by cases hr
  rowless := fun r hr => by cases hr
  contiguous := trivial
  next := rfl
  keys := List.nodup_nil
  recorded := fun x hx => by cases hx

/-- A pass moves on. -/
lemma Sane.setPass (h : W.Sane f) (p : ℕ) {state : PassState}
    (hbound : ∀ cursor boundary, state = .bounded cursor boundary → boundary.number ≤ f.finalized)
    (hscan : ∀ s, state.scan? = some s → W.Aligned f.finalized s) : W.Sane (f.setPass p state) where
  reachable := h.reachable
  bindings := h.bindings
  cursor := h.cursor
  boundaries := by
    intro p' cursor boundary hp'
    rw [Fleet.passes_setPass] at hp'
    split at hp'
    · exact hbound cursor boundary hp'
    · exact h.boundaries p' cursor boundary hp'
  scans := by
    intro p' s hp'
    rw [Fleet.passes_setPass] at hp'
    split at hp'
    · exact hscan s hp'
    · exact h.scans p' s hp'
  requests := fun r hr => (h.requests r hr).mono le_rfl (fun _ ho => ho)
  locked := h.locked
  rowless := h.rowless
  contiguous := h.contiguous
  next := h.next
  keys := h.keys
  recorded := h.recorded

/-- A pass sends the range of its window. -/
lemma Sane.send (h : W.Sane f) {p : ℕ} {s : Scan} (hp : f.passes p = .scanning s)
    {header : BlockHeader} {observations : List PaymentObservation}
    (hnonempty : s.fromBlock ≤ header.number) (hfinal : header.number ≤ s.boundary.number)
    (htransfers : ∀ o ∈ observations, o ∈ f.transfers) :
    W.Sane (f.send W.toIndexer p s header observations) := by
  have haligned : W.Aligned f.finalized s := h.scans p s (by rw [hp]; rfl)
  have hpass : W.Sane (f.setPass p (.applying s header f.requests.length)) := h.setPass p
    (fun cursor boundary hc => by cases hc) (fun s' hs' => Option.some.inj hs' ▸ haligned)
  refine { hpass with requests := ?_, locked := ?_, rowless := ?_ }
  · intro r hr
    rcases List.mem_append.1 hr with hold | hnew
    · exact (h.requests r hold).mono le_rfl (fun _ ho => ho)
    · obtain rfl := List.mem_singleton.1 hnew
      exact ⟨rfl, haligned.fromBlock, hnonempty, hfinal.trans haligned.boundary, htransfers⟩
  · intro r hr
    exact ⟨List.mem_append_left _ (h.locked r hr).1, (h.locked r hr).2⟩
  · intro r hr
    exact ⟨List.mem_append_left _ (h.rowless r hr).1, (h.rowless r hr).2⟩

/-- A range that finds the cursor it expects is adjacent to the ranges before it. -/
lemma Sane.record (h : W.Sane f) {r : SentRange} {now : Time} {L : Ledger} {answer : RangeApplied}
    (hr : r ∈ f.requests) (hcursor : f.ledger.cursor W.chainId = r.range.expectedCursor)
    (hrecord : recordRange f.ledger now r.range = .ok (L, answer)) {rowless : List SentRange}
    (hrowless : ∀ r' ∈ rowless, r' ∈ f.rowless) :
    W.Sane { f.record r L answer with locked := none, rowless := rowless } := by
  have hsent := h.requests r hr
  have hstep : step f.ledger now (.applyFinalizedRange r.range) = L :=
    recordRange_eq_step hrecord (by rw [hsent.chainId]; exact hcursor)
  have hend : L.cursor W.chainId = some r.range.cursor := by
    rw [recordRange_cursor hrecord, if_pos hsent.chainId.symm]
  refine ⟨?_, h.bindings.of_bindings (recordRange_bindings hrecord), ?_, h.boundaries, h.scans, ?_, ?_, ?_,
    ?_, ?_, h.keys, ?_⟩
  · show Reachable L
    rw [← hstep]
    exact reachable_step h.reachable now _
  · intro c hc
    obtain rfl := Option.some.inj (hend.symm.trans hc)
    exact hsent.final
  · exact fun r' hr' => (h.requests r' hr').mono le_rfl (fun _ ho => ho)
  · exact fun r' hr' => by cases hr'
  · exact fun r' hr' => h.rowless r' (hrowless r' hr')
  · show Contiguous _ ((f.committed ++ [r]).map SentRange.interval)
    rw [List.map_append, List.map_singleton, contiguous_concat]
    refine ⟨h.contiguous, ?_, hsent.nonempty⟩
    rw [h.next, hcursor]
    exact hsent.fromBlock
  · show nextOf _ ((f.committed ++ [r]).map SentRange.interval) = W.start (L.cursor W.chainId)
    rw [List.map_append, List.map_singleton, nextOf_concat, hend]
    rfl
  · intro x hx hchain
    have hx : x ∈ L.recorded := hx
    obtain ⟨new, happend, hnew⟩ := recordRange_recorded hrecord
    rw [happend] at hx
    show _ ∧ W.BoundTo L x.invoiceId x.observation
    rw [← hstep]
    rcases List.mem_append.1 hx with hold | hfresh
    · obtain ⟨hmem, hbound⟩ := h.recorded x hold hchain
      exact ⟨hmem, hbound.step now _⟩
    · obtain ⟨-, hobs, row, b, hrow, hb, hbc, haddr, htoken⟩ := hnew x hfresh
      have hbound : W.BoundTo f.ledger x.invoiceId x.observation :=
        ⟨row, b, hrow, hb, hbc.trans hsent.chainId, haddr, htoken⟩
      exact ⟨hsent.transfers _ hobs, hbound.step now _⟩

/-- Another transaction of the ledger keeps the chain's cursor and its recorded logs. -/
lemma commit_scan {L : Ledger} (now : Time) {op : Op}
    (other : ∀ range, op = .applyFinalizedRange range → range.chainId ≠ W.chainId) :
    (step L now op).cursor W.chainId = L.cursor W.chainId ∧
      (∀ x ∈ (step L now op).recorded, x.chainId = W.chainId → x ∈ L.recorded) ∧
      ∀ x ∈ L.recorded, x ∈ (step L now op).recorded := by
  rcases step_scan L now op with hsame | ⟨range, funded, expired, hop, -, hrecord⟩
  · rw [Ledger.cursor, Ledger.cursor, hsame.indexerCursor, hsame.recorded]
    exact ⟨rfl, fun x hx _ => hx, fun x hx => hx⟩
  · have hne := other range hop
    obtain ⟨new, happend, hnew⟩ := recordRange_recorded hrecord
    rw [recordRange_cursor hrecord, if_neg (Ne.symm hne), happend]
    refine ⟨rfl, fun x hx hchain => ?_, fun x hx => List.mem_append_left _ hx⟩
    rcases List.mem_append.1 hx with hold | hfresh
    · exact hold
    · exact absurd ((hnew x hfresh).1.symm.trans hchain) hne

lemma Sane.commit (h : W.Sane f) (now : Time) {op : Op}
    (other : ∀ range, op = .applyFinalizedRange range → range.chainId ≠ W.chainId)
    (bindings : W.Bindings (step f.ledger now op)) :
    W.Sane { f with ledger := step f.ledger now op } := by
  obtain ⟨hcursor, hkept, -⟩ := commit_scan (L := f.ledger) now other
  refine ⟨reachable_step h.reachable now op, bindings, ?_, h.boundaries, h.scans, ?_, ?_, h.rowless,
    h.contiguous, ?_, h.keys, ?_⟩
  · intro c hc
    exact h.cursor c (hcursor.symm.trans hc)
  · exact fun r hr => (h.requests r hr).mono le_rfl (fun _ ho => ho)
  · exact fun r hr => ⟨(h.locked r hr).1, hcursor.trans (h.locked r hr).2⟩
  · exact h.next.trans (congrArg W.start hcursor.symm)
  · intro x hx hchain
    obtain ⟨hmem, hbound⟩ := h.recorded x (hkept x hx hchain) hchain
    exact ⟨hmem, hbound.step now op⟩

lemma Sane.mine (h : W.Sane f) {o : PaymentObservation} (ho : W.Mines f o) :
    W.Sane (f.mined o) := by
  refine ⟨h.reachable, h.bindings, h.cursor, h.boundaries, h.scans, ?_, h.locked, h.rowless,
    h.contiguous, h.next, ?_, ?_⟩
  · exact fun r hr => (h.requests r hr).mono le_rfl (fun _ ho => List.mem_append_left _ ho)
  · show ((f.transfers ++ [o]).map (observationKey W.chainId)).Nodup
    rw [List.map_append, List.map_singleton]
    refine List.nodup_append.2 ⟨h.keys, by simp, fun k hk k' hk' => ?_⟩
    obtain ⟨o', ho', rfl⟩ := List.mem_map.1 hk
    rw [List.mem_singleton.1 hk']
    exact ho.new o' ho'
  · intro x hx hchain
    exact ⟨List.mem_append_left _ (h.recorded x hx hchain).1, (h.recorded x hx hchain).2⟩

lemma Sane.finalize (h : W.Sane f) {n : ℕ} (hn : f.finalized ≤ n) :
    W.Sane { f with finalized := n } :=
  ⟨h.reachable, h.bindings, fun c hc => (h.cursor c hc).trans hn,
    fun p cursor boundary hp => (h.boundaries p cursor boundary hp).trans hn,
    fun p s hs => (h.scans p s hs).mono hn,
    fun r hr => (h.requests r hr).mono hn (fun _ ho => ho), h.locked, h.rowless, h.contiguous,
    h.next, h.keys, h.recorded⟩

/-- What a window reads is of the chain, and ends below the boundary. -/
lemma Sane.window (h : W.Sane f) {p : ℕ} {s : Scan} (hp : f.passes p = .scanning s)
    (hleft : s.fromBlock ≤ s.boundary.number) {getLogs : GetLogs}
    {blockHeader : ℕ → Except ChainError BlockHeader} (reads : W.Reads f getLogs blockHeader)
    {observations : List PaymentObservation}
    (read : tokenTransfers getLogs blockHeader W.tokens s.fromBlock s.toBlock s.addresses =
      .ok observations) (o : PaymentObservation) :
    o ∈ observations ↔ o ∈ f.transfers ∧ o.token ∈ W.tokens ∧
      (s.fromBlock ≤ o.blockNumber ∧ o.blockNumber ≤ s.toBlock) ∧ o.recipient ∈ s.addresses := by
  have haligned : W.Aligned f.finalized s := h.scans p s (by rw [hp]; rfl)
  exact mem_tokenTransfers reads.complete
    ((Indexer.window_bounds hleft).2.trans haligned.boundary) read

lemma sane_step (h : W.Sane f) (hstep : W.FreshStep f f') : W.Sane f' := by
  obtain ⟨hstep, hfresh⟩ := hstep
  have hidle : ∀ p (state : PassState), (∀ cursor boundary, state ≠ .bounded cursor boundary) →
      state.scan? = none → W.Sane (f.setPass p state) := by
    intro p state hbound hscan
    refine h.setPass p (fun cursor boundary hs => absurd hs (hbound cursor boundary)) fun s hs => ?_
    rw [hscan] at hs
    cases hs
  cases hstep with
  | mine o ho => exact h.mine ho
  | finalize n hn => exact h.finalize hn
  | commit now op other bindings => exact h.commit now other bindings
  | readCursor p hp => exact hidle p _ (by simp) rfl
  | readBoundary p cursor n hp final continuous =>
    refine h.setPass p (fun cursor' boundary hs => ?_) (fun s hs => by cases hs)
    obtain ⟨-, rfl⟩ := PassState.bounded.inj hs
    rw [W.header_number]
    exact final
  | refreshWatchList p cursor boundary addresses hp all =>
    refine h.setPass p (fun cursor' boundary' hs => by cases hs) (fun s hs => ?_)
    obtain rfl := Option.some.inj hs
    exact ⟨rfl, h.boundaries p cursor boundary hp⟩
  | fastForward p s hp first left nothing => exact h.send hp left le_rfl (by simp)
  | window p s getLogs blockHeader observations hp left watched reads read =>
    obtain ⟨hnonempty, hbelow⟩ := Indexer.window_bounds left.1
    refine h.send hp ?_ ?_ (fun o ho => ((h.window hp left.1 reads read o).1 ho).1)
    · rw [W.header_number]
      exact hnonempty
    · rw [W.header_number]
      exact hbelow
  | splitWindow p s hp left large =>
    refine h.setPass p (fun cursor boundary hs => by cases hs) (fun s' hs => ?_)
    obtain rfl := Option.some.inj hs
    exact (h.scans p s (by rw [hp]; rfl)).split
  | answer p s header number answer hp hanswer =>
    refine h.setPass p (fun cursor boundary hs => ?_) (fun s' hs => ?_)
    · cases answer <;> cases hs
    · rw [Indexer.scan?_resume hs]
      exact (h.scans p s (by rw [hp]; rfl)).advance header
  | stop p => exact hidle p _ (by simp) rfl
  | refuse r hr free differs now answer happly =>
    exact ⟨h.reachable, h.bindings, h.cursor, h.boundaries, h.scans,
      fun r hr => (h.requests r hr).mono le_rfl (fun _ ho => ho), h.locked, h.rowless, h.contiguous,
      h.next, h.keys, h.recorded⟩
  | lock r hr free c hc expected =>
    refine ⟨h.reachable, h.bindings, h.cursor, h.boundaries, h.scans,
      fun r hr => (h.requests r hr).mono le_rfl (fun _ ho => ho), fun r' hr' => ?_, h.rowless,
      h.contiguous, h.next, h.keys, h.recorded⟩
    obtain rfl := Option.some.inj hr'
    exact ⟨hr, hc.trans expected.symm⟩
  | find r hr hc expected =>
    refine ⟨h.reachable, h.bindings, h.cursor, h.boundaries, h.scans,
      fun r hr => (h.requests r hr).mono le_rfl (fun _ ho => ho), h.locked, fun r' hr' => ?_,
      h.contiguous, h.next, h.keys, h.recorded⟩
    rcases List.mem_append.1 hr' with hold | hnew
    · exact h.rowless r' hold
    · obtain rfl := List.mem_singleton.1 hnew
      exact ⟨hr, expected⟩
  | commitLocked r now L answer hr hrecord =>
    exact h.record (h.locked r hr).1 (h.locked r hr).2 hrecord (fun _ hr' => hr')
  | commitRowless r now L answer hr free hrecord =>
    -- the row is still missing, so the range is the first one
    have hnone : f.ledger.cursor W.chainId = none := by
      by_contra hsome
      exact hfresh ⟨r, hr, rfl, hsome⟩
    obtain ⟨hmem, hexpected⟩ := h.rowless r hr
    have hsane : W.Sane { f.record r L answer with locked := none, rowless := f.rowless.erase r } :=
      h.record hmem (hnone.trans hexpected.symm) hrecord (fun _ hr' => List.mem_of_mem_erase hr')
    simpa [Fleet.record, free] using hsane
  | abortLocked =>
    exact ⟨h.reachable, h.bindings, h.cursor, h.boundaries, h.scans,
      fun r hr => (h.requests r hr).mono le_rfl (fun _ ho => ho), fun r hr => (by cases hr),
      h.rowless, h.contiguous, h.next, h.keys, h.recorded⟩
  | abortRowless r =>
    exact ⟨h.reachable, h.bindings, h.cursor, h.boundaries, h.scans,
      fun r hr => (h.requests r hr).mono le_rfl (fun _ ho => ho), h.locked,
      fun r' hr' => h.rowless r' (List.mem_of_mem_erase hr'), h.contiguous, h.next, h.keys,
      h.recorded⟩

lemma sane_run {finalized : ℕ} (h : Relation.ReflTransGen W.FreshStep (Fleet.start finalized) f) :
    W.Sane f := by
  induction h with
  | refl => exact sane_start finalized
  | tail _ hstep ih => exact sane_step ih hstep

/-! ### The cursor only moves forward -/

lemma cursor_step (h : W.Sane f) (hstep : W.FreshStep f f') {c : IndexerCursor}
    (hc : f.ledger.cursor W.chainId = some c) :
    ∃ c', f'.ledger.cursor W.chainId = some c' ∧ c.block ≤ c'.block := by
  have hrecord : ∀ {r : SentRange} {now : Time} {L : Ledger} {answer : RangeApplied},
      r ∈ f.requests → f.ledger.cursor W.chainId = r.range.expectedCursor →
      recordRange f.ledger now r.range = .ok (L, answer) →
        ∃ c', L.cursor W.chainId = some c' ∧ c.block ≤ c'.block := by
    intro r now L answer hr hcursor hrecord
    have hsent := h.requests r hr
    refine ⟨r.range.cursor, by rw [recordRange_cursor hrecord, if_pos hsent.chainId.symm], ?_⟩
    have hfrom : r.fromBlock = c.block + 1 := by
      rw [hsent.fromBlock, ← hcursor, hc]
      rfl
    have hnonempty := hsent.nonempty
    show c.block ≤ r.range.endBlock
    omega
  obtain ⟨hstep, hfresh⟩ := hstep
  cases hstep with
  | commit now op other bindings =>
    exact ⟨c, (commit_scan (L := f.ledger) now other).1.trans hc, le_rfl⟩
  | commitLocked r now L answer hr h' => exact hrecord (h.locked r hr).1 (h.locked r hr).2 h'
  | commitRowless r now L answer hr free h' =>
    exact absurd ⟨r, hr, rfl, by rw [hc]; simp⟩ hfresh
  | _ => exact ⟨c, hc, le_rfl⟩

/-! ### Coverage -/

variable (W)

/-- A transfer that was mined after its recipient was bound to request `id`. -/
structure Covered (o : PaymentObservation) (id : InvoiceId) (f : Fleet) : Prop where
  mined : o ∈ f.transfers
  bound : W.BoundTo f.ledger id o
  /-- Whoever saw the transfer's block final watches its recipient. -/
  watched : ∀ p s, (f.passes p).scan? = some s → o.blockNumber ≤ s.boundary.number →
    o.recipient ∈ s.addresses
  sent : ∀ r ∈ f.requests, r.fromBlock ≤ o.blockNumber → o.blockNumber ≤ r.range.endBlock →
    o ∈ r.range.observations
  recorded : o.blockNumber < W.start (f.ledger.cursor W.chainId) →
    ∃ x ∈ f.ledger.recorded, x.key = observationKey W.chainId o

variable {W} {o : PaymentObservation} {id : InvoiceId}

/-- Nobody has seen the block of a new transfer. -/
lemma Sane.covered_mined (h : W.Sane f) (ho : W.Mines f o) (hbound : W.BoundTo f.ledger id o) :
    W.Covered o id (f.mined o) := by
  have hpending := ho.pending
  refine ⟨by simp [Fleet.mined], hbound, fun p s hs hle => ?_, fun r hr _ hle => ?_, fun hlt => ?_⟩
  · have hboundary := (h.scans p s hs).boundary
    omega
  · have hfinal := (h.requests r hr).final
    omega
  · exfalso
    have hlt : o.blockNumber < W.start (f.ledger.cursor W.chainId) := hlt
    have hstart := ho.start
    rcases hc : f.ledger.cursor W.chainId with _ | c
    · rw [hc] at hlt
      have hlt : o.blockNumber < W.config.startBlock := hlt
      omega
    · rw [hc] at hlt
      have hlt : o.blockNumber < c.block + 1 := hlt
      have hfinal := h.cursor c hc
      omega

lemma Covered.setPass (h : W.Covered o id f) (p : ℕ) {state : PassState}
    (hwatched : ∀ s, state.scan? = some s → o.blockNumber ≤ s.boundary.number →
      o.recipient ∈ s.addresses) : W.Covered o id (f.setPass p state) := by
  refine ⟨h.mined, h.bound, fun p' s hs => ?_, h.sent, h.recorded⟩
  rw [Fleet.passes_setPass] at hs
  split at hs
  · exact hwatched s hs
  · exact h.watched p' s hs

lemma Covered.send (h : W.Covered o id f) {p : ℕ} {s : Scan} (hp : f.passes p = .scanning s)
    {header : BlockHeader} {observations : List PaymentObservation}
    (hread : s.fromBlock ≤ o.blockNumber → o.blockNumber ≤ header.number → o ∈ observations) :
    W.Covered o id (f.send W.toIndexer p s header observations) := by
  have hpass : W.Covered o id (f.setPass p (.applying s header f.requests.length)) := by
    refine h.setPass p fun s' hs' => ?_
    obtain rfl := Option.some.inj hs'
    exact h.watched p s (by rw [hp]; rfl)
  refine ⟨hpass.mined, hpass.bound, hpass.watched, fun r hr => ?_, hpass.recorded⟩
  rcases List.mem_append.1 hr with hold | hnew
  · exact h.sent r hold
  · obtain rfl := List.mem_singleton.1 hnew
    exact hread

/-- The request that is bound to a recipient has it alone. -/
lemma Sane.bound_row (h : W.Sane f) (hbound : W.BoundTo f.ledger id o) :
    ∃ row b, row ∈ f.ledger.invoices.rows ∧ row.id = id ∧ row.binding = some b ∧
      b.chainId = W.chainId ∧ b.paymentAddress = o.recipient ∧ b.token = o.token ∧
      ∀ row' ∈ f.ledger.invoices.rows, ∀ b', row'.binding = some b' → b'.chainId = b.chainId →
        b'.paymentAddress = b.paymentAddress → row' = row := by
  obtain ⟨row, b, hrow, hb, hchain, haddr, htoken⟩ := hbound
  have hmem := Table.mem_of_find? hrow
  refine ⟨row, b, hmem, Table.key_of_find? hrow, hb, hchain, haddr, htoken, ?_⟩
  intro row' hrow' b' hb' hc ha
  exact h.bindings.alone row' hrow' row hmem b' b hb' hb (hc.trans hchain) hchain ha

/-- The range that passes the transfer records it. -/
lemma Covered.record (h : W.Covered o id f) (hsane : W.Sane f) {r : SentRange} {now : Time}
    {L : Ledger} {answer : RangeApplied} (hr : r ∈ f.requests)
    (hcursor : f.ledger.cursor W.chainId = r.range.expectedCursor)
    (hrecord : recordRange f.ledger now r.range = .ok (L, answer)) {locked : Option SentRange}
    {rowless : List SentRange} :
    W.Covered o id { f.record r L answer with locked := locked, rowless := rowless } := by
  have hsent := hsane.requests r hr
  have hstep : step f.ledger now (.applyFinalizedRange r.range) = L :=
    recordRange_eq_step hrecord (by rw [hsent.chainId]; exact hcursor)
  refine ⟨h.mined, ?_, h.watched, h.sent, fun hlt => ?_⟩
  · show W.BoundTo L id o
    rw [← hstep]
    exact h.bound.step now _
  · have hlt : o.blockNumber < W.start (L.cursor W.chainId) := hlt
    rw [recordRange_cursor hrecord, if_pos hsent.chainId.symm] at hlt
    have hend : o.blockNumber ≤ r.range.endBlock := Nat.le_of_lt_succ hlt
    by_cases hfrom : r.fromBlock ≤ o.blockNumber
    · -- the transfer is in the range
      obtain ⟨row, b, hmem, -, hb, hchain, haddr, htoken, halone⟩ := hsane.bound_row h.bound
      have hseen := recordRange_seen hrecord hmem hb (hchain.trans hsent.chainId.symm) halone
        (h.sent r hr hfrom hend) haddr.symm htoken.symm
      rw [hsent.chainId] at hseen
      exact hseen
    · -- the cursor had passed it before
      have hold := h.recorded (by rw [hcursor, ← hsent.fromBlock]; omega)
      obtain ⟨x, hx, hkey⟩ := hold
      obtain ⟨new, happend, -⟩ := recordRange_recorded hrecord
      exact ⟨x, by show x ∈ L.recorded; rw [happend]; exact List.mem_append_left _ hx, hkey⟩

lemma covered_step (h : W.Covered o id f) (hsane : W.Sane f) (hstep : W.FreshStep f f') :
    W.Covered o id f' := by
  obtain ⟨hstep, hfresh⟩ := hstep
  have hidle : ∀ p (state : PassState), state.scan? = none → W.Covered o id (f.setPass p state) := by
    intro p state hscan
    refine h.setPass p fun s hs => ?_
    rw [hscan] at hs
    cases hs
  cases hstep with
  | mine o' ho' =>
    exact ⟨List.mem_append_left _ h.mined, h.bound, h.watched, h.sent, h.recorded⟩
  | finalize n hn => exact ⟨h.mined, h.bound, h.watched, h.sent, h.recorded⟩
  | commit now op other bindings =>
    obtain ⟨hcursor, -, hkept⟩ := commit_scan (L := f.ledger) now other
    refine ⟨h.mined, h.bound.step now op, h.watched, h.sent, fun hlt => ?_⟩
    obtain ⟨x, hx, hkey⟩ := h.recorded (by rw [← hcursor]; exact hlt)
    exact ⟨x, hkept x hx, hkey⟩
  | readCursor p hp => exact hidle p _ rfl
  | readBoundary p cursor n hp final continuous => exact hidle p _ rfl
  | refreshWatchList p cursor boundary addresses hp all =>
    refine h.setPass p fun s hs _ => ?_
    obtain rfl := Option.some.inj hs
    obtain ⟨row, b, hmem, -, hb, hchain, haddr, -⟩ := hsane.bound_row h.bound
    rw [← haddr]
    exact all row hmem b hb hchain
  | fastForward p s hp first left nothing =>
    refine h.send hp fun _ hle => ?_
    have hwatched := h.watched p s (by rw [hp]; rfl) hle
    rw [nothing] at hwatched
    cases hwatched
  | window p s getLogs blockHeader observations hp left watched reads read =>
    refine h.send hp fun hge hle => ?_
    rw [W.header_number] at hle
    obtain ⟨row, b, hmem, -, hb, hchain, -, htoken, -⟩ := hsane.bound_row h.bound
    have hlisted := hsane.bindings.listed row hmem b hb hchain
    rw [htoken] at hlisted
    refine (hsane.window hp left.1 reads read o).2 ⟨h.mined, hlisted, ⟨hge, hle⟩, ?_⟩
    exact h.watched p s (by rw [hp]; rfl) (hle.trans (Indexer.window_bounds left.1).2)
  | splitWindow p s hp left large =>
    refine h.setPass p fun s' hs' => ?_
    obtain rfl := Option.some.inj hs'
    exact h.watched p s (by rw [hp]; rfl)
  | answer p s header number answer hp hanswer =>
    refine h.setPass p fun s' hs' => ?_
    rw [Indexer.scan?_resume hs']
    exact h.watched p s (by rw [hp]; rfl)
  | stop p => exact hidle p _ rfl
  | refuse r hr free differs now answer happly =>
    exact ⟨h.mined, h.bound, h.watched, h.sent, h.recorded⟩
  | lock r hr free c hc expected => exact ⟨h.mined, h.bound, h.watched, h.sent, h.recorded⟩
  | find r hr hc expected => exact ⟨h.mined, h.bound, h.watched, h.sent, h.recorded⟩
  | commitLocked r now L answer hr hrecord =>
    exact h.record hsane (hsane.locked r hr).1 (hsane.locked r hr).2 hrecord
  | commitRowless r now L answer hr free hrecord =>
    have hnone : f.ledger.cursor W.chainId = none := by
      by_contra hsome
      exact hfresh ⟨r, hr, rfl, hsome⟩
    obtain ⟨hmem, hexpected⟩ := hsane.rowless r hr
    exact h.record hsane hmem (hnone.trans hexpected.symm) hrecord
  | abortLocked => exact ⟨h.mined, h.bound, h.watched, h.sent, h.recorded⟩
  | abortRowless r => exact ⟨h.mined, h.bound, h.watched, h.sent, h.recorded⟩

/-- A covered transfer below the cursor has one row, and it is its request's. -/
lemma Covered.once (h : W.Covered o id f) (hsane : W.Sane f) {c : IndexerCursor}
    (hc : f.ledger.cursor W.chainId = some c) (hle : o.blockNumber ≤ c.block) :
    ∃ r, f.ledger.observations.rows.filter (fun r =>
        decide (r.chainId = W.chainId ∧ r.observation = o)) = [r] ∧ r.invoiceId = id := by
  obtain ⟨x, hx, hkey⟩ := h.recorded (by rw [hc]; exact Nat.lt_succ_of_le hle)
  have hchain : x.chainId = W.chainId := congrArg Prod.fst hkey
  obtain ⟨hmem, hboundx⟩ := hsane.recorded x hx hchain
  -- a log is known by its key
  have hobs : x.observation = o := by
    refine List.inj_on_of_nodup_map hsane.keys hmem h.mined ?_
    rw [← hkey, Recorded.key, hchain]
  obtain ⟨r, hr, rfl⟩ := List.mem_map.1 hx
  have hobs : r.observation = o := hobs
  have hchain : r.chainId = W.chainId := hchain
  refine ⟨r, Table.filter_eq_singleton hr (by simp [hobs, hchain]) fun r' _ hr' => ?_, ?_⟩
  · obtain ⟨hchain', hobs'⟩ := of_decide_eq_true hr'
    rw [ObservationRow.key, ObservationRow.key, hchain, hobs, hchain', hobs']
  · -- both requests are bound to the recipient
    obtain ⟨row, b, hrow, hid, hb, hbc, haddr, -, halone⟩ := hsane.bound_row h.bound
    obtain ⟨row', b', hrow', hb', hbc', haddr', -⟩ := hboundx
    have haddr' : b'.paymentAddress = r.observation.recipient := haddr'
    rw [hobs] at haddr'
    have hsame := halone row' (Table.mem_of_find? hrow') b' hb' (hbc'.trans hbc.symm)
      (haddr'.trans haddr.symm)
    have hid' : row'.id = r.invoiceId := Table.key_of_find? hrow'
    rw [← hid', hsame, hid]

end Watcher

namespace Watcher

lemma not_stale_of_committed {W : Watcher} {f f' : Fleet} (h : f'.committed = f.committed) :
    ¬ W.Stale f f' := by
  rintro ⟨r, -, hr, -⟩
  rw [h] at hr
  simp at hr

end Watcher

/-- In every run without a stale commit the ranges that commit are adjacent and end at the cursor,
the cursor never moves back, and a transfer that is mined to a bound address in the request's
token has exactly one row, the request's, once the cursor has passed it. -/
theorem indexers_cover_the_chain (W : Watcher) {finalized : ℕ} {f : Fleet}
    (h : Relation.ReflTransGen W.FreshStep (Fleet.start finalized) f) :
    (Contiguous W.config.startBlock (f.committed.map SentRange.interval) ∧
      nextOf W.config.startBlock (f.committed.map SentRange.interval) =
        W.start (f.ledger.cursor W.chainId)) ∧
    (∀ f', Relation.ReflTransGen W.FreshStep f f' → ∀ c, f.ledger.cursor W.chainId = some c →
      ∃ c', f'.ledger.cursor W.chainId = some c' ∧ c.block ≤ c'.block) ∧
    ∀ o id, W.Mines f o → W.BoundTo f.ledger id o →
      ∀ f', Relation.ReflTransGen W.FreshStep (f.mined o) f' →
        ∀ c, f'.ledger.cursor W.chainId = some c → o.blockNumber ≤ c.block →
          ∃ r, f'.ledger.observations.rows.filter (fun r =>
            decide (r.chainId = W.chainId ∧ r.observation = o)) = [r] ∧ r.invoiceId = id := by
  have hsane := Watcher.sane_run h
  refine ⟨⟨hsane.contiguous, hsane.next⟩, fun f' hrun c hc => ?_, fun o id ho hbound f' hrun c hc hle => ?_⟩
  · have hkept : W.Sane f' ∧ ∃ c', f'.ledger.cursor W.chainId = some c' ∧ c.block ≤ c'.block := by
      induction hrun with
      | refl => exact ⟨hsane, c, hc, le_rfl⟩
      | tail _ hstep ih =>
        obtain ⟨hsane', c₁, hc₁, hle₁⟩ := ih
        obtain ⟨c₂, hc₂, hle₂⟩ := Watcher.cursor_step hsane' hstep hc₁
        exact ⟨Watcher.sane_step hsane' hstep, c₂, hc₂, hle₁.trans hle₂⟩
    exact hkept.2
  · have hcovered : W.Sane f' ∧ W.Covered o id f' := by
      clear hc hle
      induction hrun with
      | refl => exact ⟨hsane.mine ho, hsane.covered_mined ho hbound⟩
      | tail _ hstep ih =>
        exact ⟨Watcher.sane_step ih.1 hstep, Watcher.covered_step ih.2 ih.1 hstep⟩
    exact hcovered.2.once hcovered.1 hc hle

/-! ### Small fleets -/

/-- Indexers of chain 1; a block's hash and timestamp are its number. -/
def sampleWatcher : Watcher where
  config := ⟨1, 70, 0, 100⟩
  tokens := [20]
  maxRanges := 10
  header := fun n => ⟨n, n, n⟩
  header_number := fun _ => rfl

/-- A provider's log of a transfer. -/
def reportTransfer (o : PaymentObservation) : TransferLog where
  address := o.token
  removed := false
  topics := some (o.sender, o.recipient)
  amount := some o.amount
  blockNumber := some o.blockNumber
  blockHash := some o.blockHash
  blockTimestamp := some o.blockTimestamp
  transactionHash := some o.transactionHash
  transactionIndex := some o.transactionIndex
  logIndex := some o.logIndex

/-- A provider that knows the transfers of a chain. -/
def transferProvider (transfers : List PaymentObservation) : GetLogs := fun tokens a b recipients =>
  .ok ((transfers.filter (fun o => decide (o.token ∈ tokens ∧ (a ≤ o.blockNumber ∧
    o.blockNumber ≤ b) ∧ o.recipient ∈ recipients))).map reportTransfer)

lemma transferProvider_complete (transfers : List PaymentObservation)
    (blockHeader : ℕ → Except ChainError BlockHeader) (finalized : ℕ) :
    (transferProvider transfers).Complete blockHeader transfers finalized := by
  have hreports : ∀ o, (reportTransfer o).Reports blockHeader o :=
    fun o => ⟨rfl, rfl, rfl, rfl, rfl, Or.inl rfl, rfl, rfl, rfl⟩
  refine ⟨fun tokens a b recipients answer _ h o ho htoken hlo hhi hrecipient => ?_,
    fun tokens a b recipients answer _ h l hl => ?_⟩
  · obtain rfl := Except.ok.inj h
    exact ⟨reportTransfer o, List.mem_map_of_mem (List.mem_filter.2
      ⟨ho, by simp [htoken, hlo, hhi, hrecipient]⟩), hreports o⟩
  · obtain rfl := Except.ok.inj h
    obtain ⟨o, ho, rfl⟩ := List.mem_map.1 hl
    exact ⟨o, (List.mem_filter.1 ho).1, hreports o⟩

/-- The sample request is issued. -/
def issuedFleet : Fleet := { Fleet.start 0 with ledger := issuedLedger }

lemma issuedFleet_bindings : sampleWatcher.Bindings issuedLedger := by
  have hrow : ∀ row ∈ issuedLedger.invoices.rows, ∀ b, row.binding = some b → b.token = 20 := by decide
  have halone : ∀ row ∈ issuedLedger.invoices.rows, ∀ row' ∈ issuedLedger.invoices.rows, row = row' := by
    decide
  refine ⟨fun row h row' h' _ _ _ _ _ _ _ => halone row h row' h', fun row h b hb _ => ?_⟩
  rw [hrow row h b hb]
  exact List.mem_singleton.2 rfl

lemma issuedFleet_reached :
    Relation.ReflTransGen sampleWatcher.FreshStep (Fleet.start 0) issuedFleet :=
  Relation.ReflTransGen.single ⟨.commit 0 (.insertIssued sampleRequest)
    (fun range h => by cases h) issuedFleet_bindings, Watcher.not_stale_of_committed rfl⟩

/-- The transfer that pays the sample request. -/
def samplePayment : PaymentObservation := sampleTransfer 3 0 0 100

/-- The range the first pass sends. -/
def firstRange : SentRange := ⟨0, 0, sampleRange none 5 [samplePayment]⟩

/-- The payment is scanned by one pass, and its range is committed. -/
lemma samplePayment_scanned : ∃ f',
    Relation.ReflTransGen sampleWatcher.FreshStep (issuedFleet.mined samplePayment) f' ∧
      f'.ledger.cursor 1 = some (sampleCursor 5) := by
  have hread : tokenTransfers (transferProvider [samplePayment]) (fun n => .ok ⟨n, n, n⟩) [20] 0 5 [40] =
      .ok [samplePayment] := by
    have hlogs : transferLogs (transferProvider [samplePayment]) [20] 0 5 [40] =
        .ok [reportTransfer samplePayment] := by
      rw [transferLogs]
      simp only [LOG_FILTER_CHUNK, List.take, List.drop, transferLogs]
      rfl
    rw [tokenTransfers, hlogs]
    rfl
  have hwatched : ∀ row ∈ issuedLedger.invoices.rows, ∀ b, row.binding = some b →
      b.paymentAddress ∈ [40] := by decide
  have hrecord : ∃ L answer, recordRange issuedLedger 1 firstRange.range = .ok (L, answer) ∧
      L.cursor 1 = some (sampleCursor 5) := ⟨_, _, rfl, by decide⟩
  obtain ⟨L, answer, hrecord, hend⟩ := hrecord
  have hpass : ∀ f state, (Fleet.setPass f 0 state).passes 0 = state :=
    fun f state => (f.passes_setPass 0 0 state).trans (if_pos rfl)
  have hfinal : sampleWatcher.FreshStep (issuedFleet.mined samplePayment)
      { (issuedFleet.mined samplePayment) with finalized := 5 } :=
    ⟨.finalize 5 (Nat.zero_le _), Watcher.not_stale_of_committed rfl⟩
  have hcursor := (Relation.ReflTransGen.single hfinal).tail
    ⟨.readCursor 0 rfl, Watcher.not_stale_of_committed rfl⟩
  have hboundary := hcursor.tail ⟨.readBoundary 0 none 5 (hpass _ _) le_rfl
    (fun c hc => by cases hc), Watcher.not_stale_of_committed rfl⟩
  have hlist := hboundary.tail ⟨.refreshWatchList 0 none ⟨5, 5, 5⟩ [40] (hpass _ _)
    (fun row hrow b hb _ => hwatched row hrow b hb), Watcher.not_stale_of_committed rfl⟩
  have hsent := hlist.tail ⟨.window 0 (sampleWatcher.scan none ⟨5, 5, 5⟩ [40])
    (transferProvider [samplePayment]) (fun n => .ok ⟨n, n, n⟩) [samplePayment] (hpass _ _)
    ⟨by decide, by decide⟩ (by decide)
    ⟨fun n header hn => (Except.ok.inj hn).symm, transferProvider_complete _ _ _⟩ hread,
    Watcher.not_stale_of_committed rfl⟩
  have hfound := hsent.tail ⟨.find firstRange (List.mem_singleton.2 rfl) rfl rfl,
    Watcher.not_stale_of_committed rfl⟩
  refine ⟨_, hfound.tail ⟨.commitRowless firstRange 1 L answer (List.mem_singleton.2 rfl) rfl hrecord,
    ?_⟩, hend⟩
  rintro ⟨r, -, -, hcursor⟩
  exact hcursor rfl

theorem indexers_cover_the_chain_samplePayment : ∃ f',
    Relation.ReflTransGen sampleWatcher.FreshStep (issuedFleet.mined samplePayment) f' ∧
      ∃ r, f'.ledger.observations.rows.filter (fun r =>
        decide (r.chainId = 1 ∧ r.observation = samplePayment)) = [r] ∧ r.invoiceId = 7 := by
  obtain ⟨f', hrun, hcursor⟩ := samplePayment_scanned
  have hbound : sampleWatcher.BoundTo issuedFleet.ledger 7 samplePayment :=
    ⟨(issuedLedger.invoices.find? 7).get (by decide), ⟨1, 10, 20, 30, 40, 0, none⟩,
      (Option.some_get _).symm, by decide, rfl, rfl, rfl⟩
  exact ⟨f', hrun, (indexers_cover_the_chain sampleWatcher issuedFleet_reached).2.2 samplePayment 7
    ⟨by decide, by decide, fun o' ho' => (by cases ho')⟩ hbound f' hrun (sampleCursor 5) hcursor
    (by decide)⟩

/-- An empty range from the start of the chain. -/
def emptyRangeTo (number block : ℕ) : SentRange := ⟨number, 0, sampleRange none block []⟩

/-- Two indexers start on a fresh database.  Both ranges begin at the first block, and the second
commit moves the cursor from block 100 back to block 90. -/
theorem first_ranges_overlap : ∃ f f', Relation.ReflTransGen sampleWatcher.Step (Fleet.start 90) f ∧
    sampleWatcher.Step f f' ∧ f.ledger.cursor 1 = some (sampleCursor 100) ∧
    f'.ledger.cursor 1 = some (sampleCursor 90) ∧
    f'.committed.map SentRange.interval = [(0, 100), (0, 90)] := by
  have hpass : ∀ f p state, (Fleet.setPass f p state).passes p = state :=
    fun f p state => (f.passes_setPass p p state).trans (if_pos rfl)
  have hnobody : ∀ row ∈ Ledger.empty.invoices.rows, ∀ b, row.binding = some b →
      b.chainId = sampleWatcher.chainId → b.paymentAddress ∈ [] := fun row hrow => by cases hrow
  have hfirst : ∃ L answer, recordRange Ledger.empty 0 (emptyRangeTo 1 100).range = .ok (L, answer) ∧
      L.cursor 1 = some (sampleCursor 100) ∧ ∃ L' answer',
        recordRange L 0 (emptyRangeTo 0 90).range = .ok (L', answer') ∧
          L'.cursor 1 = some (sampleCursor 90) := ⟨_, _, rfl, by decide, _, _, rfl, by decide⟩
  obtain ⟨L, answer, hrecord, hcursor, L', answer', hrecord', hcursor'⟩ := hfirst
  -- the first indexer sees block 90 final, and sends the whole span as an empty range
  have h₁ : Relation.ReflTransGen sampleWatcher.Step (Fleet.start 90) _ :=
    .single (.readCursor 1 rfl)
  have h₂ := h₁.tail (.readBoundary 1 none 90 (hpass _ _ _) le_rfl (fun c hc => by cases hc))
  have h₃ := h₂.tail (.refreshWatchList 1 none ⟨90, 90, 90⟩ [] (hpass _ _ _) hnobody)
  have h₄ := h₃.tail (.fastForward 1 (sampleWatcher.scan none ⟨90, 90, 90⟩ []) (hpass _ _ _) rfl
    (by decide) rfl)
  -- the second one sees block 100
  have h₅ := h₄.tail (.finalize 100 (by decide))
  have h₆ := h₅.tail (.readCursor 2 rfl)
  have h₇ := h₆.tail (.readBoundary 2 none 100 (hpass _ _ _) le_rfl (fun c hc => by cases hc))
  have h₈ := h₇.tail (.refreshWatchList 2 none ⟨100, 100, 100⟩ [] (hpass _ _ _) hnobody)
  have h₉ := h₈.tail (.fastForward 2 (sampleWatcher.scan none ⟨100, 100, 100⟩ []) (hpass _ _ _) rfl
    (by decide) rfl)
  -- both transactions find no row
  have h₁₀ := h₉.tail (.find (emptyRangeTo 0 90) (List.mem_cons_self ..) rfl rfl)
  have h₁₁ := h₁₀.tail (.find (emptyRangeTo 1 100) (List.mem_cons_of_mem _ (List.mem_cons_self ..)) rfl rfl)
  have h₁₂ := h₁₁.tail (.commitRowless (emptyRangeTo 1 100) 0 L answer
    (List.mem_cons_of_mem _ (List.mem_cons_self ..)) rfl hrecord)
  exact ⟨_, _, h₁₂, .commitRowless (emptyRangeTo 0 90) 0 L' answer' (List.mem_cons_self ..) rfl hrecord',
    hcursor, hcursor', rfl⟩

end Payday
