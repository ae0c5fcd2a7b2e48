/-
# What the ledger has recorded of the chain

The transfers the ledger holds of the request are exactly the transfers of the history up to
the cursor.  A range adds those of its blocks, and nothing is mined at or below a block that
was scanned.  `Sound` is this together with the shape of the history: in chain order, known to
the ledger's commands, and empty as long as the request has no address.
-/
import Payday.Ledger.OrderIndependence
import Payday.System.World

namespace Payday

variable {L L' : Ledger} {now : Time} {id : InvoiceId} {q : Request}

/-! ### The logs of a request -/

namespace Request

/-- A binding stays. -/
lemma binding_apply {b : Binding} (hb : q.binding = some b) {e : Event} (he : q.Enabled e) :
    (q.apply e).binding = some b :=
  Request.run_binding [e] ⟨he, trivial⟩ hb

end Request

/-- The logs recorded for a request, in order. -/
def Ledger.logs (L : Ledger) (id : InvoiceId) : List PaymentObservation :=
  (L.recorded.filter (fun x => decide (x.invoiceId = id))).map (·.observation)

lemma Ledger.logs_eq (L : Ledger) (id : InvoiceId) :
    L.logs id = (L.observationsOf id).map (·.observation) := by
  rw [Ledger.logs, Ledger.recorded, List.filter_map, List.map_map]
  rfl

lemma Ledger.logs_of_request (hq : L.request? id = some q) :
    q.transfers.map (·.observation) = L.logs id := by
  obtain ⟨row, -, rfl⟩ := Ledger.request?_eq_some.1 hq
  rw [L.logs_eq, Invoice.request, List.map_map]
  rfl

lemma Ledger.logs_append {new : List Recorded} (h : L'.recorded = L.recorded ++ new)
    (hnew : ∀ x ∈ new, x.invoiceId ≠ id) : L'.logs id = L.logs id := by
  have hnone : new.filter (fun x => decide (x.invoiceId = id)) = [] := by
    rw [List.filter_eq_nil_iff]
    intro x hx
    simpa using hnew x hx
  rw [Ledger.logs, h, List.filter_append, hnone, List.append_nil]
  rfl

/-! ### The invariant -/

namespace Scene

variable (S : Scene) {w : World}

/-- The first block that is not scanned. -/
def scannedTo (L : Ledger) : ℕ := S.firstBlock (L.cursor S.chainId)

structure Sound (w : World) : Prop where
  reachable : Reachable w.ledger
  derived : S.Derived w.ledger
  ordered : Site.Ordered w.chain
  start : ∀ tx ∈ w.chain, S.config.startBlock ≤ tx.block
  hashes : (w.chain.map Tx.hash).Nodup
  commanded : ∀ tx ∈ w.chain, ∀ j refused, tx.body = .sweep j refused →
    w.ledger.commands.find? j ≠ none
  bound : w.chain ≠ [] → ∃ q, w.ledger.request? S.id = some q ∧ q.binding.isSome
  cursor : ∀ c, w.ledger.cursor S.chainId = some c → c.block ≤ w.finalized
  /-- Every log of the chain is in its transaction's block, and that block was scanned. -/
  recorded : ∀ x ∈ w.ledger.recorded, x.chainId = S.chainId →
    x.observation.blockNumber = S.blockOf x.observation.transactionHash ∧
      x.observation.blockNumber < S.scannedTo w.ledger
  observed : w.ledger.logs S.id = S.transfersIn w.chain 0 (S.scannedTo w.ledger)

lemma Sound.start_world (finalized : ℕ) : S.Sound (Scene.start finalized) where
  reachable := ⟨[], rfl⟩
  derived := by
    refine ⟨fun row hrow => ?_, fun row b hrow => ?_⟩
    · cases hrow
    · cases hrow
  ordered := List.Pairwise.nil
  start := by simp [Scene.start]
  hashes := by simp [Scene.start]
  commanded := by simp [Scene.start]
  bound := fun h => absurd rfl h
  cursor := fun c hc => by cases hc
  recorded := fun x hx => by cases hx
  observed := rfl

variable {S}

/-- The blocks that are mined were not scanned. -/
lemma Sound.scannedTo_le (h : S.Sound w) {tx : Tx} (htx : S.Minable w tx) :
    S.scannedTo w.ledger ≤ tx.block := by
  rcases hc : w.ledger.cursor S.chainId with _ | c
  · rw [scannedTo, hc]
    exact htx.start
  · have hle := h.cursor c hc
    have hpending := htx.pending
    rw [scannedTo, hc]
    show c.block + 1 ≤ tx.block
    omega

lemma Sound.mine (h : S.Sound w) {tx : Tx} (htx : S.Minable w tx) :
    S.Sound { w with chain := w.chain ++ [tx] } where
  reachable := h.reachable
  derived := h.derived
  ordered := by
    refine List.pairwise_append.2 ⟨h.ordered, List.pairwise_singleton _ _, fun tx' htx' y hy => ?_⟩
    obtain rfl := List.mem_singleton.1 hy
    exact htx.later tx' htx'
  start := by
    intro tx' htx'
    rcases List.mem_append.1 htx' with hold | hnew
    · exact h.start tx' hold
    · obtain rfl := List.mem_singleton.1 hnew
      exact htx.start
  hashes := by
    rw [List.map_append]
    refine List.nodup_append.2 ⟨h.hashes, by simp, fun x hx y hy => ?_⟩
    obtain ⟨tx', htx', rfl⟩ := List.mem_map.1 hx
    obtain rfl : y = tx.hash := by simpa using hy
    exact htx.hash_new tx' htx'
  commanded := by
    intro tx' htx' j refused hbody
    rcases List.mem_append.1 htx' with hold | hnew
    · exact h.commanded tx' hold j refused hbody
    · obtain rfl := List.mem_singleton.1 hnew
      obtain ⟨command, hcommand, -⟩ := htx.job j refused hbody
      rw [hcommand]
      simp
  bound := fun _ => htx.bound
  cursor := h.cursor
  recorded := h.recorded
  observed := by
    refine h.observed.trans ?_
    rw [transfersIn, transfersIn, Site.ownTransfers_append, window_append_of_le]
    intro o ho
    obtain ⟨tx', htx', hmem, -⟩ := S.site.mem_ownTransfers ho
    obtain rfl := List.mem_singleton.1 htx'
    rw [(S.site.mem_transfersOf hmem).2.1]
    exact h.scannedTo_le htx

/-- A range of the chain adds the transfers of its blocks. -/
lemma Sound.logs_range (h : S.Sound w) {range : FinalizedRange} {applied : RangeApplied}
    (hchain : range.chainId = S.chainId) (hs : S.Scanned w range)
    (hcursor : w.ledger.cursor range.chainId = range.expectedCursor)
    (hrecord : recordRange w.ledger now range = .ok (L', applied)) :
    L'.logs S.id = w.ledger.logs S.id ++
      S.transfersIn w.chain (S.firstBlock range.expectedCursor) (range.endBlock + 1) := by
  by_cases hbound : ∃ row b, w.ledger.invoices.find? S.id = some row ∧ row.binding = some b
  · obtain ⟨row, b, hrow, hb⟩ := hbound
    obtain ⟨hbc, haddr, htoken, -, -⟩ := h.derived.terms row b hrow hb
    obtain ⟨fresh, c', -, hobs, -, -, hall⟩ :=
      recordRange_bound hrecord hrow hb (hbc.trans hchain.symm)
    -- the address is the request's alone, and no log of the range is recorded yet
    have hfresh : fresh = range.observations.filter (fun o =>
        decide (o.recipient = b.paymentAddress ∧ o.token = b.token)) := by
      refine hall ?_ ?_ hs.once
      · intro row' hrow' b' hb' hc ha
        have hid := h.derived.alone row' hrow' b' hb' (hc.trans hbc) (ha.trans haddr)
        exact w.ledger.invoices.eq_of_key_eq hrow' (Table.mem_of_find? hrow)
          (hid.trans (Table.key_of_find? hrow).symm)
      · intro o ho hseen
        rw [← Ledger.recorded_keys] at hseen
        obtain ⟨x, hx, hkey⟩ := List.mem_map.1 hseen
        have hxchain : x.chainId = S.chainId := (congrArg Prod.fst hkey).trans hchain
        have hhash : x.observation.transactionHash = o.transactionHash :=
          congrArg (fun k => k.2.2.1) hkey
        obtain ⟨hxblock, hxlt⟩ := h.recorded x hx hxchain
        obtain ⟨hoblock, hole, -⟩ := hs.blocks o ho
        rw [← hcursor, hchain] at hole
        rw [hxblock, hhash, ← hoblock, scannedTo] at hxlt
        omega
    rw [Ledger.logs_eq, hobs, List.map_append, ← Ledger.logs_eq, List.map_map, hfresh, haddr, htoken,
      hs.own]
    congr 1
    exact List.map_id _
  · -- without an address there is no history yet, and nothing to record
    have hempty : w.chain = [] := by
      by_contra hne
      obtain ⟨q, hq, hsome⟩ := h.bound hne
      obtain ⟨row, hrow, rfl⟩ := Ledger.request?_eq_some.1 hq
      obtain ⟨b, hb⟩ := Option.isSome_iff_exists.1 hsome
      exact hbound ⟨row, b, hrow, hb⟩
    obtain ⟨new, happend, hnew⟩ := recordRange_recorded hrecord
    rw [Ledger.logs_append happend, hempty]
    · exact (List.append_nil _).symm
    · intro x hx hid
      obtain ⟨-, -, row, b, hrow, hb, -⟩ := hnew x hx
      exact hbound ⟨row, b, hid ▸ hrow, hb⟩

/-- A range of another chain leaves the logs of the request. -/
lemma Sound.logs_other (h : S.Sound w) {range : FinalizedRange} {applied : RangeApplied}
    (hchain : range.chainId ≠ S.chainId)
    (hrecord : recordRange w.ledger now range = .ok (L', applied)) :
    L'.logs S.id = w.ledger.logs S.id := by
  obtain ⟨new, happend, hnew⟩ := recordRange_recorded hrecord
  refine Ledger.logs_append happend fun x hx hid => ?_
  obtain ⟨-, -, row, b, hrow, hb, hbc, -⟩ := hnew x hx
  exact hchain (hbc.symm.trans (h.derived.terms row b (hid ▸ hrow) hb).1)

lemma Sound.commit (h : S.Sound w) (now : Time) {op : Op} (honest : S.Honest w op)
    (derived : S.Derived (step w.ledger now op)) :
    S.Sound { w with ledger := step w.ledger now op } := by
  have hreachable : Reachable (step w.ledger now op) := reachable_step h.reachable now op
  have hcommanded : ∀ tx ∈ w.chain, ∀ j refused, tx.body = .sweep j refused →
      (step w.ledger now op).commands.find? j ≠ none := by
    intro tx htx j refused hbody
    obtain ⟨command, hcommand⟩ := Option.ne_none_iff_exists'.1 (h.commanded tx htx j refused hbody)
    rw [commands_step h.reachable.membership hcommand]
    simp
  have hbound : w.chain ≠ [] → ∃ q, (step w.ledger now op).request? S.id = some q ∧
      q.binding.isSome := by
    intro hne
    obtain ⟨q, hq, hsome⟩ := h.bound hne
    obtain ⟨b, hb⟩ := Option.isSome_iff_exists.1 hsome
    obtain ⟨henabled, hmoved⟩ := request?_step now op hq
    exact ⟨_, hmoved, by rw [Request.binding_apply hb henabled]; rfl⟩
  -- what is left is about the recorded logs and the cursor
  have hrest : (∀ c, (step w.ledger now op).cursor S.chainId = some c → c.block ≤ w.finalized) ∧
      (∀ x ∈ (step w.ledger now op).recorded, x.chainId = S.chainId →
        x.observation.blockNumber = S.blockOf x.observation.transactionHash ∧
          x.observation.blockNumber < S.scannedTo (step w.ledger now op)) ∧
      (step w.ledger now op).logs S.id =
        S.transfersIn w.chain 0 (S.scannedTo (step w.ledger now op)) := by
    rcases step_scan w.ledger now op with hsame | ⟨range, funded, expired, rfl, hcursor, hrecord⟩
    · have hc : (step w.ledger now op).cursor S.chainId = w.ledger.cursor S.chainId := by
        rw [Ledger.cursor, Ledger.cursor, hsame.indexerCursor]
      have hlogs : (step w.ledger now op).logs S.id = w.ledger.logs S.id := by
        rw [Ledger.logs, Ledger.logs, hsame.recorded]
      rw [hc, hlogs, hsame.recorded, scannedTo, hc]
      exact ⟨h.cursor, h.recorded, h.observed⟩
    · obtain ⟨new, happend, hnew⟩ := recordRange_recorded hrecord
      have hc := recordRange_cursor hrecord S.chainId
      by_cases hchain : range.chainId = S.chainId
      · have hs : S.Scanned w range := honest hchain
        rw [if_pos hchain.symm] at hc
        have hold : S.scannedTo w.ledger ≤ range.endBlock := by
          have := hs.nonempty
          rw [← hcursor, hchain] at this
          exact this
        have hto : S.scannedTo (step w.ledger now (.applyFinalizedRange range)) =
            range.endBlock + 1 := by
          rw [scannedTo, hc]
          rfl
        rw [hto, hc]
        refine ⟨fun c hcc => ?_, fun x hx hxc => ?_, ?_⟩
        · obtain rfl := Option.some.inj hcc
          exact hs.finalized
        · rw [happend] at hx
          rcases List.mem_append.1 hx with hx | hx
          · obtain ⟨hblock, hlt⟩ := h.recorded x hx hxc
            exact ⟨hblock, by omega⟩
          · obtain ⟨hblock, -, hle⟩ := hs.blocks x.observation (hnew x hx).2.1
            exact ⟨hblock, by omega⟩
        · rw [h.logs_range hchain hs hcursor hrecord, h.observed, ← hcursor, hchain]
          exact (window_adjacent (Nat.zero_le _) (hold.trans (Nat.le_succ _))
            (S.site.ownTransfers_pairwise h.ordered)).symm
      · rw [if_neg (Ne.symm hchain)] at hc
        rw [h.logs_other hchain hrecord, scannedTo, hc]
        refine ⟨h.cursor, fun x hx hxc => ?_, h.observed⟩
        rw [happend] at hx
        rcases List.mem_append.1 hx with hx | hx
        · exact h.recorded x hx hxc
        · exact absurd ((hnew x hx).1.symm.trans hxc) hchain
  exact ⟨hreachable, derived, h.ordered, h.start, h.hashes, hcommanded, hbound, hrest.1, hrest.2.1,
    hrest.2.2⟩

lemma sound_step {w' : World} (h : S.Sound w) (hstep : S.Step w w') : S.Sound w' := by
  cases hstep with
  | mine tx htx => exact h.mine htx
  | finalize n hn =>
    exact ⟨h.reachable, h.derived, h.ordered, h.start, h.hashes, h.commanded, h.bound,
      fun c hc => (h.cursor c hc).trans hn, h.recorded, h.observed⟩
  | commit now op honest derived => exact h.commit now honest derived

lemma Reaches.sound (h : S.Reaches w) : S.Sound w := by
  obtain ⟨finalized, hrun⟩ := h
  induction hrun with
  | refl => exact Sound.start_world S finalized
  | tail _ hstep ih => exact sound_step ih hstep

end Scene

end Payday
