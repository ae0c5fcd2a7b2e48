/-
# Writes a request does not notice

Attention flags, mails, verification, cancellation and everything about Relay leave the
life cycle of a request where it was: these lemmas say so, for one write each.
-/
import Payday.Ledger.Lifecycle
import Payday.Ledger.RelayIntents

namespace Payday

lemma Ledger.request?_eq_some {L : Ledger} {id : InvoiceId} {q : Request} :
    L.request? id = some q ↔
      ∃ row, L.invoices.find? id = some row ∧ row.request (L.observationsOf id) = q := by
  simp [Ledger.request?]

/-- A transaction that writes only side columns and Relay attributions leaves the request
alone. -/
lemma request?_frame {L L' : Ledger} {id : InvoiceId} (f : Invoice → Invoice)
    (hfind : L'.invoices.find? id = (L.invoices.find? id).map f)
    (hf : ∀ row rows, (f row).request rows = row.request rows)
    (hobs : (L'.observationsOf id).map (·.transfer) = (L.observationsOf id).map (·.transfer)) :
    L'.request? id = L.request? id := by
  have hrows : ∀ row : Invoice,
      row.request (L'.observationsOf id) = row.request (L.observationsOf id) := by
    intro row
    simp only [Invoice.request, hobs]
  rw [Ledger.request?, Ledger.request?, hfind, Option.map_map]
  congr 1
  funext row
  rw [Function.comp_apply, hf, hrows]

lemma request?_congr {L L' : Ledger} (id : InvoiceId) (hinv : L'.invoices = L.invoices)
    (hobs : L'.observations = L.observations) : L'.request? id = L.request? id := by
  unfold Ledger.request? Ledger.observationsOf
  rw [hinv, hobs]

/-- An update of some observations that keeps their owner. -/
lemma observationsOf_updateWhere {L L' : Ledger} {p : ObservationRow → Bool}
    {f : ObservationRow → ObservationRow}
    (h : L'.observations.rows = L.observations.rows.map (fun r => if p r then f r else r))
    (hid : ∀ r, (f r).invoiceId = r.invoiceId) (id : InvoiceId) :
    L'.observationsOf id = (L.observationsOf id).map (fun r => if p r then f r else r) := by
  rw [Ledger.observationsOf, Ledger.observationsOf, h, List.filter_map]
  congr 1
  refine List.filter_congr fun r _ => ?_
  simp only [Function.comp_apply]
  split <;> simp [hid]

/-- An update of Relay columns. -/
lemma transfers_updateWhere {L L' : Ledger} {p : ObservationRow → Bool}
    {f : ObservationRow → ObservationRow}
    (h : L'.observations.rows = L.observations.rows.map (fun r => if p r then f r else r))
    (hid : ∀ r, (f r).invoiceId = r.invoiceId) (ht : ∀ r, (f r).transfer = r.transfer)
    (id : InvoiceId) :
    (L'.observationsOf id).map (·.transfer) = (L.observationsOf id).map (·.transfer) := by
  rw [observationsOf_updateWhere h hid, List.map_map]
  refine List.map_congr_left fun r _ => ?_
  simp only [Function.comp_apply]
  split
  · exact ht r
  · rfl

/-- An update that writes only side columns. -/
lemma request?_side {L L' : Ledger} {p : Invoice → Bool} {f : Invoice → Invoice}
    (h : L'.invoices.rows = L.invoices.rows.map (fun r => if p r then f r else r))
    (hf : ∀ row rows, (f row).request rows = row.request rows) (id : InvoiceId)
    (hobs : (L'.observationsOf id).map (·.transfer) = (L.observationsOf id).map (·.transfer)) :
    L'.request? id = L.request? id := by
  have hrequest : ∀ row rows, (if p row then f row else row).request rows = row.request rows := by
    intro row rows
    split
    · exact hf row rows
    · rfl
  refine request?_frame (fun row => if p row then f row else row) ?_ hrequest hobs
  exact Table.find?_of_rows_map h (fun row => congrArg Request.id (hrequest row [])) id

lemma flagAttentionIn_request (L : Ledger) (now : Time) (id id' : InvoiceId) (reason : String) :
    (flagAttentionIn L now id' reason).request? id = L.request? id := by
  unfold flagAttentionIn
  split
  · rfl
  · apply request?_side
    · rfl
    · exact fun _ _ => rfl
    · rfl

lemma unparkUnlessPending_request (L : Ledger) (now : Time) (id id' : InvoiceId) :
    (unparkUnlessPending L now id').request? id = L.request? id := by
  unfold unparkUnlessPending
  split
  · rfl
  · simp only
    split
    · rfl
    · apply request?_side
      · rfl
      · exact fun _ _ => rfl
      · apply transfers_updateWhere
        · rfl
        · exact fun _ => rfl
        · exact fun _ => rfl

lemma resolveFilled_request (L : Ledger) (now : Time) (id : InvoiceId) (intentId : IntentId)
    (fills : List Hash) (origin : Hash) (relayStatus : String) :
    (resolveFilled L now intentId fills origin relayStatus).request? id = L.request? id := by
  unfold resolveFilled
  split
  · rfl
  · split
    · rfl
    · simp only
      rw [unparkUnlessPending_request]
      split
      · exact request?_congr id rfl rfl
      · refine request?_frame (fun row => row) (by simp) (fun _ _ => rfl) ?_
        apply transfers_updateWhere
        · rfl
        · exact fun _ => rfl
        · exact fun _ => rfl

lemma resolveFailed_request (L : Ledger) (now : Time) (id : InvoiceId) (intentId : IntentId)
    (failure : RelayFailure) (relayStatus : String) :
    (resolveFailed L now intentId failure relayStatus).request? id = L.request? id := by
  unfold resolveFailed
  split
  · rfl
  · rw [unparkUnlessPending_request]
    exact request?_congr id rfl rfl

end Payday
