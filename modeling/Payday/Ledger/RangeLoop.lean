/-
# What a finalized range does to one request

The loop of `recordObservations` runs over the observations of many requests at once.  Seen
from one request it is simple: nothing the loop consults about a request changes while it
runs, so the transfers recorded for it are a sublist `fresh` of the range, each classified
against the row as it was loaded, and the request's counters are those of `countAll fresh`.
`recordRange_bound` says so for the whole transaction, and `recordRange_request` that the
request moves by the range event of its life cycle.
-/
import Payday.Ledger.Lifecycle

namespace Payday

namespace InvoiceCredit

/-- Count a list of newly recorded transfers, zero amounts left out. -/
def countAll (credit : InvoiceCredit) : List PaymentObservation → Except SqlxError InvoiceCredit
  | [] => .ok credit
  | o :: rest =>
    if o.amount = 0 then credit.countAll rest
    else match credit.count o with
      | .error e => .error e
      | .ok counted => counted.countAll rest

/-- The part of a credit that counting leaves alone. -/
def terms (credit : InvoiceCredit) : InvoiceCredit :=
  { credit with
    received := 0
    uncollected := 0
    touched := false
    firstForeignTimestamp := none
    crossing := none }

/-- The classification of a transfer reads only the terms. -/
lemma observationRow_congr {c c' : InvoiceCredit} (h : c'.terms = c.terms) (chainId : ChainId)
    (now : Time) : c'.observationRow chainId now = c.observationRow chainId now := by
  have e : ∀ d : InvoiceCredit,
      d.observationRow chainId now = d.terms.observationRow chainId now := fun _ => rfl
  rw [e, e c, h]

lemma id_of_terms {c c' : InvoiceCredit} (h : c'.terms = c.terms) : c'.id = c.id :=
  congrArg (fun d => d.id) h

lemma paymentAddress_of_terms {c c' : InvoiceCredit} (h : c'.terms = c.terms) :
    c'.paymentAddress = c.paymentAddress :=
  congrArg (fun d => d.paymentAddress) h

lemma token_of_terms {c c' : InvoiceCredit} (h : c'.terms = c.terms) : c'.token = c.token :=
  congrArg (fun d => d.token) h

lemma status_of_terms {c c' : InvoiceCredit} (h : c'.terms = c.terms) : c'.status = c.status :=
  congrArg (fun d => d.status) h

lemma required_of_terms {c c' : InvoiceCredit} (h : c'.terms = c.terms) :
    c'.required = c.required :=
  congrArg (fun d => d.required) h

/-- What counting one nonzero transfer does. -/
lemma count_eq_ok {c c' : InvoiceCredit} {o : PaymentObservation} (h : c.count o = .ok c') :
    c'.terms = c.terms ∧ c'.touched = true ∧
      c'.uncollected = c.uncollected + (if (c.collectedAt o).isNone then 1 else 0) ∧
      c'.received = c.received + (if (c.disposition o).kind = .credited then o.amount else 0) ∧
      c'.crossing = (if (c.disposition o).kind = .credited ∧ c.status = .created ∧
          c.crossing = none ∧ c.required ≤ c'.received
        then some ⟨c'.received, o.blockNumber, o.blockHash, o.blockTimestamp⟩
        else c.crossing) := by
  unfold count at h
  split at h
  · cases h
  · split at h
    · rename_i hkind
      obtain rfl := Except.ok.inj h
      exact ⟨rfl, rfl, rfl, by simp [note, hkind], by simp [note, hkind]⟩
    · split at h
      · cases h
      · rename_i hkind _
        obtain rfl := Except.ok.inj h
        have hk : (c.disposition o).kind = .credited := not_not.1 hkind
        exact ⟨rfl, rfl, rfl, by simp [note, add, hk], by simp [note, add, hk]⟩

lemma countAll_terms {c c' : InvoiceCredit} {fresh : List PaymentObservation}
    (h : c.countAll fresh = .ok c') : c'.terms = c.terms := by
  induction fresh generalizing c with
  | nil => rw [← Except.ok.inj h]
  | cons o rest ih =>
    unfold countAll at h
    split at h
    · exact ih h
    · split at h
      · cases h
      · rename_i counted hcount
        rw [ih h, (count_eq_ok hcount).1]

/-- Counting goes transfer by transfer. -/
lemma countAll_cons {c c' : InvoiceCredit} {o : PaymentObservation}
    {rest : List PaymentObservation} (h : c.countAll [o] = .ok c') :
    c.countAll (o :: rest) = c'.countAll rest := by
  simp only [countAll] at h ⊢
  split at h
  · rename_i hzero
    rw [if_pos hzero, ← Except.ok.inj h]
  · rename_i hzero
    rw [if_neg hzero]
    split at h
    · cases h
    · rename_i counted hcount
      rw [← Except.ok.inj h]

end InvoiceCredit

/-! ### The loop -/

/-- Different addresses of the map belong to different requests. -/
def Credits.Distinct (credits : Credits) : Prop :=
  ∀ a b c d, credits.find? a = some c → credits.find? b = some d → c.id = d.id → a = b

/-- What one iteration does: it skips a log that is nobody's, of another token or already
recorded, or it records the log and counts it. -/
lemma recordObservation_cases {chainId : ChainId} {now : Time} {st st' : Credits × Observations}
    {o : PaymentObservation} (h : recordObservation chainId now st o = .ok st') :
    (st' = st ∧ ∀ c, st.1.find? o.recipient = some c → c.token = o.token →
        observationKey chainId o ∈ st.2.rows.map ObservationRow.key) ∨
      (∃ c c', st.1.find? o.recipient = some c ∧ c.token = o.token ∧
        observationKey chainId o ∉ st.2.rows.map ObservationRow.key ∧
        st'.2.rows = st.2.rows ++ [c.observationRow chainId now o] ∧
        c.countAll [o] = .ok c' ∧
        ∀ a, st'.1.find? a = if a = o.recipient then some c' else st.1.find? a) := by
  unfold recordObservation at h
  split at h
  · rename_i hnone
    refine Or.inl ⟨(Except.ok.inj h).symm, fun c hc => ?_⟩
    rw [hnone] at hc
    cases hc
  · rename_i c hc
    split at h
    · rename_i htoken
      refine Or.inl ⟨(Except.ok.inj h).symm, fun d hd hdt => ?_⟩
      rw [hc] at hd
      obtain rfl := Option.some.inj hd
      exact absurd hdt htoken
    · rename_i htoken
      have htoken : c.token = o.token := not_not.1 htoken
      split at h
      · rename_i hins
        refine Or.inl ⟨(Except.ok.inj h).symm, fun _ _ _ => ?_⟩
        exact Table.insert?_eq_none_iff.1 hins
      · rename_i observations hins
        obtain ⟨hnew, hrows⟩ := Table.insert?_eq_some_iff.1 hins
        split at h
        · rename_i hzero
          obtain rfl := (Except.ok.inj h).symm
          refine Or.inr ⟨c, c, hc, htoken, hnew, hrows, by simp [InvoiceCredit.countAll, hzero], ?_⟩
          intro a
          split
          · rename_i ha
            rw [ha, hc]
          · rfl
        · rename_i hzero
          split at h
          · cases h
          · rename_i counted hcount
            obtain rfl := (Except.ok.inj h).symm
            refine Or.inr ⟨c, counted, hc, htoken, hnew, hrows, ?_, ?_⟩
            · simp [InvoiceCredit.countAll, hzero, hcount]
            · intro a
              have hkey : counted.paymentAddress = o.recipient := by
                rw [InvoiceCredit.paymentAddress_of_terms (InvoiceCredit.count_eq_ok hcount).1]
                exact Table.key_of_find? hc
              rw [Table.find?_upsert, hkey]

/-- Recording keeps the map's requests distinct. -/
lemma Credits.Distinct.step {chainId : ChainId} {now : Time} {st st' : Credits × Observations}
    {o : PaymentObservation} (h : recordObservation chainId now st o = .ok st')
    (hd : Credits.Distinct st.1) : Credits.Distinct st'.1 := by
  rcases recordObservation_cases h with ⟨rfl, -⟩ | ⟨c, c', hc, -, -, -, hcount, hfind⟩
  · exact hd
  · have hid : c'.id = c.id := InvoiceCredit.id_of_terms (InvoiceCredit.countAll_terms hcount)
    -- every entry after the step has the id of the entry that was there before
    have hback : ∀ a d, st'.1.find? a = some d → ∃ d₀, st.1.find? a = some d₀ ∧ d₀.id = d.id := by
      intro a d hda
      rw [hfind] at hda
      split at hda
      · rename_i ha
        obtain rfl := Option.some.inj hda
        exact ⟨c, by rw [ha, hc], hid.symm⟩
      · exact ⟨d, hda, rfl⟩
    intro a b d e hda heb hde
    obtain ⟨d₀, hd₀, hdid⟩ := hback a d hda
    obtain ⟨e₀, he₀, heid⟩ := hback b e heb
    exact hd a b d₀ e₀ hd₀ he₀ (by rw [hdid, heid, hde])

/-- The own transfers of a credit in a list of observations. -/
def InvoiceCredit.owns (credit : InvoiceCredit) (o : PaymentObservation) : Bool :=
  decide (o.recipient = credit.paymentAddress ∧ o.token = credit.token)

lemma InvoiceCredit.owns_of_terms {c c' : InvoiceCredit} (h : c'.terms = c.terms) :
    c'.owns = c.owns := by
  funext o
  rw [owns, owns, paymentAddress_of_terms h, token_of_terms h]

/-- The loop, seen from one request. -/
lemma recordObservations_credit {chainId : ChainId} {now : Time} {obs : List PaymentObservation}
    {st st' : Credits × Observations} (h : recordObservations chainId now obs st = .ok st')
    (hd : Credits.Distinct st.1) {a : Address} {c : InvoiceCredit} (hc : st.1.find? a = some c) :
    ∃ fresh c', st'.1.find? a = some c' ∧ c.countAll fresh = .ok c' ∧
      st'.2.rows.filter (fun r => r.invoiceId = c.id) =
        st.2.rows.filter (fun r => r.invoiceId = c.id) ++ fresh.map (c.observationRow chainId now) ∧
      (∀ o ∈ fresh, o ∈ obs ∧ c.owns o) ∧
      ((∀ o ∈ obs, observationKey chainId o ∉ st.2.rows.map ObservationRow.key) →
        (obs.map (observationKey chainId)).Nodup → fresh = obs.filter c.owns) := by
  induction obs generalizing st c with
  | nil =>
    obtain rfl := Except.ok.inj h
    exact ⟨[], c, hc, rfl, by simp, by simp, by simp⟩
  | cons o rest ih =>
    unfold recordObservations at h
    split at h
    · cases h
    · rename_i st₁ hstep
      have hd₁ := hd.step hstep
      have haddr : c.paymentAddress = a := Table.key_of_find? hc
      rcases recordObservation_cases hstep with
        ⟨rfl, hskip⟩ | ⟨d, d', hfd, htoken, hkey, hrows, hcount, hfind⟩
      · -- the log was skipped
        obtain ⟨fresh, c', hc', hcnt, hfilter, hmem, hall⟩ := ih h hd hc
        refine ⟨fresh, c', hc', hcnt, hfilter, fun p hp => ?_, fun hnew hnodup => ?_⟩
        · exact ⟨List.mem_cons_of_mem _ (hmem p hp).1, (hmem p hp).2⟩
        · have hno : ¬ c.owns o = true := by
            intro hown
            obtain ⟨hr, ht⟩ := of_decide_eq_true hown
            refine hnew o (by simp) (hskip c ?_ ht.symm)
            rw [hr, haddr, hc]
          rw [List.filter_cons_of_neg hno]
          rw [List.map_cons, List.nodup_cons] at hnodup
          exact hall (fun p hp => hnew p (by simp [hp])) hnodup.2
      · have hterms := InvoiceCredit.countAll_terms hcount
        -- the recorded row is the only new one, and the rest of the range is new to it
        have hnew₁ : (∀ p ∈ o :: rest, observationKey chainId p ∉ st.2.rows.map ObservationRow.key) →
            ((o :: rest).map (observationKey chainId)).Nodup →
            ∀ p ∈ rest, observationKey chainId p ∉ st₁.2.rows.map ObservationRow.key := by
          intro hnew hnodup p hp
          rw [hrows, List.map_append, List.mem_append, not_or]
          refine ⟨hnew p (by simp [hp]), ?_⟩
          intro hin
          rw [List.map_cons, List.nodup_cons] at hnodup
          simp only [List.map_cons, List.map_nil, List.mem_singleton] at hin
          exact hnodup.1 (List.mem_map.2 ⟨p, hp, hin⟩)
        by_cases ho : o.recipient = a
        · -- the log is this request's
          have hdc : d = c := by
            rw [ho, hc] at hfd
            exact (Option.some.inj hfd).symm
          subst hdc
          have hc₁ : st₁.1.find? a = some d' := by rw [hfind, if_pos ho.symm]
          obtain ⟨fresh, c', hc', hcnt, hfilter, hmem, hall⟩ := ih h hd₁ hc₁
          have hown : d.owns o = true := decide_eq_true ⟨by rw [ho, haddr], htoken.symm⟩
          refine ⟨o :: fresh, c', hc', ?_, ?_, ?_, ?_⟩
          · rw [InvoiceCredit.countAll_cons hcount]
            exact hcnt
          · rw [InvoiceCredit.id_of_terms hterms, InvoiceCredit.observationRow_congr hterms] at hfilter
            rw [hfilter, hrows, List.filter_append]
            simp [InvoiceCredit.observationRow]
          · intro p hp
            rcases List.mem_cons.1 hp with rfl | hp
            · exact ⟨by simp, hown⟩
            · have := hmem p hp
              rw [InvoiceCredit.owns_of_terms hterms] at this
              exact ⟨List.mem_cons_of_mem _ this.1, this.2⟩
          · intro hnew hnodup
            have hfresh := hall (hnew₁ hnew hnodup) (List.nodup_cons.1 (by simpa using hnodup)).2
            rw [List.filter_cons_of_pos hown, hfresh, InvoiceCredit.owns_of_terms hterms]
        · -- the log is another request's
          have hc₁ : st₁.1.find? a = some c := by rw [hfind, if_neg (Ne.symm ho), hc]
          have hid : d.id ≠ c.id := fun e => ho (hd _ _ _ _ hfd hc e)
          obtain ⟨fresh, c', hc', hcnt, hfilter, hmem, hall⟩ := ih h hd₁ hc₁
          refine ⟨fresh, c', hc', hcnt, ?_, ?_, ?_⟩
          · rw [hfilter, hrows, List.filter_append]
            have : ([d.observationRow chainId now o].filter fun r => r.invoiceId = c.id) = [] := by
              simpa [InvoiceCredit.observationRow] using hid
            rw [this, List.append_nil]
          · exact fun p hp => ⟨List.mem_cons_of_mem _ (hmem p hp).1, (hmem p hp).2⟩
          · intro hnew hnodup
            have hno : ¬ c.owns o = true := by
              intro hown
              exact ho ((of_decide_eq_true hown).1.trans haddr)
            rw [List.filter_cons_of_neg hno]
            exact hall (hnew₁ hnew hnodup) (List.nodup_cons.1 (by simpa using hnodup)).2

/-- The loop leaves the observations of requests without a credit alone. -/
lemma recordObservations_other {chainId : ChainId} {now : Time} {obs : List PaymentObservation}
    {st st' : Credits × Observations} (h : recordObservations chainId now obs st = .ok st')
    {id : InvoiceId} (hid : ∀ a c, st.1.find? a = some c → c.id ≠ id) :
    st'.2.rows.filter (fun r => r.invoiceId = id) = st.2.rows.filter (fun r => r.invoiceId = id) ∧
      ∀ a c, st'.1.find? a = some c → c.id ≠ id := by
  induction obs generalizing st with
  | nil =>
    obtain rfl := Except.ok.inj h
    exact ⟨rfl, hid⟩
  | cons o rest ih =>
    unfold recordObservations at h
    split at h
    · cases h
    · rename_i st₁ hstep
      rcases recordObservation_cases hstep with
        ⟨rfl, -⟩ | ⟨d, d', hfd, -, -, hrows, hcount, hfind⟩
      · exact ih h hid
      · have hne := hid _ _ hfd
        have hid₁ : ∀ a c, st₁.1.find? a = some c → c.id ≠ id := by
          intro a c hc
          rw [hfind] at hc
          split at hc
          · obtain rfl := Option.some.inj hc
            rw [InvoiceCredit.id_of_terms (InvoiceCredit.countAll_terms hcount)]
            exact hne
          · exact hid a c hc
        obtain ⟨hfilter, hout⟩ := ih h hid₁
        refine ⟨?_, hout⟩
        rw [hfilter, hrows, List.filter_append]
        have : ([d.observationRow chainId now o].filter fun r => r.invoiceId = id) = [] := by
          simpa [InvoiceCredit.observationRow] using hne
        rw [this, List.append_nil]

/-! ### Loading and writing back -/

/-- Every loaded credit is the credit of a bound row of the chain. -/
lemma find?_foldl_upsert {rows : List InvoiceCredit} {t : Credits} {a : Address}
    {c : InvoiceCredit} (h : (rows.foldl Table.upsert t).find? a = some c) :
    (c ∈ rows ∧ c.paymentAddress = a) ∨ t.find? a = some c := by
  induction rows generalizing t with
  | nil => exact Or.inr h
  | cons d rest ih =>
    rcases ih h with ⟨hmem, hk⟩ | ht
    · exact Or.inl ⟨List.mem_cons_of_mem _ hmem, hk⟩
    · rw [Table.find?_upsert] at ht
      split at ht
      · rename_i ha
        obtain rfl := Option.some.inj ht
        exact Or.inl ⟨by simp, ha.symm⟩
      · exact Or.inr ht

/-- A credit is found at its address when no other credit has that address. -/
lemma find?_foldl_upsert_of_mem {rows : List InvoiceCredit} {t : Credits} {c : InvoiceCredit}
    (hmem : c ∈ rows ∨ t.find? c.paymentAddress = some c)
    (huniq : ∀ d ∈ rows, d.paymentAddress = c.paymentAddress → d = c) :
    (rows.foldl Table.upsert t).find? c.paymentAddress = some c := by
  induction rows generalizing t with
  | nil =>
    rcases hmem with h | h
    · simp at h
    · exact h
  | cons d rest ih =>
    refine ih ?_ (fun e he => huniq e (by simp [he]))
    by_cases hd : d.paymentAddress = c.paymentAddress
    · right
      rw [Table.find?_upsert, if_pos hd.symm, huniq d (by simp) hd]
    · rcases hmem with h | h
      · rcases List.mem_cons.1 h with rfl | h
        · exact absurd rfl hd
        · exact Or.inl h
      · right
        rw [Table.find?_upsert, if_neg (Ne.symm hd), h]

lemma rangeCredit_eq_some {L : Ledger} {range : FinalizedRange} {row : Invoice}
    {c : InvoiceCredit} (h : rangeCredit L range row = some c) :
    ∃ binding, row.binding = some binding ∧ binding.chainId = range.chainId ∧
      binding.paymentAddress ∈ range.observations.map (·.recipient) ∧
      c = .ofRow (range.loads L.relayIntents.rows) row binding := by
  unfold rangeCredit at h
  split at h
  · cases h
  · rename_i binding hb
    split at h
    · rename_i hcond
      exact ⟨binding, hb, hcond.1, hcond.2, (Option.some.inj h).symm⟩
    · cases h

/-- A loaded credit and the row it was loaded from. -/
lemma loadCredits_find? {L : Ledger} {range : FinalizedRange} {a : Address} {c : InvoiceCredit}
    (h : (loadCredits L range).find? a = some c) :
    ∃ row binding, row ∈ L.invoices.rows ∧ row.binding = some binding ∧
      binding.chainId = range.chainId ∧ binding.paymentAddress = a ∧
      c = .ofRow (range.loads L.relayIntents.rows) row binding := by
  rcases find?_foldl_upsert h with ⟨hmem, hk⟩ | hempty
  · obtain ⟨row, hrow, hcredit⟩ := List.mem_filterMap.1 hmem
    obtain ⟨binding, hb, hchain, -, rfl⟩ := rangeCredit_eq_some hcredit
    exact ⟨row, binding, hrow, hb, hchain, hk, rfl⟩
  · simp at hempty

/-- The credit of a request that has its address alone is loaded when the address occurs. -/
lemma loadCredits_bound {L : Ledger} {range : FinalizedRange} {row : Invoice} {b : Binding}
    (hmem : row ∈ L.invoices.rows) (hb : row.binding = some b) (hchain : b.chainId = range.chainId)
    (huniq : ∀ row' ∈ L.invoices.rows, ∀ b', row'.binding = some b' → b'.chainId = b.chainId →
      b'.paymentAddress = b.paymentAddress → row' = row)
    {o : PaymentObservation} (ho : o ∈ range.observations) (hrecipient : o.recipient = b.paymentAddress) :
    (loadCredits L range).find? b.paymentAddress = some (.ofRow (range.loads L.relayIntents.rows) row b) := by
  have hcredit : rangeCredit L range row = some (.ofRow (range.loads L.relayIntents.rows) row b) := by
    unfold rangeCredit
    rw [hb]
    exact if_pos ⟨hchain, List.mem_map.2 ⟨o, ho, hrecipient⟩⟩
  refine find?_foldl_upsert_of_mem
    (Or.inl (List.mem_filterMap.2 ⟨row, hmem, hcredit⟩)) (fun d hd hda => ?_)
  obtain ⟨row', hrow', hd'⟩ := List.mem_filterMap.1 hd
  obtain ⟨b', hb', hchain', -, rfl⟩ := rangeCredit_eq_some hd'
  obtain rfl := huniq row' hrow' b' hb' (hchain'.trans hchain.symm) hda
  rw [Option.some.inj (hb.symm.trans hb')]

lemma loadCredits_distinct (L : Ledger) (range : FinalizedRange) :
    (loadCredits L range).Distinct := by
  intro a b c d hc hd hid
  obtain ⟨row, binding, hrow, hb, -, ha, rfl⟩ := loadCredits_find? hc
  obtain ⟨row', binding', hrow', hb', -, ha', rfl⟩ := loadCredits_find? hd
  have hrows : row = row' := L.invoices.eq_of_key_eq hrow hrow' hid
  subst hrows
  rw [← ha, ← ha', Option.some.inj (hb.symm.trans hb')]

/-- The write-back touches the row of a credit once. -/
lemma writeCredits_find? (now : Time) (credits : List InvoiceCredit) {invoices : Table Invoice.id}
    {id : InvoiceId} {row : Invoice} (hrow : invoices.find? id = some row) :
    ((∀ c ∈ credits, c.id ≠ id) → (writeCredits now credits invoices).find? id = some row) ∧
      (∀ c, c ∈ credits → c.id = id → (credits.map (·.id)).Nodup →
        (writeCredits now credits invoices).find? id =
          some (if c.writesTo row then c.write now row else row)) := by
  have hid : row.id = id := Table.key_of_find? hrow
  induction credits generalizing invoices row with
  | nil => exact ⟨fun _ => hrow, by simp⟩
  | cons d rest ih =>
    have hstep : (invoices.updateWhere d.writesTo (d.write now) (d.write_id now)).find? id =
        some (if d.writesTo row then d.write now row else row) := by
      rw [Table.find?_updateWhere, hrow, Option.map_some]
    have hid' : (if d.writesTo row then d.write now row else row).id = id := by
      split
      · rw [d.write_id, hid]
      · exact hid
    obtain ⟨hnone, hsome⟩ := ih hstep hid'
    have hskip : d.id ≠ id → d.writesTo row = false := by
      intro hne
      simp [InvoiceCredit.writesTo, hid, Ne.symm hne]
    constructor
    · intro hno
      have := hnone (fun c hc => hno c (by simp [hc]))
      simp only [hskip (hno d (by simp)), Bool.false_eq_true, if_false] at this
      exact this
    · intro c hc hcid hnodup
      rw [List.map_cons, List.nodup_cons] at hnodup
      rcases List.mem_cons.1 hc with rfl | hc
      · refine hnone (fun e he heq => hnodup.1 ?_)
        rw [hcid, ← heq]
        exact List.mem_map.2 ⟨e, he, rfl⟩
      · have hne : d.id ≠ id := by
          intro heq
          refine hnodup.1 ?_
          rw [heq, ← hcid]
          exact List.mem_map.2 ⟨c, hc, rfl⟩
        have := hsome c hc hcid hnodup.2
        simp only [hskip hne, Bool.false_eq_true, if_false] at this
        exact this

lemma Credits.Distinct.nodup_ids {credits : Credits} (h : credits.Distinct) :
    (credits.rows.map (·.id)).Nodup := by
  rw [List.nodup_map_iff_inj_on (List.Nodup.of_map _ credits.nodup)]
  intro c hc d hd hid
  have ha := h _ _ c d (Table.find?_of_mem hc) (Table.find?_of_mem hd) hid
  exact credits.eq_of_key_eq hc hd ha

/-! ### The transaction, seen from one request -/

/-- The expiry statement on one row. -/
def Invoice.expireAt (now : Time) (chainId : ChainId) (endBlockTimestamp : ℕ) (row : Invoice) :
    Invoice :=
  if expires chainId endBlockTimestamp row then row.expire now endBlockTimestamp else row

/-- The write-back statement of a credit on one row. -/
def InvoiceCredit.writeBack (credit : InvoiceCredit) (now : Time) (row : Invoice) : Invoice :=
  if credit.writesTo row then credit.write now row else row

/-- A recorded range writes the observations, the rows and the cursor. -/
lemma recordRange_eq_ok {L L' : Ledger} {now : Time} {range : FinalizedRange}
    {applied : RangeApplied} (h : recordRange L now range = .ok (L', applied)) :
    ∃ credits, recordObservations range.chainId now range.observations
        (loadCredits L range, L.observations) = .ok (credits, L'.observations) ∧
      (∀ id, L'.invoices.find? id = ((writeCredits now credits.rows L.invoices).find? id).map
        (Invoice.expireAt now range.chainId range.endBlockTimestamp)) ∧
      L' = { L with
        observations := L'.observations
        invoices := L'.invoices
        indexerCursor := L.indexerCursor.upsert (range.chainId, range.cursor) } := by
  unfold recordRange at h
  split at h
  · cases h
  · rename_i credits observations hloop
    obtain rfl := congrArg Prod.fst (Except.ok.inj h)
    refine ⟨credits, hloop, fun id => ?_, rfl⟩
    exact Table.find?_updateWhere _ _ (Invoice.expire now range.endBlockTimestamp) (fun _ => rfl) id

/-- The loaded credits stay distinct while the range is recorded. -/
lemma recordObservations_distinct {chainId : ChainId} {now : Time} {obs : List PaymentObservation}
    {st st' : Credits × Observations} (h : recordObservations chainId now obs st = .ok st')
    (hd : Credits.Distinct st.1) : Credits.Distinct st'.1 := by
  induction obs generalizing st with
  | nil =>
    obtain rfl := Except.ok.inj h
    exact hd
  | cons o rest ih =>
    unfold recordObservations at h
    split at h
    · cases h
    · rename_i st₁ hstep
      exact ih h (hd.step hstep)

/-- A row whose request has no loaded credit is only subject to expiry. -/
lemma recordRange_unloaded {L L' : Ledger} {now : Time} {range : FinalizedRange}
    {applied : RangeApplied} (h : recordRange L now range = .ok (L', applied)) {id : InvoiceId}
    {row : Invoice} (hrow : L.invoices.find? id = some row)
    (hun : ∀ a c, (loadCredits L range).find? a = some c → c.id ≠ id) :
    L'.observationsOf id = L.observationsOf id ∧
      L'.invoices.find? id = some (row.expireAt now range.chainId range.endBlockTimestamp) := by
  obtain ⟨credits, hloop, hfind, -⟩ := recordRange_eq_ok h
  obtain ⟨hfilter, hnone⟩ := recordObservations_other hloop hun
  refine ⟨hfilter, ?_⟩
  have hw := (writeCredits_find? now credits.rows hrow).1
    (fun c hc => hnone _ c (Table.find?_of_mem hc))
  rw [hfind, hw, Option.map_some]

/-- What a range does to a request bound on its chain: some transfers `fresh` of the range
are recorded, classified against the row as it was, and counted; then the row may expire.
When the request's address is its own and the range's logs are new, `fresh` is all of the
request's transfers in the range. -/
lemma recordRange_bound {L L' : Ledger} {now : Time} {range : FinalizedRange}
    {applied : RangeApplied} (h : recordRange L now range = .ok (L', applied)) {id : InvoiceId}
    {row : Invoice} {b : Binding} (hrow : L.invoices.find? id = some row)
    (hb : row.binding = some b) (hchain : b.chainId = range.chainId) :
    ∃ fresh c', (InvoiceCredit.ofRow (range.loads L.relayIntents.rows) row b).countAll fresh = .ok c' ∧
      L'.observationsOf id = L.observationsOf id ++
        fresh.map ((InvoiceCredit.ofRow (range.loads L.relayIntents.rows) row b).observationRow range.chainId now) ∧
      L'.invoices.find? id =
        some ((c'.writeBack now row).expireAt now range.chainId range.endBlockTimestamp) ∧
      (∀ o ∈ fresh, o ∈ range.observations ∧ o.recipient = b.paymentAddress ∧ o.token = b.token) ∧
      ((∀ row' ∈ L.invoices.rows, ∀ b', row'.binding = some b' → b'.chainId = b.chainId →
          b'.paymentAddress = b.paymentAddress → row' = row) →
        (∀ o ∈ range.observations,
          observationKey range.chainId o ∉ L.observations.rows.map ObservationRow.key) →
        (range.observations.map (observationKey range.chainId)).Nodup →
        fresh = range.observations.filter (fun o =>
          decide (o.recipient = b.paymentAddress ∧ o.token = b.token))) := by
  have hid : row.id = id := Table.key_of_find? hrow
  have hmem : row ∈ L.invoices.rows := Table.mem_of_find? hrow
  by_cases hload : (loadCredits L range).find? b.paymentAddress =
      some (.ofRow (range.loads L.relayIntents.rows) row b)
  · obtain ⟨credits, hloop, hfind, -⟩ := recordRange_eq_ok h
    have hdist := loadCredits_distinct L range
    obtain ⟨fresh, c', hc', hcount, hfilter, hown, hall⟩ :=
      recordObservations_credit hloop hdist hload
    have hterms := InvoiceCredit.countAll_terms hcount
    have hcid : c'.id = id := (InvoiceCredit.id_of_terms hterms).trans hid
    have hw := (writeCredits_find? now credits.rows hrow).2 c'
      (Table.mem_of_find? hc') hcid (recordObservations_distinct hloop hdist).nodup_ids
    refine ⟨fresh, c', hcount, ?_, ?_, ?_, fun _ => hall⟩
    · rw [← hid]
      exact hfilter
    · rw [hfind, hw, Option.map_some, InvoiceCredit.writeBack]
    · exact fun o ho => ⟨(hown o ho).1, of_decide_eq_true (hown o ho).2⟩
  · -- no credit of the request was loaded: the address is absent from the range, or taken
    have hun : ∀ a c, (loadCredits L range).find? a = some c → c.id ≠ id := by
      intro a c hc heq
      obtain ⟨row', b', hrow', hb', -, ha, rfl⟩ := loadCredits_find? hc
      have : row' = row := L.invoices.eq_of_key_eq hrow' hmem (heq.trans hid.symm)
      subst this
      obtain rfl := Option.some.inj (hb.symm.trans hb')
      exact hload (ha ▸ hc)
    obtain ⟨hobs, hfind⟩ := recordRange_unloaded h hrow hun
    refine ⟨[], .ofRow (range.loads L.relayIntents.rows) row b, rfl, by simpa using hobs, ?_, by simp, ?_⟩
    · rw [hfind]
      rfl
    · intro huniq _ _
      symm
      rw [List.filter_eq_nil_iff]
      intro o ho hown
      have hrecipient : o.recipient = b.paymentAddress := (of_decide_eq_true hown).1
      -- the address occurs in the range, so the request's credit was loaded after all
      exact hload (loadCredits_bound hmem hb hchain huniq ho hrecipient)

/-- A range of another chain leaves a request alone. -/
lemma recordRange_unbound {L L' : Ledger} {now : Time} {range : FinalizedRange}
    {applied : RangeApplied} (h : recordRange L now range = .ok (L', applied)) {id : InvoiceId}
    {row : Invoice} (hrow : L.invoices.find? id = some row)
    (hchain : row.binding.map (·.chainId) ≠ some range.chainId) :
    L'.observationsOf id = L.observationsOf id ∧ L'.invoices.find? id = some row := by
  have hun : ∀ a c, (loadCredits L range).find? a = some c → c.id ≠ id := by
    intro a c hc heq
    obtain ⟨row', b, hrow', hb, hbc, -, rfl⟩ := loadCredits_find? hc
    have : row' = row := L.invoices.eq_of_key_eq hrow' (Table.mem_of_find? hrow)
      (heq.trans (Table.key_of_find? hrow).symm)
    subst this
    exact hchain (by rw [hb, Option.map_some, hbc])
  obtain ⟨hobs, hfind⟩ := recordRange_unloaded h hrow hun
  refine ⟨hobs, ?_⟩
  rw [hfind, Invoice.expireAt, if_neg (by simp [expires, hchain])]

/-! ### The range event of the life cycle -/

namespace InvoiceCredit

/-- The totals of a counted list. -/
lemma countAll_totals {c c' : InvoiceCredit} {fresh : List PaymentObservation}
    (h : c.countAll fresh = .ok c') (chainId : ChainId) (now : Time) :
    c'.received = c.received + creditedIn (fresh.map (c.observationRow chainId now)) ∧
      c'.uncollected = c.uncollected + uncollectedIn (fresh.map (c.observationRow chainId now)) ∧
      (c'.crossing.isSome ↔ c.crossing.isSome ∨ (c.status = .created ∧
        (fresh.map (c.observationRow chainId now)).any (·.isCredited) ∧
          c.required ≤ c'.received)) := by
  induction fresh generalizing c with
  | nil =>
    obtain rfl := Except.ok.inj h
    simp [creditedIn, uncollectedIn]
  | cons o rest ih =>
    unfold countAll at h
    split at h
    · -- a zero transfer is an error and counts nowhere
      rename_i hzero
      obtain ⟨hr, hu, hx⟩ := ih h
      have hkind : (c.observationRow chainId now o).disposition = .error .zeroAmount := by
        simp [observationRow, disposition, hzero]
      refine ⟨?_, ?_, ?_⟩
      · rw [hr]
        simp [creditedIn, ObservationRow.isCredited, hkind, Disposition.kind]
      · rw [hu]
        simp [uncollectedIn, ObservationRow.isUncollected, hkind, Disposition.kind]
      · rw [hx]
        simp [ObservationRow.isCredited, hkind, Disposition.kind]
    · rename_i hnz
      split at h
      · cases h
      · rename_i counted hcount
        obtain ⟨hterms, -, hunc, hrec, hcross⟩ := count_eq_ok hcount
        obtain ⟨hr, hu, hx⟩ := ih h
        rw [observationRow_congr hterms] at hr hu hx
        rw [status_of_terms hterms, required_of_terms hterms] at hx
        have hne : (c.disposition o).kind ≠ .error := by
          unfold disposition
          split_ifs <;> simp [Disposition.kind]
        have hcredited : (c.observationRow chainId now o).isCredited =
            decide ((c.disposition o).kind = .credited) := rfl
        have huncollected : (c.observationRow chainId now o).isUncollected =
            (c.collectedAt o).isNone := by
          simp [ObservationRow.isUncollected, observationRow, hne]
        have hstep : counted.crossing.isSome ↔ c.crossing.isSome ∨
            ((c.disposition o).kind = .credited ∧ c.status = .created ∧
              c.required ≤ counted.received) := by
          rw [hcross]
          rcases c.crossing with _ | x
          · split_ifs with hc <;> simp_all
          · simp
        refine ⟨?_, ?_, ?_⟩
        · rw [hr, hrec]
          simp only [creditedIn, List.map_cons, List.filter_cons, hcredited, decide_eq_true_eq]
          by_cases hk : (c.disposition o).kind = .credited
          · simp [hk, observationRow, Nat.add_assoc]
          · simp [hk]
        · rw [hu, hunc]
          simp only [uncollectedIn, List.map_cons, List.countP_cons, huncollected]
          omega
        · -- the crossing happened already, or happens here, or at a later transfer
          have hmono : c.required ≤ counted.received → c.required ≤ c'.received := by omega
          have hlast : ¬ (rest.map (c.observationRow chainId now)).any (·.isCredited) →
              c'.received = counted.received := by
            intro hrest
            have hzero : creditedIn (rest.map (c.observationRow chainId now)) = 0 := by
              rw [creditedIn, List.filter_eq_nil_iff.2]
              · simp
              · simpa using hrest
            omega
          rw [hx, hstep, List.map_cons, List.any_cons, hcredited, Bool.or_eq_true,
            decide_eq_true_eq]
          constructor
          · rintro ((hsome | ⟨hk, hs, hle⟩) | ⟨hs, hrest, hle⟩)
            · exact Or.inl hsome
            · exact Or.inr ⟨hs, Or.inl hk, hmono hle⟩
            · exact Or.inr ⟨hs, Or.inr hrest, hle⟩
          · rintro (hsome | ⟨hs, hk | hrest, hle⟩)
            · exact Or.inl (Or.inl hsome)
            · by_cases hrest : (rest.map (c.observationRow chainId now)).any (·.isCredited)
              · exact Or.inr ⟨hs, hrest, hle⟩
              · exact Or.inl (Or.inr ⟨hk, hs, hlast hrest ▸ hle⟩)
            · exact Or.inr ⟨hs, hrest, hle⟩

/-- A credit that was not touched counted nothing. -/
lemma countAll_untouched {c c' : InvoiceCredit} {fresh : List PaymentObservation}
    (h : c.countAll fresh = .ok c') (ht : c'.touched = false) : c' = c := by
  induction fresh generalizing c with
  | nil => exact (Except.ok.inj h).symm
  | cons o rest ih =>
    unfold countAll at h
    split at h
    · exact ih h
    · split at h
      · cases h
      · rename_i counted hcount
        have := ih h
        rw [this, (count_eq_ok hcount).2.1] at ht
        cases ht

end InvoiceCredit

/-- A transfer is recorded as the request records it. -/
lemma transfer_observationRow (intents : List RelayIntent) (row : Invoice) (b : Binding)
    (rows : List ObservationRow) (chainId : ChainId) (now : Time) (o : PaymentObservation) :
    ((InvoiceCredit.ofRow intents row b).observationRow chainId now o).transfer =
      (row.request rows).record o := rfl

/-- The write-back of the counted transfers. -/
lemma writeBack_request {intents : List RelayIntent} {row : Invoice} {b : Binding}
    {fresh : List PaymentObservation} {c' : InvoiceCredit}
    (h : (InvoiceCredit.ofRow intents row b).countAll fresh = .ok c') (now : Time)
    (rows : List ObservationRow) :
    (c'.writeBack now row).request rows =
      { row.request rows with
        received := row.confirmedReceived + creditedOf (fresh.map (row.request rows).record)
        uncollected := row.uncollectedCount + uncollectedOf (fresh.map (row.request rows).record)
        status := (row.request rows).fundedStatus (fresh.map (row.request rows).record) } := by
  obtain ⟨hr, hu, hx⟩ := InvoiceCredit.countAll_totals h b.chainId now
  rw [creditedIn_eq, List.map_map] at hr
  rw [uncollectedIn_eq, List.map_map] at hu
  have hany : ((fresh.map ((InvoiceCredit.ofRow intents row b).observationRow b.chainId now)).any
      (·.isCredited)) = (fresh.map (row.request rows).record).any (·.isCredited) := by
    simp only [List.any_map]
    rfl
  rw [hany] at hx
  have hterms := InvoiceCredit.countAll_terms h
  have hid : row.id = c'.id := (InvoiceCredit.id_of_terms hterms).symm
  have hstatus : (row.request rows).fundedStatus (fresh.map (row.request rows).record) =
      if c'.crossing.isSome then .funded else row.status := by
    unfold Request.fundedStatus
    refine if_congr ?_ rfl rfl
    rw [hx, hr]
    simp only [InvoiceCredit.ofRow, Option.isSome_none, Bool.false_eq_true, false_or]
    rfl
  rw [hstatus]
  by_cases ht : c'.touched = true
  · rcases hcross : c'.crossing with _ | x
    · have hw : c'.writesTo row = true := by simp [InvoiceCredit.writesTo, ht, hid, hcross]
      rw [InvoiceCredit.writeBack, if_pos hw, InvoiceCredit.write, hcross]
      simp only [Invoice.request, hr, hu]
      rfl
    · have hcreated : row.status = .created := by
        have := hx.1 (by rw [hcross]; rfl)
        simp only [InvoiceCredit.ofRow, Option.isSome_none, Bool.false_eq_true, false_or] at this
        exact this.1
      have hw : c'.writesTo row = true := by simp [InvoiceCredit.writesTo, ht, hid, hcreated]
      rw [InvoiceCredit.writeBack, if_pos hw, InvoiceCredit.write, hcross]
      simp only [Invoice.request, hr, hu]
      rfl
  · -- nothing was counted, so nothing is written and the totals did not move
    have hsame := InvoiceCredit.countAll_untouched h (by simpa using ht)
    have hw : c'.writesTo row = false := by simp [InvoiceCredit.writesTo, ht]
    have hnone : c'.crossing = none := by rw [hsame]; rfl
    rw [InvoiceCredit.writeBack, hw, hnone]
    rw [hsame] at hr hu
    have hr0 : creditedOf (fresh.map (row.request rows).record) = 0 := by
      have : (InvoiceCredit.ofRow intents row b).received = _ + creditedOf (fresh.map
        (row.request rows).record) := hr
      omega
    have hu0 : uncollectedOf (fresh.map (row.request rows).record) = 0 := by
      have : (InvoiceCredit.ofRow intents row b).uncollected = _ + uncollectedOf (fresh.map
        (row.request rows).record) := hu
      omega
    rw [hr0, hu0]
    rfl

/-- The transfers of a request that the second ledger has in addition to the first. -/
def newTransfers (L L' : Ledger) (id : InvoiceId) : List PaymentObservation :=
  ((L'.observationsOf id).drop (L.observationsOf id).length).map (·.observation)

lemma newTransfers_eq {L L' : Ledger} {id : InvoiceId} {fresh : List PaymentObservation}
    {f : PaymentObservation → ObservationRow} (hf : ∀ o, (f o).observation = o)
    (h : L'.observationsOf id = L.observationsOf id ++ fresh.map f) :
    newTransfers L L' id = fresh := by
  rw [newTransfers, h, List.drop_left, List.map_map]
  simp [Function.comp_def, hf]

/-- A recorded range of the request's chain is the range event. -/
lemma recordRange_request {L L' : Ledger} {now : Time} {range : FinalizedRange}
    {applied : RangeApplied} (h : recordRange L now range = .ok (L', applied)) {id : InvoiceId}
    {row : Invoice} {b : Binding} (hrow : L.invoices.find? id = some row)
    (hb : row.binding = some b) (hchain : b.chainId = range.chainId) :
    L'.request? id = some ((row.request (L.observationsOf id)).range (newTransfers L L' id)
        range.endBlockTimestamp) ∧
      ∀ o ∈ newTransfers L L' id, o.recipient = b.paymentAddress ∧ o.token = b.token := by
  obtain ⟨fresh, c', hcount, hobs, hfind, hown, -⟩ := recordRange_bound h hrow hb hchain
  have hnew : newTransfers L L' id = fresh := newTransfers_eq (fun _ => rfl) hobs
  rw [hnew]
  refine ⟨?_, fun o ho => (hown o ho).2⟩
  rw [Ledger.request?, hfind, Option.map_some, hobs]
  have hwrite := writeBack_request hcount now (L.observationsOf id)
  generalize c'.writeBack now row = written at hwrite
  have hmap : (fresh.map ((InvoiceCredit.ofRow (range.loads L.relayIntents.rows) row b).observationRow
      range.chainId now)).map (·.transfer) =
      fresh.map (row.request (L.observationsOf id)).record := by
    rw [List.map_map]
    rfl
  -- the expiry reads the written status, and the row's own deadline and binding
  have hexp : expires range.chainId range.endBlockTimestamp written =
      (((row.request (L.observationsOf id)).fundedStatus
        (fresh.map (row.request (L.observationsOf id)).record)).isOpen &&
        decide ((row.request (L.observationsOf id)).expirationTimestamp <
          range.endBlockTimestamp)) := by
    have h₁ : written.binding = some b := (congrArg Request.binding hwrite).trans hb
    have h₂ : written.status = _ := congrArg Request.status hwrite
    have h₃ : written.expirationTimestamp = (row.request (L.observationsOf id)).expirationTimestamp :=
      congrArg Request.expirationTimestamp hwrite
    simp only [expires, h₁, h₂, h₃, Option.map_some, hchain, decide_true, Bool.true_and]
  rw [Invoice.expireAt, hexp]
  have hrows : written.request (L.observationsOf id ++ fresh.map
      ((InvoiceCredit.ofRow (range.loads L.relayIntents.rows) row b).observationRow range.chainId now)) =
      { written.request (L.observationsOf id) with
        transfers := (L.observationsOf id).map (·.transfer) ++
          fresh.map (row.request (L.observationsOf id)).record } := by
    rw [Invoice.request, List.map_append, hmap]
    rfl
  split
  · rename_i hcond
    have hexpire : ∀ rows, (written.expire now range.endBlockTimestamp).request rows =
        { written.request rows with status := .expired } := fun _ => rfl
    rw [hexpire, hrows, hwrite, Request.range, if_pos (by simpa using hcond)]
    rfl
  · rename_i hcond
    rw [hrows, hwrite, Request.range, if_neg (by simpa using hcond)]
    rfl

lemma applyFinalizedRange_cases {L L' : Ledger} {now : Time} {range : FinalizedRange}
    {result : RangeApplied} (h : applyFinalizedRange L now range = .ok (L', result)) :
    (L' = L ∧ ∀ funded expired cursor, result ≠ .applied funded expired cursor) ∨
      (L.cursor range.chainId = range.expectedCursor ∧
        recordRange L now range = .ok (L', result) ∧
        ∃ funded expired, result = .applied funded expired range.cursor) := by
  unfold applyFinalizedRange at h
  split at h
  · refine Or.inl ?_
    split at h
    · split at h <;> exact ⟨(congrArg Prod.fst (Except.ok.inj h)).symm,
        by rw [← (Prod.mk.inj (Except.ok.inj h)).2]; simp⟩
    · exact ⟨(congrArg Prod.fst (Except.ok.inj h)).symm,
        by rw [← (Prod.mk.inj (Except.ok.inj h)).2]; simp⟩
  · rename_i hcursor
    refine Or.inr ⟨not_not.1 hcursor, h, ?_⟩
    unfold recordRange at h
    split at h
    · cases h
    · exact ⟨_, _, (Prod.mk.inj (Except.ok.inj h)).2.symm⟩

end Payday
