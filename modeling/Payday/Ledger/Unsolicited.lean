/-
# The unsolicited flag

On a request with an attested payer wallet, money from any other wallet flags the request,
once, at its chain time.  The verdict on a transfer is the moment the ledger holds it neither
parked nor attributed: when its range is applied, or when it is handed back.  The flag is
written by the first transaction that judges a transfer foreign and never changes after it, so
over a whole run it is set exactly when some transfer was judged, and it is the earliest of
them as long as none is judged later that happened before.
-/
import Mathlib.Order.Bounds.Basic
import Payday.Ledger.OrderIndependence
import Payday.Ledger.Parking

namespace Payday

/-- A nonzero transfer from a wallet that is not the attested one, neither parked nor
attributed to an intent. -/
def Provenance.foreign (wallet : Address) (p : Provenance) : Bool :=
  decide (p.recorded.observation.amount ≠ 0) && decide (p.recorded.observation.sender ≠ wallet) &&
    p.relayIntentId.isNone && p.relayParkedAt.isNone

/-- The transfer stands as foreign in the ledger. -/
def Ledger.Foreign (L : Ledger) (id : InvoiceId) (wallet : Address) (x : Recorded) : Prop :=
  x.invoiceId = id ∧ ∃ p ∈ L.provenances, p.recorded = x ∧ p.foreign wallet = true

/-- The times of the transfers that stand as foreign. -/
def Ledger.foreignTimes (L : Ledger) (id : InvoiceId) (wallet : Address) : Set ℕ :=
  {t | ∃ x, L.Foreign id wallet x ∧ x.observation.blockTimestamp = t}

/-- The flag is the earliest of some times, and unset when there is none. -/
def Flags (times : Set ℕ) : Option ℕ → Prop
  | none => times = ∅
  | some t => IsLeast times t

lemma flags_min? {times : Set ℕ} {l : List ℕ} (h : ∀ t, t ∈ times ↔ t ∈ l) : Flags times l.min? := by
  rcases hmin : l.min? with _ | t
  · rw [List.min?_eq_none_iff] at hmin
    refine Set.eq_empty_iff_forall_notMem.2 fun t ht => ?_
    rw [h, hmin] at ht
    cases ht
  · obtain ⟨hmem, hle⟩ := List.min?_eq_some_iff.1 hmin
    exact ⟨(h t).2 hmem, fun s hs => hle s ((h s).1 hs)⟩

/-! ### What a range judges -/

namespace InvoiceCredit

/-- The times of the transfers of a list that a credit counts as foreign. -/
def foreignIn (credit : InvoiceCredit) (fresh : List PaymentObservation) : List ℕ :=
  (fresh.filter (fun o => decide (o.amount ≠ 0 ∧ credit.attribution o = .foreign))).map
    (·.blockTimestamp)

lemma attribution_of_terms {c c' : InvoiceCredit} (h : c'.terms = c.terms) :
    c'.attribution = c.attribution := by
  have e : ∀ d : InvoiceCredit, d.attribution = d.terms.attribution := fun _ => rfl
  rw [e, e c, h]

lemma foreignIn_of_terms {c c' : InvoiceCredit} (h : c'.terms = c.terms)
    (fresh : List PaymentObservation) : c'.foreignIn fresh = c.foreignIn fresh := by
  rw [foreignIn, foreignIn, attribution_of_terms h]

/-- What counting one nonzero transfer does to the verdicts. -/
lemma count_foreign {c c' : InvoiceCredit} {o : PaymentObservation} (h : c.count o = .ok c') :
    c'.firstForeignTimestamp =
      if c.attribution o = .foreign then
        some (match c.firstForeignTimestamp with
          | none => o.blockTimestamp
          | some first => min first o.blockTimestamp)
      else c.firstForeignTimestamp := by
  unfold count at h
  split_ifs at h
  · obtain rfl := Except.ok.inj h
    rfl
  · obtain rfl := Except.ok.inj h
    rfl

/-- Counting the transfers of a list collects the earliest foreign one. -/
lemma countAll_foreign {c c' : InvoiceCredit} {fresh : List PaymentObservation}
    (h : c.countAll fresh = .ok c') :
    c'.firstForeignTimestamp = (c.firstForeignTimestamp.toList ++ c.foreignIn fresh).min? := by
  induction fresh generalizing c with
  | nil =>
    obtain rfl := Except.ok.inj h
    rcases c.firstForeignTimestamp with _ | t <;> rfl
  | cons o rest ih =>
    unfold countAll at h
    split_ifs at h with hzero
    · -- a transfer of nothing is not counted
      have hskip : c.foreignIn (o :: rest) = c.foreignIn rest := by
        simp [foreignIn, hzero]
      rw [hskip]
      exact ih h
    · split at h
      · cases h
      · rename_i c₁ hcount
        have hterms : c₁.terms = c.terms := (count_eq_ok hcount).1
        have hfirst := count_foreign hcount
        rw [ih h, foreignIn_of_terms hterms]
        by_cases hforeign : c.attribution o = .foreign
        · have hadd : c.foreignIn (o :: rest) = o.blockTimestamp :: c.foreignIn rest := by
            simp [foreignIn, hzero, hforeign]
          rw [hfirst, if_pos hforeign, hadd]
          rcases c.firstForeignTimestamp with _ | t
          · rfl
          · simp only [Option.toList_some, List.singleton_append, List.min?_cons', List.foldl_cons]
        · have hskip : c.foreignIn (o :: rest) = c.foreignIn rest := by
            simp [foreignIn, hforeign]
          rw [hfirst, if_neg hforeign, hskip]

/-- The flag as the write-back of a request's transfers leaves it. -/
lemma writeBack_flag {intents : List RelayIntent} {row : Invoice} {b : Binding}
    {fresh : List PaymentObservation} {c' : InvoiceCredit}
    (h : (ofRow intents row b).countAll fresh = .ok c') (now : Time) :
    (c'.writeBack now row).likelyUnsolicitedAt =
      row.likelyUnsolicitedAt.or ((ofRow intents row b).foreignIn fresh).min? := by
  have hfirst : c'.firstForeignTimestamp = ((ofRow intents row b).foreignIn fresh).min? :=
    countAll_foreign h
  have hid : row.id = c'.id := (id_of_terms (countAll_terms h)).symm
  have hcrossing : c'.crossing.isNone = false → row.status = .created := by
    intro hsome
    rcases (countAll_totals h 0 0).2.2.1 (by simpa using hsome) with hold | ⟨hstatus, -⟩
    · cases hold
    · exact hstatus
  rw [← hfirst]
  unfold writeBack
  split
  · unfold write
    split <;> rfl
  · -- nothing was written: nothing was counted
    rename_i hwrites
    have htouched : c'.touched = false := by
      by_contra htouched
      refine hwrites ?_
      simp only [writesTo, hid, decide_true, Bool.and_true, Bool.and_eq_true, Bool.or_eq_true,
        decide_eq_true_eq]
      refine ⟨by simpa using htouched, ?_⟩
      cases hnone : c'.crossing.isNone with
      | true => exact Or.inl rfl
      | false => exact Or.inr (hcrossing hnone)
    rw [countAll_untouched h htouched]
    simp [ofRow]

/-- The verdict on a new transfer of a request with an attested wallet. -/
lemma foreign_observationRow {c : InvoiceCredit} {wallet : Address}
    (hwallet : c.payerWallet = some wallet) (chainId : ChainId) (now : Time)
    (o : PaymentObservation) :
    (c.observationRow chainId now o).provenance.foreign wallet =
      decide (o.amount ≠ 0 ∧ c.attribution o = .foreign) := by
  have hpayer : o.sender = wallet → c.attribution o = .payer := by
    intro hsender
    simp only [attribution, hwallet, hsender, if_true]
  have hother : o.amount ≠ 0 → o.sender ≠ wallet → c.attribution o ≠ .payer := by
    intro hzero hsender
    simp only [attribution, hwallet, hsender, hzero, if_false]
    split
    · simp
    · split_ifs <;> simp
  simp only [Provenance.foreign, ObservationRow.provenance, ObservationRow.recorded, observationRow]
  by_cases hzero : o.amount = 0
  · simp [hzero]
  by_cases hsender : o.sender = wallet
  · simp [hsender, hpayer hsender]
  · have hne := hother hzero hsender
    rcases hcase : c.attribution o with _ | id | _ | _
    · exact absurd hcase hne
    · simp
    · simp
    · simp [hzero, hsender]

end InvoiceCredit

/-! ### The attested wallet -/

section

variable {L L' L₁ : Ledger} {now : Time} {id : InvoiceId} {wallet : Address}

lemma Ledger.wallet_eq_some (h : L.wallet id = some wallet) :
    ∃ row b, L.invoices.find? id = some row ∧ row.binding = some b ∧
      b.payerWallet = some wallet := by
  obtain ⟨b, hbind, hwallet⟩ := Option.bind_eq_some_iff.1 h
  obtain ⟨row, hrow, hb⟩ := Option.bind_eq_some_iff.1 hbind
  exact ⟨row, b, hrow, hb, hwallet⟩

/-- A binding stays. -/
lemma binding_step {row : Invoice} {b : Binding} (hrow : L.invoices.find? id = some row)
    (hb : row.binding = some b) (now : Time) (op : Op) :
    ∃ row', (step L now op).invoices.find? id = some row' ∧ row'.binding = some b := by
  have hq : L.request? id = some (row.request (L.observationsOf id)) :=
    Ledger.request?_eq_some.2 ⟨row, hrow, rfl⟩
  obtain ⟨henabled, hmoved⟩ := request?_step now op hq
  obtain ⟨row', hrow', hrequest⟩ := Ledger.request?_eq_some.1 hmoved
  have hkept := Request.run_binding (q := row.request (L.observationsOf id)) [L.event now op id]
    ⟨henabled, trivial⟩ hb
  refine ⟨row', hrow', ?_⟩
  have hbinding : row'.binding = (row'.request ((step L now op).observationsOf id)).binding := rfl
  rw [hbinding, hrequest]
  exact hkept

/-- The attested wallet stays. -/
lemma wallet_step (h : L.wallet id = some wallet) (now : Time) (op : Op) :
    (step L now op).wallet id = some wallet := by
  obtain ⟨row, b, hrow, hb, hwallet⟩ := Ledger.wallet_eq_some h
  obtain ⟨row', hrow', hb'⟩ := binding_step hrow hb now op
  rw [Ledger.wallet_of_binding hrow' hb', hwallet]

/-- A request without an address has received nothing. -/
lemma Reachable.observationsOf_unbound (h : Reachable L) {row : Invoice}
    (hrow : L.invoices.find? id = some row) (hb : row.binding = none) : L.observationsOf id = [] := by
  have hq : L.request? id = some (row.request (L.observationsOf id)) :=
    Ledger.request?_eq_some.2 ⟨row, hrow, rfl⟩
  have hnone : (row.request (L.observationsOf id)).binding = none →
      (row.request (L.observationsOf id)).transfers = [] := by
    refine h.request_induction (P := fun q => q.binding = none → q.transfers = [])
      (fun _ _ => rfl) (fun q e hP henabled hbinding => ?_) hq
    cases e with
    | bind binding => cases hbinding
    | range fresh endBlockTimestamp =>
      obtain ⟨b, hsome, -⟩ := henabled
      have hnone : q.binding = none := hbinding
      rw [hsome] at hnone
      cases hnone
    | receipt receipt outcome =>
      simp only [Request.apply] at hbinding ⊢
      split at hbinding
      · simp only [Request.drain] at hbinding ⊢
        rw [hP hbinding]
        rfl
      · exact hP hbinding
    | _ => exact hP hbinding
  exact List.map_eq_nil_iff.1 (hnone hb)

/-- The request has no address yet. -/
def Ledger.Unbound (L : Ledger) (id : InvoiceId) : Prop :=
  ∀ row, L.invoices.find? id = some row → row.binding = none

lemma Reachable.observationsOf_eq_nil (h : Reachable L) (hun : L.Unbound id) :
    L.observationsOf id = [] := by
  rcases hrow : L.invoices.find? id with _ | row
  · exact h.observationsOf_none (by simp [Ledger.request?, hrow])
  · exact h.observationsOf_unbound hrow (hun row hrow)

/-- The wallet is the request's attested one, or the request has no address yet. -/
def Ledger.Attested (L : Ledger) (id : InvoiceId) (wallet : Address) : Prop :=
  L.wallet id = some wallet ∨ L.Unbound id

/-- Who is attested after a transaction was attested before it, as soon as there was an
address. -/
lemma Ledger.Attested.before {op : Op} (h : (step L now op).Attested id wallet) :
    L.Attested id wallet := by
  rcases hrow : L.invoices.find? id with _ | row
  · exact Or.inr fun row' hrow' => by rw [hrow] at hrow'; cases hrow'
  · rcases hb : row.binding with _ | b
    · refine Or.inr fun row' hrow' => ?_
      obtain rfl := Option.some.inj (hrow.symm.trans hrow')
      exact hb
    · left
      obtain ⟨row', hrow', hb'⟩ := binding_step hrow hb now op
      rcases h with hwallet | hun
      · rw [Ledger.wallet_of_binding hrow hb, ← Ledger.wallet_of_binding hrow' hb', hwallet]
      · rw [hun row' hrow'] at hb'
        cases hb'

/-! ### The verdicts of one transaction -/

lemma Ledger.foreign_iff {x : Recorded} : L.Foreign id wallet x ↔
    ∃ r ∈ L.observationsOf id, r.recorded = x ∧ r.provenance.foreign wallet = true := by
  constructor
  · rintro ⟨hid, p, hp, hx, hforeign⟩
    obtain ⟨r, hr, rfl⟩ := Ledger.mem_provenances.1 hp
    have hown : r.invoiceId = id := by rw [← hid, ← hx]; rfl
    exact ⟨r, List.mem_filter.2 ⟨hr, decide_eq_true hown⟩, hx, hforeign⟩
  · rintro ⟨r, hr, rfl, hforeign⟩
    obtain ⟨hmem, hown⟩ := List.mem_filter.1 hr
    exact ⟨of_decide_eq_true hown, _, Ledger.provenance_mem hmem, rfl, hforeign⟩

/-- A range records nothing for a request without an address. -/
lemma recordRange_unbound_request {range : FinalizedRange} {applied : RangeApplied}
    (h : recordRange L now range = .ok (L', applied)) (hun : L.Unbound id) :
    L'.observationsOf id = L.observationsOf id ∧ L'.invoices.find? id = L.invoices.find? id := by
  rcases hrow : L.invoices.find? id with _ | row
  · have hids : id ∉ L'.ids := by
      rw [ids_of_gates (recordRange_gates h)]
      exact Table.find?_eq_none_iff.1 hrow
    obtain ⟨new, hrows, hnew⟩ := recordRange_rows h
    have hnone : new.filter (fun r => decide (r.invoiceId = id)) = [] := by
      rw [List.filter_eq_nil_iff]
      intro r hr hid
      obtain ⟨-, row, -, hfound, -⟩ := hnew r hr
      rw [of_decide_eq_true hid, hrow] at hfound
      cases hfound
    refine ⟨?_, Table.find?_eq_none_iff.2 hids⟩
    rw [Ledger.observationsOf, hrows, List.filter_append, hnone, List.append_nil,
      Ledger.observationsOf]
  · refine recordRange_unbound h hrow ?_
    rw [hun row hrow]
    simp

/-- What a range does to the flag of a request with an attested wallet. -/
lemma recordRange_flag {range : FinalizedRange} {applied : RangeApplied}
    (h : recordRange L now range = .ok (L', applied)) (hwallet : L.wallet id = some wallet) :
    ∃ times : List ℕ, L'.flag id = (L.flag id).or times.min? ∧
      ∀ t, t ∈ L'.foreignTimes id wallet ↔ t ∈ L.foreignTimes id wallet ∨ t ∈ times := by
  obtain ⟨row, b, hrow, hb, hpayer⟩ := Ledger.wallet_eq_some hwallet
  have hflag : L.flag id = row.likelyUnsolicitedAt := by rw [Ledger.flag, hrow]; rfl
  by_cases hchain : b.chainId = range.chainId
  · obtain ⟨fresh, c', hcount, hobs, hfind, -, -⟩ := recordRange_bound h hrow hb hchain
    set credit := InvoiceCredit.ofRow (range.loads L.relayIntents.rows) row b with hcredit
    refine ⟨credit.foreignIn fresh, ?_, fun t => ?_⟩
    · have hexpire : ∀ row : Invoice, (row.expireAt now range.chainId
          range.endBlockTimestamp).likelyUnsolicitedAt = row.likelyUnsolicitedAt := by
        intro row
        unfold Invoice.expireAt
        split <;> rfl
      rw [hflag, Ledger.flag, hfind, Option.bind_some, hexpire]
      exact InvoiceCredit.writeBack_flag hcount now
    · have hverdict := InvoiceCredit.foreign_observationRow (c := credit) hpayer range.chainId now
      constructor
      · rintro ⟨x, hx, rfl⟩
        obtain ⟨r, hr, rfl, hforeign⟩ := Ledger.foreign_iff.1 hx
        rw [hobs] at hr
        rcases List.mem_append.1 hr with hold | hnew
        · exact Or.inl ⟨_, Ledger.foreign_iff.2 ⟨r, hold, rfl, hforeign⟩, rfl⟩
        · right
          obtain ⟨o, ho, rfl⟩ := List.mem_map.1 hnew
          rw [hverdict] at hforeign
          exact List.mem_map.2 ⟨o, List.mem_filter.2 ⟨ho, hforeign⟩, rfl⟩
      · rintro (⟨x, hx, rfl⟩ | ht)
        · obtain ⟨r, hr, hrx, hforeign⟩ := Ledger.foreign_iff.1 hx
          refine ⟨x, Ledger.foreign_iff.2 ⟨r, ?_, hrx, hforeign⟩, rfl⟩
          rw [hobs]
          exact List.mem_append_left _ hr
        · obtain ⟨o, ho, rfl⟩ := List.mem_map.1 ht
          obtain ⟨hfresh, hforeign⟩ := List.mem_filter.1 ho
          refine ⟨_, Ledger.foreign_iff.2 ⟨credit.observationRow range.chainId now o, ?_, rfl, ?_⟩, rfl⟩
          · rw [hobs]
            exact List.mem_append_right _ (List.mem_map_of_mem hfresh)
          · rw [hverdict]
            exact hforeign
  · -- a range of another chain
    have hother : row.binding.map (·.chainId) ≠ some range.chainId := by
      rw [hb]
      exact fun heq => hchain (Option.some.inj heq)
    obtain ⟨hobs, hfind⟩ := recordRange_unbound h hrow hother
    refine ⟨[], ?_, fun t => ?_⟩
    · rw [Ledger.flag, hfind, hflag]
      simp
    · have hsame : ∀ x, L'.Foreign id wallet x ↔ L.Foreign id wallet x := by
        intro x
        rw [Ledger.foreign_iff, Ledger.foreign_iff, hobs]
      simp [Ledger.foreignTimes, hsame]

/-- A parked transfer is from a wallet that is not the attested one. -/
lemma Reachable.parked_stranger (h : Reachable L) : ∀ p ∈ L.provenances,
    p.relayParkedAt.isSome = true → ∃ wallet, L.wallet p.recorded.invoiceId = some wallet ∧
      p.recorded.observation.sender ≠ wallet := by
  refine Reachable.induction_reachable (P := fun L => ∀ p ∈ L.provenances,
    p.relayParkedAt.isSome = true → ∃ wallet, L.wallet p.recorded.invoiceId = some wallet ∧
      p.recorded.observation.sender ≠ wallet) (fun p hp => by cases hp) ?_ h
  intro L now op hr ih p hp hparked
  have hbefore : ∃ wallet, L.wallet p.recorded.invoiceId = some wallet ∧
      p.recorded.observation.sender ≠ wallet := by
    rcases step_parked hr hr.parking op hp hparked with hold | ⟨-, hnew⟩
    · exact ih p hold hparked
    · obtain ⟨row, b, wallet, hrow, hb, hwallet, hsender⟩ := hnew.stranger
      exact ⟨wallet, (Ledger.wallet_of_binding hrow hb).trans hwallet, hsender⟩
  obtain ⟨wallet, hwallet, hsender⟩ := hbefore
  exact ⟨wallet, wallet_step hwallet now op, hsender⟩

/-- What a resolution does to the flag: the earliest transfer it hands back flags the request,
and what it attributes does not stand as foreign any more. -/
lemma IntentResolved.flag {intent : RelayIntent} {takes : ObservationRow → Bool}
    (h : IntentResolved L L₁ L' now intent takes) (hr : Reachable L)
    (hattested : L.Attested id wallet) :
    (∀ t, L.flag id = some t → L'.flag id = some t) ∧
      (L.flag id = none → L.foreignTimes id wallet = ∅ →
        Flags (L'.foreignTimes id wallet) (L'.flag id)) := by
  have hflag₁ : L₁.flag id = L.flag id := by rw [Ledger.flag, Ledger.flag, h.invoices]
  -- an observation of the intermediate ledger is an old one, or it is attributed
  have hold : ∀ p ∈ L₁.provenances, p ∈ L.provenances ∨
      (p.relayIntentId.isSome = true ∧ p.relayParkedAt = none) := by
    intro p hp
    obtain ⟨r, hmem, rfl⟩ := Ledger.mem_provenances.1 hp
    rw [h.observations] at hmem
    obtain ⟨o, ho, rfl⟩ := List.mem_map.1 hmem
    by_cases htakes : takes o = true
    · exact Or.inr ⟨by simp [htakes, ObservationRow.provenance],
        by simp [htakes, ObservationRow.provenance]⟩
    · exact Or.inl (by simpa [htakes] using Ledger.provenance_mem ho)
  have hforeign₁ : ∀ x, L₁.Foreign id wallet x → L.Foreign id wallet x := by
    rintro x ⟨hid, p, hp, hx, hforeign⟩
    rcases hold p hp with hpL | ⟨howned, -⟩
    · exact ⟨hid, p, hpL, hx, hforeign⟩
    · simp only [Provenance.foreign, Bool.and_eq_true, Option.isNone_iff_eq_none] at hforeign
      rw [hforeign.1.2] at howned
      cases howned
  rcases h.unpark_cases hr with ⟨rfl, -⟩ | hun
  · refine ⟨fun t ht => by rw [hflag₁, ht], fun hnone hempty => ?_⟩
    rw [hflag₁, hnone]
    refine Set.eq_empty_iff_forall_notMem.2 ?_
    rintro t ⟨x, hx, rfl⟩
    exact Set.eq_empty_iff_forall_notMem.1 hempty _ ⟨x, hforeign₁ x hx, rfl⟩
  · have hflag' := hun.flag id
    rw [hflag₁] at hflag'
    by_cases hid : id = intent.invoiceId
    · rw [if_pos hid, ← hid, hflag₁] at hflag'
      refine ⟨fun t ht => by rw [hflag', ht]; rfl, fun hnone hempty => ?_⟩
      rw [hflag', hnone, Option.none_or]
      -- nothing stood as foreign before, so what does now was parked
      refine flags_min? fun t => ⟨?_, fun ht => ?_⟩
      · rintro ⟨x, ⟨hxid, p', hp', rfl, hforeign⟩, rfl⟩
        rw [hun.provenances] at hp'
        obtain ⟨p, hp, rfl⟩ := List.mem_map.1 hp'
        rw [Provenance.unpark_recorded] at hxid ⊢
        refine Ledger.mem_parkedTimes.2 ⟨p, hp, hxid, ?_, rfl⟩
        by_contra hparked
        have hnone' : p.relayParkedAt = none := by simpa using hparked
        rw [Provenance.unpark_of_none hnone'] at hforeign
        have hL := hforeign₁ p.recorded ⟨hxid, p, hp, rfl, hforeign⟩
        exact Set.eq_empty_iff_forall_notMem.1 hempty _ ⟨p.recorded, hL, rfl⟩
      · obtain ⟨p, hp, hpid, hparked, rfl⟩ := Ledger.mem_parkedTimes.1 ht
        have hpL : p ∈ L.provenances := by
          rcases hold p hp with hpL | ⟨-, hnone'⟩
          · exact hpL
          · rw [hnone'] at hparked
            cases hparked
        obtain ⟨howner, hzero⟩ := hr.parking.unowned p hpL hparked
        obtain ⟨other, hother, hsender⟩ := hr.parked_stranger p hpL hparked
        have hwallet : L.wallet id = some wallet := by
          rcases hattested with hwallet | hempty'
          · exact hwallet
          · obtain ⟨r, hmem, rfl⟩ := Ledger.mem_provenances.1 hpL
            have hmem' : r ∈ L.observationsOf id := List.mem_filter.2 ⟨hmem, decide_eq_true hpid⟩
            rw [hr.observationsOf_eq_nil hempty'] at hmem'
            cases hmem'
        rw [hpid, hwallet] at hother
        obtain rfl := Option.some.inj hother
        refine ⟨p.recorded, ⟨hpid, p.unpark intent.invoiceId, ?_, by simp, ?_⟩, rfl⟩
        · rw [hun.provenances]
          exact List.mem_map_of_mem hp
        · simp [Provenance.unpark, Provenance.foreign, hpid, hid, hzero, hsender, howner]
    · rw [if_neg hid] at hflag'
      refine ⟨fun t ht => by rw [hflag', ht], fun hnone hempty => ?_⟩
      rw [hflag', hnone]
      refine Set.eq_empty_iff_forall_notMem.2 ?_
      rintro t ⟨x, ⟨hxid, p', hp', rfl, hforeign⟩, rfl⟩
      rw [hun.provenances] at hp'
      obtain ⟨p, hp, rfl⟩ := List.mem_map.1 hp'
      rw [Provenance.unpark_recorded] at hxid
      rw [Provenance.unpark_of_ne (fun hpid => hid (hxid.symm.trans hpid))] at hforeign
      have hL := hforeign₁ p.recorded ⟨hxid, p, hp, rfl, hforeign⟩
      exact Set.eq_empty_iff_forall_notMem.1 hempty _ ⟨p.recorded, hL, rfl⟩

/-- What one transaction does to the flag: it stays once it is set, and a request that had no
foreign transfer is flagged at its earliest one. -/
lemma step_flag (hr : Reachable L) (op : Op) (hattested : (step L now op).Attested id wallet) :
    (∀ t, L.flag id = some t → (step L now op).flag id = some t) ∧
      (L.flag id = none → L.foreignTimes id wallet = ∅ →
        Flags ((step L now op).foreignTimes id wallet) ((step L now op).flag id)) := by
  have hforeign : ∀ {L' : Ledger}, (∀ x, L'.Foreign id wallet x ↔ L.Foreign id wallet x) →
      L'.flag id = L.flag id → (∀ t, L.flag id = some t → L'.flag id = some t) ∧
        (L.flag id = none → L.foreignTimes id wallet = ∅ →
          Flags (L'.foreignTimes id wallet) (L'.flag id)) := by
    intro L' hsame hflag
    refine ⟨fun t ht => hflag.trans ht, fun hnone hempty => ?_⟩
    rw [hflag, hnone]
    show L'.foreignTimes id wallet = ∅
    rw [← hempty]
    simp [Ledger.foreignTimes, hsame]
  have hbefore := hattested.before
  cases hop : op.resolvesIntent with
  | true =>
    rcases step_resolved L now hop with hsame | ⟨intent, L₁, takes, hres⟩
    · rw [hsame]
      exact hforeign (fun _ => Iff.rfl) rfl
    · exact hres.flag hr hbefore
  | false =>
    rcases step_provenances L now hop with ⟨hprov, hflag⟩ | ⟨range, applied, hrecord⟩
    · exact hforeign (fun x => by rw [Ledger.Foreign, hprov, Ledger.Foreign]) (hflag id)
    · rcases hbefore with hwallet | hun
      · obtain ⟨times, hflag, htimes⟩ := recordRange_flag hrecord hwallet
        refine ⟨fun t ht => by rw [hflag, ht]; rfl, fun hnone hnothing => ?_⟩
        rw [hflag, hnone, Option.none_or]
        refine flags_min? fun t => (htimes t).trans ⟨?_, Or.inr⟩
        rintro (hold | hnew)
        · rw [hnothing] at hold
          cases hold
        · exact hnew
      · -- nothing is recorded for a request without an address
        obtain ⟨hobs, hfind⟩ := recordRange_unbound_request hrecord hun
        refine hforeign (fun x => ?_) (by rw [Ledger.flag, hfind, Ledger.flag])
        rw [Ledger.foreign_iff, Ledger.foreign_iff, hobs]

/-- The verdict on a transfer stands: it may be attributed to a filled intent of its request
later, and it is never parked again. -/
structure Stands (L : Ledger) (p : Provenance) : Prop where
  unparked : p.relayParkedAt = none
  owner : p.relayIntentId = none ∨ ∃ r ∈ L.relayIntents.rows, p.relayIntentId = some r.id ∧
    r.invoiceId = p.recorded.invoiceId ∧ r.status = .filled

lemma step_stands (hr : Reachable L) (op : Op) {p : Provenance} (hp : p ∈ L.provenances)
    (h : Stands L p) :
    ∃ p' ∈ (step L now op).provenances, p'.recorded = p.recorded ∧ Stands (step L now op) p' := by
  obtain ⟨f, new, hmove⟩ := step_intents L now op
  -- a filled intent stays filled
  have hkeep : Stands (step L now op) p := by
    refine ⟨h.unparked, h.owner.imp id ?_⟩
    rintro ⟨r, hmem, howner, hinvoice, hfilled⟩
    have hm := hmove.moves r hmem
    refine ⟨f r, hmove.mem hmem, by rw [hm.id, howner], hm.invoiceId.trans hinvoice, ?_⟩
    rcases hm.status with hsame | hleads
    · rw [hsame, hfilled]
    · rw [hfilled, RelayIntentStatus.leadsTo_of_isFinal rfl] at hleads
      cases hleads
  cases hop : op.resolvesIntent with
  | true =>
    rcases step_resolved L now hop with hsame | ⟨intent, L₁, takes, hres⟩
    · exact ⟨p, by rw [hsame]; exact hp, rfl, hkeep⟩
    · obtain ⟨o, ho, rfl⟩ := Ledger.mem_provenances.1 hp
      have hintents : (step L now op).relayIntents = L₁.relayIntents := by
        rw [hres.unparks, unparkUnlessPending_relayIntents]
      -- whatever the intermediate ledger holds unparked, the next one holds
      have hlast : ∀ p₁ ∈ L₁.provenances, p₁.relayParkedAt = none →
          p₁ ∈ (step L now op).provenances := by
        intro p₁ hp₁ hnone
        rcases hres.unpark_cases hr with ⟨heq, -⟩ | hun
        · rw [heq]
          exact hp₁
        · rw [hun.provenances]
          exact List.mem_map.2 ⟨p₁, hp₁, Provenance.unpark_of_none hnone _⟩
      by_cases htakes : takes o = true
      · obtain ⟨r, hmem, hid, hinvoice, hfilled⟩ := hres.filled o htakes
        set o₁ : ObservationRow := { o with relayIntentId := some intent.id, relayParkedAt := none }
        have ho₁ : o₁ ∈ L₁.observations.rows := by
          rw [hres.observations]
          exact List.mem_map.2 ⟨o, ho, by rw [if_pos htakes]⟩
        refine ⟨o₁.provenance, hlast _ (Ledger.provenance_mem ho₁) rfl, rfl, rfl, Or.inr ?_⟩
        exact ⟨r, by rw [hintents]; exact hmem, congrArg some hid.symm,
          hinvoice.trans (hres.own o htakes).1.symm, hfilled⟩
      · refine ⟨_, hlast _ (Ledger.provenance_mem ?_) h.unparked, rfl, hkeep⟩
        rw [hres.observations]
        exact List.mem_map.2 ⟨o, ho, by rw [if_neg htakes]⟩
  | false => exact ⟨p, mem_provenances_step hop hp, rfl, hkeep⟩

end

/-! ### The verdicts of a run -/

/-- The transfer was judged foreign: at some point of the run the ledger held it neither
parked nor attributed. -/
def Judged (ops : List (Time × Op)) (id : InvoiceId) (wallet : Address) (x : Recorded) : Prop :=
  ∃ before, before <+: ops ∧ (run Ledger.empty before).Foreign id wallet x

/-- No transfer is judged once the flag is set that happened before it. -/
def JudgedInOrder (ops : List (Time × Op)) (id : InvoiceId) (wallet : Address) : Prop :=
  ∀ before, before <+: ops → ∀ t, (run Ledger.empty before).flag id = some t →
    ∀ x, Judged ops id wallet x → ¬ Judged before id wallet x → t ≤ x.observation.blockTimestamp

section

variable {ops : List (Time × Op)} {op : Time × Op} {id : InvoiceId} {wallet : Address}
  {x : Recorded}

lemma judged_concat : Judged (ops ++ [op]) id wallet x ↔
    Judged ops id wallet x ∨ (run Ledger.empty (ops ++ [op])).Foreign id wallet x := by
  constructor
  · rintro ⟨before, hbefore, hx⟩
    rcases List.prefix_concat_iff.1 hbefore with rfl | hbefore
    · exact Or.inr hx
    · exact Or.inl ⟨before, hbefore, hx⟩
  · rintro (⟨before, hbefore, hx⟩ | hx)
    · exact ⟨before, hbefore.trans (List.prefix_append _ _), hx⟩
    · exact ⟨_, List.prefix_refl _, hx⟩

lemma run_concat (ops : List (Time × Op)) (op : Time × Op) :
    run Ledger.empty (ops ++ [op]) = step (run Ledger.empty ops) op.1 op.2 := by
  rw [run_append]
  rfl

lemma JudgedInOrder.of_concat (h : JudgedInOrder (ops ++ [op]) id wallet) :
    JudgedInOrder ops id wallet := by
  intro before hbefore t ht x hx hnot
  exact h before (hbefore.trans (List.prefix_append _ _)) t ht x (judged_concat.2 (Or.inl hx)) hnot

/-- The flag along a run. -/
structure FlagOf (ops : List (Time × Op)) (id : InvoiceId) (wallet : Address) : Prop where
  unset : (run Ledger.empty ops).flag id = none → ∀ x, ¬ Judged ops id wallet x
  judged : ∀ t, (run Ledger.empty ops).flag id = some t →
    ∃ x, Judged ops id wallet x ∧ x.observation.blockTimestamp = t
  stays : ∀ before, before <+: ops → ∀ t, (run Ledger.empty before).flag id = some t →
    (run Ledger.empty ops).flag id = some t
  stands : ∀ x, Judged ops id wallet x →
    ∃ p ∈ (run Ledger.empty ops).provenances, p.recorded = x ∧ Stands (run Ledger.empty ops) p
  least : JudgedInOrder ops id wallet → ∀ t, (run Ledger.empty ops).flag id = some t →
    ∀ x, Judged ops id wallet x → t ≤ x.observation.blockTimestamp

/-- One more transaction. -/
lemma FlagOf.concat (h : FlagOf ops id wallet)
    (hattested : (run Ledger.empty (ops ++ [op])).Attested id wallet) :
    FlagOf (ops ++ [op]) id wallet := by
  have hr : Reachable (run Ledger.empty ops) := ⟨ops, rfl⟩
  rw [run_concat] at hattested
  obtain ⟨hkeeps, hflags⟩ := step_flag hr op.2 hattested
  rw [← run_concat] at hkeeps hflags
  -- while the flag is unset nothing was judged, so the new verdicts are all there are
  have hfirst : (run Ledger.empty ops).flag id = none → Flags
      ((run Ledger.empty (ops ++ [op])).foreignTimes id wallet)
      ((run Ledger.empty (ops ++ [op])).flag id) := by
    intro hnone
    refine hflags hnone (Set.eq_empty_iff_forall_notMem.2 ?_)
    rintro t ⟨x, hx, -⟩
    exact h.unset hnone x ⟨ops, List.prefix_refl _, hx⟩
  have hunset : (run Ledger.empty (ops ++ [op])).flag id = none →
      (run Ledger.empty ops).flag id = none := by
    intro hnone
    rcases hflag : (run Ledger.empty ops).flag id with _ | t
    · rfl
    · rw [hkeeps t hflag] at hnone
      cases hnone
  refine ⟨fun hnone x hx => ?_, fun t ht => ?_, ?_, ?_, ?_⟩
  · rcases judged_concat.1 hx with hold | hnew
    · exact h.unset (hunset hnone) x hold
    · have hempty := hfirst (hunset hnone)
      rw [hnone] at hempty
      exact Set.eq_empty_iff_forall_notMem.1 hempty _ ⟨x, hnew, rfl⟩
  · rcases hflag : (run Ledger.empty ops).flag id with _ | s
    · have hleast := hfirst hflag
      rw [ht] at hleast
      obtain ⟨x, hx, hxt⟩ := hleast.1
      exact ⟨x, judged_concat.2 (Or.inr hx), hxt⟩
    · obtain rfl := Option.some.inj ((hkeeps s hflag).symm.trans ht)
      obtain ⟨x, hx, hxt⟩ := h.judged s hflag
      exact ⟨x, judged_concat.2 (Or.inl hx), hxt⟩
  · intro before hbefore t ht
    rcases List.prefix_concat_iff.1 hbefore with rfl | hbefore
    · exact ht
    · exact hkeeps t (h.stays before hbefore t ht)
  · intro x hx
    rcases judged_concat.1 hx with hold | hnew
    · obtain ⟨p, hp, rfl, hstands⟩ := h.stands x hold
      rw [run_concat]
      exact step_stands hr op.2 hp hstands
    · obtain ⟨-, p, hp, rfl, hforeign⟩ := hnew
      simp only [Provenance.foreign, Bool.and_eq_true, Option.isNone_iff_eq_none] at hforeign
      exact ⟨p, hp, rfl, hforeign.2, Or.inl hforeign.1.2⟩
  · intro hordered t ht x hx
    rcases hflag : (run Ledger.empty ops).flag id with _ | s
    · have hleast := hfirst hflag
      rw [ht] at hleast
      rcases judged_concat.1 hx with hold | hnew
      · exact absurd hold (h.unset hflag x)
      · exact hleast.2 ⟨x, hnew, rfl⟩
    · obtain rfl := Option.some.inj ((hkeeps s hflag).symm.trans ht)
      by_cases hold : Judged ops id wallet x
      · exact h.least hordered.of_concat s hflag x hold
      · exact hordered ops (List.prefix_append _ _) s hflag x hx hold

lemma flagOf (hattested : (run Ledger.empty ops).Attested id wallet) : FlagOf ops id wallet := by
  induction ops using List.reverseRecOn with
  | nil =>
    have hnothing : ∀ x, ¬ Judged [] id wallet x := by
      rintro x ⟨before, hbefore, -, p, hp, -⟩
      rw [List.prefix_nil.1 hbefore] at hp
      cases hp
    refine ⟨fun _ => hnothing, ?_, ?_, fun x hx => absurd hx (hnothing x),
      fun _ t _ x hx => absurd hx (hnothing x)⟩
    · intro t ht
      cases ht
    · intro before hbefore t ht
      rw [List.prefix_nil.1 hbefore] at ht
      exact ht
  | append_singleton ops op ih =>
    refine FlagOf.concat (ih ?_) hattested
    rw [run_concat] at hattested
    exact hattested.before

/-- For every request with an attested wallet and every run: the request is flagged exactly
when some nonzero transfer from another wallet was judged foreign, at the time of one of
them; the flag never changes once it is set; a judged transfer is never parked again, and is
unattributed or was attributed to a filled intent later; and as long as no transfer is judged
after the flag was set that happened before it, the flag is the earliest of the judged ones. -/
theorem unsolicited_flag_marks_first_verdict (ops : List (Time × Op)) (id : InvoiceId)
    (wallet : Address) (hwallet : (run Ledger.empty ops).wallet id = some wallet) :
    (((run Ledger.empty ops).flag id).isSome = true ↔ ∃ x, Judged ops id wallet x) ∧
    (∀ t, (run Ledger.empty ops).flag id = some t →
      ∃ x, Judged ops id wallet x ∧ x.observation.blockTimestamp = t) ∧
    (∀ before, before <+: ops → ∀ t, (run Ledger.empty before).flag id = some t →
      (run Ledger.empty ops).flag id = some t) ∧
    (∀ x, Judged ops id wallet x → ∃ p ∈ (run Ledger.empty ops).provenances, p.recorded = x ∧
      p.relayParkedAt = none ∧ (p.relayIntentId = none ∨
        ∃ r ∈ (run Ledger.empty ops).relayIntents.rows, p.relayIntentId = some r.id ∧
          r.invoiceId = p.recorded.invoiceId ∧ r.status = .filled)) ∧
    (JudgedInOrder ops id wallet → ∀ t, (run Ledger.empty ops).flag id = some t →
      IsLeast {s | ∃ x, Judged ops id wallet x ∧ x.observation.blockTimestamp = s} t) := by
  have h : FlagOf ops id wallet := flagOf (Or.inl hwallet)
  refine ⟨⟨fun hsome => ?_, ?_⟩, h.judged, h.stays, fun x hx => ?_, fun hordered t ht => ?_⟩
  · obtain ⟨t, ht⟩ := Option.isSome_iff_exists.1 hsome
    obtain ⟨x, hx, -⟩ := h.judged t ht
    exact ⟨x, hx⟩
  · rintro ⟨x, hx⟩
    by_contra hnone
    exact h.unset (by simpa using hnone) x hx
  · obtain ⟨p, hp, hpx, hstands⟩ := h.stands x hx
    exact ⟨p, hp, hpx, hstands.unparked, hstands.owner⟩
  · refine ⟨h.judged t ht, ?_⟩
    rintro s ⟨x, hx, rfl⟩
    exact h.least hordered t ht x hx

end

/-- A stranger's transfer to the attested sample request. -/
def strangerRun : List (Time × Op) :=
  [(0, .insertIssued attestedRequest),
    (1, .insertRelayIntent sampleIntent),
    (2, .applyFinalizedRange (sampleRange none 5 [sampleTransfer 3 0 0 60]))]

/-- A stranger's transfer in block three, and one in block four that is parked for a sent intent. -/
def besideParkedRun : List (Time × Op) :=
  [(0, .insertIssued attestedRequest),
    (1, .insertRelayIntent sampleIntent),
    (2, .markSent 3 7 70 800),
    (3, .applyFinalizedRange (sampleRange none 5 [sampleTransfer 3 0 0 40, sampleTransfer 4 0 1 60]))]

/-- The intent fails. -/
def unparkedRun : List (Time × Op) := besideParkedRun ++ [(4, .resolveFailed 3 .failed "failure")]

/-- The parked transfer is judged when its intent fails, and the flag keeps the earlier time. -/
theorem unsolicited_flag_marks_first_verdict_sample :
    (⟨⟨1, 7, sampleTransfer 4 0 1 60⟩, none, some 3⟩ : Provenance) ∈ (run Ledger.empty besideParkedRun).provenances ∧
    Judged unparkedRun 7 70 ⟨1, 7, sampleTransfer 4 0 1 60⟩ ∧ (run Ledger.empty unparkedRun).flag 7 = some 3 ∧
    IsLeast {s | ∃ x, Judged unparkedRun 7 70 x ∧ x.observation.blockTimestamp = s} 3 := by
  have hflag : (run Ledger.empty unparkedRun).flag 7 = some 3 := by decide
  have hprov : (run Ledger.empty unparkedRun).provenances =
      [⟨⟨1, 7, sampleTransfer 3 0 0 40⟩, none, none⟩, ⟨⟨1, 7, sampleTransfer 4 0 1 60⟩, none, none⟩] := by decide
  obtain ⟨-, -, hstays, hstands, hleast⟩ := unsolicited_flag_marks_first_verdict unparkedRun 7 70 (by decide)
  -- the flag is set at three, and no transfer of the run is older
  have hordered : JudgedInOrder unparkedRun 7 70 := by
    intro before hbefore t ht x hx _
    obtain rfl : 3 = t := Option.some.inj (hflag.symm.trans (hstays before hbefore t ht))
    obtain ⟨p, hp, rfl, -⟩ := hstands x hx
    rw [hprov] at hp
    simp only [List.mem_cons, List.not_mem_nil, or_false] at hp
    rcases hp with rfl | rfl <;> decide
  refine ⟨by decide, ⟨unparkedRun, List.prefix_refl _, rfl, ⟨⟨1, 7, sampleTransfer 4 0 1 60⟩, none, none⟩, ?_, rfl,
    by decide⟩, hflag, hleast hordered 3 hflag⟩
  rw [hprov]
  simp

/-- The quote behind a transfer is reconciled after the transfer was judged: it is attributed,
nothing is parked and nothing stands as foreign, and the flag stays. -/
lemma flag_outlives_attribution :
    ¬ ∀ L, Reachable L → ∀ id wallet, L.wallet id = some wallet →
      (∀ p ∈ L.provenances, p.recorded.invoiceId = id → p.relayParkedAt = none) →
      ((L.flag id).isSome = true ↔ ∃ x, L.Foreign id wallet x) := by
  intro hclaim
  let ops := strangerRun ++ [(3, .resolveFilled 3 [3000] 800 "success")]
  have hprov : (run Ledger.empty ops).provenances =
      [⟨⟨1, 7, sampleTransfer 3 0 0 60⟩, some 3, none⟩] := by decide
  have hset : ((run Ledger.empty ops).flag 7).isSome = true := by decide
  have hiff := hclaim _ ⟨ops, rfl⟩ 7 70 (by decide) (by rw [hprov]; decide)
  obtain ⟨x, -, p, hp, -, hforeign⟩ := hiff.1 hset
  rw [hprov, List.mem_singleton] at hp
  rw [hp] at hforeign
  cases hforeign

/-- The parked transfer is the earlier one: when it is judged, the flag stays at the other's time. -/
lemma flag_is_not_lowered :
    ¬ ∀ L, Reachable L → ∀ id wallet, L.wallet id = some wallet →
      (∀ p ∈ L.provenances, p.recorded.invoiceId = id → p.relayParkedAt = none) →
      ∀ t, L.flag id = some t → IsLeast (L.foreignTimes id wallet) t := by
  intro hclaim
  let ops : List (Time × Op) :=
    [(0, .insertIssued attestedRequest), (1, .insertRelayIntent sampleIntent), (2, .markSent 3 7 70 800),
      (3, .applyFinalizedRange (sampleRange none 5 [sampleTransfer 3 0 0 60, sampleTransfer 4 0 1 40])),
      (4, .resolveFailed 3 .failed "failure")]
  have hprov : (run Ledger.empty ops).provenances =
      [⟨⟨1, 7, sampleTransfer 3 0 0 60⟩, none, none⟩, ⟨⟨1, 7, sampleTransfer 4 0 1 40⟩, none, none⟩] := by decide
  have hleast := hclaim _ ⟨ops, rfl⟩ 7 70 (by decide) (by rw [hprov]; decide) 4 (by decide)
  have hearlier : 3 ∈ (run Ledger.empty ops).foreignTimes 7 70 :=
    ⟨⟨1, 7, sampleTransfer 3 0 0 60⟩, ⟨rfl, ⟨⟨1, 7, sampleTransfer 3 0 0 60⟩, none, none⟩, by rw [hprov]; simp, rfl,
      by decide⟩, rfl⟩
  have hle : 4 ≤ 3 := hleast.2 hearlier
  omega

/-- The flag is neither cleared nor lowered, so it need not be the earliest of the foreign transfers. -/
theorem flag_is_neither_cleared_nor_lowered :
    (¬ ∀ L, Reachable L → ∀ id wallet, L.wallet id = some wallet →
      (∀ p ∈ L.provenances, p.recorded.invoiceId = id → p.relayParkedAt = none) →
      ((L.flag id).isSome = true ↔ ∃ x, L.Foreign id wallet x)) ∧
    ¬ ∀ L, Reachable L → ∀ id wallet, L.wallet id = some wallet →
      (∀ p ∈ L.provenances, p.recorded.invoiceId = id → p.relayParkedAt = none) →
      ∀ t, L.flag id = some t → IsLeast (L.foreignTimes id wallet) t :=
  ⟨flag_outlives_attribution, flag_is_not_lowered⟩

end Payday
