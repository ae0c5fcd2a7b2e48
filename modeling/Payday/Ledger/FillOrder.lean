/-
# A fill and its transfer, in either order

A solver's transfer may be recorded before its fill is known or after it.  The match between
the two is written twice: over stored observations when the intent is resolved
(`fillMade`), and over incoming logs when a range is applied (`InvoiceCredit.attribution`).
This module compares the two orders.

Both orders record the same logs: resolving an intent changes no column that the loop over a
range reads to decide what to record (`recordObservations_sim`).  What is left is the
attribution of the new logs, transfer by transfer.
-/
import Payday.Ledger.Parking

namespace Payday

/-! ### The logs a range records -/

/-- The logs of a list that are recorded: the first one of each key, for the addresses whose
request takes the log's token. -/
def freshLogs (chainId : ChainId) (token? : Address → Option Address) :
    List (ChainId × Address × Hash × ℕ) → List PaymentObservation → List PaymentObservation
  | _, [] => []
  | seen, o :: rest =>
    if token? o.recipient = some o.token ∧ observationKey chainId o ∉ seen then
      o :: freshLogs chainId token? (seen ++ [observationKey chainId o]) rest
    else freshLogs chainId token? seen rest

/-- The tokens of the loaded credits. -/
def Credits.token? (credits : Credits) (a : Address) : Option Address :=
  (credits.find? a).map (·.token)

lemma Credits.token?_eq_some {credits : Credits} {a token : Address} :
    credits.token? a = some token ↔ ∃ c, credits.find? a = some c ∧ c.token = token := by
  simp [Credits.token?]

/-- The loop records the fresh logs, in order. -/
lemma recordObservations_fresh {chainId : ChainId} {now : Time} {obs : List PaymentObservation}
    {st st' : Credits × Observations} (h : recordObservations chainId now obs st = .ok st') :
    ∃ new, st'.2.rows = st.2.rows ++ new ∧ new.map (·.observation) =
      freshLogs chainId st.1.token? (st.2.rows.map ObservationRow.key) obs := by
  induction obs generalizing st with
  | nil =>
    obtain rfl := Except.ok.inj h
    exact ⟨[], by simp, rfl⟩
  | cons o rest ih =>
    unfold recordObservations at h
    split at h
    · cases h
    · rename_i st₁ hstep
      obtain ⟨new, hrows, hnew⟩ := ih h
      rcases recordObservation_cases hstep with ⟨rfl, hseen⟩ |
        ⟨c, c', hc, htoken, hunseen, hrow, hcount, hfind⟩
      · refine ⟨new, hrows, hnew.trans ?_⟩
        have hskip : ¬ (st₁.1.token? o.recipient = some o.token ∧
            observationKey chainId o ∉ st₁.2.rows.map ObservationRow.key) := by
          rintro ⟨htoken, hnot⟩
          obtain ⟨c, hc, htoken⟩ := Credits.token?_eq_some.1 htoken
          exact hnot (hseen c hc htoken)
        rw [freshLogs, if_neg hskip]
      · refine ⟨c.observationRow chainId now o :: new, by rw [hrows, hrow]; simp, ?_⟩
        have htakes : st.1.token? o.recipient = some o.token ∧
            observationKey chainId o ∉ st.2.rows.map ObservationRow.key :=
          ⟨Credits.token?_eq_some.2 ⟨c, hc, htoken⟩, hunseen⟩
        -- counting the log changes the credit's totals, not its token
        have htokens : st₁.1.token? = st.1.token? := by
          funext a
          rw [Credits.token?, Credits.token?, hfind]
          split
          · rename_i ha
            rw [ha, hc]
            exact congrArg some (InvoiceCredit.token_of_terms (InvoiceCredit.countAll_terms hcount))
          · rfl
        have hkeys : st₁.2.rows.map ObservationRow.key =
            st.2.rows.map ObservationRow.key ++ [observationKey chainId o] := by
          rw [hrow, List.map_append]
          rfl
        rw [freshLogs, if_pos htakes, List.map_cons, hnew, htokens, hkeys]
        rfl

/-! ### Ledgers with the same books -/

/-- What decides whether a credit takes a transfer. -/
def InvoiceCredit.books (credit : InvoiceCredit) : InvoiceCredit :=
  { credit with relay := [], firstForeignTimestamp := none }

lemma InvoiceCredit.count_books (c : InvoiceCredit) (o : PaymentObservation) :
    (c.count o).map InvoiceCredit.books = (c.books.count o).map InvoiceCredit.books := by
  have hnote : (c.books.note o).uncollected = (c.note o).uncollected := rfl
  have hdisposition : c.books.disposition o = c.disposition o := rfl
  have hreceived : c.books.received = c.received := rfl
  unfold InvoiceCredit.count
  rw [hnote, hdisposition, hreceived]
  split_ifs <;> rfl

/-- Two states of the loop that differ in Relay columns only. -/
structure SameBooks (st st₂ : Credits × Observations) : Prop where
  credits : ∀ a, (st.1.find? a).map InvoiceCredit.books = (st₂.1.find? a).map InvoiceCredit.books
  keys : st.2.rows.map ObservationRow.key = st₂.2.rows.map ObservationRow.key

lemma SameBooks.symm {st st₂ : Credits × Observations} (h : SameBooks st st₂) : SameBooks st₂ st :=
  ⟨fun a => (h.credits a).symm, h.keys.symm⟩

/-- One iteration succeeds in the one state when it does in the other. -/
lemma recordObservation_sim {chainId : ChainId} {now now₂ : Time} {o : PaymentObservation}
    {st st₂ st' : Credits × Observations} (hsame : SameBooks st st₂)
    (h : recordObservation chainId now st o = .ok st') :
    ∃ st₂', recordObservation chainId now₂ st₂ o = .ok st₂' ∧ SameBooks st' st₂' := by
  have hcredits := hsame.credits o.recipient
  unfold recordObservation at h ⊢
  rcases hc : st.1.find? o.recipient with _ | c
  · rw [hc] at h hcredits
    rcases hc₂ : st₂.1.find? o.recipient with _ | c₂
    · obtain rfl := Except.ok.inj h
      exact ⟨st₂, rfl, hsame⟩
    · rw [hc₂] at hcredits
      cases hcredits
  · rw [hc] at h hcredits
    rcases hc₂ : st₂.1.find? o.recipient with _ | c₂
    · rw [hc₂] at hcredits
      cases hcredits
    · rw [hc₂] at hcredits
      have hbooks : c.books = c₂.books := Option.some.inj hcredits
      have htoken : c₂.token = c.token := (congrArg (fun d => d.token) hbooks).symm
      have haddress : c₂.paymentAddress = c.paymentAddress :=
        (congrArg (fun d => d.paymentAddress) hbooks).symm
      simp only [htoken] at h ⊢
      by_cases htok : c.token ≠ o.token
      · simp only [if_pos htok] at h ⊢
        obtain rfl := Except.ok.inj h
        exact ⟨st₂, rfl, hsame⟩
      · simp only [if_neg htok] at h ⊢
        have hkey : (c₂.observationRow chainId now₂ o).key = (c.observationRow chainId now o).key :=
          rfl
        split at h
        · -- the log is recorded already, in both
          rename_i hseen
          obtain rfl := Except.ok.inj h
          have hseen₂ : st₂.2.insert? (c₂.observationRow chainId now₂ o) = none := by
            rw [Table.insert?_eq_none_iff, hkey, ← hsame.keys]
            exact Table.insert?_eq_none_iff.1 hseen
          rw [hseen₂]
          exact ⟨st₂, rfl, hsame⟩
        · rename_i observations hinsert
          obtain ⟨hnew, hrows⟩ := Table.insert?_eq_some_iff.1 hinsert
          obtain ⟨observations₂, hinsert₂⟩ :
              ∃ t, st₂.2.insert? (c₂.observationRow chainId now₂ o) = some t := by
            rw [← Option.ne_none_iff_exists']
            intro hnone
            rw [Table.insert?_eq_none_iff, hkey, ← hsame.keys] at hnone
            exact hnew hnone
          obtain ⟨-, hrows₂⟩ := Table.insert?_eq_some_iff.1 hinsert₂
          have hkeys : observations.rows.map ObservationRow.key =
              observations₂.rows.map ObservationRow.key := by
            rw [hrows, hrows₂, List.map_append, List.map_append, hsame.keys]
            rfl
          rw [hinsert₂]
          by_cases hzero : o.amount = 0
          · rw [if_pos hzero] at h
            obtain rfl := Except.ok.inj h
            simp only [if_pos hzero]
            exact ⟨_, rfl, hsame.credits, hkeys⟩
          · rw [if_neg hzero] at h
            simp only [if_neg hzero]
            -- both credits count the transfer with the same books
            have hcount : (c₂.count o).map InvoiceCredit.books =
                (c.count o).map InvoiceCredit.books := by
              rw [c₂.count_books, c.count_books, hbooks]
            split at h
            · cases h
            · rename_i counted hcounted
              obtain rfl := Except.ok.inj h
              rw [hcounted] at hcount
              rcases hcounted₂ : c₂.count o with e | counted₂
              · rw [hcounted₂] at hcount
                cases hcount
              · rw [hcounted₂] at hcount
                have hb₂ : counted₂.books = counted.books := Except.ok.inj hcount
                have haddress₂ : counted₂.paymentAddress = counted.paymentAddress :=
                  congrArg (fun d => d.paymentAddress) hb₂
                refine ⟨_, rfl, fun a => ?_, hkeys⟩
                simp only [Table.find?_upsert]
                rw [haddress₂]
                split
                · exact congrArg some hb₂.symm
                · exact hsame.credits a

lemma recordObservations_sim {chainId : ChainId} {now now₂ : Time} {obs : List PaymentObservation}
    {st st₂ st' : Credits × Observations} (hsame : SameBooks st st₂)
    (h : recordObservations chainId now obs st = .ok st') :
    ∃ st₂', recordObservations chainId now₂ obs st₂ = .ok st₂' := by
  induction obs generalizing st st₂ with
  | nil => exact ⟨st₂, rfl⟩
  | cons o rest ih =>
    unfold recordObservations at h ⊢
    split at h
    · cases h
    · rename_i st₁ hstep
      obtain ⟨st₂₁, hstep₂, hsame₁⟩ := recordObservation_sim hsame hstep
      rw [hstep₂]
      exact ih hsame₁ h

/-! ### What a resolution leaves alone -/

/-- Two ledgers with the same requests and the same recorded logs, up to Relay columns. -/
structure SameAccounts (L L₂ : Ledger) : Prop where
  invoices : ∃ f : Invoice → Invoice, L₂.invoices.rows = L.invoices.rows.map f ∧
    ∀ row, f row = { row with
      likelyUnsolicitedAt := (f row).likelyUnsolicitedAt, updatedAt := (f row).updatedAt }
  keys : L₂.observations.rows.map ObservationRow.key = L.observations.rows.map ObservationRow.key
  indexerCursor : L₂.indexerCursor = L.indexerCursor

/-- The unparking at the end of a resolution. -/
lemma unparkUnlessPending_sameAccounts (L : Ledger) (now : Time) (id : InvoiceId) :
    SameAccounts L (unparkUnlessPending L now id) := by
  have hrefl : SameAccounts L L := ⟨⟨fun row => row, by simp, fun _ => rfl⟩, rfl, rfl⟩
  unfold unparkUnlessPending
  split
  · exact hrefl
  · simp only
    split
    · exact hrefl
    · refine ⟨⟨_, rfl, fun row => ?_⟩, ?_, rfl⟩
      · split <;> rfl
      · refine Table.column_of_rows_map rfl fun r => ?_
        split <;> rfl

/-- The Relay owners are as they were, observation by observation. -/
lemma unparkUnlessPending_owners (L : Ledger) (now : Time) (id : InvoiceId) :
    ∃ g : ObservationRow → ObservationRow,
      (unparkUnlessPending L now id).observations.rows = L.observations.rows.map g ∧
      ∀ r, (g r).recorded = r.recorded ∧ (g r).relayIntentId = r.relayIntentId := by
  unfold unparkUnlessPending
  split
  · exact ⟨fun r => r, by simp, fun _ => ⟨rfl, rfl⟩⟩
  · simp only
    split
    · exact ⟨fun r => r, by simp, fun _ => ⟨rfl, rfl⟩⟩
    · refine ⟨_, rfl, fun r => ?_⟩
      split <;> exact ⟨rfl, rfl⟩

lemma Attributed.sameAccounts {L L₁ : Ledger} {now : Time} {intent : RelayIntent}
    {fills : List Hash} {origin : Hash} {relayStatus : String}
    (h : Attributed L L₁ now intent fills origin relayStatus) :
    SameAccounts L (unparkUnlessPending L₁ now intent.invoiceId) := by
  have hunpark := unparkUnlessPending_sameAccounts L₁ now intent.invoiceId
  refine ⟨?_, hunpark.keys.trans ?_, hunpark.indexerCursor.trans h.indexerCursor⟩
  · rw [← h.invoices]
    exact hunpark.invoices
  · refine Table.column_of_rows_map h.observations fun r => ?_
    split <;> rfl

/-- The books of a loaded credit are those of its row. -/
lemma rangeCredit_books (L : Ledger) (range : FinalizedRange) (row : Invoice) :
    (rangeCredit L range row).map InvoiceCredit.books = row.binding.bind fun b =>
      if b.chainId = range.chainId ∧ b.paymentAddress ∈ range.observations.map (·.recipient) then
        some (InvoiceCredit.ofRow [] row b)
      else none := by
  unfold rangeCredit
  rcases row.binding with _ | b
  · rfl
  · rw [Option.bind_some]
    simp only
    split_ifs <;> rfl

/-- The range, when the database returns the intents in another order. -/
def FinalizedRange.returning (range : FinalizedRange) (order : List IntentId) : FinalizedRange :=
  { range with intentOrder := order }

/-- The loaded credits of two ledgers with the same accounts, whatever the order of the intents. -/
lemma SameAccounts.sameBooks {L L₂ : Ledger} (h : SameAccounts L L₂) (range : FinalizedRange)
    (order : List IntentId) :
    SameBooks (loadCredits L range, L.observations)
      (loadCredits L₂ (range.returning order), L₂.observations) := by
  obtain ⟨f, hrows, hf⟩ := h.invoices
  -- row by row, the two ledgers load the same books
  have hload : ∀ rows : List Invoice,
      ((rows.map f).filterMap (rangeCredit L₂ (range.returning order))).map InvoiceCredit.books =
        (rows.filterMap (rangeCredit L range)).map InvoiceCredit.books := by
    intro rows
    induction rows with
    | nil => rfl
    | cons row rest ih =>
      have hrow : (rangeCredit L₂ (range.returning order) (f row)).map InvoiceCredit.books =
          (rangeCredit L range row).map InvoiceCredit.books := by
        rw [rangeCredit_books, rangeCredit_books, hf row]
        rfl
      simp only [List.map_cons, List.filterMap_cons]
      rcases hl : rangeCredit L range row with _ | c <;>
        rcases hl₂ : rangeCredit L₂ (range.returning order) (f row) with _ | c₂ <;> rw [hl, hl₂] at hrow
      · exact ih
      · cases hrow
      · cases hrow
      · simp only [List.map_cons, ih, Option.some.inj hrow]
  have hfold : ∀ (cs cs₂ : List InvoiceCredit) (t t₂ : Credits),
      cs₂.map InvoiceCredit.books = cs.map InvoiceCredit.books →
      (∀ a, (t.find? a).map InvoiceCredit.books = (t₂.find? a).map InvoiceCredit.books) →
      ∀ a, ((cs.foldl Table.upsert t).find? a).map InvoiceCredit.books =
        ((cs₂.foldl Table.upsert t₂).find? a).map InvoiceCredit.books := by
    intro cs
    induction cs with
    | nil =>
      intro cs₂ t t₂ hbooks hsame
      rw [List.map_eq_nil_iff.1 hbooks]
      exact hsame
    | cons c rest ih =>
      intro cs₂ t t₂ hbooks hsame
      obtain ⟨c₂, rest₂, rfl, hc, hrest⟩ := List.map_eq_cons_iff.1 hbooks
      refine ih rest₂ _ _ hrest fun a => ?_
      have haddress : c₂.paymentAddress = c.paymentAddress :=
        congrArg (fun d => d.paymentAddress) hc
      rw [Table.find?_upsert, Table.find?_upsert, haddress]
      split
      · exact congrArg some hc.symm
      · exact hsame a
  refine ⟨fun a => ?_, h.keys.symm⟩
  refine hfold _ _ _ _ ?_ (fun _ => rfl) a
  rw [hrows]
  exact hload L.invoices.rows

/-! ### Who owns a transfer -/

/-- The logs attributed to an intent. -/
def Ledger.attributedTo (L : Ledger) (id : IntentId) : Set Recorded :=
  {x | ∃ r ∈ L.observations.rows, r.recorded = x ∧ r.relayIntentId = some id}

/-- A recorded log belongs to one row. -/
lemma Ledger.mem_attributedTo {L : Ledger} {id : IntentId} {r : ObservationRow}
    (hr : r ∈ L.observations.rows) :
    r.recorded ∈ L.attributedTo id ↔ r.relayIntentId = some id := by
  refine ⟨?_, fun h => ⟨r, hr, rfl, h⟩⟩
  rintro ⟨r', hr', hrec, hid⟩
  have hkey : r'.key = r.key := by
    have h := congrArg Recorded.key hrec
    exact h
  rwa [L.observations.eq_of_key_eq hr' hr hkey] at hid

/-- What an accepted fill attributes. -/
lemma Attributed.attributedTo {L L₁ : Ledger} {now : Time} {intent : RelayIntent}
    {fills : List Hash} {origin : Hash} {relayStatus : String}
    (h : Attributed L L₁ now intent fills origin relayStatus) :
    (unparkUnlessPending L₁ now intent.invoiceId).attributedTo intent.id =
      {x | ∃ r ∈ L.observations.rows, r.recorded = x ∧
        (L.attributes intent fills r = true ∨ r.relayIntentId = some intent.id)} := by
  obtain ⟨g, hrows, hg⟩ := unparkUnlessPending_owners L₁ now intent.invoiceId
  ext x
  constructor
  · rintro ⟨r, hr, rfl, hid⟩
    rw [hrows, h.observations, List.map_map] at hr
    obtain ⟨o, ho, rfl⟩ := List.mem_map.1 hr
    simp only [Function.comp_apply, hg] at hid ⊢
    by_cases hattr : L.attributes intent fills o = true
    · exact ⟨o, ho, by rw [if_pos hattr]; rfl, Or.inl hattr⟩
    · rw [if_neg hattr] at hid
      exact ⟨o, ho, by rw [if_neg hattr], Or.inr hid⟩
  · rintro ⟨o, ho, rfl, howner⟩
    refine ⟨g (if L.attributes intent fills o then
      { o with relayIntentId := some intent.id, relayParkedAt := none } else o), ?_, ?_, ?_⟩
    · rw [hrows, h.observations, List.map_map]
      exact List.mem_map.2 ⟨o, ho, rfl⟩
    · rw [(hg _).1]
      split <;> rfl
    · rw [(hg _).2]
      split
      · rfl
      · rename_i hattr
        exact howner.resolve_left hattr

/-- The filled intent whose quoted output the log is. -/
def RelayIntent.explains (o : PaymentObservation) (r : RelayIntent) : Bool :=
  decide (r.status = .filled) && decide (r.quotedOutAmount = o.amount) &&
    r.fillTxHashes.contains o.transactionHash

/-- The owner the range path gives a log. -/
lemma InvoiceCredit.relayIntentId_observationRow (c : InvoiceCredit) (chainId : ChainId) (now : Time)
    (o : PaymentObservation) :
    (c.observationRow chainId now o).relayIntentId =
      if c.payerWallet = some o.sender ∨ o.amount = 0 then none
      else (c.filledIntent o).map (·.id) := by
  simp only [observationRow]
  by_cases hzero : o.amount = 0
  · have hattr : c.attribution o = .payer ∨ c.attribution o = .foreign := by
      unfold attribution
      split
      · simp [hzero]
      · split_ifs <;> simp
    rw [if_pos (Or.inr hzero)]
    rcases hattr with h | h <;> rw [h]
  · rcases hwallet : c.payerWallet with _ | wallet
    · rw [if_neg (by simp [hzero])]
      simp only [attribution, hwallet, if_neg hzero]
      rcases c.filledIntent o with _ | filled <;> rfl
    · by_cases hsender : o.sender = wallet
      · rw [if_pos (Or.inl (by rw [hsender]))]
        simp only [attribution, hwallet, if_pos hsender]
      · have hne : ¬ (some wallet = some o.sender ∨ o.amount = 0) := by
          rintro (h | h)
          · exact hsender (Option.some.inj h).symm
          · exact hzero h
        rw [if_neg hne]
        simp only [attribution, hwallet, if_neg hsender, if_neg hzero]
        rcases c.filledIntent o with _ | filled
        · simp only
          split_ifs <;> rfl
        · rfl

lemma InvoiceCredit.filledIntent_ofRow (intents : List RelayIntent) (row : Invoice) (b : Binding)
    (o : PaymentObservation) :
    (InvoiceCredit.ofRow intents row b).filledIntent o =
      intents.find? (fun r => decide (r.invoiceId = row.id) && r.explains o) := by
  simp only [filledIntent, ofRow, List.find?_filter]
  congr 1
  funext r
  rcases hs : r.status <;> simp [RelayIntent.explains, hs]

/-! ### One log, in both orders -/

/-- The intents that the range loads before the intent. -/
def Ledger.intentsBefore (L : Ledger) (range : FinalizedRange) (intent : RelayIntent) :
    List RelayIntent :=
  (range.loads L.relayIntents.rows).takeWhile (fun r => decide (r.id ≠ intent.id))

lemma Ledger.mem_of_mem_intentsBefore {L : Ledger} {range : FinalizedRange}
    {intent r : RelayIntent} (h : r ∈ L.intentsBefore range intent) : r ∈ L.relayIntents.rows :=
  (range.loads_perm _).mem_iff.1 ((List.takeWhile_sublist _).subset h)

/-- The order in which intents are returned depends on their ids only. -/
lemma FinalizedRange.loads_map (range : FinalizedRange) {f : RelayIntent → RelayIntent}
    (hid : ∀ r, (f r).id = r.id) (intents : List RelayIntent) :
    range.loads (intents.map f) = (range.loads intents).map f := by
  refine (List.map_insertionSort _ _ f intents fun a _ b _ => ?_).symm
  rw [hid, hid]

/-- A log the fill of a sent intent explains gets the same owner in both orders, when the range
loads the intents as it does: from the attested wallet, it is the wallet the quote was made for;
from anybody else, another filled intent that is loaded earlier explains it too, or no other
filled intent does and it is not from the quote's own wallet. -/
structure FillAgrees (L : Ledger) (range : FinalizedRange) (intent : RelayIntent)
    (o : PaymentObservation) : Prop where
  attested : L.wallet intent.invoiceId = some o.sender → o.sender = intent.payerWallet
  other : L.wallet intent.invoiceId ≠ some o.sender →
    (∃ r ∈ L.intentsBefore range intent, r.invoiceId = intent.invoiceId ∧ r.explains o = true) ∨
    (o.sender ≠ intent.payerWallet ∧
      ∀ r ∈ L.relayIntents.rows, r.invoiceId = intent.invoiceId → r.explains o = false)

section

variable {L : Ledger} {intent : RelayIntent} {fills : List Hash} {origin : Hash} {t u : Time}
  {relayStatus : String} {o : PaymentObservation} {range : FinalizedRange}

/-- The fill of the intent explains the log. -/
def RelayIntent.quotes (intent : RelayIntent) (fills : List Hash) (o : PaymentObservation) : Prop :=
  o.amount ≠ 0 ∧ o.amount = intent.quotedOutAmount ∧ o.transactionHash ∈ fills

lemma RelayIntent.explains_fill {r : RelayIntent} :
    (r.fill u fills origin relayStatus).explains o = true ↔
      r.quotedOutAmount = o.amount ∧ o.transactionHash ∈ fills := by
  simp only [RelayIntent.explains, RelayIntent.fill, Bool.and_eq_true, List.contains_iff_mem,
    true_and, decide_true]
  exact and_congr_left fun _ => decide_eq_true_iff

/-- Recorded first: the fill takes the log unless another intent or the payer has it. -/
lemma attributes_observationRow {row : Invoice} {b : Binding} {chainId : ChainId}
    (hrow : L.invoices.find? row.id = some row) (hb : row.binding = some b)
    (hchain : b.chainId = chainId) (hrecipient : b.paymentAddress = o.recipient)
    (htoken : b.token = o.token) (hid : row.id = intent.invoiceId) :
    L.attributes intent fills
        ((InvoiceCredit.ofRow (range.loads L.relayIntents.rows) row b).observationRow chainId t o) =
          true ↔
      intent.quotes fills o ∧ o.sender ≠ intent.payerWallet ∧
        (b.payerWallet = some o.sender ∨
          ∀ r ∈ L.relayIntents.rows, r.invoiceId = intent.invoiceId → r.explains o = false) := by
  have hbinding : (L.invoices.find? intent.invoiceId).bind (·.binding) = some b := by
    rw [← hid, hrow, Option.bind_some, hb]
  set credit := InvoiceCredit.ofRow (range.loads L.relayIntents.rows) row b with hcredit
  have howner := credit.relayIntentId_observationRow chainId t o
  have hpayer : credit.payerWallet = b.payerWallet := rfl
  have hnone : (credit.filledIntent o = none) ↔
      ∀ r ∈ L.relayIntents.rows, r.invoiceId = intent.invoiceId → r.explains o = false := by
    rw [hcredit, InvoiceCredit.filledIntent_ofRow, List.find?_eq_none, hid]
    simp [(range.loads_perm _).mem_iff]
  rw [Ledger.attributes, hbinding, Option.any_some]
  have hdisposition : o.amount ≠ 0 → (credit.disposition o).kind ≠ .error := by
    intro hzero
    unfold InvoiceCredit.disposition
    rw [if_neg hzero]
    split_ifs <;> simp [Disposition.kind]
  have hmade : fillMade intent b fills (credit.observationRow chainId t o) = true ↔
      (credit.observationRow chainId t o).relayIntentId = none ∧ intent.quotes fills o ∧
        o.sender ≠ intent.payerWallet := by
    have hinvoice : (credit.observationRow chainId t o).invoiceId = intent.invoiceId := hid
    have hobs : (credit.observationRow chainId t o).observation = o := rfl
    have hdisp : (credit.observationRow chainId t o).disposition = credit.disposition o := rfl
    have hch : (credit.observationRow chainId t o).chainId = chainId := rfl
    simp only [fillMade, hinvoice, hobs, hdisp, hch, hchain, hrecipient, htoken, decide_true,
      Bool.true_and, Bool.and_true, Bool.and_eq_true, Option.isNone_iff_eq_none,
      List.contains_iff_mem, decide_eq_true_eq, bne_iff_ne, RelayIntent.quotes]
    constructor
    · rintro ⟨⟨⟨⟨⟨howner, hhash⟩, hsender⟩, -⟩, hpos⟩, hamount⟩
      exact ⟨howner, ⟨Nat.pos_iff_ne_zero.1 hpos, hamount, hhash⟩, hsender⟩
    · rintro ⟨howner, ⟨hzero, hamount, hhash⟩, hsender⟩
      exact ⟨⟨⟨⟨⟨howner, hhash⟩, hsender⟩, hdisposition hzero⟩, Nat.pos_iff_ne_zero.2 hzero⟩, hamount⟩
  rw [hmade, howner, hpayer, ← hnone]
  constructor
  · rintro ⟨hfree, hquotes, hsender⟩
    refine ⟨hquotes, hsender, ?_⟩
    by_cases hattested : b.payerWallet = some o.sender
    · exact Or.inl hattested
    · rw [if_neg (by rintro (h | h); exacts [hattested h, hquotes.1 h])] at hfree
      exact Or.inr (Option.map_eq_none_iff.1 hfree)
  · rintro ⟨hquotes, hsender, hfree⟩
    refine ⟨?_, hquotes, hsender⟩
    rcases hfree with hattested | hfree
    · rw [if_pos (Or.inl hattested)]
    · rw [hfree]
      split <;> rfl

/-- Filled first: the log goes to the first loaded intent that explains it, unless the payer
made it. -/
lemma relayIntentId_filled {row : Invoice} {b : Binding} {chainId : ChainId} {L₂ : Ledger}
    (hmem : intent ∈ L.relayIntents.rows)
    (hintents : L₂.relayIntents.rows = L.relayIntents.rows.map (fun r =>
      if decide (r.id = intent.id) then r.fill u fills origin relayStatus else r))
    (hid : row.id = intent.invoiceId) :
    ((InvoiceCredit.ofRow (range.loads L₂.relayIntents.rows) row b).observationRow chainId t
        o).relayIntentId = some intent.id ↔
      intent.quotes fills o ∧ b.payerWallet ≠ some o.sender ∧
        ∀ r ∈ L.intentsBefore range intent, r.invoiceId = intent.invoiceId → r.explains o = false := by
  set g : RelayIntent → RelayIntent := fun r =>
    if decide (r.id = intent.id) then r.fill u fills origin relayStatus else r with hg
  have hgself : g intent = intent.fill u fills origin relayStatus := by simp [hg]
  have hgid : ∀ r, (g r).id = r.id := by
    intro r
    simp only [hg]
    split <;> rfl
  obtain ⟨before, after, hsplit⟩ := List.append_of_mem ((range.loads_perm _).mem_iff.2 hmem)
  have hnodup := ((range.loads_perm L.relayIntents.rows).map RelayIntent.id).nodup_iff.2
    L.relayIntents.nodup
  rw [hsplit, List.map_append, List.map_cons, List.nodup_append] at hnodup
  have hother : ∀ r ∈ before, r.id ≠ intent.id := fun r hr =>
    hnodup.2.2 _ (List.mem_map_of_mem hr) _ (by simp)
  have hbefore : L.intentsBefore range intent = before := by
    rw [Ledger.intentsBefore, hsplit, List.takeWhile_append_of_pos (fun r hr => by
      simpa using hother r hr), List.takeWhile_cons_of_neg (by simp), List.append_nil]
  have hgbefore : before.map g = before := by
    refine (List.map_congr_left fun r hr => ?_).trans (List.map_id _)
    simp [hg, hother r hr]
  -- the first intent that explains the log is before this one, this one, or after it
  set explains : RelayIntent → Bool :=
    fun r => decide (r.invoiceId = intent.invoiceId) && r.explains o with hexplains
  have hfind : (range.loads L₂.relayIntents.rows).find? explains =
      (before.find? explains).or ((g intent :: after.map g).find? explains) := by
    rw [hintents, range.loads_map hgid, hsplit, List.map_append, hgbefore, List.map_cons, List.find?_append]
  have hself : explains (g intent) = true ↔
      intent.quotedOutAmount = o.amount ∧ o.transactionHash ∈ fills := by
    rw [hgself, hexplains]
    simp only [Bool.and_eq_true, RelayIntent.explains_fill]
    exact and_iff_right (decide_eq_true rfl)
  have hpayer : (InvoiceCredit.ofRow (range.loads L₂.relayIntents.rows) row b).payerWallet =
      b.payerWallet := rfl
  rw [InvoiceCredit.relayIntentId_observationRow, InvoiceCredit.filledIntent_ofRow, hid, hfind,
    hbefore, hpayer]
  have hnone : before.find? explains = none ↔
      ∀ r ∈ before, r.invoiceId = intent.invoiceId → r.explains o = false := by
    rw [List.find?_eq_none]
    simp [hexplains]
  constructor
  · intro h
    split at h
    · cases h
    · rename_i hforeign
      obtain ⟨hattested, hzero⟩ := not_or.1 hforeign
      rcases hb : before.find? explains with _ | r
      · by_cases hquoted : explains (g intent) = true
        · obtain ⟨hamount, hhash⟩ := hself.1 hquoted
          exact ⟨⟨hzero, hamount.symm, hhash⟩, hattested, hnone.1 hb⟩
        · -- an intent after this one has another id
          rw [hb, Option.none_or, List.find?_cons_of_neg hquoted] at h
          obtain ⟨r, hr, hrid⟩ := Option.map_eq_some_iff.1 h
          obtain ⟨r₀, hr₀, rfl⟩ := List.mem_map.1 (List.mem_of_find?_eq_some hr)
          rw [hgid] at hrid
          exact absurd (List.mem_map.2 ⟨r₀, hr₀, hrid⟩) (List.nodup_cons.1 hnodup.2.1).1
      · rw [hb, Option.some_or] at h
        exact absurd (Option.some.inj h) (hother r (List.mem_of_find?_eq_some hb))
  · rintro ⟨⟨hzero, hamount, hhash⟩, hattested, hall⟩
    rw [if_neg (not_or.2 ⟨hattested, hzero⟩), hnone.2 hall, Option.none_or,
      List.find?_cons_of_pos (hself.2 ⟨hamount.symm, hhash⟩), hgself]
    rfl

/-- A log's owner is a filled intent of its request. -/
lemma owner_observationRow {row : Invoice} {b : Binding} {chainId : ChainId} {id : IntentId}
    (h : ((InvoiceCredit.ofRow (range.loads L.relayIntents.rows) row b).observationRow chainId t
      o).relayIntentId = some id) :
    ∃ r ∈ L.relayIntents.rows, r.id = id ∧ r.invoiceId = row.id ∧ r.status = .filled := by
  rw [InvoiceCredit.relayIntentId_observationRow, InvoiceCredit.filledIntent_ofRow] at h
  split at h
  · cases h
  · obtain ⟨r, hr, hid⟩ := Option.map_eq_some_iff.1 h
    have hP := List.find?_some hr
    simp only [RelayIntent.explains, Bool.and_eq_true, decide_eq_true_eq] at hP
    exact ⟨r, (range.loads_perm _).mem_iff.1 (List.mem_of_find?_eq_some hr), hid, hP.1, hP.2.1.1⟩

/-- The two orders agree on a log of the request exactly when `FillAgrees` says so. -/
lemma owners_agree_iff {row : Invoice} {b : Binding} {chainId : ChainId} {L₂ : Ledger}
    (hmem : intent ∈ L.relayIntents.rows) (hsent : intent.status = .sent)
    (hintents : L₂.relayIntents.rows = L.relayIntents.rows.map (fun r =>
      if decide (r.id = intent.id) then r.fill u fills origin relayStatus else r))
    (hrow : L.invoices.find? row.id = some row) (hb : row.binding = some b)
    (hchain : b.chainId = chainId) (hrecipient : b.paymentAddress = o.recipient)
    (htoken : b.token = o.token) (hid : row.id = intent.invoiceId) {row₂ : Invoice} {b₂ : Binding}
    (hid₂ : row₂.id = row.id) (hpayer₂ : b₂.payerWallet = b.payerWallet) {range₂ : FinalizedRange} :
    ((L.attributes intent fills
          ((InvoiceCredit.ofRow (range.loads L.relayIntents.rows) row b).observationRow chainId t o) =
            true ∨
        ((InvoiceCredit.ofRow (range.loads L.relayIntents.rows) row b).observationRow chainId t
          o).relayIntentId = some intent.id) ↔
      ((InvoiceCredit.ofRow (range₂.loads L₂.relayIntents.rows) row₂ b₂).observationRow chainId t
        o).relayIntentId = some intent.id) ↔
      (intent.quotes fills o → FillAgrees L range₂ intent o) := by
  have hwallet : L.wallet intent.invoiceId = b.payerWallet := by
    rw [← hid]
    exact Ledger.wallet_of_binding hrow hb
  have hnot : ((InvoiceCredit.ofRow (range.loads L.relayIntents.rows) row b).observationRow chainId t
      o).relayIntentId ≠ some intent.id := by
    intro howner
    obtain ⟨r, hr, hrid, -, hfilled⟩ := owner_observationRow howner
    rw [L.relayIntents.eq_of_key_eq hr hmem hrid, hsent] at hfilled
    cases hfilled
  rw [or_iff_left hnot, attributes_observationRow hrow hb hchain hrecipient htoken hid,
    relayIntentId_filled hmem hintents (hid₂.trans hid), hpayer₂]
  by_cases hquotes : intent.quotes fills o
  · simp only [hquotes, true_and, true_imp_iff]
    -- what nobody explains, nobody explains earlier
    have hearlier : (∀ r ∈ L.relayIntents.rows, r.invoiceId = intent.invoiceId →
        r.explains o = false) → ∀ r ∈ L.intentsBefore range₂ intent, r.invoiceId = intent.invoiceId →
        r.explains o = false := fun hall r hr => hall r (Ledger.mem_of_mem_intentsBefore hr)
    have hsome : (¬ ∀ r ∈ L.intentsBefore range₂ intent, r.invoiceId = intent.invoiceId →
        r.explains o = false) ↔ ∃ r ∈ L.intentsBefore range₂ intent, r.invoiceId = intent.invoiceId ∧
          r.explains o = true := by simp
    constructor
    · intro hiff
      refine ⟨fun hattested => ?_, fun hforeign => ?_⟩
      · rw [hwallet] at hattested
        by_contra hne
        exact (hiff.1 ⟨hne, Or.inl hattested⟩).1 hattested
      · rw [hwallet] at hforeign
        by_cases hfirst : ∀ r ∈ L.intentsBefore range₂ intent, r.invoiceId = intent.invoiceId →
            r.explains o = false
        · obtain ⟨hsender, halone⟩ := hiff.2 ⟨hforeign, hfirst⟩
          exact Or.inr ⟨hsender, halone.resolve_left hforeign⟩
        · exact Or.inl (hsome.1 hfirst)
    · intro hagrees
      by_cases hattested : b.payerWallet = some o.sender
      · have hsender := hagrees.attested (hwallet.trans hattested)
        exact ⟨fun h => absurd hsender h.1, fun h => absurd hattested h.1⟩
      · rcases hagrees.other (by rw [hwallet]; exact hattested) with hfirst | ⟨hsender, halone⟩
        · refine ⟨fun h => ?_, fun h => absurd h.2 (hsome.2 hfirst)⟩
          exact absurd (hearlier (h.2.resolve_left hattested)) (hsome.2 hfirst)
        · exact ⟨fun _ => ⟨hattested, hearlier halone⟩, fun _ => ⟨hsender, Or.inr halone⟩⟩
  · simp [hquotes]

end

/-! ### Both orders -/

/-- The logs a range records. -/
def Ledger.newLogs (L : Ledger) (range : FinalizedRange) : List PaymentObservation :=
  freshLogs range.chainId (loadCredits L range).token? (L.observations.rows.map ObservationRow.key)
    range.observations

/-- The request a range records the logs to an address for. -/
def Ledger.owner? (L : Ledger) (range : FinalizedRange) (a : Address) : Option InvoiceId :=
  ((loadCredits L range).find? a).map (·.id)

/-- Both calls go through: the fill is accepted, and the range finds its cursor and fits. -/
structure TakeEffect (L : Ledger) (intent : RelayIntent) (fills : List Hash) (origin : Hash)
    (t : Time) (range : FinalizedRange) : Prop where
  accepted : L.Accepts intent fills origin
  cursor : L.cursor range.chainId = range.expectedCursor
  recorded : ∃ L' applied, recordRange L t range = .ok (L', applied)

section

variable {L L' L₂ : Ledger} {range : FinalizedRange} {t : Time} {applied : RangeApplied}

lemma step_range_eq (hcursor : L.cursor range.chainId = range.expectedCursor)
    (h : recordRange L t range = .ok (L', applied)) :
    step L t (.applyFinalizedRange range) = L' := by
  simp only [step, applyFinalizedRange, hcursor, ne_eq, not_true_eq_false, if_false, h]

lemma step_range_refused (h : ¬ (L.cursor range.chainId = range.expectedCursor ∧
      ∃ L' applied, recordRange L t range = .ok (L', applied))) :
    step L t (.applyFinalizedRange range) = L := by
  rcases step_applyFinalizedRange L t range with hsame | ⟨applied, hrecord⟩
  · exact hsame
  · by_cases hcursor : L.cursor range.chainId = range.expectedCursor
    · exact absurd ⟨hcursor, _, _, hrecord⟩ h
    · simp only [step, applyFinalizedRange, hcursor, ne_eq, not_false_eq_true, if_true]
      split
      · rename_i L'' result hmatch
        split at hmatch
        · split at hmatch <;> exact (congrArg Prod.fst (Except.ok.inj hmatch)).symm
        · exact (congrArg Prod.fst (Except.ok.inj hmatch)).symm
      · rfl

/-- A range fits one ledger when it fits another with the same books. -/
lemma recordRange_sim {order : List IntentId}
    (hsame : SameBooks (loadCredits L range, L.observations)
      (loadCredits L₂ (range.returning order), L₂.observations))
    (h : recordRange L t range = .ok (L', applied)) :
    ∃ L₂' applied₂, recordRange L₂ t (range.returning order) = .ok (L₂', applied₂) := by
  obtain ⟨credits, hloop, -, -⟩ := recordRange_eq_ok h
  obtain ⟨⟨credits₂, observations₂⟩, hloop₂⟩ := recordObservations_sim hsame hloop
  have hloop₂' : recordObservations (range.returning order).chainId t
      (range.returning order).observations (loadCredits L₂ (range.returning order), L₂.observations) =
        .ok (credits₂, observations₂) := hloop₂
  unfold recordRange
  rw [hloop₂']
  exact ⟨_, _, rfl⟩

/-- The rows of a recorded range are those of its new logs, each by the credit at its
recipient. -/
lemma recordRange_newLogs (h : recordRange L t range = .ok (L', applied)) :
    ∃ new, L'.observations.rows = L.observations.rows ++ new ∧
      (∀ r ∈ new, r.observation ∈ L.newLogs range ∧
        ∃ c, (loadCredits L range).find? r.observation.recipient = some c ∧
          c.token = r.observation.token ∧
          r = c.observationRow range.chainId t r.observation) ∧
      ∀ o ∈ L.newLogs range, ∃ r ∈ new, r.observation = o := by
  obtain ⟨credits, hloop, -, -⟩ := recordRange_eq_ok h
  obtain ⟨new, hrows, hnew⟩ := recordObservations_rows hloop
  obtain ⟨new', hrows', hfresh⟩ := recordObservations_fresh hloop
  obtain rfl : new = new' := List.append_cancel_left (hrows.symm.trans hrows')
  have hlogs : new.map (·.observation) = L.newLogs range := hfresh
  refine ⟨new, hrows, fun r hr => ⟨?_, (hnew r hr).2⟩, fun o ho => ?_⟩
  · rw [← hlogs]
    exact List.mem_map_of_mem hr
  · rw [← hlogs] at ho
    exact List.mem_map.1 ho

/-- Ledgers with the same books record the same logs for the same requests. -/
lemma newLogs_sim {order : List IntentId}
    (hsame : SameBooks (loadCredits L range, L.observations)
      (loadCredits L₂ (range.returning order), L₂.observations)) :
    L₂.newLogs (range.returning order) = L.newLogs range := by
  have htoken : (loadCredits L₂ (range.returning order)).token? = (loadCredits L range).token? := by
    funext a
    have h := hsame.credits a
    have hbooks : ∀ c : Option InvoiceCredit,
        c.map (·.token) = (c.map InvoiceCredit.books).map (·.token) := by
      rintro (_ | c) <;> rfl
    rw [Credits.token?, Credits.token?, hbooks, hbooks ((loadCredits L range).find? a)]
    exact congrArg _ h.symm
  rw [Ledger.newLogs, Ledger.newLogs, htoken, hsame.keys]
  rfl

lemma attributes_of_bindings (h : L'.bindings = L.bindings) (intent : RelayIntent)
    (fills : List Hash) : L'.attributes intent fills = L.attributes intent fills := by
  have hbinding : ∀ M : Ledger, ∀ id, (M.invoices.find? id).bind (·.binding) =
      (M.bindings.find? (fun x => decide (x.1 = id))).bind (·.2) := by
    intro M id
    rw [Ledger.bindings, List.find?_map, Table.find?]
    simp only [Function.comp_def]
    rcases List.find? _ M.invoices.rows with _ | row <;> rfl
  funext o
  rw [Ledger.attributes, Ledger.attributes, hbinding, hbinding L, h]

/-- A new row of the range and the row of the same log when the fill comes first. -/
lemma owners_of_pair {intent : RelayIntent} {fills : List Hash} {origin : Hash} {u : Time}
    {relayStatus : String} (hmem : intent ∈ L.relayIntents.rows) (hsent : intent.status = .sent)
    (hintents : L₂.relayIntents.rows = L.relayIntents.rows.map (fun r =>
      if decide (r.id = intent.id) then r.fill u fills origin relayStatus else r))
    {order : List IntentId} (hsame : SameBooks (loadCredits L range, L.observations)
      (loadCredits L₂ (range.returning order), L₂.observations))
    {o : PaymentObservation} {c c₂ : InvoiceCredit}
    (hc : (loadCredits L range).find? o.recipient = some c) (htoken : c.token = o.token)
    (hc₂ : (loadCredits L₂ (range.returning order)).find? o.recipient = some c₂) :
    (c₂.observationRow range.chainId t o).recorded = (c.observationRow range.chainId t o).recorded ∧
    (((L.attributes intent fills (c.observationRow range.chainId t o) = true ∨
        (c.observationRow range.chainId t o).relayIntentId = some intent.id) ↔
      (c₂.observationRow range.chainId t o).relayIntentId = some intent.id) ↔
      (L.owner? range o.recipient = some intent.invoiceId → intent.quotes fills o →
        FillAgrees L (range.returning order) intent o)) := by
  have hbooks : c.books = c₂.books := by
    have h := hsame.credits o.recipient
    simp only [hc, hc₂] at h
    exact Option.some.inj h
  have hcid : c₂.id = c.id := (congrArg (fun d => d.id) hbooks).symm
  have hpayer : c₂.payerWallet = c.payerWallet := (congrArg (fun d => d.payerWallet) hbooks).symm
  have howner : L.owner? range o.recipient = some c.id := by rw [Ledger.owner?, hc]; rfl
  obtain ⟨row, b, hrow, hb, hchain, haddress, rfl⟩ := loadCredits_find? hc
  obtain ⟨row₂, b₂, -, -, -, -, rfl⟩ := loadCredits_find? hc₂
  refine ⟨congrArg (fun id => (⟨range.chainId, id, o⟩ : Recorded)) hcid, ?_⟩
  by_cases hid : row.id = intent.invoiceId
  · have hown : L.owner? range o.recipient = some intent.invoiceId := howner.trans (congrArg some hid)
    rw [owners_agree_iff hmem hsent hintents (Table.find?_of_mem hrow) hb hchain haddress htoken hid
      hcid hpayer]
    simp [hown]
  · -- the log is another request's: the intent gets it in neither order
    have hnot : L.owner? range o.recipient ≠ some intent.invoiceId := by
      rw [howner]
      exact fun heq => hid (Option.some.inj heq)
    have hfirst : ¬ (L.attributes intent fills ((InvoiceCredit.ofRow
          (range.loads L.relayIntents.rows) row b).observationRow range.chainId t o) = true ∨
        ((InvoiceCredit.ofRow (range.loads L.relayIntents.rows) row b).observationRow range.chainId t
          o).relayIntentId = some intent.id) := by
      rintro (hattr | hattr)
      · exact hid (Ledger.attributes_own hattr).1
      · obtain ⟨r, hr, hrid, hinvoice, -⟩ := owner_observationRow hattr
        rw [L.relayIntents.eq_of_key_eq hr hmem hrid] at hinvoice
        exact hid hinvoice.symm
    have hsecond : ((InvoiceCredit.ofRow ((range.returning order).loads L₂.relayIntents.rows) row₂
        b₂).observationRow range.chainId t o).relayIntentId ≠ some intent.id := by
      intro hattr
      obtain ⟨r, hr, hrid, hinvoice, -⟩ := owner_observationRow hattr
      rw [hintents] at hr
      obtain ⟨r₀, hr₀, rfl⟩ := List.mem_map.1 hr
      have hr₀id : r₀.id = intent.id := by
        rw [← hrid]
        split <;> rfl
      rw [L.relayIntents.eq_of_key_eq hr₀ hmem hr₀id] at hinvoice
      refine hid (Eq.symm ?_)
      rw [decide_eq_true rfl, if_pos rfl] at hinvoice
      exact hinvoice.trans hcid
    exact iff_of_true (iff_of_false hfirst hsecond) fun h => absurd h hnot

end

/-- The transfers a fill made, whichever comes first.  The database may return the intents in
another order when the fill is already written. -/
def AttributionAgrees (L : Ledger) (intent : RelayIntent) (fills : List Hash) (origin : Hash)
    (relayStatus : String) (t u : Time) (range : FinalizedRange) (order : List IntentId) : Prop :=
  (resolveFilled (step L t (.applyFinalizedRange range)) u intent.id fills origin
      relayStatus).attributedTo intent.id =
    (step (resolveFilled L u intent.id fills origin relayStatus) t
      (.applyFinalizedRange (range.returning order))).attributedTo intent.id

section

variable {L : Ledger} {intent : RelayIntent} {fills : List Hash} {origin : Hash}
  {relayStatus : String} {t u : Time} {range : FinalizedRange} {order : List IntentId}

lemma range_relayIntents (L : Ledger) (t : Time) (range : FinalizedRange) :
    (step L t (.applyFinalizedRange range)).relayIntents = L.relayIntents := by
  rcases step_applyFinalizedRange L t range with hsame | ⟨applied, hrecord⟩
  · rw [hsame]
  · obtain ⟨credits, -, -, hframe⟩ := recordRange_eq_ok hrecord
    rw [hframe]

/-- A range attributes nothing to an intent that is not filled. -/
lemma attributedTo_range_of_sent (hfound : L.relayIntents.find? intent.id = some intent)
    (hsent : intent.status = .sent) :
    (step L t (.applyFinalizedRange range)).attributedTo intent.id = L.attributedTo intent.id := by
  rcases step_applyFinalizedRange L t range with hsame | ⟨applied, hrecord⟩
  · rw [hsame]
  · obtain ⟨new, hrows, hnew, -⟩ := recordRange_newLogs hrecord
    have hnot : ∀ r ∈ new, r.relayIntentId ≠ some intent.id := by
      intro r hr howner
      obtain ⟨-, c, hc, -, hrow⟩ := hnew r hr
      obtain ⟨row, b, -, -, -, -, rfl⟩ := loadCredits_find? hc
      rw [hrow] at howner
      obtain ⟨r', hr', hid, -, hfilled⟩ := owner_observationRow howner
      rw [L.relayIntents.eq_of_key_eq hr' (Table.mem_of_find? hfound) hid, hsent] at hfilled
      cases hfilled
    ext x
    constructor
    · rintro ⟨r, hr, rfl, howner⟩
      rw [hrows] at hr
      rcases List.mem_append.1 hr with hold | hr
      · exact ⟨r, hold, rfl, howner⟩
      · exact absurd howner (hnot r hr)
    · rintro ⟨r, hr, rfl, howner⟩
      refine ⟨r, ?_, rfl, howner⟩
      rw [hrows]
      exact List.mem_append_left _ hr

/-- A call that is refused is refused in both orders. -/
lemma attributionAgrees_of_refused (hfound : L.relayIntents.find? intent.id = some intent)
    (hsent : intent.status = .sent) (h : ¬ TakeEffect L intent fills origin t range) :
    AttributionAgrees L intent fills origin relayStatus t u range order := by
  have hpending : intent.status.isPending = true := by rw [hsent]; rfl
  have hintents := range_relayIntents L t range
  obtain ⟨haccepted, hrefused⟩ :=
    resolveFilled_pending (L := L) u fills origin relayStatus hfound hpending
  unfold AttributionAgrees
  by_cases haccepts : L.Accepts intent fills origin
  · -- the range is refused
    obtain ⟨L₁, hattr, hres⟩ := haccepted haccepts
    have hacc := hattr.sameAccounts
    rw [← hres] at hacc
    have hrange : ¬ (L.cursor range.chainId = range.expectedCursor ∧
        ∃ L' applied, recordRange L t range = .ok (L', applied)) :=
      fun hrange => h ⟨haccepts, hrange.1, hrange.2⟩
    rw [step_range_refused hrange, step_range_refused]
    rintro ⟨hcursor, L', applied, hrecord⟩
    have hback : ∃ L' applied, recordRange L t ((range.returning order).returning range.intentOrder) =
        .ok (L', applied) := recordRange_sim (hacc.sameBooks range order).symm hrecord
    refine hrange ⟨?_, hback⟩
    have hexpected : (range.returning order).expectedCursor = range.expectedCursor := rfl
    rw [← hexpected, ← hcursor, Ledger.cursor, Ledger.cursor, hacc.indexerCursor]
    rfl
  · rw [hrefused haccepts]
    have hrefused' := (resolveFilled_pending (L := step L t (.applyFinalizedRange range)) u fills
      origin relayStatus (by rw [hintents]; exact hfound) hpending).2
    rw [hrefused' (by rw [Ledger.Accepts, hintents]; exact haccepts),
      attributedTo_range_of_sent hfound hsent, attributedTo_range_of_sent hfound hsent]

/-- When both calls go through, the two orders agree exactly when they agree on every new log
that the fill explains. -/
lemma attributionAgrees_iff (hfound : L.relayIntents.find? intent.id = some intent)
    (hsent : intent.status = .sent) (h : TakeEffect L intent fills origin t range) :
    AttributionAgrees L intent fills origin relayStatus t u range order ↔
      ∀ o ∈ L.newLogs range, L.owner? range o.recipient = some intent.invoiceId →
        intent.quotes fills o → FillAgrees L (range.returning order) intent o := by
  have hpending : intent.status.isPending = true := by rw [hsent]; rfl
  have hmem := Table.mem_of_find? hfound
  obtain ⟨L', applied, hrecord⟩ := h.recorded
  have hM : step L t (.applyFinalizedRange range) = L' := step_range_eq h.cursor hrecord
  have hintents : L'.relayIntents = L.relayIntents := by rw [← hM, range_relayIntents]
  -- the range first
  obtain ⟨M₁, hattrM, hresM⟩ := (resolveFilled_pending (L := L') u fills origin relayStatus
    (by rw [hintents]; exact hfound) hpending).1 (by
      rw [Ledger.Accepts, hintents]
      exact h.accepted)
  -- the fill first
  obtain ⟨L₁, hattr, hres⟩ :=
    (resolveFilled_pending (L := L) u fills origin relayStatus hfound hpending).1 h.accepted
  set N := unparkUnlessPending L₁ u intent.invoiceId with hN
  have hacc : SameAccounts L N := hattr.sameAccounts
  have hsame := hacc.sameBooks range order
  have hintentsN : N.relayIntents.rows = L.relayIntents.rows.map (fun r =>
      if decide (r.id = intent.id) then r.fill u fills origin relayStatus else r) := by
    rw [hN, unparkUnlessPending_relayIntents, hattr.relayIntents]
  obtain ⟨N', appliedN, hrecordN⟩ := recordRange_sim hsame hrecord
  have hstepN : step N t (.applyFinalizedRange (range.returning order)) = N' := by
    refine step_range_eq ?_ hrecordN
    have hexpected : (range.returning order).expectedCursor = range.expectedCursor := rfl
    rw [hexpected, ← h.cursor, Ledger.cursor, Ledger.cursor, hacc.indexerCursor]
    rfl
  obtain ⟨new, hrows, hnew, hall⟩ := recordRange_newLogs hrecord
  obtain ⟨newN, hrowsN, hnewN, hallN⟩ := recordRange_newLogs hrecordN
  rw [newLogs_sim hsame] at hnewN hallN
  have hattributes := attributes_of_bindings (recordRange_bindings hrecord) intent fills
  -- the two sets of attributed logs
  have hRF : (resolveFilled L' u intent.id fills origin relayStatus).attributedTo intent.id =
      {x | ∃ r ∈ L.observations.rows ++ new, r.recorded = x ∧
        (L.attributes intent fills r = true ∨ r.relayIntentId = some intent.id)} := by
    rw [hresM, hattrM.attributedTo, hrows, hattributes]
  have hFR : N'.attributedTo intent.id = {x | ∃ r ∈ L.observations.rows, r.recorded = x ∧
        (L.attributes intent fills r = true ∨ r.relayIntentId = some intent.id)} ∪
      {x | ∃ r ∈ newN, r.recorded = x ∧ r.relayIntentId = some intent.id} := by
    rw [← hattr.attributedTo, ← hN]
    ext x
    simp only [Ledger.attributedTo, hrowsN, List.mem_append, Set.mem_ofPred_eq, Set.mem_union,
      or_and_right, exists_or]
  -- each new log has one row in each order
  have hpair : ∀ r ∈ new, ∃ rN ∈ newN, rN.recorded = r.recorded ∧
      (((L.attributes intent fills r = true ∨ r.relayIntentId = some intent.id) ↔
        rN.relayIntentId = some intent.id) ↔
        (L.owner? range r.observation.recipient = some intent.invoiceId →
          intent.quotes fills r.observation → FillAgrees L (range.returning order) intent r.observation)) := by
    intro r hr
    obtain ⟨hlog, c, hc, htoken, hrow⟩ := hnew r hr
    obtain ⟨rN, hrN, hobs⟩ := hallN _ hlog
    obtain ⟨-, cN, hcN, -, hrowN⟩ := hnewN rN hrN
    rw [hobs] at hcN hrowN
    change rN = cN.observationRow range.chainId t r.observation at hrowN
    obtain ⟨hrecorded, hiff⟩ := owners_of_pair (t := t) hmem hsent hintentsN hsame hc htoken hcN
    rw [← hrowN, ← hrow] at hrecorded hiff
    exact ⟨rN, hrN, hrecorded, hiff⟩
  have hpairN : ∀ rN ∈ newN, ∃ r ∈ new, r.observation = rN.observation := fun rN hrN =>
    hall _ (hnewN rN hrN).1
  unfold AttributionAgrees
  rw [hM, hres, hstepN, hRF, hFR]
  constructor
  · intro heq o ho
    obtain ⟨r, hr, rfl⟩ := hall o ho
    obtain ⟨rN, hrN, hrec, hiff⟩ := hpair r hr
    refine hiff.1 ?_
    -- membership of the log in either set is its owner in that order
    have hleft : r.recorded ∈ {x | ∃ r ∈ L.observations.rows ++ new, r.recorded = x ∧
        (L.attributes intent fills r = true ∨ r.relayIntentId = some intent.id)} ↔
        (L.attributes intent fills r = true ∨ r.relayIntentId = some intent.id) := by
      refine ⟨?_, fun howner => ⟨r, List.mem_append_right _ hr, rfl, howner⟩⟩
      rintro ⟨r', hr', hrec', howner⟩
      have hkey : r'.key = r.key := congrArg Recorded.key hrec'
      rw [← hrows] at hr'
      have hmemr : r ∈ L'.observations.rows := by
        rw [hrows]
        exact List.mem_append_right _ hr
      rwa [L'.observations.eq_of_key_eq hr' hmemr hkey] at howner
    rw [← hleft, heq, ← hFR, ← hrec]
    refine Ledger.mem_attributedTo ?_
    rw [hrowsN]
    exact List.mem_append_right _ hrN
  · intro hagree
    have hpoint : ∀ r ∈ new, ∃ rN ∈ newN, rN.recorded = r.recorded ∧
        ((L.attributes intent fills r = true ∨ r.relayIntentId = some intent.id) ↔
          rN.relayIntentId = some intent.id) := by
      intro r hr
      obtain ⟨rN, hrN, hrec, hiff⟩ := hpair r hr
      exact ⟨rN, hrN, hrec, hiff.2 (hagree _ (hnew r hr).1)⟩
    ext x
    constructor
    · rintro ⟨r, hr, rfl, howner⟩
      rcases List.mem_append.1 hr with hold | hr
      · exact Or.inl ⟨r, hold, rfl, howner⟩
      · obtain ⟨rN, hrN, hrec, hiff⟩ := hpoint r hr
        exact Or.inr ⟨rN, hrN, hrec, hiff.1 howner⟩
    · rintro (⟨r, hold, rfl, howner⟩ | ⟨rN, hrN, rfl, howner⟩)
      · exact ⟨r, List.mem_append_left _ hold, rfl, howner⟩
      · obtain ⟨r, hr, hobs⟩ := hpairN rN hrN
        obtain ⟨rN', hrN', hrec, hiff⟩ := hpoint r hr
        -- two new rows with one log are one row
        have hsameRow : rN' = rN := by
          have hkey : rN'.key = rN.key := by
            obtain ⟨_, _, _, _, hrowN⟩ := hnewN rN hrN
            obtain ⟨_, _, _, _, hrowN'⟩ := hnewN rN' hrN'
            have hobs' : rN'.observation = rN.observation := by
              rw [← hobs]
              exact congrArg Recorded.observation hrec
            rw [hrowN, hrowN', hobs']
            rfl
          refine N'.observations.eq_of_key_eq ?_ ?_ hkey
          · rw [hrowsN]
            exact List.mem_append_right _ hrN'
          · rw [hrowsN]
            exact List.mem_append_right _ hrN
        subst hsameRow
        exact ⟨r, List.mem_append_right _ hr, hrec.symm, hiff.2 howner⟩

/-- For every ledger, every sent intent, every fill and every range: the two orders attribute
the same transfers to the intent exactly when, if both calls go through, every newly recorded
transfer of the request that the fill explains is one `FillAgrees` admits. -/
theorem attribution_order_independent_iff (hfound : L.relayIntents.find? intent.id = some intent)
    (hsent : intent.status = .sent) :
    AttributionAgrees L intent fills origin relayStatus t u range order ↔
      (TakeEffect L intent fills origin t range →
        ∀ o ∈ L.newLogs range, L.owner? range o.recipient = some intent.invoiceId →
          o.amount ≠ 0 ∧ o.amount = intent.quotedOutAmount ∧ o.transactionHash ∈ fills →
          FillAgrees L (range.returning order) intent o) := by
  by_cases h : TakeEffect L intent fills origin t range
  · rw [attributionAgrees_iff hfound hsent h]
    exact ⟨fun hall _ => hall, fun hall => hall h⟩
  · exact iff_of_true (attributionAgrees_of_refused hfound hsent h) fun heffect => absurd heffect h

end

/-- A sent quote on the sample request, made for the given wallet. -/
def sentRun (payerWallet : Address) : List (Time × Op) :=
  [(0, .insertIssued sampleRequest),
    (1, .insertRelayIntent { sampleIntent with payerWallet := payerWallet }),
    (2, .markSent 3 7 payerWallet 800)]

/-- The intent after the run. -/
def sentIntent (payerWallet : Address) : RelayIntent :=
  { sampleIntent with
    payerWallet := payerWallet
    status := .sent
    originTxHash := some 800
    nextCheckAt := some 2
    createdAt := 1
    sentAt := some 2 }

/-- The solver's transfer of 60, in the fill of the quote. -/
def fillRange : FinalizedRange := sampleRange none 5 [sampleTransfer 3 0 0 60]

/-- A solver's transfer is attributed in both orders. -/
theorem attribution_order_independent_sample :
    AttributionAgrees (run Ledger.empty (sentRun 70)) (sentIntent 70) [3000] 800 "success" 3 4
      fillRange [3] := by
  refine (attribution_order_independent_iff (by decide) rfl).2 fun _ o ho _ _ => ?_
  have hlogs : (run Ledger.empty (sentRun 70)).newLogs fillRange = [sampleTransfer 3 0 0 60] := by
    decide
  rw [hlogs, List.mem_singleton] at ho
  subst ho
  refine ⟨fun hwallet => ?_, fun _ => Or.inr ⟨by decide, by decide⟩⟩
  exact absurd hwallet (by decide)

/-- A transfer from the quote's own wallet in the fill's transaction, on a request without an
attested wallet: recorded first it stays unattributed, filled first it is the intent's. -/
theorem attribution_depends_on_order :
    ¬ ∀ L, Reachable L → ∀ intent : RelayIntent, L.relayIntents.find? intent.id = some intent →
      intent.status = .sent → ∀ fills origin relayStatus t u range order,
        AttributionAgrees L intent fills origin relayStatus t u range order := by
  intro hclaim
  have hagrees : (resolveFilled (step (run Ledger.empty (sentRun 90)) 3
      (.applyFinalizedRange fillRange)) 4 3 [3000] 800 "success").attributedTo 3 =
      (step (resolveFilled (run Ledger.empty (sentRun 90)) 4 3 [3000] 800 "success") 3
        (.applyFinalizedRange fillRange)).attributedTo 3 :=
    hclaim _ ⟨sentRun 90, rfl⟩ (sentIntent 90) (by decide) rfl [3000] 800 "success" 3 4 fillRange []
  have hfilledFirst : (⟨1, 7, sampleTransfer 3 0 0 60⟩ : Recorded) ∈
      (step (resolveFilled (run Ledger.empty (sentRun 90)) 4 3 [3000] 800 "success") 3
        (.applyFinalizedRange fillRange)).attributedTo 3 := by
    unfold Ledger.attributedTo
    decide
  rw [← hagrees] at hfilledFirst
  obtain ⟨r, hr, -, howner⟩ := hfilledFirst
  have hnone : ∀ r ∈ (resolveFilled (step (run Ledger.empty (sentRun 90)) 3
      (.applyFinalizedRange fillRange)) 4 3 [3000] 800 "success").observations.rows,
      r.relayIntentId = none := by decide
  rw [hnone r hr] at howner
  cases howner

end Payday
