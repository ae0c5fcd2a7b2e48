/-
# One log for one intent

The output of a fill is one log.  Both paths match it by its transaction and its amount: the
resolution of an intent over the stored observations (`Ledger.attributes`), and a range over its
new logs (`Ledger.matchedBy`).  Whatever they attribute has the quoted amount and is in one of
the fill's transactions.  Nothing in either match says that only one log has both, so it is one
log exactly along the runs in which no step finds a second one.
-/
import Payday.Ledger.FillOrder
import Payday.Ledger.Quotes

namespace Payday

/-- At most one observation carries an intent, and it is the quoted output of the fill. -/
structure Ledger.OneLog (L : Ledger) : Prop where
  single : ∀ id, ∀ o ∈ L.observations.rows, ∀ o' ∈ L.observations.rows,
    o.relayIntentId = some id → o'.relayIntentId = some id → o = o'
  quoted : ∀ id, ∀ o ∈ L.observations.rows, o.relayIntentId = some id →
    ∃ r ∈ L.relayIntents.rows, r.id = id ∧ o.observation.amount = r.quotedOutAmount ∧
      o.observation.transactionHash ∈ r.fillTxHashes

/-- The filled intent of the request that a transfer from outside the attested wallet is the
output of. -/
def InvoiceCredit.fillOf (c : InvoiceCredit) (o : PaymentObservation) : Option IntentId :=
  if c.payerWallet = some o.sender ∨ o.amount = 0 then none
  else (c.filledIntent o).map (·.id)

/-- The filled intent a new log of the range matches: the first in the order in which the database
returns them. -/
def Ledger.matchedBy (L : Ledger) (range : FinalizedRange) (o : PaymentObservation) :
    Option IntentId :=
  ((loadCredits L range).find? o.recipient).bind (·.fillOf o)

/-- The range finds its cursor and fits. -/
def Ledger.Records (L : Ledger) (t : Time) (range : FinalizedRange) : Prop :=
  L.cursor range.chainId = range.expectedCursor ∧
    ∃ L' applied, recordRange L t range = .ok (L', applied)

/-- No fill is matched twice: the resolution of an intent finds at most one log, and a new log
that matches a filled intent finds it without one, and is the only such log of its range. -/
def Ledger.Unambiguous (L : Ledger) (now : Time) : Op → Prop
  | .resolveFilled id fills originTx _ => ∀ intent, L.relayIntents.find? id = some intent →
      intent.status.isPending = true → L.Accepts intent fills originTx →
      ∀ o ∈ L.observations.rows, ∀ o' ∈ L.observations.rows, L.attributes intent fills o = true →
        L.attributes intent fills o' = true → o = o'
  | .applyFinalizedRange range => L.Records now range →
      ∀ id, ∀ o ∈ L.newLogs range, L.matchedBy range o = some id →
        (∀ o' ∈ L.newLogs range, L.matchedBy range o' = some id → o = o') ∧
          ∀ r ∈ L.observations.rows, r.relayIntentId ≠ some id
  | _ => True

/-! ### What is attributed was quoted -/

/-- An attributed log is the quoted output of a filled intent of its request. -/
def Ledger.Quoted (L : Ledger) (id : IntentId) (x : Recorded) : Prop :=
  ∃ r ∈ L.relayIntents.rows, r.id = id ∧ r.status = .filled ∧
    x.observation.amount = r.quotedOutAmount ∧ x.observation.transactionHash ∈ r.fillTxHashes

lemma Ledger.Quoted.step {L : Ledger} {id : IntentId} {x : Recorded} (h : L.Quoted id x)
    (now : Time) (op : Op) : (step L now op).Quoted id x := by
  obtain ⟨r, hr, rfl, hfilled, hamount, hhash⟩ := h
  obtain ⟨f, new, hfollow⟩ := step_follows L now op
  have hf := hfollow.follows r hr
  have hmem : f r ∈ (Payday.step L now op).relayIntents.rows := by
    rw [hfollow.rows]
    exact List.mem_append_left _ (List.mem_map_of_mem hr)
  obtain ⟨hstill, -, hfills⟩ := hf.final hfilled
  refine ⟨f r, hmem, congrArg QuoteTerms.id hf.terms, hstill, ?_, ?_⟩
  · rw [hamount]
    exact (congrArg QuoteTerms.quotedOutAmount hf.terms).symm
  · rw [hfills]
    exact hhash

/-! ### What a transaction attributes -/

/-- The logs a transaction attributes to an intent. -/
def Ledger.gains (L : Ledger) (now : Time) (op : Op) (id : IntentId) : Set Recorded :=
  match op with
  | .resolveFilled id' fills originTx _ =>
    {x | id' = id ∧ ∃ intent, L.relayIntents.find? id = some intent ∧
      intent.status.isPending = true ∧ L.Accepts intent fills originTx ∧
      ∃ o ∈ L.observations.rows, o.recorded = x ∧ L.attributes intent fills o = true}
  | .applyFinalizedRange range =>
    {x | L.Records now range ∧ x.observation ∈ L.newLogs range ∧
      L.matchedBy range x.observation = some id ∧ x.chainId = range.chainId ∧
      L.owner? range x.observation.recipient = some x.invoiceId}
  | _ => ∅

section

variable {L L' : Ledger}

lemma attributedTo_of_provenances (h : L'.provenances = L.provenances) (id : IntentId) :
    L'.attributedTo id = L.attributedTo id := by
  have hmem : ∀ M : Ledger, M.attributedTo id =
      {x | ∃ p ∈ M.provenances, p.recorded = x ∧ p.relayIntentId = some id} := by
    intro M
    ext x
    constructor
    · rintro ⟨r, hr, hx, hid⟩
      exact ⟨r.provenance, Ledger.provenance_mem hr, hx, hid⟩
    · rintro ⟨p, hp, hx, hid⟩
      obtain ⟨r, hr, rfl⟩ := Ledger.mem_provenances.1 hp
      exact ⟨r, hr, hx, hid⟩
  rw [hmem, hmem L, h]

/-- An update that keeps the owners. -/
lemma attributedTo_of_owners {g : ObservationRow → ObservationRow}
    (h : L'.observations.rows = L.observations.rows.map g)
    (hg : ∀ r, (g r).recorded = r.recorded ∧ (g r).relayIntentId = r.relayIntentId)
    (id : IntentId) : L'.attributedTo id = L.attributedTo id := by
  ext x
  constructor
  · rintro ⟨r, hr, rfl, hid⟩
    rw [h] at hr
    obtain ⟨o, ho, rfl⟩ := List.mem_map.1 hr
    exact ⟨o, ho, (hg o).1.symm, (hg o).2.symm.trans hid⟩
  · rintro ⟨o, ho, rfl, hid⟩
    refine ⟨g o, ?_, (hg o).1, (hg o).2.trans hid⟩
    rw [h]
    exact List.mem_map_of_mem ho

lemma attributedTo_unpark (L : Ledger) (now : Time) (invoiceId : InvoiceId) (id : IntentId) :
    (unparkUnlessPending L now invoiceId).attributedTo id = L.attributedTo id := by
  obtain ⟨g, hrows, hg⟩ := unparkUnlessPending_owners L now invoiceId
  exact attributedTo_of_owners hrows hg id

/-- The other intents have what they had. -/
lemma Attributed.attributedTo_of_ne {L₁ : Ledger} {now : Time} {intent : RelayIntent}
    {fills : List Hash} {originTx : Hash} {relayStatus : String}
    (h : Attributed L L₁ now intent fills originTx relayStatus) {id : IntentId}
    (hne : intent.id ≠ id) : L₁.attributedTo id = L.attributedTo id := by
  ext x
  constructor
  · rintro ⟨r, hr, rfl, hid⟩
    rw [h.observations] at hr
    obtain ⟨o, ho, rfl⟩ := List.mem_map.1 hr
    by_cases hattr : L.attributes intent fills o = true
    · rw [if_pos hattr] at hid
      exact absurd (Option.some.inj hid) hne
    · rw [if_neg hattr] at hid ⊢
      exact ⟨o, ho, rfl, hid⟩
  · rintro ⟨o, ho, rfl, hid⟩
    have hattr : ¬ L.attributes intent fills o = true := by
      intro hattr
      rw [(Ledger.attributes_own hattr).2] at hid
      cases hid
    refine ⟨o, ?_, rfl, hid⟩
    rw [h.observations]
    exact List.mem_map.2 ⟨o, ho, if_neg hattr⟩

lemma attributedTo_resolveFilled (L : Ledger) (now : Time) (id' : IntentId) (fills : List Hash)
    (originTx : Hash) (raw : String) (id : IntentId) :
    (step L now (.resolveFilled id' fills originTx raw)).attributedTo id =
      L.attributedTo id ∪ L.gains now (.resolveFilled id' fills originTx raw) id := by
  by_cases htakes : ∃ intent, L.relayIntents.find? id' = some intent ∧
      intent.status.isPending = true ∧ L.Accepts intent fills originTx
  · obtain ⟨intent, hfound, hpending, haccepts⟩ := htakes
    obtain rfl : intent.id = id' := Table.key_of_find? hfound
    obtain ⟨L₁, hattr, hstep⟩ := (resolveFilled_pending now fills originTx raw hfound hpending).1 haccepts
    rw [step, hstep]
    by_cases hid : intent.id = id
    · subst hid
      rw [hattr.attributedTo]
      ext x
      constructor
      · rintro ⟨r, hr, rfl, hmade | hold⟩
        · exact Or.inr ⟨rfl, intent, hfound, hpending, haccepts, r, hr, rfl, hmade⟩
        · exact Or.inl ⟨r, hr, rfl, hold⟩
      · rintro (⟨r, hr, rfl, hold⟩ | ⟨-, intent', hfound', -, -, r, hr, rfl, hmade⟩)
        · exact ⟨r, hr, rfl, Or.inr hold⟩
        · obtain rfl := Option.some.inj (hfound.symm.trans hfound')
          exact ⟨r, hr, rfl, Or.inl hmade⟩
    · rw [attributedTo_unpark, hattr.attributedTo_of_ne hid]
      refine (Set.union_eq_self_of_subset_right ?_).symm
      rintro x ⟨heq, -⟩
      exact absurd heq hid
  · have hnone : L.gains now (.resolveFilled id' fills originTx raw) id ⊆ L.attributedTo id := by
      rintro x ⟨rfl, intent, hfound, hpending, haccepts, -⟩
      exact absurd ⟨intent, hfound, hpending, haccepts⟩ htakes
    rw [Set.union_eq_self_of_subset_right hnone, step]
    rcases resolveFilled_cases L now id' fills originTx raw with hsame | ⟨intent, L₁, rfl, hattr, -⟩
    · rw [hsame]
    · exact absurd ⟨intent, hattr.found, hattr.pending, hattr.fills_ne_nil, hattr.unclaimed⟩ htakes

/-- The owner the range path gives a log is the intent it matches. -/
lemma fillOf_observationRow (c : InvoiceCredit) (chainId : ChainId) (now : Time)
    (o : PaymentObservation) : (c.observationRow chainId now o).relayIntentId = c.fillOf o :=
  c.relayIntentId_observationRow chainId now o

lemma attributedTo_range (L : Ledger) (now : Time) (range : FinalizedRange) (id : IntentId) :
    (step L now (.applyFinalizedRange range)).attributedTo id =
      L.attributedTo id ∪ L.gains now (.applyFinalizedRange range) id := by
  by_cases hrecords : L.Records now range
  · obtain ⟨hcursor, L', applied, hrecord⟩ := hrecords
    obtain ⟨new, hrows, hnew, hlogs⟩ := recordRange_newLogs hrecord
    rw [step_range_eq hcursor hrecord]
    ext x
    constructor
    · rintro ⟨r, hr, rfl, hid⟩
      rw [hrows] at hr
      rcases List.mem_append.1 hr with hold | hr
      · exact Or.inl ⟨r, hold, rfl, hid⟩
      · obtain ⟨hlog, c, hc, -, hrow⟩ := hnew r hr
        right
        rw [hrow, fillOf_observationRow] at hid
        have hrecorded : r.recorded = ⟨range.chainId, c.id, r.observation⟩ := by
          rw [hrow]
          rfl
        rw [hrecorded]
        refine ⟨⟨hcursor, L', applied, hrecord⟩, hlog, ?_, rfl, ?_⟩
        · show ((loadCredits L range).find? r.observation.recipient).bind _ = _
          rw [hc]
          exact hid
        · show ((loadCredits L range).find? r.observation.recipient).map _ = _
          rw [hc]
          rfl
    · rintro (⟨r, hr, rfl, hid⟩ | ⟨-, hlog, hmatched, hchain, howner⟩)
      · exact ⟨r, by rw [hrows]; exact List.mem_append_left _ hr, rfl, hid⟩
      · obtain ⟨r, hr, hobs⟩ := hlogs _ hlog
        obtain ⟨-, c, hc, -, hrow⟩ := hnew r hr
        rw [hobs] at hc hrow
        rw [Ledger.matchedBy, hc] at hmatched
        rw [Ledger.owner?, hc] at howner
        refine ⟨r, by rw [hrows]; exact List.mem_append_right _ hr, ?_, ?_⟩
        · rw [hrow]
          rcases x with ⟨chainId, invoiceId, observation⟩
          obtain rfl : c.id = invoiceId := Option.some.inj howner
          obtain rfl : chainId = range.chainId := hchain
          rfl
        · rw [hrow, fillOf_observationRow]
          exact hmatched
  · rw [step_range_refused hrecords, Set.union_eq_self_of_subset_right]
    rintro x ⟨h, -⟩
    exact absurd h hrecords

/-- What an intent has after a transaction. -/
lemma attributedTo_step (L : Ledger) (now : Time) (op : Op) (id : IntentId) :
    (step L now op).attributedTo id = L.attributedTo id ∪ L.gains now op id := by
  have hquiet : ∀ {M : Ledger}, M.provenances = L.provenances →
      M.attributedTo id = L.attributedTo id ∪ ∅ := by
    intro M h
    rw [attributedTo_of_provenances h, Set.union_empty]
  cases op with
  | resolveFilled id' fills originTx raw => exact attributedTo_resolveFilled ..
  | applyFinalizedRange range => exact attributedTo_range ..
  | resolveFailed id' failure relayStatus =>
    show _ = _ ∪ ∅
    rw [Set.union_empty, step]
    rcases resolveFailed_cases L now id' failure relayStatus with
      hsame | ⟨intent, L₁, rfl, -, -, -, hobservations, -, hstep⟩
    · rw [hsame]
    · rw [hstep, attributedTo_unpark, Ledger.attributedTo, hobservations]
      rfl
  | insertRelayIntent intent =>
    refine hquiet ?_
    simp only [step, insertRelayIntent]
    split <;> rfl
  | markSent id' invoiceId payerWallet originTxHash => exact hquiet rfl
  | deferRelayIntent id' nextCheckAt relayStatus => exact hquiet rfl
  | expireQuoted destinationChainId => exact hquiet rfl
  | _ => exact hquiet (step_sameRelay L now rfl).provenances

/-! ### Runs -/

lemma Ledger.attributes_quoted {intent : RelayIntent} {fills : List Hash} {o : ObservationRow}
    (h : L.attributes intent fills o = true) :
    o.observation.amount = intent.quotedOutAmount ∧ o.observation.transactionHash ∈ fills := by
  obtain ⟨binding, -, hmade⟩ := (Option.any_eq_true ..).1 h
  simp only [fillMade, Bool.and_eq_true, decide_eq_true_eq, List.contains_iff_mem] at hmade
  exact ⟨hmade.2, hmade.1.1.1.1.1.1.1.2⟩

/-- What a transaction attributes was quoted. -/
lemma quoted_of_gains {now : Time} {op : Op} {id : IntentId} {x : Recorded}
    (h : x ∈ L.gains now op id) : (step L now op).Quoted id x := by
  cases op with
  | resolveFilled id' fills originTx raw =>
    obtain ⟨rfl, intent, hfound, hpending, haccepts, o, -, rfl, hmade⟩ := h
    obtain rfl : intent.id = id' := Table.key_of_find? hfound
    obtain ⟨L₁, hattr, hstep⟩ := (resolveFilled_pending now fills originTx raw hfound hpending).1 haccepts
    obtain ⟨hamount, hhash⟩ := Ledger.attributes_quoted hmade
    refine ⟨intent.fill now fills originTx raw, ?_, rfl, rfl, hamount, hhash⟩
    rw [step, hstep, unparkUnlessPending_relayIntents, hattr.relayIntents]
    exact List.mem_map.2 ⟨intent, Table.mem_of_find? hfound, by simp⟩
  | applyFinalizedRange range =>
    obtain ⟨-, -, hmatched, -, -⟩ := h
    obtain ⟨c, hc, hfill⟩ := Option.bind_eq_some_iff.1 hmatched
    obtain ⟨row, b, -, -, -, -, rfl⟩ := loadCredits_find? hc
    rw [InvoiceCredit.fillOf] at hfill
    split_ifs at hfill
    obtain ⟨r, hr, rfl⟩ := Option.map_eq_some_iff.1 hfill
    rw [InvoiceCredit.filledIntent_ofRow] at hr
    have hexplains := List.find?_some hr
    simp only [RelayIntent.explains, Bool.and_eq_true, decide_eq_true_eq, List.contains_iff_mem]
      at hexplains
    refine ⟨r, ?_, rfl, hexplains.2.1.1, hexplains.2.1.2.symm, hexplains.2.2⟩
    rw [range_relayIntents]
    exact (range.loads_perm _).mem_iff.1 (List.mem_of_find?_eq_some hr)
  | _ => cases h

/-- Whatever is attributed was quoted. -/
lemma Reachable.quoted (h : Reachable L) : ∀ id, ∀ x ∈ L.attributedTo id, L.Quoted id x := by
  refine Reachable.induction (P := fun L => ∀ id, ∀ x ∈ L.attributedTo id, L.Quoted id x) ?_ ?_ h
  · rintro id x ⟨r, hr, -⟩
    cases hr
  · intro L now op ih id x hx
    rw [attributedTo_step] at hx
    rcases hx with hold | hnew
    · exact (ih id x hold).step now op
    · exact quoted_of_gains hnew

/-- A pending intent has nothing yet. -/
lemma Reachable.attributedTo_pending (h : Reachable L) {intent : RelayIntent}
    (hmem : intent ∈ L.relayIntents.rows) (hpending : intent.status.isPending = true) :
    L.attributedTo intent.id = ∅ := by
  refine Set.eq_empty_of_forall_notMem fun x hx => ?_
  obtain ⟨r, hr, hid, hfilled, -⟩ := h.quoted _ x hx
  rw [L.relayIntents.eq_of_key_eq hmem hr hid.symm, hfilled] at hpending
  cases hpending

/-- A log that is recorded has not been seen. -/
lemma freshLogs_unseen {chainId : ChainId} {token? : Address → Option Address}
    {seen : List (ChainId × Address × Hash × ℕ)} {obs : List PaymentObservation}
    {o : PaymentObservation} (h : o ∈ freshLogs chainId token? seen obs) :
    observationKey chainId o ∉ seen := by
  induction obs generalizing seen with
  | nil => cases h
  | cons o' rest ih =>
    rw [freshLogs] at h
    split_ifs at h with hfresh
    · rcases List.mem_cons.1 h with rfl | h
      · exact hfresh.2
      · exact fun hseen => ih h (List.mem_append_left _ hseen)
    · exact ih h

/-- A matched new log is attributed, as the log of one request. -/
lemma mem_gains_range {now : Time} {range : FinalizedRange} (hrecords : L.Records now range)
    {id : IntentId} {o : PaymentObservation} (ho : o ∈ L.newLogs range)
    (hmatched : L.matchedBy range o = some id) :
    ∃ x ∈ L.gains now (.applyFinalizedRange range) id, x.observation = o := by
  obtain ⟨c, hc, -⟩ := Option.bind_eq_some_iff.1 hmatched
  refine ⟨⟨range.chainId, c.id, o⟩, ⟨hrecords, ho, hmatched, rfl, ?_⟩, rfl⟩
  rw [Ledger.owner?, hc]
  rfl

/-- What is added to at most one element is the only element. -/
lemma subsingleton_union {s t : Set Recorded} (hs : s.Subsingleton)
    (ht : ∀ x ∈ t, ∀ y ∈ s ∪ t, x = y) : (s ∪ t).Subsingleton := by
  rintro x (hx | hx) y hy
  · rcases hy with hy | hy
    · exact hs hx hy
    · exact (ht y hy x (Or.inl hx)).symm
  · exact ht x hx y hy

lemma single_range_iff (now : Time) (range : FinalizedRange)
    (hsingle : ∀ id, (L.attributedTo id).Subsingleton) :
    (∀ id, ((step L now (.applyFinalizedRange range)).attributedTo id).Subsingleton) ↔
      L.Unambiguous now (.applyFinalizedRange range) := by
  constructor
  · intro h hrecords id o ho hmatched
    have hone := h id
    rw [attributedTo_step] at hone
    obtain ⟨x, hx, rfl⟩ := mem_gains_range hrecords ho hmatched
    constructor
    · intro o' ho' hmatched'
      obtain ⟨x', hx', rfl⟩ := mem_gains_range hrecords ho' hmatched'
      rw [hone (Or.inr hx) (Or.inr hx')]
    · -- what is recorded already is not new
      intro r hr hid
      have hsame : r.recorded = x := hone (Or.inl ⟨r, hr, rfl, hid⟩) (Or.inr hx)
      refine freshLogs_unseen ho (List.mem_map.2 ⟨r, hr, ?_⟩)
      rw [← hx.2.2.2.1, ← hsame]
      rfl
  · intro h id
    rw [attributedTo_step]
    have hnew : ∀ x ∈ L.gains now (.applyFinalizedRange range) id,
        ∀ y ∈ L.attributedTo id ∪ L.gains now (.applyFinalizedRange range) id, x = y := by
      rintro x ⟨hrecords, hlog, hmatched, hchain, howner⟩ y (⟨r, hr, rfl, hid⟩ | hy)
      · exact absurd hid ((h hrecords id _ hlog hmatched).2 r hr)
      · obtain ⟨-, hlog', hmatched', hchain', howner'⟩ := hy
        have hobs := (h hrecords id _ hlog hmatched).1 _ hlog' hmatched'
        rw [← hobs, howner] at howner'
        rcases x with ⟨chainId, invoiceId, o⟩
        rcases y with ⟨chainId', invoiceId', o'⟩
        obtain rfl : invoiceId = invoiceId' := Option.some.inj howner'
        obtain rfl : o = o' := hobs
        obtain rfl : chainId = chainId' := hchain.trans hchain'.symm
        rfl
    exact subsingleton_union (hsingle id) hnew

lemma single_resolveFilled_iff (h : Reachable L) (now : Time) (id' : IntentId) (fills : List Hash)
    (originTx : Hash) (raw : String) (hsingle : ∀ id, (L.attributedTo id).Subsingleton) :
    (∀ id, ((step L now (.resolveFilled id' fills originTx raw)).attributedTo id).Subsingleton) ↔
      L.Unambiguous now (.resolveFilled id' fills originTx raw) := by
  constructor
  · intro hone intent hfound hpending haccepts o ho o' ho' hmade hmade'
    have hid := hone id'
    rw [attributedTo_step] at hid
    have hgain : ∀ {p}, p ∈ L.observations.rows → L.attributes intent fills p = true →
        p.recorded ∈ L.gains now (.resolveFilled id' fills originTx raw) id' :=
      fun hp hmade => ⟨rfl, intent, hfound, hpending, haccepts, _, hp, rfl, hmade⟩
    have hrecorded := hid (Or.inr (hgain ho hmade)) (Or.inr (hgain ho' hmade'))
    exact L.observations.eq_of_key_eq ho ho' (congrArg Recorded.key hrecorded)
  · intro hone id
    rw [attributedTo_step]
    have hnew : ∀ x ∈ L.gains now (.resolveFilled id' fills originTx raw) id,
        ∀ y ∈ L.attributedTo id ∪ L.gains now (.resolveFilled id' fills originTx raw) id, x = y := by
      rintro x ⟨rfl, intent, hfound, hpending, haccepts, o, ho, rfl, hmade⟩ y (hy | hy)
      · obtain rfl : intent.id = id' := Table.key_of_find? hfound
        rw [h.attributedTo_pending (Table.mem_of_find? hfound) hpending] at hy
        cases hy
      · obtain ⟨-, intent', hfound', -, -, o', ho', rfl, hmade'⟩ := hy
        obtain rfl := Option.some.inj (hfound.symm.trans hfound')
        rw [hone intent hfound hpending haccepts o ho o' ho' hmade hmade']
    exact subsingleton_union (hsingle id) hnew

/-- The logs of the intents stay single exactly when no fill is matched twice. -/
lemma single_step_iff (h : Reachable L) (now : Time) (op : Op)
    (hsingle : ∀ id, (L.attributedTo id).Subsingleton) :
    (∀ id, ((step L now op).attributedTo id).Subsingleton) ↔ L.Unambiguous now op := by
  have hquiet : (∀ id, L.gains now op id = ∅) →
      ∀ id, ((step L now op).attributedTo id).Subsingleton := by
    intro hnone id
    rw [attributedTo_step, hnone, Set.union_empty]
    exact hsingle id
  cases op with
  | resolveFilled id' fills originTx raw => exact single_resolveFilled_iff h now _ _ _ _ hsingle
  | applyFinalizedRange range => exact single_range_iff now range hsingle
  | _ => exact iff_of_true (hquiet fun _ => rfl) trivial

lemma oneLog_iff (h : Reachable L) : L.OneLog ↔ ∀ id, (L.attributedTo id).Subsingleton := by
  constructor
  · rintro hone id x ⟨r, hr, rfl, hid⟩ y ⟨r', hr', rfl, hid'⟩
    rw [hone.single id r hr r' hr' hid hid']
  · intro hone
    refine ⟨fun id o ho o' ho' hid hid' => ?_, fun id o ho hid => ?_⟩
    · have hrecorded := hone id ⟨o, ho, rfl, hid⟩ ⟨o', ho', rfl, hid'⟩
      exact L.observations.eq_of_key_eq ho ho' (congrArg Recorded.key hrecorded)
    · obtain ⟨r, hr, hrid, -, hamount, hhash⟩ := h.quoted id o.recorded ⟨o, ho, rfl, hid⟩
      exact ⟨r, hr, hrid, hamount, hhash⟩

end

/-- Along a run every intent has at most one log, of the quoted amount and in one of the fill's
transactions, exactly when no step of the run matches a fill twice. -/
theorem attribution_is_one_log_iff (ops : List (Time × Op)) :
    (∀ pre rest, ops = pre ++ rest → (run Ledger.empty pre).OneLog) ↔
      ∀ pre op rest, ops = pre ++ op :: rest → (run Ledger.empty pre).Unambiguous op.1 op.2 := by
  have hreach : ∀ pre, Reachable (run Ledger.empty pre) := fun pre => ⟨pre, rfl⟩
  have hstep : ∀ pre (op : Time × Op), (run Ledger.empty pre).OneLog →
      ((run Ledger.empty (pre ++ [op])).OneLog ↔
        (run Ledger.empty pre).Unambiguous op.1 op.2) := by
    intro pre op hone
    rw [oneLog_iff (hreach _), run_append]
    exact single_step_iff (hreach pre) op.1 op.2 ((oneLog_iff (hreach pre)).1 hone)
  constructor
  · rintro h pre op rest rfl
    refine (hstep pre op (h pre (op :: rest) rfl)).1 (h (pre ++ [op]) rest ?_)
    simp
  · intro h pre
    -- from the empty ledger, one step after the other
    induction pre using List.reverseRecOn with
    | nil =>
      rintro rest -
      refine ⟨fun id o ho => ?_, fun id o ho => ?_⟩ <;> cases ho
    | append_singleton pre op ih =>
      intro rest hops
      have hsplit : ops = pre ++ op :: rest := by rw [hops]; simp
      exact (hstep pre op (ih _ hsplit)).2 (h pre op rest hsplit)

/-- Two transfers of the quoted amount in one transaction of the fill. -/
def twinRun : List (Time × Op) :=
  sentRun 70 ++
    [(3, .applyFinalizedRange (sampleRange none 5 [sampleTransfer 3 0 0 60, sampleTransfer 3 0 1 60])),
      (4, .resolveFilled 3 [3000] 800 "success")]

/-- Both are attributed to the intent. -/
theorem fill_takes_both_logs : ¬ ∀ ops, (run Ledger.empty ops).OneLog := by
  intro hclaim
  have hboth : ∀ o ∈ (run Ledger.empty twinRun).observations.rows, o.relayIntentId = some 3 := by
    decide +kernel
  have htwo : ∃ o ∈ (run Ledger.empty twinRun).observations.rows,
      ∃ o' ∈ (run Ledger.empty twinRun).observations.rows, o.key ≠ o'.key := by decide +kernel
  obtain ⟨o, ho, o', ho', hne⟩ := htwo
  exact hne (by rw [(hclaim twinRun).single 3 o ho o' ho' (hboth o ho) (hboth o' ho')])

end Payday
