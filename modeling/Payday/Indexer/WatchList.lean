/-
# The watch list and its fingerprint

The indexer keeps the addresses to watch together with a fingerprint of them, and the server sends
the addresses again only if the fingerprint moved: `watch_fingerprint` and `watch_addresses` of
`gum-ledger/src/invoices.rs`, `watch_list` of `gum-server/src/internal_rpc.rs` and
`refresh_watch_list` of `gum-indexer/src/indexer.rs`.  The fingerprint is the number of the rows
and their newest `updated_at`, which is the time a transaction started and not the time it
committed, and a settled request leaves the list when its last change is too long ago.
-/
import Payday.Ledger.Writes
import Payday.Lib.Text

namespace Payday

/-! ### The server's queries -/

/-- `payment_address IS NOT NULL AND chain_id = $1`. -/
def Invoice.onChain (row : Invoice) (chainId : ChainId) : Bool :=
  row.binding.any fun binding => decide (binding.chainId = chainId)

/-- The predicate of the watch list. -/
def Invoice.watched (chainId : ChainId) (recentSince : Time) (row : Invoice) : Bool :=
  row.onChain chainId && (decide (row.status ≠ .fulfilled ∧ row.status ≠ .recovered) ||
    decide (0 < row.uncollectedCount) || decide (recentSince < row.updatedAt))

/-- The rows the watch list selects. -/
def Ledger.watchedRows (L : Ledger) (chainId : ChainId) (recentSince : Time) : List Invoice :=
  L.invoices.rows.filter (Invoice.watched chainId recentSince)

/-- Payment addresses the transfer signal should watch. -/
def watchAddresses (L : Ledger) (chainId : ChainId) (recentSince : Time) : List Address :=
  ((L.watchedRows chainId recentSince).filterMap fun row =>
    row.binding.map (·.paymentAddress)).insertionSort (· ≤ ·)

/-- A cheap change detector: the row count and the newest change under the same predicate. -/
def watchFingerprint (L : Ledger) (chainId : ChainId) (recentSince : Time) : ℕ × Option Time :=
  ((L.watchedRows chainId recentSince).length,
    ((L.watchedRows chainId recentSince).map (·.updatedAt)).max?)

/-- The fingerprint as it is sent; times are in microseconds. -/
def fingerprintText (fingerprint : ℕ × Option Time) : String :=
  fingerprint.1.repr ++ ":" ++ (match fingerprint.2 with
    | none => ""
    | some newest => newest.repr)

/-! ### The indexer's cache -/

/-- What the indexer holds. -/
structure WatchCache where
  fingerprint : Option String := none
  addresses : List Address := []
deriving DecidableEq, Repr

/-- The ledger, the indexer's cache, and a query whose fingerprint moved and whose addresses are
still to be read. -/
structure Watch where
  ledger : Ledger
  cache : WatchCache := {}
  pending : Option (String × Time) := none
  /-- The `recent_since` of the last query. -/
  recentSince : Time := 0

inductive WatchEvent
  /-- A transaction that started at `startedAt` commits. -/
  | commit (startedAt : Time) (op : Op)
  /-- The server reads the fingerprint for a query. -/
  | query (recentSince : Time)
  /-- The server reads the addresses, and the indexer gets its answer. -/
  | list
  /-- The query fails. -/
  | lost

namespace Watch

variable (chainId : ChainId)

/-- The server's fingerprint for a query. -/
def current (w : Watch) (recentSince : Time) : String :=
  fingerprintText (watchFingerprint w.ledger chainId recentSince)

/-- One step.  The indexer asks again only after it has its answer. -/
def step (w : Watch) : WatchEvent → Watch
  | .commit startedAt op => { w with ledger := Payday.step w.ledger startedAt op }
  | .query recentSince =>
    if w.pending.isSome then w
    else if w.cache.fingerprint = some (w.current chainId recentSince) then
      { w with recentSince := recentSince }
    else { w with
      pending := some (w.current chainId recentSince, recentSince)
      recentSince := recentSince }
  | .list =>
    match w.pending with
    | none => w
    | some (fingerprint, recentSince) => { w with
        cache := ⟨some fingerprint, watchAddresses w.ledger chainId recentSince⟩
        pending := none }
  | .lost => { w with pending := none }

def run (w : Watch) (events : List WatchEvent) : Watch := events.foldl (step chainId) w

/-- `recent_since` does not decrease. -/
def Forward (w : Watch) : WatchEvent → Prop
  | .query recentSince => w.recentSince ≤ recentSince
  | _ => True

/-- A transaction that changes a request on the list started after the newest change that the
fingerprint the indexer holds tells of. -/
def InOrder (w : Watch) : WatchEvent → Prop
  | .commit startedAt op =>
    ∀ row ∈ (Payday.step w.ledger startedAt op).invoices.rows, row.watched chainId w.recentSince = true →
      row ∈ w.ledger.invoices.rows ∨ ∀ f, w.cache.fingerprint = some (fingerprintText f) →
        ∀ newest, f.2 = some newest → newest < startedAt
  | _ => True

/-- Each event of a run meets its condition in the state it finds. -/
def Along (P : Watch → WatchEvent → Prop) : Watch → List WatchEvent → Prop
  | _, [] => True
  | w, e :: rest => P w e ∧ Along P (w.step chainId e) rest

end Watch

/-! ### Fingerprints -/

/-- What follows the count. -/
lemma dropWhile_fingerprintText (f : ℕ × Option Time) :
    (fingerprintText f).toList.dropWhile Char.isDigit = ':' :: (match f.2 with
      | none => ""
      | some newest => newest.repr).toList := by
  unfold fingerprintText
  rw [String.toList_append, String.toList_append, List.append_assoc]
  rw [List.dropWhile_append_of_pos fun c hc => isDigit_toList_repr hc]
  rfl

/-- The text determines the newest change. -/
lemma fingerprintText_newest {f g : ℕ × Option Time} (h : fingerprintText f = fingerprintText g) :
    f.2 = g.2 := by
  have hrest := congrArg (fun text => text.toList.dropWhile Char.isDigit) h
  simp only [dropWhile_fingerprintText] at hrest
  have htext := String.toList_inj.1 (List.cons.inj hrest).2
  -- the text of a number is not empty
  have hne : ∀ n : ℕ, n.repr ≠ "" := by
    intro n hn
    have hlist := congrArg String.toList hn
    rw [Nat.toList_repr] at hlist
    exact Nat.toDigits_ne_nil hlist
  obtain ⟨count, newest⟩ := f
  obtain ⟨count', newest'⟩ := g
  cases newest with
  | none =>
    cases newest' with
    | none => rfl
    | some t => exact absurd htext.symm (hne t)
  | some t =>
    cases newest' with
    | none => exact absurd htext (hne t)
    | some t' =>
      have heq : t = t' := Nat.repr_injective htext
      rw [heq]

/-! ### What a transaction does to the rows -/

/-- Every statement stamps the row. -/
lemma Write.apply_updatedAt (now : Time) (row : Invoice) (w : Write) :
    (w.apply now row).updatedAt = now := by
  cases w with
  | credit c =>
    simp only [Write.apply, InvoiceCredit.write]
    split <;> rfl
  | _ => rfl

lemma Invoice.writeAll_updatedAt (now : Time) (row : Invoice) (ws : List Write) :
    row.writeAll now ws = row ∨ (row.writeAll now ws).updatedAt = now := by
  induction ws generalizing row with
  | nil => exact Or.inl rfl
  | cons w rest ih =>
    rw [Invoice.writeAll_cons]
    rcases ih (w.apply now row) with heq | hstamp
    · rw [heq]
      exact Or.inr (w.apply_updatedAt now row)
    · exact Or.inr hstamp

/-- A row after a transaction was there before, or has the transaction's stamp. -/
lemma mem_rows_step {L : Ledger} {now : Time} {op : Op} {row : Invoice}
    (h : row ∈ (step L now op).invoices.rows) : row ∈ L.invoices.rows ∨ row.updatedAt = now := by
  have hfind : (step L now op).invoices.find? row.id = some row := Table.find?_of_mem h
  rcases hold : L.invoices.find? row.id with _ | old
  · obtain ⟨input, -, hrow⟩ := find?_step_issued op hold hfind
    rw [hrow]
    exact Or.inr rfl
  · have hwritten := (find?_step now op hold).found
    rw [hfind] at hwritten
    have hrow := Option.some.inj hwritten
    rcases old.writeAll_updatedAt now (L.writes now old op) with heq | hstamp
    · refine Or.inl ?_
      rw [hrow, heq]
      exact Table.mem_of_find? hold
    · rw [hrow]
      exact Or.inr hstamp

/-! ### The invariant -/

lemma Invoice.onChain_of_watched {chainId : ChainId} {since : Time} {row : Invoice}
    (h : row.watched chainId since = true) : row.onChain chainId = true := by
  simp only [Invoice.watched, Bool.and_eq_true] at h
  exact h.1

/-- A row that is watched is watched under every earlier `recent_since`. -/
lemma Invoice.watched_mono {chainId : ChainId} {since since' : Time} (hle : since ≤ since')
    {row : Invoice} (h : row.watched chainId since' = true) : row.watched chainId since = true := by
  simp only [Invoice.watched, Bool.and_eq_true, Bool.or_eq_true, decide_eq_true_eq] at h ⊢
  refine ⟨h.1, ?_⟩
  rcases h.2 with hopen | hrecent
  · exact Or.inl hopen
  · exact Or.inr (lt_of_le_of_lt hle hrecent)

lemma mem_watchAddresses {L : Ledger} {chainId : ChainId} {since : Time} {a : Address} :
    a ∈ watchAddresses L chainId since ↔ ∃ row ∈ L.invoices.rows,
      row.watched chainId since = true ∧ row.binding.map (·.paymentAddress) = some a := by
  simp only [watchAddresses, Ledger.watchedRows, List.mem_insertionSort, List.mem_filterMap,
    List.mem_filter, and_assoc]

/-- The newest change of the rows that are watched. -/
lemma updatedAt_le_newest {L : Ledger} {chainId : ChainId} {since : Time} {row : Invoice}
    (hrow : row ∈ L.invoices.rows) (hw : row.watched chainId since = true) :
    ∃ newest, (watchFingerprint L chainId since).2 = some newest ∧ row.updatedAt ≤ newest := by
  have hmem : row.updatedAt ∈ (L.watchedRows chainId since).map (·.updatedAt) :=
    List.mem_map.2 ⟨row, List.mem_filter.2 ⟨hrow, hw⟩, rfl⟩
  rcases hmax : ((L.watchedRows chainId since).map (·.updatedAt)).max? with _ | newest
  · rw [List.max?_eq_none_iff] at hmax
    rw [hmax] at hmem
    cases hmem
  · exact ⟨newest, hmax, (List.max?_eq_some_iff.1 hmax).2 _ hmem⟩

namespace Watch

variable {chainId : ChainId}

/-- What the indexer holds says about the ledger: a row on the list that its addresses lack changed
after the newest change of its fingerprint. -/
structure Sound (chainId : ChainId) (w : Watch) : Prop where
  cached : ∀ text, w.cache.fingerprint = some text → ∃ f, text = fingerprintText f ∧
    ∀ row ∈ w.ledger.invoices.rows, row.watched chainId w.recentSince = true →
      (∃ a ∈ w.cache.addresses, row.binding.map (·.paymentAddress) = some a) ∨
        ∀ newest, f.2 = some newest → newest < row.updatedAt
  asked : ∀ text since, w.pending = some (text, since) → (∃ f, text = fingerprintText f) ∧
    since ≤ w.recentSince

lemma inOrder_of_newest {w : Watch} {startedAt : Time} {op : Op} {f : ℕ × Option Time}
    (hheld : w.cache.fingerprint = some (fingerprintText f))
    (h : ∀ newest, f.2 = some newest → newest < startedAt) : w.InOrder chainId (.commit startedAt op) := by
  refine fun row _ _ => Or.inr fun g hg newest hnewest => h newest ?_
  rw [hheld] at hg
  rw [fingerprintText_newest (Option.some.inj hg), hnewest]

lemma Sound.step {w : Watch} (h : Sound chainId w) {e : WatchEvent} (hf : w.Forward e)
    (ho : w.InOrder chainId e) : Sound chainId (w.step chainId e) := by
  cases e with
  | commit startedAt op =>
    refine ⟨fun text htext => ?_, h.asked⟩
    obtain ⟨f, rfl, hrows⟩ := h.cached text htext
    refine ⟨f, rfl, fun row hrow hw => ?_⟩
    rcases mem_rows_step hrow with hold | hstamp
    · exact hrows row hold hw
    · rcases ho row hrow hw with hold | hlater
      · exact hrows row hold hw
      · rw [hstamp]
        exact Or.inr (hlater f htext)
  | query recentSince =>
    have hle : w.recentSince ≤ recentSince := hf
    simp only [Watch.step]
    split
    · exact h
    · rename_i hidle
      -- a row of the shorter list is on the longer one
      have hcached : ∀ text, w.cache.fingerprint = some text → ∃ f, text = fingerprintText f ∧
          ∀ row ∈ w.ledger.invoices.rows, row.watched chainId recentSince = true →
            (∃ a ∈ w.cache.addresses, row.binding.map (·.paymentAddress) = some a) ∨
              ∀ newest, f.2 = some newest → newest < row.updatedAt := by
        intro text htext
        obtain ⟨f, hf, hrows⟩ := h.cached text htext
        exact ⟨f, hf, fun row hrow hw => hrows row hrow (Invoice.watched_mono hle hw)⟩
      split
      · refine ⟨hcached, fun text since hpending => ?_⟩
        rw [Option.not_isSome_iff_eq_none.1 hidle] at hpending
        cases hpending
      · refine ⟨hcached, fun text since hpending => ?_⟩
        obtain ⟨rfl, rfl⟩ := Prod.mk.inj (Option.some.inj hpending)
        exact ⟨⟨_, rfl⟩, le_rfl⟩
  | list =>
    simp only [Watch.step]
    split
    · exact h
    · rename_i text since hpending
      obtain ⟨⟨f, hf⟩, hsince⟩ := h.asked text since hpending
      refine ⟨fun text' htext => ?_, fun text' since' hnone => ?_⟩
      · obtain rfl := Option.some.inj htext
        refine ⟨f, hf, fun row hrow hw => Or.inl ?_⟩
        -- the addresses were read after the fingerprint
        have hw := Invoice.watched_mono hsince hw
        rcases hb : row.binding with _ | b
        · have hon := Invoice.onChain_of_watched hw
          rw [Invoice.onChain, hb] at hon
          cases hon
        · exact ⟨b.paymentAddress, mem_watchAddresses.2 ⟨row, hrow, hw, by rw [hb]; rfl⟩, rfl⟩
      · cases hnone
  | lost =>
    refine ⟨h.cached, fun text since hnone => ?_⟩
    cases hnone

lemma Sound.run {w : Watch} (h : Sound chainId w) {events : List WatchEvent}
    (hforward : Along chainId Forward w events) (horder : Along chainId (InOrder chainId) w events) :
    Sound chainId (w.run chainId events) := by
  induction events generalizing w with
  | nil => exact h
  | cons e rest ih => exact ih (h.step hforward.1 horder.1) hforward.2 horder.2

/-- If every transaction that changes a request on the list started after the newest change the
indexer's fingerprint tells of, then in every run the addresses the indexer holds contain every
address to watch whenever the server finds its fingerprint unchanged. -/
theorem unchanged_watch_list_is_complete_in_order (chainId : ChainId) (L : Ledger)
    {events : List WatchEvent} (hforward : Along chainId Forward { ledger := L } events)
    (horder : Along chainId (InOrder chainId) { ledger := L } events) {w : Watch}
    (hw : run chainId { ledger := L } events = w) {recentSince : Time}
    (hsince : w.recentSince ≤ recentSince)
    (hanswer : w.cache.fingerprint = some (w.current chainId recentSince)) :
    ∀ a ∈ watchAddresses w.ledger chainId recentSince, a ∈ w.cache.addresses := by
  have hstart : Sound chainId { ledger := L } := by
    refine ⟨fun text htext => ?_, fun text since hpending => ?_⟩
    · cases htext
    · cases hpending
  have hsound := hstart.run hforward horder
  rw [hw] at hsound
  intro a ha
  obtain ⟨row, hrow, hwatched, haddress⟩ := mem_watchAddresses.1 ha
  obtain ⟨f, hf, hrows⟩ := hsound.cached _ hanswer
  -- the fingerprint says that nothing newer is on the list
  obtain ⟨newest, hnewest, hbefore⟩ := updatedAt_le_newest hrow hwatched
  have hsame : f.2 = some newest := (fingerprintText_newest hf).symm.trans hnewest
  rcases hrows row hrow (Invoice.watched_mono hsince hwatched) with
    ⟨a', ha', haddress'⟩ | hafter
  · rw [haddress] at haddress'
    exact Option.some.inj haddress' ▸ ha'
  · exact absurd (hafter newest hsame) (not_lt.2 hbefore)

/-- A request of chain 1 like the sample request, under another id and address. -/
def otherRequest (id : InvoiceId) (address : Address) : IssuedRequest :=
  { sampleRequest with id := id, initialBinding := some ⟨1, 10, 20, 30, address, 0, none⟩ }

/-- The sample request is settled and another one is issued; the indexer reads the list; a third
one is issued by a transaction that started before the second one's. -/
def overtaken (startedAt : Time) : List WatchEvent :=
  [.commit 50 (.insertIssued (otherRequest 8 41)), .query 0, .list,
    .commit startedAt (.insertIssued (otherRequest 9 42))]

/-- Transactions in order: the fingerprint moves with the third request, and the next answer has
it. -/
theorem unchanged_watch_list_is_complete_in_order_issued :
    42 ∈ watchAddresses (run 1 { ledger := Payday.run Ledger.empty paidRun }
        (overtaken 60 ++ [.query 20, .list])).ledger 1 20 ∧
      42 ∈ (run 1 { ledger := Payday.run Ledger.empty paidRun }
        (overtaken 60 ++ [.query 20, .list])).cache.addresses := by
  have hin : 42 ∈ watchAddresses (run 1 { ledger := Payday.run Ledger.empty paidRun }
      (overtaken 60 ++ [.query 20, .list])).ledger 1 20 := by decide +kernel
  refine ⟨hin, unchanged_watch_list_is_complete_in_order 1 _ ?_ ?_ rfl (by decide +kernel) ?_ 42 hin⟩
  · exact ⟨trivial, (by decide : 0 ≤ 0), trivial, trivial, (by decide : 0 ≤ 20), trivial, trivial⟩
  · refine ⟨fun _ _ _ => Or.inr fun _ hnone => (by cases hnone), trivial, trivial,
      inOrder_of_newest (f := (2, some 50)) (by decide +kernel) ?_, trivial, trivial, trivial⟩
    rintro newest hnewest
    cases hnewest
    decide
  · decide +kernel

/-- The third request's transaction started at 40 and commits after the query: when the settled
request leaves the list, the count and the newest change are the ones the indexer holds, and
address 42 is not watched. -/
theorem overtaken_request_is_not_watched :
    Along 1 Forward { ledger := Payday.run Ledger.empty paidRun } (overtaken 40) ∧
      (run 1 { ledger := Payday.run Ledger.empty paidRun } (overtaken 40)).recentSince ≤ 20 ∧
      (run 1 { ledger := Payday.run Ledger.empty paidRun } (overtaken 40)).cache.fingerprint =
        some ((run 1 { ledger := Payday.run Ledger.empty paidRun } (overtaken 40)).current 1 20) ∧
      42 ∈ watchAddresses (run 1 { ledger := Payday.run Ledger.empty paidRun }
        (overtaken 40)).ledger 1 20 ∧
      42 ∉ (run 1 { ledger := Payday.run Ledger.empty paidRun } (overtaken 40)).cache.addresses := by
  refine ⟨⟨trivial, (by decide : 0 ≤ 0), trivial, trivial, trivial⟩, by decide +kernel,
    by decide +kernel, by decide +kernel, by decide +kernel⟩

end Watch

end Payday
