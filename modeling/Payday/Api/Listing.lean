/-
# Listing deposit requests

`list_deposit_requests` and the query behind it, `list_for_account`.  A page starts behind the
row that the cursor names, in the order of `(created_at, id)` descending, and one row more than
the limit is fetched to learn whether there is another page.  Following `next_cursor` reads every
row that the query selects, once and in order, with any page sizes (`allPages_eq`).

The `status` filter is a disjunction over the raw columns, and the status a summary reports is
`payment_status`, where an attention reason comes first.  The disjunction asks for an attention
reason under `needs_attention` only, and does not exclude one under the other six, so a request
that is flagged is listed twice: under `needs_attention` and under the status it would have
without its flag.
-/
import Payday.Ledger.Operations
import Payday.Lib.Checks
import Payday.Lib.Pages
import Payday.Verification.Payer

namespace Payday.Api

open Verification (ApiError)

/-! ### The reported status -/

inductive DepositRequestStatus
  | awaitingDeposit
  | partiallyDeposited
  | deposited
  | settled
  | expired
  | returned
  | needsAttention
deriving DecidableEq, Repr

namespace DepositRequestStatus

def asStr : DepositRequestStatus → String
  | awaitingDeposit => "awaiting_deposit"
  | partiallyDeposited => "partially_deposited"
  | deposited => "deposited"
  | settled => "settled"
  | expired => "expired"
  | returned => "returned"
  | needsAttention => "needs_attention"

def fromStr (value : String) : Option DepositRequestStatus :=
  [awaitingDeposit, partiallyDeposited, deposited, settled, expired, returned,
    needsAttention].find? (fun status => status.asStr = value)

lemma fromStr_asStr (status : DepositRequestStatus) : fromStr status.asStr = some status := by
  cases status <;> decide

end DepositRequestStatus

/-- `payment_status`. -/
def paymentStatus (inv : Invoice) : DepositRequestStatus :=
  if inv.attentionReason.isSome then .needsAttention
  else match inv.status with
    | .created => if inv.confirmedReceived = 0 then .awaitingDeposit else .partiallyDeposited
    | .funded => .deposited
    | .fulfilled => .settled
    | .expired => .expired
    | .recovered => .returned

/-! ### The query -/

/-- A row of `invoices` with the columns the list reads. -/
structure ListedInvoice where
  invoice : Invoice
  accountId : ℕ
  createdAt : Time
  reference : Option String
  customerId : Option ℕ
  issuerId : Option String
deriving DecidableEq

namespace ListedInvoice

def id (row : ListedInvoice) : InvoiceId := row.invoice.id

/-- The sort key `(created_at, id)`. -/
def place (row : ListedInvoice) : ℕ ×ₗ ℕ := toLex (row.createdAt, row.id)

/-- `$2`. -/
def statusFilter (filter : Option String) (row : ListedInvoice) : Bool :=
  match filter with
  | none => true
  | some value =>
    (value = "awaiting_deposit" && row.invoice.status = .created &&
        row.invoice.confirmedReceived = 0) ||
      (value = "partially_deposited" && row.invoice.status = .created &&
        row.invoice.confirmedReceived ≠ 0) ||
      (value = "deposited" && row.invoice.status = .funded) ||
      (value = "settled" && row.invoice.status = .fulfilled) ||
      (value = "expired" && row.invoice.status = .expired) ||
      (value = "returned" && row.invoice.status = .recovered) ||
      (value = "needs_attention" && row.invoice.attentionReason.isSome)

/-- `$8`. -/
def verificationFilter (filter : Option String) (row : ListedInvoice) : Bool :=
  match filter with
  | none => true
  | some value =>
    (value = "not_required" && row.invoice.expectedEmail.isNone &&
        row.invoice.payerReference.isNone) ||
      (value = "pending" && (row.invoice.expectedEmail.isSome || row.invoice.payerReference.isSome) &&
        row.invoice.verificationCompletedAt.isNone) ||
      (value = "verified" && row.invoice.verificationCompletedAt.isSome) ||
      (value = "likely_unsolicited" && row.invoice.likelyUnsolicitedAt.isSome)

/-- `$n IS NULL OR column = $n`. -/
def matchesColumn {α : Type} [DecidableEq α] (filter column : Option α) : Bool :=
  filter.isNone || filter = column

/-- `$4 IS NULL OR (candidate.created_at, candidate.id) < (cursor.created_at, cursor.id)`; the
comparison with a cursor that is not there is not true. -/
def behind (startingAfter : Option InvoiceId) (cursor : Option ListedInvoice)
    (row : ListedInvoice) : Bool :=
  startingAfter.isNone || cursor.any (fun cursor => row.place < cursor.place)

end ListedInvoice

abbrev Invoices := Table ListedInvoice.id

/-- `find_by_id_for_account`. -/
def findByIdForAccount (db : Invoices) (account : ℕ) (id : InvoiceId) : Option ListedInvoice :=
  (db.find? id).filter (fun row => row.accountId = account)

/-- `list_for_account`. -/
def listForAccount (db : Invoices) (account : ℕ) (status reference : Option String)
    (customerId : Option ℕ) (issuerId verification : Option String)
    (startingAfter : Option InvoiceId) (limit : ℕ) : List ListedInvoice :=
  let cursor := startingAfter.bind (findByIdForAccount db account)
  (newestFirst ListedInvoice.place (db.rows.filter (fun candidate =>
    candidate.accountId = account && candidate.statusFilter status &&
      ListedInvoice.matchesColumn reference candidate.reference &&
      candidate.behind startingAfter cursor &&
      ListedInvoice.matchesColumn customerId candidate.customerId &&
      ListedInvoice.matchesColumn issuerId candidate.issuerId &&
      candidate.verificationFilter verification))).take (limit + 1)

/-! ### The handler -/

/-- `Uuid`'s texts: what is written is read back. -/
structure Uuids where
  text : InvoiceId → String
  parse : String → Option InvoiceId
  parse_text : ∀ id, parse (text id) = some id

structure ListQuery where
  status : Option String := none
  reference : Option String := none
  customerId : Option ℕ := none
  issuerId : Option String := none
  verification : Option String := none
  limit : Option ℕ := none
  startingAfter : Option String := none

structure DepositRequestSummary where
  id : InvoiceId
  status : DepositRequestStatus
  amount : ℕ
  received : ℕ
  reference : Option String
  customerId : Option ℕ
  issuerId : Option String
  verificationCompletedAt : Option Time
  likelyUnsolicitedAt : Option ℕ
  cancellationRequestedAt : Option Time
  createdAt : Time
  updatedAt : Time
deriving DecidableEq

def ListedInvoice.summary (row : ListedInvoice) : DepositRequestSummary where
  id := row.id
  status := paymentStatus row.invoice
  amount := row.invoice.amount
  received := row.invoice.confirmedReceived
  reference := row.reference
  customerId := row.customerId
  issuerId := row.issuerId
  verificationCompletedAt := row.invoice.verificationCompletedAt
  likelyUnsolicitedAt := row.invoice.likelyUnsolicitedAt
  cancellationRequestedAt := row.invoice.cancellationRequestedAt
  createdAt := row.createdAt
  updatedAt := row.invoice.updatedAt

structure DepositRequestList where
  depositRequests : List DepositRequestSummary
  nextCursor : Option String

def verificationFilters : List String :=
  ["not_required", "pending", "verified", "likely_unsolicited"]

def maxIssuerIdBytes : ℕ := 255

def validateIssuerId (issuerId : String) : Except ApiError Unit := do
  require (issuerId ≠ "" ∧ issuerId.utf8ByteSize ≤ maxIssuerIdBytes)
    (.invalidRequest "issuer_id must be 1 to 255 bytes when present")
  require (issuerId.toList.contains '\x00' = false)
    (.invalidRequest "issuer_id must not contain NUL")

/-- `strip_prefix("dr_")`. -/
def stripDr (value : String) : Option String :=
  match value.toList with
  | 'd' :: 'r' :: '_' :: suffix => some (String.ofList suffix)
  | _ => none

def fullDepositRequestId (U : Uuids) (value : String) : Except ApiError InvoiceId :=
  orError (.invalidRequest "starting_after must be a complete dr_ deposit request ID")
    ((stripDr value).bind U.parse)

/-- Check an optional parameter, when it is there. -/
def whenSome {α β : Type} (check : α → Except ApiError β) : Option α → Except ApiError (Option β)
  | none => .ok none
  | some value => (check value).map some

/-- `list_deposit_requests`. -/
def listDepositRequests (U : Uuids) (db : Invoices) (account : ℕ) (query : ListQuery) :
    Except ApiError DepositRequestList := do
  let status ← whenSome (fun value => orError (.invalidRequest "unknown deposit request status")
    (DepositRequestStatus.fromStr value)) query.status
  let _ ← whenSome (fun value => require (value ∈ verificationFilters)
    (ApiError.invalidRequest "unknown verification filter")) query.verification
  let limit := query.limit.getD 20
  require (1 ≤ limit ∧ limit ≤ 100) (.invalidRequest "limit must be between 1 and 100")
  let _ ← whenSome validateIssuerId query.issuerId
  let startingAfter ← whenSome (fullDepositRequestId U) query.startingAfter
  let _ ← whenSome (fun cursor => require (findByIdForAccount db account cursor ≠ none)
    (ApiError.invalidRequest "starting_after does not identify one of your deposit requests"))
    startingAfter
  let fetched := listForAccount db account (status.map (·.asStr)) query.reference query.customerId
    query.issuerId query.verification startingAfter limit
  let rows := fetched.take limit
  return {
    depositRequests := rows.map (·.summary)
    nextCursor := if limit < fetched.length then
      rows.getLast?.map (fun row => "dr_" ++ U.text row.id) else none }

/-- Follow `next_cursor` to the last page, with the given page sizes. -/
def allPages (U : Uuids) (db : Invoices) (account : ℕ) (query : ListQuery) :
    (limits : ℕ → ℕ) → (fuel : ℕ) → (startingAfter : Option String) →
      Option (List DepositRequestSummary)
  | _, 0, _ => none
  | limits, fuel + 1, startingAfter =>
    match listDepositRequests U db account
        { query with limit := some (limits 0), startingAfter := startingAfter } with
    | .error _ => none
    | .ok ⟨page, none⟩ => some page
    | .ok ⟨page, some next⟩ =>
      (allPages U db account query (fun i => limits (i + 1)) fuel (some next)).map (page ++ ·)

/-! ### What the status filter selects -/

/-- The status a request would report without its attention reason. -/
def lifecycleStatus (inv : Invoice) : DepositRequestStatus :=
  paymentStatus { inv with attentionReason := none }

lemma lifecycleStatus_ne_needsAttention (inv : Invoice) :
    lifecycleStatus inv ≠ .needsAttention := by
  unfold lifecycleStatus paymentStatus
  rcases inv.status with _ | _ | _ | _ | _
  · by_cases h : inv.confirmedReceived = 0 <;> simp [h]
  all_goals simp

lemma paymentStatus_eq (inv : Invoice) :
    paymentStatus inv = if inv.attentionReason.isSome then .needsAttention
      else lifecycleStatus inv := by
  unfold lifecycleStatus paymentStatus
  split <;> rfl

/-- The disjunction over the raw columns, in terms of the statuses. -/
lemma statusFilter_asStr (status : DepositRequestStatus) (row : ListedInvoice) :
    row.statusFilter (some status.asStr) = true ↔
      (status = .needsAttention ∧ row.invoice.attentionReason.isSome) ∨
        lifecycleStatus row.invoice = status := by
  rcases hstatus : row.invoice.status with _ | _ | _ | _ | _
  -- the two statuses of an unpaid request differ in the amount received
  · by_cases hreceived : row.invoice.confirmedReceived = 0 <;> cases status <;>
      simp [lifecycleStatus, paymentStatus, ListedInvoice.statusFilter, DepositRequestStatus.asStr,
        hstatus, hreceived]
  all_goals
    cases status <;>
      simp [lifecycleStatus, paymentStatus, ListedInvoice.statusFilter, DepositRequestStatus.asStr,
        hstatus]

/-- The requests of an account that the query for a status selects. -/
def selected (db : Invoices) (account : ℕ) (status : DepositRequestStatus) : List ListedInvoice :=
  newestFirst ListedInvoice.place (db.rows.filter (fun row =>
    row.accountId = account && row.statusFilter (some status.asStr)))

section

variable {U : Uuids} {db : Invoices} {account : ℕ} {status : DepositRequestStatus}

lemma mem_selected {row : ListedInvoice} : row ∈ selected db account status ↔
    row ∈ db.rows ∧ row.accountId = account ∧ row.statusFilter (some status.asStr) := by
  simp [selected]

/-- No two rows have one place, since their ids differ. -/
lemma places_nodup (db : Invoices) (p : ListedInvoice → Bool) :
    ((db.rows.filter p).map ListedInvoice.place).Nodup := by
  have hids : (db.rows.map ListedInvoice.place).map (fun place => (ofLex place).2) =
      db.rows.map ListedInvoice.id := by
    rw [List.map_map]
    rfl
  have hplaces : (db.rows.map ListedInvoice.place).Nodup :=
    List.Nodup.of_map (fun place => (ofLex place).2) (hids ▸ db.nodup)
  exact hplaces.sublist (List.filter_sublist.map _)

lemma selected_decreasing :
    (selected db account status).Pairwise (fun row row' => row'.place < row.place) :=
  newestFirst_decreasing (places_nodup db _)

/-- The first page. -/
lemma listForAccount_first (limit : ℕ) :
    listForAccount db account (some status.asStr) none none none none none limit =
      (selected db account status).take (limit + 1) := by
  simp [listForAccount, selected, ListedInvoice.matchesColumn, ListedInvoice.behind,
    ListedInvoice.verificationFilter]

/-- The page behind a row. -/
lemma listForAccount_behind {read left : List ListedInvoice} {last : ListedInvoice}
    (h : selected db account status = read ++ last :: left) (limit : ℕ) :
    listForAccount db account (some status.asStr) none none none none (some last.id) limit =
      left.take (limit + 1) := by
  have hlast : last ∈ selected db account status := by simp [h]
  obtain ⟨hmem, haccount, -⟩ := mem_selected.1 hlast
  have hcursor : findByIdForAccount db account last.id = some last := by
    rw [findByIdForAccount, Table.find?_of_mem hmem]
    simp [haccount]
  have hleft : left = (selected db account status).filter
      (fun row => decide (row.place < last.place)) := by
    rw [h]
    exact (filter_below (h ▸ selected_decreasing)).symm
  have hfilter : left = newestFirst ListedInvoice.place ((db.rows.filter (fun row =>
      row.accountId = account && row.statusFilter (some status.asStr))).filter
        (fun row => decide (row.place < last.place))) := by
    rw [newestFirst_filter (places_nodup db _)]
    exact hleft
  rw [hfilter, List.filter_filter]
  simp [listForAccount, hcursor, ListedInvoice.matchesColumn, ListedInvoice.behind,
    ListedInvoice.verificationFilter, Bool.and_comm]

/-! ### The pages -/

/-- The cursor of a page: none before the first, else the text of the last row read. -/
def cursorAfter (U : Uuids) (read : List ListedInvoice) : Option String :=
  read.getLast?.map (fun row => "dr_" ++ U.text row.id)

lemma fullDepositRequestId_text (id : InvoiceId) :
    fullDepositRequestId U ("dr_" ++ U.text id) = .ok id := by
  simp [fullDepositRequestId, stripDr, U.parse_text, orError]

/-- The page behind the rows that were read. -/
lemma listDepositRequests_page {read left : List ListedInvoice}
    (h : selected db account status = read ++ left) {limit : ℕ} (hlimit : 1 ≤ limit ∧ limit ≤ 100) :
    listDepositRequests U db account
        { status := some status.asStr, limit := some limit, startingAfter := cursorAfter U read } =
      .ok { depositRequests := (left.take limit).map (·.summary)
            nextCursor := if limit < left.length then cursorAfter U (left.take limit) else none } := by
  have hmore : limit < (left.take (limit + 1)).length ↔ limit < left.length := by
    rw [List.length_take]
    omega
  have htake : (left.take (limit + 1)).take limit = left.take limit := by
    rw [List.take_take, Nat.min_eq_left (Nat.le_succ limit)]
  rcases List.eq_nil_or_concat read with rfl | ⟨front, last, rfl⟩
  · rw [List.nil_append] at h
    simp only [listDepositRequests, cursorAfter, List.getLast?_nil, Option.map_none,
      whenSome, DepositRequestStatus.fromStr_asStr, orError, Option.getD_some, require, hlimit,
      and_self, if_true, Except.map, Option.map_some, bind, Except.bind, pure, Except.pure,
      listForAccount_first, h, htake, hmore]
  · have hsplit : selected db account status = front ++ last :: left := by rw [h]; simp
    obtain ⟨hmem, haccount, -⟩ := mem_selected.1
      (show last ∈ selected db account status by rw [hsplit]; simp)
    have hcursor : findByIdForAccount db account last.id ≠ none := by
      rw [findByIdForAccount, Table.find?_of_mem hmem]
      simp [haccount]
    simp only [listDepositRequests, cursorAfter, List.concat_eq_append, List.getLast?_append,
      List.getLast?_singleton, Option.some_or, Option.map_some, whenSome,
      DepositRequestStatus.fromStr_asStr, orError, Option.getD_some, require, hlimit, and_self,
      if_true, Except.map, fullDepositRequestId_text, if_pos hcursor, bind, Except.bind, pure,
      Except.pure, listForAccount_behind hsplit, htake, hmore]

/-- Following the cursors from any place reads what is left, in order. -/
lemma allPages_from (limits : ℕ → ℕ) (fuel : ℕ) (read left : List ListedInvoice)
    (h : selected db account status = read ++ left)
    (hlimits : ∀ i, 1 ≤ limits i ∧ limits i ≤ 100) (hfuel : left.length < fuel) :
    allPages U db account { status := some status.asStr } limits fuel (cursorAfter U read) =
      some (left.map (·.summary)) := by
  induction fuel generalizing limits read left with
  | zero => omega
  | succ fuel ih =>
    have hpage := listDepositRequests_page (U := U) h (hlimits 0)
    rw [allPages, hpage]
    by_cases hmore : limits 0 < left.length
    · -- the page is full and something is left behind it
      obtain ⟨hpos, -⟩ := hlimits 0
      have hne : left.take (limits 0) ≠ [] := by
        rw [Ne, List.take_eq_nil_iff]
        rintro (hzero | rfl)
        · omega
        · simp at hmore
      have hsplit : selected db account status =
          (read ++ left.take (limits 0)) ++ left.drop (limits 0) := by
        rw [List.append_assoc, List.take_append_drop]
        exact h
      have hcursor : cursorAfter U (read ++ left.take (limits 0)) =
          cursorAfter U (left.take (limits 0)) := by
        rw [cursorAfter, cursorAfter, List.getLast?_append_of_ne_nil _ hne]
      obtain ⟨next, hnext⟩ : ∃ next, cursorAfter U (left.take (limits 0)) = some next :=
        Option.isSome_iff_exists.1 (by simp [cursorAfter, hne])
      have hrest := ih (fun i => limits (i + 1)) _ _ hsplit (fun i => hlimits (i + 1))
        (by rw [List.length_drop]; omega)
      rw [hcursor, hnext] at hrest
      simp only [if_pos hmore, hnext, hrest, Option.map_some]
      rw [← List.map_append, List.take_append_drop]
    · simp only [if_neg hmore]
      rw [List.take_of_length_le (not_lt.1 hmore)]

end

/-- Following the cursors reads the selected requests, whatever the page sizes are. -/
lemma allPages_eq (U : Uuids) (db : Invoices) (account : ℕ) (status : DepositRequestStatus)
    (limits : ℕ → ℕ) (hlimits : ∀ i, 1 ≤ limits i ∧ limits i ≤ 100) (fuel : ℕ)
    (hfuel : (selected db account status).length < fuel) :
    allPages U db account { status := some status.asStr } limits fuel none =
      some ((selected db account status).map (·.summary)) :=
  allPages_from limits fuel [] _ rfl hlimits hfuel

/-- With any page sizes the list for a status ends, and has exactly the requests of the account
that report this status, each once, by creation time and id descending. -/
def ListsReported (U : Uuids) (db : Invoices) (account : ℕ) (status : DepositRequestStatus) : Prop :=
  ∀ limits : ℕ → ℕ, (∀ i, 1 ≤ limits i ∧ limits i ≤ 100) → ∃ rows : List ListedInvoice,
    (∃ pages, ∀ fuel, pages ≤ fuel →
      allPages U db account { status := some status.asStr } limits fuel none =
        some (rows.map (·.summary))) ∧
    rows.Pairwise (fun row row' => row'.place < row.place) ∧
    ∀ row, row ∈ rows ↔ row ∈ db.rows ∧ row.accountId = account ∧ row.summary.status = status

/-- The account has no flagged request whose status without the flag is the given one. -/
def NoneHidden (db : Invoices) (account : ℕ) (status : DepositRequestStatus) : Prop :=
  ∀ row ∈ db.rows, row.accountId = account → lifecycleStatus row.invoice = status →
    row.invoice.attentionReason = none

lemma statusFilter_iff_reported {db : Invoices} {account : ℕ} {status : DepositRequestStatus}
    (h : NoneHidden db account status) {row : ListedInvoice} (hmem : row ∈ db.rows)
    (haccount : row.accountId = account) :
    row.statusFilter (some status.asStr) = true ↔ row.summary.status = status := by
  rw [statusFilter_asStr, ListedInvoice.summary, paymentStatus_eq]
  rcases hreason : row.invoice.attentionReason with _ | reason
  · simp
  · have hhidden : lifecycleStatus row.invoice ≠ status := by
      intro heq
      rw [h row hmem haccount heq] at hreason
      cases hreason
    simp [hhidden, eq_comm]

/-- A flagged request is listed under the status it hides. -/
lemma noneHidden_of_listsReported {U : Uuids} {db : Invoices} {account : ℕ}
    {status : DepositRequestStatus} (hlists : ListsReported U db account status) :
    NoneHidden db account status := by
  intro row hmem haccount hstatus
  obtain ⟨rows, ⟨pages, hpages⟩, -, hrows⟩ := hlists (fun _ => 1) (fun _ => by omega)
  have hall := allPages_eq U db account status (fun _ => 1) (fun _ => by omega)
    (max pages ((selected db account status).length + 1)) (by omega)
  rw [hpages _ (le_max_left _ _)] at hall
  have hselected : row ∈ selected db account status :=
    mem_selected.2 ⟨hmem, haccount, (statusFilter_asStr status row).2 (Or.inr hstatus)⟩
  have hsummary : row.summary ∈ rows.map (·.summary) := by
    rw [Option.some.inj hall]
    exact List.mem_map_of_mem hselected
  obtain ⟨row', hrow', heq⟩ := List.mem_map.1 hsummary
  obtain ⟨hmem', -, hreported⟩ := (hrows row').1 hrow'
  have hid : row'.id = row.id := congrArg DepositRequestSummary.id heq
  obtain rfl : row' = row := db.eq_of_key_eq hmem' hmem hid
  rw [ListedInvoice.summary, paymentStatus_eq] at hreported
  rcases hreason : row'.invoice.attentionReason with _ | reason
  · rfl
  · simp only [hreason, Option.isSome_some, if_true] at hreported
    exact absurd (hstatus.trans hreported.symm) (lifecycleStatus_ne_needsAttention _)

/-- The list for a status agrees with the statuses its summaries report exactly when the account
has no request that an attention reason keeps from reporting this status. -/
theorem list_agrees_with_status_iff (U : Uuids) (db : Invoices) (account : ℕ)
    (status : DepositRequestStatus) :
    ListsReported U db account status ↔ NoneHidden db account status := by
  refine ⟨noneHidden_of_listsReported, ?_⟩
  intro hnone limits hlimits
  refine ⟨selected db account status, ⟨(selected db account status).length + 1, ?_⟩,
    selected_decreasing, ?_⟩
  · intro fuel hfuel
    exact allPages_eq U db account status limits hlimits fuel hfuel
  · intro row
    rw [mem_selected]
    constructor
    · rintro ⟨hmem, haccount, hfilter⟩
      exact ⟨hmem, haccount, (statusFilter_iff_reported hnone hmem haccount).1 hfilter⟩
    · rintro ⟨hmem, haccount, hreported⟩
      exact ⟨hmem, haccount, (statusFilter_iff_reported hnone hmem haccount).2 hreported⟩

/-! ### A flagged request -/

/-- Ids written as decimal numbers. -/
def decimalIds : Uuids where
  text := Nat.repr
  parse := fun text => some (Nat.ofDigitChars 10 text.toList 0)
  parse_text := by
    intro id
    rw [Nat.toList_repr, Nat.ofDigitChars_toDigits (by decide) (by decide)]

/-- The requests of a ledger as the requests of one account, all created at once. -/
def ownedBy (account : ℕ) (L : Ledger) : Invoices where
  rows := L.invoices.rows.map (fun row => ⟨row, account, 0, none, none, none⟩)
  nodup := by
    rw [List.map_map]
    exact L.invoices.nodup

/-- The sample request is paid, and its sweep runs out of attempts. -/
def flaggedRun : List (Time × Op) := paidRun.take 2 ++ [(3, .flagAttention 7 "retries_exhausted")]

/-- The flagged request is listed as `deposited` and reports `needs_attention`. -/
theorem flagged_request_is_listed_as_deposited :
    ¬ ListsReported decimalIds (ownedBy 1 (run Ledger.empty flaggedRun)) 1 .deposited := by
  intro hlists
  have hnone := noneHidden_of_listsReported hlists
  have hflagged : ¬ NoneHidden (ownedBy 1 (run Ledger.empty flaggedRun)) 1 .deposited := by
    unfold NoneHidden
    decide +kernel
  exact hflagged hnone

end Payday.Api
