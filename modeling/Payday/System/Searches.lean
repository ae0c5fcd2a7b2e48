/-
# The searches of the signers

`find_settlement` goes forward through a range in chunks and halves the chunk when the provider
rejects a range; `find_authorization_use` goes backward in chunks of one size and returns the
provider's rejection.  Both are run here as the code runs them, on `u64` block numbers and with a
provider that may answer each call differently, together with the ranges that were answered.
-/
import Payday.System.Events

namespace Payday

open Signers

/-! ### The loops -/

/-- `u64::saturating_add`. -/
def saturatingAdd (a b : ℕ) : ℕ := min (a + b) (2 ^ 64 - 1)

/-- What a search has asked the provider. -/
structure Asked where
  calls : ℕ := 0
  /-- The ranges that were answered, in order. -/
  answered : List (ℕ × ℕ) := []
deriving DecidableEq, Repr

namespace Asked

def answer (asked : Asked) (a b : ℕ) : Asked :=
  { calls := asked.calls + 1, answered := asked.answered ++ [(a, b)] }

def reject (asked : Asked) : Asked := { asked with calls := asked.calls + 1 }

end Asked

/-- The error of `find_settlement` for a range without a settlement. -/
def noSettlement (payment : Address) (fromBlock toBlock : ℕ) : ChainError :=
  .transient s!"payment {payment} is deployed but has no finalized settlement event in blocks {fromBlock}..={toBlock}"

/-- The loop of `find_settlement`, for at most `fuel` turns. -/
def settlementSearch (ask : ℕ → ℕ → ℕ → Except ChainError (Option SettlementEvent))
    (payment : Address) (fromBlock toBlock : ℕ) :
    ℕ → Asked → ℕ → ℕ → Option (Asked × Except ChainError SettlementEvent)
  | 0, _, _, _ => none
  | fuel + 1, asked, start, chunk =>
    if start ≤ toBlock then
      let stop := min (saturatingAdd start (chunk - 1)) toBlock
      match ask asked.calls start stop with
      | .ok (some event) => some (asked.answer start stop, .ok event)
      | .ok none =>
        settlementSearch ask payment fromBlock toBlock fuel (asked.answer start stop)
          (saturatingAdd stop 1) chunk
      | .error (.logRangeTooLarge message) =>
        if 1 < chunk then
          settlementSearch ask payment fromBlock toBlock fuel asked.reject start (max (chunk / 2) 1)
        else some (asked.reject, .error (.logRangeTooLarge message))
      | .error e => some (asked.reject, .error e)
    else some (asked, .error (noSettlement payment fromBlock toBlock))

/-- The loop of `find_authorization_use`, from `upper` down to `fromBlock`. -/
def authorizationSearch (ask : ℕ → ℕ → ℕ → Except ChainError (Option (Hash × TransactionOutcome)))
    (fromBlock chunk : ℕ) (asked : Asked) (upper : ℕ) : Asked × Except ChainError (Option Hash) :=
  match ask asked.calls (max (upper - (chunk - 1)) fromBlock) upper with
  | .error e => (asked.reject, .error e)
  | .ok (some (txHash, receipt)) =>
    (asked.answer (max (upper - (chunk - 1)) fromBlock) upper,
      if receipt.succeeded then .ok (some txHash)
      else .error (.transient s!"AuthorizationUsed in {txHash} belongs to a reverted transaction"))
  | .ok none =>
    if max (upper - (chunk - 1)) fromBlock ≤ fromBlock then
      (asked.answer (max (upper - (chunk - 1)) fromBlock) upper, .ok none)
    else
      authorizationSearch ask fromBlock chunk
        (asked.answer (max (upper - (chunk - 1)) fromBlock) upper)
        (max (upper - (chunk - 1)) fromBlock - 1)
termination_by upper
decreasing_by omega

/-! ### Turns of the forward search -/

/-- The search returns, with all fuel from some amount on. -/
def SettlementReturns (ask : ℕ → ℕ → ℕ → Except ChainError (Option SettlementEvent))
    (payment : Address) (fromBlock toBlock : ℕ) (asked : Asked) (start chunk : ℕ)
    (r : Asked × Except ChainError SettlementEvent) : Prop :=
  ∃ n, ∀ fuel, n ≤ fuel →
    settlementSearch ask payment fromBlock toBlock fuel asked start chunk = some r

namespace SettlementReturns

variable {ask : ℕ → ℕ → ℕ → Except ChainError (Option SettlementEvent)} {payment : Address}
  {fromBlock toBlock start chunk : ℕ} {asked : Asked} {r : Asked × Except ChainError SettlementEvent}

/-- A turn costs one unit of fuel. -/
lemma of_turn (n : ℕ) (h : ∀ fuel, n ≤ fuel →
      settlementSearch ask payment fromBlock toBlock (fuel + 1) asked start chunk = some r) :
    SettlementReturns ask payment fromBlock toBlock asked start chunk r := by
  refine ⟨n + 1, fun fuel hfuel => ?_⟩
  obtain ⟨fuel, rfl⟩ : ∃ m, fuel = m + 1 := ⟨fuel - 1, by omega⟩
  exact h fuel (by omega)

/-- Behind the range. -/
lemma behind (hgt : ¬ start ≤ toBlock) : SettlementReturns ask payment fromBlock toBlock asked start
    chunk (asked, .error (noSettlement payment fromBlock toBlock)) := by
  refine of_turn 0 fun fuel _ => ?_
  rw [settlementSearch, if_neg hgt]

/-- Below the last block number the additions do not saturate. -/
lemma stop_eq (hto : toBlock < 2 ^ 64 - 1) :
    min (saturatingAdd start (chunk - 1)) toBlock = min (start + (chunk - 1)) toBlock := by
  unfold saturatingAdd
  omega

/-- The chunk holds a settlement. -/
lemma found (hto : toBlock < 2 ^ 64 - 1) (hle : start ≤ toBlock) {event : SettlementEvent}
    (h : ask asked.calls start (min (start + (chunk - 1)) toBlock) = .ok (some event)) :
    SettlementReturns ask payment fromBlock toBlock asked start chunk
      (asked.answer start (min (start + (chunk - 1)) toBlock), .ok event) := by
  refine of_turn 0 fun fuel _ => ?_
  rw [settlementSearch, if_pos hle]
  simp only [stop_eq hto, h]

/-- The chunk is empty: the search goes on right behind it. -/
lemma skip (hto : toBlock < 2 ^ 64 - 1) (hle : start ≤ toBlock)
    (h : ask asked.calls start (min (start + (chunk - 1)) toBlock) = .ok none)
    (hrest : SettlementReturns ask payment fromBlock toBlock
      (asked.answer start (min (start + (chunk - 1)) toBlock))
      (min (start + (chunk - 1)) toBlock + 1) chunk r) :
    SettlementReturns ask payment fromBlock toBlock asked start chunk r := by
  obtain ⟨n, hrest⟩ := hrest
  have hnext : saturatingAdd (min (start + (chunk - 1)) toBlock) 1 =
      min (start + (chunk - 1)) toBlock + 1 := by
    unfold saturatingAdd
    omega
  refine of_turn n fun fuel hfuel => ?_
  rw [settlementSearch, if_pos hle]
  simp only [stop_eq hto, h, hnext]
  exact hrest fuel hfuel

/-- The chunk is rejected: the search starts again at its first block, with half the chunk. -/
lemma halve (hto : toBlock < 2 ^ 64 - 1) (hle : start ≤ toBlock) {message : String}
    (h : ask asked.calls start (min (start + (chunk - 1)) toBlock) = .error (.logRangeTooLarge message))
    (hchunk : 1 < chunk) (hrest : SettlementReturns ask payment fromBlock toBlock asked.reject start
      (max (chunk / 2) 1) r) :
    SettlementReturns ask payment fromBlock toBlock asked start chunk r := by
  obtain ⟨n, hrest⟩ := hrest
  refine of_turn n fun fuel hfuel => ?_
  rw [settlementSearch, if_pos hle]
  simp only [stop_eq hto, h, if_pos hchunk]
  exact hrest fuel hfuel

/-- Every other error, and a single block that is rejected. -/
lemma fail (hto : toBlock < 2 ^ 64 - 1) (hle : start ≤ toBlock) {e : ChainError}
    (h : ask asked.calls start (min (start + (chunk - 1)) toBlock) = .error e)
    (he : ∀ message, e = .logRangeTooLarge message → ¬ 1 < chunk) :
    SettlementReturns ask payment fromBlock toBlock asked start chunk (asked.reject, .error e) := by
  refine of_turn 0 fun fuel _ => ?_
  rw [settlementSearch, if_pos hle]
  simp only [stop_eq hto, h]
  cases e with
  | logRangeTooLarge message => simp only [if_neg (he message rfl)]
  | _ => rfl

end SettlementReturns

/-! ### The searches of the executor -/

/-- Below the last block number the loop is `findSettlementLoop`. -/
lemma settlementSearch_eq_loop (chain : ChainReader) (payment token : Address)
    {fromBlock toBlock : ℕ} (hto : toBlock < 2 ^ 64 - 1) (start chunk : ℕ) (asked : Asked) :
    ∃ asked', SettlementReturns (fun _ => chain.paymentSettlementTx payment token) payment fromBlock
      toBlock asked start chunk
        (asked', findSettlementLoop chain payment token fromBlock toBlock start chunk) := by
  fun_induction findSettlementLoop chain payment token fromBlock toBlock start chunk
    generalizing asked with
  | case1 start chunk hle found hfound => exact ⟨_, .found hto hle hfound⟩
  | case2 start chunk hle hnone ih =>
    obtain ⟨asked', hrest⟩ := ih (asked.answer start (min (start + (chunk - 1)) toBlock))
    exact ⟨asked', .skip hto hle hnone hrest⟩
  | case3 start chunk hle message hrefused hchunk ih =>
    obtain ⟨asked', hrest⟩ := ih asked.reject
    exact ⟨asked', .halve hto hle hrefused hchunk hrest⟩
  | case4 start chunk hle message hrefused hchunk =>
    exact ⟨_, .fail hto hle hrefused fun _ _ => hchunk⟩
  | case5 start chunk hle e hno herror =>
    exact ⟨_, .fail hto hle herror fun message he => absurd he (hno message)⟩
  | case6 start chunk hgt => exact ⟨asked, .behind hgt⟩

lemma authorizationSearch_eq_find (chain : StepReader) (token authorizer : Address) (nonce : Hash)
    (fromBlock chunk upper : ℕ) (asked : Asked) :
    (authorizationSearch (fun _ => chain.authorizationUsedTx token authorizer nonce) fromBlock chunk
      asked upper).2 = findAuthorizationUse chain token authorizer nonce fromBlock chunk upper := by
  fun_induction findAuthorizationUse chain token authorizer nonce fromBlock chunk upper
    generalizing asked with
  | case1 upper e herror =>
    rw [authorizationSearch]
    simp [herror]
  | case2 upper txHash receipt hfound hsucceeded =>
    rw [authorizationSearch]
    simp [hfound, hsucceeded]
  | case3 upper txHash receipt hfound hreverted =>
    rw [authorizationSearch]
    simp [hfound, hreverted]
  | case4 upper hnone hle =>
    rw [authorizationSearch]
    simp [hnone, hle]
  | case5 upper hnone hgt ih =>
    rw [authorizationSearch]
    simp [hnone, hgt, ih]

/-! ### The forward search -/

/-- What `find_settlement` makes of the answer of one `payment_settlement_tx`. -/
def settlementOr (payment : Address) (fromBlock toBlock : ℕ) :
    Except ChainError (Option SettlementEvent) → Except ChainError SettlementEvent
  | .ok (some event) => .ok event
  | .ok none => .error (noSettlement payment fromBlock toBlock)
  | .error e => .error e

/-- The ranges a forward search needed: each starts where the one before ended, up to the one
that holds the settlement or to the end of the range. -/
def SearchedForward (start toBlock : ℕ) (ranges : List (ℕ × ℕ)) :
    Except ChainError (Option SettlementEvent) → Prop
  | .ok (some event) => Contiguous start ranges ∧ ∃ before a b, ranges = before ++ [(a, b)] ∧
      a ≤ event.blockNumber ∧ event.blockNumber ≤ b ∧ b ≤ toBlock
  | .ok none => Contiguous start ranges ∧ nextOf start ranges = max start (toBlock + 1)
  | .error _ => Contiguous start ranges

/-- One more chunk in front. -/
lemma SearchedForward.cons {start stop toBlock : ℕ} {ranges : List (ℕ × ℕ)}
    {r : Except ChainError (Option SettlementEvent)} (hle : start ≤ stop) (hto : stop ≤ toBlock)
    (h : SearchedForward (stop + 1) toBlock ranges r) :
    SearchedForward start toBlock ((start, stop) :: ranges) r := by
  rcases r with e | _ | event
  · exact ⟨rfl, hle, h⟩
  · obtain ⟨hcont, hnext⟩ := h
    refine ⟨⟨rfl, hle, hcont⟩, ?_⟩
    show nextOf (stop + 1) ranges = _
    omega
  · obtain ⟨hcont, before, a, b, rfl, ha, hb, hend⟩ := h
    exact ⟨⟨rfl, hle, hcont⟩, (start, stop) :: before, a, b, rfl, ha, hb, hend⟩

/-- A malformed settlement is a transient error. -/
lemma addAmounts_error {payment : Address} {transactionHash : Hash} {amounts : List SettlementAmount}
    {settled recovered : Option ℕ} {e : ChainError}
    (h : addAmounts payment transactionHash amounts settled recovered = .error e) :
    ∃ message, e = .transient message := by
  fun_induction addAmounts payment transactionHash amounts settled recovered with
  | case1 settled recovered => cases h
  | case2 rest recovered amount settled htwice =>
    obtain rfl := Except.error.inj h
    exact ⟨_, rfl⟩
  | case3 rest recovered amount settled honce ih => exact ih h
  | case4 rest settled amount recovered hlarge =>
    obtain rfl := Except.error.inj h
    exact ⟨_, rfl⟩
  | case5 rest settled amount recovered hsmall ih => exact ih h

lemma firstSettlement_error {payment : Address} {events : List SettlementLog} {e : ChainError}
    (h : firstSettlement payment events = .error e) : ∃ message, e = .transient message := by
  unfold firstSettlement at h
  split at h
  · cases h
  · split at h
    · rename_i first rest e' hamounts
      obtain rfl := Except.error.inj h
      exact addAmounts_error hamounts
    · cases h

section Forward

variable {E : EventSet} {payment : Address} (P : LogProvider (E.logs payment)) (token : Address)

/-- `payment_settlement_tx` of the provider. -/
def LogProvider.settlementTx (n a b : ℕ) : Except ChainError (Option SettlementEvent) :=
  paymentSettlementTx (fun _ => P.getLogs n) payment token a b

/-- An answered range gives the first settlement of its events. -/
lemma LogProvider.settlementTx_cases (n a b : ℕ) :
    P.settlementTx token n a b = firstSettlement payment (E.settlements payment token a (b + 1)) ∨
      a < b ∧ ∃ message, P.settlementTx token n a b = .error (.logRangeTooLarge message) := by
  rcases P.answers n a b with ⟨found, hfound, hperm⟩ | ⟨hlt, message, hrejected⟩
  · refine Or.inl ?_
    rw [← EventSet.paymentSettlementTx_eq token hperm]
    simp only [settlementTx, paymentSettlementTx, hfound]
  · refine Or.inr ⟨hlt, message, ?_⟩
    simp only [settlementTx, paymentSettlementTx, hrejected]

/-- A search from a block on returns what the rest of the range holds. -/
theorem settlementSearch_run (fromBlock : ℕ) {toBlock : ℕ} (hto : toBlock < 2 ^ 64 - 1)
    (start chunk : ℕ) (hchunk : 0 < chunk) (asked : Asked) :
    ∃ asked' ranges, SettlementReturns (P.settlementTx token) payment fromBlock toBlock asked start chunk
        (asked', settlementOr payment fromBlock toBlock
          (firstSettlement payment (E.settlements payment token start (toBlock + 1)))) ∧
      asked'.answered = asked.answered ++ ranges ∧
      SearchedForward start toBlock ranges
        (firstSettlement payment (E.settlements payment token start (toBlock + 1))) := by
  by_cases hle : start ≤ toBlock
  · have hstop : start ≤ min (start + (chunk - 1)) toBlock := by omega
    rcases P.settlementTx_cases token asked.calls start (min (start + (chunk - 1)) toBlock) with
      hanswer | ⟨hlt, message, hrejected⟩
    · rcases hfirst : firstSettlement payment (E.settlements payment token start
          (min (start + (chunk - 1)) toBlock + 1)) with e | event
      · -- the chunk holds a malformed settlement, and so does the range
        obtain ⟨message, rfl⟩ := firstSettlement_error hfirst
        have hne : E.settlements payment token start (min (start + (chunk - 1)) toBlock + 1) ≠ [] := by
          intro hnil
          rw [hnil] at hfirst
          cases hfirst
        rw [EventSet.firstSettlement_part (by omega) (by omega) hne, hfirst]
        refine ⟨asked.reject, [], .fail hto hle (hanswer.trans hfirst) ?_, ?_, trivial⟩
        · intro message' he
          cases he
        · exact (List.append_nil _).symm
      · rcases event with _ | event
        · -- the chunk is empty, and the rest of the range follows it
          have hempty := firstSettlement_none hfirst
          have hrest : E.settlements payment token start (toBlock + 1) =
              E.settlements payment token (min (start + (chunk - 1)) toBlock + 1) (toBlock + 1) := by
            rw [EventSet.settlements_split payment token
              (show start ≤ min (start + (chunk - 1)) toBlock + 1 by omega) (by omega), hempty,
              List.nil_append]
          obtain ⟨asked', ranges, hreturns, hranges, hsearched⟩ :=
            settlementSearch_run fromBlock hto (min (start + (chunk - 1)) toBlock + 1) chunk hchunk
              (asked.answer start (min (start + (chunk - 1)) toBlock))
          rw [hrest]
          refine ⟨asked', (start, min (start + (chunk - 1)) toBlock) :: ranges,
            .skip hto hle (hanswer.trans hfirst) hreturns, ?_, hsearched.cons hstop (by omega)⟩
          rw [hranges, Asked.answer, List.append_assoc, List.singleton_append]
        · -- the chunk holds the settlement of the range
          have hne : E.settlements payment token start (min (start + (chunk - 1)) toBlock + 1) ≠ [] := by
            intro hnil
            rw [hnil] at hfirst
            cases hfirst
          obtain ⟨first, rest, hlogs, -, hblock, -⟩ := firstSettlement_ok hfirst
          obtain ⟨hlo, hhi, -⟩ := EventSet.mem_settlements
            (show first ∈ E.settlements payment token start
              (min (start + (chunk - 1)) toBlock + 1) by simp [hlogs])
          rw [EventSet.firstSettlement_part (by omega) (by omega) hne, hfirst]
          refine ⟨_, [(start, min (start + (chunk - 1)) toBlock)],
            .found hto hle (hanswer.trans hfirst), rfl, ⟨rfl, hstop, trivial⟩, [], _, _, rfl, ?_⟩
          omega
    · obtain ⟨asked', ranges, hreturns, hranges, hsearched⟩ :=
        settlementSearch_run fromBlock hto start (max (chunk / 2) 1) (by omega) asked.reject
      exact ⟨asked', ranges, .halve hto hle hrejected (by omega) hreturns, hranges, hsearched⟩
  · -- nothing is left of the range
    have hnil : E.settlements payment token start (toBlock + 1) = [] := by
      refine List.eq_nil_iff_forall_not_mem.2 fun l hl => ?_
      obtain ⟨hlo, hhi, -⟩ := EventSet.mem_settlements hl
      omega
    rw [hnil]
    refine ⟨asked, [], .behind hle, (List.append_nil _).symm, trivial, ?_⟩
    show start = _
    omega
termination_by (toBlock + 1 - start, chunk)
decreasing_by
  · exact Prod.Lex.left _ _ (by omega)
  · exact Prod.Lex.right _ (by omega)

end Forward

/-! ### The backward search -/

/-- The ranges a backward search needed: read from the oldest, each starts where the one before
ended, down from the end of the range to `lo`. -/
def SearchedBackward (lo upper : ℕ) (ranges : List (ℕ × ℕ)) : Prop :=
  Contiguous lo ranges.reverse ∧ nextOf lo ranges.reverse = upper + 1

lemma SearchedBackward.single {lower upper : ℕ} (hle : lower ≤ upper) :
    SearchedBackward lower upper [(lower, upper)] :=
  ⟨⟨rfl, hle, trivial⟩, rfl⟩

/-- One more chunk in front, the newest. -/
lemma SearchedBackward.cons {lo lower upper : ℕ} {ranges : List (ℕ × ℕ)} (hpos : 0 < lower)
    (hle : lower ≤ upper) (h : SearchedBackward lo (lower - 1) ranges) :
    SearchedBackward lo upper ((lower, upper) :: ranges) := by
  obtain ⟨hcont, hnext⟩ := h
  refine ⟨?_, ?_⟩
  · rw [List.reverse_cons, contiguous_concat]
    refine ⟨hcont, ?_, hle⟩
    show lower = _
    omega
  · rw [List.reverse_cons, nextOf_concat]

section Backward

variable {uses : List AuthorizationUse} {token authorizer : Address} {nonce : Hash}
  (Q : LogProvider fun a b => (usesIn uses token authorizer nonce a b).map AuthorizationUse.log)
  (transactionReceipt : Hash → Except ChainError (Option TransactionOutcome))

/-- `authorization_used_tx` of the provider. -/
def LogProvider.usedTx (n a b : ℕ) : Except ChainError (Option (Hash × TransactionOutcome)) :=
  authorizationUsedTx (fun _ _ _ => Q.getLogs n) transactionReceipt token authorizer nonce a b

/-- The provider rejects no chunk of a backward search from its `n`-th call on: the chunks are
counted from the newest block, down to the newest chunk that holds a use. -/
def LogProvider.Accepts (fromBlock chunk n upper : ℕ) : Prop :=
  ∀ k, fromBlock + k * chunk ≤ upper →
    usesIn uses token authorizer nonce (upper - k * chunk + 1) upper = [] →
    ∃ found, Q.getLogs (n + k) (max (upper - k * chunk - (chunk - 1)) fromBlock)
      (upper - k * chunk) = .ok found

/-- What a backward search finds: a use in the range, unless there is none. -/
def FindsUse (uses : List AuthorizationUse) (token authorizer : Address) (nonce : Hash)
    (fromBlock lo upper : ℕ) (result : Except ChainError (Option Hash)) : Prop :=
  (result = .ok none ∧ lo = fromBlock ∧ usesIn uses token authorizer nonce fromBlock upper = []) ∨
    ∃ x ∈ usesIn uses token authorizer nonce lo upper, result = .ok (some x.transactionHash)

/-- The first chunk is accepted, and if it holds no use, so are the chunks below it. -/
lemma LogProvider.accepts_iff {fromBlock chunk n upper : ℕ} (hchunk : 0 < chunk)
    (hle : fromBlock ≤ upper) :
    Q.Accepts fromBlock chunk n upper ↔
      (∃ found, Q.getLogs n (max (upper - (chunk - 1)) fromBlock) upper = .ok found) ∧
        (fromBlock < max (upper - (chunk - 1)) fromBlock →
          usesIn uses token authorizer nonce (max (upper - (chunk - 1)) fromBlock) upper = [] →
          Q.Accepts fromBlock chunk (n + 1) (max (upper - (chunk - 1)) fromBlock - 1)) := by
  constructor
  · intro h
    refine ⟨?_, fun hlt hnone k hk hbelow => ?_⟩
    · have hfirst := h 0 (by omega) (by
        rw [usesIn_eq_nil]
        intro x _ _ _ _ hlo
        omega)
      simpa using hfirst
    · -- the `k`-th chunk below the first is the `k + 1`-st
      have hsucc : (k + 1) * chunk = k * chunk + chunk := Nat.succ_mul k chunk
      have hupper : max (upper - (chunk - 1)) fromBlock - 1 - k * chunk =
          upper - (k + 1) * chunk := by omega
      rw [hupper] at hbelow ⊢
      have hchunks := h (k + 1) (by omega) (usesIn_eq_nil_join (by omega) hbelow hnone)
      rw [show n + 1 + k = n + (k + 1) by omega]
      exact hchunks
  · rintro ⟨hfirst, hrest⟩ k hk hnone
    rcases k with _ | k
    · simpa using hfirst
    · have hsucc : (k + 1) * chunk = k * chunk + chunk := Nat.succ_mul k chunk
      have hupper : max (upper - (chunk - 1)) fromBlock - 1 - k * chunk =
          upper - (k + 1) * chunk := by omega
      have hchunks := hrest (by omega) (usesIn_eq_nil_mono (by omega) le_rfl hnone) k (by omega)
        (usesIn_eq_nil_mono (by omega) (by omega) hnone)
      rw [hupper, show n + 1 + k = n + (k + 1) by omega] at hchunks
      exact hchunks

/-- A backward search finds a use of its range if no chunk is rejected, and returns the
rejection otherwise. -/
theorem authorizationSearch_run (hr : Receipts transactionReceipt uses) {fromBlock chunk : ℕ}
    (hchunk : 0 < chunk) (upper : ℕ) (hle : fromBlock ≤ upper) (asked : Asked) :
    (Q.Accepts fromBlock chunk asked.calls upper ∧ ∃ ranges lo, fromBlock ≤ lo ∧
        (authorizationSearch (Q.usedTx transactionReceipt) fromBlock chunk asked upper).1.answered =
          asked.answered ++ ranges ∧
        SearchedBackward lo upper ranges ∧
        FindsUse uses token authorizer nonce fromBlock lo upper
          (authorizationSearch (Q.usedTx transactionReceipt) fromBlock chunk asked upper).2) ∨
      (¬ Q.Accepts fromBlock chunk asked.calls upper ∧ ∃ message,
        (authorizationSearch (Q.usedTx transactionReceipt) fromBlock chunk asked upper).2 =
          .error (.logRangeTooLarge message)) := by
  rw [Q.accepts_iff hchunk hle]
  rw [authorizationSearch]
  rcases Q.answers asked.calls (max (upper - (chunk - 1)) fromBlock) upper with
    ⟨found, hfound, hperm⟩ | ⟨hlt, message, hrejected⟩
  · have huses : Receipts transactionReceipt (usesIn uses token authorizer nonce
        (max (upper - (chunk - 1)) fromBlock) upper) :=
      fun x hx => hr x (List.mem_filter.1 hx).1
    rcases firstUse_eq huses hperm with ⟨hnil, hnone⟩ | ⟨x, hx, outcome, hsucceeded, hsome⟩
    · have hask : Q.usedTx transactionReceipt asked.calls (max (upper - (chunk - 1)) fromBlock) upper =
          .ok none := by
        simp only [LogProvider.usedTx, authorizationUsedTx, hfound, hnone]
      simp only [hask]
      by_cases hend : max (upper - (chunk - 1)) fromBlock ≤ fromBlock
      · -- the oldest chunk
        have hlower : max (upper - (chunk - 1)) fromBlock = fromBlock := by omega
        rw [if_pos hend]
        rw [hlower] at hfound hnil ⊢
        refine Or.inl ⟨⟨⟨found, hfound⟩, fun hlt => absurd hlt (lt_irrefl _)⟩,
          [(fromBlock, upper)], fromBlock, le_rfl, rfl, .single hle, Or.inl ⟨rfl, rfl, hnil⟩⟩
      · rw [if_neg hend]
        rcases authorizationSearch_run hr hchunk (max (upper - (chunk - 1)) fromBlock - 1)
          (show fromBlock ≤ max (upper - (chunk - 1)) fromBlock - 1 by omega) (asked.answer (max (upper - (chunk - 1)) fromBlock) upper) with
          ⟨haccepts, ranges, lo, hlo, hranges, hsearched, hfinds⟩ | ⟨hrefused, hmessage⟩
        · refine Or.inl ⟨⟨⟨found, hfound⟩, fun _ _ => haccepts⟩,
            (max (upper - (chunk - 1)) fromBlock, upper) :: ranges, lo, hlo, ?_,
            hsearched.cons (by omega) (by omega), ?_⟩
          · rw [hranges, Asked.answer, List.append_assoc, List.singleton_append]
          · rcases hfinds with ⟨hresult, hloEq, hno⟩ | ⟨x, hx, hresult⟩
            · exact Or.inl ⟨hresult, hloEq, usesIn_eq_nil_join (by omega) hno hnil⟩
            · exact Or.inr ⟨x, mem_usesIn_mono le_rfl (by omega) hx, hresult⟩
        · refine Or.inr ⟨?_, hmessage⟩
          rintro ⟨-, hrest⟩
          exact hrefused (hrest (by omega) hnil)
    · -- the newest chunk that holds a use
      have hask : Q.usedTx transactionReceipt asked.calls (max (upper - (chunk - 1)) fromBlock) upper =
          .ok (some (x.transactionHash, outcome)) := by
        simp only [LogProvider.usedTx, authorizationUsedTx, hfound, hsome]
      simp only [hask, hsucceeded, if_true]
      refine Or.inl ⟨⟨⟨found, hfound⟩, fun _ hnone => ?_⟩, [(_, upper)], _, by omega, rfl,
        .single (by omega), Or.inr ⟨x, hx, rfl⟩⟩
      rw [hnone] at hx
      cases hx
  · -- the rejection is returned
    have hask : Q.usedTx transactionReceipt asked.calls (max (upper - (chunk - 1)) fromBlock) upper =
        .error (.logRangeTooLarge message) := by
      simp only [LogProvider.usedTx, authorizationUsedTx, hrejected]
    simp only [hask]
    refine Or.inr ⟨?_, message, rfl⟩
    rintro ⟨⟨found, hfound⟩, -⟩
    rw [hrejected] at hfound
    cases hfound
termination_by upper
decreasing_by omega

end Backward

/-! ### Both searches -/

/-- `find_settlement` over a range returns what one `payment_settlement_tx` over all of it would,
and needed the answer for each block once, up to the settlement. -/
def SettlementSearched {E : EventSet} {payment : Address} (P : LogProvider (E.logs payment))
    (token : Address) (fromBlock toBlock logRangeSize : ℕ) : Prop :=
  ∃ asked, SettlementReturns (P.settlementTx token) payment fromBlock toBlock {} fromBlock
      (max logRangeSize 1) (asked, settlementOr payment fromBlock toBlock
        (paymentSettlementTx (fun address a b => .ok (E.logs address a b)) payment token
          fromBlock toBlock)) ∧
    SearchedForward fromBlock toBlock asked.answered
      (paymentSettlementTx (fun address a b => .ok (E.logs address a b)) payment token
        fromBlock toBlock)

/-- `find_authorization_use` over a range finds a use exactly if the range holds one, and needed
the answer for each block once, from the newest down to the use. -/
structure UseSearched (uses : List AuthorizationUse) (token authorizer : Address) (nonce : Hash)
    (fromBlock toBlock : ℕ) (search : Asked × Except ChainError (Option Hash)) : Prop where
  finds : (usesIn uses token authorizer nonce fromBlock toBlock = [] ∧ search.2 = .ok none) ∨
    ∃ x ∈ usesIn uses token authorizer nonce fromBlock toBlock,
      search.2 = .ok (some x.transactionHash)
  searched : fromBlock ≤ toBlock → ∃ lo, fromBlock ≤ lo ∧
    SearchedBackward lo toBlock search.1.answered ∧
    FindsUse uses token authorizer nonce fromBlock lo toBlock search.2

lemma settlementSearched {E : EventSet} {payment : Address} (P : LogProvider (E.logs payment))
    (token : Address) (fromBlock : ℕ) {toBlock : ℕ} (logRangeSize : ℕ)
    (hto : toBlock < 2 ^ 64 - 1) : SettlementSearched P token fromBlock toBlock logRangeSize := by
  obtain ⟨asked, ranges, hreturns, hranges, hsearched⟩ := settlementSearch_run P token fromBlock hto
    fromBlock (max logRangeSize 1) (by omega) {}
  have hwhole : paymentSettlementTx (fun address a b => .ok (E.logs address a b)) payment token
      fromBlock toBlock =
        firstSettlement payment (E.settlements payment token fromBlock (toBlock + 1)) :=
    EventSet.paymentSettlementTx_eq token (List.Perm.refl _)
  rw [List.nil_append] at hranges
  refine ⟨asked, ?_, ?_⟩
  · rw [hwhole]
    exact hreturns
  · rw [hwhole, hranges]
    exact hsearched

/-- An empty range is one call, which nobody rejects. -/
lemma useSearched_of_lt {uses : List AuthorizationUse} {token authorizer : Address} {nonce : Hash}
    (Q : LogProvider fun a b => (usesIn uses token authorizer nonce a b).map AuthorizationUse.log)
    {transactionReceipt : Hash → Except ChainError (Option TransactionOutcome)}
    (hr : Receipts transactionReceipt uses) {fromBlock toBlock : ℕ} (chunk : ℕ)
    (hlt : toBlock < fromBlock) :
    UseSearched uses token authorizer nonce fromBlock toBlock
      (authorizationSearch (Q.usedTx transactionReceipt) fromBlock chunk {} toBlock) := by
  have hlower : max (toBlock - (chunk - 1)) fromBlock = fromBlock := by omega
  have hnil : usesIn uses token authorizer nonce fromBlock toBlock = [] := by
    rw [usesIn_eq_nil]
    intro x _ _ _ _ hlo
    omega
  have hask : Q.usedTx transactionReceipt 0 fromBlock toBlock = .ok none := by
    rcases Q.answers 0 fromBlock toBlock with ⟨found, hfound, hperm⟩ | ⟨hrange, -⟩
    · have huses : Receipts transactionReceipt
          (usesIn uses token authorizer nonce fromBlock toBlock) :=
        fun x hx => hr x (List.mem_filter.1 hx).1
      rcases firstUse_eq huses hperm with ⟨-, hnone⟩ | ⟨x, hx, -⟩
      · simp only [LogProvider.usedTx, authorizationUsedTx, hfound, hnone]
      · rw [hnil] at hx
        cases hx
    · omega
  refine ⟨Or.inl ⟨hnil, ?_⟩, fun hle => by omega⟩
  rw [authorizationSearch, hlower]
  simp only [hask, le_refl, if_true]

/-- For every set of events and of uses, every provider that rejects what ranges of more than one
block it likes, and every range and chunk size: `find_settlement` returns what one
`payment_settlement_tx` would return.  `find_authorization_use` does not halve a range that is
rejected, so it finds the use of the range exactly if no chunk down to the use is rejected. -/
theorem chunked_searches_are_whole_iff {E : EventSet} {payment : Address}
    (P : LogProvider (E.logs payment)) (paymentToken : Address) {uses : List AuthorizationUse}
    {token authorizer : Address} {nonce : Hash}
    (Q : LogProvider fun a b => (usesIn uses token authorizer nonce a b).map AuthorizationUse.log)
    {transactionReceipt : Hash → Except ChainError (Option TransactionOutcome)}
    (hr : Receipts transactionReceipt uses) (fromBlock toBlock logRangeSize : ℕ)
    (hto : toBlock < 2 ^ 64 - 1) :
    (SettlementSearched P paymentToken fromBlock toBlock logRangeSize ∧
      UseSearched uses token authorizer nonce fromBlock toBlock
        (authorizationSearch (Q.usedTx transactionReceipt) fromBlock (max logRangeSize 1) {}
          toBlock)) ↔
    Q.Accepts fromBlock (max logRangeSize 1) 0 toBlock := by
  by_cases hle : fromBlock ≤ toBlock
  · rcases authorizationSearch_run Q transactionReceipt hr (show 0 < max logRangeSize 1 by omega)
      toBlock hle {} with ⟨haccepts, ranges, lo, hlo, hranges, hsearched, hfinds⟩ |
        ⟨hrefused, message, hmessage⟩
    · refine ⟨fun _ => haccepts, fun _ => ⟨settlementSearched P paymentToken fromBlock logRangeSize hto, ?_, ?_⟩⟩
      · rcases hfinds with ⟨hresult, -, hnil⟩ | ⟨x, hx, hresult⟩
        · exact Or.inl ⟨hnil, hresult⟩
        · exact Or.inr ⟨x, mem_usesIn_mono hlo le_rfl hx, hresult⟩
      · intro _
        rw [List.nil_append] at hranges
        exact ⟨lo, hlo, hranges ▸ hsearched, hfinds⟩
    · -- the rejection is neither a use nor the absence of one
      refine ⟨fun h => ?_, fun haccepts => absurd haccepts hrefused⟩
      rcases h.2.finds with ⟨-, hresult⟩ | ⟨x, -, hresult⟩
      · rw [hmessage] at hresult
        cases hresult
      · rw [hmessage] at hresult
        cases hresult
  · refine ⟨fun _ k hk => by omega, fun _ => ⟨settlementSearched P paymentToken fromBlock logRangeSize hto, ?_⟩⟩
    exact useSearched_of_lt Q hr _ (by omega)

/-- One deployment at block 15, overpaid: two events of one transaction. -/
def sampleEvents : EventSet where
  events := [⟨7, .settled 100, 41, 15, 150, 2, 6⟩, ⟨7, .recovered 5 1, 41, 15, 150, 2, 7⟩]
  placed := by decide
  oneBlock := by decide

/-- One use, at block 15. -/
def sampleUse : AuthorizationUse := ⟨5, 9, 77, 43, 15, 150, 3, 8⟩

def useReceipt (_ : Hash) : Except ChainError (Option TransactionOutcome) := .ok (some ⟨true, 15, 150⟩)

/-- Chunks of four blocks are accepted where the provider's limit is four blocks. -/
theorem chunked_searches_are_whole_within_limit :
    SettlementSearched (LogProvider.limited (sampleEvents.logs 7) 1) 5 10 20 4 ∧
      UseSearched [sampleUse] 5 9 77 10 20 (authorizationSearch ((LogProvider.limited (fun a b =>
        (usesIn [sampleUse] 5 9 77 a b).map AuthorizationUse.log) 4).usedTx useReceipt) 10
          (max 4 1) {} 20) := by
  refine (chunked_searches_are_whole_iff (LogProvider.limited (sampleEvents.logs 7) 1) 5
    (LogProvider.limited (fun a b => (usesIn [sampleUse] 5 9 77 a b).map AuthorizationUse.log) 4)
    (fun x _ => ⟨_, rfl, rfl⟩) 10 20 4 (by decide)).2 ?_
  intro k hk _
  refine ⟨_, if_neg ?_⟩
  omega

/-- A provider that answers for single blocks only: with chunks of 100 blocks the settlement of
block 15 is found, and the use in block 15 is not. -/
theorem rejected_chunk_hides_the_use :
    (usesIn [sampleUse] 5 9 77 10 20 = [sampleUse] ∧
      (authorizationSearch ((LogProvider.limited (fun a b =>
        (usesIn [sampleUse] 5 9 77 a b).map AuthorizationUse.log) 1).usedTx useReceipt) 10
          (max 100 1) {} 20).2 = .error (.logRangeTooLarge "block range is too large")) ∧
    ¬ (SettlementSearched (LogProvider.limited (sampleEvents.logs 7) 1) 5 10 20 100 ∧
      UseSearched [sampleUse] 5 9 77 10 20 (authorizationSearch ((LogProvider.limited (fun a b =>
        (usesIn [sampleUse] 5 9 77 a b).map AuthorizationUse.log) 1).usedTx useReceipt) 10
          (max 100 1) {} 20)) := by
  have hrejected : (authorizationSearch ((LogProvider.limited (fun a b =>
      (usesIn [sampleUse] 5 9 77 a b).map AuthorizationUse.log) 1).usedTx useReceipt) 10
        (max 100 1) {} 20).2 = .error (.logRangeTooLarge "block range is too large") := by
    rw [authorizationSearch]
    rfl
  refine ⟨⟨by decide, hrejected⟩, ?_⟩
  rintro ⟨-, hsearched⟩
  rcases hsearched.finds with ⟨-, hresult⟩ | ⟨x, -, hresult⟩
  · rw [hrejected] at hresult
    cases hresult
  · rw [hrejected] at hresult
    cases hresult

end Payday
