/-
# The contracts, seen from one payment address

`Payment.sol`, `PaymentFactory.sol` and the iteration of `BatchSweeper.executeBatch` for one
item.  The state of a payment address is its token balances and the `settled` flag of the
contract deployed there.  A token may refuse a transfer (a pause, a blacklist), which reverts
the call; `refused` is that choice of the environment.

A transaction is a list of calls of anybody, or the sweep of a job.  In the sweep's transaction
nothing moves into the address: an item of the same batch that pays or recovers to this payment
address is not modelled.
-/
import Payday.Ledger.Schema
import Mathlib.Logic.Function.Basic
import Mathlib.Algebra.BigOperators.Group.List.Basic

namespace Payday

/-- What a payment address commits to. -/
structure PaymentTerms where
  token : Address
  amount : ℕ
  receiver : Address
  expirationTimestamp : ℕ
  recovery : Address
  chainId : ChainId
deriving DecidableEq, Repr

/-- A payment address. -/
structure PaymentState where
  balance : Address → ℕ
  /-- `settled` of the contract, once it is deployed. -/
  settled : Option Bool

/-- Nothing has arrived at the address. -/
def PaymentState.fresh : PaymentState := ⟨fun _ => 0, none⟩

inductive PaymentEvent
  | settled (amount : ℕ)
  | recovered (token : Address) (amount : ℕ)
  | wrongChain (expectedChainId actualChainId : ChainId)
deriving DecidableEq, Repr

/-- What a call leaves behind, unless it reverts. -/
structure CallResult where
  state : PaymentState
  events : List PaymentEvent
  /-- Token amounts sent to the recovery wallet. -/
  forwarded : List (Address × ℕ)

/-- The constructor of `Payment`. -/
def Payment.construct (terms : PaymentTerms) (chainId : ChainId) (timestamp : ℕ) (refused : Bool)
    (s : PaymentState) : Option CallResult :=
  if chainId ≠ terms.chainId then
    some ⟨{ s with settled := some false }, [.wrongChain terms.chainId chainId], []⟩
  else
    let balance := s.balance terms.token
    let emptied := Function.update s.balance terms.token 0
    if terms.expirationTimestamp < timestamp then
      if refused then none
      else some ⟨⟨emptied, some false⟩, [.recovered terms.token balance], [(terms.token, balance)]⟩
    else if balance < terms.amount then none
    else if refused then none
    else
      let remainder := balance - terms.amount
      if remainder ≠ 0 then
        some ⟨⟨emptied, some true⟩, [.settled terms.amount, .recovered terms.token remainder],
          [(terms.token, remainder)]⟩
      else some ⟨⟨emptied, some true⟩, [.settled terms.amount], []⟩

/-- `Payment.recover`. -/
def Payment.recover (token : Address) (refused : Bool) (s : PaymentState) : Option CallResult :=
  let amount := s.balance token
  if amount = 0 then some ⟨s, [], []⟩
  else if refused then none
  else some ⟨{ s with balance := Function.update s.balance token 0 }, [.recovered token amount],
    [(token, amount)]⟩

/-- `PaymentFactory.execute`; a second deployment collides. -/
def PaymentFactory.execute (terms : PaymentTerms) (chainId : ChainId) (timestamp : ℕ)
    (refused : Bool) (s : PaymentState) : Option CallResult :=
  if s.settled.isSome then none else Payment.construct terms chainId timestamp refused s

/-- What `BatchSweeper` reports about an item. -/
inductive SweepEvent
  | sweepFailed
  | sweepRecovered (amount : ℕ)
deriving DecidableEq, Repr

/-- A call of anybody that concerns the payment address. -/
inductive Call
  | transfer (token sender : Address) (amount logIndex : ℕ)
  | execute (refused : Bool)
  | recover (token : Address) (refused : Bool)
deriving DecidableEq, Repr

inductive TxBody
  | calls (calls : List Call)
  /-- The helper transaction of a job, which transfers nothing into the address. -/
  | sweep (jobId : JobId) (refused : Bool)
deriving DecidableEq, Repr

/-- A mined transaction. -/
structure Tx where
  block : ℕ
  index : ℕ
  hash : Hash
  body : TxBody
deriving DecidableEq, Repr

def Tx.position (tx : Tx) : Position := Payday.position tx.block tx.index

/-- A payment address on its chain. -/
structure Site where
  payment : Address
  terms : PaymentTerms
  amount_pos : 0 < terms.amount
  /-- The timestamp of a block. -/
  timestamp : ℕ → ℕ
  timestamp_mono : Monotone timestamp
  blockHash : ℕ → Hash

namespace Site

variable (S : Site)

/-- One call in a block of time `t`. -/
def call (t : ℕ) (s : PaymentState) : Call → Option CallResult
  | .transfer token _ amount _ =>
    some ⟨{ s with balance := Function.update s.balance token (s.balance token + amount) }, [], []⟩
  | .execute refused => PaymentFactory.execute S.terms S.terms.chainId t refused s
  | .recover token refused => if s.settled.isSome then Payment.recover token refused s else none

/-- Calls one after another; a call that reverts leaves nothing behind. -/
def calls (t : ℕ) : List Call → PaymentState → CallResult
  | [], s => ⟨s, [], []⟩
  | c :: rest, s =>
    match S.call t s c with
    | none => calls t rest s
    | some r =>
      let r' := calls t rest r.state
      ⟨r'.state, r.events ++ r'.events, r.forwarded ++ r'.forwarded⟩

/-- The iteration of `executeBatch` for the address, and what the sweeper reports. -/
def sweep (t : ℕ) (refused : Bool) (s : PaymentState) : CallResult × Option SweepEvent :=
  if s.settled.isSome then
    match Payment.recover S.terms.token refused s with
    | some r => (r, some (.sweepRecovered (s.balance S.terms.token)))
    | none => (⟨s, [], []⟩, some .sweepFailed)
  else
    match PaymentFactory.execute S.terms S.terms.chainId t refused s with
    | some r => (r, none)
    | none => (⟨s, [], []⟩, some .sweepFailed)

/-- A transaction. -/
def exec (tx : Tx) (s : PaymentState) : CallResult :=
  match tx.body with
  | .calls cs => S.calls (S.timestamp tx.block) cs s
  | .sweep _ refused => (S.sweep (S.timestamp tx.block) refused s).1

/-- The address after a history. -/
def after (txs : List Tx) : PaymentState := txs.foldl (fun s tx => (S.exec tx s).state) .fresh

@[simp] lemma after_nil : S.after [] = .fresh := rfl

lemma after_append (txs : List Tx) (tx : Tx) :
    S.after (txs ++ [tx]) = (S.exec tx (S.after txs)).state := by
  simp [after]

/-- The observation of a transfer to the address. -/
def observe (tx : Tx) : Call → Option PaymentObservation
  | .transfer token sender amount logIndex => some {
      token := token
      blockNumber := tx.block
      blockHash := S.blockHash tx.block
      blockTimestamp := S.timestamp tx.block
      transactionHash := tx.hash
      transactionIndex := tx.index
      logIndex := logIndex
      sender := sender
      recipient := S.payment
      amount := amount }
  | _ => none

/-- The transfers a transaction makes to the address. -/
def transfersOf (tx : Tx) : List PaymentObservation :=
  match tx.body with
  | .calls cs => cs.filterMap (S.observe tx)
  | .sweep _ _ => []

/-- The transfers of the request's token in a history. -/
def ownTransfers (txs : List Tx) : List PaymentObservation :=
  (txs.flatMap S.transfersOf).filter (fun o => decide (o.token = S.terms.token))

/-- What a call's result sent of the request's token to the recovery wallet. -/
def forwardedOf (forwarded : List (Address × ℕ)) : ℕ :=
  ((forwarded.filter (fun f => decide (f.1 = S.terms.token))).map Prod.snd).sum

/-- The amount an event reports as recovered of the request's token. -/
def recoveredIn (events : List PaymentEvent) : ℕ :=
  (events.map (fun e => match e with
    | .recovered token amount => if token = S.terms.token then amount else 0
    | _ => 0)).sum

/-- The sum of some transfers of the request's token. -/
def arrived (transfers : List PaymentObservation) : ℕ :=
  ((transfers.filter (fun o => decide (o.token = S.terms.token))).map (·.amount)).sum

lemma arrived_append (os os' : List PaymentObservation) :
    S.arrived (os ++ os') = S.arrived os + S.arrived os' := by
  simp [arrived]

lemma arrived_eq (txs : List Tx) :
    S.arrived (txs.flatMap S.transfersOf) = ((S.ownTransfers txs).map (·.amount)).sum := rfl

lemma forwardedOf_append (fs fs' : List (Address × ℕ)) :
    S.forwardedOf (fs ++ fs') = S.forwardedOf fs + S.forwardedOf fs' := by
  simp [forwardedOf]

lemma recoveredIn_append (es es' : List PaymentEvent) :
    S.recoveredIn (es ++ es') = S.recoveredIn es + S.recoveredIn es' := by
  simp [recoveredIn]

/-! ### What a deployed contract does -/

/-- Only `Recovered` events. -/
def OnlyRecovered (events : List PaymentEvent) : Prop :=
  ∀ e ∈ events, ∃ token amount, e = .recovered token amount

lemma onlyRecovered_append {es es' : List PaymentEvent} (h : OnlyRecovered es)
    (h' : OnlyRecovered es') : OnlyRecovered (es ++ es') := by
  intro e he
  rcases List.mem_append.1 he with he | he
  · exact h e he
  · exact h' e he

/-- What leaves a contract for the recovery wallet is what its events report. -/
def Accounted (r : CallResult) : Prop := S.recoveredIn r.events = S.forwardedOf r.forwarded

lemma recover_cases {token : Address} {refused : Bool} {s : PaymentState} {r : CallResult}
    (h : Payment.recover token refused s = some r) :
    r.state.settled = s.settled ∧ OnlyRecovered r.events ∧ S.Accounted r := by
  unfold Payment.recover at h
  simp only at h
  split_ifs at h with hzero href
  · obtain rfl := Option.some.inj h
    exact ⟨rfl, by simp [OnlyRecovered], rfl⟩
  · obtain rfl := Option.some.inj h
    refine ⟨rfl, by simp [OnlyRecovered], ?_⟩
    by_cases ht : token = S.terms.token
    · simp [Accounted, recoveredIn, forwardedOf, ht]
    · simp [Accounted, recoveredIn, forwardedOf, ht]

/-- A call of a deployed contract. -/
lemma call_deployed {t : ℕ} {s : PaymentState} {c : Call} {r : CallResult} {b : Bool}
    (hs : s.settled = some b) (h : S.call t s c = some r) :
    r.state.settled = some b ∧ OnlyRecovered r.events ∧ S.Accounted r := by
  cases c with
  | transfer token sender amount logIndex =>
    obtain rfl := Option.some.inj h
    exact ⟨hs, by simp [OnlyRecovered], rfl⟩
  | execute refused =>
    simp only [call, PaymentFactory.execute, hs, Option.isSome_some, if_true] at h
    cases h
  | recover token refused =>
    simp only [call, hs, Option.isSome_some, if_true] at h
    obtain ⟨hset, hrest⟩ := S.recover_cases h
    exact ⟨hset.trans hs, hrest⟩

lemma calls_deployed {t : ℕ} {b : Bool} (cs : List Call) {s : PaymentState}
    (hs : s.settled = some b) :
    (S.calls t cs s).state.settled = some b ∧ OnlyRecovered (S.calls t cs s).events ∧
      S.Accounted (S.calls t cs s) := by
  induction cs generalizing s with
  | nil => exact ⟨hs, by simp [calls, OnlyRecovered], rfl⟩
  | cons c rest ih =>
    simp only [calls]
    rcases hc : S.call t s c with _ | r
    · exact ih hs
    · obtain ⟨hset, honly, hacc⟩ := S.call_deployed hs hc
      obtain ⟨hset', honly', hacc'⟩ := ih hset
      refine ⟨hset', onlyRecovered_append honly honly', ?_⟩
      simp only [Accounted, recoveredIn_append, forwardedOf_append]
      rw [hacc, hacc']

/-! ### What a deployment does -/

/-- What can happen to an address without a contract while `arrived` units of its token
arrive. -/
inductive Undeployed (t : ℕ) (s : PaymentState) (arrived : ℕ) (r : CallResult) : Prop
  /-- Nothing was deployed. -/
  | idle (settled : r.state.settled = none) (events : r.events = []) (forwarded : r.forwarded = [])
      (balance : r.state.balance S.terms.token = s.balance S.terms.token + arrived)
  /-- The contract was deployed after the deadline. -/
  | returned (settled : r.state.settled = some false) (late : S.terms.expirationTimestamp < t)
      (amount : ℕ) (rest : List PaymentEvent)
      (events : r.events = .recovered S.terms.token amount :: rest) (only : OnlyRecovered rest)
      (accounted : S.Accounted r)
  /-- The contract was deployed in time, and paid the receiver. -/
  | settled (settled : r.state.settled = some true) (inTime : t ≤ S.terms.expirationTimestamp)
      (held : S.terms.amount ≤ s.balance S.terms.token + arrived) (rest : List PaymentEvent)
      (events : r.events = .settled S.terms.amount :: rest) (only : OnlyRecovered rest)
      (accounted : S.Accounted r)

lemma construct_undeployed {t : ℕ} {refused : Bool} {s : PaymentState} {r : CallResult}
    (h : Payment.construct S.terms S.terms.chainId t refused s = some r) : S.Undeployed t s 0 r := by
  unfold Payment.construct at h
  simp only [ne_eq, not_true_eq_false, if_false] at h
  split_ifs at h with hlate href hshort href' hrem
  · obtain rfl := Option.some.inj h
    exact .returned rfl hlate _ [] rfl (by simp [OnlyRecovered])
      (by simp [Accounted, recoveredIn, forwardedOf])
  · obtain rfl := Option.some.inj h
    refine .settled rfl (not_lt.1 hlate) (not_lt.1 hshort) _ rfl ?_ ?_
    · exact fun e he => (by simp at he)
    · simp [Accounted, recoveredIn, forwardedOf]
  · obtain rfl := Option.some.inj h
    refine .settled rfl (not_lt.1 hlate) (not_lt.1 hshort) _ rfl ?_ ?_
    · intro e he
      exact ⟨_, _, by simpa using he⟩
    · simp [Accounted, recoveredIn, forwardedOf]

variable {S} in
/-- Calls that follow a deployment in the same transaction. -/
lemma Undeployed.followed {t a : ℕ} {s : PaymentState} {r r' : CallResult}
    (h : S.Undeployed t s 0 r) (hdeployed : r.state.settled ≠ none)
    (hset : r'.state.settled = r.state.settled) (honly : OnlyRecovered r'.events)
    (hacc : S.Accounted r') :
    S.Undeployed t s a ⟨r'.state, r.events ++ r'.events, r.forwarded ++ r'.forwarded⟩ := by
  have haccounted : S.Accounted r →
      S.Accounted ⟨r'.state, r.events ++ r'.events, r.forwarded ++ r'.forwarded⟩ := by
    intro hr
    simp only [Accounted, recoveredIn_append, forwardedOf_append]
    rw [hr, hacc]
  cases h with
  | idle settled => exact absurd settled hdeployed
  | returned settled late amount rest events only accounted =>
    exact .returned (hset.trans settled) late amount (rest ++ r'.events) (by rw [events]; rfl)
      (onlyRecovered_append only honly) (haccounted accounted)
  | settled settled inTime held rest events only accounted =>
    exact .settled (hset.trans settled) inTime (by omega) (rest ++ r'.events) (by rw [events]; rfl)
      (onlyRecovered_append only honly) (haccounted accounted)

/-- Calls on an address without a contract. -/
lemma calls_undeployed (tx : Tx) (t : ℕ) (cs : List Call) {s : PaymentState}
    (hs : s.settled = none) :
    S.Undeployed t s (S.arrived (cs.filterMap (S.observe tx))) (S.calls t cs s) := by
  induction cs generalizing s with
  | nil => exact .idle hs rfl rfl rfl
  | cons c rest ih =>
    cases c with
    | transfer token sender amount logIndex =>
      simp only [calls, call]
      -- the transfer raises the balance the rest starts from
      have hrest := @ih
        { s with balance := Function.update s.balance token (s.balance token + amount) } hs
      have harrived : S.arrived ((Call.transfer token sender amount logIndex :: rest).filterMap
          (S.observe tx)) = (if token = S.terms.token then amount else 0) +
            S.arrived (rest.filterMap (S.observe tx)) := by
        by_cases ht : token = S.terms.token
        · simp [arrived, observe, ht]
        · simp [arrived, observe, ht]
      have hbalance : Function.update s.balance token (s.balance token + amount) S.terms.token =
          s.balance S.terms.token + (if token = S.terms.token then amount else 0) := by
        by_cases ht : token = S.terms.token
        · rw [ht, Function.update_self, if_pos rfl]
        · rw [Function.update_of_ne (Ne.symm ht), if_neg ht, Nat.add_zero]
      rw [harrived]
      cases hrest with
      | idle settled events forwarded balance =>
        exact .idle settled (by simpa using events) (by simpa using forwarded)
          (by rw [balance]; simp only [hbalance]; omega)
      | returned settled late amount' tail events only accounted =>
        exact .returned settled late amount' tail (by simpa using events) only
          (by simpa [Accounted] using accounted)
      | settled settled inTime held tail events only accounted =>
        exact .settled settled inTime (by simp only [hbalance] at held; omega) tail
          (by simpa using events) only (by simpa [Accounted] using accounted)
    | execute refused =>
      have hskip : (Call.execute refused :: rest).filterMap (S.observe tx) =
          rest.filterMap (S.observe tx) := List.filterMap_cons_none rfl
      rw [hskip]
      simp only [calls]
      rcases hc : S.call t s (.execute refused) with _ | r
      · exact ih hs
      · have hconstruct : Payment.construct S.terms S.terms.chainId t refused s = some r := by
          simpa [call, PaymentFactory.execute, hs] using hc
        have hundeployed := S.construct_undeployed hconstruct
        have hdeployed : r.state.settled ≠ none := by
          cases hundeployed with
          | idle _ events =>
            -- the constructor always emits an event
            exfalso
            unfold Payment.construct at hconstruct
            simp only [ne_eq, not_true_eq_false, if_false] at hconstruct
            split_ifs at hconstruct
            all_goals
              obtain rfl := Option.some.inj hconstruct
              simp at events
          | returned settled => simp [settled]
          | settled settled => simp [settled]
        obtain ⟨b, hb⟩ := Option.ne_none_iff_exists'.1 hdeployed
        obtain ⟨hset, honly, hacc⟩ := S.calls_deployed (t := t) rest hb
        exact hundeployed.followed hdeployed (hset.trans hb.symm) honly hacc
    | recover token refused =>
      have hskip : (Call.recover token refused :: rest).filterMap (S.observe tx) =
          rest.filterMap (S.observe tx) := List.filterMap_cons_none rfl
      rw [hskip]
      simp only [calls, call, hs, Option.isSome_none, Bool.false_eq_true, if_false]
      exact ih hs

/-! ### Sweeps -/

/-- The sweep of an address without a contract deploys it or fails. -/
lemma sweep_undeployed (t : ℕ) (refused : Bool) {s : PaymentState} (hs : s.settled = none) :
    S.Undeployed t s 0 (S.sweep t refused s).1 := by
  simp only [sweep, hs, Option.isSome_none, Bool.false_eq_true, if_false, PaymentFactory.execute]
  rcases hc : Payment.construct S.terms S.terms.chainId t refused s with _ | r
  · exact .idle hs rfl rfl (Nat.add_zero _).symm
  · exact S.construct_undeployed hc

lemma sweep_deployed (t : ℕ) (refused : Bool) {s : PaymentState} {b : Bool}
    (hs : s.settled = some b) :
    (S.sweep t refused s).1.state.settled = some b ∧ OnlyRecovered (S.sweep t refused s).1.events ∧
      S.Accounted (S.sweep t refused s).1 := by
  simp only [sweep, hs, Option.isSome_some, if_true]
  rcases hc : Payment.recover S.terms.token refused s with _ | r
  · exact ⟨hs, by simp [OnlyRecovered], rfl⟩
  · obtain ⟨hset, hrest⟩ := S.recover_cases hc
    exact ⟨hset.trans hs, hrest⟩

/-! ### Transactions -/

/-- A transaction on a deployed contract. -/
lemma exec_deployed (tx : Tx) {s : PaymentState} {b : Bool} (hs : s.settled = some b) :
    (S.exec tx s).state.settled = some b ∧ OnlyRecovered (S.exec tx s).events ∧
      S.Accounted (S.exec tx s) := by
  unfold exec
  split
  · exact S.calls_deployed _ hs
  · exact S.sweep_deployed _ _ hs

/-- A transaction on an address without a contract. -/
lemma exec_undeployed (tx : Tx) {s : PaymentState} (hs : s.settled = none) :
    S.Undeployed (S.timestamp tx.block) s (S.arrived (S.transfersOf tx)) (S.exec tx s) := by
  unfold exec transfersOf
  split
  · exact S.calls_undeployed tx _ _ hs
  · exact S.sweep_undeployed _ _ hs

lemma accounted_exec (tx : Tx) (s : PaymentState) : S.Accounted (S.exec tx s) := by
  rcases hs : s.settled with _ | b
  · cases S.exec_undeployed tx hs with
    | idle _ events forwarded => simp [Accounted, events, forwarded, recoveredIn, forwardedOf]
    | returned _ _ _ _ _ _ accounted => exact accounted
    | settled _ _ _ _ _ _ accounted => exact accounted
  · exact (S.exec_deployed tx hs).2.2

end Site

end Payday
