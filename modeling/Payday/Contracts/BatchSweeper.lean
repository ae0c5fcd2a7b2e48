/-
# The helper transaction and its receipt

`BatchSweeper.executeBatch` over `PaymentFactory` and `Payment`, for any number of items, on the
token balances of all addresses.  An item's call is one of the contract's `try` calls: it leaves an
effect behind, or reverts and leaves nothing.  What the tokens decide (whether a transfer goes
through, what they log) and whether a call fails for reasons of its own is up to the environment.

The logs of a transaction are listed as the pair of the emitting address and the event; a provider
adds where it found them.
-/
import Mathlib.Logic.Function.Basic
import Payday.Chain.Outcomes
import Payday.Signers.Messages

namespace Payday.Batch

open Signers (SweepRequest)

structure TokenTransfer where
  token : Address
  sender : Address
  recipient : Address
  amount : ℕ
deriving DecidableEq, Repr

/-- A deployed `Payment`: its immutables. -/
structure DeployedPayment where
  recovery : Address
  settled : Bool
deriving DecidableEq, Repr

/-- What a batch reads and writes of a chain. -/
structure World where
  /-- By token and holder. -/
  balance : Address → Address → ℕ
  payments : Address → Option DeployedPayment

namespace World

def transfer (w : World) (t : TokenTransfer) : World :=
  let debited := Function.update (w.balance t.token) t.sender (w.balance t.token t.sender - t.amount)
  let credited := Function.update debited t.recipient (debited t.recipient + t.amount)
  { w with balance := Function.update w.balance t.token credited }

def deploy (w : World) (address : Address) (payment : DeployedPayment) : World :=
  { w with payments := Function.update w.payments address (some payment) }

@[simp] lemma payments_transfer (w : World) (t : TokenTransfer) : (w.transfer t).payments = w.payments :=
  rfl

@[simp] lemma balance_deploy (w : World) (address : Address) (payment : DeployedPayment) :
    (w.deploy address payment).balance = w.balance := rfl

@[simp] lemma payments_deploy (w : World) (address : Address) (payment : DeployedPayment) :
    (w.deploy address payment).payments address = some payment := by
  simp [deploy]

end World

/-- Where and when a batch runs. -/
structure Block where
  chainId : ChainId
  timestamp : ℕ
  batchSweeper : Address
  /-- `factory.paymentAddress`: the CREATE3 address of an item's terms. -/
  paymentAddress : SweepRequest → Address
  paymentAddress_ne : ∀ sweep, paymentAddress sweep ≠ batchSweeper

/-- What is decided elsewhere while an item runs. -/
structure Conditions where
  /-- The call fails by itself: it runs out of gas, or the token has no code. -/
  fails : Bool
  /-- A pause or a blacklist. -/
  refuses : TokenTransfer → Bool
  /-- What the token logs about a transfer. -/
  transferLogs : TokenTransfer → List (Address × LogEvent)
  transferLogs_other : ∀ t, ∀ log ∈ transferLogs t, log.2 = .other
  revertData : List UInt8

/-- What a call leaves behind. -/
structure Effect where
  world : World
  logs : List (Address × LogEvent)
  transfers : List TokenTransfer

namespace Effect

def emit (e : Effect) (address : Address) (event : LogEvent) : Effect :=
  { e with logs := e.logs ++ [(address, event)] }

/-- `SafeTransferLib.safeTransfer`. -/
def safeTransfer (e : Effect) (c : Conditions) (t : TokenTransfer) : Option Effect :=
  if c.refuses t then none
  else some ⟨e.world.transfer t, e.logs ++ c.transferLogs t, e.transfers ++ [t]⟩

end Effect

/-- The constructor of `Payment`, at the address `self`. -/
def construct (B : Block) (c : Conditions) (sweep : SweepRequest) (self : Address) (w : World) :
    Option Effect :=
  let deployed (settled : Bool) : Effect := ⟨w.deploy self ⟨sweep.recovery, settled⟩, [], []⟩
  if B.chainId ≠ sweep.chainId then
    -- `WrongChain`
    some ((deployed false).emit self .other)
  else
    let balance := w.balance sweep.token self
    if sweep.expirationTimestamp < B.timestamp then
      ((deployed false).safeTransfer c ⟨sweep.token, self, sweep.recovery, balance⟩).map fun e =>
        e.emit self (.recovered (.ok (sweep.token, balance)))
    else if balance < sweep.amount then none
    else
      match (deployed true).safeTransfer c ⟨sweep.token, self, sweep.receiver, sweep.amount⟩ with
      | none => none
      | some e =>
        let e := e.emit self (.settled (.ok sweep.amount))
        let remainder := balance - sweep.amount
        if remainder ≠ 0 then
          (e.safeTransfer c ⟨sweep.token, self, sweep.recovery, remainder⟩).map fun e =>
            e.emit self (.recovered (.ok (sweep.token, remainder)))
        else some e

/-- `Payment.recover` of the contract at `self`, with the amount it returns. -/
def recover (c : Conditions) (payment : DeployedPayment) (self token : Address) (w : World) :
    Option (Effect × ℕ) :=
  let amount := w.balance token self
  if amount = 0 then some (⟨w, [], []⟩, 0)
  else
    ((⟨w, [], []⟩ : Effect).safeTransfer c ⟨token, self, payment.recovery, amount⟩).map fun e =>
      (e.emit self (.recovered (.ok (token, amount))), amount)

/-- `PaymentFactory.execute`; a second deployment collides. -/
def execute (B : Block) (c : Conditions) (sweep : SweepRequest) (w : World) : Option Effect :=
  if (w.payments (B.paymentAddress sweep)).isSome then none
  else construct B c sweep (B.paymentAddress sweep) w

/-- What an item did. -/
structure ItemRun where
  sweep : SweepRequest
  before : World
  after : World
  transfers : List TokenTransfer
  /-- The data that its call reverted with. -/
  reverted : Option (List UInt8)
  logs : List (Address × LogEvent)

/-- One iteration of `executeBatch`. -/
def sweepItem (B : Block) (c : Conditions) (w : World) (sweep : SweepRequest) : ItemRun :=
  let paymentAddress := B.paymentAddress sweep
  let failed : ItemRun := ⟨sweep, w, w, [], some c.revertData,
    [(B.batchSweeper, .sweepFailed (.ok (paymentAddress, c.revertData)))]⟩
  if c.fails then failed
  else
    match w.payments paymentAddress with
    | some payment =>
      match recover c payment paymentAddress sweep.token w with
      | none => failed
      | some (e, amount) => ⟨sweep, w, e.world, e.transfers, none,
          e.logs ++ [(B.batchSweeper, .sweepRecovered (.ok (paymentAddress, amount)))]⟩
    | none =>
      match execute B c sweep w with
      | none => failed
      | some e => ⟨sweep, w, e.world, e.transfers, none, e.logs⟩

/-- `BatchSweeper.executeBatch`, from the item with number `i` on. -/
def executeBatchFrom (B : Block) (conditions : ℕ → Conditions) :
    ℕ → World → List SweepRequest → List ItemRun
  | _, _, [] => []
  | i, w, sweep :: rest =>
    let run := sweepItem B (conditions i) w sweep
    run :: executeBatchFrom B conditions (i + 1) run.after rest

def executeBatch (B : Block) (conditions : ℕ → Conditions) (w : World) (sweeps : List SweepRequest) :
    List ItemRun :=
  executeBatchFrom B conditions 0 w sweeps

/-- The logs of the transaction. -/
def logsOf (runs : List ItemRun) : List (Address × LogEvent) := runs.flatMap ItemRun.logs

/-- An event that the decoder passes over. -/
def isOther : LogEvent → Bool
  | .other => true
  | _ => false

/-- The logs that are read. -/
def significant (logs : List (Address × LogEvent)) : List (Address × LogEvent) :=
  logs.filter fun log => !isOther log.2

@[simp] lemma significant_append (logs logs' : List (Address × LogEvent)) :
    significant (logs ++ logs') = significant logs ++ significant logs' :=
  List.filter_append ..

@[simp] lemma significant_nil : significant [] = [] := rfl

/-- A token's logs are not read. -/
@[simp] lemma significant_transferLogs (c : Conditions) (t : TokenTransfer) :
    significant (c.transferLogs t) = [] := by
  refine List.filter_eq_nil_iff.2 fun log hlog => ?_
  rw [c.transferLogs_other t log hlog]
  simp [isOther]

/-! ### What an item can do -/

namespace ItemRun

variable (B : Block) (r : ItemRun)

def address : Address := B.paymentAddress r.sweep

/-- A live fresh deployment paid the receiver, and forwarded the remainder. -/
def PaidReceiver (amount remainder : ℕ) : Prop :=
  r.reverted = none ∧ r.before.payments (r.address B) = none ∧
  r.after.payments (r.address B) = some ⟨r.sweep.recovery, true⟩ ∧
  r.sweep.chainId = B.chainId ∧ B.timestamp ≤ r.sweep.expirationTimestamp ∧
  amount = r.sweep.amount ∧ r.before.balance r.sweep.token (r.address B) = amount + remainder ∧
  r.transfers = ⟨r.sweep.token, r.address B, r.sweep.receiver, amount⟩ ::
    (if remainder = 0 then [] else [⟨r.sweep.token, r.address B, r.sweep.recovery, remainder⟩])

/-- An expired fresh deployment forwarded its balance. -/
def ReturnedExpired (amount : ℕ) : Prop :=
  r.reverted = none ∧ r.before.payments (r.address B) = none ∧
  r.after.payments (r.address B) = some ⟨r.sweep.recovery, false⟩ ∧
  r.sweep.chainId = B.chainId ∧ r.sweep.expirationTimestamp < B.timestamp ∧
  amount = r.before.balance r.sweep.token (r.address B) ∧
  r.transfers = [⟨r.sweep.token, r.address B, r.sweep.recovery, amount⟩]

/-- The contract existed, and `recover` forwarded what had arrived. -/
def CollectedLate (amount : ℕ) : Prop :=
  r.reverted = none ∧ ∃ payment, r.before.payments (r.address B) = some payment ∧
  r.after.payments = r.before.payments ∧
  amount = r.before.balance r.sweep.token (r.address B) ∧
  r.transfers = if amount = 0 then [] else [⟨r.sweep.token, r.address B, payment.recovery, amount⟩]

/-- A fresh deployment on another chain than the one the item commits to: nothing is routed. -/
def OnWrongChain : Prop :=
  r.reverted = none ∧ r.before.payments (r.address B) = none ∧ r.sweep.chainId ≠ B.chainId

/-- The item's call reverted, and moved nothing. -/
def RevertedWith (data : List UInt8) : Prop :=
  r.reverted = some data ∧ r.after = r.before ∧ r.transfers = []

/-- What an outcome says that its item did; an item without an outcome was deployed on a chain that
is not its own. -/
def Did : Option SweepOutcome → Prop
  | some (.settled amount remainder) => r.PaidReceiver B amount remainder
  | some (.recovered amount) => r.ReturnedExpired B amount
  | some (.collected amount) => r.CollectedLate B amount
  | some (.failed data) => r.reverted = some data
  | none => r.OnWrongChain B

/-- What an item did, what is found for it, and the logs of it that are read. -/
inductive Ended : Option SweepOutcome → List (Address × LogEvent) → Prop
  | paid (amount : ℕ) (h : r.PaidReceiver B amount 0) :
      Ended (some (.settled amount 0)) [(r.address B, .settled (.ok amount))]
  | overpaid (amount remainder : ℕ) (h : r.PaidReceiver B amount remainder) :
      Ended (some (.settled amount remainder)) [(r.address B, .settled (.ok amount)),
        (r.address B, .recovered (.ok (r.sweep.token, remainder)))]
  | returned (amount : ℕ) (h : r.ReturnedExpired B amount) :
      Ended (some (.recovered amount)) [(r.address B, .recovered (.ok (r.sweep.token, amount)))]
  | collectedNothing (h : r.CollectedLate B 0) :
      Ended (some (.collected 0)) [(B.batchSweeper, .sweepRecovered (.ok (r.address B, 0)))]
  | collected (amount : ℕ) (h : r.CollectedLate B amount) :
      Ended (some (.collected amount)) [(r.address B, .recovered (.ok (r.sweep.token, amount))),
        (B.batchSweeper, .sweepRecovered (.ok (r.address B, amount)))]
  | failed (data : List UInt8) (h : r.RevertedWith data) :
      Ended (some (.failed data)) [(B.batchSweeper, .sweepFailed (.ok (r.address B, data)))]
  | wrongChain (h : r.OnWrongChain B) : Ended none []

variable {B r}

/-- An item did one thing. -/
lemma Did.unique {found found' : Option SweepOutcome} (h : r.Did B found) (h' : r.Did B found') :
    found = found' := by
  rcases found with _ | ⟨amount, remainder⟩ | amount | amount | data <;>
    rcases found' with _ | ⟨amount', remainder'⟩ | amount' | amount' | data' <;>
    simp only [Did, PaidReceiver, ReturnedExpired, CollectedLate, OnWrongChain] at h h' <;> grind

lemma Ended.did {found : Option SweepOutcome} {logs : List (Address × LogEvent)} (h : r.Ended B found logs) :
    r.Did B found := by
  cases h with
  | paid amount h => exact h
  | overpaid amount remainder h => exact h
  | returned amount h => exact h
  | collectedNothing h => exact h
  | collected amount h => exact h
  | failed data h => exact h.1
  | wrongChain h => exact h

end ItemRun

variable {B : Block} {c : Conditions} {w : World} {sweep : SweepRequest}

open ItemRun in
/-- An item of a contract that exists. -/
lemma ended_recover {payment : DeployedPayment} {e : Effect} {amount : ℕ}
    (hpayment : w.payments (B.paymentAddress sweep) = some payment)
    (h : recover c payment (B.paymentAddress sweep) sweep.token w = some (e, amount)) :
    ∃ found, Ended B ⟨sweep, w, e.world, e.transfers, none, e.logs ++
      [(B.batchSweeper, .sweepRecovered (.ok (B.paymentAddress sweep, amount)))]⟩ found
      (significant (e.logs ++
        [(B.batchSweeper, .sweepRecovered (.ok (B.paymentAddress sweep, amount)))])) := by
  unfold recover at h
  dsimp only at h
  split at h
  · rename_i hzero
    cases h
    exact ⟨_, .collectedNothing ⟨rfl, payment, hpayment, rfl, hzero.symm, rfl⟩⟩
  · rename_i hamount
    unfold Effect.safeTransfer at h
    split at h
    · cases h
    · cases h
      refine ⟨some (.collected (w.balance sweep.token (B.paymentAddress sweep))), ?_⟩
      simp only [Effect.emit, significant_append, significant_transferLogs, List.nil_append]
      exact .collected _ ⟨rfl, payment, hpayment, rfl, rfl, by rw [if_neg hamount]; rfl⟩

open ItemRun in
/-- An item of a contract that does not exist yet. -/
lemma ended_execute {e : Effect} (h : execute B c sweep w = some e) :
    ∃ found, Ended B ⟨sweep, w, e.world, e.transfers, none, e.logs⟩ found (significant e.logs) := by
  unfold execute at h
  split at h
  · cases h
  · rename_i hfresh
    have hfresh : w.payments (B.paymentAddress sweep) = none := by
      simpa [Option.isSome_eq_false_iff] using hfresh
    unfold construct at h
    dsimp only at h
    split at h
    · rename_i hchain
      cases h
      exact ⟨none, .wrongChain ⟨rfl, hfresh, Ne.symm hchain⟩⟩
    · rename_i hchain
      have hchain : sweep.chainId = B.chainId := (not_not.1 hchain).symm
      split at h
      · rename_i hexpired
        unfold Effect.safeTransfer at h
        split at h
        · cases h
        · cases h
          refine ⟨some (.recovered (w.balance sweep.token (B.paymentAddress sweep))), ?_⟩
          simp only [Effect.emit, significant_append, significant_transferLogs,
            List.nil_append]
          refine .returned _ ⟨rfl, hfresh, ?_, hchain, hexpired, rfl, rfl⟩
          simp [address]
      · rename_i hlive
        split at h
        · cases h
        · rename_i hcovered
          -- the transfer to the receiver
          cases hfirst : Effect.safeTransfer ⟨w.deploy (B.paymentAddress sweep) ⟨sweep.recovery, true⟩, [], []⟩ c
            ⟨sweep.token, B.paymentAddress sweep, sweep.receiver, sweep.amount⟩ with
          | none =>
            rw [hfirst] at h
            cases h
          | some first =>
            rw [hfirst] at h
            unfold Effect.safeTransfer at hfirst
            split at hfirst
            · cases hfirst
            · cases hfirst
              dsimp only at h
              split at h
              · rename_i hremainder
                unfold Effect.safeTransfer at h
                split at h
                · cases h
                · cases h
                  refine ⟨some (.settled sweep.amount
                    (w.balance sweep.token (B.paymentAddress sweep) - sweep.amount)), ?_⟩
                  simp only [Effect.emit, significant_append, significant_transferLogs,
                    List.nil_append, List.append_nil]
                  refine .overpaid _ _ ⟨rfl, hfresh, ?_, hchain, not_lt.1 hlive, rfl, ?_, ?_⟩
                  · simp [address]
                  · simp only [address]
                    omega
                  · rw [if_neg hremainder]
                    rfl
              · rename_i hremainder
                cases h
                refine ⟨some (.settled sweep.amount 0), ?_⟩
                simp only [Effect.emit, significant_append, significant_transferLogs,
                  List.nil_append]
                refine .paid _ ⟨rfl, hfresh, ?_, hchain, not_lt.1 hlive, rfl, ?_, rfl⟩
                · simp [address]
                · simp only [address]
                  omega

/-- What an item does, and the logs of it that are read. -/
lemma sweepItem_ended (B : Block) (c : Conditions) (w : World) (sweep : SweepRequest) :
    ∃ found, (sweepItem B c w sweep).Ended B found (significant (sweepItem B c w sweep).logs) := by
  unfold sweepItem
  dsimp only
  split
  · exact ⟨_, .failed _ ⟨rfl, rfl, rfl⟩⟩
  · split
    · rename_i payment hpayment
      split
      · exact ⟨_, .failed _ ⟨rfl, rfl, rfl⟩⟩
      · rename_i e amount h
        exact ended_recover hpayment h
    · split
      · exact ⟨_, .failed _ ⟨rfl, rfl, rfl⟩⟩
      · rename_i e h
        exact ended_execute h

/-! ### What the decoder finds -/

/-- The part of a log that was emitted. -/
def emitted (log : RpcLog) : Address × LogEvent := (log.address, log.event)

/-- A log as a provider returns it, of which the decoder reads what was emitted. -/
def received (log : Address × LogEvent) : RpcLog := ⟨log.1, log.2, false, none, none, none, none, none⟩

lemma decodeLogs_received (batchSweeper : Address) (txHash : Hash) (logs : List RpcLog) (pending : Pending) :
    decodeLogs batchSweeper txHash ((logs.map emitted).map received) pending =
      decodeLogs batchSweeper txHash logs pending := by
  induction logs generalizing pending with
  | nil => rfl
  | cons log rest ih =>
    have hlog : decodeLog batchSweeper txHash pending (received (emitted log)) =
        decodeLog batchSweeper txHash pending log := rfl
    simp only [List.map_cons, decodeLogs, hlog]
    split
    · rfl
    · exact ih _

lemma decodeLogs_significant (batchSweeper : Address) (txHash : Hash) (logs : List (Address × LogEvent))
    (pending : Pending) : decodeLogs batchSweeper txHash ((significant logs).map received) pending =
      decodeLogs batchSweeper txHash (logs.map received) pending := by
  induction logs generalizing pending with
  | nil => rfl
  | cons log rest ih =>
    obtain ⟨address, event⟩ := log
    by_cases hother : isOther event = true
    · have hevent : event = .other := by
        cases event <;> first | rfl | cases hother
      subst hevent
      have hskip : decodeLog batchSweeper txHash pending (received (address, .other)) = .ok pending := by
        unfold decodeLog
        split <;> rfl
      simp only [significant, List.filter_cons, isOther, Bool.not_true, Bool.false_eq_true, if_false,
        List.map_cons, decodeLogs, hskip]
      exact ih pending
    · have hread : significant ((address, event) :: rest) = (address, event) :: significant rest := by
        simp [significant, hother]
      rw [hread]
      simp only [List.map_cons, decodeLogs]
      split
      · rfl
      · exact ih _

/-- The logs of one payment address among those of many. -/
lemma filter_flatMap_of_key {α β κ : Type*} [DecidableEq κ] {f : α → List β} {key : α → κ}
    {subject : β → Option κ} {l : List α} (hnodup : (l.map key).Nodup)
    (hsubject : ∀ x ∈ l, ∀ y ∈ f x, ∀ k, subject y = some k → k = key x) {x : α} (hx : x ∈ l) :
    (l.flatMap f).filter (fun y => decide (subject y = some (key x))) =
      (f x).filter fun y => decide (subject y = some (key x)) := by
  have hnone : ∀ z ∈ l, key z ≠ key x → (f z).filter (fun y => decide (subject y = some (key x))) = [] := by
    intro z hz hne
    refine List.filter_eq_nil_iff.2 fun y hy heq => hne ?_
    exact (hsubject z hz y hy (key x) (of_decide_eq_true heq)).symm
  induction l with
  | nil => cases hx
  | cons z rest ih =>
    rw [List.map_cons, List.nodup_cons] at hnodup
    rw [List.flatMap_cons, List.filter_append]
    have hsubject' := fun x hx => hsubject x (List.mem_cons_of_mem z hx)
    rcases List.mem_cons.1 hx with rfl | hx'
    · have hrest : (rest.flatMap f).filter (fun y => decide (subject y = some (key x))) = [] := by
        refine List.filter_eq_nil_iff.2 fun y hy heq => ?_
        obtain ⟨z, hz, hy⟩ := List.mem_flatMap.1 hy
        have hkey := hsubject' z hz y hy (key x) (of_decide_eq_true heq)
        exact hnodup.1 (hkey ▸ List.mem_map_of_mem hz)
      rw [hrest, List.append_nil]
    · have hne : key z ≠ key x := fun heq => hnodup.1 (heq ▸ List.mem_map_of_mem hx')
      rw [hnone z (List.mem_cons_self ..) hne, List.nil_append]
      exact ih hnodup.2 hsubject' hx' fun z' hz' => hnone z' (List.mem_cons_of_mem z hz')

namespace ItemRun

variable {r : ItemRun} {found : Option SweepOutcome} {logs : List (Address × LogEvent)}

/-- The logs of an item are about its payment address, and resolve to what is found for it. -/
structure Filed (B : Block) (r : ItemRun) (found : Option SweepOutcome) (logs : List (Address × LogEvent))
    (txHash : Hash) : Prop where
  decoded : ∀ log ∈ logs, (received log).malformed B.batchSweeper = false
  places : ((logs.map received).filterMap (RpcLog.place B.batchSweeper)).Nodup
  subjects : ∀ log ∈ logs, (received log).subject B.batchSweeper = some (r.address B)
  empty : logs = [] ↔ found = none
  resolved : ∀ outcome, found = some outcome →
    (eventsOf B.batchSweeper (logs.map received) (r.address B)).resolve txHash (r.address B) = .ok outcome

lemma Ended.filed (h : r.Ended B found logs) (txHash : Hash) : r.Filed B found logs txHash := by
  have hne : r.address B ≠ B.batchSweeper := B.paymentAddress_ne r.sweep
  cases h <;> constructor <;> simp [received, RpcLog.malformed, RpcLog.place, RpcLog.subject, eventsOf,
    PendingOutcome.push, PendingOutcome.resolve, hne]

end ItemRun

section

variable {conditions : ℕ → Conditions} {sweeps : List SweepRequest}

/-- Every item runs once. -/
lemma map_sweep_executeBatchFrom (B : Block) (conditions : ℕ → Conditions) (i : ℕ) (w : World)
    (sweeps : List SweepRequest) :
    (executeBatchFrom B conditions i w sweeps).map ItemRun.sweep = sweeps := by
  induction sweeps generalizing i w with
  | nil => rfl
  | cons sweep rest ih =>
    have hhead : (sweepItem B (conditions i) w sweep).sweep = sweep := by
      unfold sweepItem
      dsimp only
      repeat' split
      all_goals rfl
    rw [executeBatchFrom, List.map_cons, ih, hhead]

/-- An item runs as `sweepItem` says, from some state. -/
lemma mem_executeBatchFrom {i : ℕ} {w : World} {r : ItemRun}
    (h : r ∈ executeBatchFrom B conditions i w sweeps) : ∃ c w' sweep, r = sweepItem B c w' sweep := by
  induction sweeps generalizing i w with
  | nil => cases h
  | cons sweep rest ih =>
    rcases List.mem_cons.1 h with rfl | h
    · exact ⟨_, _, _, rfl⟩
    · exact ih h

lemma significant_flatMap (runs : List ItemRun) :
    significant (logsOf runs) = runs.flatMap fun r => significant r.logs := by
  induction runs with
  | nil => rfl
  | cons r rest ih =>
    have hcons : logsOf (r :: rest) = r.logs ++ logsOf rest := rfl
    rw [hcons, significant_append, ih, List.flatMap_cons]

variable (B) in
/-- The logs of runs at different payment addresses are well formed. -/
lemma wellFormed_runs {runs : List ItemRun} (hdistinct : (runs.map (ItemRun.address B)).Nodup)
    (txHash : Hash) {found : ItemRun → Option SweepOutcome}
    (hfiled : ∀ r ∈ runs, r.Filed B (found r) (significant r.logs) txHash) :
    WellFormed B.batchSweeper txHash ((significant (logsOf runs)).map received) ∧
      ∀ r ∈ runs, eventsOf B.batchSweeper ((significant (logsOf runs)).map received) (r.address B) =
        eventsOf B.batchSweeper ((significant r.logs).map received) (r.address B) := by
  have hmap : (significant (logsOf runs)).map received =
      runs.flatMap fun r => (significant r.logs).map received := by
    rw [significant_flatMap, List.map_flatMap]
  rw [hmap]
  have hsubject : ∀ r ∈ runs, ∀ log ∈ (significant r.logs).map received,
      log.subject B.batchSweeper = some (r.address B) := by
    intro r hr log hlog
    obtain ⟨pair, hpair, rfl⟩ := List.mem_map.1 hlog
    exact (hfiled r hr).subjects pair hpair
  have hevents : ∀ r ∈ runs, eventsOf B.batchSweeper
      (runs.flatMap fun r => (significant r.logs).map received) (r.address B) =
        eventsOf B.batchSweeper ((significant r.logs).map received) (r.address B) := by
    intro r hr
    unfold eventsOf
    rw [filter_flatMap_of_key hdistinct (fun r' hr' log hlog a ha => ?_) hr]
    rw [hsubject r' hr' log hlog] at ha
    exact (Option.some.inj ha).symm
  refine ⟨⟨?_, ?_, ?_⟩, hevents⟩
  · intro log hlog
    obtain ⟨r, hr, hlog⟩ := List.mem_flatMap.1 hlog
    obtain ⟨pair, hpair, rfl⟩ := List.mem_map.1 hlog
    exact (hfiled r hr).decoded pair hpair
  · -- the places of different items are at different addresses
    rw [List.filterMap_flatMap, List.nodup_flatMap]
    refine ⟨fun r hr => (hfiled r hr).places, ?_⟩
    refine (List.pairwise_map.1 hdistinct).imp_of_mem fun {r r'} hr hr' hne => ?_
    rintro ⟨a, kind⟩ hplace hplace'
    obtain ⟨log, hlog, hplace⟩ := List.mem_filterMap.1 hplace
    obtain ⟨log', hlog', hplace'⟩ := List.mem_filterMap.1 hplace'
    have ha := (hsubject r hr log hlog).symm.trans (RpcLog.subject_of_place hplace)
    have ha' := (hsubject r' hr' log' hlog').symm.trans (RpcLog.subject_of_place hplace')
    exact hne (Option.some.inj (ha.trans ha'.symm))
  · rintro a ⟨log, hlog, ha⟩
    obtain ⟨r, hr, hlog⟩ := List.mem_flatMap.1 hlog
    rw [hsubject r hr log hlog] at ha
    obtain rfl := Option.some.inj ha
    rw [hevents r hr]
    rcases hfound : found r with _ | outcome
    · have hnil := (hfiled r hr).empty.2 hfound
      rw [hnil] at hlog
      cases hlog
    · exact ⟨outcome, (hfiled r hr).resolved outcome hfound⟩

lemma decodeSweepOutcomes_received (batchSweeper : Address) (txHash : Hash) (logs : List RpcLog) :
    decodeSweepOutcomes ((logs.map emitted).map received) batchSweeper txHash =
      decodeSweepOutcomes logs batchSweeper txHash := by
  rw [decodeSweepOutcomes, decodeLogs_received]
  rfl

lemma decodeSweepOutcomes_significant (batchSweeper : Address) (txHash : Hash)
    (logs : List (Address × LogEvent)) :
    decodeSweepOutcomes ((significant logs).map received) batchSweeper txHash =
      decodeSweepOutcomes (logs.map received) batchSweeper txHash := by
  rw [decodeSweepOutcomes, decodeLogs_significant]
  rfl

variable (B) in
/-- The outcomes of runs at different payment addresses. -/
lemma decode_runs {runs : List ItemRun} (hdistinct : (runs.map (ItemRun.address B)).Nodup)
    (hruns : ∀ r ∈ runs, ∃ found, r.Ended B found (significant r.logs)) (txHash : Hash) :
    ∃ outcomes, decodeSweepOutcomes ((logsOf runs).map received) B.batchSweeper txHash = .ok outcomes ∧
      (∀ x ∈ outcomes.rows, ∃ r ∈ runs, x.1 = r.address B) ∧
      ∀ r ∈ runs, ∀ found, (outcomes.find? (r.address B)).map Prod.snd = found ↔ r.Did B found := by
  classical
  -- what is to be found for every run
  let expected : ItemRun → Option SweepOutcome := fun r =>
    if h : ∃ found, r.Ended B found (significant r.logs) then h.choose else none
  have hended : ∀ r ∈ runs, r.Ended B (expected r) (significant r.logs) := by
    intro r hr
    have h := hruns r hr
    simp only [expected, dif_pos h]
    exact h.choose_spec
  have hfiled : ∀ r ∈ runs, r.Filed B (expected r) (significant r.logs) txHash := fun r hr =>
    (hended r hr).filed txHash
  obtain ⟨hwell, hevents⟩ := wellFormed_runs B hdistinct txHash hfiled
  obtain ⟨outcomes, hok⟩ := decodeSweepOutcomes_ok_iff.2 hwell
  have hsubject : ∀ a, (∃ log ∈ (significant (logsOf runs)).map received,
      log.subject B.batchSweeper = some a) ↔ ∃ r ∈ runs, significant r.logs ≠ [] ∧ r.address B = a := by
    intro a
    rw [significant_flatMap]
    constructor
    · rintro ⟨log, hlog, ha⟩
      obtain ⟨pair, hpair, rfl⟩ := List.mem_map.1 hlog
      obtain ⟨r, hr, hpair⟩ := List.mem_flatMap.1 hpair
      rw [(hfiled r hr).subjects pair hpair] at ha
      exact ⟨r, hr, List.ne_nil_of_mem hpair, Option.some.inj ha⟩
    · rintro ⟨r, hr, hne, rfl⟩
      obtain ⟨pair, hpair⟩ := List.exists_mem_of_ne_nil _ hne
      exact ⟨received pair, List.mem_map_of_mem (List.mem_flatMap.2 ⟨r, hr, hpair⟩),
        (hfiled r hr).subjects pair hpair⟩
  refine ⟨outcomes, decodeSweepOutcomes_significant .. ▸ hok, fun x hx => ?_, fun r hr found => ?_⟩
  · have hfind : (outcomes.find? x.1).map Prod.snd = some x.2 := by
      rw [Table.find?_of_mem hx]
      rfl
    obtain ⟨r, hr, -, hra⟩ := (hsubject x.1).1 ((decodeSweepOutcomes_iff hok).1 hfind).1
    exact ⟨r, hr, hra.symm⟩
  · -- what is found is what was expected, and a run did one thing
    have hexpected : (outcomes.find? (r.address B)).map Prod.snd = expected r := by
      refine Option.ext fun outcome => ?_
      rw [decodeSweepOutcomes_iff hok, hsubject, hevents r hr]
      constructor
      · rintro ⟨⟨r', hr', hne, haddress⟩, hresolve⟩
        obtain rfl := List.inj_on_of_nodup_map hdistinct hr' hr haddress
        obtain ⟨outcome', hfound⟩ := Option.ne_none_iff_exists'.1 fun hnone =>
          hne ((hfiled r' hr).empty.2 hnone)
        rw [(hfiled r' hr).resolved outcome' hfound] at hresolve
        rw [hfound, Except.ok.inj hresolve]
      · intro hfound
        refine ⟨⟨r, hr, fun hnil => ?_, rfl⟩, (hfiled r hr).resolved outcome hfound⟩
        rw [(hfiled r hr).empty.1 hnil] at hfound
        cases hfound
    rw [hexpected]
    exact ⟨fun h => h ▸ (hended r hr).did, fun h => (hended r hr).did.unique h⟩

/-- A call that reverts leaves nothing behind. -/
lemma sweepItem_reverted (h : (sweepItem B c w sweep).reverted ≠ none) :
    (sweepItem B c w sweep).after = (sweepItem B c w sweep).before ∧
      (sweepItem B c w sweep).transfers = [] := by
  obtain ⟨found, hended⟩ := sweepItem_ended B c w sweep
  generalize significant (sweepItem B c w sweep).logs = logs at hended
  cases hended with
  | paid amount h' | overpaid amount remainder h' | returned amount h' | collected amount h'
  | collectedNothing h' | wrongChain h' => exact absurd h'.1 h
  | failed data h' => exact h'.2

/-- The logs of a batch are decoded, in every order, to one outcome for every item that was not
deployed on a chain other than its own, and the outcome says what the item did; an item that
reverted moved nothing.  In whatever order logs are read, they are decoded to the same outcomes, or
not at all. -/
theorem decoded_outcomes_agree_with_the_batch (B : Block) (conditions : ℕ → Conditions) (w : World)
    (sweeps : List SweepRequest) (hdistinct : (sweeps.map B.paymentAddress).Nodup) (txHash : Hash) :
    (executeBatch B conditions w sweeps).map ItemRun.sweep = sweeps ∧
    (∀ logs : List RpcLog, (logs.map emitted).Perm (logsOf (executeBatch B conditions w sweeps)) →
      ∃ outcomes, decodeSweepOutcomes logs B.batchSweeper txHash = .ok outcomes ∧
        (∀ x ∈ outcomes.rows, ∃ r ∈ executeBatch B conditions w sweeps, x.1 = r.address B) ∧
        ∀ r ∈ executeBatch B conditions w sweeps, ∀ found,
          (outcomes.find? (r.address B)).map Prod.snd = found ↔ r.Did B found) ∧
    (∀ r ∈ executeBatch B conditions w sweeps, r.reverted ≠ none → r.after = r.before ∧ r.transfers = []) ∧
    ∀ logs logs' : List RpcLog, logs.Perm logs' →
      (∃ outcomes outcomes', decodeSweepOutcomes logs B.batchSweeper txHash = .ok outcomes ∧
        decodeSweepOutcomes logs' B.batchSweeper txHash = .ok outcomes' ∧
        ∀ a, (outcomes'.find? a).map Prod.snd = (outcomes.find? a).map Prod.snd) ∨
      ∃ text text', decodeSweepOutcomes logs B.batchSweeper txHash = .error (.transient text) ∧
        decodeSweepOutcomes logs' B.batchSweeper txHash = .error (.transient text') := by
  have hsweeps := map_sweep_executeBatchFrom B conditions 0 w sweeps
  have hruns : ∀ r ∈ executeBatch B conditions w sweeps, ∃ c w' sweep, r = sweepItem B c w' sweep :=
    fun r hr => mem_executeBatchFrom hr
  have haddresses : ((executeBatch B conditions w sweeps).map (ItemRun.address B)).Nodup := by
    have hmap : ((executeBatch B conditions w sweeps).map ItemRun.sweep).map B.paymentAddress =
        sweeps.map B.paymentAddress := congrArg (List.map B.paymentAddress) hsweeps
    rw [List.map_map] at hmap
    exact hmap ▸ hdistinct
  refine ⟨hsweeps, fun logs hperm => ?_, fun r hr hreverted => ?_, fun logs logs' hperm => ?_⟩
  · obtain ⟨outcomes, hok, hrows, hfind⟩ := decode_runs B haddresses (fun r hr => by
      obtain ⟨c, w', sweep, rfl⟩ := hruns r hr
      exact sweepItem_ended B c w' sweep) txHash
    obtain ⟨outcomes', hok', hsame⟩ := decodeSweepOutcomes_perm (hperm.symm.map received) hok
    rw [decodeSweepOutcomes_received] at hok'
    refine ⟨outcomes', hok', fun x hx => ?_, fun r hr found => ?_⟩
    · have hx' := hsame x.1
      rw [Table.find?_of_mem hx, Option.map_some] at hx'
      obtain ⟨y, hy, -⟩ := Option.map_eq_some_iff.1 hx'.symm
      obtain ⟨r, hr, hra⟩ := hrows y (Table.mem_of_find? hy)
      exact ⟨r, hr, (Table.key_of_find? hy).symm.trans hra⟩
    · rw [hsame]
      exact hfind r hr found
  · obtain ⟨c, w', sweep, rfl⟩ := hruns r hr
    exact sweepItem_reverted hreverted
  · cases hdecode : decodeSweepOutcomes logs B.batchSweeper txHash with
    | ok outcomes =>
      obtain ⟨outcomes', hok', hsame⟩ := decodeSweepOutcomes_perm hperm hdecode
      exact Or.inl ⟨outcomes, outcomes', rfl, hok', hsame⟩
    | error e =>
      obtain ⟨text, rfl⟩ := decodeSweepOutcomes_error hdecode
      cases hdecode' : decodeSweepOutcomes logs' B.batchSweeper txHash with
      | ok outcomes' =>
        obtain ⟨outcomes, hok, -⟩ := decodeSweepOutcomes_perm hperm.symm hdecode'
        rw [hdecode] at hok
        cases hok
      | error e' =>
        obtain ⟨text', rfl⟩ := decodeSweepOutcomes_error hdecode'
        exact Or.inr ⟨text, text', rfl, rfl⟩

end

/-! ### A batch of two items, and one on another chain -/

/-- Block 100 of chain 1. -/
def sampleBlock : Block where
  chainId := 1
  timestamp := 100
  batchSweeper := 0
  paymentAddress sweep := sweep.salt + 1
  paymentAddress_ne sweep := Nat.succ_ne_zero sweep.salt

/-- Nothing is refused. -/
def calm : Conditions where
  fails := false
  refuses _ := false
  transferLogs t := [(t.token, .other)]
  transferLogs_other t log hlog := by rw [List.mem_singleton.1 hlog]
  revertData := []

/-- Token 20 holds 70 at address 8, and 5 at address 9 which has its contract. -/
def sampleWorld : World where
  balance token holder := if token = 20 ∧ holder = 8 then 70 else if token = 20 ∧ holder = 9 then 5 else 0
  payments address := if address = 9 then some ⟨60, true⟩ else none

def sampleSweeps : List SweepRequest := [⟨20, 50, 30, 1000, 60, 7, 1⟩, ⟨20, 50, 30, 1000, 60, 8, 1⟩]

/-- The first item is paid with a remainder of 20, and the late 5 of the second is collected. -/
theorem decoded_outcomes_agree_with_the_batch_sampleSweeps : ∃ outcomes,
    decodeSweepOutcomes ((logsOf (executeBatch sampleBlock (fun _ => calm) sampleWorld sampleSweeps)).map
      received) 0 77 = .ok outcomes ∧
    ∀ r ∈ executeBatch sampleBlock (fun _ => calm) sampleWorld sampleSweeps, ∀ found,
      (outcomes.find? (r.address sampleBlock)).map Prod.snd = found ↔ r.Did sampleBlock found := by
  have h := (decoded_outcomes_agree_with_the_batch sampleBlock (fun _ => calm) sampleWorld sampleSweeps
    (by decide) 77).2.1
  obtain ⟨outcomes, hok, -, hfind⟩ := h ((logsOf (executeBatch sampleBlock (fun _ => calm) sampleWorld
    sampleSweeps)).map received) (by
      rw [List.map_map, show emitted ∘ received = fun log => log from rfl, List.map_id'])
  exact ⟨outcomes, hok, hfind⟩

/-- The contract of an item that commits to chain 2 is deployed on chain 1: nothing is found for the
item. -/
lemma an_item_on_another_chain_has_no_outcome : ∃ outcomes,
    decodeSweepOutcomes ((logsOf (executeBatch sampleBlock (fun _ => calm) sampleWorld
      [⟨20, 50, 30, 1000, 60, 7, 2⟩])).map received) 0 77 = .ok outcomes ∧
    ¬ ∃ outcome, (outcomes.find? 8).map Prod.snd = some outcome := by
  refine ⟨Table.empty, rfl, ?_⟩
  rintro ⟨outcome, h⟩
  cases h

/-- A contract reports its settlement twice. -/
def reportedTwice (address : Address) : List RpcLog := List.replicate 2 (received (address, .settled (.ok 50)))

/-- Logs that are refused in two orders are refused for the repetition that comes first. -/
lemma refusal_names_the_first_repetition :
    ¬ ∀ logs logs' : List RpcLog, logs.Perm logs' →
      decodeSweepOutcomes logs 0 77 = decodeSweepOutcomes logs' 0 77 := by
  intro hclaim
  have hsame := hclaim (reportedTwice 8 ++ reportedTwice 9) (reportedTwice 9 ++ reportedTwice 8)
    List.perm_append_comm
  have hfirst : decodeSweepOutcomes (reportedTwice 8 ++ reportedTwice 9) 0 77 =
      .error (duplicateEvent 77 "Settled" 8) := rfl
  have hsecond : decodeSweepOutcomes (reportedTwice 9 ++ reportedTwice 8) 0 77 =
      .error (duplicateEvent 77 "Settled" 9) := rfl
  rw [hfirst, hsecond] at hsame
  have htext : duplicateEvent 77 "Settled" 8 ≠ duplicateEvent 77 "Settled" 9 := by decide
  exact htext (Except.error.inj hsame)

/-- An item can be without an outcome, and the text of a refusal depends on the order of the logs. -/
theorem batch_outcomes_miss_an_item_and_errors_differ :
    (∃ outcomes, decodeSweepOutcomes ((logsOf (executeBatch sampleBlock (fun _ => calm) sampleWorld
        [⟨20, 50, 30, 1000, 60, 7, 2⟩])).map received) 0 77 = .ok outcomes ∧
      ¬ ∃ outcome, (outcomes.find? 8).map Prod.snd = some outcome) ∧
    ¬ ∀ logs logs' : List RpcLog, logs.Perm logs' →
      decodeSweepOutcomes logs 0 77 = decodeSweepOutcomes logs' 0 77 :=
  ⟨an_item_on_another_chain_has_no_outcome, refusal_names_the_first_repetition⟩

end Payday.Batch
