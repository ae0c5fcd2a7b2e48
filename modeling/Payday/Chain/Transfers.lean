/-
# Reading transfers

`token_transfers` of `gum-chain/src/lib.rs`: the `Transfer` logs of the configured tokens to the
watched addresses in a block range.  The addresses are asked for in chunks, block timestamps
that the node leaves out are read from headers, and every log is checked before it is used.
`mem_tokenTransfers` says what a complete provider makes of it: exactly the transfers that
match.
-/
import Payday.Chain.Logs
import Payday.Lib.Checks

namespace Payday

/-- A `Transfer` log, as the provider returns it. -/
structure TransferLog where
  address : Address
  removed : Bool
  /-- Sender and recipient, when the topics are those of a `Transfer`. -/
  topics : Option (Address × Address)
  /-- The amount, when the data is one word. -/
  amount : Option ℕ
  blockNumber : Option ℕ
  blockHash : Option Hash
  blockTimestamp : Option ℕ
  transactionHash : Option Hash
  transactionIndex : Option ℕ
  logIndex : Option ℕ

/-- Recipients per `eth_getLogs` call. -/
def LOG_FILTER_CHUNK : ℕ := 500

/-- `get_logs(tokens, from_block, to_block, recipients)`. -/
abbrev GetLogs := List Address → ℕ → ℕ → List Address → Except ChainError (List TransferLog)

/-- One call for every chunk of the recipients. -/
def transferLogs (getLogs : GetLogs) (tokens : List Address) (fromBlock toBlock : ℕ)
    (recipients : List Address) : Except ChainError (List TransferLog) :=
  match recipients with
  | [] => .ok []
  | r :: rest =>
    match getLogs tokens fromBlock toBlock ((r :: rest).take LOG_FILTER_CHUNK),
      transferLogs getLogs tokens fromBlock toBlock ((r :: rest).drop LOG_FILTER_CHUNK) with
    | .error e, _ => .error e
    | _, .error e => .error e
    | .ok logs, .ok others => .ok (logs ++ others)
termination_by recipients.length
decreasing_by
  rw [List.length_drop, LOG_FILTER_CHUNK, List.length_cons]
  omega

/-- Timestamps by block. -/
abbrev Timestamps := Table (Prod.fst : ℕ × ℕ → ℕ)

/-- The header reads for the logs that carry no timestamp, one for each block. -/
def readTimestamps (blockHeader : ℕ → Except ChainError BlockHeader) :
    List TransferLog → Timestamps → Except ChainError Timestamps
  | [], timestamps => .ok timestamps
  | log :: rest, timestamps =>
    match log.blockTimestamp, log.blockNumber with
    | none, some number =>
      if (timestamps.find? number).isSome then readTimestamps blockHeader rest timestamps
      else
        match blockHeader number with
        | .error e => .error e
        | .ok header =>
          readTimestamps blockHeader rest (timestamps.upsert (number, header.timestamp))
    | _, _ => readTimestamps blockHeader rest timestamps

/-- `value.ok_or_else(|| ChainError::Transient(message))`. -/
def orTransient {α : Type} (value : Option α) (message : String) : Except ChainError α :=
  match value with
  | some x => .ok x
  | none => .error (.transient message)

/-- The checks on one log. -/
def watchedTransfer (tokens : List Address) (fromBlock toBlock : ℕ) (recipients : List Address)
    (timestamps : Timestamps) (log : TransferLog) : Except ChainError PaymentObservation := do
  let (sender, recipient) ← orTransient
    (log.topics.filter (fun _ => tokens.contains log.address && !log.removed))
    "RPC returned a malformed Transfer log"
  let amount ← orTransient log.amount "RPC returned a Transfer with invalid amount data"
  let blockNumber ← orTransient log.blockNumber "log missing block number"
  if ¬ (fromBlock ≤ blockNumber ∧ blockNumber ≤ toBlock) then
    throw (.transient s!"RPC returned a log from block {blockNumber} outside requested range {fromBlock}..={toBlock}")
  if recipient ∉ recipients then
    throw (.transient "RPC returned a Transfer outside the requested recipient filter")
  let blockHash ← orTransient log.blockHash "log missing block hash"
  let blockTimestamp ← orTransient
    (log.blockTimestamp.or ((timestamps.find? blockNumber).map Prod.snd))
    "log missing block timestamp"
  let transactionHash ← orTransient log.transactionHash "log missing transaction hash"
  let transactionIndex ← orTransient log.transactionIndex "log missing transaction index"
  let logIndex ← orTransient log.logIndex "log missing log index"
  return ⟨log.address, blockNumber, blockHash, blockTimestamp, transactionHash, transactionIndex,
    logIndex, sender, recipient, amount⟩

/-- `token_transfers`. -/
def tokenTransfers (getLogs : GetLogs) (blockHeader : ℕ → Except ChainError BlockHeader)
    (tokens : List Address) (fromBlock toBlock : ℕ) (recipients : List Address) :
    Except ChainError (List PaymentObservation) := do
  let logs ← transferLogs getLogs tokens fromBlock toBlock recipients
  let timestamps ← readTimestamps blockHeader logs Table.empty
  logs.mapM (watchedTransfer tokens fromBlock toBlock recipients timestamps)

/-! ### What a complete provider makes of it -/

lemma orTransient_eq_ok {α : Type} {value : Option α} {message : String} {x : α}
    (h : orTransient value message = .ok x) : value = some x := by
  cases value with
  | none => cases h
  | some y => rw [Except.ok.inj h]

/-- The log is the transfer's; its timestamp may have to be read from the header. -/
structure TransferLog.Reports (blockHeader : ℕ → Except ChainError BlockHeader) (l : TransferLog)
    (o : PaymentObservation) : Prop where
  address : l.address = o.token
  topics : l.topics = some (o.sender, o.recipient)
  amount : l.amount = some o.amount
  blockNumber : l.blockNumber = some o.blockNumber
  blockHash : l.blockHash = some o.blockHash
  blockTimestamp : l.blockTimestamp = some o.blockTimestamp ∨ l.blockTimestamp = none ∧
    ∀ header, blockHeader o.blockNumber = .ok header → header.timestamp = o.blockTimestamp
  transactionHash : l.transactionHash = some o.transactionHash
  transactionIndex : l.transactionIndex = some o.transactionIndex
  logIndex : l.logIndex = some o.logIndex

/-- Every timestamp was read from its block's header. -/
def Timestamps.ReadFrom (timestamps : Timestamps) (blockHeader : ℕ → Except ChainError BlockHeader) :
    Prop :=
  ∀ number t, timestamps.find? number = some t → ∃ header, blockHeader number = .ok header ∧
    header.timestamp = t.2

lemma readTimestamps_readFrom {blockHeader : ℕ → Except ChainError BlockHeader}
    {logs : List TransferLog} {timestamps timestamps' : Timestamps}
    (h : readTimestamps blockHeader logs timestamps = .ok timestamps')
    (hread : timestamps.ReadFrom blockHeader) : timestamps'.ReadFrom blockHeader := by
  induction logs generalizing timestamps with
  | nil =>
    obtain rfl := Except.ok.inj h
    exact hread
  | cons log rest ih =>
    unfold readTimestamps at h
    split at h
    · split at h
      · exact ih h hread
      · split at h
        · cases h
        · rename_i number _ _ _ header hheader
          refine ih h fun number' t ht => ?_
          rw [Table.find?_upsert] at ht
          split at ht
          · rename_i hsame
            obtain rfl := Option.some.inj ht
            exact ⟨header, hsame ▸ hheader, rfl⟩
          · exact hread number' t ht
    · exact ih h hread

/-- A log that passes the checks becomes the transfer it reports, and matches the filter. -/
lemma watchedTransfer_eq_ok {blockHeader : ℕ → Except ChainError BlockHeader} {tokens : List Address}
    {fromBlock toBlock : ℕ} {recipients : List Address} {timestamps : Timestamps} {l : TransferLog}
    {o o' : PaymentObservation} (hread : timestamps.ReadFrom blockHeader)
    (h : watchedTransfer tokens fromBlock toBlock recipients timestamps l = .ok o')
    (hl : l.Reports blockHeader o) :
    o' = o ∧ o.token ∈ tokens ∧ (fromBlock ≤ o.blockNumber ∧ o.blockNumber ≤ toBlock) ∧
      o.recipient ∈ recipients := by
  unfold watchedTransfer at h
  obtain ⟨⟨sender, recipient⟩, htopics, h⟩ := bind_eq_ok.1 h
  obtain ⟨htopics, hfilter⟩ := Option.filter_eq_some_iff.1 (orTransient_eq_ok htopics)
  obtain ⟨amount, hamount, h⟩ := bind_eq_ok.1 h
  obtain ⟨number, hnumber, h⟩ := bind_eq_ok.1 h
  simp only at h
  split at h
  · cases h
  · rename_i hrange
    split at h
    · cases h
    · rename_i hrecipient
      obtain ⟨blockHash, hhash, h⟩ := bind_eq_ok.1 h
      obtain ⟨timestamp, htimestamp, h⟩ := bind_eq_ok.1 h
      obtain ⟨transactionHash, htx, h⟩ := bind_eq_ok.1 h
      obtain ⟨transactionIndex, hindex, h⟩ := bind_eq_ok.1 h
      obtain ⟨logIndex, hlog, h⟩ := bind_eq_ok.1 h
      obtain rfl := Except.ok.inj h
      -- every column is the reported one
      obtain ⟨rfl, rfl⟩ := Prod.mk.inj (Option.some.inj (htopics.symm.trans hl.topics))
      obtain rfl := Option.some.inj ((orTransient_eq_ok hamount).symm.trans hl.amount)
      obtain rfl := Option.some.inj ((orTransient_eq_ok hnumber).symm.trans hl.blockNumber)
      obtain rfl := Option.some.inj ((orTransient_eq_ok hhash).symm.trans hl.blockHash)
      obtain rfl := Option.some.inj ((orTransient_eq_ok htx).symm.trans hl.transactionHash)
      obtain rfl := Option.some.inj ((orTransient_eq_ok hindex).symm.trans hl.transactionIndex)
      obtain rfl := Option.some.inj ((orTransient_eq_ok hlog).symm.trans hl.logIndex)
      have htime : timestamp = o.blockTimestamp := by
        have hor := orTransient_eq_ok htimestamp
        rcases hl.blockTimestamp with hsome | ⟨hnone, hheader⟩
        · rw [hsome, Option.some_or] at hor
          exact (Option.some.inj hor).symm
        · rw [hnone, Option.none_or] at hor
          obtain ⟨t, ht, rfl⟩ := Option.map_eq_some_iff.1 hor
          obtain ⟨header, hfound, htime⟩ := hread _ t ht
          rw [← htime]
          exact hheader header hfound
      obtain ⟨htoken, -⟩ := Bool.and_eq_true_iff.1 hfilter
      rw [hl.address] at htoken
      refine ⟨by rw [htime, hl.address], by simpa using htoken, not_not.1 hrange, not_not.1 hrecipient⟩

/-- What the calls for the chunks return together. -/
lemma mem_transferLogs {getLogs : GetLogs} {tokens : List Address} {fromBlock toBlock : ℕ}
    {recipients : List Address} {logs : List TransferLog}
    (h : transferLogs getLogs tokens fromBlock toBlock recipients = .ok logs) :
    (∀ l ∈ logs, ∃ chunk answer, getLogs tokens fromBlock toBlock chunk = .ok answer ∧ l ∈ answer) ∧
      ∀ r ∈ recipients, ∃ chunk answer, r ∈ chunk ∧
        getLogs tokens fromBlock toBlock chunk = .ok answer ∧ ∀ l ∈ answer, l ∈ logs := by
  induction hn : recipients.length using Nat.strong_induction_on generalizing recipients logs with
  | _ n ih =>
    unfold transferLogs at h
    split at h
    · obtain rfl := Except.ok.inj h
      exact ⟨by simp, by simp⟩
    · rename_i r rest
      split at h
      · cases h
      · cases h
      · rename_i answer others hanswer hothers
        obtain rfl := Except.ok.inj h
        have hlt : ((r :: rest).drop LOG_FILTER_CHUNK).length < n := by
          rw [← hn, List.length_drop, LOG_FILTER_CHUNK, List.length_cons]
          omega
        obtain ⟨hfrom, hall⟩ := ih _ hlt hothers rfl
        refine ⟨fun l hl => ?_, fun r' hr' => ?_⟩
        · rcases List.mem_append.1 hl with hfirst | hlater
          · exact ⟨_, answer, hanswer, hfirst⟩
          · exact hfrom l hlater
        · rw [← List.take_append_drop LOG_FILTER_CHUNK (r :: rest)] at hr'
          rcases List.mem_append.1 hr' with hfirst | hlater
          · exact ⟨_, answer, hfirst, hanswer, fun l hl => List.mem_append_left _ hl⟩
          · obtain ⟨chunk, answer', hmem, hanswer', hsub⟩ := hall r' hlater
            exact ⟨chunk, answer', hmem, hanswer', fun l hl => List.mem_append_right _ (hsub l hl)⟩

/-- What a provider returns of a range up to the final block is exactly what happened there. -/
structure GetLogs.Complete (getLogs : GetLogs) (blockHeader : ℕ → Except ChainError BlockHeader)
    (transfers : List PaymentObservation) (finalized : ℕ) : Prop where
  complete : ∀ tokens a b recipients answer, b ≤ finalized →
    getLogs tokens a b recipients = .ok answer → ∀ o ∈ transfers, o.token ∈ tokens →
      a ≤ o.blockNumber → o.blockNumber ≤ b → o.recipient ∈ recipients →
        ∃ l ∈ answer, l.Reports blockHeader o
  reports : ∀ tokens a b recipients answer, b ≤ finalized →
    getLogs tokens a b recipients = .ok answer → ∀ l ∈ answer, ∃ o ∈ transfers,
      l.Reports blockHeader o

/-- The transfers that are read are those that match. -/
lemma mem_tokenTransfers {getLogs : GetLogs} {blockHeader : ℕ → Except ChainError BlockHeader}
    {transfers : List PaymentObservation} {finalized : ℕ}
    (hc : getLogs.Complete blockHeader transfers finalized) {tokens : List Address}
    {fromBlock toBlock : ℕ} {recipients : List Address} {result : List PaymentObservation}
    (hto : toBlock ≤ finalized)
    (h : tokenTransfers getLogs blockHeader tokens fromBlock toBlock recipients = .ok result)
    {o : PaymentObservation} :
    o ∈ result ↔ o ∈ transfers ∧ o.token ∈ tokens ∧
      (fromBlock ≤ o.blockNumber ∧ o.blockNumber ≤ toBlock) ∧ o.recipient ∈ recipients := by
  unfold tokenTransfers at h
  obtain ⟨logs, hlogs, h⟩ := bind_eq_ok.1 h
  obtain ⟨timestamps, htimestamps, h⟩ := bind_eq_ok.1 h
  have hread := readTimestamps_readFrom htimestamps (fun number t ht => by simp at ht)
  obtain ⟨hfrom, hall⟩ := mem_transferLogs hlogs
  constructor
  · intro ho
    obtain ⟨l, hl, hcheck⟩ := exists_of_mem_mapM h ho
    obtain ⟨chunk, answer, hanswer, hmem⟩ := hfrom l hl
    obtain ⟨o', ho', hreports⟩ := hc.reports _ _ _ _ _ hto hanswer l hmem
    obtain ⟨rfl, hmatch⟩ := watchedTransfer_eq_ok hread hcheck hreports
    exact ⟨ho', hmatch⟩
  · rintro ⟨ho, htoken, ⟨hlo, hhi⟩, hrecipient⟩
    obtain ⟨chunk, answer, hmem, hanswer, hsub⟩ := hall _ hrecipient
    obtain ⟨l, hl, hreports⟩ := hc.complete _ _ _ _ _ hto hanswer o ho htoken hlo hhi hmem
    obtain ⟨o', ho', hcheck⟩ := exists_mem_mapM h (hsub l hl)
    obtain ⟨rfl, -⟩ := watchedTransfer_eq_ok hread hcheck hreports
    exact ho'

end Payday
