/-
# The cache of proofs

`get_proof` keeps the proofs it has served in the memory of the server, and answers from there as long
as the request is fulfilled: its comment says that a fulfilled invoice and its proof inputs are immutable.
A server is the database, which everybody writes, with the cache of one process, which its own reads
fill.

From the moment a proof can be served, a run that leaves its inputs (`Undisturbed`) leaves the proof:
it is built again as it was, and so the cache is never stale.  The transactions of the service do not
all leave them: a range that lags behind the settlement and a fill that resolves late both change what
is built, and the cache goes on answering with what was.
-/
import Payday.Proofs.Immutable
import Payday.Proofs.Verifies

namespace Payday.Proofs

open Verification (Outside AccountId)

/-! ### The server -/

/-- An entry of `proof_cache`. -/
structure CachedProof where
  accountId : AccountId
  invoiceId : InvoiceId
  attestor : Address
  proof : ProofOfPayment

/-- `ProofCacheKey`. -/
def CachedProof.key (entry : CachedProof) : AccountId × InvoiceId × Address :=
  (entry.accountId, entry.invoiceId, entry.attestor)

structure Server where
  database : Database
  proofCache : Table CachedProof.key

/-- A server that has just started, on an empty database. -/
def Server.start : Server := ⟨.empty, .empty⟩

namespace Server

variable (s : Server)

/-- `AppState::cached_proof`. -/
def cachedProof (accountId : AccountId) (invoiceId : InvoiceId) (attestor : Address) : Option ProofOfPayment :=
  (s.proofCache.find? (accountId, invoiceId, attestor)).map (·.proof)

/-- `AppState::cache_proof`: a full cache is emptied first. -/
def cacheProof (accountId : AccountId) (invoiceId : InvoiceId) (attestor : Address) (proof : ProofOfPayment) :
    Server :=
  let kept := if 1024 ≤ s.proofCache.rows.length then Table.empty else s.proofCache
  { s with proofCache := kept.upsert ⟨accountId, invoiceId, attestor, proof⟩ }

end Server

variable (P : Primitives) (O : Outside)

/-- The checks `get_proof` makes before it looks into the cache. -/
def Database.checkSettled (D : Database) (accountId : AccountId) (id : InvoiceId) : Except GetProofError Unit := do
  require (O.accountOf id = accountId) .depositRequestNotFound
  let row ← orError .depositRequestNotFound (D.store.ledger.invoices.find? id)
  let document ← orError .depositRequestNotFound (D.documents.find? id)
  require (row.status = .fulfilled) (.refused .depositRequestNotSettled)
  let _ ← orError (.refused .depositRequestNotSettled) row.settlementTxHash
  let _ ← orError (.refused (.internal "fulfilled invoice has no payer wallet binding"))
    (document.decode P row).binding
  return

/-- `get_proof`: the answer, and the server with the proof in its cache. -/
def Server.getProof (s : Server) (attestor : Attestor) (accountId : AccountId) (id : InvoiceId) :
    Except GetProofError ProofOfPayment × Server :=
  match s.database.checkSettled P O accountId id with
  | .error e => (.error e, s)
  | .ok () =>
    match s.cachedProof accountId id attestor.address with
    | some proof => (.ok proof, s)
    | none =>
      match s.database.getProof P O attestor accountId id with
      | .error e => (.error e, s)
      | .ok proof => (.ok proof, s.cacheProof accountId id attestor.address proof)

/-- Somebody writes the database, or the server is asked for a proof. -/
inductive ServerStep
  | write (dbNow : Time) (action : Action)
  | read (attestor : Attestor) (accountId : AccountId) (id : InvoiceId)

namespace Server

def step (s : Server) : ServerStep → Server
  | .write dbNow action => { s with database := s.database.step P O dbNow action }
  | .read attestor accountId id => (s.getProof P O attestor accountId id).2

/-- The server after a run. -/
def run (s : Server) (steps : List ServerStep) : Server := steps.foldl (Server.step P O) s

@[simp] lemma run_nil (s : Server) : s.run P O [] = s := rfl

@[simp] lemma run_cons (s : Server) (step : ServerStep) (steps : List ServerStep) :
    s.run P O (step :: steps) = (s.step P O step).run P O steps := rfl

lemma run_append (s : Server) (steps more : List ServerStep) :
    s.run P O (steps ++ more) = (s.run P O steps).run P O more := by
  simp [run]

end Server

/-! ### The conditions on a run -/

/-- No receipt of the run collects the open request without a described settlement. -/
def SettlementDescribed (id : InvoiceId) : Database → List ServerStep → Prop
  | _, [] => True
  | D, .read .. :: steps => SettlementDescribed id D steps
  | D, .write dbNow action :: steps =>
    action.DescribesSettlement D dbNow id ∧ SettlementDescribed id (D.step P O dbNow action) steps

/-- Every transaction of the run leaves the inputs of the request's proof, or is refused. -/
def Undisturbed (accountId : AccountId) (id : InvoiceId) : Database → List ServerStep → Prop
  | _, [] => True
  | D, .read .. :: steps => Undisturbed accountId id D steps
  | D, .write dbNow action :: steps =>
    action.LeavesProof P O D dbNow accountId id ∧ Undisturbed accountId id (D.step P O dbNow action) steps

/-! ### What the cache holds -/

variable {P O} {s : Server} {attestor : Attestor} {accountId : AccountId} {id : InvoiceId} {proof : ProofOfPayment}

/-- A proof is looked up after it was put in, and the others are as they were or gone. -/
lemma Server.cachedProof_cacheProof {accountId' : AccountId} {id' : InvoiceId} {address address' : Address}
    {cached : ProofOfPayment}
    (h : (s.cacheProof accountId' id' address' proof).cachedProof accountId id address = some cached) :
    (accountId = accountId' ∧ id = id' ∧ address = address' ∧ cached = proof) ∨
      s.cachedProof accountId id address = some cached := by
  simp only [Server.cachedProof, Server.cacheProof] at h
  rw [Table.find?_upsert] at h
  split at h
  · rename_i hkey
    obtain ⟨rfl, hrest⟩ := Prod.mk.inj hkey
    obtain ⟨rfl, rfl⟩ := Prod.mk.inj hrest
    exact Or.inl ⟨rfl, rfl, rfl, (Option.some.inj h).symm⟩
  · right
    split at h
    · cases h
    · exact h

/-- A proof that is built passed the checks before the cache. -/
lemma Database.checkSettled_of_getProof {D : Database} (h : D.getProof P O attestor accountId id = .ok proof) :
    D.checkSettled P O accountId id = .ok () := by
  obtain ⟨haccount, row, hrow, document, hdocument, hbuilt⟩ := (Database.getProof_eq_ok P O).1 h
  obtain ⟨hash, binding, bytes, hstatus, hhash, hbinding, -⟩ := Proofs.getProof_eq_ok.1 hbuilt
  simp only [Database.checkSettled, require_bind_eq_ok, orError_bind_eq_ok]
  exact ⟨haccount, row, hrow, document, hdocument, hstatus, hash, hhash, binding, hbinding, rfl⟩

/-- What a read puts into the cache was just built. -/
lemma Server.getProof_cases (s : Server) (attestor : Attestor) (accountId : AccountId) (id : InvoiceId) :
    (s.getProof P O attestor accountId id).2 = s ∨
      ∃ proof, s.database.getProof P O attestor accountId id = .ok proof ∧
        (s.getProof P O attestor accountId id).2 = s.cacheProof accountId id attestor.address proof := by
  unfold Server.getProof
  split
  · exact Or.inl rfl
  · split
    · exact Or.inl rfl
    · split
      · exact Or.inl rfl
      · rename_i proof hbuilt
        exact Or.inr ⟨proof, hbuilt, rfl⟩

@[simp] lemma Server.database_getProof (s : Server) (attestor : Attestor) (accountId : AccountId) (id : InvoiceId) :
    (s.getProof P O attestor accountId id).2.database = s.database := by
  rcases s.getProof_cases (P := P) (O := O) attestor accountId id with hsame | ⟨proof, -, hcached⟩
  · rw [hsame]
  · rw [hcached]
    rfl

/-- The answer is the proof of the cache, or it is built. -/
lemma Server.getProof_answer (h : s.database.getProof P O attestor accountId id = .ok proof) :
    (s.getProof P O attestor accountId id).1 =
      .ok ((s.cachedProof accountId id attestor.address).getD proof) := by
  unfold Server.getProof
  rw [Database.checkSettled_of_getProof h, h]
  rcases s.cachedProof accountId id attestor.address with _ | cached <;> rfl

/-! ### The proof is kept -/

/-- The request's proof is built as `proof`, apart from the signature. -/
structure Rebuilds (P : Primitives) (O : Outside) (D : Database) (address : Address) (accountId : AccountId)
    (id : InvoiceId) (proof : ProofOfPayment) : Prop where
  sound : Sound P D
  settles : D.store.ledger.Settles id
  built : ∀ attestor : Attestor, attestor.address = address →
    ∃ again, D.getProof P O attestor accountId id = .ok again ∧ again.unsigned = proof.unsigned

/-- The cache holds no other proof of the request. -/
def Server.Fresh (s : Server) (address : Address) (accountId : AccountId) (id : InvoiceId) (proof : ProofOfPayment) :
    Prop :=
  ∀ cached, s.cachedProof accountId id address = some cached → cached.unsigned = proof.unsigned

variable {address : Address} {dbNow : Time} {action : Action}

/-- A transaction that leaves the proof. -/
lemma Rebuilds.write {D : Database} (h : Rebuilds P O D address accountId id proof)
    (hleaves : action.LeavesProof P O D dbNow accountId id) :
    Rebuilds P O (D.step P O dbNow action) address accountId id proof where
  sound := h.sound.step O dbNow action
  settles := by
    obtain ⟨again, hserved, -⟩ := h.built ⟨address, fun _ => []⟩ rfl
    obtain ⟨-, row, hrow, document, -, hbuilt⟩ := (Database.getProof_eq_ok P O).1 hserved
    obtain ⟨hash, binding, bytes, hstatus, -⟩ := Proofs.getProof_eq_ok.1 hbuilt
    exact Database.step_settles h.sound h.settles O (describesSettlement_of_fulfilled hrow hstatus action)
  built := by
    intro attestor haddress
    obtain ⟨again, hserved, hsame⟩ := h.built attestor haddress
    obtain ⟨again', hserved', hsame'⟩ := Database.getProof_step h.sound h.settles rfl hleaves hserved
    exact ⟨again', hserved', hsame'.trans hsame⟩

/-- A read puts only this proof of the request into the cache. -/
lemma Server.Fresh.read (h : s.Fresh address accountId id proof)
    (hrebuilds : Rebuilds P O s.database address accountId id proof) (attestor : Attestor) (accountId' : AccountId)
    (id' : InvoiceId) : (s.getProof P O attestor accountId' id').2.Fresh address accountId id proof := by
  rcases s.getProof_cases (P := P) (O := O) attestor accountId' id' with hsame | ⟨built, hbuilt, hcached⟩
  · rw [hsame]
    exact h
  · rw [hcached]
    intro cached hfound
    rcases Server.cachedProof_cacheProof hfound with ⟨rfl, rfl, haddress, rfl⟩ | hold
    · -- the entry that was just written
      obtain ⟨again, hserved, hsame⟩ := hrebuilds.built attestor haddress.symm
      obtain rfl := Except.ok.inj (hbuilt.symm.trans hserved)
      exact hsame
    · exact h cached hold

/-- The proof is built again after an undisturbed run. -/
lemma Rebuilds.run {steps : List ServerStep} (h : Rebuilds P O s.database address accountId id proof)
    (hundisturbed : Undisturbed P O accountId id s.database steps) :
    Rebuilds P O (s.run P O steps).database address accountId id proof := by
  induction steps generalizing s with
  | nil => exact h
  | cons step rest ih =>
    cases step with
    | write dbNow action => exact ih (s := s.step P O (.write dbNow action)) (h.write hundisturbed.1) hundisturbed.2
    | read attestor accountId' id' =>
      have hdatabase : (s.step P O (.read attestor accountId' id')).database = s.database := s.database_getProof ..
      exact ih (s := s.step P O (.read attestor accountId' id')) (hdatabase ▸ h) (hdatabase ▸ hundisturbed)

/-- The cache is not stale after an undisturbed run. -/
lemma Server.Fresh.run {steps : List ServerStep} (h : s.Fresh address accountId id proof)
    (hrebuilds : Rebuilds P O s.database address accountId id proof)
    (hundisturbed : Undisturbed P O accountId id s.database steps) :
    (s.run P O steps).Fresh address accountId id proof := by
  induction steps generalizing s with
  | nil => exact h
  | cons step rest ih =>
    cases step with
    | write dbNow action =>
      exact ih (s := s.step P O (.write dbNow action)) h (hrebuilds.write hundisturbed.1) hundisturbed.2
    | read attestor accountId' id' =>
      have hdatabase : (s.step P O (.read attestor accountId' id')).database = s.database := s.database_getProof ..
      exact ih (s := s.step P O (.read attestor accountId' id')) (h.read hrebuilds attestor accountId' id')
        (hdatabase ▸ hrebuilds) (hdatabase ▸ hundisturbed)

/-- The database of a server that has run from an empty one, with the settlement of a request as one transaction. -/
lemma settles_run {steps : List ServerStep} {s : Server} (hsound : Sound P s.database)
    (hsettles : s.database.store.ledger.Settles id) (hdescribed : SettlementDescribed P O id s.database steps) :
    Sound P (s.run P O steps).database ∧ (s.run P O steps).database.store.ledger.Settles id := by
  induction steps generalizing s with
  | nil => exact ⟨hsound, hsettles⟩
  | cons step rest ih =>
    cases step with
    | write dbNow action =>
      exact ih (s := s.step P O (.write dbNow action)) (hsound.step O dbNow action)
        (Database.step_settles hsound hsettles O hdescribed.1) hdescribed.2
    | read attestor accountId' id' =>
      have hdatabase : (s.step P O (.read attestor accountId' id')).database = s.database := s.database_getProof ..
      exact ih (s := s.step P O (.read attestor accountId' id')) (hdatabase ▸ hsound) (hdatabase ▸ hsettles)
        (hdatabase ▸ hdescribed)

/-- If a proof can be served after `steps` and the run `later` leaves its inputs, the proof is built again as it
was, apart from the signature; and from the first time the server is asked for it, so it answers. -/
theorem served_proof_is_kept {attestor attestor' : Attestor} (haddress : attestor'.address = attestor.address)
    (steps later : List ServerStep) (hdescribed : SettlementDescribed P O id .empty steps)
    (hserved : (Server.start.run P O steps).database.getProof P O attestor accountId id = .ok proof)
    (hundisturbed : Undisturbed P O accountId id (Server.start.run P O steps).database later) :
    (∃ again, (Server.start.run P O (steps ++ later)).database.getProof P O attestor' accountId id = .ok again ∧
      again.unsigned = proof.unsigned) ∧
    ((Server.start.run P O steps).cachedProof accountId id attestor.address = none →
      ∃ answer, ((Server.start.run P O (steps ++ later)).getProof P O attestor' accountId id).1 = .ok answer ∧
        answer.unsigned = proof.unsigned) := by
  obtain ⟨hsound, hsettles⟩ := settles_run (s := Server.start) (sound_empty P) (settles_empty id) hdescribed
  have hrebuilds : Rebuilds P O (Server.start.run P O steps).database attestor.address accountId id proof := by
    refine ⟨hsound, hsettles, fun attestor' haddress => ?_⟩
    -- the same inputs, signed by whoever holds the key
    obtain ⟨haccount, row, hrow, document, hdocument, hbuilt⟩ := (Database.getProof_eq_ok P O).1 hserved
    obtain ⟨again, hagain, hsame⟩ := getProof_again attestor' _ haddress (fun _ => rfl) hbuilt
    exact ⟨again, (Database.getProof_eq_ok P O).2 ⟨haccount, row, hrow, document, hdocument, hagain⟩, hsame⟩
  rw [Server.run_append]
  obtain ⟨again, hagain, hsame⟩ := (hrebuilds.run hundisturbed).built attestor' haddress
  refine ⟨⟨again, hagain, hsame⟩, fun hfirst => ?_⟩
  have hfresh : (Server.start.run P O steps).Fresh attestor.address accountId id proof := by
    intro cached hfound
    rw [hfirst] at hfound
    cases hfound
  refine ⟨_, Server.getProof_answer hagain, ?_⟩
  rcases hcached : ((Server.start.run P O steps).run P O later).cachedProof accountId id attestor'.address with
    _ | cached
  · exact hsame
  · rw [haddress] at hcached
    exact hfresh.run hrebuilds hundisturbed cached hcached

/-! ### A range that lags behind -/

/-- A run that only writes. -/
def writes (actions : List (Time × Action)) : List ServerStep := actions.map fun action => .write action.1 action.2

lemma Server.run_writes (s : Server) (actions : List (Time × Action)) :
    s.run P O (writes actions) = { s with database := s.database.run P O actions } := by
  induction actions generalizing s with
  | nil => rfl
  | cons action rest ih => exact ih (s.step P O (.write action.1 action.2))

lemma Server.start_run_writes (actions : List (Time × Action)) :
    Server.start.run P O (writes actions) = ⟨Database.empty.run P O actions, .empty⟩ := Server.run_writes _ actions

/-- Seven units more, in block six. -/
def laterTransfer : PaymentObservation :=
  { shortTransfer with
    blockNumber := 6
    blockHash := 6
    blockTimestamp := 6
    transactionHash := 600
    amount := 7 }

/-- The receipt of a job that settles the request in block eight, with seven units over. -/
def sweptReceipt : FinalizedSweep where
  jobId := 9
  txHash := 8000
  block := 8
  blockHash := 8
  blockTimestamp := 8
  transactionIndex := 0
  items := [⟨7, .settled 7⟩]

lemma laterTransfer_typed : ∀ o ∈ [laterTransfer], o.Typed := by
  intro o ho
  obtain rfl := List.mem_singleton.1 ho
  exact ⟨by decide, by decide, by decide, by decide, by decide, by decide⟩

lemma sweptReceipt_typed : sweptReceipt.Typed := by
  refine ⟨show 8000 < 2 ^ 256 by decide, fun item hitem amount found houtcome => ?_⟩
  obtain rfl := List.mem_singleton.1 hitem
  cases houtcome

lemma sweepJob_plain : (Op.scheduleSweepJob .default 143 9 0 {}).completesVerification = false ∧
    (Op.scheduleSweepJob .default 143 9 0 {}).writesDocument = false ∧
    (Op.scheduleSweepJob .default 143 9 0 {}).Typed := ⟨rfl, rfl, trivial⟩

/-- The indexer has read block five when the request is swept in block eight. -/
def sweptActions : List (Time × Action) :=
  [(1, ledgerAction (.applyFinalizedRange ⟨143, none, 5, 5, 5, [shortTransfer], []⟩) ⟨rfl, rfl, shortTransfer_typed⟩),
    (2, ledgerAction (.scheduleSweepJob .default 143 9 0 {}) sweepJob_plain),
    (3, ledgerAction (.deliver .default (.sweepFinalized sweptReceipt)) ⟨rfl, rfl, sweptReceipt_typed⟩)]

def sweptRun : List (Time × Action) := (0, .issue 0 7 (shortDraft none)) :: sweptActions

/-- It then reads the next three blocks. -/
def laggingRange (observations : List PaymentObservation) (h : ∀ o ∈ observations, o.Typed) : Time × Action :=
  (4, ledgerAction (.applyFinalizedRange ⟨143, some ⟨5, 5, some 5⟩, 8, 8, 8, observations, []⟩) ⟨rfl, rfl, h⟩)

/-- Its settlement is described by the receipt itself. -/
lemma sweptRun_described : SettlementDescribed briefStandIn sampleOutside 7 .empty (writes sweptRun) := by
  refine ⟨fun _ _ h => (by cases h), ?_, ?_, ?_, trivial⟩
  · rintro _ _ ⟨⟩ ⟨⟩ q -
    exact known_of_not_deliver (fun _ _ h => by cases h) q
  · rintro _ _ ⟨⟩ ⟨⟩ q -
    exact known_of_not_deliver (fun _ _ h => by cases h) q
  · rintro _ _ ⟨⟩ ⟨⟩ q hq
    have hknown : ∀ L, SettlementKnown L 3 (.deliver .default (.sweepFinalized sweptReceipt)) := by
      intro L _ item hitem amount houtcome
      obtain rfl := List.mem_singleton.1 hitem
      cases houtcome
    exact (hknown _).event hq

/-- The transfers of the sample request's proof. -/
def servedTransfers (D : Database) : Option (List ProofTransfer) := (served D).toOption.map (·.transfers)

lemma served_of_transfers {D : Database} {n : ℕ} (h : (servedTransfers D).map List.length = some n) :
    ∃ proof, served D = .ok proof ∧ proof.transfers.length = n := by
  simp only [servedTransfers, Option.map_map, Option.map_eq_some_iff, toOption_eq_some] at h
  obtain ⟨proof, hserved, hlength⟩ := h
  exact ⟨proof, hserved, hlength⟩

set_option maxRecDepth 100000 in
lemma sweptRun_transfers : (servedTransfers (Database.empty.run briefStandIn sampleOutside sweptRun)).map
    List.length = some 1 := by
  rw [sweptRun, Database.run_cons, issue_shortDraft]
  decide +kernel

set_option maxRecDepth 100000 in
lemma laggingRun_transfers : (servedTransfers (Database.empty.run briefStandIn sampleOutside
    (sweptRun ++ [laggingRange [laterTransfer] laterTransfer_typed]))).map List.length = some 2 := by
  rw [sweptRun, List.cons_append, Database.run_cons, issue_shortDraft]
  decide +kernel

/-- The request is swept in block eight while the indexer has read block five, and its proof is served.  The next
range credits the transfer of block six: the proof is then built with two transfers, and the server goes on answering
with one. -/
theorem lagging_range_changes_proof : ∃ proof again, proof.unsigned ≠ again.unsigned ∧
    served (Server.start.run briefStandIn sampleOutside (writes sweptRun)).database = .ok proof ∧
    served (Server.start.run briefStandIn sampleOutside (writes sweptRun ++ .read sampleAttestor 3 7 ::
      writes [laggingRange [laterTransfer] laterTransfer_typed])).database = .ok again ∧
    ((Server.start.run briefStandIn sampleOutside (writes sweptRun ++ .read sampleAttestor 3 7 ::
      writes [laggingRange [laterTransfer] laterTransfer_typed])).getProof briefStandIn sampleOutside
        sampleAttestor 3 7).1 = .ok proof := by
  obtain ⟨proof, hserved, hone⟩ := served_of_transfers sweptRun_transfers
  obtain ⟨again, hagain, htwo⟩ := served_of_transfers laggingRun_transfers
  rw [Database.run_append] at hagain
  -- the read puts the first proof into the cache
  have hread : Server.step briefStandIn sampleOutside ⟨Database.empty.run briefStandIn sampleOutside sweptRun, .empty⟩
      (.read sampleAttestor 3 7) = Server.cacheProof ⟨Database.empty.run briefStandIn sampleOutside sweptRun, .empty⟩
        3 7 sampleAttestor.address proof := by
    simp only [Server.step, Server.getProof]
    rw [Database.checkSettled_of_getProof hserved, show Database.getProof briefStandIn sampleOutside
      (Database.empty.run briefStandIn sampleOutside sweptRun) sampleAttestor 3 7 = .ok proof from hserved]
    rfl
  rw [Server.run_append, Server.run_cons, Server.start_run_writes, hread, Server.run_writes]
  refine ⟨proof, again, fun hsame => ?_, hserved, hagain, ?_⟩
  · have htransfers : proof.unsigned.transfers = again.unsigned.transfers := congrArg (·.transfers) hsame
    simp only [ProofOfPayment.unsigned] at htransfers
    rw [htransfers, htwo] at hone
    cases hone
  · exact Server.getProof_answer hagain

/-- Three units that come before the deadline and after the settlement. -/
def lateTransfer : PaymentObservation :=
  { shortTransfer with
    blockNumber := 9
    blockHash := 9
    blockTimestamp := 9
    transactionHash := 900
    amount := 3 }

lemma lateTransfer_typed : ∀ o ∈ [lateTransfer], o.Typed := by
  intro o ho
  obtain rfl := List.mem_singleton.1 ho
  exact ⟨by decide, by decide, by decide, by decide, by decide, by decide⟩

/-- The indexer catches up with the settlement, somebody opens the payment page, and a late transfer arrives. -/
def laterActions : List (Time × Action) :=
  [laggingRange [] (by simp), (5, .commit ⟨.create 1 "token" 7 3600, rfl, trivial⟩),
    (6, ledgerAction (.applyFinalizedRange ⟨143, some ⟨8, 8, some 8⟩, 12, 12, 12, [lateTransfer], []⟩)
      ⟨rfl, rfl, lateTransfer_typed⟩)]

set_option maxRecDepth 100000 in
lemma laterRun_settlementAt : ((Database.empty.run briefStandIn sampleOutside
    (sweptRun ++ laterActions.take 2)).store.ledger.invoices.find? 7).map (·.settlementAt) =
      some (some (position 8 0)) := by
  rw [sweptRun, List.cons_append, Database.run_cons, issue_shortDraft]
  decide +kernel

/-- A transfer that does not come before the settlement is not credited. -/
lemma not_credited_of_settled {credit : InvoiceCredit} {o : PaymentObservation} {p : Position}
    (h : credit.settlementAt = some p) (hpast : ¬ o.position < p) : (credit.disposition o).kind ≠ .credited := by
  have hrefused : credit.accepting o = false := by simp [InvoiceCredit.accepting, h, hpast]
  simp only [InvoiceCredit.disposition, hrefused, Bool.false_eq_true, if_false]
  split_ifs <;> exact fun hcredited => by cases hcredited

/-- What happens after the settlement leaves the proof. -/
lemma laterActions_undisturbed : Undisturbed briefStandIn sampleOutside 3 7
    (Database.empty.run briefStandIn sampleOutside sweptRun) (writes laterActions ++ [.read sampleAttestor 3 7]) := by
  refine ⟨Or.inr fun tx htx row hrow => ?_, Or.inr fun tx htx row hrow => ?_, Or.inr fun tx htx row hrow => ?_, trivial⟩
  · cases htx
    refine ⟨?_, trivial⟩
    rintro _ ⟨⟩ row b hrow hb hchain o ho
    cases ho
  · cases htx
    exact ⟨fun op hop => (by cases hop), trivial⟩
  · cases htx
    refine ⟨?_, trivial⟩
    rintro _ ⟨⟩ row b hrow hb hchain o ho - - -
    obtain rfl := List.mem_singleton.1 ho
    -- block nine is past the settlement's
    obtain ⟨settled, hfound, hat⟩ := Option.map_eq_some_iff.1 laterRun_settlementAt
    rw [Database.run_append] at hfound
    obtain rfl := Option.some.inj (hfound.symm.trans hrow)
    exact not_credited_of_settled hat (by decide)

/-- After the settlement the indexer catches up, the payment page is opened and a late transfer arrives: the server
answers with the proof it served. -/
theorem served_proof_is_kept_sweptRun : ∃ proof answer,
    served (Server.start.run briefStandIn sampleOutside (writes sweptRun)).database = .ok proof ∧
    ((Server.start.run briefStandIn sampleOutside (writes sweptRun ++ .read sampleAttestor 3 7 ::
      (writes laterActions ++ [.read sampleAttestor 3 7]))).getProof briefStandIn sampleOutside sampleAttestor 3 7).1 =
        .ok answer ∧
    answer.unsigned = proof.unsigned := by
  obtain ⟨proof, hserved, -⟩ := served_of_transfers sweptRun_transfers
  have hstart : Server.start.run briefStandIn sampleOutside (writes sweptRun) =
      ⟨Database.empty.run briefStandIn sampleOutside sweptRun, .empty⟩ := Server.start_run_writes sweptRun
  have hserved' : served (Server.start.run briefStandIn sampleOutside (writes sweptRun)).database = .ok proof := by
    rw [hstart]
    exact hserved
  have hundisturbed : Undisturbed briefStandIn sampleOutside 3 7
      (Server.start.run briefStandIn sampleOutside (writes sweptRun)).database
      (.read sampleAttestor 3 7 :: (writes laterActions ++ [.read sampleAttestor 3 7])) := by
    rw [hstart]
    exact laterActions_undisturbed
  obtain ⟨-, hanswer⟩ := served_proof_is_kept rfl (writes sweptRun) _ sweptRun_described hserved' hundisturbed
  obtain ⟨answer, hanswer, hsame⟩ := hanswer (by rw [hstart]; rfl)
  exact ⟨proof, answer, hserved', hanswer, hsame⟩

end Payday.Proofs
