/-
# Attested messages

A burned leg is polled for until the attestation service lists a message that describes its burn;
the message is recorded, and the mint is made with it.  The service lists the messages of a
transaction, so two legs that were burned in one transaction are told apart only by what their
messages say.  Where they say the same of both legs, the first message listed is recorded for both.
-/
import Payday.Withdrawals.Orchestrator
import Payday.Withdrawals.StateMachine

namespace Payday.Withdrawals

/-- The CCTP messages of every transaction, by source domain and hash.  A message's nonce is its
own. -/
structure Service where
  emitted : ℕ → Hash → List (List UInt8)
  distinct : ∀ domain txHash message domain' txHash' message', message ∈ emitted domain txHash →
    message' ∈ emitted domain' txHash' → messageNonce message = messageNonce message' →
    domain = domain' ∧ txHash = txHash' ∧ message = message'

/-- The tables, and the legs that some poll has read and may still act on. -/
structure Polling where
  db : Store
  reads : List Leg

namespace Polling

/-- Nothing was created yet. -/
def start : Polling := ⟨Store.empty, []⟩

variable (registry : ChainRegistry) (service : Service)

/-- One step, labelled with the leg that a poll acts on.  Polls run at any time and in any number;
the service answers a poll with messages of the leg's burn transaction, in any order, or not. -/
inductive Step (s : Polling) : Option Leg → Polling → Prop
  | operation (now : Time) (call : Call) (db : Store) (h : s.db.perform now call = some db)
      (hcall : ∀ legId message attestation, call ≠ .recordAttestation legId message attestation) :
      Step s none ⟨db, s.reads⟩
  | read (now : Time) (chainId : ChainId) (leg : Leg)
      (h : leg ∈ s.db.legsAwaitingAttestation now chainId) : Step s none ⟨s.db, leg :: s.reads⟩
  | poll (now : Time) (leg : Leg) (cctp : CctpConfig) (attestationPoll : ℕ)
      (answer : Except String AttestationStatus) (db : Store) (hread : leg ∈ s.reads)
      (hcctp : registry.cctp leg.sourceChainId = some cctp)
      (hanswer : ∀ messages txHash, answer = .ok (.complete messages) → leg.burnTxHash = some txHash →
        ∀ p ∈ messages, p.1 ∈ service.emitted cctp.domain txHash)
      (h : pollLeg registry cctp attestationPoll s.db now leg answer = .ok db) :
      Step s (some leg) ⟨db, s.reads⟩

/-- The domain of a chain. -/
def domainOf (chainId : ChainId) : Option ℕ := (registry.cctp chainId).map CctpConfig.domain

/-- The address that the leg's withdrawal goes to. -/
def recipient (db : Store) (leg : Leg) : Option Address :=
  (db.withdrawals.find? leg.withdrawalId).map Withdrawal.destinationAddress

/-- Another leg whose message is already recorded was burned in the leg's burn transaction, and the
two agree in their domains, token, amount and recipient. -/
def Shares (db : Store) (leg : Leg) : Prop :=
  ∃ other ∈ db.legs.rows, other.id ≠ leg.id ∧ other.attestation ≠ none ∧
    other.burnTxHash = leg.burnTxHash ∧
    domainOf registry other.sourceChainId = domainOf registry leg.sourceChainId ∧
    domainOf registry other.destinationChainId = domainOf registry leg.destinationChainId ∧
    other.tokenAddress = leg.tokenAddress ∧ other.amount = leg.amount ∧
    recipient db other = recipient db leg

/-- A step that does not poll for a leg that shares its burn. -/
def LoneStep (s s' : Polling) : Prop :=
  ∃ label, Step registry service s label s' ∧ ∀ leg ∈ label, ¬ Shares registry s.db leg

/-- Any step. -/
def AnyStep (s s' : Polling) : Prop := ∃ label, Step registry service s label s'

lemma LoneStep.any (s s' : Polling) (h : LoneStep registry service s s') :
    AnyStep registry service s s' := by
  obtain ⟨label, hstep, -⟩ := h
  exact ⟨label, hstep⟩

/-- No two legs are recorded with the nonce of one message. -/
def OneMessageEach (db : Store) : Prop :=
  ∀ leg ∈ db.legs.rows, ∀ leg' ∈ db.legs.rows, ∀ p ∈ leg.attestation, ∀ p' ∈ leg'.attestation,
    messageNonce p.1 = messageNonce p'.1 → leg = leg'

variable {registry service}

/-! ### The message of a leg -/

/-- What a message that describes a burn says of the leg. -/
structure Describes (registry : ChainRegistry) (leg : Leg) (w : Withdrawal) (cctp : CctpConfig)
    (message : List UInt8) : Prop where
  destination : domainOf registry leg.destinationChainId = some (domainAt message 8)
  token : wordAt message burnTokenOffset = leg.tokenAddress
  amount : wordAt message amountOffset = leg.amount
  recipient : wordAt message mintRecipientOffset = w.destinationAddress

/-- A guard that let a call through. -/
lemma guard_ok {ε α : Type*} {c : Prop} [Decidable c] {e : ε} {x : Except ε α} {a : α}
    (h : (if c then .error e else x) = .ok a) : ¬ c ∧ x = .ok a := by
  by_cases hc : c
  · rw [if_pos hc] at h
    cases h
  · rw [if_neg hc] at h
    exact ⟨hc, h⟩

lemma describes_of_ok {leg : Leg} {w : Withdrawal} {cctp : CctpConfig} {message : List UInt8}
    (h : messageDescribesBurn leg w cctp registry message = .ok ()) :
    Describes registry leg w cctp message := by
  unfold messageDescribesBurn at h
  rcases hd : registry.cctp leg.destinationChainId with _ | destination
  · rw [hd] at h
    cases h
  · rw [hd] at h
    obtain ⟨-, h⟩ := guard_ok h
    obtain ⟨-, h⟩ := guard_ok h
    obtain ⟨hdestination, h⟩ := guard_ok h
    obtain ⟨-, h⟩ := guard_ok h
    obtain ⟨-, h⟩ := guard_ok h
    obtain ⟨-, h⟩ := guard_ok h
    obtain ⟨htoken, h⟩ := guard_ok h
    obtain ⟨hrecipient, h⟩ := guard_ok h
    obtain ⟨hamount, -⟩ := guard_ok h
    refine ⟨?_, not_not.1 htoken, not_not.1 hamount, not_not.1 hrecipient⟩
    rw [domainOf, hd, not_not.1 hdestination]
    rfl

lemma describes_of_describesBurn {leg : Leg} {w : Withdrawal} {cctp : CctpConfig}
    {message : List UInt8} (h : describesBurn leg w cctp registry message = true) :
    Describes registry leg w cctp message := by
  unfold describesBurn at h
  split at h
  · rename_i hok
    exact describes_of_ok hok
  · cases h

/-- The message is the leg's own: the leg's burn transaction emitted it, and it describes the leg's
burn. -/
structure Own (registry : ChainRegistry) (service : Service) (db : Store) (leg : Leg)
    (message : List UInt8) : Prop where
  txHash : ∃ txHash domain, leg.burnTxHash = some txHash ∧
    domainOf registry leg.sourceChainId = some domain ∧ message ∈ service.emitted domain txHash
  describes : ∃ w cctp, w ∈ db.withdrawals.rows ∧ w.id = leg.withdrawalId ∧
    Describes registry leg w cctp message

/-! ### Legs past their burn -/

/-- The burn is behind. -/
def isPastBurn : LegState → Bool
  | .burned | .attested | .minting | .completed | .failed => true
  | _ => false

variable {leg leg' : Leg} {call : Call}

/-- A leg past its burn stays past it, with its burn transaction. -/
lemma past_of_moves (h : leg.Moves call leg') (hpast : isPastBurn leg.state = true) :
    isPastBurn leg'.state = true ∧ leg'.burnTxHash = leg.burnTxHash := by
  cases h with
  | authorized snapshot account withdrawalId signature now h =>
    rw [h] at hpast
    cases hpast
  | cancelled account now h | expired margin now h =>
    rcases Leg.isUnrelayed_cases h with h | h <;>
      · rw [h] at hpast
        cases hpast
  | opened now jobId chainId h =>
    rcases h with h | h
    · rw [h] at hpast
      cases hpast
    · rw [h]
      exact ⟨rfl, rfl⟩
  | advanced now nextCheckAt jobId step result policy txHash hjob hstep hkind hresult =>
    rcases Leg.hasStep_cases hstep with h | h
    · rw [h] at hpast
      cases hpast
    · -- only the mint is left
      have hmint : step = .mint := by simpa [Leg.stepKind, h] using hkind.symm
      subst hmint
      exact ⟨rfl, rfl⟩
  | released jobId reported result policy now reverts retryAt hjob hstep =>
    rcases Leg.hasStep_cases hstep with h | h
    · rw [h] at hpast
      cases hpast
    · rw [h]
      exact ⟨rfl, rfl⟩
  | failed call now reason hcall h => exact ⟨rfl, rfl⟩
  | attested now message attestation h => exact ⟨rfl, rfl⟩
  | deferred now nextCheckAt h => exact ⟨hpast, rfl⟩

/-- Only `record_attestation` records a message. -/
lemma attestation_of_moves (h : leg.Moves call leg') :
    leg'.attestation = leg.attestation ∨ ∃ message attestation,
      call = .recordAttestation leg.id message attestation ∧
        leg'.attestation = some (message, attestation) ∧ leg.state = .burned := by
  cases h with
  | attested now message attestation h => exact Or.inr ⟨message, attestation, rfl, rfl, h⟩
  | _ => exact Or.inl rfl

/-! ### One step -/

variable {s s' : Polling} {db db' : Store}

/-- What holds along a run. -/
structure Sound (registry : ChainRegistry) (service : Service) (s : Polling) : Prop where
  recorded : ∀ leg ∈ s.db.legs.rows, ∀ p ∈ leg.attestation,
    isPastBurn leg.state = true ∧ Own registry service s.db leg p.1
  /-- A leg that was read is still there, with the burn it had. -/
  reads : ∀ read ∈ s.reads, ∃ leg ∈ s.db.legs.rows, read.SameTerms leg ∧
    leg.burnTxHash = read.burnTxHash ∧ isPastBurn leg.state = true

lemma Sound.start : Sound registry service start :=
  ⟨by simp [Polling.start, Store.empty], by simp [Polling.start]⟩

/-- What a message says of a leg it says of every leg with the same terms. -/
lemma Describes.of_terms {w w' : Withdrawal} {cctp : CctpConfig} {message : List UInt8}
    (hd : Describes registry leg w cctp message) (hterms : leg.SameTerms leg') (hw : w.SameTerms w') :
    Describes registry leg' w' cctp message := by
  refine ⟨?_, ?_, ?_, ?_⟩
  · rw [hterms.destinationChainId]
    exact hd.destination
  · rw [hterms.tokenAddress]
    exact hd.token
  · rw [hterms.amount]
    exact hd.amount
  · rw [hw.destinationAddress]
    exact hd.recipient

lemma Own.of_terms {message : List UInt8} (ho : Own registry service db leg message)
    (hterms : leg.SameTerms leg') (hburn : leg'.burnTxHash = leg.burnTxHash)
    (hchange : Store.Change db call db') : Own registry service db' leg' message := by
  obtain ⟨w, cctp, hw, hid, hd⟩ := ho.describes
  obtain ⟨w', hw', hsame⟩ := hchange.withdrawal_after hw
  refine ⟨?_, w', cctp, hw', ?_, hd.of_terms hterms hsame⟩
  · rw [hburn, hterms.sourceChainId]
    exact ho.txHash
  · rw [hsame.id, hid, hterms.withdrawalId]

lemma sound_reads {reads : List Leg} (hchange : Store.Change db call db')
    (hreads : ∀ read ∈ reads, ∃ leg ∈ db.legs.rows, read.SameTerms leg ∧
      leg.burnTxHash = read.burnTxHash ∧ isPastBurn leg.state = true) :
    ∀ read ∈ reads, ∃ leg ∈ db'.legs.rows, read.SameTerms leg ∧
      leg.burnTxHash = read.burnTxHash ∧ isPastBurn leg.state = true := by
  intro read hread
  obtain ⟨leg, hleg, hterms, hburn, hpast⟩ := hreads read hread
  obtain ⟨leg', hleg', rfl | hmove⟩ := hchange.leg_after hleg
  · exact ⟨leg', hleg', hterms, hburn, hpast⟩
  · obtain ⟨hpast', hburn'⟩ := past_of_moves hmove hpast
    exact ⟨leg', hleg', hterms.trans hmove.sameTerms, hburn'.trans hburn, hpast'⟩

/-- A leg's message after an operation: it had it before, or it is the one that was recorded. -/
lemma attestation_cases (hs : Sound registry service s) (hchange : Store.Change s.db call db')
    (hleg' : leg' ∈ db'.legs.rows) {p : List UInt8 × List UInt8} (hp : p ∈ leg'.attestation) :
    (∃ leg ∈ s.db.legs.rows, leg.SameTerms leg' ∧ p ∈ leg.attestation ∧
      isPastBurn leg'.state = true ∧ leg'.burnTxHash = leg.burnTxHash) ∨
    ∃ leg ∈ s.db.legs.rows, leg.SameTerms leg' ∧ leg.state = .burned ∧
      isPastBurn leg'.state = true ∧ leg'.burnTxHash = leg.burnTxHash ∧
      call = .recordAttestation leg.id p.1 p.2 := by
  rcases hchange.leg_before hleg' with ⟨now, input, new, -, -, rfl⟩ | ⟨leg, hleg, rfl | hmove⟩
  · cases hp
  · exact Or.inl ⟨leg', hleg, .refl leg', hp, (hs.recorded leg' hleg p hp).1, rfl⟩
  · rcases attestation_of_moves hmove with hsame | ⟨message, attestation, hcall, hnew, hstate⟩
    · rw [hsame] at hp
      obtain ⟨hpast, hburn⟩ := past_of_moves hmove (hs.recorded leg hleg p hp).1
      exact Or.inl ⟨leg, hleg, hmove.sameTerms, hp, hpast, hburn⟩
    · obtain ⟨hpast, hburn⟩ := past_of_moves hmove (by rw [hstate]; rfl)
      rw [hnew] at hp
      cases hp
      exact Or.inr ⟨leg, hleg, hmove.sameTerms, hstate, hpast, hburn, hcall⟩

lemma exists_of_map_ok {ε α : Type*} {x : Except ε (Store × α)} (h : x.map (·.1) = .ok db') :
    ∃ a, x = .ok (db', a) := by
  cases x with
  | error e => cases h
  | ok p =>
    cases h
    exact ⟨p.2, rfl⟩

/-- What a poll does. -/
lemma pollLeg_cases {cctp : CctpConfig} {attestationPoll : ℕ} {now : Time} {read : Leg}
    {answer : Except String AttestationStatus} (hcctp : registry.cctp read.sourceChainId = some cctp)
    (hanswer : ∀ messages txHash, answer = .ok (.complete messages) → read.burnTxHash = some txHash →
      ∀ p ∈ messages, p.1 ∈ service.emitted cctp.domain txHash)
    (h : pollLeg registry cctp attestationPoll db now read answer = .ok db') :
    ∃ call, Store.Change db call db' ∧
      ((∀ legId message attestation, call ≠ .recordAttestation legId message attestation) ∨
        ∃ message attestation, call = .recordAttestation read.id message attestation ∧
          Own registry service db read message) := by
  unfold pollLeg at h
  split at h
  · obtain ⟨failed, hok⟩ := exists_of_map_ok h
    exact ⟨_, Store.failLeg_change hok, Or.inl (by simp)⟩
  · rename_i txHash hburn
    split at h
    · rename_i messages
      split at h
      · cases h
        exact ⟨.expireStale 0, Store.Change.refl _ _, Or.inl (by simp)⟩
      · rename_i w hw
        split at h
        · rename_i message attestation hfind
          obtain ⟨recorded, hok⟩ := exists_of_map_ok h
          refine ⟨_, Store.recordAttestation_change hok, Or.inr ⟨message, attestation, rfl, ?_, ?_⟩⟩
          · refine ⟨txHash, cctp.domain, hburn, by rw [domainOf, hcctp]; rfl, ?_⟩
            exact hanswer messages txHash rfl hburn _ (List.mem_of_find?_eq_some hfind)
          · exact ⟨w, cctp, Table.mem_of_find? hw, Table.key_of_find? hw,
              describes_of_describesBurn (List.find?_some hfind :)⟩
        · obtain ⟨deferred, hok⟩ := exists_of_map_ok h
          exact ⟨_, Store.deferAttestation_change hok, Or.inl (by simp)⟩
    · obtain ⟨deferred, hok⟩ := exists_of_map_ok h
      exact ⟨_, Store.deferAttestation_change hok, Or.inl (by simp)⟩

/-- The row of a leg that was read. -/
lemma Sound.read_row (hs : Sound registry service s) {read : Leg} (hread : read ∈ s.reads)
    (hleg : leg ∈ s.db.legs.rows) (hid : leg.id = read.id) :
    read.SameTerms leg ∧ leg.burnTxHash = read.burnTxHash := by
  obtain ⟨row, hrow, hterms, hburn, -⟩ := hs.reads read hread
  obtain rfl := s.db.legs.eq_of_key_eq hrow hleg (hterms.id.trans hid.symm)
  exact ⟨hterms, hburn⟩

/-- A change in which only messages that were found are recorded. -/
lemma Sound.change (hs : Sound registry service s) (hchange : Store.Change s.db call db')
    (hcall : ∀ legId message attestation, call = .recordAttestation legId message attestation →
      ∃ read ∈ s.reads, read.id = legId ∧ Own registry service s.db read message) :
    Sound registry service ⟨db', s.reads⟩ := by
  refine ⟨fun leg' hleg' p hp => ?_, sound_reads hchange hs.reads⟩
  rcases attestation_cases hs hchange hleg' hp with ⟨leg, hleg, hterms, hp, hpast, hburn⟩ |
    ⟨leg, hleg, hterms, -, hpast, hburn, hrecord⟩
  · exact ⟨hpast, (hs.recorded leg hleg p hp).2.of_terms hterms hburn hchange⟩
  · obtain ⟨read, hread, hid, hfound⟩ := hcall _ _ _ hrecord
    obtain ⟨hterms', hburn'⟩ := hs.read_row hread hleg hid.symm
    exact ⟨hpast, hfound.of_terms (hterms'.trans hterms) (hburn.trans hburn') hchange⟩

lemma Sound.step {label : Option Leg} (hs : Sound registry service s)
    (h : Step registry service s label s') : Sound registry service s' := by
  cases h with
  | operation now call db h hcall =>
    exact hs.change (Store.perform_change h) fun legId message attestation hc => absurd hc (hcall _ _ _)
  | read now chainId leg h =>
    refine ⟨hs.recorded, fun read hread => ?_⟩
    rcases List.mem_cons.1 hread with rfl | hread
    · simp only [Store.legsAwaitingAttestation, List.mem_filter, Bool.and_eq_true,
        decide_eq_true_eq] at h
      exact ⟨read, h.1, .refl read, rfl, by rw [h.2.1.1]; rfl⟩
    · exact hs.reads read hread
  | poll now leg cctp attestationPoll answer db hread hcctp hanswer h =>
    obtain ⟨call, hchange, hcall | ⟨message, attestation, rfl, hfound⟩⟩ := pollLeg_cases hcctp hanswer h
    · exact hs.change hchange fun legId message attestation hc => absurd hc (hcall _ _ _)
    · refine hs.change hchange fun legId message' attestation' hc => ?_
      cases hc
      exact ⟨leg, hread, rfl, hfound⟩

/-! ### One message each -/

lemma recipient_of_mem {w : Withdrawal} (hw : w ∈ db.withdrawals.rows) (hid : w.id = leg.withdrawalId) :
    recipient db leg = some w.destinationAddress := by
  rw [recipient, Table.find?_eq_some_iff.2 ⟨hw, hid⟩]
  rfl

/-- A message that another leg is recorded with is found only for a leg that shares its burn. -/
lemma Own.shares {read : Leg} {message message' : List UInt8}
    (hf : Own registry service db read message) (hleg : leg ∈ db.legs.rows)
    (ho : Own registry service db leg message') (hrecorded : leg.attestation ≠ none)
    (hne : leg.id ≠ read.id) (hnonce : messageNonce message' = messageNonce message) :
    Shares registry db read := by
  obtain ⟨tx, domain, hburn, hdomain, hmem⟩ := hf.txHash
  obtain ⟨tx', domain', hburn', hdomain', hmem'⟩ := ho.txHash
  obtain ⟨rfl, rfl, rfl⟩ := service.distinct _ _ _ _ _ _ hmem' hmem hnonce
  obtain ⟨w, cctp, hw, hid, hd⟩ := hf.describes
  obtain ⟨w', cctp', hw', hid', hd'⟩ := ho.describes
  refine ⟨leg, hleg, hne, hrecorded, by rw [hburn, hburn'], by rw [hdomain, hdomain'],
    by rw [hd.destination, hd'.destination], by rw [← hd.token, ← hd'.token],
    by rw [← hd.amount, ← hd'.amount], ?_⟩
  rw [recipient_of_mem hw hid, recipient_of_mem hw' hid', ← hd.recipient, ← hd'.recipient]

lemma OneMessageEach.change (ho : OneMessageEach s.db) (hs : Sound registry service s)
    (hchange : Store.Change s.db call db')
    (hcall : ∀ legId message attestation, call = .recordAttestation legId message attestation →
      ∃ read ∈ s.reads, read.id = legId ∧ Own registry service s.db read message ∧
        ¬ Shares registry s.db read) : OneMessageEach db' := by
  -- a message that was recorded before is not the one that is recorded now
  have hmixed : ∀ {leg₁ leg₂ : Leg} {p₁ p₂ : List UInt8 × List UInt8}, leg₁ ∈ s.db.legs.rows →
      p₁ ∈ leg₁.attestation → call = .recordAttestation leg₂.id p₂.1 p₂.2 →
      messageNonce p₁.1 = messageNonce p₂.1 → leg₁.id = leg₂.id := by
    intro leg₁ leg₂ p₁ p₂ hleg₁ hp₁ hrecord hnonce
    obtain ⟨read, -, hid, hfound, hlone⟩ := hcall _ _ _ hrecord
    by_contra hne
    refine hlone (hfound.shares hleg₁ (hs.recorded leg₁ hleg₁ p₁ hp₁).2 ?_ (by rwa [hid]) hnonce)
    intro hnone
    rw [hnone] at hp₁
    cases hp₁
  intro leg₁' hleg₁' leg₂' hleg₂' p₁ hp₁ p₂ hp₂ hnonce
  refine db'.legs.eq_of_key_eq hleg₁' hleg₂' ?_
  rcases attestation_cases hs hchange hleg₁' hp₁ with ⟨leg₁, hleg₁, hterms₁, hold₁, -⟩ |
    ⟨leg₁, hleg₁, hterms₁, -, -, -, hnew₁⟩ <;>
  rcases attestation_cases hs hchange hleg₂' hp₂ with ⟨leg₂, hleg₂, hterms₂, hold₂, -⟩ |
    ⟨leg₂, hleg₂, hterms₂, -, -, -, hnew₂⟩
  · rw [hterms₁.id, hterms₂.id, ho leg₁ hleg₁ leg₂ hleg₂ p₁ hold₁ p₂ hold₂ hnonce]
  · rw [hterms₁.id, hterms₂.id, hmixed hleg₁ hold₁ hnew₂ hnonce]
  · rw [hterms₁.id, hterms₂.id, hmixed hleg₂ hold₂ hnew₁ hnonce.symm]
  · rw [hterms₁.id, hterms₂.id]
    exact (Call.recordAttestation.inj (hnew₁.symm.trans hnew₂)).1

lemma OneMessageEach.step (ho : OneMessageEach s.db) (hs : Sound registry service s)
    (h : LoneStep registry service s s') : OneMessageEach s'.db := by
  obtain ⟨label, hstep, hlone⟩ := h
  cases hstep with
  | operation now call db h hcall =>
    exact ho.change hs (Store.perform_change h) fun legId message attestation hc =>
      absurd hc (hcall _ _ _)
  | read now chainId leg h => exact ho
  | poll now leg cctp attestationPoll answer db hread hcctp hanswer h =>
    obtain ⟨call, hchange, hcall | ⟨message, attestation, rfl, hfound⟩⟩ := pollLeg_cases hcctp hanswer h
    · exact ho.change hs hchange fun legId message attestation hc => absurd hc (hcall _ _ _)
    · refine ho.change hs hchange fun legId message' attestation' hc => ?_
      cases hc
      exact ⟨leg, hread, rfl, hfound, hlone leg rfl⟩

/-- In every run without a poll for a leg that shares its burn, no two legs are recorded with the
nonce of one message; and the message of a leg was emitted by the leg's burn transaction and
describes the leg's burn. -/
theorem legs_are_recorded_with_their_own_message (registry : ChainRegistry) (service : Service)
    (s : Polling) (h : Relation.ReflTransGen (LoneStep registry service) start s) :
    OneMessageEach s.db ∧ ∀ leg ∈ s.db.legs.rows, ∀ p ∈ leg.attestation,
      Own registry service s.db leg p.1 := by
  have hboth : Sound registry service s ∧ OneMessageEach s.db := by
    induction h with
    | refl =>
      refine ⟨Sound.start, fun leg hleg => ?_⟩
      cases hleg
    | tail _ hstep ih =>
      obtain ⟨label, hs, -⟩ := id hstep
      exact ⟨ih.1.step hs, ih.2.step ih.1 hstep⟩
  exact ⟨hboth.2, fun leg hleg p hp => (hboth.1.recorded leg hleg p hp).2⟩

/-! ### Two burns in one transaction -/

/-- Domain 2 on chain 2 and domain 1 on chain 1. -/
def sampleRegistry : ChainRegistry :=
  [⟨1, 0, 1000, some ⟨1, 40, 50, 60⟩⟩, ⟨2, 0, 1000, some ⟨2, 41, 51, 61⟩⟩]

/-- A bridge of 6 from chain 2 to address 200 on chain 1. -/
def sampleBridge (id account wallet leg : ℕ) : NewWithdrawal :=
  ⟨id, account, "key", wallet, .usdc, 1, 200, [⟨leg, 0, .bridge, 2, 6, 21, 61, 1000 + leg, some 4, 9000⟩]⟩

/-- The message of such a burn. -/
def sampleMessage (nonce : ℕ) : List UInt8 :=
  toBE 4 1 ++ toBE 4 2 ++ toBE 4 1 ++ toBE 32 nonce ++ toBE 32 41 ++ toBE 32 40 ++ toBE 32 0 ++
    toBE 4 2000 ++ toBE 4 2000 ++ toBE 4 1 ++ toBE 32 21 ++ toBE 32 200 ++ toBE 32 6 ++ toBE 32 61 ++
    toBE 32 0 ++ toBE 32 0 ++ toBE 32 0

lemma messageNonce_sampleMessage : messageNonce (sampleMessage 1) ≠ messageNonce (sampleMessage 2) := by
  decide +kernel

/-- Transaction 88 made two burns. -/
def sampleService : Service where
  emitted domain txHash := if domain = 2 ∧ txHash = 88 then [sampleMessage 1, sampleMessage 2] else []
  distinct := by
    intro domain txHash message domain' txHash' message' hmem hmem' hnonce
    split at hmem <;> split at hmem'
    · rename_i h h'
      refine ⟨h.1.trans h'.1.symm, h.2.trans h'.2.symm, ?_⟩
      simp only [List.mem_cons, List.not_mem_nil, or_false] at hmem hmem'
      rcases hmem with rfl | rfl <;> rcases hmem' with rfl | rfl
      · rfl
      · exact absurd hnonce messageNonce_sampleMessage
      · exact absurd hnonce.symm messageNonce_sampleMessage
      · rfl
    all_goals simp_all

/-- Either message of the transaction describes every such burn. -/
lemma describesBurn_sample {leg : Leg} {w : Withdrawal} (hchain : leg.destinationChainId = 1)
    (htoken : leg.tokenAddress = 21) (hamount : leg.amount = 6) (hw : w.destinationAddress = 200) :
    describesBurn leg w ⟨2, 41, 51, 61⟩ sampleRegistry (sampleMessage 1) = true := by
  have hlength : ¬ (sampleMessage 1).length < minBurnMessageLen := by decide +kernel
  have hwords : domainAt (sampleMessage 1) 4 = 2 ∧ domainAt (sampleMessage 1) 8 = 1 ∧
      messageNonce (sampleMessage 1) = 1 ∧ wordAt (sampleMessage 1) messageSenderOffset = 41 ∧
      wordAt (sampleMessage 1) destinationCallerOffset = 0 ∧
      wordAt (sampleMessage 1) burnTokenOffset = 21 ∧
      wordAt (sampleMessage 1) mintRecipientOffset = 200 ∧
      wordAt (sampleMessage 1) amountOffset = 6 ∧
      wordAt (sampleMessage 1) bodyMessageSenderOffset = 61 ∧
      wordAt (sampleMessage 1) maxFeeOffset = 0 := by decide +kernel
  obtain ⟨h₁, h₂, h₃, h₄, h₅, h₆, h₇, h₈, h₉, h₁₀⟩ := hwords
  have hcctp : sampleRegistry.cctp leg.destinationChainId = some ⟨1, 40, 50, 60⟩ := by
    rw [hchain]
    rfl
  simp [describesBurn, messageDescribesBurn, hcctp, hlength, h₁, h₂, h₃, h₄, h₅, h₆, h₇, h₈, h₉, h₁₀,
    htoken, hamount, hw]

/-- A poll for such a leg records the first message. -/
lemma pollLeg_sample {db : Store} {now : Time} {leg : Leg} {w : Withdrawal} (attestation : List UInt8)
    (hburn : leg.burnTxHash = some 88) (hw : db.withdrawals.find? leg.withdrawalId = some w)
    (hchain : leg.destinationChainId = 1) (htoken : leg.tokenAddress = 21) (hamount : leg.amount = 6)
    (haddress : w.destinationAddress = 200) :
    pollLeg sampleRegistry ⟨2, 41, 51, 61⟩ 20 db now leg
      (.ok (.complete [(sampleMessage 1, attestation), (sampleMessage 2, attestation)])) =
      (db.recordAttestation now leg.id (sampleMessage 1) attestation).map (·.1) := by
  simp [pollLeg, hburn, hw, List.find?, describesBurn_sample hchain htoken hamount haddress]

/-- The service's answer lists the messages of transaction 88. -/
lemma sampleAnswer {leg : Leg} {attestation : List UInt8} (hburn : leg.burnTxHash = some 88)
    (messages : List (List UInt8 × List UInt8)) (txHash : Hash)
    (h : (.ok (.complete [(sampleMessage 1, attestation), (sampleMessage 2, attestation)]) :
      Except String AttestationStatus) = .ok (.complete messages)) (htx : leg.burnTxHash = some txHash) :
    ∀ p ∈ messages, p.1 ∈ sampleService.emitted 2 txHash := by
  cases h
  rw [hburn] at htx
  cases htx
  intro p hp
  simp only [List.mem_cons, List.not_mem_nil, or_false] at hp
  rcases hp with rfl | rfl <;> simp [sampleService]

/-- Operations one after the other. -/
lemma operations_run {calls : List (Time × Call)} {db db' : Store} {reads : List Leg}
    (hcalls : ∀ c ∈ calls, ∀ legId message attestation, c.2 ≠ .recordAttestation legId message attestation)
    (h : calls.foldlM (fun db c => db.perform c.1 c.2) db = some db') :
    Relation.ReflTransGen (LoneStep registry service) ⟨db, reads⟩ ⟨db', reads⟩ := by
  induction calls generalizing db with
  | nil =>
    cases h
    exact .refl
  | cons c rest ih =>
    rw [List.foldlM_cons] at h
    obtain ⟨db₁, hstep, hrest⟩ := Option.bind_eq_some_iff.1 h
    refine Relation.ReflTransGen.head ⟨none, .operation c.1 c.2 db₁ hstep (hcalls c (by simp)), by simp⟩ ?_
    exact ih (fun c hc => hcalls c (List.mem_cons_of_mem _ hc)) hrest

/-- Two wallets authorize the same withdrawal, and somebody bridges both in transaction 88. -/
def sampleCalls : List (Time × Call) :=
  [(0, .create (sampleBridge 1 7 100 11)), (0, .create (sampleBridge 2 8 101 12)),
    (1, .authorize ⟨[(sampleBridge 1 7 100 11).row], by simp⟩ 7 1 11 Store.sampleSignature),
    (2, .authorize ⟨[(sampleBridge 2 8 101 12).row], by simp⟩ 8 2 12 Store.sampleSignature),
    (3, .beginStep 11 50 2), (4, .beginStep 12 51 2),
    (5, .applyStepResult 50 .burn (.executedElsewhere (some 88)) Store.samplePolicy),
    (6, .applyStepResult 51 .burn (.executedElsewhere (some 88)) Store.samplePolicy)]

lemma sampleCalls_record_nothing : ∀ c ∈ sampleCalls, ∀ legId message attestation,
    c.2 ≠ .recordAttestation legId message attestation := by
  simp [sampleCalls]

theorem legs_are_recorded_with_their_own_message_sampleCalls : ∃ s,
    Relation.ReflTransGen (LoneStep sampleRegistry sampleService) start s ∧
    (∃ leg ∈ s.db.legs.rows, leg.attestation = some (sampleMessage 1, [])) ∧ OneMessageEach s.db := by
  have h₁ : Relation.ReflTransGen (LoneStep sampleRegistry sampleService) start ⟨_, []⟩ :=
    operations_run sampleCalls_record_nothing rfl
  have h₂ := h₁.tail ⟨none, .read 100 2 _ (List.mem_cons_self ..), by simp⟩
  have h₃ := h₂.tail ⟨_, .poll 101 _ ⟨2, 41, 51, 61⟩ 20 _ _ (List.mem_cons_self ..) rfl (sampleAnswer rfl)
    ((pollLeg_sample [] rfl rfl rfl rfl rfl rfl).trans rfl), by
      -- nothing is recorded yet
      rintro leg - ⟨other, hother, -, hrecorded, -⟩
      rcases List.mem_cons.1 hother with rfl | hother
      · exact hrecorded rfl
      · obtain rfl := List.mem_singleton.1 hother
        exact hrecorded rfl⟩
  exact ⟨_, h₃, ⟨_, List.mem_cons_self .., rfl⟩,
    (legs_are_recorded_with_their_own_message sampleRegistry sampleService _ h₃).1⟩

/-- The first message of transaction 88 is recorded for both legs. -/
theorem two_legs_are_recorded_with_one_message : ∃ s,
    Relation.ReflTransGen (AnyStep sampleRegistry sampleService) start s ∧ ¬ OneMessageEach s.db := by
  have h₀ : Relation.ReflTransGen (LoneStep sampleRegistry sampleService) start ⟨_, []⟩ :=
    operations_run sampleCalls_record_nothing rfl
  have h₁ := Relation.ReflTransGen.mono (LoneStep.any sampleRegistry sampleService) _ _ h₀
  have h₂ := h₁.tail ⟨none, .read 100 2 _ (List.mem_cons_self ..)⟩
  have h₃ := h₂.tail ⟨none, .read 100 2 _ (List.mem_cons_of_mem _ (List.mem_cons_self ..))⟩
  have h₄ := h₃.tail ⟨_, .poll 101 _ ⟨2, 41, 51, 61⟩ 20 _ _
    (List.mem_cons_of_mem _ (List.mem_cons_self ..)) rfl (sampleAnswer rfl)
    ((pollLeg_sample [] rfl rfl rfl rfl rfl rfl).trans rfl)⟩
  have h₅ := h₄.tail ⟨_, .poll 102 _ ⟨2, 41, 51, 61⟩ 20 _ _ (List.mem_cons_self ..) rfl (sampleAnswer rfl)
    ((pollLeg_sample [] rfl rfl rfl rfl rfl rfl).trans rfl)⟩
  refine ⟨_, h₅, fun hone => ?_⟩
  have hsame := hone _ (List.mem_cons_self ..) _ (List.mem_cons_of_mem _ (List.mem_cons_self ..))
    (sampleMessage 1, []) rfl (sampleMessage 1, []) rfl rfl
  exact absurd (congrArg Leg.id hsame) (by decide)

end Polling

end Payday.Withdrawals
