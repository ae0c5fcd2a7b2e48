/-
# Keys follow their history

Which keys an account accepts is read off two columns that every rotation shifts.  Over whole runs,
with requests for any number of identities at once, the columns are a function of the account's key
changes: the current key is the one that the last change issued, and the previous key the one that
was current before it.  The changes of an account are serial, each naming the generation that the one
before it left, because the lock of the identity is held from the read to the commit and an account
belongs to one identity only.
-/
import Payday.Accounts.Recorded

namespace Payday.Accounts

/-! ### Requests side by side -/

open Payday.Accounts.System

variable {sha256 : String → Hash} {hashtext : String → ℕ} {s s' : System}

lemma sound_start : Sound start where
  recorded := by
    refine ⟨?_, ?_, ?_, ?_, ?_, ?_, ?_⟩ <;> simp [start, Database.empty]
  stands := fun _ => trivial
  alone := by
    intro w w' request request' read read' h
    cases h
  answers := by simp [start]

/-- A request moves on and no table changes. -/
lemma Sound.setPhase (hs : Sound s) (w : ℕ) (phase : Phase) (hphase : PhaseStands s.db phase)
    (halone : ∀ request read, phase = .locked request read → ∀ w' request' read', w' ≠ w →
      s.requests w' = .locked request' read' → request'.identity ≠ request.identity) :
    Sound (s.setPhase w phase) where
  recorded := hs.recorded
  stands := by
    intro w'
    by_cases hw : w' = w
    · simpa [System.setPhase, hw] using hphase
    · simpa [System.setPhase, hw] using hs.stands w'
  alone := by
    intro w₁ w₂ request₁ request₂ read₁ read₂ h₁ h₂ heq
    simp only [System.setPhase, Function.update_apply] at h₁ h₂
    by_cases hw₁ : w₁ = w <;> by_cases hw₂ : w₂ = w
    · rw [hw₁, hw₂]
    · rw [if_pos hw₁] at h₁
      rw [if_neg hw₂] at h₂
      exact absurd heq.symm (halone _ _ h₁ w₂ _ _ hw₂ h₂)
    · rw [if_neg hw₁] at h₁
      rw [if_pos hw₂] at h₂
      exact absurd heq (halone _ _ h₂ w₁ _ _ hw₁ h₁)
    · rw [if_neg hw₁] at h₁
      rw [if_neg hw₂] at h₂
      exact hs.alone _ _ _ _ _ _ h₁ h₂ heq
  answers := hs.answers

/-- An update of an account's other columns. -/
lemma Sound.plain (hs : Sound s) {db : Database} {account : AccountId} {f : Account → Account}
    {hf : ∀ row, (f row).id = row.id} (h : Plain f)
    (hwrite : updateAccount s.db account f hf = .ok db) : Sound { s with db := db } := by
  rw [updateAccount_ok hwrite]
  refine ⟨hs.recorded.plain hf h, fun w => ?_, hs.alone, hs.answers⟩
  have hw := hs.stands w
  show PhaseStands _ (s.requests w)
  cases hphase : s.requests w with
  | locked request read =>
    rw [hphase] at hw
    refine ReadStands.of_others hw (fun _ hrow => hrow) (fun _ hrow _ => hrow) ?_
    intro account' _ row' hrow' hid
    have hrow' : row' ∈ (s.db.accounts.updateWhere (fun row => decide (row.id = account)) f hf).rows :=
      hrow'
    rcases Table.mem_updateWhere hrow' with ⟨row, hrow, -, rfl⟩ | ⟨hrow, -⟩
    · exact ⟨row, hrow, (hf row).symm.trans hid, (h.generation row).symm⟩
    · exact ⟨row', hrow, hid, rfl⟩
  | _ =>
    rw [hphase] at hw
    exact hw

lemma phaseStands_first (db : Database) (request : Request) : PhaseStands db request.first := by
  cases request <;> trivial

lemma phaseStands_afterCommit {db : Database} {request : Request} {read : Option AccountId}
    {account : AccountId} (h : ⟨request.identity, account⟩ ∈ db.identities.rows) :
    PhaseStands db (afterCommit request read account) := by
  unfold afterCommit
  split
  · exact h
  · trivial

lemma afterCommit_ne_locked {request request' : Request} {read read' : Option AccountId}
    {account : AccountId} : afterCommit request read account ≠ .locked request' read' := by
  unfold afterCommit
  split <;> simp

/-- A request that holds its lock commits. -/
lemma Sound.commit (hs : Sound s) {w : ℕ} {now : Time} {id account : AccountId} {request : Request}
    {read : Option AccountId} {db : Database} {change : Option KeyChange}
    (h : s.requests w = .locked request read)
    (hwrite : lockedWrite sha256 s.db now id request read = .ok (db, account, change)) :
    Sound { db := db
            requests := Function.update s.requests w (afterCommit request read account)
            changes := change.toList ++ s.changes
            answers := if afterCommit request read account = .idle then
                (request.identity, account) :: s.answers
              else s.answers } := by
  have hread := hs.stands w
  rw [h] at hread
  obtain ⟨hrecorded, hcommitted⟩ := lockedWrite_spec hs.recorded hread hwrite
  refine ⟨hrecorded, fun w' => ?_, ?_, ?_⟩
  · show PhaseStands db (Function.update s.requests w _ w')
    by_cases hw : w' = w
    · rw [hw, Function.update_self]
      exact phaseStands_afterCommit hcommitted.own
    rw [Function.update_of_ne hw]
    have hw' := hs.stands w'
    cases hphase : s.requests w' with
    | locked request' read' =>
      rw [hphase] at hw'
      -- the other request holds the lock of another identity, so its account is another one
      have hne : request'.identity ≠ request.identity := by
        intro heq
        exact hw (hs.alone _ _ _ _ _ _ hphase h heq)
      refine ReadStands.of_others hw' hcommitted.kept ?_ ?_
      · intro row hrow hidentity
        rcases hcommitted.added row hrow with hrow | hidentity'
        · exact hrow
        · exact absurd (hidentity.symm.trans hidentity') hne
      · intro account' hidentity row' hrow' hid
        refine ⟨row', hcommitted.others row' hrow' ?_, hid, rfl⟩
        intro heq
        have hrows := List.inj_on_of_nodup_map hrecorded.owners
          (hcommitted.kept _ hidentity) hcommitted.own (hid.symm.trans heq)
        exact hne (congrArg IdentityRow.identity hrows)
    | adoptingWallet identity email wallet account' =>
      rw [hphase] at hw'
      exact hcommitted.kept _ hw'
    | adoptingEmail identity email account' =>
      rw [hphase] at hw'
      exact hcommitted.kept _ hw'
    | _ => trivial
  · intro w₁ w₂ request₁ request₂ read₁ read₂ h₁ h₂ heq
    have hlocked : ∀ {w' request' read'},
        Function.update s.requests w (afterCommit request read account) w' = .locked request' read' →
          s.requests w' = .locked request' read' := by
      intro w' request' read' hw'
      rw [Function.update_apply] at hw'
      split at hw'
      · exact absurd hw' afterCommit_ne_locked
      · exact hw'
    exact hs.alone _ _ _ _ _ _ (hlocked h₁) (hlocked h₂) heq
  · have hold : ∀ answer ∈ s.answers, ⟨answer.1, answer.2⟩ ∈ db.identities.rows :=
      fun answer hanswer => hcommitted.kept _ (hs.answers answer hanswer)
    intro answer hanswer
    simp only at hanswer
    split at hanswer
    · rcases List.mem_cons.1 hanswer with rfl | hanswer
      · exact hcommitted.own
      · exact hold answer hanswer
    · exact hold answer hanswer

lemma Sound.step (hs : Sound s) (h : Step sha256 hashtext s s') : Sound s' := by
  cases h with
  | arrive w request h =>
    refine hs.setPhase _ _ (phaseStands_first _ _) ?_
    intro request' read' hlocked
    cases request <;> cases hlocked
  | found w identity email wallet account h hread =>
    exact hs.setPhase _ _ (mem_of_provisionRead hread) (by simp)
  | notFound w identity email wallet h hread => exact hs.setPhase _ _ trivial (by simp)
  | lock w request account h free hread =>
    refine hs.setPhase _ _ (readStands_of_lockedRead hs.recorded hread) ?_
    intro request' read' hlocked w' request'' read'' _ hw' heq
    cases hlocked
    exact free w' _ _ hw' (by rw [heq])
  | commit w now id request read db account change h hwrite => exact hs.commit h hwrite
  | adoptWallet w identity email wallet account db h hwrite =>
    have hw := hs.stands w
    rw [h] at hw
    cases wallet with
    | none =>
      cases hwrite
      exact hs.setPhase _ _ hw (by simp)
    | some address =>
      have hplain := hs.plain (by constructor <;> intro row <;> split <;> rfl) hwrite
      have hidentities : db.identities = s.db.identities := by rw [updateAccount_ok hwrite]
      refine hplain.setPhase w (.adoptingEmail identity email account) ?_ (by simp)
      show _ ∈ db.identities.rows
      rw [hidentities]
      exact hw
  | adoptEmail w identity email account db h hwrite =>
    have hw := hs.stands w
    rw [h] at hw
    have hplain := hs.plain (by constructor <;> intro row <;> split <;> rfl) hwrite
    have hidentities : db.identities = s.db.identities := by rw [updateAccount_ok hwrite]
    have hidle := hplain.setPhase w .idle trivial (by simp)
    refine ⟨hidle.recorded, hidle.stands, hidle.alone, ?_⟩
    intro answer hanswer
    show _ ∈ db.identities.rows
    rw [hidentities]
    rcases List.mem_cons.1 hanswer with rfl | hanswer
    · exact hw
    · exact hs.answers answer hanswer
  | stop w => exact hs.setPhase _ _ trivial (by simp)
  | setDisabled account disabledAt db hwrite =>
    exact hs.plain (by constructor <;> intro row <;> rfl) hwrite

lemma sound_of_reachable (h : Reachable sha256 hashtext s) : Sound s := by
  induction h with
  | refl => exact sound_start
  | tail _ hstep ih => exact ih.step hstep

/-! ### A rotation -/

def sampleIdentity : Identity := ⟨"issuer", "email|one"⟩

def sampleFirst : Request := .issue sampleIdentity none "event-1" "key" (some "one@example.com")

def sampleSecond : Request := .issue sampleIdentity (some 1) "event-2" "other" none

/-- The account after its first key; the length of a key stands for its hash. -/
def sampleAccount : Account := newAccount String.length 7 0 (some "key") (some "one@example.com") none

/-- The tables with one account. -/
def sampleDatabase (row : Account) (events : Table EventRow.key) : Database :=
  ⟨⟨[row], by simp⟩, ⟨[⟨sampleIdentity, row.id⟩], by simp⟩, events⟩

def sampleChanges : List KeyChange :=
  [⟨7, "event-2", some 1, 10, .issued 5 2⟩, ⟨7, "event-1", none, 0, .issued 3 1⟩]

/-- The tables after a first key and a rotation at time 10. -/
def sampleRotated : Database :=
  sampleDatabase (sampleAccount.rotate String.length 10 "other" none)
    ⟨[⟨7, "event-1"⟩, ⟨7, "event-2"⟩], by decide⟩

/-- A first key is issued, and then another one. -/
lemma sample_rotation : ∃ s, Reachable String.length String.length s ∧ s.db = sampleRotated ∧
    s.changes = sampleChanges ∧ s.answers = [(sampleIdentity, 7), (sampleIdentity, 7)] := by
  have h₁ : Reachable String.length String.length start := Relation.ReflTransGen.refl
  have h₂ := h₁.tail (.arrive 0 sampleFirst rfl)
  have h₃ := h₂.tail (.lock 0 sampleFirst none rfl (by
    intro w' request' account' hw'
    by_cases hw : w' = 0 <;> simp [setPhase, start, sampleFirst, Request.first, hw] at hw') rfl)
  have h₄ := h₃.tail (.commit 0 0 7 sampleFirst none
    (sampleDatabase sampleAccount ⟨[⟨7, "event-1"⟩], by decide⟩) 7
    (some ⟨7, "event-1", none, 0, .issued 3 1⟩) rfl rfl)
  have h₅ := h₄.tail (.arrive 0 sampleSecond rfl)
  have h₆ := h₅.tail (.lock 0 sampleSecond (some 7) rfl (by
    intro w' request' account' hw'
    by_cases hw : w' = 0 <;> simp [setPhase, start, sampleSecond, Request.first, hw] at hw') rfl)
  have h₇ := h₆.tail (.commit 0 10 8 sampleSecond (some 7) sampleRotated 7
    (some ⟨7, "event-2", some 1, 10, .issued 5 2⟩) rfl rfl)
  exact ⟨_, h₇, rfl, rfl, rfl⟩

/-! ### Which keys are accepted -/

/-- The account is enabled, and the key is the one that its last change issued, or the one that
this change replaced less than the grace period ago. -/
def KeyHeld (s : System) (now : Time) (hash : Hash) (account : AccountId) : Prop :=
  (∃ row ∈ s.db.accounts.rows, row.id = account ∧ row.disabledAt = none) ∧
  ((∃ change older generation, changesOf s.changes account = change :: older ∧
      change.kind = .issued hash generation) ∨
    ∃ change replaced older hash' generation generation',
      changesOf s.changes account = change :: replaced :: older ∧
      change.kind = .issued hash' generation ∧ replaced.kind = .issued hash generation' ∧
      now < change.changedAt + apiKeyGrace)

lemma currentKey_eq_some {changes : List KeyChange} {hash : Hash} :
    currentKey changes = some hash ↔ ∃ change older generation,
      changes = change :: older ∧ change.kind = .issued hash generation := by
  cases changes with
  | nil => simp [currentKey]
  | cons change older =>
    rw [currentKey]
    cases hkind : change.kind with
    | issued hash' generation =>
      constructor
      · intro h
        cases h
        exact ⟨change, older, generation, rfl, hkind⟩
      · rintro ⟨c, o, g, heq, hkind'⟩
        cases heq
        rw [hkind] at hkind'
        cases hkind'
        rfl
    | revoked =>
      constructor
      · intro h
        cases h
      · rintro ⟨c, o, g, heq, hkind'⟩
        cases heq
        rw [hkind] at hkind'
        cases hkind'

lemma previousKey_eq_some {changes : List KeyChange} {hash : Hash} {expires : Time} :
    previousKey changes = some (hash, expires) ↔ ∃ change replaced older hash' generation generation',
      changes = change :: replaced :: older ∧ change.kind = .issued hash' generation ∧
      replaced.kind = .issued hash generation' ∧ expires = change.changedAt + apiKeyGrace := by
  cases changes with
  | nil => simp [previousKey]
  | cons change older =>
    rw [previousKey, Option.bind_eq_some_iff]
    constructor
    · rintro ⟨hash', hhash', hprevious⟩
      obtain ⟨hash'', hcurrent, heq⟩ := Option.map_eq_some_iff.1 hprevious
      cases heq
      obtain ⟨replaced, rest, generation', rfl, hkind'⟩ := currentKey_eq_some.1 hcurrent
      cases hkind : change.kind with
      | issued hash₁ generation =>
        exact ⟨change, replaced, rest, hash₁, generation, generation', rfl, hkind, hkind', rfl⟩
      | revoked =>
        rw [hkind] at hhash'
        cases hhash'
    · rintro ⟨c, replaced, rest, hash', generation, generation', heq, hkind, hkind', rfl⟩
      cases heq
      refine ⟨hash', by rw [hkind]; rfl, Option.map_eq_some_iff.2 ⟨hash, ?_, rfl⟩⟩
      exact currentKey_eq_some.2 ⟨replaced, rest, generation', rfl, hkind'⟩

/-- A row accepts the keys that its history left. -/
lemma Account.Follows.accepts {row : Account} {changes : List KeyChange} (h : row.Follows changes)
    {now : Time} {hash : Hash} : row.accepts now hash = true ↔ row.disabledAt = none ∧
      (currentKey changes = some hash ∨
        ∃ expires, previousKey changes = some (hash, expires) ∧ now < expires) := by
  rw [Account.accepts, h.current, h.previous, h.expires]
  simp only [Bool.and_eq_true, Bool.or_eq_true, decide_eq_true_eq]
  refine and_congr_right fun _ => or_congr_right ?_
  cases previousKey changes with
  | none => simp
  | some previous =>
    obtain ⟨hash', expires⟩ := previous
    simp only [Option.map_some, Option.some.injEq, Option.any_some, decide_eq_true_eq, Prod.mk.injEq]
    constructor
    · rintro ⟨rfl, hlt⟩
      exact ⟨expires, ⟨rfl, rfl⟩, hlt⟩
    · rintro ⟨e, ⟨rfl, rfl⟩, hlt⟩
      exact ⟨rfl, hlt⟩

lemma Sound.accepts (hs : Sound s) {row : Account} (hrow : row ∈ s.db.accounts.rows) {now : Time}
    {hash : Hash} : row.accepts now hash = true ↔ KeyHeld s now hash row.id := by
  rw [(hs.recorded.keys row hrow).accepts, currentKey_eq_some]
  constructor
  · rintro ⟨henabled, hcurrent | ⟨expires, hprevious, hlt⟩⟩
    · exact ⟨⟨row, hrow, rfl, henabled⟩, Or.inl hcurrent⟩
    · obtain ⟨change, replaced, older, hash', g, g', heq, hkind, hkind', rfl⟩ :=
        previousKey_eq_some.1 hprevious
      exact ⟨⟨row, hrow, rfl, henabled⟩, Or.inr ⟨_, _, _, _, _, _, heq, hkind, hkind', hlt⟩⟩
  · rintro ⟨⟨row', hrow', hid, henabled⟩, hkey⟩
    rw [s.db.accounts.eq_of_key_eq hrow' hrow hid] at henabled
    refine ⟨henabled, ?_⟩
    rcases hkey with hcurrent | ⟨change, replaced, older, hash', g, g', heq, hkind, hkind', hlt⟩
    · exact Or.inl hcurrent
    · exact Or.inr ⟨_, previousKey_eq_some.2 ⟨_, _, _, _, _, _, heq, hkind, hkind', rfl⟩, hlt⟩

/-- In every state of every run a key authenticates an account exactly as the account's history of
key changes says: the account is enabled, and its last change issued the key, or replaced it less
than a day ago by another one.  So a revocation ends both keys at once, and a rotation ends the key
before the previous one.  If one key is the current key of an account and the previous key of another,
nothing is said about which of the two is authenticated. -/
theorem keys_authenticate_by_history (sha256 : String → Hash) (hashtext : String → ℕ) (s : System)
    (h : Reachable sha256 hashtext s) (now : Time) (key : String) :
    (∀ account, authenticate sha256 s.db now key = some account →
      KeyHeld s now (sha256 key) account) ∧
    (authenticate sha256 s.db now key = none → ∀ account, ¬ KeyHeld s now (sha256 key) account) := by
  have hs := sound_of_reachable h
  refine ⟨fun account hauth => ?_, fun hauth account hheld => ?_⟩
  · obtain ⟨row, hfind, rfl⟩ := Option.map_eq_some_iff.1 hauth
    have haccepts : row.accepts now (sha256 key) = true :=
      List.find?_some (p := fun row : Account => row.accepts now (sha256 key)) hfind
    exact (hs.accepts (List.mem_of_find?_eq_some hfind)).1 haccepts
  · obtain ⟨⟨row, hrow, rfl, -⟩, -⟩ := id hheld
    have hnone := List.find?_eq_none.1 (Option.map_eq_none_iff.1 hauth) row hrow
    exact hnone ((hs.accepts hrow).2 hheld)

theorem keys_authenticate_by_history_sample :
    ∃ s, Reachable String.length String.length s ∧ s.changes = sampleChanges ∧
      KeyHeld s 11 3 7 ∧ KeyHeld s 11 5 7 ∧ ∀ account, ¬ KeyHeld s (10 + apiKeyGrace) 3 account := by
  obtain ⟨s, hs, hdb, hchanges, -⟩ := sample_rotation
  have hkey := keys_authenticate_by_history String.length String.length s hs
  rw [hdb] at hkey
  exact ⟨s, hs, hchanges, (hkey 11 "key").1 7 rfl, (hkey 11 "other").1 7 rfl,
    (hkey (10 + apiKeyGrace) "key").2 rfl⟩

/-- In every state of every run the key changes of an account are serial: each names the generation
that the one before it left, and each new key is one generation further.  No generation is issued
twice, and no authentication event is used for two changes of an account. -/
theorem key_changes_are_serial (sha256 : String → Hash) (hashtext : String → ℕ) (s : System)
    (h : Reachable sha256 hashtext s) :
    (s.changes.map fun change => (change.account, change.event)).Nodup ∧
    ∀ row ∈ s.db.accounts.rows, Serial (changesOf s.changes row.id) row.apiKeyGeneration ∧
      (issuedGenerations (changesOf s.changes row.id)).Nodup ∧
      ∀ generation ∈ issuedGenerations (changesOf s.changes row.id),
        generation ≤ row.apiKeyGeneration := by
  have hs := sound_of_reachable h
  refine ⟨hs.recorded.once, fun row hrow => ?_⟩
  have hserial := hs.recorded.serial row hrow
  exact ⟨hserial, hserial.nodup, hserial.issued_le⟩

theorem key_changes_are_serial_sample :
    ∃ s, Reachable String.length String.length s ∧ s.changes = sampleChanges ∧
      Serial (changesOf s.changes 7) 2 ∧
      (s.changes.map fun change => (change.account, change.event)).Nodup := by
  obtain ⟨s, hs, hdb, hchanges, -⟩ := sample_rotation
  obtain ⟨honce, hserial⟩ := key_changes_are_serial String.length String.length s hs
  rw [hdb] at hserial
  exact ⟨s, hs, hchanges, (hserial _ (List.mem_singleton.2 rfl)).1, honce⟩

/-! ### One account for each identity -/

/-- Every account is still there, and has a wallet if it had one. -/
def WalletsKept (db db' : Database) : Prop :=
  ∀ row ∈ db.accounts.rows, ∃ row' ∈ db'.accounts.rows, row'.id = row.id ∧
    (row.walletAddress.isSome → row'.walletAddress.isSome)

lemma WalletsKept.refl (db : Database) : WalletsKept db db :=
  fun row hrow => ⟨row, hrow, rfl, id⟩

lemma WalletsKept.trans {db db' db'' : Database} (h : WalletsKept db db')
    (h' : WalletsKept db' db'') : WalletsKept db db'' := by
  intro row hrow
  obtain ⟨row', hrow', hid', hwallet'⟩ := h row hrow
  obtain ⟨row'', hrow'', hid'', hwallet''⟩ := h' row' hrow'
  exact ⟨row'', hrow'', hid''.trans hid', fun hwallet => hwallet'' (hwallet' hwallet)⟩

lemma WalletsKept.update (db : Database) {account : AccountId} {f : Account → Account}
    (hf : ∀ row, (f row).id = row.id) {events : Table EventRow.key}
    (hwallet : ∀ row, row.walletAddress.isSome → (f row).walletAddress.isSome) :
    WalletsKept db ⟨db.accounts.updateWhere (fun row => decide (row.id = account)) f hf,
      db.identities, events⟩ := by
  intro row hrow
  show ∃ row' ∈ (db.accounts.updateWhere (fun row => decide (row.id = account)) f hf).rows, _
  by_cases hid : row.id = account
  · exact ⟨f row, Table.mem_updateWhere_of hrow (decide_eq_true hid), hf row, hwallet row⟩
  · exact ⟨row, Table.mem_updateWhere_of_not hrow (decide_eq_false hid), rfl, id⟩

lemma WalletsKept.append {db db' : Database} {new : List Account}
    (h : db'.accounts.rows = db.accounts.rows ++ new) : WalletsKept db db' := by
  intro row hrow
  refine ⟨row, ?_, rfl, id⟩
  rw [h]
  exact List.mem_append_left _ hrow

lemma walletsKept_lockedWrite {db db' : Database} {now : Time} {id account : AccountId}
    {request : Request} {read : Option AccountId} {change : Option KeyChange}
    (h : lockedWrite sha256 db now id request read = .ok (db', account, change)) :
    WalletsKept db db' := by
  cases request with
  | issue identity expected event key email =>
    cases read with
    | some account' =>
      obtain ⟨⟨db₁, issued⟩, hissue, heq⟩ := map_eq_ok.1 h
      cases heq
      obtain ⟨-, -, events, -, rfl⟩ := issueRotation_ok hissue
      exact WalletsKept.update db _ fun row hwallet => hwallet
    | none =>
      obtain ⟨⟨db₁, issued⟩, hissue, heq⟩ := map_eq_ok.1 h
      cases heq
      obtain ⟨-, db₁, hinsert, events, -, rfl⟩ := issueFirst_ok hissue
      exact WalletsKept.append (insertAccount_ok hinsert).2.2.1
  | revoke identity expected event =>
    cases read with
    | some account' =>
      obtain ⟨db₁, hrevoke, heq⟩ := map_eq_ok.1 h
      cases heq
      obtain ⟨-, events, -, rfl⟩ := revokeApiKey_ok hrevoke
      exact WalletsKept.update db _ fun row hwallet => hwallet
    | none => cases h
  | provision identity email wallet =>
    cases read with
    | some account' =>
      cases h
      exact WalletsKept.refl db
    | none =>
      obtain ⟨db₁, hprovision, heq⟩ := map_eq_ok.1 h
      cases heq
      exact WalletsKept.append (insertAccount_ok hprovision).2.2.1

lemma walletsKept_step (h : Step sha256 hashtext s s') : WalletsKept s.db s'.db := by
  cases h with
  | commit w now id request read db account change h hwrite => exact walletsKept_lockedWrite hwrite
  | adoptWallet w identity email wallet account db h hwrite =>
    cases wallet with
    | none =>
      cases hwrite
      exact WalletsKept.refl _
    | some address =>
      rw [show db = _ from updateAccount_ok hwrite]
      refine WalletsKept.update s.db _ fun row hwallet => ?_
      split
      · exact hwallet
      · rfl
  | adoptEmail w identity email account db h hwrite =>
    rw [show db = _ from updateAccount_ok hwrite]
    refine WalletsKept.update s.db _ fun row hwallet => ?_
    split <;> exact hwallet
  | setDisabled account disabledAt db hwrite =>
    rw [show db = _ from updateAccount_ok hwrite]
    exact WalletsKept.update s.db _ fun row hwallet => hwallet
  | _ => exact WalletsKept.refl _

/-- In every run the requests of one identity are all answered with one account, requests of two
identities with two accounts, however they interleave, and an account that has a wallet has one
from then on. -/
theorem identities_have_one_account (sha256 : String → Hash) (hashtext : String → ℕ) (s : System)
    (h : Reachable sha256 hashtext s) :
    (∀ answer ∈ s.answers, ∀ answer' ∈ s.answers, answer.1 = answer'.1 ↔ answer.2 = answer'.2) ∧
    ∀ s', Relation.ReflTransGen (Step sha256 hashtext) s s' → ∀ row ∈ s.db.accounts.rows,
      row.walletAddress.isSome → ∃ row' ∈ s'.db.accounts.rows, row'.id = row.id ∧
        row'.walletAddress.isSome := by
  have hs := sound_of_reachable h
  refine ⟨fun answer hanswer answer' hanswer' => ?_, fun s' hrun row hrow hwallet => ?_⟩
  · have hrow := hs.answers answer hanswer
    have hrow' := hs.answers answer' hanswer'
    constructor
    · intro heq
      exact congrArg IdentityRow.accountId (s.db.identities.eq_of_key_eq hrow hrow' heq)
    · intro heq
      exact congrArg IdentityRow.identity (List.inj_on_of_nodup_map hs.recorded.owners hrow hrow' heq)
  · have hkept : WalletsKept s.db s'.db := by
      induction hrun with
      | refl => exact WalletsKept.refl _
      | tail _ hstep ih => exact ih.trans (walletsKept_step hstep)
    obtain ⟨row', hrow', hid, hwallet'⟩ := hkept row hrow
    exact ⟨row', hrow', hid, hwallet' hwallet⟩

theorem identities_have_one_account_sample :
    ∃ s, Reachable String.length String.length s ∧
      s.answers = [(sampleIdentity, 7), (sampleIdentity, 7)] ∧
      ∀ answer ∈ s.answers, ∀ answer' ∈ s.answers, answer.1 = answer'.1 ↔ answer.2 = answer'.2 := by
  obtain ⟨s, hs, -, -, hanswers⟩ := sample_rotation
  exact ⟨s, hs, hanswers, (identities_have_one_account String.length String.length s hs).1⟩

end Payday.Accounts
