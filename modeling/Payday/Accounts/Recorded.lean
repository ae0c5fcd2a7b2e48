/-
# The account tables and the key history

What the statements on the accounts do to the tables, and what ties the tables to the history of
key changes: the key columns are a function of the account's changes, the changes are serial, and an
account belongs to one identity.  Each kind of write keeps that, given that what its request read
under the lock is still so.
-/
import Payday.Accounts.Requests

namespace Payday.Accounts

/-! ### What the statements do -/

lemma constrained_eq_some {t t' : Table Account.id} (h : constrained t = some t') : t' = t := by
  unfold constrained at h
  split at h
  · exact (Option.some.inj h).symm
  · cases h

lemma updateAccount_ok {db db' : Database} {account : AccountId} {f : Account → Account}
    {hf : ∀ row, (f row).id = row.id} (h : updateAccount db account f hf = .ok db') :
    db' = { db with
      accounts := db.accounts.updateWhere (fun row => decide (row.id = account)) f hf } := by
  unfold updateAccount at h
  split at h
  · rename_i accounts hc
    cases h
    rw [constrained_eq_some hc]
  · cases h

/-- An event is used when it was not before. -/
lemma useEvent_ok {db db' : Database} {account : AccountId} {event : String}
    (h : useEvent db account event = .ok db') :
    (account, event) ∉ db.events.rows.map EventRow.key ∧ ∃ events, db' = { db with events := events } ∧
      events.rows = db.events.rows ++ [⟨account, event⟩] := by
  unfold useEvent at h
  split at h
  · split at h
    · rename_i events hinsert
      cases h
      obtain ⟨hnew, hrows⟩ := Table.insert?_eq_some_iff.1 hinsert
      exact ⟨hnew, events, rfl, hrows⟩
    · cases h
  · cases h

lemma insertAccount_ok {db db' : Database} {identity : Identity} {account : Account}
    (h : insertAccount db identity account = .ok db') :
    account.id ∉ db.accounts.rows.map Account.id ∧
    identity ∉ db.identities.rows.map IdentityRow.identity ∧
    db'.accounts.rows = db.accounts.rows ++ [account] ∧
    db'.identities.rows = db.identities.rows ++ [⟨identity, account.id⟩] ∧
    db'.events = db.events := by
  unfold insertAccount at h
  split at h
  · rename_i accounts identities haccounts hidentities
    split at h
    · cases h
      obtain ⟨t, ht, hc⟩ := Option.bind_eq_some_iff.1 haccounts
      obtain ⟨hnew, hrows⟩ := Table.insert?_eq_some_iff.1 ht
      obtain ⟨hnew', hrows'⟩ := Table.insert?_eq_some_iff.1 hidentities
      refine ⟨hnew, hnew', ?_, hrows', rfl⟩
      rw [constrained_eq_some hc]
      exact hrows
    · cases h
  · cases h

lemma identityAccount_eq_some {db : Database} {identity : Identity} {account : Account}
    (h : identityAccount db identity = some account) :
    ⟨identity, account.id⟩ ∈ db.identities.rows ∧ account ∈ db.accounts.rows := by
  obtain ⟨row, hrow, haccount⟩ := Option.bind_eq_some_iff.1 h
  refine ⟨?_, Table.mem_of_find? haccount⟩
  rw [← Table.key_of_find? hrow, Table.key_of_find? haccount]
  exact Table.mem_of_find? hrow

/-- An identity whose account is there and that has none found has no account. -/
lemma notMem_of_identityAccount {db : Database} {identity : Identity}
    (howned : ∀ row ∈ db.identities.rows, row.accountId ∈ db.accounts.rows.map Account.id)
    (h : identityAccount db identity = none) :
    identity ∉ db.identities.rows.map IdentityRow.identity := by
  intro hmem
  obtain ⟨row, hrow, rfl⟩ := List.mem_map.1 hmem
  rw [identityAccount, Table.find?_of_mem hrow, Option.bind_some] at h
  exact Table.find?_eq_none_iff.1 h (howned row hrow)

lemma issueRotation_ok {sha256 : String → Hash} {db db' : Database} {now : Time}
    {account : AccountId} {event key : String} {email : Option String} {issued : IssuedApiKey}
    (h : issueRotation sha256 db now account event key email = .ok (db', issued)) :
    (account, event) ∉ db.events.rows.map EventRow.key ∧
    (∃ row ∈ db.accounts.rows, row.id = account ∧ issued.generation = row.apiKeyGeneration + 1) ∧
    ∃ events, events.rows = db.events.rows ++ [⟨account, event⟩] ∧
      db' = ⟨db.accounts.updateWhere (fun row => decide (row.id = account))
        (Account.rotate sha256 · now key email) (fun row => row.id_rotate sha256 now key email),
        db.identities, events⟩ := by
  unfold issueRotation at h
  split at h
  · cases h
  rename_i db₁ hevent
  obtain ⟨hnew, events, rfl, hrows⟩ := useEvent_ok hevent
  split at h
  · cases h
  rename_i db₂ hupdate
  cases updateAccount_ok hupdate
  split at h
  · rename_i row hfind
    cases h
    refine ⟨hnew, ?_, events, hrows, rfl⟩
    have hrow : row ∈ (db.accounts.updateWhere (fun row => decide (row.id = account))
        (Account.rotate sha256 · now key email)
        (fun row => row.id_rotate sha256 now key email)).rows := Table.mem_of_find? hfind
    rcases Table.mem_updateWhere hrow with ⟨row₀, hrow₀, hid, rfl⟩ | ⟨-, hid⟩
    · exact ⟨row₀, hrow₀, of_decide_eq_true hid, rfl⟩
    · exact absurd (Table.key_of_find? hfind) (of_decide_eq_false hid)
  · cases h

lemma issueFirst_ok {sha256 : String → Hash} {db db' : Database} {now : Time} {id : AccountId}
    {identity : Identity} {event key : String} {email : Option String} {issued : IssuedApiKey}
    (h : issueFirst sha256 db now id identity event key email = .ok (db', issued)) :
    issued.generation = 1 ∧ ∃ db₁,
      insertAccount db identity (newAccount sha256 id now (some key) email none) = .ok db₁ ∧
      ∃ events, events.rows = db₁.events.rows ++ [⟨id, event⟩] ∧ db' = { db₁ with events := events } := by
  unfold issueFirst at h
  split at h
  · cases h
  rename_i db₁ hinsert
  split at h
  · cases h
  rename_i db₂ hevent
  obtain ⟨-, events, rfl, hrows⟩ := useEvent_ok hevent
  cases h
  exact ⟨rfl, db₁, hinsert, events, hrows, rfl⟩

lemma revokeApiKey_ok {db db' : Database} {now : Time} {account : AccountId} {event : String}
    (h : revokeApiKey db now account event = .ok db') :
    (account, event) ∉ db.events.rows.map EventRow.key ∧
    ∃ events, events.rows = db.events.rows ++ [⟨account, event⟩] ∧
      db' = ⟨db.accounts.updateWhere (fun row => decide (row.id = account)) (Account.revoke · now)
        (fun row => row.id_revoke now), db.identities, events⟩ := by
  unfold revokeApiKey at h
  split at h
  · cases h
  rename_i db₁ hevent
  obtain ⟨hnew, events, rfl, hrows⟩ := useEvent_ok hevent
  exact ⟨hnew, events, hrows, updateAccount_ok h⟩

/-! ### What a history leaves -/

/-- The hash that a change issued. -/
def ChangeKind.hash : ChangeKind → Option Hash
  | .issued hash _ => some hash
  | .revoked => none

/-- The key that is current after the changes, the newest first. -/
def currentKey : List KeyChange → Option Hash
  | [] => none
  | change :: _ => change.kind.hash

/-- The key that the last change replaced, and when its grace ends. -/
def previousKey : List KeyChange → Option (Hash × Time)
  | [] => none
  | change :: older =>
    change.kind.hash.bind fun _ => (currentKey older).map fun hash =>
      (hash, change.changedAt + apiKeyGrace)

/-- The columns of an account say what its history left. -/
structure Account.Follows (row : Account) (changes : List KeyChange) : Prop where
  current : row.apiKeyHash = currentKey changes
  previous : row.previousApiKeyHash = (previousKey changes).map Prod.fst
  expires : row.previousApiKeyExpiresAt = (previousKey changes).map Prod.snd

/-- The changes of one account, the newest first, and the generation they left: each change names
the generation before it, and each issue goes one further.  An account is created with a key, or by
a sign-in without one. -/
inductive Serial : List KeyChange → ℕ → Prop
  | provisioned : Serial [] 1
  | created (change : KeyChange) (hash : Hash) (hexpected : change.expectedGeneration = none)
      (hkind : change.kind = .issued hash 1) : Serial [change] 1
  | rotated (change : KeyChange) (older : List KeyChange) (generation : ℕ) (hash : Hash)
      (holder : Serial older generation) (hexpected : change.expectedGeneration = some generation)
      (hkind : change.kind = .issued hash (generation + 1)) :
      Serial (change :: older) (generation + 1)
  | revoked (change : KeyChange) (older : List KeyChange) (generation : ℕ)
      (holder : Serial older generation) (hexpected : change.expectedGeneration = some generation)
      (hkind : change.kind = .revoked) : Serial (change :: older) generation

/-- The generations that a history issued, the newest first. -/
def issuedGenerations (changes : List KeyChange) : List ℕ :=
  changes.filterMap fun change =>
    match change.kind with
    | .issued _ generation => some generation
    | .revoked => none

lemma Serial.issued_le {changes : List KeyChange} {generation : ℕ} (h : Serial changes generation) :
    ∀ g ∈ issuedGenerations changes, g ≤ generation := by
  induction h with
  | provisioned => simp [issuedGenerations]
  | created change hash _ hkind => simp [issuedGenerations, hkind]
  | rotated change older generation hash _ _ hkind ih =>
    intro g hg
    simp only [issuedGenerations, List.filterMap_cons, hkind, List.mem_cons] at hg
    rcases hg with rfl | hg
    · exact le_refl _
    · exact Nat.le_succ_of_le (ih g hg)
  | revoked change older generation _ _ hkind ih =>
    intro g hg
    simp only [issuedGenerations, List.filterMap_cons, hkind] at hg
    exact ih g hg

/-- No generation is issued twice. -/
lemma Serial.nodup {changes : List KeyChange} {generation : ℕ} (h : Serial changes generation) :
    (issuedGenerations changes).Nodup := by
  induction h with
  | provisioned => simp [issuedGenerations]
  | created change hash _ hkind => simp [issuedGenerations, hkind]
  | rotated change older generation hash holder _ hkind ih =>
    simp only [issuedGenerations, List.filterMap_cons, hkind, List.nodup_cons]
    refine ⟨fun hmem => ?_, ih⟩
    have hle := holder.issued_le _ hmem
    omega
  | revoked change older generation _ _ hkind ih =>
    simp only [issuedGenerations, List.filterMap_cons, hkind]
    exact ih

/-! ### The invariant -/

/-- The tables agree with the history. -/
structure Recorded (db : Database) (changes : List KeyChange) : Prop where
  keys : ∀ row ∈ db.accounts.rows, row.Follows (changesOf changes row.id)
  serial : ∀ row ∈ db.accounts.rows, Serial (changesOf changes row.id) row.apiKeyGeneration
  known : ∀ change ∈ changes, change.account ∈ db.accounts.rows.map Account.id
  once : (changes.map fun change => (change.account, change.event)).Nodup
  used : ∀ change ∈ changes, (change.account, change.event) ∈ db.events.rows.map EventRow.key
  /-- An account belongs to one identity. -/
  owners : (db.identities.rows.map (·.accountId)).Nodup
  owned : ∀ row ∈ db.identities.rows, row.accountId ∈ db.accounts.rows.map Account.id

/-- The request named this generation, if it names one. -/
def Request.Expects : Request → Option ℕ → Prop
  | .issue _ expectedGeneration .., generation => expectedGeneration = generation
  | .revoke _ expectedGeneration _, generation => some expectedGeneration = generation
  | .provision .., _ => True

/-- What a request read under the lock is still so. -/
def ReadStands (db : Database) (request : Request) : Option AccountId → Prop
  | some account => ⟨request.identity, account⟩ ∈ db.identities.rows ∧
      ∀ row ∈ db.accounts.rows, row.id = account → request.Expects (some row.apiKeyGeneration)
  | none => request.identity ∉ db.identities.rows.map IdentityRow.identity ∧ request.Expects none

def PhaseStands (db : Database) : Phase → Prop
  | .idle | .looking _ | .waiting _ => True
  | .locked request read => ReadStands db request read
  | .adoptingWallet identity _ _ account | .adoptingEmail identity _ account =>
    ⟨identity, account⟩ ∈ db.identities.rows

/-- What holds in every state of every run. -/
structure Sound (s : System) : Prop where
  recorded : Recorded s.db s.changes
  stands : ∀ w, PhaseStands s.db (s.requests w)
  alone : ∀ w w' request request' read read', s.requests w = .locked request read →
    s.requests w' = .locked request' read' → request.identity = request'.identity → w = w'
  answers : ∀ answer ∈ s.answers, ⟨answer.1, answer.2⟩ ∈ s.db.identities.rows

/-! ### The tables -/

lemma changesOf_cons_self {change : KeyChange} {changes : List KeyChange} {account : AccountId}
    (h : change.account = account) :
    changesOf (change :: changes) account = change :: changesOf changes account := by
  simp [changesOf, h]

lemma changesOf_cons_of_ne {change : KeyChange} {changes : List KeyChange} {account : AccountId}
    (h : change.account ≠ account) :
    changesOf (change :: changes) account = changesOf changes account := by
  simp [changesOf, h]

lemma keys_updateWhere_id {t : Table Account.id} {p : Account → Bool} {f : Account → Account}
    (hf : ∀ row, (f row).id = row.id) :
    (t.updateWhere p f hf).rows.map Account.id = t.rows.map Account.id := by
  rw [Table.rows_updateWhere, List.map_map]
  refine List.map_congr_left fun row _ => ?_
  simp only [Function.comp_apply]
  split
  · exact hf row
  · rfl

/-- An update of the columns that say nothing about keys. -/
structure Plain (f : Account → Account) : Prop where
  hash : ∀ row, (f row).apiKeyHash = row.apiKeyHash
  previous : ∀ row, (f row).previousApiKeyHash = row.previousApiKeyHash
  expires : ∀ row, (f row).previousApiKeyExpiresAt = row.previousApiKeyExpiresAt
  generation : ∀ row, (f row).apiKeyGeneration = row.apiKeyGeneration

lemma Recorded.plain {db : Database} {changes : List KeyChange} (hr : Recorded db changes)
    {p : Account → Bool} {f : Account → Account} (hf : ∀ row, (f row).id = row.id) (h : Plain f) :
    Recorded { db with accounts := db.accounts.updateWhere p f hf } changes where
  keys := by
    intro row hrow
    have hrow : row ∈ (db.accounts.updateWhere p f hf).rows := hrow
    rcases Table.mem_updateWhere hrow with ⟨row₀, hrow₀, -, rfl⟩ | ⟨hrow, -⟩
    · have hk := hr.keys row₀ hrow₀
      rw [hf]
      exact ⟨(h.hash _).trans hk.current, (h.previous _).trans hk.previous,
        (h.expires _).trans hk.expires⟩
    · exact hr.keys row hrow
  serial := by
    intro row hrow
    have hrow : row ∈ (db.accounts.updateWhere p f hf).rows := hrow
    rcases Table.mem_updateWhere hrow with ⟨row₀, hrow₀, -, rfl⟩ | ⟨hrow, -⟩
    · rw [hf, h.generation]
      exact hr.serial row₀ hrow₀
    · exact hr.serial row hrow
  known := by
    intro change hchange
    show _ ∈ (db.accounts.updateWhere p f hf).rows.map Account.id
    rw [keys_updateWhere_id]
    exact hr.known change hchange
  once := hr.once
  used := hr.used
  owners := hr.owners
  owned := by
    intro row hrow
    show _ ∈ (db.accounts.updateWhere p f hf).rows.map Account.id
    rw [keys_updateWhere_id]
    exact hr.owned row hrow

/-- A key change of one account under an event that was not used. -/
lemma Recorded.change {db : Database} {changes : List KeyChange} (hr : Recorded db changes)
    (change : KeyChange) {f : Account → Account} (hf : ∀ row, (f row).id = row.id)
    {events : Table EventRow.key}
    (hnew : (change.account, change.event) ∉ db.events.rows.map EventRow.key)
    (hevents : events.rows = db.events.rows ++ [⟨change.account, change.event⟩])
    (haccount : change.account ∈ db.accounts.rows.map Account.id)
    (hfollows : ∀ row ∈ db.accounts.rows, row.id = change.account →
      row.Follows (changesOf changes row.id) →
      (f row).Follows (change :: changesOf changes row.id))
    (hserial : ∀ row ∈ db.accounts.rows, row.id = change.account →
      Serial (changesOf changes row.id) row.apiKeyGeneration →
      Serial (change :: changesOf changes row.id) (f row).apiKeyGeneration) :
    Recorded
      { accounts := db.accounts.updateWhere (fun row => decide (row.id = change.account)) f hf
        identities := db.identities
        events := events } (change :: changes) where
  keys := by
    intro row hrow
    have hrow : row ∈ (db.accounts.updateWhere (fun row => decide (row.id = change.account)) f
      hf).rows := hrow
    rcases Table.mem_updateWhere hrow with ⟨row₀, hrow₀, hid, rfl⟩ | ⟨hrow, hid⟩
    · have hid : row₀.id = change.account := of_decide_eq_true hid
      rw [hf, changesOf_cons_self hid.symm]
      exact hfollows row₀ hrow₀ hid (hr.keys row₀ hrow₀)
    · rw [changesOf_cons_of_ne (Ne.symm (of_decide_eq_false hid))]
      exact hr.keys row hrow
  serial := by
    intro row hrow
    have hrow : row ∈ (db.accounts.updateWhere (fun row => decide (row.id = change.account)) f
      hf).rows := hrow
    rcases Table.mem_updateWhere hrow with ⟨row₀, hrow₀, hid, rfl⟩ | ⟨hrow, hid⟩
    · have hid : row₀.id = change.account := of_decide_eq_true hid
      rw [hf, changesOf_cons_self hid.symm]
      exact hserial row₀ hrow₀ hid (hr.serial row₀ hrow₀)
    · rw [changesOf_cons_of_ne (Ne.symm (of_decide_eq_false hid))]
      exact hr.serial row hrow
  known := by
    intro change' hchange'
    show _ ∈ (db.accounts.updateWhere _ f hf).rows.map Account.id
    rw [keys_updateWhere_id]
    rcases List.mem_cons.1 hchange' with rfl | hchange'
    · exact haccount
    · exact hr.known change' hchange'
  once := by
    rw [List.map_cons, List.nodup_cons]
    refine ⟨fun hmem => hnew ?_, hr.once⟩
    obtain ⟨change', hchange', heq⟩ := List.mem_map.1 hmem
    rw [← heq]
    exact hr.used change' hchange'
  used := by
    intro change' hchange'
    rw [hevents, List.map_append, List.mem_append]
    rcases List.mem_cons.1 hchange' with rfl | hchange'
    · exact Or.inr (List.mem_singleton.2 rfl)
    · exact Or.inl (hr.used change' hchange')
  owners := hr.owners
  owned := by
    intro row hrow
    show _ ∈ (db.accounts.updateWhere _ f hf).rows.map Account.id
    rw [keys_updateWhere_id]
    exact hr.owned row hrow

/-- A new account for an identity without one, with a first key or without. -/
lemma Recorded.insert {db db' : Database} {changes : List KeyChange} (hr : Recorded db changes)
    {identity : Identity} {account : Account} (change : Option KeyChange)
    (hid : account.id ∉ db.accounts.rows.map Account.id)
    (haccounts : db'.accounts.rows = db.accounts.rows ++ [account])
    (hidentities : db'.identities.rows = db.identities.rows ++ [⟨identity, account.id⟩])
    (hchange : ∀ c ∈ change.toList, c.account = account.id)
    (hevents : db'.events.rows = db.events.rows ++ change.toList.map fun c => ⟨c.account, c.event⟩)
    (hfollows : account.Follows change.toList)
    (hserial : Serial change.toList account.apiKeyGeneration) :
    Recorded db' (change.toList ++ changes) := by
  -- the history of the new account is its first key
  have hhistory : changesOf (change.toList ++ changes) account.id = change.toList := by
    rw [changesOf, List.filter_append, List.filter_eq_self.2 (by simpa using hchange),
      List.append_right_eq_self, List.filter_eq_nil_iff]
    intro c hc heq
    exact hid (of_decide_eq_true heq ▸ hr.known c hc)
  have hothers : ∀ row ∈ db.accounts.rows,
      changesOf (change.toList ++ changes) row.id = changesOf changes row.id := by
    intro row hrow
    have hnone : change.toList.filter (fun c => decide (c.account = row.id)) = [] := by
      rw [List.filter_eq_nil_iff]
      intro c hc heq
      refine hid (List.mem_map.2 ⟨row, hrow, ?_⟩)
      rw [← of_decide_eq_true heq, hchange c hc]
    rw [changesOf, List.filter_append, hnone]
    rfl
  have hkept : ∀ id ∈ db.accounts.rows.map Account.id, id ∈ db'.accounts.rows.map Account.id := by
    intro id hid
    rw [haccounts, List.map_append]
    exact List.mem_append_left _ hid
  have hmem : account.id ∈ db'.accounts.rows.map Account.id := by
    rw [haccounts, List.map_append]
    exact List.mem_append_right _ (List.mem_singleton.2 rfl)
  refine ⟨?_, ?_, ?_, ?_, ?_, ?_, ?_⟩
  · intro row hrow
    rw [haccounts] at hrow
    rcases List.mem_append.1 hrow with hrow | hrow
    · rw [hothers row hrow]
      exact hr.keys row hrow
    · rw [List.mem_singleton.1 hrow, hhistory]
      exact hfollows
  · intro row hrow
    rw [haccounts] at hrow
    rcases List.mem_append.1 hrow with hrow | hrow
    · rw [hothers row hrow]
      exact hr.serial row hrow
    · rw [List.mem_singleton.1 hrow, hhistory]
      exact hserial
  · intro c hc
    rcases List.mem_append.1 hc with hc | hc
    · rw [hchange c hc]
      exact hmem
    · exact hkept _ (hr.known c hc)
  · rw [List.map_append, List.nodup_append]
    refine ⟨?_, hr.once, ?_⟩
    · cases change <;> simp
    · rintro a ha b hb rfl
      obtain ⟨c, hc, rfl⟩ := List.mem_map.1 ha
      obtain ⟨c', hc', heq⟩ := List.mem_map.1 hb
      refine hid ?_
      have heq : c'.account = c.account := congrArg Prod.fst heq
      rw [← hchange c hc, ← heq]
      exact hr.known c' hc'
  · intro c hc
    rw [hevents, List.map_append, List.mem_append]
    rcases List.mem_append.1 hc with hc | hc
    · refine Or.inr ?_
      rw [List.map_map]
      exact List.mem_map.2 ⟨c, hc, rfl⟩
    · exact Or.inl (hr.used c hc)
  · rw [hidentities, List.map_append, List.nodup_append]
    refine ⟨hr.owners, by simp, ?_⟩
    rintro a ha b hb rfl
    obtain ⟨row, hrow, rfl⟩ := List.mem_map.1 ha
    have hb : row.accountId = account.id := by simpa using hb
    exact hid (hb ▸ hr.owned row hrow)
  · intro row hrow
    rw [hidentities] at hrow
    rcases List.mem_append.1 hrow with hrow | hrow
    · exact hkept _ (hr.owned row hrow)
    · rw [List.mem_singleton.1 hrow]
      exact hmem

/-- The key columns after a rotation. -/
lemma Account.Follows.rotate {row : Account} {older : List KeyChange} (h : row.Follows older)
    (sha256 : String → Hash) (change : KeyChange) (key : String) (email : Option String)
    {generation : ℕ} (hkind : change.kind = .issued (sha256 key) generation) :
    (row.rotate sha256 change.changedAt key email).Follows (change :: older) where
  current := by rw [currentKey, hkind]; rfl
  previous := by
    show row.apiKeyHash = _
    rw [previousKey, hkind, ChangeKind.hash, Option.bind_some, Option.map_map, h.current]
    cases currentKey older <;> rfl
  expires := by
    show (if row.apiKeyHash.isNone then none else some (change.changedAt + apiKeyGrace)) = _
    rw [previousKey, hkind, ChangeKind.hash, Option.bind_some, Option.map_map, h.current]
    cases currentKey older <;> rfl

lemma Account.follows_revoke (row : Account) (older : List KeyChange) (change : KeyChange)
    (hkind : change.kind = .revoked) : (row.revoke change.changedAt).Follows (change :: older) where
  current := by rw [currentKey, hkind]; rfl
  previous := by rw [previousKey, hkind]; rfl
  expires := by rw [previousKey, hkind]; rfl

/-! ### What a request read stays so -/

/-- Nothing that another identity's request writes touches what was read. -/
lemma ReadStands.of_others {db db' : Database} {request : Request} {read : Option AccountId}
    (h : ReadStands db request read)
    (hkept : ∀ row ∈ db.identities.rows, row ∈ db'.identities.rows)
    (hnew : ∀ row ∈ db'.identities.rows, row.identity = request.identity →
      row ∈ db.identities.rows)
    (hrows : ∀ account, ⟨request.identity, account⟩ ∈ db.identities.rows →
      ∀ row' ∈ db'.accounts.rows, row'.id = account →
        ∃ row ∈ db.accounts.rows, row.id = account ∧ row.apiKeyGeneration = row'.apiKeyGeneration) :
    ReadStands db' request read := by
  cases read with
  | some account =>
    obtain ⟨hidentity, hexpects⟩ := h
    refine ⟨hkept _ hidentity, fun row' hrow' hid => ?_⟩
    obtain ⟨row, hrow, hid', hgeneration⟩ := hrows account hidentity row' hrow' hid
    rw [← hgeneration]
    exact hexpects row hrow hid'
  | none =>
    refine ⟨fun hmem => ?_, h.2⟩
    obtain ⟨row, hrow, hidentity⟩ := List.mem_map.1 hmem
    exact h.1 (List.mem_map.2 ⟨row, hnew row hrow hidentity, hidentity⟩)

/-- What a commit leaves of the other rows. -/
structure Committed (db db' : Database) (identity : Identity) (account : AccountId) : Prop where
  own : ⟨identity, account⟩ ∈ db'.identities.rows
  kept : ∀ row ∈ db.identities.rows, row ∈ db'.identities.rows
  added : ∀ row ∈ db'.identities.rows, row ∈ db.identities.rows ∨ row.identity = identity
  others : ∀ row ∈ db'.accounts.rows, row.id ≠ account → row ∈ db.accounts.rows

lemma Committed.update {db : Database} {identity : Identity} {account : AccountId}
    {f : Account → Account} (hf : ∀ row, (f row).id = row.id) {events : Table EventRow.key}
    (hown : ⟨identity, account⟩ ∈ db.identities.rows) :
    Committed db ⟨db.accounts.updateWhere (fun row => decide (row.id = account)) f hf,
      db.identities, events⟩ identity account where
  own := hown
  kept := fun _ hrow => hrow
  added := fun _ hrow => Or.inl hrow
  others := by
    intro row hrow hne
    have hrow : row ∈ (db.accounts.updateWhere (fun row => decide (row.id = account)) f hf).rows :=
      hrow
    rcases Table.mem_updateWhere hrow with ⟨row₀, -, hid, rfl⟩ | ⟨hrow, -⟩
    · exact absurd ((hf row₀).trans (of_decide_eq_true hid)) hne
    · exact hrow

lemma Committed.insert {db db' : Database} {identity : Identity} {account : Account}
    (haccounts : db'.accounts.rows = db.accounts.rows ++ [account])
    (hidentities : db'.identities.rows = db.identities.rows ++ [⟨identity, account.id⟩]) :
    Committed db db' identity account.id where
  own := by
    rw [hidentities]
    exact List.mem_append_right _ (List.mem_singleton.2 rfl)
  kept := by
    intro row hrow
    rw [hidentities]
    exact List.mem_append_left _ hrow
  added := by
    intro row hrow
    rw [hidentities] at hrow
    rcases List.mem_append.1 hrow with hrow | hrow
    · exact Or.inl hrow
    · rw [List.mem_singleton.1 hrow]
      exact Or.inr rfl
  others := by
    intro row hrow hne
    rw [haccounts] at hrow
    rcases List.mem_append.1 hrow with hrow | hrow
    · exact hrow
    · rw [List.mem_singleton.1 hrow] at hne
      exact absurd rfl hne

/-- A request that writes what it decided under the lock. -/
lemma lockedWrite_spec {sha256 : String → Hash} {db db' : Database} {changes : List KeyChange}
    {now : Time} {id account : AccountId} {request : Request} {read : Option AccountId}
    {change : Option KeyChange} (hr : Recorded db changes) (hstands : ReadStands db request read)
    (h : lockedWrite sha256 db now id request read = .ok (db', account, change)) :
    Recorded db' (change.toList ++ changes) ∧ Committed db db' request.identity account := by
  cases request with
  | issue identity expected event key email =>
    cases read with
    | some account' =>
      obtain ⟨⟨db₁, issued⟩, hissue, heq⟩ := map_eq_ok.1 h
      cases heq
      obtain ⟨hnew, ⟨row₀, hrow₀, hid₀, hgeneration⟩, events, hevents, rfl⟩ := issueRotation_ok hissue
      obtain ⟨hown, hexpects⟩ := hstands
      refine ⟨?_, Committed.update _ hown⟩
      refine hr.change ⟨account, event, expected, now, _⟩ _ hnew hevents
        (hr.owned _ hown) ?_ ?_
      · intro row _ _ hfollows
        exact hfollows.rotate sha256
          ⟨account, event, expected, now, .issued (sha256 key) issued.generation⟩ key email rfl
      · intro row hrow hid hserial
        -- the row that was read is the one that is rotated
        have heq : row = row₀ := db.accounts.eq_of_key_eq hrow hrow₀ (hid.trans hid₀.symm)
        refine Serial.rotated _ _ _ (sha256 key) hserial (hexpects row hrow hid) ?_
        rw [heq, hgeneration]
    | none =>
      obtain ⟨⟨db₁, issued⟩, hissue, heq⟩ := map_eq_ok.1 h
      cases heq
      obtain ⟨hgeneration, db₁, hinsert, events, hevents, rfl⟩ := issueFirst_ok hissue
      obtain ⟨hid, -, haccounts, hidentities, hevents₁⟩ := insertAccount_ok hinsert
      have hcommitted := Committed.insert haccounts hidentities
      refine ⟨?_, hcommitted.own, hcommitted.kept, hcommitted.added, hcommitted.others⟩
      refine hr.insert (some ⟨_, event, expected, now, _⟩) hid haccounts hidentities
        (by simp [newAccount]) ?_ ?_ ?_
      · rw [hevents, hevents₁]
        rfl
      · exact ⟨rfl, rfl, rfl⟩
      · rw [hgeneration]
        exact Serial.created _ (sha256 key) hstands.2 rfl
  | revoke identity expected event =>
    cases read with
    | some account' =>
      obtain ⟨db₁, hrevoke, heq⟩ := map_eq_ok.1 h
      cases heq
      obtain ⟨hnew, events, hevents, rfl⟩ := revokeApiKey_ok hrevoke
      obtain ⟨hown, hexpects⟩ := hstands
      refine ⟨?_, Committed.update _ hown⟩
      refine hr.change ⟨account, event, some expected, now, .revoked⟩ _ hnew hevents
        (hr.owned _ hown) ?_ ?_
      · intro row _ _ _
        exact row.follows_revoke _ ⟨account, event, some expected, now, .revoked⟩ rfl
      · intro row hrow hid hserial
        exact Serial.revoked _ _ _ hserial (hexpects row hrow hid) rfl
    | none => cases h
  | provision identity email wallet =>
    cases read with
    | some account' =>
      cases h
      exact ⟨hr, hstands.1, fun _ hrow => hrow, fun _ hrow => Or.inl hrow, fun _ hrow _ => hrow⟩
    | none =>
      obtain ⟨db₁, hprovision, heq⟩ := map_eq_ok.1 h
      cases heq
      obtain ⟨hid, -, haccounts, hidentities, hevents⟩ := insertAccount_ok hprovision
      refine ⟨hr.insert none hid haccounts hidentities (by simp) ?_ ⟨rfl, rfl, rfl⟩
        Serial.provisioned, Committed.insert haccounts hidentities⟩
      rw [hevents]
      simp

/-- What a request reads under the lock. -/
lemma readStands_of_lockedRead {db : Database} {changes : List KeyChange} (hr : Recorded db changes)
    {request : Request} {read : Option AccountId} (h : lockedRead db request = .ok read) :
    ReadStands db request read := by
  -- an account that was found is the identity's, and there is one with its id
  have hsome : ∀ {identity : Identity} {account : Account},
      identityAccount db identity = some account → ⟨identity, account.id⟩ ∈ db.identities.rows ∧
        ∀ row ∈ db.accounts.rows, row.id = account.id → row = account := by
    intro identity account h
    obtain ⟨hidentity, haccount⟩ := identityAccount_eq_some h
    exact ⟨hidentity, fun row hrow hid => db.accounts.eq_of_key_eq hrow haccount hid⟩
  cases request with
  | issue identity expected event key email =>
    simp only [lockedRead, issueRead] at h
    split at h
    · rename_i account hfind
      split at h
      · cases h
      split at h
      · cases h
      rename_i hexpected
      cases h
      obtain ⟨hidentity, honly⟩ := hsome hfind
      refine ⟨hidentity, fun row hrow hid => ?_⟩
      rw [honly row hrow hid]
      exact not_not.1 hexpected
    · rename_i hfind
      split at h
      · cases h
      rename_i hexpected
      cases h
      have hnone : expected = none := by simpa using hexpected
      exact ⟨notMem_of_identityAccount hr.owned hfind, hnone⟩
  | revoke identity expected event =>
    obtain ⟨account, hread, rfl⟩ := map_eq_ok.1 h
    unfold revokeRead at hread
    split at hread
    · rename_i account hfind
      split at hread
      · cases hread
      split at hread
      · cases hread
      rename_i hexpected
      cases hread
      obtain ⟨hidentity, honly⟩ := hsome hfind
      refine ⟨hidentity, fun row hrow hid => ?_⟩
      rw [honly row hrow hid]
      exact congrArg some (not_not.1 hexpected).symm
    · cases hread
  | provision identity email wallet =>
    simp only [lockedRead, provisionRead] at h
    cases hfind : identityAccount db identity with
    | none =>
      rw [hfind] at h
      cases h
      exact ⟨notMem_of_identityAccount hr.owned hfind, trivial⟩
    | some account =>
      rw [hfind, Option.map_some] at h
      split at h
      · rename_i account' heq
        cases h
        obtain ⟨hidentity, -⟩ := hsome hfind
        split at heq
        · cases heq
        · cases heq
          exact ⟨hidentity, fun _ _ _ => trivial⟩
      · cases h
      · rename_i heq
        cases heq

lemma mem_of_provisionRead {db : Database} {identity : Identity} {account : AccountId}
    (h : provisionRead db identity = some (.ok account)) :
    ⟨identity, account⟩ ∈ db.identities.rows := by
  obtain ⟨row, hfind, heq⟩ := Option.map_eq_some_iff.1 h
  split at heq
  · cases heq
  · cases heq
    exact (identityAccount_eq_some hfind).1

end Payday.Accounts
