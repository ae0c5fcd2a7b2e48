/-
# Accounts and their API keys

The tables `accounts`, `account_identities` and `account_key_authentication_events`, and the
statements of `gum-ledger/src/accounts.rs` on them.  An account has a current key and, for a grace
period after a rotation, the previous one; the table stores the SHA-256 hashes of both.  A statement
that would break a constraint of the schema fails, and its transaction is rolled back.  A hash is 32
bytes by its type here, so the two length constraints on the hashes are left out.
-/
import Payday.Ledger.Schema
import Payday.Lib.Checks

namespace Payday.Accounts

abbrev AccountId := ℕ

/-- `API_KEY_GRACE_HOURS`. -/
def apiKeyGraceHours : ℕ := 24

/-- `make_interval(hours => …)` in microseconds. -/
def apiKeyGrace : Time := apiKeyGraceHours * 3600 * 1000000

/-! ### The rows -/

/-- A row of `accounts`. -/
structure Account where
  id : AccountId
  apiKeyHash : Option Hash
  apiKeyHint : Option String
  apiKeyGeneration : ℕ
  keyCreatedAt : Time
  keyRotatedAt : Option Time
  disabledAt : Option Time
  previousApiKeyHash : Option Hash
  previousApiKeyExpiresAt : Option Time
  keyRevokedAt : Option Time
  email : Option String
  walletAddress : Option String
deriving DecidableEq, Repr

/-- Who an identity provider says is signed in. -/
structure Identity where
  issuer : String
  subject : String
deriving DecidableEq, Repr

/-- A row of `account_identities`. -/
structure IdentityRow where
  identity : Identity
  accountId : AccountId
deriving DecidableEq, Repr

/-- A row of `account_key_authentication_events`. -/
structure EventRow where
  accountId : AccountId
  eventId : String
deriving DecidableEq, Repr

/-- The primary key, which is the whole row. -/
def EventRow.key (row : EventRow) : AccountId × String := (row.accountId, row.eventId)

structure Database where
  accounts : Table Account.id
  identities : Table IdentityRow.identity
  events : Table EventRow.key

def Database.empty : Database := ⟨Table.empty, Table.empty, Table.empty⟩

/-! ### The constraints -/

/-- `octet_length(…) BETWEEN … AND …`. -/
def octetsBetween (low high : ℕ) (text : String) : Bool :=
  decide (low ≤ text.utf8ByteSize ∧ text.utf8ByteSize ≤ high)

def isHexDigit (c : Char) : Bool :=
  decide ('0' ≤ c ∧ c ≤ '9') || decide ('a' ≤ c ∧ c ≤ 'f') || decide ('A' ≤ c ∧ c ≤ 'F')

/-- `~ '^0x[0-9a-fA-F]{40}$'`. -/
def walletAddressShape (text : String) : Bool :=
  match text.toList with
  | '0' :: 'x' :: digits => decide (digits.length = 40) && digits.all isHexDigit
  | _ => false

/-- The `CHECK` constraints on a row of `accounts`. -/
def Account.checks (row : Account) : Bool :=
  decide (0 < row.apiKeyGeneration) &&
  row.apiKeyHint.all (octetsBetween 1 32) &&
  decide (row.previousApiKeyHash.isNone = row.previousApiKeyExpiresAt.isNone) &&
  decide (row.apiKeyHash.isNone = row.apiKeyHint.isNone) &&
  (row.keyRevokedAt.isNone || row.apiKeyHash.isNone) &&
  row.email.all (octetsBetween 3 254) &&
  row.walletAddress.all walletAddressShape

/-- The `UNIQUE` constraints on the two hashes. -/
def hashesUnique (accounts : Table Account.id) : Bool :=
  decide (accounts.rows.filterMap (·.apiKeyHash)).Nodup &&
    decide (accounts.rows.filterMap (·.previousApiKeyHash)).Nodup

/-- The table after a statement, unless the statement breaks a constraint. -/
def constrained (accounts : Table Account.id) : Option (Table Account.id) :=
  if accounts.rows.all Account.checks && hashesUnique accounts then some accounts else none

/-- The `CHECK` constraints on the texts of an identity. -/
def Identity.checks (identity : Identity) : Bool :=
  octetsBetween 1 2048 identity.issuer && octetsBetween 1 255 identity.subject

/-! ### Reading -/

/-- The `WHERE` clause of `authenticate`. -/
def Account.accepts (row : Account) (now : Time) (hash : Hash) : Bool :=
  decide (row.disabledAt = none) &&
    (decide (row.apiKeyHash = some hash) ||
      (decide (row.previousApiKeyHash = some hash) &&
        row.previousApiKeyExpiresAt.any fun expires => decide (now < expires)))

variable (sha256 : String → Hash)

/-- `AccountRepository::authenticate`.  The query has no order: of two accounts that hold the key, it may
return either. -/
def authenticate (db : Database) (now : Time) (key : String) : Option AccountId :=
  (db.accounts.rows.find? fun row => row.accepts now (sha256 key)).map (·.id)

/-- The account of an identity: the join of the two tables. -/
def identityAccount (db : Database) (identity : Identity) : Option Account :=
  (db.identities.find? identity).bind fun row => db.accounts.find? row.accountId

/-- Why a request about an account was refused.  `database` is any error of the database. -/
inductive AccountError
  | authenticationEventAlreadyUsed
  | generationConflict
  | accountDisabled
  | database
deriving DecidableEq, Repr

/-! ### Issuing and revoking keys -/

/-- The last six characters of a key. -/
def keyHint (key : String) : String := "…" ++ String.ofList (key.toList.reverse.take 6).reverse

structure IssuedApiKey where
  accountId : AccountId
  generation : ℕ
  replacedPreviousKey : Bool
deriving DecidableEq, Repr

/-- What `issue_api_key_inner` reads under the lock: the account to rotate, or `none` for an
identity without an account. -/
def issueRead (db : Database) (identity : Identity) (expectedGeneration : Option ℕ) :
    Except AccountError (Option AccountId) :=
  match identityAccount db identity with
  | some account =>
    if account.disabledAt.isSome then .error .accountDisabled
    else if expectedGeneration ≠ some account.apiKeyGeneration then .error .generationConflict
    else .ok (some account.id)
  | none => if expectedGeneration.isSome then .error .generationConflict else .ok none

/-- `INSERT … ON CONFLICT DO NOTHING` for an authentication event. -/
def useEvent (db : Database) (account : AccountId) (event : String) : Except AccountError Database :=
  if octetsBetween 1 255 event then
    match db.events.insert? ⟨account, event⟩ with
    | some events => .ok { db with events := events }
    | none => .error .authenticationEventAlreadyUsed
  else .error .database

/-- The row after a rotation. -/
def Account.rotate (row : Account) (now : Time) (key : String) (verifiedEmail : Option String) :
    Account :=
  { row with
    previousApiKeyHash := row.apiKeyHash
    previousApiKeyExpiresAt := if row.apiKeyHash.isNone then none else some (now + apiKeyGrace)
    apiKeyHash := some (sha256 key)
    apiKeyHint := some (keyHint key)
    keyCreatedAt := now
    apiKeyGeneration := row.apiKeyGeneration + 1
    keyRotatedAt := if row.apiKeyHash.isNone then row.keyRotatedAt else some now
    keyRevokedAt := none
    email := verifiedEmail.or row.email }

/-- The row after a revocation. -/
def Account.revoke (row : Account) (now : Time) : Account :=
  { row with
    apiKeyHash := none
    apiKeyHint := none
    previousApiKeyHash := none
    previousApiKeyExpiresAt := none
    keyRevokedAt := some now }

lemma Account.id_rotate (row : Account) (now : Time) (key : String) (email : Option String) :
    (row.rotate sha256 now key email).id = row.id := rfl

lemma Account.id_revoke (row : Account) (now : Time) : (row.revoke now).id = row.id := rfl

/-- Update one account. -/
def updateAccount (db : Database) (account : AccountId) (f : Account → Account)
    (hf : ∀ row, (f row).id = row.id) : Except AccountError Database :=
  match constrained (db.accounts.updateWhere (fun row => decide (row.id = account)) f hf) with
  | some accounts => .ok { db with accounts := accounts }
  | none => .error .database

/-- The rest of `issue_api_key_inner` for an identity with an account. -/
def issueRotation (db : Database) (now : Time) (account : AccountId) (event key : String)
    (verifiedEmail : Option String) : Except AccountError (Database × IssuedApiKey) :=
  match useEvent db account event with
  | .error error => .error error
  | .ok db =>
    match updateAccount db account (Account.rotate sha256 · now key verifiedEmail)
        (fun row => row.id_rotate sha256 now key verifiedEmail) with
    | .error error => .error error
    | .ok db =>
      match db.accounts.find? account with
      | some row => .ok (db, ⟨account, row.apiKeyGeneration, row.previousApiKeyExpiresAt.isSome⟩)
      | none => .error .database

/-- An account as it is inserted, with the columns' defaults. -/
def newAccount (id : AccountId) (now : Time) (key : Option String) (email : Option String)
    (walletAddress : Option String) : Account where
  id := id
  apiKeyHash := key.map sha256
  apiKeyHint := key.map keyHint
  apiKeyGeneration := 1
  keyCreatedAt := now
  keyRotatedAt := none
  disabledAt := none
  previousApiKeyHash := none
  previousApiKeyExpiresAt := none
  keyRevokedAt := none
  email := email
  walletAddress := walletAddress

/-- Insert an account and the identity it belongs to. -/
def insertAccount (db : Database) (identity : Identity) (account : Account) :
    Except AccountError Database :=
  match (db.accounts.insert? account).bind constrained,
    db.identities.insert? ⟨identity, account.id⟩ with
  | some accounts, some identities =>
    if identity.checks then .ok { db with accounts := accounts, identities := identities }
    else .error .database
  | _, _ => .error .database

/-- The rest of `issue_api_key_inner` for an identity without an account; `id` is the UUID it
draws. -/
def issueFirst (db : Database) (now : Time) (id : AccountId) (identity : Identity)
    (event key : String) (verifiedEmail : Option String) :
    Except AccountError (Database × IssuedApiKey) :=
  match insertAccount db identity (newAccount sha256 id now (some key) verifiedEmail none) with
  | .error error => .error error
  | .ok db =>
    match useEvent db id event with
    | .error _ => .error .database
    | .ok db => .ok (db, ⟨id, 1, false⟩)

/-- What `revoke_api_key` reads under the lock. -/
def revokeRead (db : Database) (identity : Identity) (expectedGeneration : ℕ) :
    Except AccountError AccountId :=
  match identityAccount db identity with
  | some account =>
    if account.disabledAt.isSome then .error .accountDisabled
    else if account.apiKeyGeneration ≠ expectedGeneration then .error .generationConflict
    else .ok account.id
  | none => .error .generationConflict

/-- The rest of `revoke_api_key`. -/
def revokeApiKey (db : Database) (now : Time) (account : AccountId) (event : String) :
    Except AccountError Database :=
  match useEvent db account event with
  | .error error => .error error
  | .ok db => updateAccount db account (Account.revoke · now) (fun row => row.id_revoke now)

/-! ### Signing in -/

/-- `identity_account`, with `none` for an identity without an account. -/
def provisionRead (db : Database) (identity : Identity) : Option (Except AccountError AccountId) :=
  (identityAccount db identity).map fun account =>
    if account.disabledAt.isSome then .error .accountDisabled else .ok account.id

/-- The insert of `find_or_provision_by_identity`. -/
def provisionAccount (db : Database) (now : Time) (id : AccountId) (identity : Identity)
    (verifiedEmail : String) (walletAddress : Option String) : Except AccountError Database :=
  insertAccount db identity (newAccount sha256 id now none (some verifiedEmail) walletAddress)

/-- `adopt_wallet`. -/
def adoptWallet (db : Database) (account : AccountId) (walletAddress : Option String) :
    Except AccountError Database :=
  match walletAddress with
  | none => .ok db
  | some wallet =>
    updateAccount db account
      (fun row => if row.walletAddress = some wallet then row
        else { row with walletAddress := some wallet })
      (fun row => by split <;> rfl)

/-- `adopt_email`. -/
def adoptEmail (db : Database) (account : AccountId) (verifiedEmail : String) :
    Except AccountError Database :=
  updateAccount db account
    (fun row => if row.email = some verifiedEmail then row
      else { row with email := some verifiedEmail })
    (fun row => by split <;> rfl)

end Payday.Accounts
