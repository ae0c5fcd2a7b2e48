/-
# Requests about accounts

Any number of requests run against the tables at once.  The transactions that issue a key, revoke
one or create an account take the advisory lock of their identity before they read, and hold it until
they end, so what they decided on still stands when they write; the lock is named by two 32-bit
hashes, so two identities may share one.  The first look of a sign-in and the two updates after it
take no lock.  A request can stop at any point, which rolls its open transaction back.

The history of the key changes is kept beside the tables, the newest first.
-/
import Mathlib.Logic.Relation
import Payday.Accounts.Keys

namespace Payday.Accounts

/-- What is asked of `AccountRepository`. -/
inductive Request
  | issue (identity : Identity) (expectedGeneration : Option ℕ) (event key : String)
      (verifiedEmail : Option String)
  | revoke (identity : Identity) (expectedGeneration : ℕ) (event : String)
  | provision (identity : Identity) (verifiedEmail : String) (walletAddress : Option String)
deriving DecidableEq, Repr

def Request.identity : Request → Identity
  | .issue identity .. | .revoke identity .. | .provision identity .. => identity

/-- Where a request is. -/
inductive Phase
  | idle
  /-- A sign-in before its first look, which takes no lock. -/
  | looking (request : Request)
  /-- Waiting for the advisory lock. -/
  | waiting (request : Request)
  /-- Under the lock, after the read: the account it found, if any. -/
  | locked (request : Request) (account : Option AccountId)
  | adoptingWallet (identity : Identity) (verifiedEmail : String) (walletAddress : Option String)
      (account : AccountId)
  | adoptingEmail (identity : Identity) (verifiedEmail : String) (account : AccountId)
deriving DecidableEq, Repr

/-- Where a request begins. -/
def Request.first : Request → Phase
  | .provision identity verifiedEmail walletAddress =>
    .looking (.provision identity verifiedEmail walletAddress)
  | request => .waiting request

inductive ChangeKind
  | issued (hash : Hash) (generation : ℕ)
  | revoked
deriving DecidableEq, Repr

/-- A committed change of an account's keys. -/
structure KeyChange where
  account : AccountId
  event : String
  /-- The generation that the request named. -/
  expectedGeneration : Option ℕ
  changedAt : Time
  kind : ChangeKind
deriving DecidableEq, Repr

/-- The key changes of one account. -/
def changesOf (changes : List KeyChange) (account : AccountId) : List KeyChange :=
  changes.filter fun change => decide (change.account = account)

structure System where
  db : Database
  requests : ℕ → Phase
  /-- The newest first. -/
  changes : List KeyChange
  /-- The accounts that requests were answered with. -/
  answers : List (Identity × AccountId)

/-- What a request reads once it has the lock. -/
def lockedRead (db : Database) : Request → Except AccountError (Option AccountId)
  | .issue identity expectedGeneration .. => issueRead db identity expectedGeneration
  | .revoke identity expectedGeneration _ => (revokeRead db identity expectedGeneration).map some
  | .provision identity .. =>
    match provisionRead db identity with
    | some (.ok account) => .ok (some account)
    | some (.error error) => .error error
    | none => .ok none

variable (sha256 : String → Hash)

/-- What a request writes and commits under the lock: the tables, the account, and the key change.
`id` is the UUID it draws. -/
def lockedWrite (db : Database) (now : Time) (id : AccountId) :
    Request → Option AccountId → Except AccountError (Database × AccountId × Option KeyChange)
  | .issue _ expectedGeneration event key verifiedEmail, some account =>
    (issueRotation sha256 db now account event key verifiedEmail).map fun result =>
      (result.1, account, some ⟨account, event, expectedGeneration, now,
        .issued (sha256 key) result.2.generation⟩)
  | .issue identity expectedGeneration event key verifiedEmail, none =>
    (issueFirst sha256 db now id identity event key verifiedEmail).map fun result =>
      (result.1, id, some ⟨id, event, expectedGeneration, now,
        .issued (sha256 key) result.2.generation⟩)
  | .revoke _ expectedGeneration event, some account =>
    (revokeApiKey db now account event).map fun db =>
      (db, account, some ⟨account, event, some expectedGeneration, now, .revoked⟩)
  | .revoke .., none => .error .generationConflict
  | .provision .., some account => .ok (db, account, none)
  | .provision identity verifiedEmail walletAddress, none =>
    (provisionAccount sha256 db now id identity verifiedEmail walletAddress).map fun db =>
      (db, id, none)

/-- What a request does once its transaction has committed: a sign-in that found its account goes
on to adopt what the session reports. -/
def afterCommit (request : Request) (read : Option AccountId) (account : AccountId) : Phase :=
  match request, read with
  | .provision identity verifiedEmail walletAddress, some _ =>
    .adoptingWallet identity verifiedEmail walletAddress account
  | _, _ => .idle

namespace System

def start : System := ⟨Database.empty, fun _ => .idle, [], []⟩

def setPhase (s : System) (w : ℕ) (phase : Phase) : System :=
  { s with requests := Function.update s.requests w phase }

/-- `hashtext` of the issuer and of the subject. -/
def lockKey (hashtext : String → ℕ) (identity : Identity) : ℕ × ℕ :=
  (hashtext identity.issuer, hashtext identity.subject)

variable (hashtext : String → ℕ)

/-- One step of the system. -/
inductive Step (s : System) : System → Prop
  | arrive (w : ℕ) (request : Request) (h : s.requests w = .idle) :
      Step s (s.setPhase w request.first)
  /-- A sign-in finds its account without the lock. -/
  | found (w : ℕ) (identity : Identity) (verifiedEmail : String) (walletAddress : Option String)
      (account : AccountId)
      (h : s.requests w = .looking (.provision identity verifiedEmail walletAddress))
      (hread : provisionRead s.db identity = some (.ok account)) :
      Step s (s.setPhase w (.adoptingWallet identity verifiedEmail walletAddress account))
  | notFound (w : ℕ) (identity : Identity) (verifiedEmail : String) (walletAddress : Option String)
      (h : s.requests w = .looking (.provision identity verifiedEmail walletAddress))
      (hread : provisionRead s.db identity = none) :
      Step s (s.setPhase w (.waiting (.provision identity verifiedEmail walletAddress)))
  /-- The lock is free, and the request reads under it. -/
  | lock (w : ℕ) (request : Request) (account : Option AccountId) (h : s.requests w = .waiting request)
      (free : ∀ w' request' account', s.requests w' = .locked request' account' →
        lockKey hashtext request'.identity ≠ lockKey hashtext request.identity)
      (hread : lockedRead s.db request = .ok account) :
      Step s (s.setPhase w (.locked request account))
  | commit (w : ℕ) (now : Time) (id : AccountId) (request : Request) (read : Option AccountId)
      (db : Database) (account : AccountId) (change : Option KeyChange)
      (h : s.requests w = .locked request read)
      (hwrite : lockedWrite sha256 s.db now id request read = .ok (db, account, change)) :
      Step s
        { db := db
          requests := Function.update s.requests w (afterCommit request read account)
          changes := change.toList ++ s.changes
          answers := if afterCommit request read account = .idle then
              (request.identity, account) :: s.answers
            else s.answers }
  | adoptWallet (w : ℕ) (identity : Identity) (verifiedEmail : String)
      (walletAddress : Option String) (account : AccountId) (db : Database)
      (h : s.requests w = .adoptingWallet identity verifiedEmail walletAddress account)
      (hwrite : adoptWallet s.db account walletAddress = .ok db) :
      Step s { s.setPhase w (.adoptingEmail identity verifiedEmail account) with db := db }
  | adoptEmail (w : ℕ) (identity : Identity) (verifiedEmail : String) (account : AccountId)
      (db : Database) (h : s.requests w = .adoptingEmail identity verifiedEmail account)
      (hwrite : adoptEmail s.db account verifiedEmail = .ok db) :
      Step s { s.setPhase w .idle with db := db, answers := (identity, account) :: s.answers }
  /-- An error, or the end of the process: nothing of the open transaction stays. -/
  | stop (w : ℕ) : Step s (s.setPhase w .idle)
  /-- An operator disables an account, or enables it again. -/
  | setDisabled (account : AccountId) (disabledAt : Option Time) (db : Database)
      (hwrite : updateAccount s.db account (fun row => { row with disabledAt := disabledAt })
        (fun _ => rfl) = .ok db) :
      Step s { s with db := db }

/-- The states of all runs. -/
def Reachable (s : System) : Prop := Relation.ReflTransGen (Step sha256 hashtext) start s

end System

end Payday.Accounts
