import Ledger.Transaction
import Ledger.Failure
/-!
# The in-memory store

Accounts and records kept in memory, ids assigned in sequence and numbers unique. Balances
and statuses change by compare-and-set on the version, and lists are ordered by time, ties
broken by id.
-/

namespace Ledger

/-- The in-memory store. -/
structure Store where
  lastId : Int := 0
  accounts : List Account := []
  records : List Transaction := []
  deriving Repr, Inhabited

namespace Store

/-- The account with the given number. -/
def findByNumber (s : Store) (number : Bytes) : Except Failure Account :=
  match s.accounts.find? (·.number == number) with
  | some a => .ok a
  | none => .error (.refused .notFound)

/-- Opens an account: the next id, the given opening time or `now`, version 0. -/
def createAccount (s : Store) (a : Account) (now : Instant) : Except Failure (Store × Account) :=
  if s.accounts.any (·.number == a.number) then
    .error (.plain (Bytes.ofString "failed to create account: account number " ++ a.number ++
      Bytes.ofString " already exists"))
  else
    let next := s.lastId + 1
    let opened := if a.createdAt.isZero then now else a.createdAt
    let a : Account := ⟨next, a.number, a.balance, opened, now, 0⟩
    .ok ({ s with lastId := next, accounts := s.accounts ++ [a] }, a)

/-- Sets the balance of an account if its stored version is `version`; returns the new
version and change time. -/
def updateBalance (s : Store) (id : Int) (version : Int) (balance : Decimal) (now : Instant) :
    Except Failure (Store × Int × Instant) :=
  match s.accounts.find? (·.id == id) with
  | some a =>
    if a.version != version then .error (.refused .versionConflict)
    else
      let a' := { a with balance := balance, version := a.version + 1, lastModifiedAt := now }
      .ok ({ s with accounts := s.accounts.map fun b => if b.id == id then a' else b },
        a'.version, now)
  | none => .error (.refused .versionConflict)

/-- A record with the number of its account filled in, when the account exists. -/
def withNumber (s : Store) (t : Transaction) : Transaction :=
  match s.accounts.find? (·.id == t.accountId) with
  | some a => { t with accountNumber := a.number }
  | none => t

/-- Stores a new record under its (non-nil) id: the given time or `now`, version 0,
changed when it happened. -/
def createRecord (s : Store) (t : Transaction) (now : Instant) :
    Except Failure (Store × Transaction) :=
  if s.records.any (·.id == t.id) then
    .error (.plain (Bytes.ofString ("failed to create transaction: duplicate id " ++ t.id.toText)))
  else
    let ts := if t.timestamp.isZero then now else t.timestamp
    let t := { t with timestamp := ts, lastModifiedAt := ts, version := 0 }
    .ok ({ s with records := s.records ++ [t] }, t)

/-- The record with the given id. -/
def findRecord (s : Store) (id : Uuid) : Except Failure Transaction :=
  match s.records.find? (·.id == id) with
  | some t => .ok (s.withNumber t)
  | none => .error (.refused .notFound)

/-- Moves a record to a new status if the move is allowed and its stored version is
`version`; returns the new version and change time. -/
def updateStatus (s : Store) (id : Uuid) (status : TxnStatus) (version : Int) (now : Instant) :
    Except Failure (Store × Int × Instant) :=
  match s.records.find? (·.id == id) with
  | none => .error (.refused .notFound)
  | some t =>
    if !t.status.canBecome status then .error (.refused .invalidTransition)
    else if t.version != version then .error (.refused .versionConflict)
    else
      let t' := { t with status := status, version := t.version + 1, lastModifiedAt := now }
      .ok ({ s with records := s.records.map fun r => if r.id == id then t' else r },
        t'.version, now)

/-- The number of records of an account stamped at or after `since`. -/
def countSince (s : Store) (accountId : Int) (since : Instant) : Nat :=
  (s.records.filter fun t => t.accountId == accountId && since ≤ t.timestamp).length

/-- Newest first, ties by identifier. -/
def newerFirst (a b : Transaction) : Bool :=
  b.timestamp.ns < a.timestamp.ns || (a.timestamp.ns == b.timestamp.ns && a.id.value ≤ b.id.value)

/-- Oldest change first, ties by identifier. -/
def olderChangeFirst (a b : Transaction) : Bool :=
  a.lastModifiedAt.ns < b.lastModifiedAt.ns ||
    (a.lastModifiedAt.ns == b.lastModifiedAt.ns && a.id.value ≤ b.id.value)

/-- The records of an account, newest first, at most `limit` of them when `limit` is
positive. -/
def listByAccount (s : Store) (accountId : Int) (limit : Int) : List Transaction :=
  let all := ((s.records.filter (·.accountId == accountId)).map s.withNumber).mergeSort newerFirst
  if limit > 0 then all.take limit.toNat else all

/-- The records with a status changed at or after `since`, oldest change first. -/
def listByStatus (s : Store) (status : TxnStatus) (since : Instant) : List Transaction :=
  ((s.records.filter fun t => t.status == status && since ≤ t.lastModifiedAt).map s.withNumber).mergeSort
    olderChangeFirst

end Store
end Ledger
