import Ledger.Sql.Connection
import Ledger.Transaction
import Ledger.Failure
/-!
# The relational store

Accounts and records kept in SQL tables, one statement an operation. A failure of the
connection names the operation, a missing row is *not found* or a *version conflict*, and
balances and statuses change by compare-and-set on the version.
-/

namespace Ledger.Relational

open Sql

/-- The columns of a transaction record, joined with its account's number. -/
def recordColumns : String :=
  "t.transaction_id, t.account_id, a.account_number, t.transaction_type, t.amount, t.timestamp, " ++
    "t.status, t.version, t.last_modified_at"

/-- The tables of records joined with their accounts. -/
def recordSource : String :=
  "FROM txn.transactions t JOIN txn.accounts a ON a.account_id = t.account_id"

/-- Reads an account from a row of six columns. -/
def readAccount : RowRead Account := fun cols row => do
  expectWidth cols 6
  let id ← column cols row 0 (SqlValue.toInteger "int64")
  let number ← column cols row 1 SqlValue.toText
  let balance ← column cols row 2 SqlValue.toDecimal
  let createdAt ← column cols row 3 SqlValue.toTime
  let lastModifiedAt ← column cols row 4 SqlValue.toTime
  let version ← column cols row 5 (SqlValue.toInteger "int64")
  return ⟨id, number, balance, createdAt, lastModifiedAt, version⟩

/-- Reads a transaction record from a row of nine columns. -/
def readRecord : RowRead Transaction := fun cols row => do
  expectWidth cols 9
  let id ← column cols row 0 (SqlValue.toUuid Uuid.nil)
  let accountId ← column cols row 1 (SqlValue.toInteger "int64")
  let accountNumber ← column cols row 2 SqlValue.toText
  let type ← column cols row 3 SqlValue.toText
  let amount ← column cols row 4 SqlValue.toDecimal
  let timestamp ← column cols row 5 SqlValue.toTime
  let status ← column cols row 6 SqlValue.toText
  let version ← column cols row 7 (SqlValue.toInteger "int64")
  let lastModifiedAt ← column cols row 8 SqlValue.toTime
  return ⟨id, accountId, accountNumber, TxnType.ofText (Bytes.toText type), amount, timestamp,
    TxnStatus.ofText (Bytes.toText status), version, lastModifiedAt⟩

/-- Reads a new version and the time of the change. -/
def readChange : RowRead (Int × Instant) := fun cols row => do
  expectWidth cols 2
  let version ← column cols row 0 (SqlValue.toInteger "int64")
  let changed ← column cols row 1 SqlValue.toTime
  return (version, changed)

/-- The failure of a read, with the operation in front. -/
def failedTo (what : String) (e : QueryError) : Failure := .note ("failed to " ++ what) (.plain e.message)

/-- A failure of a single-row read: a refusal when no row was found. -/
def rowFailure (whenEmpty : Refusal) (what : String) : QueryError → Failure
  | .noRows => .refused whenEmpty
  | e => failedTo what e

/-- Text bound to a statement. -/
def textArg (b : Bytes) : SqlValue := .text (Bytes.toText b)

/-- The account with the given number. -/
def findByNumber (number : Bytes) : Db (Except Failure Account) := do
  let r ← queryRow
    ("SELECT account_id, account_number, balance, created_at, last_modified_at, version " ++
      "FROM txn.accounts WHERE account_number = $1") [textArg number] readAccount
  return r.mapError (rowFailure .notFound "find account")

/-- Opens an account; an unset opening time is left to the database's clock. The id,
opening and change times and version come back from the database. -/
def createAccount (number : Bytes) (balance : Decimal) (createdAt : Instant) :
    Db (Except Failure Account) := do
  let opened : SqlValue := if createdAt.isZero then .null else .time createdAt 0
  let read : RowRead Account := fun cols row => do
    expectWidth cols 4
    let id ← column cols row 0 (SqlValue.toInteger "int64")
    let createdAt ← column cols row 1 SqlValue.toTime
    let lastModifiedAt ← column cols row 2 SqlValue.toTime
    let version ← column cols row 3 (SqlValue.toInteger "int64")
    return ⟨id, number, balance, createdAt, lastModifiedAt, version⟩
  let r ← queryRow
    ("INSERT INTO txn.accounts (account_number, balance, created_at, last_modified_at, version) " ++
      "VALUES ($1, $2, COALESCE($3, CURRENT_TIMESTAMP), CURRENT_TIMESTAMP, 0) " ++
      "RETURNING account_id, created_at, last_modified_at, version")
    [textArg number, .text balance.toText, opened] read
  return r.mapError (failedTo "create account")

/-- The compare-and-set of a balance: the new balance, the account id, the version read. -/
def balanceUpdateSql : String :=
  "UPDATE txn.accounts SET balance = $1, last_modified_at = CURRENT_TIMESTAMP, version = version + 1 " ++
    "WHERE account_id = $2 AND version = $3 RETURNING version, last_modified_at"

/-- Sets the balance of an account if its stored version is `version`; gives the new
version and change time. -/
def updateBalance (id : Int) (balance : Decimal) (version : Int) : Db (Except Failure (Int × Instant)) := do
  let r ← queryRow balanceUpdateSql [.text balance.toText, .int id, .int version] readChange
  return r.mapError (rowFailure .versionConflict "update account")

/-- Checks the database's health. -/
def ping : Db (Except Failure Unit) := do
  return (← Sql.ping).mapError fun e => .plain e.message

/-- Stores a new record: `freshId` stands for a nil id and `now` for an unset time; the
record starts at version 0, changed when it happened. -/
def createRecord (t : Transaction) (freshId : Uuid) (now : Instant) : Db (Except Failure Transaction) := do
  let id := if t.id == Uuid.nil then freshId else t.id
  let ts := if t.timestamp.isZero then now else t.timestamp
  let r ← exec
    ("INSERT INTO txn.transactions (transaction_id, account_id, transaction_type, amount, timestamp, " ++
      "status, version, last_modified_at) VALUES ($1, $2, $3, $4, $5, $6, 0, $5)")
    [.text id.toText, .int t.accountId, .text t.type.text, .text t.amount.toText, .time ts 0,
      .text t.status.text]
  return r.mapError (failedTo "create transaction") |>.map fun _ =>
    { t with id, timestamp := ts, version := 0, lastModifiedAt := ts }

/-- The record with the given id. -/
def findRecord (id : Uuid) : Db (Except Failure Transaction) := do
  let r ← queryRow ("SELECT " ++ recordColumns ++ " " ++ recordSource ++ " WHERE t.transaction_id = $1")
    [.text id.toText] readRecord
  return r.mapError (rowFailure .notFound "find transaction")

/-- The compare-and-set of a status: the new status, the record id, the version read and the
status the record must have. -/
def statusUpdateSql : String :=
  "UPDATE txn.transactions SET status = $1, version = version + 1, last_modified_at = CURRENT_TIMESTAMP " ++
    "WHERE transaction_id = $2 AND version = $3 AND status = $4 RETURNING version, last_modified_at"

/-- Moves a completed record to `status` if its stored version is `version`; gives the
new version and change time. -/
def updateStatus (id : Uuid) (status : TxnStatus) (version : Int) : Db (Except Failure (Int × Instant)) := do
  if !TxnStatus.completed.canBecome status then return .error (.refused .invalidTransition)
  let r ← queryRow statusUpdateSql
    [.text status.text, .text id.toText, .int version, .text TxnStatus.completed.text] readChange
  return r.mapError (rowFailure .versionConflict "update transaction status")

/-- The number of records of an account made at or after `since`. -/
def countSince (accountId : Int) (since : Instant) : Db (Except Failure Int) := do
  let read : RowRead Int := fun cols row => do
    expectWidth cols 1
    column cols row 0 (SqlValue.toInteger "int")
  let r ← queryRow "SELECT COUNT(*) FROM txn.transactions WHERE account_id = $1 AND timestamp >= $2"
    [.int accountId, .time since 0] read
  return r.mapError (failedTo "count transactions")

/-- Reads every row of a result set as a record, in the order of the rows. -/
def readAll (c : Cursor) : Except Failure (List Transaction) := do
  let records ← c.rows.mapM fun row => (readRecord c.columns row).mapError (failedTo "scan transaction")
  match c.endFailure with
  | some m => throw (failedTo "list transactions" (.failed m))
  | none => return records

/-- The records of a query, as the database orders them. -/
def list (sql : String) (args : List SqlValue) : Db (Except Failure (List Transaction)) := do
  match ← query sql args with
  | .error e => return .error (failedTo "list transactions" e)
  | .ok c => return readAll c

/-- The records of an account joined with it, newest first: the account id and the limit. -/
def accountRecordsSql : String :=
  "SELECT " ++ recordColumns ++ " " ++ recordSource ++
    " WHERE t.account_id = $1 ORDER BY t.timestamp DESC LIMIT $2"

/-- The newest records of an account, at most `limit`. -/
def listByAccount (accountId : Int) (limit : Int) : Db (Except Failure (List Transaction)) :=
  list accountRecordsSql [.int accountId, .int limit]

/-- The records with a status changed at or after `since`, oldest change first. -/
def listByStatus (status : TxnStatus) (since : Instant) : Db (Except Failure (List Transaction)) :=
  list ("SELECT " ++ recordColumns ++ " " ++ recordSource ++
    " WHERE t.status = $1 AND t.last_modified_at >= $2 ORDER BY t.last_modified_at ASC")
    [.text status.text, .time since 0]

end Ledger.Relational
