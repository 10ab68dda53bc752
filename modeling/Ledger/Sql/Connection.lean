import Ledger.Sql.Value
/-!
# SQL connections

A scripted connection answers each statement with the next reply of its script and keeps the
statements sent; reading a row maps its values onto a record's fields. A `Server` answers a
statement from the state of its tables instead, and `Server.call` runs a store operation, which
sends one statement at most, against it.
-/

namespace Ledger.Sql

/-- A result set: its columns, the rows left, and the failure after them. -/
structure Cursor where
  columns : List String := []
  rows : List (List SqlValue) := []
  endFailure : Option String := none
  deriving Repr, Inhabited

/-- A reply of the script: a failure, or a result set with the count of changed rows. -/
inductive Reply where
  | failure (message : String)
  | result (rows : Cursor) (affected : Int)
  deriving Repr, Inhabited

/-- Whether a statement reads rows or changes them. -/
inductive StatementKind where
  | query
  | exec
  deriving DecidableEq, Repr, Inhabited

/-- A statement sent to the connection, with the values bound to it. -/
structure Statement where
  kind : StatementKind
  sql : String
  args : List SqlValue
  deriving Repr, Inhabited

/-- Why reading from the connection failed. -/
inductive QueryError where
  /-- A single-row read found no row. -/
  | noRows
  /-- The connection failed with a message. -/
  | failed (message : String)
  /-- The record has `fields` fields but the result `columns` columns. -/
  | width (columns fields : Nat)
  /-- The value of a column did not fit its field. -/
  | scan (index : Nat) (column : String) (e : ScanError)
  deriving Repr

/-- The message of a failed read. -/
def QueryError.message : QueryError → Bytes
  | .noRows => Bytes.ofString "sql: no rows in result set"
  | .failed m => Bytes.ofString m
  | .width c f => Bytes.ofString ("sql: expected " ++ toString c ++ " destination arguments in Scan, not " ++
      toString f)
  | .scan i col e => Bytes.ofString ("sql: Scan error on column index " ++ toString i ++ ", name " ++
      Text.quoteString col ++ ": ") ++ e.message

/-- The failure of a statement after the script is used up. -/
def unscripted : String := "no scripted response"

/-- The state of a connection: the replies left, the statements sent (newest first), and
the failure of its health check. -/
structure Connection where
  replies : List Reply
  sent : List Statement := []
  pingFailure : Option String := none
  deriving Repr, Inhabited

/-- A computation on a connection. -/
abbrev Db := StateM Connection

/-- Reading the fields of a record from a row of named columns. -/
abbrev RowRead (α : Type) := List String → List SqlValue → Except QueryError α

/-- Sends a statement and takes the next reply. -/
def send (kind : StatementKind) (sql : String) (args : List SqlValue) : Db (Option Reply) := do
  let c ← get
  let sent := ⟨kind, sql, args⟩ :: c.sent
  match c.replies with
  | [] => set { c with sent }; return none
  | r :: rs => set { c with sent, replies := rs }; return some r

/-- Runs a query, giving its result set. -/
def query (sql : String) (args : List SqlValue) : Db (Except QueryError Cursor) := do
  match ← send .query sql args with
  | none => return .error (.failed unscripted)
  | some (.failure m) => return .error (.failed m)
  | some (.result c _) => return .ok c

/-- Runs a command that changes rows, giving their count. -/
def exec (sql : String) (args : List SqlValue) : Db (Except QueryError Int) := do
  match ← send .exec sql args with
  | none => return .error (.failed unscripted)
  | some (.failure m) => return .error (.failed m)
  | some (.result _ n) => return .ok n

/-- Checks the connection's health. -/
def ping : Db (Except QueryError Unit) := do
  match (← get).pingFailure with
  | some m => return .error (.failed m)
  | none => return .ok ()

/-- Runs a query and reads its first row. -/
def queryRow (sql : String) (args : List SqlValue) (read : RowRead α) : Db (Except QueryError α) := do
  match ← query sql args with
  | .error e => return .error e
  | .ok ⟨cols, rows, endFailure⟩ =>
    match rows with
    | row :: _ => return read cols row
    | [] => return .error (match endFailure with | some m => .failed m | none => .noRows)

/-- Checks that a record of `fields` fields fits the columns. -/
def expectWidth (columns : List String) (fields : Nat) : Except QueryError Unit :=
  if columns.length == fields then .ok () else .error (.width columns.length fields)

/-- Reads the value of column `i` into a field; a row shorter than the columns reads
NULL. -/
def column (columns : List String) (row : List SqlValue) (i : Nat)
    (field : SqlValue → Except ScanError α) : Except QueryError α :=
  match field (row.getD i .null) with
  | .ok a => .ok a
  | .error e => .error (.scan i (columns.getD i "") e)

/-! ## A database server behind a connection -/

/-- A database server: in each state it answers a statement with a reply and the state the
statement leaves. -/
def Server (σ : Type) : Type := σ → Statement → Reply × σ

/-- Runs an operation that sends one statement at most against a server in state `s`: the
operation's answer and the server's state after it. -/
def Server.call {σ α : Type} (srv : Server σ) (m : Db α) (s : σ) : α × σ :=
  match ((m.run { replies := [] }).2.sent).getLast? with
  | some st =>
    let (r, s') := srv s st
    ((m.run { replies := [r] }).1, s')
  | none => ((m.run { replies := [] }).1, s)

end Ledger.Sql
