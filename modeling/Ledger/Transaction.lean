import Ledger.Uuid
import Ledger.Number.Decimal
import Ledger.Time.Instant
import Ledger.Json.Basic
/-!
# Accounts and transactions

An account has an id, a unique number, a balance, its opening and last-change instants and a
version counting its changes. A transaction moves an amount into or out of an account; it is
recorded as `COMPLETED` and may later be marked `FAILED`, the only change of status allowed.
-/

/-! ## Accounts -/

namespace Ledger

/-- Nanoseconds per day. -/
def nsPerDay : Int := 86400 * 1000000000

/-- An account. -/
structure Account where
  id : Int
  number : Bytes
  balance : Decimal
  createdAt : Instant
  lastModifiedAt : Instant
  version : Int
  deriving Repr, Inhabited

namespace Account

/-- Whole days from opening to `now`, truncated toward zero; the difference of the two
instants saturates, so the age never exceeds 106751 days either way. -/
def ageInDays (a : Account) (now : Instant) : Int := (now.since a.createdAt).tdiv nsPerDay

/-- The JSON form of an account. -/
def toJson (a : Account) : Json :=
  .obj [("id", .int a.id), ("number", .str a.number), ("balance", .text a.balance.toText),
    ("created_at", .text a.createdAt.toText), ("last_modified_at", .text a.lastModifiedAt.toText),
    ("version", .int a.version)]

end Account
/-! ## Transactions -/

/-- The direction of a transaction. -/
inductive TxnType where
  | deposit
  | withdrawal
  | other (text : String)
  deriving DecidableEq, Repr, Inhabited

namespace TxnType

/-- The type named by a text. -/
def ofText : String → TxnType
  | "DEPOSIT" => deposit
  | "WITHDRAWAL" => withdrawal
  | s => other s

/-- The text of a type. -/
def text : TxnType → String
  | deposit => "DEPOSIT"
  | withdrawal => "WITHDRAWAL"
  | other s => s

/-- Whether a type is one the engine accepts. -/
def isValid : TxnType → Bool
  | other _ => false
  | _ => true

end TxnType

/-- The status of a transaction record. -/
inductive TxnStatus where
  | completed
  | failed
  | other (text : String)
  deriving DecidableEq, Repr, Inhabited

namespace TxnStatus

/-- The status named by a text. -/
def ofText : String → TxnStatus
  | "COMPLETED" => completed
  | "FAILED" => failed
  | s => other s

/-- The text of a status. -/
def text : TxnStatus → String
  | completed => "COMPLETED"
  | failed => "FAILED"
  | other s => s

/-- Whether a record may move from one status to another: only a completed record may
become failed. -/
def canBecome : TxnStatus → TxnStatus → Bool
  | completed, failed => true
  | _, _ => false

end TxnStatus

/-- The number of decimal places an amount may have. -/
def amountScale : Nat := 2

/-- Whether an amount has at most two decimal places. -/
def validScale (d : Decimal) : Bool := d.hasScale amountScale

/-- A transaction record. -/
structure Transaction where
  id : Uuid
  accountId : Int
  accountNumber : Bytes
  type : TxnType
  amount : Decimal
  timestamp : Instant
  status : TxnStatus
  version : Int
  lastModifiedAt : Instant
  deriving Repr, Inhabited

/-- The JSON form of a transaction record. -/
def Transaction.toJson (t : Transaction) : Json :=
  .obj [("id", .text t.id.toText), ("account_id", .int t.accountId),
    ("account_number", .str t.accountNumber), ("type", .text t.type.text),
    ("amount", .text t.amount.toText), ("timestamp", .text t.timestamp.toText),
    ("status", .text t.status.text), ("version", .int t.version),
    ("last_modified_at", .text t.lastModifiedAt.toText)]

end Ledger
