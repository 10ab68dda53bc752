import Ledger.Engine.World
import Ledger.Config.Basic
/-!
# The transaction service

A deposit or withdrawal is checked, its account looked up, the rate limit and the balance
rules applied, and then the record and the new balance stored, the record marked failed when
the balance cannot be. Reading records and statements completes the service.
-/

namespace Ledger.Service

open Engine

/-- Turns a failure into an error of the action. -/
def fail (f : Failure) : Action α := throw f

/-- Runs a store call inside an action, keeping its outcome as a value. -/
def attempt (x : Engine (Except Failure α)) : Action (Except Failure α) := ExceptT.lift x

/-- A classified failure whose message ends with text of the request. -/
def failWith (kind : ErrorKind) (message : String) (detail : Bytes) : Failure :=
  .classified kind (Bytes.ofString message ++ detail) none

/-- The number of records a statement holds when no limit is asked for. -/
def defaultStatementLimit : Int := 50

/-- The most records a statement holds. -/
def maxStatementLimit : Int := 500

/-- One minute in nanoseconds: the window of the rate limit. -/
def rateWindow : Int := 60 * 1000000000

/-- Checks a requested transaction before anything is read. -/
def validate (rules : Rules) (amount : Decimal) (type : TxnType) : Except Failure Unit :=
  if !type.isValid then
    .error (.make .invalidTransaction ("Unsupported transaction type " ++ Text.quoteString type.text))
  else if !amount.isPositive then .error (.make .invalidTransaction "Amount must be greater than 0")
  else if !validScale amount then
    .error (.make .invalidTransaction ("Amount cannot have more than " ++ toString amountScale ++ " decimal places"))
  else if amount.gt rules.maxAmount then
    .error (.make .invalidTransaction ("Amount cannot exceed " ++ rules.maxAmount.toText))
  else .ok ()

/-- The balance after a transaction, or why the rules refuse it. -/
def applyRules (rules : Rules) (now : Instant) (a : Account) (amount : Decimal) (type : TxnType) :
    Except Failure Decimal :=
  if type == .deposit then .ok (a.balance.add amount)
  else if a.balance.lt amount then .error (.make .insufficientBalance "Insufficient funds")
  else
    let balance := a.balance.sub amount
    if a.ageInDays now > rules.graceDays && balance.lt rules.minimumBalance then
      .error (.make .insufficientBalance
        ("Balance cannot drop below " ++ rules.minimumBalance.toText ++ " for existing accounts"))
    else .ok balance

/-- Why an account lookup by number failed: no such account, or the store failed. -/
def lookupFailure (number : Bytes) (f : Failure) : Failure :=
  if f.isRefusal .notFound then failWith .accountNotFound "Account not found for accountNumber=" number
  else .wrap .persistence f "Could not load account"

/-- The store failed to count an account's recent records. -/
def countFailure (f : Failure) : Failure :=
  .wrap .persistence (.note "failed to count recent transactions" f) "Could not check transaction rate"

/-- The account has reached its limit of records per minute. -/
def rateFailure (limit : RateLimit) : Failure :=
  .make .rateLimitExceeded
    ("Rate limit exceeded: Maximum " ++ toString limit.maxPerMinute ++ " transactions per minute allowed")

/-- The store failed to keep a new record. -/
def recordFailure (f : Failure) : Failure := .wrap .persistence f "Could not create transaction record"

/-- The store failed to keep an account's new balance after its record was kept. -/
def updateFailure (f : Failure) : Failure :=
  .wrap .persistence f
    "Failed to persist account update record to DB. Transaction persisted with a failed status."

/-- Looks up an account by number. -/
def findAccount (number : Bytes) : Action Account := do
  match ← attempt <| storeRead .findAccount (·.findByNumber number) with
  | .ok a => pure a
  | .error f => fail (lookupFailure number f)

/-- Whether an account may make one more transaction now. -/
def allow (limit : RateLimit) (accountId : Int) : Action Bool := do
  if !limit.enabled then return true
  let since := (← now).addNanos (-rateWindow)
  match ← attempt <| storeRead .countSince (fun s => .ok (s.countSince accountId since)) with
  | .ok n => return (n : Int) < limit.maxPerMinute
  | .error f => fail (countFailure f)

/-- Marks a record `FAILED` after its account update failed; failures are only logged. -/
def markFailed (id : Uuid) : Engine Unit := do
  let key := ("transaction_id", Log.Value.text (Bytes.ofString id.toText))
  match ← storeRead .findRecord (·.findRecord id) with
  | .error f =>
    emit (.make .error "Failed to load transaction for compensation" [key, ("error", .failure f.text)])
  | .ok t =>
    let stamp ← now
    match ← storeCall .updateStatus (fun s => s.updateStatus id .failed t.version stamp) with
    | .error f => emit (.make .error "Failed to mark transaction as FAILED" [key, ("error", .failure f.text)])
    | .ok _ => emit (.make .warning "Transaction marked as failed" [key])

/-- Stores the account's new balance by compare-and-set on the version it was read at. When
that fails, the record already stored is marked `FAILED` and the request fails. -/
def storeBalance (account : Account) (amount : Decimal) (type : TxnType) (balance : Decimal)
    (txn : Transaction) : Action (Transaction × Account) := do
  let key := ("transaction_id", Log.Value.text (Bytes.ofString txn.id.toText))
  let stamp ← now
  match ← attempt <| storeCall .updateBalance (·.updateBalance account.id account.version balance stamp) with
  | .error f =>
    emit (.make .error "Account update failed" [("error", .failure f.text), key])
    markFailed txn.id
    fail (updateFailure f)
  | .ok (version, changed) =>
    emit (.make .info "Transaction completed" [key, ("account_number", .text account.number),
      ("type", .text (Bytes.ofString type.text)), ("amount", .text (Bytes.ofString amount.toText))])
    pure (txn, { account with balance := balance, version := version, lastModifiedAt := changed })

/-- A `COMPLETED` record of a transaction on an account, under an id, stamped at an instant,
at version 0. -/
def draftRecord (id : Uuid) (account : Account) (amount : Decimal) (type : TxnType)
    (stamp : Instant) : Transaction :=
  ⟨id, account.id, account.number, type, amount, stamp, .completed, 0, stamp⟩

/-- Stores a `COMPLETED` record of the transaction under a fresh id, stamped now. -/
def storeRecord (number : Bytes) (account : Account) (amount : Decimal) (type : TxnType) :
    Action Transaction := do
  let id ← freshId
  let stamp ← now
  match ← attempt <| storeCall .createRecord (·.createRecord (draftRecord id account amount type stamp) stamp) with
  | .ok t =>
    emit (.make .debug "Initial transaction created"
      [("transaction_id", Log.Value.text (Bytes.ofString id.toText))])
    pure t
  | .error f =>
    emit (.make .error "Failed to create initial transaction"
      [("error", .failure f.text), ("account_number", .text number)])
    fail (recordFailure f)

/-- Applies the balance rules to the account as read, then stores the record and the new
balance. -/
def checkRulesAndStore (rules : Rules) (number : Bytes) (account : Account) (amount : Decimal)
    (type : TxnType) : Action (Transaction × Account) := do
  let balance ← match applyRules rules (← now) account amount type with
    | .ok b => pure b
    | .error f => fail f
  let txn ← storeRecord number account amount type
  storeBalance account amount type balance txn

/-- Checks the rate limit for the account as read, then goes on with the balance rules. -/
def checkRateAndStore (limit : RateLimit) (rules : Rules) (number : Bytes) (account : Account)
    (amount : Decimal) (type : TxnType) : Action (Transaction × Account) := do
  unless ← allow limit account.id do
    emit (.make .warning "Rate limit exceeded" [("account_number", .text number)])
    fail (rateFailure limit)
  checkRulesAndStore rules number account amount type

/-- Applies a deposit or withdrawal; gives the stored record and the updated account. -/
def createTransaction (limit : RateLimit) (rules : Rules) (number : Bytes) (amount : Decimal)
    (type : TxnType) : Action (Transaction × Account) := do
  match validate rules amount type with
  | .error f => fail f
  | .ok () => pure ()
  let account ← findAccount number
  let account ← if limit.enabled && limit.strict then findAccount number else pure account
  checkRateAndStore limit rules number account amount type

/-- The record with the given id. -/
def getTransaction (id : Uuid) : Action Transaction := do
  match ← attempt <| storeRead .findRecord (·.findRecord id) with
  | .ok t => pure t
  | .error f =>
    if f.isRefusal .notFound then
      fail (.make .transactionNotFound ("Transaction not found for transactionId=" ++ id.toText))
    else fail (.wrap .persistence f "Could not load transaction")

/-- An account with its newest records and the time the statement was made. -/
structure Statement where
  account : Account
  records : List Transaction
  generatedAt : Instant
  deriving Repr, Inhabited

/-- The limit in force for a requested one. -/
def statementLimit (limit : Int) : Int :=
  if limit ≤ 0 then defaultStatementLimit else min limit maxStatementLimit

/-- The statement of an account. -/
def accountStatement (number : Bytes) (limit : Int) : Action Statement := do
  let limit := statementLimit limit
  let account ← findAccount number
  match ← attempt <| storeRead .listByAccount (fun s => .ok (s.listByAccount account.id limit)) with
  | .ok ts => pure ⟨account, ts, ← now⟩
  | .error f => fail (.wrap .persistence f "Could not load transactions")

/-- Checks that the store answers. -/
def ping : Action Unit := do
  match ← attempt <| storeRead .ping (fun _ => .ok ()) with
  | .ok () => pure ()
  | .error f => fail f

end Ledger.Service
