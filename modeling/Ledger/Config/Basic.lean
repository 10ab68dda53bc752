import Ledger.Auth.Client
import Ledger.Number.Decimal
import Ledger.Time.Duration
/-!
# Service settings

The settings of the service: where it listens and stores, the API clients, the rate
limit, the balance rules, the reconciliation schedule with its mail settings, and the
accounts to open at start. Each group is a record with the defaults the service uses
when nothing else is said.
-/

namespace Ledger

/-- How many transactions an account may make in a minute. With `strict` set, the
check and the commit for one account happen as one step. -/
structure RateLimit where
  enabled : Bool := true
  maxPerMinute : Int := 60
  strict : Bool := false
  deriving Repr, Inhabited

/-- The balance rules: the least balance an account must keep once it is older than
`graceDays` days, and the largest amount of one transaction. -/
structure Rules where
  minimumBalance : Decimal := ⟨100, 0⟩
  graceDays : Int := 10
  maxAmount : Decimal := ⟨10000, 0⟩
  deriving Repr, Inhabited

/-- When to look for failed transactions, how far back, and how to mail the report. -/
structure ReconcileSettings where
  schedule : String := "@every 15m"
  lookback : Int := 24 * 3600 * 1000000000
  smtpHost : String := ""
  smtpPort : String := "587"
  smtpUsername : String := ""
  smtpPassword : String := ""
  senderEmail : String := ""
  recipients : List String := []
  deriving Repr, Inhabited

/-- An account to open at start: its number and opening balance. -/
structure SeedAccount where
  number : String
  balance : Decimal
  deriving Repr, Inhabited

/-- All settings of the service. `maxSkew` is the clock skew allowed on signed
requests, in nanoseconds. -/
structure Config where
  port : String
  dbConn : String
  logLevel : String
  storage : String
  clientsFile : String
  encryptionKey : String
  maxSkew : Int
  clients : List Auth.Client
  rateLimit : RateLimit
  rules : Rules
  reconcile : ReconcileSettings
  seedAccounts : List SeedAccount
  deriving Repr, Inhabited

/-- The JSON form of a seed account. -/
def SeedAccount.toJson (a : SeedAccount) : Json :=
  Json.dict [("number", .text a.number), ("balance", .text a.balance.toText)]

/-- The JSON form of the settings; durations are written as spans such as `30m0s`. -/
def Config.toJson (c : Config) : Json :=
  Json.dict [
    ("port", .text c.port), ("db_conn", .text c.dbConn), ("log_level", .text c.logLevel),
    ("storage", .text c.storage), ("clients_file", .text c.clientsFile),
    ("encryption_key", .text c.encryptionKey), ("max_skew", .text (Duration.toText c.maxSkew)),
    ("clients", .arr (c.clients.map Auth.Client.toJson)),
    ("rate_limit", Json.dict [("enabled", .bool c.rateLimit.enabled),
      ("max_per_minute", .int c.rateLimit.maxPerMinute), ("strict", .bool c.rateLimit.strict)]),
    ("rules", Json.dict [("minimum_balance", .text c.rules.minimumBalance.toText),
      ("new_account_grace_days", .int c.rules.graceDays),
      ("max_transaction_amount", .text c.rules.maxAmount.toText)]),
    ("reconcile", Json.dict [("schedule", .text c.reconcile.schedule),
      ("lookback", .text (Duration.toText c.reconcile.lookback)),
      ("smtp_host", .text c.reconcile.smtpHost), ("smtp_port", .text c.reconcile.smtpPort),
      ("smtp_username", .text c.reconcile.smtpUsername),
      ("smtp_password", .text c.reconcile.smtpPassword),
      ("sender_email", .text c.reconcile.senderEmail),
      ("recipients", .arr (c.reconcile.recipients.map Json.text))]),
    ("seed_accounts", .arr (c.seedAccounts.map SeedAccount.toJson))]

end Ledger
