import Ledger.Config.Clients
import Ledger.Config.EnvFile
import Ledger.Files
/-!
# Loading the settings

Settings come from environment variables, with a `.env` file filling in those that are not
set. Values are read in a fixed order and the first failure is the answer.
-/

namespace Ledger.Config

/-- What settings are read from: the variables set in the environment and the files of
the working directory. -/
structure Sources where
  env : List (String × String)
  files : List (String × String)
  deriving Repr, Inhabited

namespace Sources

/-- Reads a file of the working directory; a failure is given as its message. -/
def readFile (s : Sources) (name : String) : Except String String := Files.read s.files name

/-- The value of a variable set in the environment. -/
def env? (s : Sources) (name : String) : Option String := Environment.lookup s.env name

/-- The value of a variable: the environment first, then the `.env` file. -/
def lookup (s : Sources) (name : String) : Option String :=
  match s.env? name with
  | some v => some v
  | none =>
    let defined := match s.readFile ".env" with
      | .ok text => (EnvFile.parse text).getD []
      | .error _ => []
    Environment.lookup defined name

/-- The value of a variable, or `default` when it is not set. -/
def get (s : Sources) (name default : String) : String := (s.lookup name).getD default

end Sources

/-- Prefixes a failure with the variable it came from. -/
def invalid (name : String) : Except String α → Except String α :=
  Except.mapError (fun e => "invalid " ++ name ++ ": " ++ e)

/-- The largest and least number of transactions a minute. -/
def maxRatePerMinute : Int := 1000

/-- Checks the loaded settings. -/
def validate (c : Config) : Except String Unit := do
  if c.storage != "postgres" && c.storage != "memory" then
    throw ("STORAGE must be \"postgres\" or \"memory\", got " ++ Text.quoteString c.storage)
  if c.storage == "postgres" && c.dbConn.isEmpty then throw "DB_CONN is required"
  if c.rateLimit.maxPerMinute < 1 then throw "max transactions per minute must be at least 1"
  if c.rateLimit.maxPerMinute > maxRatePerMinute then
    throw "max transactions per minute cannot exceed 1000"
  if c.maxSkew ≤ 0 then throw "AUTH_MAX_SKEW must be positive"
  if c.rules.minimumBalance.isNegative then throw "MIN_BALANCE cannot be negative"
  if c.rules.graceDays < 0 then throw "NEW_ACCOUNT_GRACE_DAYS cannot be negative"
  if !c.rules.maxAmount.isPositive then throw "MAX_TRANSACTION_AMOUNT must be positive"
  if c.clients.isEmpty then throw "at least one API client must be configured"
  let check (seen : Except String (List String)) (cl : Auth.Client) : Except String (List String) := do
    let seen ← seen
    if cl.apiKey.isEmpty || cl.secretKey.isEmpty then
      throw ("client " ++ Text.quoteString cl.name ++ " must have an apiKey and a secretKey")
    if seen.contains cl.apiKey then throw ("duplicate apiKey for client " ++ Text.quoteString cl.name)
    pure (cl.apiKey :: seen)
  let _ ← c.clients.foldl check (.ok [])
  pure ()

/-- Loads the settings from their sources. -/
def load (src : Sources) : Except String Config := do
  let clientsFile := src.get "CLIENTS_FILE" "clients.json"
  let encryptionKey := src.get "ENCRYPTION_KEY" ""
  let maxSkew ← invalid "AUTH_MAX_SKEW" (Duration.parse (src.get "AUTH_MAX_SKEW" "30m"))
  let lookback ← invalid "RECONCILE_LOOKBACK" (Duration.parse (src.get "RECONCILE_LOOKBACK" "24h"))
  let enabled ← invalid "RATE_LIMIT_ENABLED" (Number.parseBoolText (src.get "RATE_LIMIT_ENABLED" "true"))
  let strict ← invalid "RATE_LIMIT_STRICT" (Number.parseBoolText (src.get "RATE_LIMIT_STRICT" "false"))
  let perMinute ← invalid "RATE_LIMIT_MAX_PER_MINUTE"
    (Number.parseIntText (src.get "RATE_LIMIT_MAX_PER_MINUTE" "60"))
  let graceDays ← invalid "NEW_ACCOUNT_GRACE_DAYS"
    (Number.parseIntText (src.get "NEW_ACCOUNT_GRACE_DAYS" "10"))
  let minimum ← invalid "MIN_BALANCE" (Decimal.parse (src.get "MIN_BALANCE" "100"))
  let maxAmount ← invalid "MAX_TRANSACTION_AMOUNT" (Decimal.parse (src.get "MAX_TRANSACTION_AMOUNT" "10000"))
  let inline := src.get "API_CLIENTS" ""
  let raw ← if !inline.isEmpty then pure inline else
    match src.readFile clientsFile with
    | .ok text => pure text
    | .error e => throw ("failed to read clients file " ++ clientsFile ++ ": " ++ e)
  let clients ← ClientList.read (Bytes.ofString raw) encryptionKey
  let seeds ← SeedAccount.parseList (src.get "SEED_ACCOUNTS" "")
  let cfg : Config := {
    port := src.get "PORT" "8080"
    dbConn := src.get "DB_CONN" "host=localhost port=5436 user=test password=test dbname=bank sslmode=disable"
    logLevel := src.get "LOG_LEVEL" "info"
    storage := src.get "STORAGE" "postgres"
    clientsFile, encryptionKey, maxSkew
    clients := clients.getD []
    rateLimit := { enabled, maxPerMinute := perMinute, strict }
    rules := { minimumBalance := minimum, graceDays, maxAmount }
    reconcile := {
      schedule := src.get "RECONCILE_SCHEDULE" "@every 15m"
      lookback
      smtpHost := src.get "SMTP_HOST" ""
      smtpPort := src.get "SMTP_PORT" "587"
      smtpUsername := src.get "SMTP_USERNAME" ""
      smtpPassword := src.get "SMTP_PASSWORD" ""
      senderEmail := src.get "SENDER_EMAIL" ""
      recipients := commaItems (src.get "REPORT_RECIPIENTS" "") }
    seedAccounts := seeds }
  validate cfg
  pure cfg

end Ledger.Config
