import Std.Time
import Ledger.Command.Signer
import Ledger.Command.Server
/-!
# The command line

`ledger signer`, `ledger api` and `ledger reconciler` run on the host's variables, working
directory, clock and random bytes; a service serves until its standard input ends.
-/

namespace Ledger.Cli

open Command

/-- The environment variables the commands read. -/
def knownVariables : List String :=
  ["PORT", "DB_CONN", "LOG_LEVEL", "STORAGE", "CLIENTS_FILE", "ENCRYPTION_KEY", "AUTH_MAX_SKEW",
    "RECONCILE_SCHEDULE", "RECONCILE_LOOKBACK", "SMTP_HOST", "SMTP_PORT", "SMTP_USERNAME",
    "SMTP_PASSWORD", "SENDER_EMAIL", "REPORT_RECIPIENTS", "RATE_LIMIT_ENABLED", "RATE_LIMIT_STRICT",
    "RATE_LIMIT_MAX_PER_MINUTE", "NEW_ACCOUNT_GRACE_DAYS", "MIN_BALANCE", "MAX_TRANSACTION_AMOUNT",
    "API_CLIENTS", "SEED_ACCOUNTS", "API_KEY", "API_SECRET", "PGHOST", "PGPORT"]

/-- Reads a file, if it can. -/
def readFile? (path : String) : IO (Option Bytes) := do
  try
    let data ← IO.FS.readBinFile path
    return some data.toList
  catch _ =>
    return none

/-- The host this process runs on, for a command with the given arguments. -/
def currentHost (args : List String) : IO Host := do
  let env ← knownVariables.filterMapM fun name => do
    return (← IO.getEnv name).map (name, ·)
  let clients := ((env.lookup "CLIENTS_FILE").getD "clients.json")
  let paths := (".env" :: clients :: args).eraseDups
  let files ← paths.filterMapM fun p => do
    return (← readFile? p).map (((Files.clean p).getD p), ·)
  let now ← Std.Time.Timestamp.now
  let random ← IO.getRandomBytes 24
  return { env, files, clockMillis := now.toMillisecondsSinceUnixEpoch.val, random := random.toList }

/-- Writes lines to standard output. -/
def emit (lines : List String) : IO Unit := do
  let out ← IO.getStdout
  for line in lines do
    out.putStrLn line
  out.flush

/-- Waits for standard input to end. -/
partial def awaitStop (input : IO.FS.Stream) : IO Unit := do
  let line ← input.getLine
  if line.isEmpty then return
  awaitStop input

/-- Plays a run: its output, and for a service its last lines once it is stopped; gives
its exit status. -/
def play (run : Run) : IO UInt32 := do
  emit run.stdout
  let err ← IO.getStderr
  err.putStr run.stderr
  err.flush
  match run.ending with
  | .exit code => return code.toUInt32
  | .serving farewell =>
    awaitStop (← IO.getStdin)
    emit farewell
    return 0

/-- The usage of the command line. -/
def usage : String := "usage: ledger signer|api|reconciler [flags]"

/-- Runs the command named by the first argument. -/
def run (args : List String) : IO UInt32 := do
  match args with
  | "signer" :: rest => play (runSigner (← currentHost rest) rest)
  | "api" :: _ => play (runServer (← currentHost []))
  | "reconciler" :: _ => play (runReconciler (← currentHost []))
  | _ =>
    let err ← IO.getStderr
    err.putStrLn usage
    return 2

end Ledger.Cli

/-- The command line: `ledger signer|api|reconciler …`. -/
def main (args : List String) : IO UInt32 := Ledger.Cli.run args
