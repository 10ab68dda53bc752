import Ledger.Command.Run
import Ledger.Log
import Ledger.Config.Load
import Ledger.Sql.ConnInfo
/-!
# The console of a service command

Service commands log JSON lines to standard output at their logger's level, and a fatal
entry ends the run with status 1. Settings are read from the host's environment and working
directory.
-/

namespace Ledger.Command

/-- The log lines a command has written, at the level of its logger. -/
structure Console where
  level : Log.Level
  lines : List String := []
  deriving Repr, Inhabited

namespace Console

/-- Writes an entry if the level lets it through. -/
def log (c : Console) (level : Log.Level) (message : String) : Console :=
  if Log.enabled c.level level then { c with lines := c.lines ++ (Log.Entry.make level message []).line?.toList }
  else c

/-- Writes a fatal entry and ends the run with status 1. -/
def fatal (c : Console) (message : String) : Run :=
  { stdout := (c.log .fatal message).lines, ending := .exit 1 }

/-- Keeps serving; on stop, writes `farewell` at the info level. -/
def serve (c : Console) (farewell : String) : Run :=
  { stdout := c.lines, ending := .serving ((c.log .info farewell).lines.drop c.lines.length) }

end Console

/-- The sources of the settings a host gives. -/
def hostSources (host : Host) : Config.Sources :=
  ⟨host.env, host.files.map fun (name, content) => (name, Bytes.toText content)⟩

/-- Loads the settings, with a console at the level they name; a failure is fatal on a
console at the level the environment names. -/
def boot (host : Host) : Except Run (Config × Console) :=
  let early : Console := ⟨Log.Level.ofSetting (host.getenv "LOG_LEVEL"), []⟩
  match Config.load (hostSources host) with
  | .error e => .error (early.fatal ("Failed to load config: " ++ e))
  | .ok cfg => .ok (cfg, ⟨Log.Level.ofSetting cfg.logLevel, []⟩)

/-- Opens the database the settings name and checks that it answers. The connection
string is only read when the first connection is made, so every failure is one of
checking that the database answers. -/
def openDatabase (host : Host) (console : Console) (cfg : Config) : Except Run Unit :=
  match Sql.openConnection host.lookup host.sockets cfg.dbConn with
  | .error e => .error (console.fatal ("Failed to ping database: " ++ e))
  | .ok () => .ok ()

end Ledger.Command
