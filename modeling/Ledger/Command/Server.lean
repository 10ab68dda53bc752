import Ledger.Command.Console
import Ledger.Store.Memory
import Ledger.Schedule
/-!
# The server and reconciler commands

The server command loads the settings, opens the store and serves the HTTP front on its port
until stopped; an in-memory store is seeded first. The reconciler command requires a database
store and sweeps for failed transactions on the schedule the settings name.
-/

namespace Ledger.Command

/-- Why the address `:port` cannot be listened on, if it cannot. -/
def listenFailure? (port : String) : Option String :=
  let addr := ":" ++ port
  if port.contains ':' then some ("address " ++ addr ++ ": too many colons in address")
  else if port.contains '[' then some ("address " ++ addr ++ ": unexpected '[' in address")
  else if port.contains ']' then some ("address " ++ addr ++ ": unexpected ']' in address")
  else
    let digits := match port.toList with
      | '+' :: ds => ds
      | '-' :: ds => ds
      | ds => ds
    if port.isEmpty then none
    else if !digits.all Char.isDigit then some ("lookup tcp/" ++ port ++ ": unknown port")
    else
      let n := digits.foldl (fun acc c => acc * 10 + (c.toNat - 48)) 0
      if n == 0 || (n ≤ 65535 && !port.startsWith "-") then none
      else some ("address " ++ port ++ ": invalid port")

/-- Opens an in-memory store with the seed accounts. -/
def seedStore (host : Host) (console : Console) (cfg : Config) : Except Run Console := do
  let now := Instant.ofMillis host.clockMillis
  let add (store : Store) (seed : SeedAccount) : Except Run Store :=
    match store.createAccount ⟨0, Bytes.ofString seed.number, seed.balance, Instant.zero, Instant.zero, 0⟩ now with
    | .ok (store, _) => .ok store
    | .error f => .error (console.fatal ("Failed to seed account: " ++ Bytes.toText f.text))
  let _ ← cfg.seedAccounts.foldlM add ({} : Store)
  return console.log .warning ("Using in-memory storage with " ++ toString cfg.seedAccounts.length ++
    " seeded account(s), data is lost on exit")

/-- Runs the server command. -/
def runServer (host : Host) : Run :=
  match boot host with
  | .error run => run
  | .ok (cfg, console) =>
    let opened := if cfg.storage == "memory" then seedStore host console cfg
      else (openDatabase host console cfg).map fun () => console
    match opened with
    | .error run => run
    | .ok console =>
      match Auth.Registry.build cfg.clients with
      | .error e => console.fatal ("Failed to load API clients: " ++ e)
      | .ok _ =>
        let console := console.log .info ("Starting server on :" ++ cfg.port ++ " (storage=" ++ cfg.storage ++
          ", strict rate limit=" ++ (if cfg.rateLimit.strict then "true" else "false") ++ ")")
        match listenFailure? cfg.port with
        | some e => console.fatal ("Server failed: listen tcp: " ++ e)
        | none => console.serve "Shutting down server..."

/-! ## The reconciler command -/

/-- Runs the reconciler command. -/
def runReconciler (host : Host) : Run :=
  match boot host with
  | .error run => run
  | .ok (cfg, console) =>
    if cfg.storage != "postgres" then console.fatal "Reconciler requires STORAGE=postgres"
    else match openDatabase host console cfg with
      | .error run => run
      | .ok () =>
        let spec := cfg.reconcile.schedule
        match Schedule.check spec with
        | .error e => console.fatal ("Invalid RECONCILE_SCHEDULE " ++ Text.quoteString spec ++ ": " ++ e)
        | .ok () =>
          (console.log .info ("Reconciler started with schedule " ++ Text.quoteString spec)).serve
            "Stopping reconciler..."

end Ledger.Command
