import Ledger.Command.Run
import Ledger.Command.Flags
import Ledger.Auth.Check
import Ledger.Secret
/-!
# The signing command

It prints the API key, time stamp and signature of the request its flags describe, or, given
a secret to seal, the secret sealed under `ENCRYPTION_KEY`. Bad flags exit with status 2,
help with 0 and any other failure with 1.
-/

namespace Ledger.Command

/-- The name the signing command is known by. -/
def signerName : String := "signer"

/-- The flags of the signing command, with the defaults the host gives. -/
def signerFlags (host : Host) : List Flag := [
  ⟨"api-key", "client API key (or set API_KEY env)", host.getenv "API_KEY"⟩,
  ⟨"secret", "client secret key (or set API_SECRET env)", host.getenv "API_SECRET"⟩,
  ⟨"method", "HTTP method", "POST"⟩,
  ⟨"path", "request path", "/api/transactions"⟩,
  ⟨"query", "raw query string without '?'", ""⟩,
  ⟨"body", "request body", ""⟩,
  ⟨"body-file", "read the request body from a file", ""⟩,
  ⟨"seal", "seal this secret with ENCRYPTION_KEY and exit", ""⟩]

/-- The run of a command whose flags could not be read. -/
def flagFailure (command : String) (flags : List Flag) (e : FlagError) : Run :=
  let usage := usageText command flags
  match e.message? with
  | some m => { stderr := m ++ "\n" ++ usage, ending := .exit 2 }
  | none => { stderr := usage, ending := .exit 0 }

/-- Seals a secret with the key of the host. -/
def sealWithHostKey (host : Host) (secret : String) : Run :=
  match SealKey.parse (host.getenv "ENCRYPTION_KEY") with
  | .error e => .fail ("invalid ENCRYPTION_KEY: " ++ e)
  | .ok key =>
    match sealSecret key (host.random.take nonceLength) secret with
    | .error e => .fail ("failed to seal secret: " ++ e)
    | .ok sealed => { stdout := [sealed], ending := .exit 0 }

/-- Runs the signing command. -/
def runSigner (host : Host) (args : List String) : Run :=
  let flags := signerFlags host
  match readFlags flags args with
  | .error e => flagFailure signerName flags e
  | .ok f =>
    if !(f.get "seal").isEmpty then sealWithHostKey host (f.get "seal")
    else if (f.get "api-key").isEmpty || (f.get "secret").isEmpty then
      .fail "-api-key and -secret are required"
    else
      let bodyFile := f.get "body-file"
      let body : Except String Bytes :=
        if bodyFile.isEmpty then .ok (Bytes.ofString (f.get "body"))
        else host.readFile bodyFile
      match body with
      | .error e => .fail ("failed to read body file: " ++ e)
      | .ok body =>
        let stamp := toString host.clockMillis
        let signature := Auth.sign (f.get "secret") (f.get "method") (Bytes.ofString (f.get "path"))
          (f.get "query") stamp body
        { stdout := ["X-API-KEY: " ++ f.get "api-key", "X-TIMESTAMP: " ++ stamp,
            "X-HMAC-SIGNATURE: " ++ signature], ending := .exit 0 }

end Ledger.Command
