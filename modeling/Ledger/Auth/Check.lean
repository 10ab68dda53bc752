import Ledger.Auth.Client
import Ledger.Failure
import Ledger.Time.Instant
import Ledger.Text.Bytes
import Ledger.Text.Case
import Ledger.Crypto.Sha256
import Ledger.Crypto.Base64
/-!
# Signing and authenticating requests

A request is signed over its canonical string (method, path, raw query, timestamp and body,
joined by colons) with HMAC-SHA256 under the client's secret. `authenticate` accepts a request
whose key and signature are present, whose timestamp is fresh and whose signature is its
client's; each refusal has its own kind.
-/

/-! ## Signatures -/

namespace Ledger.Auth

/-- The upper case of a method name, character by character. -/
def upperMethod (m : String) : Bytes :=
  Bytes.ofString (String.ofList (m.toList.map Text.toUpper))

/-- The canonical string of a request. -/
def canonical (method : String) (path : Bytes) (query timestamp : String) (body : Bytes) : Bytes :=
  let colon : Bytes := [58]
  upperMethod method ++ colon ++ path ++ colon ++ Bytes.ofString query ++ colon ++
    Bytes.ofString timestamp ++ colon ++ body

/-- The base64 HMAC-SHA256 of data under a secret. -/
def hmacText (data : Bytes) (secret : String) : String :=
  Crypto.base64Encode (Crypto.hmacSha256 (Bytes.ofString secret) data)

/-- The signature of a request under a secret. -/
def sign (secret method : String) (path : Bytes) (query timestamp : String) (body : Bytes) :
    String :=
  hmacText (canonical method path query timestamp body) secret

/-! ## Authentication -/

/-- The parts of a request that authentication looks at. -/
structure Request where
  method : String
  path : Bytes
  query : String
  body : Bytes
  apiKey : String
  signature : String
  timestamp : String
  deriving Repr

/-- The client a request was authenticated as. -/
structure Principal where
  apiKey : String
  name : String
  roles : List String
  deriving Repr

/-- Whether the principal has a role. -/
def Principal.hasRole (p : Principal) (role : String) : Bool := p.roles.contains role

/-- The skew allowed when none is configured: 30 minutes, in nanoseconds. -/
def defaultMaxSkew : Int := 30 * 60 * 1000000000

/-- The skew in force for a configured value: the default when it is not positive. -/
def effectiveSkew (skew : Int) : Int := if skew ≤ 0 then defaultMaxSkew else skew

/-- Checks a timestamp header against the clock. -/
def checkTimestamp (skew : Int) (now : Instant) (raw : String) : Except Failure Unit :=
  match Number.parseInt64 (String.trimBlank raw) with
  | .error _ => .error (.make .authInvalidTimestamp "Invalid timestamp format")
  | .ok ts =>
    if ts ≤ 0 then .error (.make .authInvalidTimestamp "Timestamp cannot be 0 or negative.")
    else
      let nowMs := now.toMillis
      if ts > nowMs then .error (.make .authTimestampExpired "Timestamp cannot be in the future")
      else if nowMs - ts > (effectiveSkew skew).tdiv 1000000 then
        .error (.make .authTimestampExpired "Timestamp expired")
      else .ok ()

/-- Authenticates a request against the registry at the given time. -/
def authenticate (reg : Registry) (skew : Int) (now : Instant) (req : Request) :
    Except Failure Principal := do
  if (String.trimBlank req.apiKey).isEmpty then
    throw (.make .authMissingHeader "X-API-KEY is missing or empty!")
  if (String.trimBlank req.signature).isEmpty then
    throw (.make .authMissingHeader "X-HMAC-SIGNATURE is missing or empty!")
  checkTimestamp skew now req.timestamp
  match reg.lookup req.apiKey with
  | none => throw (.make .authGeneric "Invalid API key")
  | some c =>
    let expected := sign c.secretKey req.method req.path req.query req.timestamp req.body
    if req.signature != expected then throw (.make .authSignatureInvalid "Invalid HMAC signature")
    pure ⟨c.apiKey, c.name, c.roles.getD []⟩

end Ledger.Auth
