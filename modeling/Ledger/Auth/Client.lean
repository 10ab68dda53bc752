import Ledger.Text.Quoted
import Ledger.Json.Basic
/-!
# API clients and their registry

A client has a name, an API key, a secret key and roles. The registry indexes clients
by API key; every client must have a key, and no key may be used twice. A lookup
finds the client with exactly the given key.
-/

namespace Ledger.Auth

/-- An API client. `roles` is `none` when the client lists none at all. -/
structure Client where
  name : String
  apiKey : String
  secretKey : String
  roles : Option (List String)
  deriving Repr, Inhabited, DecidableEq

/-- Clients indexed by API key. -/
structure Registry where
  clients : List Client
  deriving Repr, Inhabited

namespace Registry

/-- Builds a registry, refusing a client without a key and a key used twice. -/
def build (cs : List Client) : Except String Registry :=
  let step (acc : Except String (List Client)) (c : Client) : Except String (List Client) :=
    match acc with
    | .error e => .error e
    | .ok seen =>
      if c.apiKey.isEmpty then .error ("client " ++ Text.quoteString c.name ++ " has no API key")
      else if seen.any (·.apiKey == c.apiKey) then
        .error ("duplicate API key for client " ++ Text.quoteString c.name)
      else .ok (seen ++ [c])
  (cs.foldl step (.ok [])).map Registry.mk

/-- The client with the given key. -/
def lookup (r : Registry) (key : String) : Option Client := r.clients.find? (·.apiKey == key)

end Registry
end Ledger.Auth

namespace Ledger.Auth

/-- The JSON form of a client; `roles` is `null` when the client lists none. -/
def Client.toJson (c : Client) : Json :=
  .obj [("name", .text c.name), ("apiKey", .text c.apiKey), ("secretKey", .text c.secretKey),
    ("roles", match c.roles with
      | some rs => .arr (rs.map Json.text)
      | none => .null)]

end Ledger.Auth
