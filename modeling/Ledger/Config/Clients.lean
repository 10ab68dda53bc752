import Ledger.Config.Basic
import Ledger.Json.Bind
import Ledger.Secret
/-!
# Reading clients and seed accounts

API clients are a JSON list of objects, their sealed secrets opened with the encryption key;
seed accounts are a comma-separated list of `NUMBER:BALANCE` entries.
-/

namespace Ledger.ClientList

open Json

/-- A client with nothing set. -/
def emptyClient : Auth.Client := ⟨"", "", "", none⟩

/-- Reads a text member; `null` keeps the current value. -/
def readText (path : List PathStep) (current : String) (saved : Option Mismatch) :
    Node → String × Option Mismatch
  | .str s .. => (Bytes.toText s, saved)
  | .null .. => (current, saved)
  | n => (current, firstMismatch saved ⟨n.kindWord, path, "string"⟩)

/-- Reads the roles; `null` clears them. -/
def readRoles (path : List PathStep) (current : Option (List String)) (saved : Option Mismatch) :
    Node → Option (List String) × Option Mismatch
  | .null .. => (none, saved)
  | .arr items .. =>
    let step (acc : List String × Option Mismatch × Nat) (n : Node) :=
      let (rs, sv, i) := acc
      let (r, sv) := readText (path ++ [.index i]) "" sv n
      (r :: rs, sv, i + 1)
    let (rs, sv, _) := items.foldl step ([], saved, 0)
    (some rs.reverse, sv)
  | n => (current, firstMismatch saved ⟨n.kindWord, path, "[]string"⟩)

/-- The member names of a client. -/
def memberNames : List String := ["name", "apiKey", "secretKey", "roles"]

/-- Reads one member into a client. -/
def readMember (path : List PathStep) (acc : Auth.Client × Option Mismatch)
    (member : Bytes × Node) : Auth.Client × Option Mismatch :=
  let (c, saved) := acc
  let (key, v) := member
  match fieldFor memberNames key with
  | some "name" => let (x, s) := readText (path ++ [.field "name"]) c.name saved v; ({ c with name := x }, s)
  | some "apiKey" =>
    let (x, s) := readText (path ++ [.field "apiKey"]) c.apiKey saved v; ({ c with apiKey := x }, s)
  | some "secretKey" =>
    let (x, s) := readText (path ++ [.field "secretKey"]) c.secretKey saved v
    ({ c with secretKey := x }, s)
  | some "roles" =>
    let (x, s) := readRoles (path ++ [.field "roles"]) c.roles saved v; ({ c with roles := x }, s)
  | _ => (c, saved)

/-- Reads the client at position `i` of the list. -/
def readClient (i : Nat) (saved : Option Mismatch) : Node → Auth.Client × Option Mismatch
  | .null .. => (emptyClient, saved)
  | .obj members .. => members.foldl (readMember [.index i]) (emptyClient, saved)
  | n => (emptyClient, firstMismatch saved ⟨n.kindWord, [.index i], "models.Client"⟩)

/-- Reads a client list; `none` for `null`. -/
def decode (raw : Bytes) : Except String (Option (List Auth.Client)) :=
  match parseDocument raw.toArray with
  | .error e => .error e
  | .ok (.null ..) => .ok none
  | .ok (.arr items ..) =>
    let step (acc : List Auth.Client × Option Mismatch × Nat) (n : Node) :=
      let (cs, sv, i) := acc
      let (c, sv) := readClient i sv n
      (c :: cs, sv, i + 1)
    match items.foldl step ([], none, 0) with
    | (_, some m, _) => .error (m.message "")
    | (cs, none, _) => .ok (some cs.reverse)
  | .ok n => .error (Mismatch.message "" ⟨n.kindWord, [], "[]models.Client"⟩)

/-- Opens the sealed secret of a client, if it has one. -/
def openClient (encryptionKey : String) (c : Auth.Client) : Except String Auth.Client :=
  if !isSealed c.secretKey then .ok c
  else if encryptionKey.isEmpty then
    .error ("client " ++ Text.quoteString c.name ++ " has a sealed secret but ENCRYPTION_KEY is not set")
  else
    match SealKey.parse encryptionKey with
    | .error e => .error ("invalid ENCRYPTION_KEY: " ++ e)
    | .ok key =>
      match openSecret key c.secretKey with
      | .error e => .error ("failed to open secret for client " ++ Text.quoteString c.name ++ ": " ++ e)
      | .ok plain => .ok { c with secretKey := Bytes.toText plain }

/-- Reads a client list and opens its sealed secrets; `none` for `null`. -/
def read (raw : Bytes) (encryptionKey : String) : Except String (Option (List Auth.Client)) :=
  match decode raw with
  | .error e => .error ("failed to parse clients: " ++ e)
  | .ok none => .ok none
  | .ok (some cs) => (cs.mapM (openClient encryptionKey)).map some

end Ledger.ClientList

namespace Ledger

/-- The non-empty items of a comma separated list, trimmed of blanks. -/
def commaItems (s : String) : List String :=
  ((s.toList.splitOn ',').map fun item => String.trimBlank (String.ofList item)).filter (!·.isEmpty)

/-- Reads one `NUMBER:BALANCE` entry. -/
def SeedAccount.parse (item : String) : Except String SeedAccount :=
  let (number, rest) := item.toList.span (· != ':')
  let number := String.trimBlank (String.ofList number)
  match rest with
  | [] => .error ("invalid SEED_ACCOUNTS entry " ++ Text.quoteString item)
  | _ :: balance =>
    if number.isEmpty then .error ("invalid SEED_ACCOUNTS entry " ++ Text.quoteString item)
    else
      match Decimal.parse (String.trimBlank (String.ofList balance)) with
      | .ok d =>
        if d.isNegative then .error ("invalid balance in SEED_ACCOUNTS entry " ++ Text.quoteString item)
        else .ok ⟨number, d⟩
      | .error _ => .error ("invalid balance in SEED_ACCOUNTS entry " ++ Text.quoteString item)

/-- Reads a comma separated list of seed accounts. -/
def SeedAccount.parseList (raw : String) : Except String (List SeedAccount) :=
  (commaItems raw).mapM SeedAccount.parse

end Ledger
