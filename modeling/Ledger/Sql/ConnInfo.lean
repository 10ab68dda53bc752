import Ledger.Text.Quoted
import Ledger.Text.Bytes
import Ledger.Number.Integer
import Ledger.Http.Url
/-!
# Connection settings

A connection string of `key=value` pairs, or a `postgres://` URL, read over the defaults and
the `PG` variables of the environment. Opening a connection checks its switches and timeout,
and reaches the host by a socket directory or over TCP.
-/

namespace Ledger.Sql

/-- Where a server is reached. -/
inductive Endpoint where
  | socket (path : String)
  | tcp (host port : String)
  deriving Repr, Inhabited, DecidableEq

/-- Reads a value after its opening quote up to the closing one; a backslash takes the
next character. Gives the value and the rest. -/
def quotedSetting : List Char → List Char → Except String (List Char × List Char)
  | _, [] => .error "unterminated quoted string literal in connection string"
  | acc, '\'' :: rest => .ok (acc.reverse, rest)
  | acc, '\\' :: c :: rest => quotedSetting (c :: acc) rest
  | acc, ['\\'] => quotedSetting acc []
  | acc, c :: rest => quotedSetting (c :: acc) rest

/-- Reads an unquoted value up to a blank; a backslash takes the next character. -/
def plainSetting : List Char → List Char → Except String (List Char × List Char)
  | acc, [] => .ok (acc.reverse, [])
  | acc, '\\' :: c :: rest => plainSetting (c :: acc) rest
  | _, ['\\'] => .error "missing character after backslash"
  | acc, c :: rest => if Text.isBlank c then .ok (acc.reverse, c :: rest) else plainSetting (c :: acc) rest

/-- Reads the pairs of a connection string, later pairs replacing earlier ones; `fuel`
bounds the pairs. -/
def readPairs : Nat → List Char → List (String × String) → Except String (List (String × String))
  | 0, _, acc => .ok acc
  | fuel + 1, cs, acc =>
    match cs.dropWhile Text.isBlank with
    | [] => .ok acc
    | cs =>
      let key := cs.takeWhile fun c => !Text.isBlank c && c != '='
      let keyText := String.ofList key
      match (cs.drop key.length).dropWhile Text.isBlank with
      | '=' :: rest =>
        let set (v : List Char) := (acc.filter (·.1 != keyText)) ++ [(keyText, String.ofList v)]
        match rest.dropWhile Text.isBlank with
        | [] => .ok (set [])
        | '\'' :: q => do
          let (v, rest) ← quotedSetting [] q
          readPairs fuel rest (set v)
        | r => do
          let (v, rest) ← plainSetting [] r
          readPairs fuel rest (set v)
      | _ => .error ("missing \"=\" after " ++ Text.quoteString keyText ++ " in connection info string\"")

/-- Writes a value for a connection string, quoted, with quotes and backslashes escaped. -/
def quoteSetting (v : String) : String :=
  "'" ++ String.join (v.toList.map fun c => if c == '\'' || c == '\\' then "\\" ++ c.toString else c.toString) ++ "'"

/-- The pairs of a URL query: `&`-separated `key=value` items, each part decoded with
`+` standing for a blank. An empty item, one holding a semicolon and one with a bad
escape are left out, and the first value of a key is the one kept. -/
def queryPairs (query : String) : List (String × String) :=
  let items : List (Bytes × Bytes) := ((Bytes.ofString query).splitOn 38).filterMap fun item =>
    if item.isEmpty || item.contains 59 then none
    else
      let k := item.takeWhile (· != 61)
      match Http.percentDecode true k, Http.percentDecode true (item.drop (k.length + 1)) with
      | some key, some value => some (key, value)
      | _, _ => none
  let firsts := items.foldl (fun acc (k, v) => if acc.any (·.1 == k) then acc else acc ++ [(k, v)]) []
  firsts.map fun (k, v) => (Bytes.toText k, Bytes.toText v)

/-- Splits `host:port` at its last colon; a host in brackets is the text inside them.
`none` when there is no port, or when the colons and brackets do not fit that shape. -/
def splitHostPort (hp : List Char) : Option (String × String) := do
  let i ← (hp.reverse.findIdx? (· == ':')).map (hp.length - 1 - ·)
  let port := String.ofList (hp.drop (i + 1))
  if hp.head? == some '[' then
    let close ← hp.findIdx? (· == ']')
    guard (close + 1 == i)
    guard (!(hp.drop 1).contains '[' && !(hp.drop (close + 1)).contains ']')
    pure (String.ofList ((hp.take close).drop 1), port)
  else
    let host := hp.take i
    guard (!host.contains ':' && !hp.contains '[' && !hp.contains ']')
    pure (String.ofList host, port)

/-- The connection string a URL stands for: its user, password, host, port, database
(the path without its first slash) and query pairs as quoted pairs, sorted, with empty
values left out. A host without a port that reads is given whole. -/
def ofUrl (url : String) : Except String String := do
  let u ← Http.parseReference url
  let user := match u.user with
    | some info => [("user", Bytes.toText info.name), ("password", Bytes.toText (info.password.getD []))]
    | none => []
  let host := Bytes.toText u.host
  let place := match splitHostPort host.toList with
    | some (h, p) => [("host", h), ("port", p)]
    | none => [("host", host)]
  let database := if u.path.isEmpty then [] else [("dbname", Bytes.toText (u.path.drop 1))]
  let pairs := user ++ place ++ database ++ queryPairs u.rawQuery
  let items := (pairs.filter (!·.2.isEmpty)).map fun (k, v) => k ++ "=" ++ quoteSetting v
  return " ".intercalate (items.mergeSort fun a b => decide (a ≤ b))

/-- Cleans an absolute path: no empty or `.` segments, `..` going up. -/
def cleanPath (p : String) : String :=
  let segs := (p.splitOn "/").foldl (fun acc s =>
    if s.isEmpty || s == "." then acc
    else if s == ".." then acc.dropLast
    else acc ++ [s]) []
  "/" ++ "/".intercalate segs

/-- Whether an encoding name stands for UTF-8: its letters and digits, in small
letters, are `utf8` or `unicode`. -/
def isUtf8Name (name : String) : Bool :=
  let s := String.ofList ((name.toList.filter Char.isAlphanum).map Char.toLower)
  s == "utf8" || s == "unicode"

/-- The variables of the environment that give settings, with the setting each gives. -/
def environmentSettings : List (String × String) :=
  [("PGHOST", "host"), ("PGPORT", "port"), ("PGDATABASE", "dbname"), ("PGUSER", "user"),
    ("PGPASSWORD", "password"), ("PGOPTIONS", "options"), ("PGAPPNAME", "application_name"),
    ("PGSSLMODE", "sslmode"), ("PGSSLCERT", "sslcert"), ("PGSSLKEY", "sslkey"),
    ("PGSSLROOTCERT", "sslrootcert"), ("PGSSLSNI", "sslsni"),
    ("PGCONNECT_TIMEOUT", "connect_timeout"), ("PGCLIENTENCODING", "client_encoding"),
    ("PGDATESTYLE", "datestyle"), ("PGTZ", "timezone"), ("PGGEQO", "geqo")]

/-- The settings of a connection string under the given environment. -/
def settings (env : String → Option String) (conn : String) : Except String (List (String × String)) := do
  let base := [("host", "localhost"), ("port", "5432"), ("extra_float_digits", "2")]
  let base := environmentSettings.foldl (fun acc (var, key) =>
    match env var with
    | some v => setPair acc key v
    | none => acc) base
  let conn ← if conn.startsWith "postgres://" || conn.startsWith "postgresql://" then ofUrl conn
    else pure conn
  let pairs ← readPairs (conn.length + 1) conn.toList []
  let all := pairs.foldl (fun acc (k, v) => setPair acc k v) base
  if let some enc := all.lookup "client_encoding" then
    if !isUtf8Name enc then throw "client_encoding must be absent or 'UTF8'"
  if let some style := all.lookup "datestyle" then
    if style != "ISO, MDY" then throw ("setting datestyle must be absent or ISO, MDY; got " ++ style)
  return all
where
  /-- Sets a pair. -/
  setPair (ps : List (String × String)) (k v : String) : List (String × String) :=
    (ps.filter (·.1 != k)) ++ [(k, v)]

/-- Checks the switches of the driver: each that is set must be `yes` or `no`. -/
def checkSwitches (settings : List (String × String)) : Except String Unit :=
  ["disable_prepared_binary_result", "binary_parameters"].forM fun key =>
    match settings.lookup key with
    | some v =>
      if v == "yes" || v == "no" then .ok ()
      else .error ("unrecognized value " ++ Text.quoteString v ++ " for " ++ key)
    | none => .ok ()

/-- Checks the connect timeout, a decimal number when it is set and not `0`. -/
def checkTimeout (settings : List (String × String)) : Except String Unit :=
  match settings.lookup "connect_timeout" with
  | some t =>
    if t == "0" then .ok ()
    else match Number.parseInt64 t with
      | .ok _ => .ok ()
      | .error e => .error ("invalid value for parameter connect_timeout: " ++ e.message "ParseInt" t)
  | none => .ok ()

/-- Where the settings say the server is. -/
def endpoint (settings : List (String × String)) : Endpoint :=
  let host := (settings.lookup "host").getD ""
  let port := (settings.lookup "port").getD ""
  if host.startsWith "/" then .socket (cleanPath (host ++ "/.s.PGSQL." ++ port)) else .tcp host port

/-- Connects to the server, given the sockets that accept connections; a server reached
over TCP is never there. -/
def connect (sockets : List String) : Endpoint → Except String Unit
  | .socket path =>
    if sockets.contains path then .ok ()
    else .error ("dial unix " ++ path ++ ": connect: no such file or directory")
  | .tcp host port =>
    let addr := if host == "localhost" then "127.0.0.1" else host
    let addr := if addr.contains ':' then "[" ++ addr ++ "]" else addr
    .error ("dial tcp " ++ addr ++ ":" ++ port ++ ": connect: connection refused")

/-- Opens a connection with a connection string under the given environment, given the
sockets that accept connections: the settings, the switches, the timeout, and then
the server. -/
def openConnection (env : String → Option String) (sockets : List String) (conn : String) :
    Except String Unit := do
  let s ← settings env conn
  checkSwitches s
  checkTimeout s
  connect sockets (endpoint s)

end Ledger.Sql
