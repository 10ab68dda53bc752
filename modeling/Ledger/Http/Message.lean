import Ledger.Http.Url
import Ledger.Json.Basic
import Ledger.Text.Bytes
import Ledger.Text.Case
/-!
# Requests and responses

Header names are compared in canonical spelling, a body is read as a stream, a request is
made from a method, a target and a body as a request line would be read, and a media type is
read into its lower-case type and subtype.
-/

namespace Ledger.Http

/-- Whether a byte may stand in a token: letters, digits and ``!#$%&'*+-.^_`|~``. -/
def isTokenByte (b : UInt8) : Bool :=
  isAlnum b || [33, 35, 36, 37, 38, 39, 42, 43, 45, 46, 94, 95, 96, 124, 126].contains b

/-- The canonical spelling of a header name. -/
def canonicalKey (k : String) : String :=
  let bs := Bytes.ofString k
  if bs.isEmpty || !bs.all isTokenByte then k
  else
    let step (acc : List Char × Bool) (c : Char) : List Char × Bool :=
      let (out, upper) := acc
      let c := if upper then c.toUpper else c.toLower
      (c :: out, c == '-')
    String.ofList (k.toList.foldl step ([], true)).1.reverse

/-- Headers: canonical names with their values, in the order first set. -/
structure Headers where
  entries : List (String × List String) := []
  deriving Repr, Inhabited

namespace Headers

/-- Sets a header to one value. -/
def set (h : Headers) (name value : String) : Headers :=
  let k := canonicalKey name
  if h.entries.any (·.1 == k) then
    ⟨h.entries.map fun (k', v) => if k' == k then (k', [value]) else (k', v)⟩
  else ⟨h.entries ++ [(k, [value])]⟩

/-- The first value of a header, or the empty text. -/
def get (h : Headers) (name : String) : String :=
  let k := canonicalKey name
  match h.entries.find? (·.1 == k) with
  | some (_, v :: _) => v
  | _ => ""

/-- Whether a header is set. -/
def has (h : Headers) (name : String) : Bool :=
  let k := canonicalKey name
  h.entries.any (·.1 == k)

end Headers

/-- A request. `body` is `none` when the request carries no body at all. -/
structure Request where
  method : String
  url : Url
  headers : Headers := {}
  body : Option Bytes := none
  deriving Repr, Inhabited

/-- Reads the body through a reader that stops after `limit` bytes, then puts the bytes read
back in front of what that reader left: the body reads as the bytes read followed by the
rest. Gives the bytes read and the request with the rebuilt body; a request without a body
is left as it is. -/
def Request.peekBody (limit : Nat) (req : Request) : Bytes × Request :=
  match req.body with
  | none => ([], req)
  | some b =>
    let read := b.take limit
    (read, { req with body := some (read ++ b.drop limit) })

/-- Reads the whole body through a reader that refuses more than `limit` bytes: it takes at
most `limit + 1` bytes and refuses once it holds more than `limit`. Gives the bytes read
and the request whose body reads them again, or none on refusal. A request without a body
reads as empty. -/
def Request.readBody (limit : Nat) (req : Request) : Option (Bytes × Request) :=
  let read := (req.body.getD []).take (limit + 1)
  if read.length > limit then none
  else some (read, { req with body := some read })

/-- The text of an HTTP version `HTTP/x.y`, with one digit each. -/
def isVersion (s : String) : Bool :=
  match s.toList with
  | ['H', 'T', 'T', 'P', '/', a, '.', b] => a.isDigit && b.isDigit
  | _ => false

/-- Makes a request from a method, a target and a body, as the request line
`METHOD target HTTP/1.0` is read; a line that does not read as a request gives the
reader's message. The line ends at the first line feed (and a carriage return before
it); it must have a space after the method and after the target, a method of token
characters, a version `HTTP/x.y`, and a target that reads as a request target. -/
def Request.make (method target : String) (body : Option Bytes) : Except String Request := do
  let method := if method.isEmpty then "GET" else method
  let line := (method ++ " " ++ target ++ " HTTP/1.0").toList.takeWhile (· != '\n')
  let line := if line.getLast? == some '\r' then line.dropLast else line
  let (m, rest) := line.span (· != ' ')
  let (uri, proto) := (rest.drop 1).span (· != ' ')
  if rest.isEmpty || proto.isEmpty then
    throw ("malformed HTTP request " ++ Text.quoteString (String.ofList line))
  let m := String.ofList m
  let uri := String.ofList uri
  let proto := String.ofList (proto.drop 1)
  if m.isEmpty || !(Bytes.ofString m).all isTokenByte then throw ("invalid method " ++ Text.quoteString m)
  if !isVersion proto then throw ("malformed HTTP version " ++ Text.quoteString proto)
  let authorityOnly := m == "CONNECT" && !uri.startsWith "/"
  let uri := if authorityOnly then "http://" ++ uri else uri
  match parseTarget uri with
  | .ok url => return { method := m, url := if authorityOnly then { url with scheme := "" } else url, body }
  | .error e => throw ("parse " ++ Text.quoteString uri ++ ": " ++ e)

/-- A response. -/
structure Response where
  status : Int
  headers : Headers := {}
  body : Bytes := []
  deriving Repr, Inhabited

/-- A JSON response: the value written with HTML characters escaped, and a line end. -/
def Response.json (status : Int) (headers : Headers) (value : Json) : Response :=
  ⟨status, headers.set "Content-Type" "application/json", Bytes.ofString (value.render true ++ "\n")⟩

/-- A JSON response of a value that may have no encoding; then the status and headers
are sent with an empty body. -/
def Response.jsonOr (status : Int) (headers : Headers) : Option Json → Response
  | some value => Response.json status headers value
  | none => ⟨status, headers.set "Content-Type" "application/json", []⟩

/-- Whether a character may stand in a media type token. -/
def isMediaTokenChar (c : Char) : Bool :=
  c.toNat < 127 && c.toNat > 32 && !"()<>@,;:\\\"/[]?=".contains c

/-- Splits off a leading token. -/
def splitToken (cs : List Char) : List Char × List Char :=
  (cs.takeWhile isMediaTokenChar, cs.dropWhile isMediaTokenChar)

/-- Whether a media type is a token, optionally followed by `/` and a token. -/
def validMediaType (cs : List Char) : Bool :=
  let (t, rest) := splitToken cs
  if t.isEmpty then false
  else match rest with
    | [] => true
    | '/' :: r => let (sub, rest2) := splitToken r; !sub.isEmpty && rest2.isEmpty
    | _ => false

/-- Reads a quoted parameter value after its opening quote; a backslash escapes the
special characters. Gives the value and the rest after the closing quote. -/
def quotedValue : List Char → List Char → Option (List Char × List Char)
  | acc, '"' :: rest => some (acc.reverse, rest)
  | acc, '\\' :: c :: rest =>
    if "()<>@,;:\\\"/[]?=".contains c then quotedValue (c :: acc) rest
    else quotedValue ('\\' :: acc) (c :: rest)
  | _, '\r' :: _ => none
  | _, '\n' :: _ => none
  | acc, c :: rest => quotedValue (c :: acc) rest
  | _, [] => none

/-- Reads a parameter value: a token or a quoted text. -/
def paramValue (cs : List Char) : List Char × List Char :=
  match cs with
  | '"' :: rest => (quotedValue [] rest).getD ([], cs)
  | _ => splitToken cs

/-- Reads one parameter `; name=value`, giving the name in small letters, the value and
the rest. -/
def mediaParam (cs : List Char) : Option (String × String × List Char) := do
  let rest := cs.dropWhile Text.isBlank
  let rest ← match rest with | ';' :: r => some r | _ => none
  let (name, rest) := splitToken (rest.dropWhile Text.isBlank)
  if name.isEmpty then none
  let rest ← match rest.dropWhile Text.isBlank with | '=' :: r => some r | _ => none
  let rest := rest.dropWhile Text.isBlank
  let (value, rest2) := paramValue rest
  if value.isEmpty && rest2 == rest then none
  return (Text.lowerText (String.ofList name), String.ofList value, rest2)

/-- Checks the parameters of a media type; `fuel` above the length suffices. -/
def mediaParams : Nat → List Char → List (String × String) → Bool
  | 0, _, _ => true
  | fuel + 1, cs, seen =>
    match cs.dropWhile Text.isBlank with
    | [] => true
    | cs =>
      match mediaParam cs with
      | none => String.trimBlank (String.ofList cs) == ";"
      | some (k, v, rest) =>
        match seen.lookup k with
        | some v' => v' == v && mediaParams fuel rest seen
        | none => mediaParams fuel rest ((k, v) :: seen)

/-- The media type of a content type in small letters, when it is well formed. -/
def mediaType? (v : String) : Option String :=
  let cs := v.toList
  let base := cs.takeWhile (· != ';')
  let type := String.trimBlank (Text.lowerText (String.ofList base))
  if !validMediaType type.toList then none
  else
    let params := cs.drop base.length
    if mediaParams (params.length + 1) params [] then some type else none

end Ledger.Http
