import Ledger.Text.Quoted
/-!
# URLs and request targets

The target of a request line, a path or an absolute URL, read with its user, host and path
decoded from percent codes and its query as written. Each refusal has its message; writing
escapes what each part needs, and a clean path holds no empty, `.` or `..` segment.
-/

namespace Ledger.Http

/-- The value of a hexadecimal digit. -/
def hexNibble? (b : UInt8) : Option Nat :=
  if 48 ≤ b && b ≤ 57 then some (b.toNat - 48)
  else if 65 ≤ b && b ≤ 70 then some (b.toNat - 55)
  else if 97 ≤ b && b ≤ 102 then some (b.toNat - 87)
  else none

/-- Decodes percent codes; with `plusIsSpace`, `+` stands for a blank. `none` when a `%`
is not followed by two hexadecimal digits. -/
def percentDecode (plusIsSpace : Bool) : Bytes → Option Bytes
  | [] => some []
  | 37 :: a :: b :: rest =>
    match hexNibble? a, hexNibble? b with
    | some x, some y => (percentDecode plusIsSpace rest).map (UInt8.ofNat (16 * x + y) :: ·)
    | _, _ => none
  | 37 :: _ => none
  | c :: rest =>
    (percentDecode plusIsSpace rest).map ((if plusIsSpace && c == 43 then 32 else c) :: ·)

/-- Whether a byte is a letter or digit of ASCII. -/
def isAlnum (b : UInt8) : Bool := (48 ≤ b && b ≤ 57) || (65 ≤ b && b ≤ 90) || (97 ≤ b && b ≤ 122)

/-- The parts of a target, each with its own rule for what must be escaped. -/
inductive Part where
  | path
  | host
  | zone
  | userInfo
  deriving DecidableEq, Repr

/-- Whether a byte must be escaped when written in a part. -/
def Part.escapes (part : Part) (b : UInt8) : Bool :=
  if isAlnum b then false
  else if (part == .host || part == .zone) &&
      [33, 36, 38, 39, 40, 41, 42, 43, 44, 59, 61, 58, 91, 93, 60, 62, 34].contains b then false
  else if [45, 95, 46, 126].contains b then false
  else if [36, 38, 43, 44, 47, 58, 59, 61, 63, 64].contains b then
    match part with
    | .path => b == 63
    | .userInfo => b == 64 || b == 47 || b == 63 || b == 58
    | _ => true
  else true

/-- The uppercase hexadecimal digit of a value below 16. -/
def upperHexDigit (n : Nat) : Char := (Bytes.hexDigit n).toUpper

/-- The written form of decoded bytes in a part. -/
def escapeIn (part : Part) (bs : Bytes) : String :=
  String.join (bs.map fun b =>
    if part.escapes b then
      "%" ++ String.singleton (upperHexDigit (b.toNat / 16)) ++ String.singleton (upperHexDigit (b.toNat % 16))
    else String.singleton (Char.ofNat b.toNat))

/-- The written form of a decoded path. -/
def escapePath (bs : Bytes) : String := escapeIn .path bs

/-- Whether a path text uses only characters a written path may hold (percent codes
included). -/
def validEncodedPath (bs : Bytes) : Bool :=
  bs.all fun b => !Part.path.escapes b || [33, 36, 38, 39, 40, 41, 42, 43, 44, 59, 61, 58, 64, 91, 93, 37].contains b

/-- The message of a malformed percent code: the `%` and at most two bytes after it. -/
def escapeError (bs : Bytes) : String := "invalid URL escape " ++ Text.quote (bs.take 3)

/-- Decodes the percent codes of a part, checking them as the part requires: in a host a
code may stand only for a byte beyond ASCII (or be `%25`), in a zone only for a byte a
host may hold or a blank, and neither may hold an ASCII byte that needs escaping. -/
def unescapeIn (part : Part) : Bytes → Except String Bytes
  | [] => .ok []
  | 37 :: rest =>
    match rest with
    | a :: b :: more =>
      match hexNibble? a, hexNibble? b with
      | some x, some y =>
        let v := UInt8.ofNat (16 * x + y)
        let isPercent := a == 50 && b == 53
        if part == .host && x < 8 && !isPercent then .error (escapeError [37, a, b])
        else if part == .zone && !isPercent && v != 32 && Part.host.escapes v then
          .error (escapeError [37, a, b])
        else (unescapeIn part more).map (v :: ·)
      | _, _ => .error (escapeError (37 :: rest))
    | _ => .error (escapeError (37 :: rest))
  | c :: rest =>
    if (part == .host || part == .zone) && c < 128 && part.escapes c then
      .error ("invalid character " ++ Text.quote [c] ++ " in host name")
    else (unescapeIn part rest).map (c :: ·)

/-! ## IP addresses -/

/-- A refusal of an IP address text, as the address reader words it; `at` is the part
of the text where reading stopped, when it says. -/
def addrError (input : Bytes) (msg : String) (at_ : Bytes) : String :=
  "ParseAddr(" ++ Text.quote input ++ "): " ++ msg ++
    (if at_.isEmpty then "" else " (at " ++ Text.quote at_ ++ ")")

/-- Whether a byte is a decimal digit. -/
def isDigitByte (b : UInt8) : Bool := 48 ≤ b && b ≤ 57

/-- Reads the four decimal fields of an IPv4 address: no field empty, above 255 or with
a leading zero. `value` and `digits` describe the field being read, `done` the fields
finished, `prev` the byte before. -/
def ipv4Fields (input : Bytes) (value digits done : Nat) (prev : Option UInt8) :
    Bytes → Except String Unit
  | [] => if done < 3 then .error (addrError input "IPv4 address too short" []) else .ok ()
  | c :: rest =>
    if isDigitByte c then
      if digits == 1 && value == 0 then .error (addrError input "IPv4 field has octet with leading zero" [])
      else
        let v := value * 10 + (c.toNat - 48)
        if v > 255 then .error (addrError input "IPv4 field has value >255" [])
        else ipv4Fields input v (digits + 1) done (some c) rest
    else if c == 46 then
      if prev.isNone || rest.isEmpty || prev == some 46 then
        .error (addrError input "IPv4 field must have at least one digit" (c :: rest))
      else if done == 3 then .error (addrError input "IPv4 address too long" [])
      else ipv4Fields input 0 0 (done + 1) (some c) rest
    else .error (addrError input "unexpected character" (c :: rest))

/-- Whether a byte is a hexadecimal digit. -/
def isHexByte (b : UInt8) : Bool := (hexNibble? b).isSome

/-- Reads the groups of an IPv6 address from `s`, with `filled` bytes read so far and
the byte position of `::` if one was read. Gives where reading stopped. -/
def ipv6Groups (input : Bytes) : Nat → Nat → Option Nat → Bytes →
    Except String (Nat × Option Nat × Bytes)
  | 0, filled, gap, s => .ok (filled, gap, s)
  | fuel + 1, filled, gap, s =>
    if filled ≥ 16 then .ok (filled, gap, s)
    else
      let digits := s.takeWhile isHexByte
      let after := s.drop digits.length
      if digits.length > 4 then .error (addrError input "each group must have 4 or less digits" s)
      else if digits.isEmpty then
        .error (addrError input "each colon-separated field must have at least one digit" s)
      else if after.head? == some 46 then
        if gap.isNone && filled != 12 then
          .error (addrError input
            "embedded IPv4 address must replace the final 2 fields of the address" s)
        else if filled + 4 > 16 then
          .error (addrError input
            "too many hex fields to fit an embedded IPv4 at the end of the address" s)
        else (ipv4Fields input 0 0 0 none s).map fun _ => (filled + 4, gap, [])
      else
        let filled := filled + 2
        match after with
        | [] => .ok (filled, gap, [])
        | 58 :: more =>
          if more.isEmpty then .error (addrError input "colon must be followed by more characters" after)
          else match more with
            | 58 :: more2 =>
              if gap.isSome then .error (addrError input "multiple :: in address" more)
              else if more2.isEmpty then .ok (filled, some filled, [])
              else ipv6Groups input fuel filled (some filled) more2
            | _ => ipv6Groups input fuel filled gap more
        | _ => .error (addrError input "unexpected character, want colon" after)

/-- Reads an IPv6 address with an optional zone after `%`. -/
def ipv6 (input : Bytes) : Except String Unit := do
  let s := input.takeWhile (· != 37)
  if s.length < input.length && input.length == s.length + 1 then
    throw (addrError input "zone must be a non-empty string" [])
  let (start, gap) := if s.take 2 == [58, 58] then (s.drop 2, some 0) else (s, none)
  if gap.isSome && start.isEmpty then return ()
  let (filled, gap, rest) ← ipv6Groups input 9 0 gap start
  if !rest.isEmpty then throw (addrError input "trailing garbage after address" rest)
  if filled < 16 then
    if gap.isNone then throw (addrError input "address string too short" [])
  else if gap.isSome then
    throw (addrError input "the :: must expand to at least one field of zeros" [])

/-- Reads an IP address: the first dot, colon or percent sign decides the kind. Gives
whether it is an IPv4 address. -/
def ipAddress (input : Bytes) : Except String Bool :=
  match input.find? fun b => b == 46 || b == 58 || b == 37 with
  | some 46 => (ipv4Fields input 0 0 0 none input).map fun _ => true
  | some 58 => (ipv6 input).map fun _ => false
  | some _ => .error (addrError input "missing IPv6 address" [])
  | none => .error (addrError input "unable to parse IP" [])

/-! ## Targets -/

/-- The user part of an authority: a name and, after a colon, a password. -/
structure UserInfo where
  name : Bytes
  password : Option Bytes
  deriving Repr, Inhabited, DecidableEq

/-- The written form of a user part. -/
def UserInfo.toText (u : UserInfo) : String :=
  escapeIn .userInfo u.name ++ (match u.password with
    | some p => ":" ++ escapeIn .userInfo p
    | none => "")

/-- A URL. `path` is decoded; `rawPath` is the text it was written as when that differs
from its plain written form. The fragment, decoded, is kept for references only: a
request target has none. -/
structure Url where
  scheme : String := ""
  opaqueText : String := ""
  user : Option UserInfo := none
  host : Bytes := []
  omitHost : Bool := false
  path : Bytes := []
  rawPath : String := ""
  forceQuery : Bool := false
  rawQuery : String := ""
  fragment : Bytes := []
  deriving Repr, Inhabited

namespace Url

/-- The written form of the path: the text it was read from if that is a valid
writing of it, else its escaped form. -/
def escapedPath (u : Url) : String :=
  let raw := Bytes.ofString u.rawPath
  if !u.rawPath.isEmpty && validEncodedPath raw && percentDecode false raw == some u.path then u.rawPath
  else if u.path == [42] then "*"
  else escapePath u.path

/-- The path and query as sent in a request line. -/
def requestUri (u : Url) : String :=
  let base := if u.opaqueText.isEmpty then
      (let p := u.escapedPath; if p.isEmpty then "/" else p)
    else if u.opaqueText.startsWith "//" then u.scheme ++ ":" ++ u.opaqueText else u.opaqueText
  if u.forceQuery || !u.rawQuery.isEmpty then base ++ "?" ++ u.rawQuery else base

/-- The written form of a target. -/
def toText (u : Url) : String :=
  let head := if u.scheme.isEmpty then "" else u.scheme ++ ":"
  let body :=
    if !u.opaqueText.isEmpty then u.opaqueText
    else
      let auth :=
        if !u.scheme.isEmpty || !u.host.isEmpty || u.user.isSome then
          if u.omitHost && u.host.isEmpty && u.user.isNone then ""
          else
            (if !u.host.isEmpty || !u.path.isEmpty || u.user.isSome then "//" else "") ++
              (match u.user with | some ui => ui.toText ++ "@" | none => "") ++ escapeIn .host u.host
        else ""
      let p := u.escapedPath
      let slash := if !p.isEmpty && !p.startsWith "/" && !u.host.isEmpty then "/" else ""
      let dot := if head.isEmpty && auth.isEmpty && ((p.splitOn "/").headD "").contains ':' then "./" else ""
      auth ++ slash ++ dot ++ p
  head ++ body ++ (if u.forceQuery || !u.rawQuery.isEmpty then "?" ++ u.rawQuery else "")

end Url

/-- Splits off a scheme: letters first, then letters, digits, `+`, `-` or `.`, ended by
`:`. A text that starts with `:` is refused. -/
def splitScheme (s : List Char) : Except String (String × List Char) :=
  go [] s
where
  /-- Walks the scheme, keeping what was read in reverse. -/
  go (acc : List Char) : List Char → Except String (String × List Char)
    | [] => .ok ("", s)
    | c :: rest =>
      if c.isAlpha then go (c :: acc) rest
      else if c.isDigit || c == '+' || c == '-' || c == '.' then
        if acc.isEmpty then .ok ("", s) else go (c :: acc) rest
      else if c == ':' then
        if acc.isEmpty then .error "missing protocol scheme" else .ok (String.ofList acc.reverse, rest)
      else .ok ("", s)

/-- Whether a port part (empty, or `:` and digits) is valid. -/
def validPort (s : Bytes) : Bool :=
  match s with
  | [] => true
  | 58 :: ds => ds.all isDigitByte
  | _ => false

/-- The message of a bad port. -/
def portError (port : Bytes) : String := "invalid port " ++ Text.quote port ++ " after host"

/-- Reads a host with its optional port, decoded. A host in brackets must hold an IPv6
address, whose zone (after `%25`) is decoded by the rules of zones. -/
def parseHost (host : Bytes) : Except String Bytes :=
  if host.head? == some 91 then
    match (host.reverse.findIdx? (· == 93)) with
    | none => .error "missing ']' in host"
    | some k =>
      let close := host.length - 1 - k
      let port := host.drop (close + 1)
      if !validPort port then .error (portError port)
      else do
        let name := (host.take close).drop 1
        let zoneAt := (List.range name.length).find? fun i => (name.drop i).take 3 == [37, 50, 53]
        let decoded ← match zoneAt with
          | some i => do
            let a ← unescapeIn .host (name.take i)
            let b ← unescapeIn .zone (name.drop i)
            pure (a ++ b)
          | none => unescapeIn .host name
        match ipAddress decoded with
        | .error e => .error ("invalid host: " ++ e)
        | .ok true => .error "invalid IP-literal"
        | .ok false => pure ([91] ++ decoded ++ [93] ++ port)
  else
    match host.reverse.findIdx? (· == 58) with
    | some k =>
      let port := host.drop (host.length - 1 - k)
      if !validPort port then .error (portError port) else unescapeIn .host host
    | none => unescapeIn .host host

/-- Whether a user part uses only the characters it may hold. -/
def validUserInfo (bs : Bytes) : Bool :=
  bs.all fun b => isAlnum b || "-._:~!$&'()*+,;=%@".toList.any (·.toNat == b.toNat)

/-- Reads an authority `user@host:port`; the user part runs to the last `@`. -/
def parseAuthority (auth : Bytes) : Except String (Option UserInfo × Bytes) := do
  match auth.reverse.findIdx? (· == 64) with
  | none => return (none, ← parseHost auth)
  | some k =>
    let at_ := auth.length - 1 - k
    let host ← parseHost (auth.drop (at_ + 1))
    let info := auth.take at_
    if !validUserInfo info then throw "net/url: invalid userinfo"
    match info.findIdx? (· == 58) with
    | none => return (some ⟨← unescapeIn .userInfo info, none⟩, host)
    | some c =>
      let name ← unescapeIn .userInfo (info.take c)
      let password ← unescapeIn .userInfo (info.drop (c + 1))
      return (some ⟨name, some password⟩, host)

/-- Reads a URL without its fragment, or says why it is not one. A request target
(`forRequest`) must be a path, an absolute URL or `*`, and may not be empty; any other
reference may also be a relative path, whose first segment may not hold a colon, and
a path starting with `//` gives an authority unless it starts with `///`. -/
def parseWith (forRequest : Bool) (target : String) : Except String Url := do
  let bytes := Bytes.ofString target
  if bytes.any (fun b => b < 32 || b == 127) then throw "net/url: invalid control character in URL"
  if target.isEmpty && forRequest then throw "empty url"
  if target == "*" then return { path := [42] }
  let (scheme, rest) ← splitScheme target.toList
  let scheme := scheme.toLower
  let (rest, forceQuery, rawQuery) :=
    if rest.getLast? == some '?' && rest.count '?' == 1 then (rest.dropLast, true, "")
    else
      let (p, q) := rest.span (· != '?')
      (p, false, String.ofList (q.drop 1))
  if rest.head? != some '/' then
    if !scheme.isEmpty then return { scheme, opaqueText := String.ofList rest, forceQuery, rawQuery }
    if forRequest then throw "invalid URI for request"
    if (rest.takeWhile (· != '/')).contains ':' then
      throw "first path segment in URL cannot contain colon"
  let (user, host, rest, omitHost) ←
    if (!scheme.isEmpty || (!forRequest && rest.take 3 != ['/', '/', '/'])) &&
        rest.take 2 == ['/', '/'] then do
      let afterSlashes := rest.drop 2
      let authority := afterSlashes.takeWhile (· != '/')
      let pathPart := afterSlashes.drop authority.length
      let (user, host) ← parseAuthority (Bytes.ofString (String.ofList authority))
      pure (user, host, pathPart, false)
    else pure (none, [], rest, !scheme.isEmpty && rest.head? == some '/')
  let raw := Bytes.ofString (String.ofList rest)
  let path ← unescapeIn .path raw
  let rawPath := if escapePath path == String.ofList rest then "" else String.ofList rest
  return { scheme, user, host, omitHost, path, rawPath, forceQuery, rawQuery }

/-- Reads a request target, or says why it is not one. -/
def parseTarget (target : String) : Except String Url := parseWith true target

/-- Reads a URL reference with an optional fragment after the first `#`. A failure
names the text that was read, the whole reference when the fragment is at fault and the
part before it otherwise: `parse "text": reason`. -/
def parseReference (text : String) : Except String Url :=
  let cs := text.toList
  let body := String.ofList (cs.takeWhile (· != '#'))
  let fragment := (cs.dropWhile (· != '#')).drop 1
  match parseWith false body with
  | .error e => .error ("parse " ++ Text.quoteString body ++ ": " ++ e)
  | .ok u =>
    match unescapeIn .path (Bytes.ofString (String.ofList fragment)) with
    | .ok f => .ok { u with fragment := f }
    | .error e => .error ("parse " ++ Text.quoteString text ++ ": " ++ e)

/-- Removes empty, `.` and `..` segments of a rooted path; a `..` at the root stays at
the root. -/
def cleanSegments (segments : List Bytes) : List Bytes :=
  (segments.foldl (fun acc seg =>
    if seg.isEmpty || seg == [46] then acc
    else if seg == [46, 46] then acc.drop 1
    else seg :: acc) []).reverse

/-- Splits bytes at every slash. -/
def splitSlash (bs : Bytes) : List Bytes :=
  (bs.foldr (fun b (acc : List Bytes) =>
    if b == 47 then [] :: acc
    else match acc with
      | cur :: rest => (b :: cur) :: rest
      | [] => [[b]]) [[]])

/-- The clean form of a path: rooted, without empty, `.` or `..` segments, and with a
final slash when the path had one (and is not the root). -/
def cleanPath (p : Bytes) : Bytes :=
  let p := if p.head? == some 47 then p else 47 :: p
  let clean := 47 :: (Bytes.intercalateSlash (cleanSegments (splitSlash p)))
  if p.getLast? == some 47 && clean != [47] then clean ++ [47] else clean
where
  /-- Joins segments with slashes. -/
  Bytes.intercalateSlash (segs : List Bytes) : Bytes := ([47] : Bytes).intercalate segs

/-- The values given for a key in a query, in order, decoded. -/
def queryValues (rawQuery : String) (key : String) : List Bytes :=
  let pairs := (Bytes.ofString rawQuery).splitOn 38
  pairs.filterMap fun pair =>
    if pair.isEmpty || pair.contains 59 then none
    else
      let k := pair.takeWhile (· != 61)
      let v := (pair.drop (k.length + 1))
      match percentDecode true k, percentDecode true v with
      | some k', some v' => if k' == Bytes.ofString key then some v' else none
      | _, _ => none

end Ledger.Http
