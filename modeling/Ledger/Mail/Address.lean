import Ledger.Text.Quoted
import Ledger.Crypto.Base64
import Ledger.Text.Case
/-!
# Mail addresses

A mail address is read as one mailbox of RFC 5322, with a display name from a phrase or a
comment, or as a group of one mailbox; each refusal has its message. It is written back as
`<local@domain>` after the display name, quoted or encoded.
-/

namespace Ledger.Mail

/-- A mailbox: a display name and the address itself. -/
structure Address where
  name : String
  address : String
  deriving Repr, Inhabited, DecidableEq

/-- A visible character: printable ASCII or any character beyond ASCII. -/
def isVisible (c : Char) : Bool := ('!' ≤ c && c ≤ '~') || c.toNat ≥ 128

/-- A blank within a line: space or tab. -/
def isLineBlank (c : Char) : Bool := c == ' ' || c == '\t'

/-- A character of an atom; the dot only in a dot atom. -/
def isAtomChar (c : Char) (dot : Bool) : Bool :=
  if c == '.' then dot
  else if "()<>[]:;@\\,\"".contains c then false
  else isVisible c

/-- A character that stands for itself in a quoted string. -/
def isQuotedChar (c : Char) : Bool := c != '\\' && c != '"' && isVisible c

/-- Skips blanks within a line. Readers below give the value read and the rest of the
input. -/
def skipBlanks (cs : List Char) : List Char := cs.dropWhile isLineBlank

/-- Reads an atom; a dot atom when `dot`, and checked for stray dots unless
`permissive`. -/
def atom (dot permissive : Bool) (cs : List Char) : Except String (String × List Char) :=
  let a := cs.takeWhile (isAtomChar · dot)
  if a.isEmpty then .error "mail: invalid string"
  else if !permissive && a.head? == some '.' then .error "mail: leading dot in atom"
  else if !permissive && (String.ofList a).contains ".." then .error "mail: double dot in atom"
  else if !permissive && a.getLast? == some '.' then .error "mail: trailing dot in atom"
  else .ok (String.ofList a, cs.drop a.length)

/-- Reads a quoted string after its opening quote. -/
def quotedRest : List Char → List Char → Except String (String × List Char)
  | _, [] => .error "mail: unclosed quoted-string"
  | acc, '"' :: rest => .ok (String.ofList acc.reverse, rest)
  | acc, '\\' :: c :: rest =>
    if isVisible c || isLineBlank c then quotedRest (c :: acc) rest
    else .error ("mail: bad character in quoted-string: " ++ Text.quoteChar c)
  | _, ['\\'] => .error "mail: unclosed quoted-string"
  | acc, c :: rest =>
    if isQuotedChar c || isLineBlank c then quotedRest (c :: acc) rest
    else .error ("mail: bad character in quoted-string: " ++ Text.quoteChar c)

/-- Reads a quoted string. -/
def quoted (cs : List Char) : Except String (String × List Char) := quotedRest [] (cs.drop 1)

/-- Reads a comment after its opening parenthesis: nested parentheses, a backslash
taking the next character. Gives the comment and the rest, or `none` when it is not
closed. -/
def commentRest : Nat → Nat → List Char → List Char → Option (List Char × List Char)
  | 0, _, _, _ => none
  | _ + 1, 0, acc, cs => some (acc.reverse, cs)
  | _ + 1, _, _, [] => none
  | fuel + 1, depth, acc, '\\' :: c :: rest => commentRest fuel depth (c :: acc) rest
  | fuel + 1, depth, acc, '(' :: rest => commentRest fuel (depth + 1) ('(' :: acc) rest
  | fuel + 1, depth, acc, ')' :: rest =>
    commentRest fuel (depth - 1) (if depth > 1 then ')' :: acc else acc) rest
  | fuel + 1, depth, acc, c :: rest => commentRest fuel depth (c :: acc) rest

/-- Skips blanks and comments; `none` when a comment is not closed. -/
def skipComments : Nat → List Char → Option (List Char)
  | 0, cs => some cs
  | fuel + 1, cs =>
    match skipBlanks cs with
    | '(' :: rest =>
      match commentRest (rest.length + 1) 1 [] rest with
      | some (_, after) => skipComments fuel after
      | none => none
    | cs => some cs

/-- Skips blanks and comments of the whole input. -/
def skipAllComments (cs : List Char) : Option (List Char) := skipComments (cs.length + 1) cs

/-- The value of a hex digit of either case. -/
def hexValue (c : Char) : Option Nat :=
  if '0' ≤ c && c ≤ '9' then some (c.toNat - 48)
  else if 'A' ≤ c && c ≤ 'F' then some (c.toNat - 55)
  else if 'a' ≤ c && c ≤ 'f' then some (c.toNat - 87)
  else none

/-- Decodes the text of a Q-encoded word: `_` is a blank, `=XX` a byte, printable ASCII
and the line controls stand for themselves; anything else makes the word invalid. -/
def qDecode : List Char → Option Bytes
  | [] => some []
  | '_' :: rest => (qDecode rest).map (32 :: ·)
  | '=' :: a :: b :: rest =>
    match hexValue a, hexValue b with
    | some x, some y => (qDecode rest).map (UInt8.ofNat (16 * x + y) :: ·)
    | _, _ => none
  | '=' :: _ => none
  | c :: rest =>
    if (' ' ≤ c && c ≤ '~') || c == '\n' || c == '\r' || c == '\t' then
      (qDecode rest).map (UInt8.ofNat c.toNat :: ·)
    else none

/-- Whether a charset name is `known` (small letters, digits and hyphens) in any letter
case; the long s `ſ` stands for `s` as it folds to it. -/
def sameCharset (name : List Char) (known : String) : Bool :=
  name.length == known.length && (name.zip known.toList).all fun (c, k) =>
    c.toLower == k || (k == 's' && c.toNat == 0x17F)

/-- Decodes a word that may be an encoded word `=?charset?B-or-Q?text?=`: gives the text
and whether it was one. A word that is not well formed, or whose text does not decode,
stays as it is; the charsets UTF-8, ISO-8859-1 and US-ASCII are read, and any other is
refused. -/
def decodeWord (w : String) : Except String (String × Bool) :=
  let cs := w.toList
  let plain : Except String (String × Bool) := .ok (w, false)
  if w.utf8ByteSize < 8 || !w.startsWith "=?" || !w.endsWith "?=" ||
      (cs.filter (· == '?')).length != 4 then plain
  else
    let inner := (cs.drop 2).take (cs.length - 4)
    let charset := inner.takeWhile (· != '?')
    let rest := (inner.dropWhile (· != '?')).drop 1
    let encoding := rest.takeWhile (· != '?')
    let text := (rest.dropWhile (· != '?')).drop 1
    let content : Option Bytes := match encoding with
      | ['B'] | ['b'] => (Crypto.base64Decode (Bytes.ofString (String.ofList text))).toOption
      | ['Q'] | ['q'] => qDecode text
      | _ => none
    match charset, content with
    | [], _ => plain
    | _, none => plain
    | _, some bytes =>
      if sameCharset charset "utf-8" then .ok (Bytes.toText bytes, true)
      else if sameCharset charset "iso-8859-1" then
        .ok (String.ofList (bytes.map fun b => Char.ofNat b.toNat), true)
      else if sameCharset charset "us-ascii" then
        .ok (String.ofList (bytes.map fun b => if b < 128 then Char.ofNat b.toNat else '\uFFFD'), true)
      else .error ("charset not supported: " ++ Text.quoteString (Text.lowerText (String.ofList charset)))

/-- Reads `local@domain`. -/
def addrSpec (cs : List Char) : Except String (String × List Char) := do
  let cs := skipBlanks cs
  if cs.isEmpty then throw "mail: no addr-spec"
  let (localPart, rest) ← if cs.head? == some '"' then
      match quoted cs with
      | .ok (q, rest) => if q.isEmpty then throw "mail: empty quoted string in addr-spec" else pure (q, rest)
      | .error _ => throw "mail: empty quoted string in addr-spec"
    else atom true false cs
  match rest with
  | '@' :: rest =>
    let rest := skipBlanks rest
    if rest.isEmpty then throw "mail: no domain in addr-spec"
    let (domain, rest) ← atom true false rest
    pure (localPart ++ "@" ++ domain, rest)
  | _ => throw "mail: missing @ in addr-spec"

/-- Reads a phrase: words separated by blanks. An atom that is an encoded word is
decoded, and encoded words in a row are held back and joined without a blank; the run
becomes a word when a plain word follows or the phrase ends, and only if it decodes to
something. Once the phrase has a finished word, comments may stand before the next word,
and one that is not closed refuses the phrase. A word that cannot be read ends the
phrase, which is refused only when it has no word yet. -/
def phrase (cs : List Char) : Except String (String × List Char) :=
  go cs.length cs [] ""
where
  /-- The finished words and the held run, if it shows anything. -/
  close (words : List String) (held : String) : List String :=
    if held.isEmpty then words else words ++ [held]
  /-- Reads the words left; `fuel` bounds them. -/
  go : Nat → List Char → List String → String → Except String (String × List Char)
    | fuel, cs, words, held =>
      let before : Option (List Char) :=
        if words.isEmpty then some cs else skipComments (cs.length + 1) cs
      match before with
      | none => .error "mail: misformatted parenthetical comment"
      | some cs =>
      let cs := skipBlanks cs
      let finish (rest : List Char) : Except String (String × List Char) :=
        .ok (" ".intercalate (close words held), rest)
      let word : Except (String × List Char) (String × Bool × List Char) :=
        if cs.head? == some '"' then
          match quoted cs with
          | .ok (w, rest) => .ok (w, false, rest)
          | .error e => .error (e, cs)
        else
          match atom true true cs with
          | .error e => .error (e, cs)
          | .ok (w, rest) =>
            match decodeWord w with
            | .ok (d, encoded) => .ok (d, encoded, rest)
            | .error e => .error (e, rest)
      match cs, word, fuel with
      | [], _, _ => finish cs
      | _, .error (e, rest), _ =>
        if (close words held).isEmpty then .error ("mail: missing word in phrase: " ++ e)
        else finish rest
      | _ :: _, .ok (w, encoded, rest), fuel + 1 =>
        if encoded then go fuel rest words (held ++ w)
        else go fuel rest (close words held ++ [w]) ""
      | _, _, _ => finish cs

/-- Reads the display name in a comment after an address. -/
def nameComment (cs : List Char) : Except String (String × List Char) :=
  match cs with
  | '(' :: rest =>
    match commentRest (rest.length + 1) 1 [] rest with
    | some (c, after) =>
      let words := (c.splitBy fun a b => isLineBlank a == isLineBlank b).filter fun w => !w.all isLineBlank
      match words.mapM fun w => decodeWord (String.ofList w) with
      | .ok decoded => .ok (" ".intercalate (decoded.map (·.1)), after)
      | .error e => .error e
    | none => .error "mail: misformatted parenthetical comment"
  | _ => .error "mail: comment does not start with ("

/-- Reads `<local@domain>` after a display name. -/
def angle (name : String) (cs : List Char) : Except String (List Address × List Char) := do
  match cs with
  | '<' :: rest =>
    let (spec, rest) ← addrSpec rest
    match rest with
    | '>' :: rest => pure ([⟨name, spec⟩], rest)
    | _ => throw "mail: unclosed angle-addr"
  | _ =>
    if name.toList.all (isAtomChar · true) then throw "mail: missing '@' or angle-addr"
    else throw "mail: no angle-addr"

/-- Reads one mailbox; a display name followed by `:` starts a group, which `group`
reads when it is given. -/
def mailboxOr (group : Option (List Char → Except String (List Address × List Char)))
    (cs : List Char) : Except String (List Address × List Char) := do
  let cs := skipBlanks cs
  if cs.isEmpty then throw "mail: no address"
  match addrSpec cs with
  | .ok (spec, rest) =>
    let rest := skipBlanks rest
    if rest.head? == some '(' then
      let (name, rest) ← nameComment rest
      pure ([⟨name, spec⟩], rest)
    else pure ([⟨"", spec⟩], rest)
  | .error _ =>
    let (name, rest) ← if cs.head? == some '<' then pure ("", cs) else phrase cs
    let rest := skipBlanks rest
    match rest, group with
    | ':' :: rest, some readGroup => readGroup rest
    | _, _ => angle name rest

/-- Reads the members of a group, separated by commas, up to the semicolon; `fuel`
bounds them. -/
def groupMembers : Nat → List Char → List Address → Except String (List Address × List Char)
  | 0, _, _ => throw "mail: expected comma"
  | count + 1, cs, acc => do
    let (found, rest) ← mailboxOr none (skipBlanks cs)
    let acc := acc ++ found
    match skipAllComments rest with
    | none => throw "mail: misformatted parenthetical comment"
    | some (';' :: rest) =>
      match skipAllComments rest with
      | some rest => pure (acc, rest)
      | none => throw "mail: misformatted parenthetical comment"
    | some (',' :: rest) => groupMembers count rest acc
    | some _ => throw "mail: expected comma"

/-- Reads a group after its colon. -/
def groupList (cs : List Char) : Except String (List Address × List Char) :=
  match skipBlanks cs with
  | ';' :: rest =>
    match skipAllComments rest with
    | some rest => .ok ([], rest)
    | none => .error "mail: misformatted parenthetical comment"
  | cs => groupMembers cs.length cs []

/-- Reads exactly one mailbox. -/
def Address.parse (s : String) : Except String Address := do
  let (found, rest) ← mailboxOr (some groupList) s.toList
  match skipAllComments rest with
  | none => throw "mail: misformatted parenthetical comment"
  | some (c :: cs) => throw ("mail: expected single address, got " ++ Text.quoteString (String.ofList (c :: cs)))
  | some [] =>
    match found with
    | [] => throw "mail: empty group"
    | [a] => pure a
    | _ => throw "mail: group with multiple addresses"

/-- A text as a quoted string: quotes and backslashes escaped. -/
def quoteText (s : String) : String :=
  "\"" ++ String.join (s.toList.map fun c =>
    if isQuotedChar c || isLineBlank c then c.toString
    else if isVisible c then "\\" ++ c.toString
    else "") ++ "\""

/-- Whether a local part must be quoted: it holds a character other than those of an
atom and dots, or a dot at either end or next to another. -/
def needsQuotes (localPart : String) : Bool :=
  let cs := localPart.toList
  cs.head? == some '.' || cs.getLast? == some '.' || localPart.contains ".." ||
    !cs.all (isAtomChar · true)

/-- The longest text of an encoded word: 75 characters less `=?UTF-8?q?` and `?=`. -/
def encodedTextLimit : Nat := 63

/-- The most bytes one base64 encoded word carries. -/
def base64WordBytes : Nat := 45

/-- A character in Q encoding: `_` for a blank, itself when it is printable ASCII other
than `=`, `?` and `_`, else `=XX` for each of its bytes. -/
def qChar (c : Char) : String :=
  String.join ((Bytes.ofString c.toString).map fun b =>
    if b == 32 then "_"
    else if 33 ≤ b && b ≤ 126 && b != 61 && b != 63 && b != 95 then (Char.ofNat b.toNat).toString
    else "=" ++ Text.upperHexPadded 2 b.toNat)

/-- The length a character takes in Q encoding. -/
def qLength (c : Char) : Nat :=
  if ' ' ≤ c && c ≤ '~' && c != '=' && c != '?' && c != '_' then 1 else 3 * c.utf8Size

/-- Splits characters into runs, each as long as its measure allows: a run is closed
before a character that would take it past `limit`. -/
def runsWithin (measure : Char → Nat) (limit : Nat) (cs : List Char) : List (List Char) :=
  let (done, current, _) := cs.foldl (fun (done, current, size) c =>
      if size + measure c > limit && !current.isEmpty then (done ++ [current], [c], measure c)
      else (done, current ++ [c], size + measure c)) (([] : List (List Char)), ([] : List Char), 0)
  done ++ [current]

/-- A display name of other than printable ASCII as encoded words, split so that none
is longer than 75 characters and no character is split: in base64 when it holds
characters that an encoded word in a phrase may not show, else in Q encoding. -/
def encodedWord (name : String) : String :=
  if name.toList.any ("\"#$%&'(),.:;<>@[]^`{|}~".contains ·) then
    " ".intercalate ((runsWithin Char.utf8Size base64WordBytes name.toList).map fun run =>
      "=?utf-8?b?" ++ Crypto.base64Encode (Bytes.ofString (String.ofList run)) ++ "?=")
  else
    " ".intercalate ((runsWithin qLength encodedTextLimit name.toList).map fun run =>
      "=?utf-8?q?" ++ String.join (run.map qChar) ++ "?=")

/-- The written form of a mailbox. -/
def Address.render (a : Address) : String :=
  let (localPart, domain) := match a.address.toList.reverse.findIdx? (· == '@') with
    | some i =>
      let n := a.address.length
      ((a.address.take (n - 1 - i)).toString, (a.address.drop (n - i)).toString)
    | none => (a.address, "")
  let localPart := if needsQuotes localPart then quoteText localPart else localPart
  let s := "<" ++ localPart ++ "@" ++ domain ++ ">"
  if a.name.isEmpty then s
  else if a.name.toList.all fun c => (isVisible c || isLineBlank c) && c.toNat < 128 then
    quoteText a.name ++ " " ++ s
  else encodedWord a.name ++ " " ++ s

end Ledger.Mail
