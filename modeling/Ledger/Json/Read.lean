import Ledger.Text.Quoted
import Ledger.Text.Bytes
/-!
# Reading JSON

Reading checks a JSON text and builds a tree whose nodes remember their place in the input.
A syntax error names the offending character and where it stands; a document holds exactly
one value, and a stream, read in growing chunks, yields its first value.
-/

namespace Ledger.Json

/-- A node of a JSON tree with the input positions it spans. -/
inductive Node where
  | null (start stop : Nat)
  | bool (b : Bool) (start stop : Nat)
  | number (start stop : Nat)
  | str (s : Bytes) (start stop : Nat)
  | arr (items : List Node) (start stop : Nat)
  | obj (members : List (Bytes × Node)) (start stop : Nat)
  deriving Repr, Inhabited

namespace Node

/-- The input positions a node spans. -/
def span : Node → Nat × Nat
  | null a b | bool _ a b | number a b | str _ a b | arr _ a b | obj _ a b => (a, b)

/-- The word for the kind of a node used in messages: `null`, `bool`, `number`,
`string`, `array` or `object`. -/
def kindWord : Node → String
  | null .. => "null" | bool .. => "bool" | number .. => "number" | str .. => "string"
  | arr .. => "array" | obj .. => "object"

end Node

/-- A syntax failure: the input ended, the character at a position was not what the
context allows, or the escape sequence of some length at a position was not one. -/
inductive SyntaxFailure where
  | ended
  | invalid (at_ : Nat) (context : String)
  | badEscape (at_ length : Nat)
  deriving Repr

/-- The message of a malformed escape sequence: the sequence in backticks, or quoted
when a backtick, a blank, a character that is not printable or a stray byte would make
it unclear. -/
def badEscapeMessage (sequence : Bytes) : String :=
  let clear := (Bytes.pieces sequence).all fun
    | .char c => c != '`' && c != '\uFFFD' && !Text.isBlank c && Text.isPrintable c
    | .stray _ => false
  if clear then "invalid escape sequence `" ++ Bytes.toText sequence ++ "` in string"
  else "invalid escape sequence " ++ Text.quote sequence ++ " in string"


/-- Whether a byte is JSON white space. -/
def isSpace (c : UInt8) : Bool := c == 32 || c == 9 || c == 10 || c == 13

/-- The first position at or after `i` that is not white space. -/
def skipSpace (src : Array UInt8) (i : Nat) : Nat :=
  if h : i < src.size then (if isSpace src[i] then skipSpace src (i + 1) else i) else i
  termination_by src.size - i

/-- Whether a byte is a decimal digit. -/
def isDigit (c : UInt8) : Bool := 48 ≤ c && c ≤ 57

/-- The first position from `i` that is not a digit. -/
def skipDigits (src : Array UInt8) (i : Nat) : Nat :=
  if h : i < src.size then (if isDigit src[i] then skipDigits src (i + 1) else i) else i
  termination_by src.size - i

/-- The byte at a position, if any. -/
def byteAt (src : Array UInt8) (i : Nat) : Option UInt8 := src[i]?

/-- The bytes from position `i` on, at most `n` of them. -/
def bytesFrom (src : Array UInt8) (i n : Nat) : Bytes := (src.extract i (i + n)).toList

/-- The first character of some bytes, quoted; a byte that starts no well-formed
character, or one cut short, is shown as `'\xHH'`. -/
def quoteFirst (bs : Bytes) : String :=
  match Bytes.next? (bs.take 4) with
  | some (.char c, _) => Text.quoteChar c
  | _ => "'\\x" ++ String.ofList (Nat.toDigits 16 (bs.headD 0).toNat) ++ "'"

/-- A failure at the character at a position. -/
def invalidAt (i : Nat) (context : String) : SyntaxFailure := .invalid i context

/-- The end of what a stream reader holds once it needs the byte at `p`: it reads 64
bytes first and doubles what it holds each time it runs out, so it holds up to the
first of 64, 128, 256, ... beyond `p`. -/
def chunkEnd (p : Nat) : Nat := go (p + 1) 64
where
  /-- Doubles `e` until it passes `p`; `fuel` bounds the doublings. -/
  go : Nat → Nat → Nat
    | 0, e => e
    | fuel + 1, e => if p < e then e else go fuel (2 * e)

/-- Scans a number starting at `i`, returning the position after it. -/
def scanNumber (src : Array UInt8) (i : Nat) : Except SyntaxFailure Nat := do
  let i := if byteAt src i == some 45 then i + 1 else i
  let i ← match byteAt src i with
    | none => throw .ended
    | some 48 => pure (i + 1)
    | some c => if isDigit c then pure (skipDigits src i) else throw (invalidAt i "in numeric literal")
  let i ← match byteAt src i with
    | some 46 => match byteAt src (i + 1) with
      | none => throw .ended
      | some c =>
        if isDigit c then pure (skipDigits src (i + 1))
        else throw (invalidAt (i + 1) "in numeric literal")
    | _ => pure i
  match byteAt src i with
  | some 101 | some 69 =>
    let j := match byteAt src (i + 1) with
      | some 43 | some 45 => i + 2
      | _ => i + 1
    match byteAt src j with
    | none => throw .ended
    | some c =>
      if isDigit c then pure (skipDigits src j)
      else throw (invalidAt j "in numeric literal")
  | _ => pure i

/-- Scans the rest of a literal word, each byte checked in turn. -/
def scanWord (src : Array UInt8) (word : String) (i : Nat) : Except SyntaxFailure Nat :=
  let rest := (word.toList.drop 1).map (·.toNat.toUInt8)
  rest.foldlM (fun j c => match byteAt src j with
    | none => throw .ended
    | some d => if d == c then pure (j + 1)
      else throw (invalidAt j
        ("in literal " ++ word ++ " (expecting " ++ Text.quoteChar (Char.ofNat c.toNat) ++ ")")))
    (i + 1)

/-- The value of a hex digit byte. -/
def hexValue (c : UInt8) : Option Nat :=
  let n := c.toNat
  if 48 ≤ n && n ≤ 57 then some (n - 48)
  else if 97 ≤ n && n ≤ 102 then some (n - 87)
  else if 65 ≤ n && n ≤ 70 then some (n - 55)
  else none

/-- The value of four hex digits at `i`, if they are there. -/
def hex4At (src : Array UInt8) (i : Nat) : Option Nat :=
  (List.range 4).foldlM (fun acc k => do
    let c ← byteAt src (i + k)
    let v ← hexValue c
    pure (acc * 16 + v)) 0

/-- Whether the bytes could begin a `\u` escape that the end of the input cut short. -/
def escapePrefix (bs : Bytes) : Bool :=
  bs.length < 6 && (bs.zip (List.range bs.length)).all fun (c, k) =>
    if k == 0 then c == 92 else if k == 1 then c == 117 else (hexValue c).isSome

/-- Reads the `\u` escape at `i`: its value, or why it is not one. -/
def scanHex4 (src : Array UInt8) (i : Nat) : Except SyntaxFailure Nat :=
  if src.size < i + 6 then
    let rest := bytesFrom src i 6
    if escapePrefix rest then throw .ended else throw (.badEscape i rest.length)
  else match hex4At src (i + 2) with
    | some v => pure v
    | none => throw (.badEscape i 6)

/-- The bytes of a code point, U+FFFD for a surrogate or an invalid one. -/
def codePointBytes (n : Nat) : Bytes :=
  if n.isValidChar then Bytes.encodeChar (Char.ofNat n) else Bytes.encodeChar '�'

/-- Reads the inside of a string from `i` (after the opening quote) up to and
including the closing quote; `acc` holds the decoded chunks, newest first. -/
def scanString (src : Array UInt8) (fuel : Nat) (i : Nat) (acc : List Bytes) :
    Except SyntaxFailure (Bytes × Nat) :=
  match fuel with
  | 0 => throw .ended
  | fuel + 1 =>
    match byteAt src i with
    | none => throw .ended
    | some 34 => pure (acc.reverse.flatten, i + 1)
    | some 92 =>
      match byteAt src (i + 1) with
      | none => throw .ended
      | some e =>
        let simple : Option UInt8 := match e with
          | 34 => some 34 | 92 => some 92 | 47 => some 47 | 98 => some 8 | 102 => some 12
          | 110 => some 10 | 114 => some 13 | 116 => some 9 | _ => none
        match simple with
        | some b => scanString src fuel (i + 2) ([b] :: acc)
        | none =>
          if e != 117 then throw (.badEscape i 2)
          else do
            let hi ← scanHex4 src i
            if 0xD800 ≤ hi && hi < 0xDC00 then
              -- a high surrogate pairs with an immediately following low one
              let pairs := byteAt src (i + 6) == some 92 && byteAt src (i + 7) == some 117
              let lo : Option Nat :=
                if pairs then
                  match hex4At src (i + 8) with
                  | some v => if 0xDC00 ≤ v && v < 0xE000 then some v else none
                  | none => none
                else none
              match lo with
              | some lo =>
                let n := 0x10000 + (hi - 0xD800) * 0x400 + (lo - 0xDC00)
                scanString src fuel (i + 12) (codePointBytes n :: acc)
              | none => scanString src fuel (i + 6) (codePointBytes 0xFFFD :: acc)
            else scanString src fuel (i + 6) (codePointBytes hi :: acc)
    | some c =>
      if c < 0x20 then throw (invalidAt i "in string")
      else if c < 0x80 then scanString src fuel (i + 1) ([c] :: acc)
      else
        -- copy one UTF-8 character, or write U+FFFD for a stray byte
        let window := (List.range 4).filterMap fun k => byteAt src (i + k)
        match Bytes.next? window with
        | some (.char ch, _) =>
          let bs := Bytes.encodeChar ch
          scanString src fuel (i + bs.length) (bs :: acc)
        | _ => scanString src fuel (i + 1) (Bytes.encodeChar '�' :: acc)

mutual
/-- Reads a value starting at `i` (white space already skipped). -/
def scanValue (src : Array UInt8) (fuel : Nat) (i : Nat) : Except SyntaxFailure (Node × Nat) :=
  match fuel with
  | 0 => throw .ended
  | fuel + 1 =>
    match byteAt src i with
    | none => throw .ended
    | some c =>
      if c == 123 then scanObject src fuel i (skipSpace src (i + 1)) []
      else if c == 91 then scanArray src fuel i (skipSpace src (i + 1)) []
      else if c == 34 then do
        let (s, j) ← scanString src (src.size + 1) (i + 1) []
        pure (.str s i j, j)
      else if c == 45 || isDigit c then do
        let j ← scanNumber src i
        pure (.number i j, j)
      else if c == 116 then do
        let j ← scanWord src "true" i
        pure (.bool true i j, j)
      else if c == 102 then do
        let j ← scanWord src "false" i
        pure (.bool false i j, j)
      else if c == 110 then do
        let j ← scanWord src "null" i
        pure (.null i j, j)
      else throw (invalidAt i "looking for beginning of value")

/-- Reads object members from `i`; `start` is the position of the brace. -/
def scanObject (src : Array UInt8) (fuel : Nat) (start i : Nat) (acc : List (Bytes × Node)) :
    Except SyntaxFailure (Node × Nat) :=
  match fuel with
  | 0 => throw .ended
  | fuel + 1 =>
    match byteAt src i with
    | none => throw .ended
    | some c =>
      if c == 125 && acc.isEmpty then pure (.obj [] start (i + 1), i + 1)
      else if c != 34 then throw (invalidAt i "looking for beginning of object key string")
      else do
        let (key, j) ← scanString src (src.size + 1) (i + 1) []
        let j := skipSpace src j
        match byteAt src j with
        | none => throw .ended
        | some 58 =>
          let (v, k) ← scanValue src fuel (skipSpace src (j + 1))
          let k := skipSpace src k
          match byteAt src k with
          | none => throw .ended
          | some 44 => scanObject src fuel start (skipSpace src (k + 1)) ((key, v) :: acc)
          | some 125 => pure (.obj ((key, v) :: acc).reverse start (k + 1), k + 1)
          | some _ => throw (invalidAt k "after object key:value pair")
        | some _ => throw (invalidAt j "after object key")

/-- Reads array items from `i`; `start` is the position of the bracket. -/
def scanArray (src : Array UInt8) (fuel : Nat) (start i : Nat) (acc : List Node) :
    Except SyntaxFailure (Node × Nat) :=
  match fuel with
  | 0 => throw .ended
  | fuel + 1 =>
    match byteAt src i with
    | none => throw .ended
    | some c =>
      if c == 93 && acc.isEmpty then pure (.arr [] start (i + 1), i + 1)
      else do
        let (v, k) ← scanValue src fuel i
        let k := skipSpace src k
        match byteAt src k with
        | none => throw .ended
        | some 44 => scanArray src fuel start (skipSpace src (k + 1)) (v :: acc)
        | some 93 => pure (.arr (v :: acc).reverse start (k + 1), k + 1)
        | some _ => throw (invalidAt k "after array element")
end

/-- The message of a syntax failure in `src`, judged from what the reader holds once it
needs a position (`held p` bytes of `src`): a character is read from the bytes held
from its position, so one cut short by the end of them shows as its first byte, and a
`\u` escape cut short shows as the bytes held when they cannot begin one. -/
def SyntaxFailure.message (src : Array UInt8) (held : Nat → Nat) (inStream : Bool) :
    SyntaxFailure → String
  | .ended => if inStream then "unexpected EOF" else "unexpected end of JSON input"
  | .invalid i ctx =>
    "invalid character " ++ quoteFirst (bytesFrom src i (held i - i)) ++ " " ++ ctx
  | .badEscape i length =>
    let shown := bytesFrom src i (held (i + 1) - i)
    if shown.length < length && !escapePrefix shown then badEscapeMessage shown
    else badEscapeMessage (bytesFrom src i length)

/-- Reads a document: one value and nothing but white space after it. -/
def parseDocument (src : Array UInt8) : Except String Node :=
  let message (e : SyntaxFailure) := e.message src (fun _ => src.size) false
  match scanValue src (2 * src.size + 2) (skipSpace src 0) with
  | .error e => .error (message e)
  | .ok (v, j) =>
    let k := skipSpace src j
    match byteAt src k with
    | some _ => .error (message (invalidAt k "after top-level value"))
    | none => .ok v

/-- Reads the first value of a stream, which arrives in chunks (see `chunkEnd`). -/
def parseStream (src : Array UInt8) : Except String Node :=
  let i := skipSpace src 0
  if i ≥ src.size then .error "EOF"
  else
    match scanValue src (2 * src.size + 2) i with
    | .error e => .error (e.message src (fun p => min src.size (chunkEnd p)) true)
    | .ok (v, _) => .ok v

/-- The input text a node spans. -/
def rawText (src : Array UInt8) (n : Node) : Bytes :=
  let (a, b) := n.span
  (src.extract a b).toList

end Ledger.Json
