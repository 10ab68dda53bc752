import Ledger.Text.Bytes
/-!
# Masking sensitive values

`Bytes.mask` hides all of a value but its margins, cutting at byte offsets; `Bytes.scrub`
finds the sensitive values of eight shapes in free text (JSON members, headers, `key=value`
tokens and path segments) and masks each, one shape after the other over the whole text.
-/

namespace Ledger

/-- The star byte. -/
def star : UInt8 := 42

namespace Bytes

/-- Masks a value, keeping a short prefix and suffix. -/
def mask (v : Bytes) : Bytes :=
  let n := v.length
  if v.isBlank then v
  else if n < 3 then List.replicate n star
  else if n ≤ 8 then v.take (n / 2) ++ List.replicate (n - n / 2) star
  else v.take 4 ++ List.replicate (n - 8) star ++ v.drop (n - 4)

end Bytes

namespace Mask

/-- The blank characters of the patterns: tab, line feed, form feed, carriage return
and space. -/
def isPatternBlank (c : Char) : Bool :=
  c = '\t' || c = '\n' || c = '\x0c' || c = '\r' || c = ' '

/-- Whether an input character matches a pattern character, ignoring letter case when
`folded`. -/
def charMatches (folded : Bool) (p c : Char) : Bool :=
  c == p ||
    (folded && p.isAlpha &&
      (c.toLower == p.toLower || (p.toLower == 'k' && c.toNat == 0x212A) ||
        (p.toLower == 's' && c.toNat == 0x17F)))

/-- What follows the name of a sensitive value. -/
inductive Shape where
  /-- Blanks, a colon, blanks and a value in quotes. -/
  | quoted
  /-- An optional colon, blanks, and a value up to a comma, bar or blank. -/
  | header
  /-- One or more letters, digits or hyphens. -/
  | token
  /-- One or more characters up to a slash, question mark, hash, quote or blank. -/
  | segment
  deriving DecidableEq, Repr

/-- A sensitive value: the literal text before it, whether letter case is ignored,
and its shape. -/
structure Pattern where
  lead : List Char
  folded : Bool
  shape : Shape

/-- The eight patterns, in the order they are applied. -/
def patterns : List Pattern :=
  [⟨"\"accountNumber\"".toList, true, .quoted⟩, ⟨"\"transactionId\"".toList, true, .quoted⟩,
    ⟨"X-API-Key".toList, true, .header⟩, ⟨"X-HMAC-Signature".toList, true, .header⟩,
    ⟨"accountNumber=".toList, false, .token⟩, ⟨"transactionId=".toList, false, .token⟩,
    ⟨"/accounts/".toList, false, .segment⟩, ⟨"/transactions/".toList, false, .segment⟩]

/-- Whether a piece is the given character. -/
def isChar (c : Char) : Piece → Bool
  | .char d => d == c
  | .stray _ => false

/-- Whether a piece is a pattern blank. -/
def isBlankPiece : Piece → Bool
  | .char c => isPatternBlank c
  | .stray _ => false

/-- Whether a piece may belong to a header value. -/
def inHeaderValue : Piece → Bool
  | .char c => !(c = ',' || c = '|' || isPatternBlank c)
  | .stray _ => true

/-- Whether a piece may belong to a token value. -/
def inToken : Piece → Bool
  | .char c => c.isAlphanum || c = '-'
  | .stray _ => false

/-- Whether a piece may belong to a path segment value. -/
def inSegment : Piece → Bool
  | .char c => !(c = '/' || c = '?' || c = '#' || c = '"' || isPatternBlank c)
  | .stray _ => true

/-- Matches the literal lead at the front, returning the rest. -/
def matchLead (folded : Bool) : List Char → List Piece → Option (List Piece)
  | [], ps => some ps
  | _ :: _, [] => none
  | c :: cs, .char d :: ps => if charMatches folded c d then matchLead folded cs ps else none
  | _ :: _, .stray _ :: _ => none

/-- A match at the front: the pieces kept before the value, the value, and the pieces
kept after it. -/
structure Found where
  before : List Piece
  value : List Piece
  after : List Piece
  deriving DecidableEq, Repr

/-- The number of pieces a match covers. -/
def Found.size (f : Found) : Nat := f.before.length + f.value.length + f.after.length

/-- The bytes that replace a match: the value masked, the rest kept. -/
def Found.replacement (f : Found) : Bytes :=
  Bytes.ofPieces f.before ++ Bytes.mask (Bytes.ofPieces f.value) ++ Bytes.ofPieces f.after

/-- Matches what follows the lead, given the lead's own pieces. -/
def matchShape (lead : List Piece) (shape : Shape) (ps : List Piece) : Option Found :=
  match shape with
  | .quoted =>
    let b1 := ps.takeWhile isBlankPiece
    match ps.dropWhile isBlankPiece with
    | colon :: r2 =>
      if isChar ':' colon then
        let b2 := r2.takeWhile isBlankPiece
        match r2.dropWhile isBlankPiece with
        | q :: r3 =>
          if isChar '"' q then
            let v := r3.takeWhile (fun p => !isChar '"' p)
            match r3.dropWhile (fun p => !isChar '"' p) with
            | q2 :: _ => some ⟨lead ++ b1 ++ [colon] ++ b2 ++ [q], v, [q2]⟩
            | [] => none
          else none
        | [] => none
      else none
    | [] => none
  | .header =>
    let (c, r1) := match ps with
      | p :: r => if isChar ':' p then ([p], r) else ([], ps)
      | [] => ([], [])
    let b := r1.takeWhile isBlankPiece
    some ⟨lead ++ c ++ b, (r1.dropWhile isBlankPiece).takeWhile inHeaderValue, []⟩
  | .token =>
    let v := ps.takeWhile inToken
    if v.isEmpty then none else some ⟨lead, v, []⟩
  | .segment =>
    let v := ps.takeWhile inSegment
    if v.isEmpty then none else some ⟨lead, v, []⟩

/-- Matches a pattern at the front of the text. -/
def matchAt (p : Pattern) (ps : List Piece) : Option Found :=
  match matchLead p.folded p.lead ps with
  | some rest => matchShape (ps.take p.lead.length) p.shape rest
  | none => none

/-- Replaces every match of a pattern, scanning left to right. `skip` counts the pieces
still covered by the last match, and `out` holds the chunks written so far, newest
first. -/
def scrubWith (p : Pattern) : List Piece → Nat → List Bytes → List Bytes
  | [], _, out => out
  | _ :: qs, skip + 1, out => scrubWith p qs skip out
  | q :: qs, 0, out =>
    match matchAt p (q :: qs) with
    | some f => scrubWith p qs (f.size - 1) (f.replacement :: out)
    | none => scrubWith p qs 0 (q.bytes :: out)

/-- Masks every match of one pattern in a byte string. -/
def scrubPattern (p : Pattern) (bs : Bytes) : Bytes :=
  (scrubWith p (Bytes.pieces bs) 0 []).reverse.flatten

end Mask

/-- Masks every sensitive value found in free text. -/
def Bytes.scrub (bs : Bytes) : Bytes :=
  Mask.patterns.foldl (fun acc p => Mask.scrubPattern p acc) bs

end Ledger
