import Ledger.Text.Quoted
/-!
# Reading integers and booleans from text

An integer is an optional sign and decimal digits that fit in 64 bits, and a failure names
the reader, the text and the reason. A boolean is one of `1 t T TRUE true True` or
`0 f F FALSE false False`.
-/

namespace Ledger.Number

/-- Why a text is not a number. -/
inductive NumberError where
  | malformed
  | outOfRange
  deriving DecidableEq, Repr

/-- The message of a failed reading by the reader named `reader` of `text`. -/
def NumberError.message (reader : String) (text : String) : NumberError → String
  | .malformed => "strconv." ++ reader ++ ": parsing " ++ Text.quoteString text ++ ": invalid syntax"
  | .outOfRange => "strconv." ++ reader ++ ": parsing " ++ Text.quoteString text ++ ": value out of range"

/-- The value of a string of decimal digits, or `none` if it is empty or holds another
character. -/
def digitsValue (cs : List Char) : Option Nat :=
  if cs.isEmpty || !cs.all Char.isDigit then none
  else some (cs.foldl (fun acc c => acc * 10 + (c.toNat - 48)) 0)

/-- Reads decimal digits from the left onto `acc`. The reading stops at the first
character that is not a digit (malformed) or as soon as the value passes `limit` (out of
range), whichever comes first: `99999999999999999999x` is out of range, not malformed. -/
def scanDigits (limit : Nat) (acc : Nat) : List Char → Except NumberError Nat
  | [] => .ok acc
  | c :: rest =>
    if c.isDigit then
      let next := acc * 10 + (c.toNat - 48)
      if next > limit then .error .outOfRange else scanDigits limit next rest
    else .error .malformed

/-- Reads a signed decimal integer that must fit in `bits` bits. The digits are first
read as an unsigned number of that many bits, then the sign's bound applies. -/
def parseIntBits (bits : Nat) (s : String) : Except NumberError Int :=
  let (neg, body) := match s.toList with
    | '-' :: r => (true, r)
    | '+' :: r => (false, r)
    | r => (false, r)
  if body.isEmpty then .error .malformed
  else match scanDigits (Nat.pow 2 bits - 1) 0 body with
    | .error e => .error e
    | .ok n =>
      if neg then (if n ≤ Nat.pow 2 (bits - 1) then .ok (-(n : Int)) else .error .outOfRange)
      else if n < Nat.pow 2 (bits - 1) then .ok n else .error .outOfRange

/-- Reads a signed decimal integer that must fit in 64 bits. -/
def parseInt64 (s : String) : Except NumberError Int := parseIntBits 64 s

/-- Reads a machine integer, with its failure message. -/
def parseIntText (s : String) : Except String Int :=
  match parseInt64 s with
  | .ok n => .ok n
  | .error e => .error (e.message "Atoi" s)

/-- Reads a boolean, with its failure message. -/
def parseBoolText (s : String) : Except String Bool :=
  if ["1", "t", "T", "TRUE", "true", "True"].contains s then .ok true
  else if ["0", "f", "F", "FALSE", "false", "False"].contains s then .ok false
  else .error (NumberError.message "ParseBool" s .malformed)

end Ledger.Number
