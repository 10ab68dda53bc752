import Ledger.Text.Bytes
import Ledger.Text.Printable
/-!
# Quoted text

User text in error messages, quoted so that every character shown is printable: quotes and
backslashes escaped, controls by name or `\xHH`, stray bytes as `\xHH`, other characters
that are not printable as `\u` or `\U` codes.
-/

namespace Ledger.Text

/-- The lowercase hexadecimal digits of `n`, padded with zeros to `width`. -/
def hexPadded (width n : Nat) : String :=
  let ds := Nat.toDigits 16 n
  String.ofList (List.replicate (width - ds.length) '0' ++ ds)

/-- The escape of a character inside double quotes. -/
def escapeChar (c : Char) : String :=
  if c = '"' || c = '\\' then String.ofList ['\\', c]
  else if isPrintable c then String.singleton c
  else
    match c.toNat with
    | 0x07 => "\\a"
    | 0x08 => "\\b"
    | 0x0C => "\\f"
    | 0x0A => "\\n"
    | 0x0D => "\\r"
    | 0x09 => "\\t"
    | 0x0B => "\\v"
    | n =>
      if n < 0x20 || n == 0x7F then "\\x" ++ hexPadded 2 n
      else if n < 0x10000 then "\\u" ++ hexPadded 4 n
      else "\\U" ++ hexPadded 8 n

/-- The escape of a character inside single quotes: as inside double quotes, except
that the single quote is escaped and the double quote is not. -/
def escapeRune (c : Char) : String :=
  if c = '\'' then "\\'"
  else if c = '"' then "\""
  else escapeChar c

/-- A character in single quotes, escaped. -/
def quoteChar (c : Char) : String := "'" ++ escapeRune c ++ "'"

/-- The escape of one piece of a byte string. -/
def escapePiece : Piece → String
  | .char c => escapeChar c
  | .stray b => "\\x" ++ hexPadded 2 b.toNat

/-- A byte string in double quotes, escaped. -/
def quote (bs : Bytes) : String :=
  "\"" ++ String.join ((Bytes.pieces bs).map escapePiece) ++ "\""

/-- A string in double quotes, escaped. -/
def quoteString (s : String) : String := quote (Bytes.ofString s)

/-- The uppercase hexadecimal digits of `n`, at least `width` of them. -/
def upperHexPadded (width n : Nat) : String :=
  (hexPadded width n).map Char.toUpper

/-- A code point in `U+HHHH` notation, with the character itself in single quotes
when it is printable. -/
def codePointName (n : Nat) : String :=
  let c := Char.ofNat n
  "U+" ++ upperHexPadded 4 n ++
    (if n.isValidChar && isPrintable c then " '" ++ String.singleton c ++ "'" else "")

end Ledger.Text
