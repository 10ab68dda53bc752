import Ledger.Text.Bytes
/-!
# JSON values and their text

Values keep their members in order, numbers their literal text and strings their bytes.
Writing escapes quotes, backslashes, controls and U+2028/U+2029, and with `html` set also
`<`, `>` and `&`.
-/

namespace Ledger

/-- A JSON value. -/
inductive Json where
  | null
  | bool (b : Bool)
  | number (literal : String)
  | str (s : Bytes)
  | arr (items : List Json)
  | obj (fields : List (String × Json))
  deriving Repr, Inhabited

namespace Json

/-- An integer. -/
def int (n : Int) : Json := number (toString n)

/-- A string given as text. -/
def text (s : String) : Json := str (Bytes.ofString s)

/-- A dictionary: members sorted by key. -/
def dict (fields : List (String × Json)) : Json :=
  obj (fields.mergeSort (fun a b => decide (a.1 ≤ b.1)))

/-- The four-digit escape of a code point below 0x10000. -/
def unicodeEscape (n : Nat) : String :=
  let ds := Nat.toDigits 16 n
  "\\u" ++ String.ofList (List.replicate (4 - ds.length) '0' ++ ds)

/-- The text of one piece of a string inside quotes. -/
def escapePiece (html : Bool) : Piece → String
  | .stray _ => "\\ufffd"
  | .char c =>
    let n := c.toNat
    if n == 0x22 then "\\\""
    else if n == 0x5C then "\\\\"
    else if n < 0x20 then
      match n with
      | 0x08 => "\\b"
      | 0x0C => "\\f"
      | 0x0A => "\\n"
      | 0x0D => "\\r"
      | 0x09 => "\\t"
      | _ => unicodeEscape n
    else if html && (n == 0x3C || n == 0x3E || n == 0x26) then unicodeEscape n
    else if n == 0x2028 || n == 0x2029 then unicodeEscape n
    else String.singleton c

/-- A string literal. -/
def quote (html : Bool) (s : Bytes) : String :=
  "\"" ++ String.join ((Bytes.pieces s).map (escapePiece html)) ++ "\""

mutual
/-- The compact text of a value. -/
def render (html : Bool) : Json → String
  | null => "null"
  | bool b => if b then "true" else "false"
  | number lit => lit
  | str s => quote html s
  | arr items => "[" ++ renderItems html items ++ "]"
  | obj fields => "\x7b" ++ renderFields html fields ++ "\x7d"

/-- The items of an array, comma separated. -/
def renderItems (html : Bool) : List Json → String
  | [] => ""
  | [x] => render html x
  | x :: rest => render html x ++ "," ++ renderItems html rest

/-- The members of an object, comma separated. -/
def renderFields (html : Bool) : List (String × Json) → String
  | [] => ""
  | [(k, v)] => quote html (Bytes.ofString k) ++ ":" ++ render html v
  | (k, v) :: rest =>
    quote html (Bytes.ofString k) ++ ":" ++ render html v ++ "," ++ renderFields html rest
end

/-- The member of an object with the given key, if any. -/
def get? (j : Json) (key : String) : Option Json :=
  match j with
  | obj fields => fields.lookup key
  | _ => none

end Json
end Ledger
