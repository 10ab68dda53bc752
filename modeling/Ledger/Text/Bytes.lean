
/-!
# Byte strings and their UTF-8 reading

`Bytes` is text as the service receives it: a sequence of bytes, not always UTF-8. Reading it
yields a character for each well-formed sequence and a *stray* piece for any other byte.
Trimming removes Unicode blank characters from both ends; a stray byte is never blank.
-/

namespace Ledger

/-- A byte string. -/
abbrev Bytes := List UInt8

namespace Bytes

/-- The UTF-8 bytes of a string. -/
def ofString (s : String) : Bytes := s.toUTF8.toList

/-- Whether a byte is a continuation byte `10xxxxxx`. -/
@[inline] def isContinuation (b : UInt8) : Bool := b &&& 0xC0 == 0x80

/-- The UTF-8 encoding of one character. -/
def encodeChar (c : Char) : Bytes :=
  let n := c.toNat
  if n < 0x80 then [n.toUInt8]
  else if n < 0x800 then
    [(0xC0 ||| (n >>> 6)).toUInt8, (0x80 ||| (n &&& 0x3F)).toUInt8]
  else if n < 0x10000 then
    [(0xE0 ||| (n >>> 12)).toUInt8, (0x80 ||| ((n >>> 6) &&& 0x3F)).toUInt8,
      (0x80 ||| (n &&& 0x3F)).toUInt8]
  else
    [(0xF0 ||| (n >>> 18)).toUInt8, (0x80 ||| ((n >>> 12) &&& 0x3F)).toUInt8,
      (0x80 ||| ((n >>> 6) &&& 0x3F)).toUInt8, (0x80 ||| (n &&& 0x3F)).toUInt8]

end Bytes

/-- One unit of reading a byte string as UTF-8: a character from a well-formed
sequence, or a single byte that begins none. -/
inductive Piece where
  | char (c : Char)
  | stray (b : UInt8)
  deriving DecidableEq, Repr, Inhabited

namespace Piece

/-- The character a piece reads as; a stray byte reads as U+FFFD. -/
def rune : Piece → Char
  | char c => c
  | stray _ => '�'

/-- The bytes a piece was read from. -/
def bytes : Piece → Bytes
  | char c => Bytes.encodeChar c
  | stray b => [b]

/-- Whether the piece is a stray byte. -/
def isStray : Piece → Bool
  | char _ => false
  | stray _ => true

end Piece

namespace Bytes

/-- The character of a code point known to be a scalar value. -/
def scalar (n : Nat) : Char := Char.ofNat n

/-- The bounds allowed for the second byte after a given first byte, which rule out
overlong forms, surrogates and code points above U+10FFFF. -/
def secondRange (b0 : UInt8) : UInt8 × UInt8 :=
  if b0 == 0xE0 then (0xA0, 0xBF)
  else if b0 == 0xED then (0x80, 0x9F)
  else if b0 == 0xF0 then (0x90, 0xBF)
  else if b0 == 0xF4 then (0x80, 0x8F)
  else (0x80, 0xBF)

/-- Reads one piece from the front of a byte string, with the rest. -/
def next? : Bytes → Option (Piece × Bytes)
  | [] => none
  | b0 :: rest =>
    if b0 < 0x80 then some (.char (Char.ofNat b0.toNat), rest)
    else if b0 < 0xC2 || b0 > 0xF4 then some (.stray b0, rest)
    else
      let (lo, hi) := secondRange b0
      let stray := some (.stray b0, rest)
      match rest with
      | b1 :: r1 =>
        if b1 < lo || b1 > hi then stray
        else if b0 < 0xE0 then
          some (.char (scalar (((b0.toNat &&& 0x1F) <<< 6) ||| (b1.toNat &&& 0x3F))), r1)
        else
          match r1 with
          | b2 :: r2 =>
            if !isContinuation b2 then stray
            else if b0 < 0xF0 then
              some (.char (scalar (((b0.toNat &&& 0x0F) <<< 12) |||
                ((b1.toNat &&& 0x3F) <<< 6) ||| (b2.toNat &&& 0x3F))), r2)
            else
              match r2 with
              | b3 :: r3 =>
                if !isContinuation b3 then stray
                else some (.char (scalar (((b0.toNat &&& 0x07) <<< 18) |||
                  ((b1.toNat &&& 0x3F) <<< 12) ||| ((b2.toNat &&& 0x3F) <<< 6) |||
                  (b3.toNat &&& 0x3F))), r3)
              | [] => stray
          | [] => stray
      | [] => stray

theorem next?_length {bs : Bytes} {p : Piece} {rest : Bytes} (h : next? bs = some (p, rest)) :
    rest.length < bs.length := by
  unfold next? at h
  split at h
  · simp at h
  · repeat' (first | split at h | simp only [Option.some.injEq, Prod.mk.injEq] at h)
    all_goals (obtain ⟨-, rfl⟩ := h; simp +arith)

/-- Reads a byte string into pieces, front to back. -/
def pieces (bs : Bytes) : List Piece :=
  go bs []
where
  /-- Reading with an accumulator of the pieces read so far, newest first. -/
  go (bs : Bytes) (acc : List Piece) : List Piece :=
    match h : next? bs with
    | none => acc.reverse
    | some (p, rest) =>
      have := next?_length h
      go rest (p :: acc)
  termination_by bs.length

/-- Writes pieces back to bytes. -/
def ofPieces (ps : List Piece) : Bytes := (ps.map Piece.bytes).flatten

/-- Whether a byte string is well-formed UTF-8. -/
def isValid (bs : Bytes) : Bool := (pieces bs).all (fun p => !p.isStray)

/-- The string a byte string reads as, each stray byte becoming U+FFFD. -/
def toText (bs : Bytes) : String := String.ofList ((pieces bs).map Piece.rune)

/-- The lowercase hexadecimal digit of a value below 16. -/
def hexDigit (n : Nat) : Char :=
  if n < 10 then Char.ofNat (48 + n) else Char.ofNat (87 + n)

/-- A byte as two lowercase hexadecimal digits. -/
def hexByte (b : UInt8) : String :=
  String.ofList [hexDigit (b.toNat / 16), hexDigit (b.toNat % 16)]

/-- A byte string as lowercase hexadecimal. -/
def toHex (bs : Bytes) : String := String.join (bs.map hexByte)

/-- Whether `pre` is a prefix of the byte string. -/
def startsWith (bs pre : Bytes) : Bool := pre.isPrefixOf bs

end Bytes
/-! ## Blank characters and trimming -/

namespace Text

/-- Whether a character is blank (Unicode white space). -/
def isBlank (c : Char) : Bool :=
  let n := c.toNat
  if n < 0x100 then
    n == 0x20 || (0x09 ≤ n && n ≤ 0x0D) || n == 0x85 || n == 0xA0
  else
    n == 0x1680 || (0x2000 ≤ n && n ≤ 0x200A) || n == 0x2028 || n == 0x2029 ||
      n == 0x202F || n == 0x205F || n == 0x3000

/-- Whether a piece of a byte string is a blank character. -/
def Piece.isBlank : Piece → Bool
  | .char c => Text.isBlank c
  | .stray _ => false

end Text

namespace Bytes

/-- Removes leading and trailing blank characters. -/
def trimBlank (bs : Bytes) : Bytes :=
  let ps := (pieces bs).dropWhile Text.Piece.isBlank
  ofPieces (ps.reverse.dropWhile Text.Piece.isBlank).reverse

/-- Whether a byte string holds only blank characters (or nothing). -/
def isBlank (bs : Bytes) : Bool := (pieces bs).all Text.Piece.isBlank

end Bytes

/-- Removes leading and trailing blank characters of a string. -/
def String.trimBlank (s : String) : String :=
  let cs := s.toList.dropWhile Text.isBlank
  String.ofList (cs.reverse.dropWhile Text.isBlank).reverse

end Ledger
