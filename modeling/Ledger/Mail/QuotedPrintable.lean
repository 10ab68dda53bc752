import Ledger.Text.Quoted
/-!
# Quoted-printable text

Bytes as lines of at most 76 characters: printable ASCII as itself, other bytes as `=XX`,
line breaks as `\r\n`, and soft breaks before a line grows too long.
-/

namespace Ledger.Mail

/-- The longest line, with its soft break. -/
def lineLimit : Nat := 76

/-- The state of the encoder: the output so far, the current line (reversed), and
whether the last byte was a carriage return. -/
structure QpState where
  out : List UInt8 := []
  line : List UInt8 := []
  afterCr : Bool := false
  deriving Repr, Inhabited

namespace QpState

/-- Ends the current line with `tail`. -/
def flush (s : QpState) (tail : List UInt8) : QpState :=
  { s with out := s.out ++ s.line.reverse ++ tail, line := [] }

/-- Breaks the line softly. -/
def softBreak (s : QpState) : QpState := s.flush [61, 13, 10]

/-- Writes a byte as a code. -/
def code (s : QpState) (b : UInt8) : QpState :=
  let s := if lineLimit - 1 - s.line.length < 3 then s.softBreak else s
  let hex := Bytes.ofString (Text.upperHexPadded 2 b.toNat)
  { s with line := hex.reverse ++ [61] ++ s.line }

/-- Writes a blank ending the line as a code. -/
def codeLastBlank (s : QpState) : QpState :=
  match s.line with
  | b :: rest => if b == 32 || b == 9 then { s with line := rest }.code b else s
  | [] => s

/-- Writes a byte that stands for itself, or a line break. -/
def plain (s : QpState) (b : UInt8) : QpState :=
  if b == 10 || b == 13 then
    if s.afterCr && b == 10 then { s with afterCr := false }
    else { s.codeLastBlank.flush [13, 10] with afterCr := b == 13 }
  else
    let s := if s.line.length == lineLimit - 1 then s.softBreak else s
    { s with line := b :: s.line, afterCr := false }

/-- Writes one byte of the text. -/
def push (s : QpState) (b : UInt8) : QpState :=
  if (33 ≤ b && b ≤ 126 && b != 61) || b == 32 || b == 9 || b == 10 || b == 13 then s.plain b
  else s.code b

end QpState

/-- The quoted-printable form of a text. -/
def quotedPrintable (text : Bytes) : Bytes :=
  let s := text.foldl QpState.push {}
  (s.codeLastBlank.flush []).out

end Ledger.Mail
