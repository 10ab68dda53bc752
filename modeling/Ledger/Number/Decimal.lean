import Ledger.Number.Integer
/-!
# Decimal numbers

Exact decimals, an integer coefficient scaled by a power of ten, compared by value. The
canonical text shows no exponent and no trailing zeros; fixed-point text rounds half away
from zero.
-/

namespace Ledger

/-- A decimal number `coef × 10 ^ exp`. -/
structure Decimal where
  coef : Int
  exp : Int
  deriving Repr, Inhabited

namespace Decimal

/-- Zero. -/
def zero : Decimal := ⟨0, 0⟩

/-- An integer as a decimal. -/
def ofInt (n : Int) : Decimal := ⟨n, 0⟩

/-- The coefficient of `d` at exponent `e`: scaled up exactly when `e` is smaller,
truncated toward zero when it is larger. -/
def coefAt (d : Decimal) (e : Int) : Int :=
  if e ≤ d.exp then d.coef * Int.pow 10 (d.exp - e).toNat
  else d.coef.tdiv (Int.pow 10 (e - d.exp).toNat)

/-- The same value written at exponent `e`, truncating when `e` is larger. -/
def rescale (d : Decimal) (e : Int) : Decimal := ⟨d.coefAt e, e⟩

/-- Compares two decimals by value. -/
def cmp (a b : Decimal) : Ordering :=
  let e := min a.exp b.exp
  compare (a.coefAt e) (b.coefAt e)

/-- Equality of values. -/
def equals (a b : Decimal) : Bool := a.cmp b == .eq

/-- `a < b` by value. -/
def lt (a b : Decimal) : Bool := a.cmp b == .lt

/-- `a > b` by value. -/
def gt (a b : Decimal) : Bool := a.cmp b == .gt

/-- The sum. -/
def add (a b : Decimal) : Decimal :=
  let e := min a.exp b.exp
  ⟨a.coefAt e + b.coefAt e, e⟩

/-- The difference. -/
def sub (a b : Decimal) : Decimal :=
  let e := min a.exp b.exp
  ⟨a.coefAt e - b.coefAt e, e⟩

/-- Whether the value is above zero. -/
def isPositive (d : Decimal) : Bool := d.coef > 0

/-- Whether the value is below zero. -/
def isNegative (d : Decimal) : Bool := d.coef < 0

/-- Drops the digits after `places` decimal places. -/
def truncate (d : Decimal) (places : Int) : Decimal :=
  if 0 ≤ places && -places > d.exp then d.rescale (-places) else d

/-- Rounds to `places` decimal places, a half going away from zero. -/
def round (d : Decimal) (places : Int) : Decimal :=
  if d.exp = -places then d
  else
    let c := d.coefAt (-places - 1)
    let shifted := if c < 0 then c - 5 else c + 5
    ⟨shifted.tdiv 10, -places⟩

/-- The digits of a natural number. -/
def natDigits (n : Nat) : String := toString n

/-- The text of a decimal, optionally keeping trailing fractional zeros. -/
def render (d : Decimal) (trimZeros : Bool) : String :=
  if 0 ≤ d.exp then toString (d.coef * Int.pow 10 d.exp.toNat)
  else
    let digits := (natDigits d.coef.natAbs).toList
    let k := (-d.exp).toNat
    let (intPart, frac) :=
      if digits.length > k then (digits.take (digits.length - k), digits.drop (digits.length - k))
      else (['0'], List.replicate (k - digits.length) '0' ++ digits)
    let frac := if trimZeros then (frac.reverse.dropWhile (· == '0')).reverse else frac
    let body := String.ofList intPart ++ (if frac.isEmpty then "" else "." ++ String.ofList frac)
    if d.coef < 0 then "-" ++ body else body

/-- The canonical text: no exponent and no trailing fractional zeros. -/
def toText (d : Decimal) : String := d.render true

/-- The text with exactly `places` decimal places, rounding half away from zero. -/
def toFixed (d : Decimal) (places : Nat) : String := (d.round places).render false

/-- Reads a signed integer of decimal digits of any size. -/
def parseBigInt (s : String) : Option Int :=
  match s.toList with
  | '-' :: r => (Number.digitsValue r).map fun n => -(n : Int)
  | '+' :: r => (Number.digitsValue r).map fun n => (n : Int)
  | r => (Number.digitsValue r).map fun n => (n : Int)

/-- The least and greatest exponents a decimal may have. -/
def minExp : Int := -2147483648
def maxExp : Int := 2147483647

/-- Reads a decimal, or explains why the text is not one. -/
def parse (s : String) : Except String Decimal :=
  let cs := s.toList
  let (mant, expPart) := match cs.findIdx? (fun c => c = 'e' || c = 'E') with
    | some i => (cs.take i, some (cs.drop (i + 1)))
    | none => (cs, none)
  let mantText := String.ofList mant
  let expVal : Except String Int := match expPart with
    | none => .ok 0
    | some e => match Number.parseIntBits 32 (String.ofList e) with
      | .ok v => .ok v
      | .error .outOfRange => .error ("can't convert " ++ s ++ " to decimal: fractional part too long")
      | .error .malformed => .error ("can't convert " ++ s ++ " to decimal: exponent is not numeric")
  match expVal with
  | .error e => .error e
  | .ok e0 =>
    if mant.count '.' > 1 then .error ("can't convert " ++ mantText ++ " to decimal: too many .s")
    else
      let (intDigits, fracLen) := match mant.findIdx? (· = '.') with
        | some i => (mant.take i ++ mant.drop (i + 1), mant.length - i - 1)
        | none => (mant, 0)
      match parseBigInt (String.ofList intDigits) with
      | none => .error ("can't convert " ++ mantText ++ " to decimal")
      | some c =>
        let e := e0 - fracLen
        if e < minExp || e > maxExp then
          .error ("can't convert " ++ s ++ " to decimal: fractional part too long")
        else .ok ⟨c, e⟩

/-- Whether a value has at most `places` decimal places. -/
def hasScale (d : Decimal) (places : Nat) : Bool := d.equals (d.truncate places)

end Decimal
end Ledger
