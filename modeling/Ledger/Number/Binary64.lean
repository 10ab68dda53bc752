import Ledger.Number.Decimal
/-!
# Binary64 numbers and their decimal text

Reading a decimal gives the nearest binary64 number, and a number's shortest decimal reads
back as it. The general text writes that decimal positionally or with an exponent.
-/

namespace Ledger

/-- A finite binary64 number `±mantissa · 2^exponent`. -/
structure Binary64 where
  negative : Bool
  mantissa : Nat
  exponent : Int
  deriving DecidableEq, Repr, Inhabited

namespace Binary64

/-- The exponent of the least subnormal number. -/
def minExponent : Int := -1074

/-- The mantissa of the least normal number: the hidden bit alone. -/
def hiddenBit : Nat := Nat.pow 2 52

/-- `num / (den · 2^e)` as quotient, remainder and divisor. -/
def divPow2 (num den : Nat) (e : Int) : Nat × Nat × Nat :=
  let n := num * Nat.pow 2 (-e).toNat
  let d := den * Nat.pow 2 e.toNat
  (n / d, n % d, d)

/-- `q + r / d` rounded to the nearest integer, a tie to the even one. -/
def roundHalfEven (q r d : Nat) : Nat :=
  if 2 * r > d || (2 * r == d && q % 2 == 1) then q + 1 else q

/-- The number nearest to `±c · 10^k`. The exponent is first chosen so that the
quotient has 53 bits (from the bit lengths of numerator and denominator, off by at
most one), but never below the least exponent; a rounding up to `2^53` moves to the
next exponent. -/
def nearest (negative : Bool) (c : Nat) (k : Int) : Binary64 :=
  if c == 0 then ⟨negative, 0, minExponent⟩
  else
    let num := c * Nat.pow 10 k.toNat
    let den := Nat.pow 10 (-k).toNat
    let guess : Int := (num.log2 : Int) - den.log2 - 52
    let e := if (divPow2 num den guess).1 < hiddenBit then guess - 1 else guess
    let e := max e minExponent
    let (q, r, d) := divPow2 num den e
    let m := roundHalfEven q r d
    if m == 2 * hiddenBit then ⟨negative, hiddenBit, e + 1⟩ else ⟨negative, m, e⟩

/-- The number nearest to a decimal. -/
def ofDecimal (negative : Bool) (d : Decimal) : Binary64 := nearest negative d.coef.natAbs d.exp

/-- The count of decimal digits of a natural number. -/
def digitCount (n : Nat) : Nat := (toString n).length

/-- The place of the leading decimal digit of a nonzero number: `p` with
`10^p ≤ |x| < 10^(p+1)`. A number with a negative exponent is `m · 5^(-e) · 10^e`. -/
def leadingPlace (x : Binary64) : Int :=
  if x.exponent ≥ 0 then (digitCount (x.mantissa * Nat.pow 2 x.exponent.toNat) : Int) - 1
  else (digitCount (x.mantissa * Nat.pow 5 (-x.exponent).toNat) : Int) - 1 + x.exponent

/-- The digits `k` of a decimal `k · 10^s` that reads back as the (nonzero) number,
when one of its two neighbours on the grid `10^s` does.

Everything is counted in quarters of the unit `2^e`: the number is `4m`, the half-way
point to the next number `4m + 2`, and that to the previous one `4m - 2`, or `4m - 1`
below a power of two of a normal number, where the spacing halves. Those ends read back
as the number only when its mantissa is even. -/
def onGrid (x : Binary64) (s : Int) : Option Nat :=
  let m := x.mantissa
  let e := x.exponent
  let lowerGap : Nat := if m == hiddenBit && e > minExponent then 1 else 2
  let scale := Nat.pow 2 (e - 2).toNat * Nat.pow 10 (-s).toNat
  let den := Nat.pow 2 (2 - e).toNat * Nat.pow 10 s.toNat
  let v := 4 * m * scale
  let hi := (4 * m + 2) * scale
  let lo := (4 * m - lowerGap) * scale
  let inclusive := m % 2 == 0
  let k := v / den
  let down := k * den
  let up := (k + 1) * den
  let okDown := down > lo || (inclusive && down == lo)
  let okUp := up < hi || (inclusive && up == hi)
  if okDown && okUp then
    if v - down < up - v then some k
    else if up - v < v - down then some (k + 1)
    else some (if k % 2 == 0 then k else k + 1)
  else if okDown then some k
  else if okUp then some (k + 1)
  else none

/-- Drops the trailing zeros of `k · 10^s`; `fuel` bounds the zeros dropped. -/
def trimZeros : Nat → Nat → Int → Nat × Int
  | 0, k, s => (k, s)
  | fuel + 1, k, s => if k != 0 && k % 10 == 0 then trimZeros fuel (k / 10) (s + 1) else (k, s)

/-- The shortest decimal of the magnitude as `(k, s)` for `k · 10^s`, with no trailing
zero in `k`; `(0, 0)` for zero. Seventeen significant digits always suffice. -/
def shortest (x : Binary64) : Nat × Int :=
  if x.mantissa == 0 then (0, 0)
  else
    let p := x.leadingPlace
    let found := (List.range 17).findSome? fun (i : Nat) =>
      let s := p - (i : Int)
      (x.onGrid s).map fun k => (k, s)
    let (k, s) := found.getD (x.mantissa, x.exponent)
    trimZeros (digitCount k) k s

/-- The shortest decimal as a decimal value (zero without its sign). -/
def toDecimal (x : Binary64) : Decimal :=
  let (k, s) := x.shortest
  ⟨if x.negative then -(k : Int) else k, s⟩

/-- An exponent with its sign and at least two digits. -/
def exponentText (e : Int) : String :=
  (if e < 0 then "-" else "+") ++ (if e.natAbs < 10 then "0" else "") ++ toString e.natAbs

/-- The general text of a number (see the module header). -/
def generalText (x : Binary64) : String :=
  let (k, s) := x.shortest
  let ds := if k == 0 then [] else (toString k).toList
  let nd := ds.length
  let point : Int := if k == 0 then 0 else nd + s
  let sign := if x.negative then "-" else ""
  let lead := point - 1
  if k != 0 && (lead < -4 || lead ≥ 6) then
    let rest := ds.drop 1
    sign ++ String.ofList (ds.take 1) ++ (if rest.isEmpty then "" else "." ++ String.ofList rest) ++
      "e" ++ exponentText lead
  else
    let digitAt (i : Int) : Char := if 0 ≤ i && i < nd then ds.getD i.toNat '0' else '0'
    let whole := if point > 0 then
        String.ofList ((List.range point.toNat).map fun (i : Nat) => digitAt (i : Int))
      else "0"
    let places := (nd - point).toNat
    let frac := String.ofList ((List.range places).map fun (i : Nat) => digitAt (point + (i : Int)))
    sign ++ whole ++ (if places > 0 then "." ++ frac else "")

end Binary64
end Ledger
