import Ledger.Number.Integer
/-!
# Instants

An instant is a count of nanoseconds since the Unix epoch with the offset of the clock it was
read on, written in UTC as RFC 3339 text. The difference of two instants saturates at the
bounds of a duration.
-/

namespace Ledger

/-- A point in time, in nanoseconds since 1970-01-01T00:00:00Z, and the offset east of
UTC, in seconds, of the clock it was read on. -/
structure Instant where
  ns : Int
  offset : Int := 0
  deriving DecidableEq, Repr, Inhabited

/-- Nanoseconds per second. -/
def nsPerSecond : Int := 1000000000

/-- Seconds per day. -/
def secondsPerDay : Int := 86400

namespace Instant

instance : Ord Instant := ⟨fun a b => compare a.ns b.ns⟩
instance : LT Instant := ⟨fun a b => a.ns < b.ns⟩
instance : LE Instant := ⟨fun a b => a.ns ≤ b.ns⟩
instance (a b : Instant) : Decidable (a < b) := inferInstanceAs (Decidable (a.ns < b.ns))
instance (a b : Instant) : Decidable (a ≤ b) := inferInstanceAs (Decidable (a.ns ≤ b.ns))

/-- The first moment of year 1, used for "unset". -/
def zero : Instant := { ns := -62135596800 * nsPerSecond }

/-- Whether an instant is the unset instant. -/
def isZero (t : Instant) : Bool := t.ns == zero.ns

/-- The instant a number of milliseconds after the epoch. -/
def ofMillis (ms : Int) : Instant := { ns := ms * 1000000 }

/-- Milliseconds since the epoch, rounded down. -/
def toMillis (t : Instant) : Int := t.ns.fdiv 1000000

/-- The instant `d` nanoseconds later, on the same clock. -/
def addNanos (t : Instant) (d : Int) : Instant := { t with ns := t.ns + d }

/-- The same instant read on a clock at UTC. -/
def utc (t : Instant) : Instant := { ns := t.ns }

/-- The bounds of a duration. -/
def maxDuration : Int := Int.pow 2 63 - 1
def minDuration : Int := -Int.pow 2 63

/-- `t - u` in nanoseconds, saturating at the bounds of a duration. -/
def since (t u : Instant) : Int := max minDuration (min maxDuration (t.ns - u.ns))

/-- Year, month and day of a count of days since 1970-01-01 (proleptic Gregorian). -/
def civilOfDays (z : Int) : Int × Nat × Nat :=
  let z := z + 719468
  let era := z.fdiv 146097
  let doe := z - era * 146097
  let yoe := (doe - doe / 1460 + doe / 36524 - doe / 146096) / 365
  let y := yoe + era * 400
  let doy := doe - (365 * yoe + yoe / 4 - yoe / 100)
  let mp := (5 * doy + 2) / 153
  let d := doy - (153 * mp + 2) / 5 + 1
  let m := if mp < 10 then mp + 3 else mp - 9
  (if m ≤ 2 then y + 1 else y, m.toNat, d.toNat)

/-- Days since 1970-01-01 of a civil date (proleptic Gregorian). -/
def daysOfCivil (y : Int) (m d : Nat) : Int :=
  let y := if m ≤ 2 then y - 1 else y
  let era := y.fdiv 400
  let yoe := y - era * 400
  let mp : Int := if m > 2 then m - 3 else m + 9
  let doy := (153 * mp + 2) / 5 + d - 1
  let doe := yoe * 365 + yoe / 4 - yoe / 100 + doy
  era * 146097 + doe - 719468

/-- Decimal digits of `n`, zero-padded to `width`. -/
def padded (width : Nat) (n : Nat) : String :=
  let s := toString n
  String.ofList (List.replicate (width - s.length) '0') ++ s

/-- A year with at least four digits and a sign when negative. -/
def yearText (y : Int) : String :=
  if y < 0 then "-" ++ padded 4 y.natAbs else padded 4 y.toNat

/-- The parts of an instant in UTC, whatever its clock: date, time of day and
nanoseconds. -/
def parts (t : Instant) : (Int × Nat × Nat) × (Nat × Nat × Nat) × Nat :=
  let secs := t.ns.fdiv nsPerSecond
  let nanos := (t.ns - secs * nsPerSecond).toNat
  let days := secs.fdiv secondsPerDay
  let sod := (secs - days * secondsPerDay).toNat
  (civilOfDays days, (sod / 3600, sod / 60 % 60, sod % 60), nanos)

/-- The fraction of a second, `.` and up to nine digits without trailing zeros, or
nothing when it is zero. -/
def fractionText (nanos : Nat) : String :=
  if nanos = 0 then ""
  else
    let ds := (padded 9 nanos).toList
    "." ++ String.ofList (ds.reverse.dropWhile (· == '0')).reverse

/-- The date as `YYYY-MM-DD`. -/
def dateText (t : Instant) : String :=
  let ((y, mo, d), _, _) := t.parts
  yearText y ++ "-" ++ padded 2 mo ++ "-" ++ padded 2 d

/-- The time of day as `hh:mm:ss`. -/
def clockText (t : Instant) : String :=
  let (_, (h, mi, s), _) := t.parts
  padded 2 h ++ ":" ++ padded 2 mi ++ ":" ++ padded 2 s

/-- RFC 3339 text in UTC with the fraction trimmed. -/
def toText (t : Instant) : String :=
  let (_, _, nanos) := t.parts
  t.dateText ++ "T" ++ t.clockText ++ fractionText nanos ++ "Z"


/-- RFC 3339 text in UTC without the fraction. -/
def toSecondsText (t : Instant) : String := t.dateText ++ "T" ++ t.clockText ++ "Z"

/-- `YYYY-MM-DD hh:mm:ss` in UTC. -/
def toPlainText (t : Instant) : String := t.dateText ++ " " ++ t.clockText

/-- The value of a fixed number of digits. -/
def digitsOf (cs : List Char) : Option Nat :=
  if cs.all Char.isDigit then some (cs.foldl (fun a c => a * 10 + (c.toNat - 48)) 0) else none

/-- Whether a year is a leap year of the Gregorian calendar. -/
def isLeapYear (y : Nat) : Bool := y % 4 == 0 && (y % 100 != 0 || y % 400 == 0)

/-- The number of days of a month (1 to 12) of a year. -/
def daysInMonth (y m : Nat) : Nat :=
  if m == 2 then (if isLeapYear y then 29 else 28)
  else if m == 4 || m == 6 || m == 9 || m == 11 then 30
  else 31

/-- Reads one or two digits (`fixed`: exactly two), with the rest. -/
def readNumber (fixed : Bool) : List Char → Option (Nat × List Char)
  | a :: b :: rest =>
    if !a.isDigit then none
    else if b.isDigit then some ((a.toNat - 48) * 10 + (b.toNat - 48), rest)
    else if fixed then none
    else some (a.toNat - 48, b :: rest)
  | [a] => if a.isDigit && !fixed then some (a.toNat - 48, []) else none
  | [] => none

/-- Reads RFC 3339 text: `YYYY-MM-DDThh:mm:ss`, an optional fraction, and `Z` or an
offset `±hh:mm`. Gives the instant and the offset in seconds east of UTC.

The reading is as lenient as the standard layout allows: the hour may have one digit,
the fraction may follow a comma and have any number of digits (those past the ninth
are dropped), and the offset may reach 24 hours and 60 minutes. The day must exist in
its month. -/
def parseZoned? (s : String) : Option (Instant × Int) := do
  let cs := s.toList
  guard (cs.length ≥ 4 && (cs.head?.map Char.isDigit).getD false)
  let y ← digitsOf (cs.take 4)
  let rest ← match cs.drop 4 with | '-' :: r => some r | _ => none
  let (mo, rest) ← readNumber true rest
  guard (1 ≤ mo && mo ≤ 12)
  let rest ← match rest with | '-' :: r => some r | _ => none
  let (d, rest) ← readNumber true rest
  let rest ← match rest with | 'T' :: r => some r | _ => none
  let (h, rest) ← readNumber false rest
  guard (h < 24)
  let rest ← match rest with | ':' :: r => some r | _ => none
  let (mi, rest) ← readNumber true rest
  guard (mi < 60)
  let rest ← match rest with | ':' :: r => some r | _ => none
  let (se, rest) ← readNumber true rest
  guard (se < 60)
  let (nanos, rest) := match rest with
    | sep :: c :: r =>
      if (sep == '.' || sep == ',') && c.isDigit then
        let ds := (c :: r).takeWhile Char.isDigit
        let kept := ds.take 9
        ((digitsOf kept).getD 0 * Nat.pow 10 (9 - kept.length), (c :: r).drop ds.length)
      else (0, sep :: c :: r)
    | r => (0, r)
  let offset ← match rest with
    | ['Z'] => some (0 : Int)
    | [sg, a, b, ':', c, e] =>
      let (hh, _) ← readNumber true [a, b]
      let (mm, _) ← readNumber true [c, e]
      guard (hh ≤ 24 && mm ≤ 60)
      if sg = '+' then some ((hh * 60 + mm : Nat) : Int)
      else if sg = '-' then some (-((hh * 60 + mm : Nat) : Int))
      else none
    | _ => none
  guard (1 ≤ d && d ≤ daysInMonth y mo)
  let days := daysOfCivil y mo d
  let secs := days * secondsPerDay + h * 3600 + mi * 60 + se - offset * 60
  pure ({ ns := secs * nsPerSecond + nanos }, offset * 60)

/-- Reads RFC 3339 text (see `parseZoned?`) as an instant read on a clock at the offset
it gives. -/
def parse? (s : String) : Option Instant := (parseZoned? s).map fun (t, o) => { t with offset := o }

/-- An offset east of UTC as `±hh` and `mm`, separated by `sep`. -/
def offsetText (offset : Int) (sep : String) : String :=
  let minutes := offset.natAbs / 60
  (if offset < 0 then "-" else "+") ++ padded 2 (minutes / 60) ++ sep ++ padded 2 (minutes % 60)

/-- RFC 3339 text of the wall time at an offset east of UTC, with the fraction trimmed:
`Z` for UTC, else the offset `±hh:mm`. -/
def zonedText (t : Instant) (offset : Int) : String :=
  if offset == 0 then t.toText
  else
    let w := t.addNanos (offset * nsPerSecond)
    let (_, _, nanos) := w.parts
    w.dateText ++ "T" ++ w.clockText ++ fractionText nanos ++ offsetText offset ":"

/-- The RFC 3339 text of an instant in its own zone, as a JSON encoding writes it: only
years 0 through 9999 there and offsets of less than 24 hours have one. -/
def jsonText? (t : Instant) : Option String :=
  let year := (t.addNanos (t.offset * nsPerSecond)).parts.1.1
  if 0 ≤ year && year ≤ 9999 && t.offset.natAbs / 3600 < 24 then some (zonedText t.utc t.offset)
  else none

/-- The wall time at an offset east of UTC as `YYYY-MM-DD hh:mm:ss` with the trimmed
fraction, the offset `±hhmm` and the zone's name: `UTC`, or the offset again for an
unnamed zone. -/
def describe (t : Instant) (offset : Int) : String :=
  let w := t.addNanos (offset * nsPerSecond)
  let (_, _, nanos) := w.parts
  w.toPlainText ++ fractionText nanos ++ " " ++ offsetText offset "" ++ " " ++
    (if offset == 0 then "UTC" else offsetText offset "")

end Instant
end Ledger
