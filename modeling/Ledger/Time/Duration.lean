import Ledger.Text.Bytes
/-!
# Durations

A duration is a signed 64-bit count of nanoseconds, read from text such as `300ms` or
`2h45m` and written canonically as `1h30m0s` or `1.2ms`.
-/

namespace Ledger.Duration

/-- The nanoseconds of each unit. -/
def unitNanos : String → Option Nat
  | "ns" => some 1
  | "us" => some 1000
  | "µs" => some 1000
  | "μs" => some 1000
  | "ms" => some 1000000
  | "s" => some 1000000000
  | "m" => some 60000000000
  | "h" => some 3600000000000
  | _ => none

/-- Text in double quotes, with each byte of a control or non-ASCII character written
as `\xHH`. -/
def quoteText (s : String) : String :=
  let body := s.toList.map fun c =>
    if c.toNat < 0x20 || c.toNat ≥ 0x80 then
      String.join ((Bytes.encodeChar c).map fun b => "\\x" ++ Bytes.hexByte b)
    else if c = '"' || c = '\\' then String.ofList ['\\', c]
    else String.singleton c
  "\"" ++ String.join body ++ "\""

/-- The bound `2 ^ 63`. -/
def limit : Nat := Nat.pow 2 63

/-- The leading digits of a text as a number, or `none` when it passes `2 ^ 63`. -/
def leadingInt (cs : List Char) : Option Nat × List Char :=
  let ds := cs.takeWhile Char.isDigit
  let rest := cs.dropWhile Char.isDigit
  let v := ds.foldl (fun (acc : Option Nat) c => acc.bind fun x =>
    if x > limit / 10 then none
    else
      let y := x * 10 + (c.toNat - 48)
      if y > limit then none else some y) (some 0)
  (v, rest)

/-- The leading digits of a fraction: its value and scale, accumulating precision only
while it fits. -/
def leadingFraction (cs : List Char) : Nat × Float × List Char :=
  let ds := cs.takeWhile Char.isDigit
  let (x, scale, _) := ds.foldl (fun (x, scale, full) c =>
    if full then (x, scale, true)
    else if x > (limit - 1) / 10 then (x, scale, true)
    else
      let y := x * 10 + (c.toNat - 48)
      if y > limit then (x, scale, true) else (y, scale * 10, false)) (0, (1 : Float), false)
  (x, scale, cs.dropWhile Char.isDigit)

/-- Reads the numbers and units of a duration, adding them to `acc`. Fails with `true`
for a missing unit, with a unit for an unknown one, and with `false` otherwise. -/
def parseTerms (fuel : Nat) (cs : List Char) (acc : Nat) : Except (Option String) Nat :=
  match fuel with
  | 0 => .ok acc
  | fuel + 1 =>
    match cs with
    | [] => .ok acc
    | c :: _ =>
      if !(c = '.' || c.isDigit) then .error none
      else
        match leadingInt cs with
        | (none, _) => .error none
        | (some v, r1) =>
          let pre := r1.length != cs.length
          let (f, scale, r2, post) := match r1 with
            | '.' :: r =>
              let (f, scale, r') := leadingFraction r
              (f, scale, r', r'.length != r.length)
            | _ => (0, 1, r1, false)
          if !pre && !post then .error none
          else
            let u := r2.takeWhile (fun c => !(c = '.' || c.isDigit))
            let r3 := r2.dropWhile (fun c => !(c = '.' || c.isDigit))
            if u.isEmpty then .error (some "")
            else match unitNanos (String.ofList u) with
              | none => .error (some (String.ofList u))
              | some unit =>
                if v > limit / unit then .error none
                else
                  let v := v * unit
                  let v := if f > 0 then
                      v + (f.toFloat * (unit.toFloat / scale)).toUInt64.toNat else v
                  if v > limit then .error none
                  else if acc + v > limit then .error none
                  else parseTerms fuel r3 (acc + v)

/-- Reads a duration in nanoseconds, or gives the message of the failure. -/
def parse (s : String) : Except String Int :=
  let q := quoteText s
  let invalid : Except String Int := .error ("time: invalid duration " ++ q)
  let (neg, body) := match s.toList with
    | '-' :: r => (true, r)
    | '+' :: r => (false, r)
    | r => (false, r)
  if body = ['0'] then .ok 0
  else if body.isEmpty then invalid
  else
    match parseTerms (body.length + 1) body 0 with
    | .error none => invalid
    | .error (some "") => .error ("time: missing unit in duration " ++ q)
    | .error (some u) => .error ("time: unknown unit " ++ quoteText u ++ " in duration " ++ q)
    | .ok d =>
      if neg then .ok (-(d : Int))
      else if d > limit - 1 then invalid
      else .ok d

/-- The digits of `v / 10 ^ prec` after the point, trimmed, with the point, and the
integer part. -/
def fraction (v : Nat) (prec : Nat) : String × Nat :=
  let digits := (List.range prec).map fun i => (v / Nat.pow 10 i) % 10
  let kept := digits.dropWhile (· == 0)
  let text := if kept.isEmpty then "" else
    "." ++ String.ofList (kept.reverse.map fun d => Char.ofNat (48 + d))
  (text, v / Nat.pow 10 prec)

/-- The canonical text of a duration. -/
def toText (d : Int) : String :=
  let u := d.natAbs
  let sign := if d < 0 then "-" else ""
  if u = 0 then "0s"
  else if u < 1000000000 then
    let (prec, unit) :=
      if u < 1000 then (0, "ns") else if u < 1000000 then (3, "µs") else (6, "ms")
    let (frac, whole) := fraction u prec
    sign ++ toString whole ++ frac ++ unit
  else
    let (frac, secs) := fraction u 9
    let s := toString (secs % 60) ++ frac ++ "s"
    let mins := secs / 60
    if mins = 0 then sign ++ s
    else
      let m := toString (mins % 60) ++ "m" ++ s
      let hours := mins / 60
      if hours = 0 then sign ++ m else sign ++ toString hours ++ "h" ++ m

end Ledger.Duration
