import Ledger.Time.Duration
import Ledger.Number.Integer
import Ledger.Text.Bytes
import Ledger.Time.Zone
import Ledger.Text.Case
/-!
# Schedules

A schedule is a descriptor (`@daily`, `@every 5m`, ...) or five fields of comma-separated
ranges with steps, optionally after a time zone. Months and days may be named, and the first
bad range is reported.
-/

namespace Ledger.Schedule

/-- The bounds of a field and the names of its values. -/
structure Bounds where
  min : Nat
  max : Nat
  names : List (String × Nat) := []
  deriving Repr, Inhabited

/-- The fields of a schedule, seconds first. -/
def fieldBounds : List Bounds := [
  ⟨0, 59, []⟩, ⟨0, 59, []⟩, ⟨0, 23, []⟩, ⟨1, 31, []⟩,
  ⟨1, 12, [("jan", 1), ("feb", 2), ("mar", 3), ("apr", 4), ("may", 5), ("jun", 6), ("jul", 7),
    ("aug", 8), ("sep", 9), ("oct", 10), ("nov", 11), ("dec", 12)]⟩,
  ⟨0, 6, [("sun", 0), ("mon", 1), ("tue", 2), ("wed", 3), ("thu", 4), ("fri", 5), ("sat", 6)]⟩]

/-- Reads a count that may not be negative. -/
def readCount (expr : String) : Except String Nat :=
  match Number.parseIntText expr with
  | .error e => .error ("failed to parse int from " ++ expr ++ ": " ++ e)
  | .ok n => if n < 0 then .error ("negative number (" ++ toString n ++ ") not allowed: " ++ expr) else .ok n.toNat

/-- Reads a value by name or number. -/
def readValue (b : Bounds) (expr : String) : Except String Nat :=
  match b.names.lookup (Text.lowerText expr) with
  | some n => .ok n
  | none => readCount expr

/-- Checks one range of a field. -/
def checkRange (b : Bounds) (expr : String) : Except String Unit := do
  let rangeAndStep := expr.splitOn "/"
  let lowAndHigh := (rangeAndStep.headD "").splitOn "-"
  let single := lowAndHigh.length == 1
  let first := lowAndHigh.headD ""
  let (start, stop) ← if first == "*" || first == "?" then pure (b.min, b.max)
    else match lowAndHigh with
      | [low] => do let v ← readValue b low; pure (v, v)
      | [low, high] => do
        let s ← readValue b low
        let e ← readValue b high
        pure (s, e)
      | _ => do
        let _ ← readValue b first
        throw ("too many hyphens: " ++ expr)
  let (stop, step) ← match rangeAndStep with
    | [_] => pure (stop, 1)
    | [_, s] => do
      let step ← readCount s
      pure (if single then b.max else stop, step)
    | _ => throw ("too many slashes: " ++ expr)
  if start < b.min then
    throw ("beginning of range (" ++ toString start ++ ") below minimum (" ++ toString b.min ++ "): " ++ expr)
  if stop > b.max then
    throw ("end of range (" ++ toString stop ++ ") above maximum (" ++ toString b.max ++ "): " ++ expr)
  if start > stop then
    throw ("beginning of range (" ++ toString start ++ ") beyond end of range (" ++ toString stop ++ "): " ++ expr)
  if step == 0 then throw ("step of range should be a positive number: " ++ expr)

/-- Checks a field: each of its comma-separated ranges. -/
def checkField (b : Bounds) (field : String) : Except String Unit :=
  ((field.splitOn ",").filter (!·.isEmpty)).forM (checkRange b)

/-- The fields of a text split at blanks. -/
def words (s : String) : List String :=
  ((s.toList.splitBy fun a b => Text.isBlank a == Text.isBlank b).filter fun w =>
    !(w.all Text.isBlank)).map String.ofList

/-- Checks a descriptor. -/
def checkDescriptor (spec : String) : Except String Unit :=
  if ["@yearly", "@annually", "@monthly", "@weekly", "@daily", "@midnight", "@hourly"].contains spec then .ok ()
  else if spec.startsWith "@every " then
    match Duration.parse (spec.drop 7).toString with
    | .ok _ => .ok ()
    | .error e => .error ("failed to parse duration " ++ spec ++ ": " ++ e)
  else .error ("unrecognized descriptor: " ++ spec)

/-- Removes blanks from both ends of a text. -/
def trimBlanks (s : String) : String :=
  String.ofList ((s.toList.dropWhile Text.isBlank).reverse.dropWhile Text.isBlank).reverse

/-- Checks a schedule specification; the message says what is wrong with it. -/
def check (spec : String) : Except String Unit := do
  if spec.isEmpty then throw "empty spec string"
  let spec ← if spec.startsWith "TZ=" || spec.startsWith "CRON_TZ=" then
      let zone := (spec.toList.dropWhile (· != '=')).drop 1 |>.takeWhile (· != ' ')
      match Time.loadZone (String.ofList zone) with
      | .error e => throw ("provided bad location " ++ String.ofList zone ++ ": " ++ e)
      | .ok () => pure (trimBlanks (spec.dropWhile (· != ' ')).toString)
    else pure spec
  if spec.startsWith "@" then checkDescriptor spec
  else
    let fields := words spec
    if fields.length != 5 then
      throw ("expected exactly 5 fields, found " ++ toString fields.length ++ ": [" ++ " ".intercalate fields ++ "]")
    ("0" :: fields).zip fieldBounds |>.forM fun (f, b) => checkField b f

end Ledger.Schedule
