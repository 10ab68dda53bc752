import Ledger.Number.Binary64
import Ledger.Time.Instant
import Ledger.Uuid
import Ledger.Json.Basic
/-!
# Values of SQL rows

A value of a row is NULL, an integer, a binary64 number, a boolean, a text, bytes or a time,
each with its plain text. Reading one into a field converts it by the field's kind, and each
refusal has its message, built from the value's kind and text.
-/

namespace Ledger

/-- A value of a row, or bound to a statement. -/
inductive SqlValue where
  | null
  | int (n : Int)
  | float (x : Binary64)
  | bool (b : Bool)
  | text (s : String)
  | bytes (b : Bytes)
  /-- A time with the offset of its zone, in seconds east of UTC. -/
  | time (t : Instant) (offset : Int)
  deriving Repr, Inhabited

/-- Why a value does not fit a field. -/
inductive ScanError where
  /-- NULL in a field that needs a value; the field's kind is named. -/
  | nullInto (kind : String)
  /-- Plain text that is not an integer of the field's kind. -/
  | notInteger (v : SqlValue) (kind : String) (e : Number.NumberError)
  /-- A value of a kind the field never takes. -/
  | unsupported (v : SqlValue) (field : String)
  /-- A value that is neither a number nor text, in a decimal field. -/
  | notDecimalText (v : SqlValue)
  /-- Text in a decimal field that is not a decimal. -/
  | badDecimal (message : String)
  /-- Text in an identifier field that is not an identifier. -/
  | badUuid (e : Uuid.ParseError)
  /-- A value of another kind in an identifier field. -/
  | notUuid (v : SqlValue)
  deriving Repr

namespace SqlValue

/-- The name of a value's kind. -/
def kindName : SqlValue → String
  | null => "<nil>"
  | int _ => "int64"
  | float _ => "float64"
  | bool _ => "bool"
  | text _ => "string"
  | bytes _ => "[]uint8"
  | time _ _ => "time.Time"

/-- The plain text of a value; `<nil>` for NULL. -/
def plain : SqlValue → Bytes
  | null => Bytes.ofString "<nil>"
  | int n => Bytes.ofString (toString n)
  | float x => Bytes.ofString x.generalText
  | bool b => Bytes.ofString (if b then "true" else "false")
  | text s => Bytes.ofString s
  | bytes b => b
  | time t offset => Bytes.ofString (t.describe offset)

/-- The JSON form of a bound value: a time as `{"time": RFC 3339 in UTC}`. -/
def toJson : SqlValue → Json
  | null => .null
  | int n => .int n
  | float x => .number x.generalText
  | bool b => .bool b
  | text s => .text s
  | bytes b => .str b
  | time t _ => .obj [("time", .text t.toText)]

/-- An integer field of the named kind. -/
def toInteger (kind : String) : SqlValue → Except ScanError Int
  | int n => .ok n
  | null => .error (.nullInto kind)
  | v => match Number.parseInt64 (Bytes.toText v.plain) with
    | .ok n => .ok n
    | .error e => .error (.notInteger v kind e)

/-- A text field. -/
def toText : SqlValue → Except ScanError Bytes
  | null => .error (.nullInto "string")
  | time t offset => .ok (Bytes.ofString (t.zonedText offset))
  | v => .ok v.plain

/-- A time field. -/
def toTime : SqlValue → Except ScanError Instant
  | time t _ => .ok t
  | v => .error (.unsupported v "*time.Time")

/-- Decimal text without the double quotes around it, when it is longer than two bytes
and has them. -/
def unquote (b : Bytes) : Bytes :=
  if b.length > 2 && b.head? == some 34 && b.getLast? == some 34 then (b.drop 1).dropLast else b

/-- A decimal field. -/
def toDecimal : SqlValue → Except ScanError Decimal
  | int n => .ok (Decimal.ofInt n)
  | float x => .ok x.toDecimal
  | text s => readDecimal (Bytes.ofString s)
  | bytes b => readDecimal b
  | v => .error (.notDecimalText v)
where
  /-- Reads decimal text. -/
  readDecimal (b : Bytes) : Except ScanError Decimal :=
    match Decimal.parse (Bytes.toText (unquote b)) with
    | .ok d => .ok d
    | .error e => .error (.badDecimal e)

/-- An identifier field holding `current`. -/
def toUuid (current : Uuid) : SqlValue → Except ScanError Uuid
  | null => .ok current
  | text s => readText (Bytes.ofString s)
  | bytes b => if b.length == 16 then .ok (Uuid.ofBytes b) else readText b
  | v => .error (.notUuid v)
where
  /-- Reads an identifier from text. -/
  readText (b : Bytes) : Except ScanError Uuid :=
    if b.isEmpty then .ok current
    else match Uuid.parse b with
      | .ok u => .ok u
      | .error e => .error (.badUuid e)

end SqlValue

/-- The message of a refusal. -/
def ScanError.message : ScanError → Bytes
  | .nullInto kind => Bytes.ofString ("converting NULL to " ++ kind ++ " is unsupported")
  | .notInteger v kind e =>
    Bytes.ofString ("converting driver.Value type " ++ v.kindName ++ " (" ++ Text.quote v.plain ++
      ") to a " ++ kind ++ ": " ++
      (match e with | .malformed => "invalid syntax" | .outOfRange => "value out of range"))
  | .unsupported v field =>
    Bytes.ofString ("unsupported Scan, storing driver.Value type " ++ v.kindName ++ " into type " ++ field)
  | .notDecimalText v =>
    Bytes.ofString "could not convert value '" ++ v.plain ++
      Bytes.ofString ("' to byte array of type '" ++ v.kindName ++ "'")
  | .badDecimal m => Bytes.ofString m
  | .badUuid e => Bytes.ofString ("Scan: " ++ e.message)
  | .notUuid v => Bytes.ofString ("Scan: unable to scan type " ++ v.kindName ++ " into UUID")

end Ledger
