import Ledger.Mask
import Ledger.Json.Basic
import Ledger.Text.Case
import Ledger.Time.Instant
/-!
# Log lines

A logger writes its entries as JSON lines with sorted keys, renaming fields that would hide
its own. The message and every text field are scrubbed, and a value under a sensitive name
is masked whole.
-/

namespace Ledger.Log

/-- Severity levels, most severe first. -/
inductive Level where
  | panic
  | fatal
  | error
  | warning
  | info
  | debug
  | trace
  deriving DecidableEq, Repr, Inhabited

namespace Level

/-- The rank of a level: 0 for the most severe. -/
def rank : Level → Nat
  | panic => 0 | fatal => 1 | error => 2 | warning => 3 | info => 4 | debug => 5 | trace => 6

/-- The name written in log lines. -/
def name : Level → String
  | panic => "panic" | fatal => "fatal" | error => "error" | warning => "warning"
  | info => "info" | debug => "debug" | trace => "trace"

/-- Reads a level name in any letter case (Unicode lower case, so `İnfo` is `info`);
`warn` is `warning`. -/
def parse? (s : String) : Option Level :=
  match Text.lowerText s with
  | "panic" => some panic | "fatal" => some fatal | "error" => some error
  | "warn" | "warning" => some warning | "info" => some info | "debug" => some debug
  | "trace" => some trace
  | _ => none

/-- The level of a setting, `info` when the setting names none. -/
def ofSetting (s : String) : Level := (parse? s).getD info

end Level

/-- The value of a field. -/
inductive Value where
  /-- Text. -/
  | text (s : Bytes)
  /-- An error, known by its text. -/
  | failure (s : Bytes)
  /-- A value written as its textual form: an identifier, an amount. -/
  | shown (s : String)
  /-- An instant, written as its RFC 3339 text. One before year 0 or after year 9999
  has no such text, and an entry holding it cannot be written at all. -/
  | instant (t : Instant)
  | int (n : Int)
  | bool (b : Bool)
  deriving Repr, Inhabited

/-- A log entry. Later fields replace earlier ones of the same name. -/
structure Entry where
  level : Level
  message : Bytes
  fields : List (String × Value)
  deriving Repr, Inhabited

/-- An entry with a text message. -/
def Entry.make (level : Level) (message : String) (fields : List (String × Value)) : Entry :=
  ⟨level, Bytes.ofString message, fields⟩

/-- The field names whose values are always masked. -/
def sensitiveNames : List String := ["account_number", "transaction_id", "api_key", "signature"]

/-- The written form of a field value, masked as its name requires; none for an
instant that has no text. -/
def Value.render (name : String) : Value → Option Json
  | .text s => some (.str (if sensitiveNames.contains name then s.mask else s.scrub))
  | .failure s => some (.str (if name == "error" then s.scrub else s))
  | .shown s =>
    some (if sensitiveNames.contains name then .str (Bytes.ofString s).mask else .text s)
  | .instant t => t.jsonText?.map Json.text
  | .int n => some (.int n)
  | .bool b => some (.bool b)

/-- The fields with later duplicates winning, in first-seen order. -/
def dedupe (fs : List (String × Value)) : List (String × Value) :=
  fs.foldl (fun acc (k, v) =>
    if acc.any (·.1 == k) then acc.map (fun (k', v') => if k' == k then (k', v) else (k', v'))
    else acc ++ [(k, v)]) []

/-- Renames the fields that clash with the logger's own keys. -/
def renameClashes (fs : List (String × Json)) : List (String × Json) :=
  ["time", "msg", "level", "logrus_error"].foldl (fun acc key =>
    match acc.lookup key with
    | some v => (acc.filter (fun p => p.1 != key && p.1 != "fields." ++ key)) ++ [("fields." ++ key, v)]
    | none => acc) fs

/-- The line written for an entry, without the line end; none when a field cannot be
written, and then the entry leaves no line. -/
def Entry.line? (e : Entry) : Option String := do
  let fields ← (dedupe e.fields).mapM fun (k, v) => (v.render k).map (k, ·)
  let fields := renameClashes fields
  pure ((Json.dict (fields ++ [("msg", .str e.message.scrub), ("level", .text e.level.name)])).render true)

/-- Whether a logger at level `threshold` writes an entry at `level`. -/
def enabled (threshold level : Level) : Bool := level.rank ≤ threshold.rank

/-- The lines a logger at level `threshold` writes for the entries. -/
def lines (threshold : Level) (es : List Entry) : List String :=
  (es.filter (fun e => enabled threshold e.level)).filterMap Entry.line?

end Ledger.Log
