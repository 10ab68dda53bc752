import Ledger.Json.Read
import Ledger.Number.Decimal
/-!
# Binding JSON to records

Members are matched to fields by name, exactly or ignoring case, the later of two winning.
A value of the wrong kind leaves its field unset and is reported at the end; a failure of a
field's own reader stops the reading.
-/

namespace Ledger.Json

/-- A step of the path from the root to a value. -/
inductive PathStep where
  | field (name : String)
  | index (n : Nat)
  deriving Repr

/-- The text of a step. -/
def PathStep.text : PathStep → String
  | .field n => n
  | .index n => toString n

/-- A value of the wrong kind for its target. -/
structure Mismatch where
  found : String
  path : List PathStep
  target : String
  deriving Repr

/-- The message of a mismatch; `root` is the name of the record at the root, empty
when the root is a list. -/
def Mismatch.message (root : String) (m : Mismatch) : String :=
  let dotted := root ++ "." ++ ".".intercalate (m.path.map PathStep.text)
  match m.path.getLast? with
  | none => "json: cannot unmarshal " ++ m.found ++ " into Go value of type " ++ m.target
  | some (.field _) =>
    "json: cannot unmarshal " ++ m.found ++ " into Go struct field " ++ dotted ++ " of type " ++ m.target
  | some (.index _) =>
    "json: cannot unmarshal " ++ m.found ++ " into " ++ dotted ++ " of type " ++ m.target

/-- Whether a member key names a field, ignoring letter case. -/
def keyMatchesFolded (key : Bytes) (name : String) : Bool :=
  let ps := Bytes.pieces key
  ps.length == name.length &&
    (ps.zip name.toList).all fun (p, n) => match p with
      | .char c => c == n ||
          (n.isAlpha && (c.toLower == n.toLower || (n.toLower == 'k' && c.toNat == 0x212A) ||
            (n.toLower == 's' && c.toNat == 0x17F)))
      | .stray _ => false

/-- The field a member key names: an exact match first, else one ignoring case. -/
def fieldFor (names : List String) (key : Bytes) : Option String :=
  match names.find? (fun n => Bytes.ofString n == key) with
  | some n => some n
  | none => names.find? (keyMatchesFolded key)

/-- Reads a decimal from the literal text of a value, as the amount reader does: quotes
around the text are dropped, and a failure is reported with the text. -/
def decimalOfRaw (raw : Bytes) : Except String Decimal :=
  let inner := if raw.length > 2 && raw.head? == some 34 && raw.getLast? == some 34 then
      (raw.drop 1).dropLast else raw
  let text := Bytes.toText inner
  match Decimal.parse text with
  | .ok d => .ok d
  | .error e => .error ("error decoding string '" ++ text ++ "': " ++ e)

/-- Keeps the first mismatch. -/
def firstMismatch (saved : Option Mismatch) (m : Mismatch) : Option Mismatch :=
  saved.orElse fun _ => some m

end Ledger.Json
