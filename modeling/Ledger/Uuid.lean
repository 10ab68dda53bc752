import Ledger.Text.Quoted
/-!
# Identifiers

128-bit UUIDs, written as 32 lowercase hex digits grouped 8-4-4-4-12 and read in several
forms. The n-th identifier drawn is `00000000-0000-4000-8000-` followed by `n` in hex.
-/

namespace Ledger

/-- A 128-bit identifier. -/
structure Uuid where
  value : Nat
  deriving DecidableEq, Repr, Inhabited, Hashable

namespace Uuid

/-- The all-zero identifier, meaning "unset". -/
def nil : Uuid := ⟨0⟩

/-- The 32 lowercase hex digits. -/
def hexDigits (u : Uuid) : List Char :=
  (List.range 32).reverse.map fun i => Bytes.hexDigit ((u.value / Nat.pow 16 i) % 16)

/-- The canonical text, `xxxxxxxx-xxxx-xxxx-xxxx-xxxxxxxxxxxx`. -/
def toText (u : Uuid) : String :=
  let ds := u.hexDigits
  String.ofList (ds.take 8) ++ "-" ++ String.ofList ((ds.drop 8).take 4) ++ "-" ++
    String.ofList ((ds.drop 12).take 4) ++ "-" ++ String.ofList ((ds.drop 16).take 4) ++ "-" ++
    String.ofList (ds.drop 20)

/-- The identifier of sixteen bytes, most significant first. -/
def ofBytes (bs : Bytes) : Uuid := ⟨bs.foldl (fun acc b => acc * 256 + b.toNat) 0⟩

/-- The value of a hex digit byte. -/
def hexValue (b : UInt8) : Option Nat :=
  let n := b.toNat
  if 48 ≤ n && n ≤ 57 then some (n - 48)
  else if 97 ≤ n && n ≤ 102 then some (n - 87)
  else if 65 ≤ n && n ≤ 70 then some (n - 55)
  else none

/-- The value of a run of hex digit bytes. -/
def hexRun (bs : Bytes) : Option Nat :=
  bs.foldl (fun acc b => acc.bind fun a => (hexValue b).map (a * 16 + ·)) (some 0)

/-- Why a text is not an identifier. -/
inductive ParseError where
  | length (n : Nat)
  | format
  | urnPrefix (p : Bytes)
  deriving Repr

/-- The message of a failed reading. -/
def ParseError.message : ParseError → String
  | .length n => "invalid UUID length: " ++ toString n
  | .format => "invalid UUID format"
  | .urnPrefix p => "invalid urn prefix: " ++ Text.quote p

/-- Reads the dashed form, which must be exactly 36 bytes. -/
def parseDashed (bs : Bytes) : Except ParseError Uuid :=
  if bs[8]? != some 45 || bs[13]? != some 45 || bs[18]? != some 45 || bs[23]? != some 45 then
    .error .format
  else
    let digits := bs.take 8 ++ (bs.drop 9).take 4 ++ (bs.drop 14).take 4 ++
      (bs.drop 19).take 4 ++ (bs.drop 24).take 12
    match hexRun digits with
    | some v => .ok ⟨v⟩
    | none => .error .format

/-- Whether two byte strings are equal ignoring ASCII letter case. -/
def sameFolded (a b : Bytes) : Bool :=
  let lower (x : UInt8) : UInt8 := if 65 ≤ x && x ≤ 90 then x + 32 else x
  a.map lower == b.map lower

/-- Reads an identifier in any of its accepted forms. -/
def parse (bs : Bytes) : Except ParseError Uuid :=
  match bs.length with
  | 36 => parseDashed bs
  | 45 =>
    if sameFolded (bs.take 9) (Bytes.ofString "urn:uuid:") then parseDashed (bs.drop 9)
    else .error (.urnPrefix (bs.take 9))
  | 38 => parseDashed ((bs.drop 1).take 36)
  | 32 =>
    match hexRun bs with
    | some v => .ok ⟨v⟩
    | none => .error .format
  | n => .error (.length n)

/-- The n-th identifier of the sequence. -/
def ofSequence (n : Nat) : Uuid := ⟨0x4000 * Nat.pow 2 64 + 0x8000 * Nat.pow 2 48 + n % Nat.pow 2 48⟩

end Uuid
end Ledger
