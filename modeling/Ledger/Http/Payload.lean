import Ledger.Json.Bind
import Ledger.Failure
import Ledger.Transaction
import Ledger.Text.Bytes
/-!
# The transaction request body

A JSON object with `accountNumber`, `transactionType` and `amount`, read from the body's
first value. Checking collects the missing or bad fields into one message, but an unknown
type is refused on its own.
-/

namespace Ledger.Http

open Json

/-- A request to make a transaction, as read from its body. -/
structure TxnRequest where
  accountNumber : Bytes := []
  transactionType : String := ""
  amount : Option Decimal := none
  deriving Repr, Inhabited

namespace TxnRequest

/-- The name of the request record in messages. -/
def recordName : String := "transactionRequest"

/-- The member names of a request. -/
def memberNames : List String := ["accountNumber", "transactionType", "amount"]

/-- Reads one member into a request, keeping the first failure met. -/
def readMember (src : Array UInt8) (acc : TxnRequest × Option String) (member : Bytes × Node) :
    TxnRequest × Option String :=
  let (r, first) := acc
  let (key, v) := member
  let note (e : String) := (r, first.orElse fun _ => some e)
  let mismatch (name target : String) :=
    note (Mismatch.message recordName ⟨v.kindWord, [.field name], target⟩)
  match fieldFor memberNames key, v with
  | some "accountNumber", .str s .. => ({ r with accountNumber := s }, first)
  | some "transactionType", .str s .. => ({ r with transactionType := Bytes.toText s }, first)
  | some "amount", .null .. => ({ r with amount := none }, first)
  | some "amount", _ =>
    match decimalOfRaw (rawText src v) with
    | .ok d => ({ r with amount := some d }, first)
    | .error e => note e
  | some _, .null .. => (r, first)
  | some "accountNumber", _ => mismatch "accountNumber" "string"
  | some "transactionType", _ => mismatch "transactionType" "string"
  | _, _ => (r, first)

/-- Reads a request from a body. -/
def read (body : Bytes) : Except String TxnRequest := do
  let src := body.toArray
  let root ← parseStream src
  match root with
  | .null .. => pure {}
  | .obj members .. =>
    match members.foldl (readMember src) ({}, none) with
    | (_, some e) => throw e
    | (r, none) => pure r
  | n => throw (Mismatch.message "" ⟨n.kindWord, [], "handler.transactionRequest"⟩)

/-- The public message of a request whose body cannot be read. -/
def unreadableMessage : String := "Reading rest payload failed. Check logs for more details."

/-- The public message of a request with missing or bad fields. -/
def invalidMessage : String := "Schema validation failures on http rest payload. Check logs for more details."

/-- Checks a request against the largest amount; gives the transaction type. -/
def check (maxAmount : Decimal) (r : TxnRequest) : Except Failure TxnType := do
  let p1 := if (Bytes.trimBlank r.accountNumber).isEmpty then ["accountNumber is required"] else []
  let type := TxnType.ofText r.transactionType
  let p2 := if r.transactionType.isEmpty then ["transactionType is required"] else []
  if !r.transactionType.isEmpty && !type.isValid then
    throw (.wrap .malformedJson (.ofString ("unknown transactionType " ++ Text.quoteString r.transactionType))
      unreadableMessage)
  let p3 := match r.amount with
    | none => ["amount is required"]
    | some a =>
      if !a.isPositive then ["amount must be greater than 0"]
      else if !validScale a then ["amount must have at most " ++ toString amountScale ++ " decimal places"]
      else if a.gt maxAmount then ["amount must not exceed " ++ maxAmount.toText]
      else []
  let problems := p1 ++ p2 ++ p3
  if !problems.isEmpty then
    throw (.wrap .validation (.ofString ("; ".intercalate problems)) invalidMessage)
  pure type

end TxnRequest
end Ledger.Http
