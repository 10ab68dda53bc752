import Ledger.Failure
/-!
# Injected store failures

A fault plan makes chosen store operations fail: each rule names an operation and a failure,
lets `skip` calls through and fires `times` times. Rules are checked in order; a call that
fires fails without reaching the store.
-/

namespace Ledger

/-- The store operations a fault can target. -/
inductive StoreOp where
  | findAccount
  | createAccount
  | updateBalance
  | ping
  | createRecord
  | findRecord
  | updateStatus
  | countSince
  | listByAccount
  | listByStatus
  deriving DecidableEq, Repr, Inhabited

/-- The operation with the given name. -/
def StoreOp.ofName? : String → Option StoreOp
  | "find_account" => some .findAccount
  | "create_account" => some .createAccount
  | "update_balance" => some .updateBalance
  | "ping" => some .ping
  | "create_txn" => some .createRecord
  | "find_txn" => some .findRecord
  | "update_status" => some .updateStatus
  | "count_since" => some .countSince
  | "list_by_account" => some .listByAccount
  | "list_by_status" => some .listByStatus
  | _ => none

/-- The failure a fault returns: one of the store refusals named `not_found`,
`version_conflict` and `invalid_transition`, or any other text. -/
def faultFailure : String → Failure
  | "not_found" => .refused .notFound
  | "version_conflict" => .refused .versionConflict
  | "invalid_transition" => .refused .invalidTransition
  | s => .ofString s

/-- A fault rule. A rule that names no operation is kept but never fires. -/
structure FaultRule where
  op : Option StoreOp
  failure : Failure
  skip : Int
  times : Option Int
  deriving Repr, Inhabited

/-- Checks the rules on a call of `op`: the rules after the call, and the failure if
one fired. -/
def checkFaults (op : StoreOp) : List FaultRule → List FaultRule × Option Failure
  | [] => ([], none)
  | r :: rs =>
    if r.op != some op then
      let (rs', f) := checkFaults op rs
      (r :: rs', f)
    else if r.skip > 0 then
      let (rs', f) := checkFaults op rs
      ({ r with skip := r.skip - 1 } :: rs', f)
    else if r.times == some 0 then
      let (rs', f) := checkFaults op rs
      (r :: rs', f)
    else ({ r with times := r.times.map (· - 1) } :: rs, some r.failure)

end Ledger
