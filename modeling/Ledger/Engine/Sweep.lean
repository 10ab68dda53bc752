import Ledger.Engine.World
/-!
# Sweeping for failed transactions

A sweep reports each record that moved to `FAILED` once, looking back a settle margin before
the previous successful sweep. A failed delivery fails the sweep, which then does not
advance.
-/

namespace Ledger.Sweep

open Engine

/-- The settle margin: one minute in nanoseconds. -/
def settleMargin : Int := 60 * 1000000000

/-- What a sweep hands to the notifier: the records and the window they were found in. -/
structure Delivery where
  records : List Transaction
  since : Instant
  upTo : Instant
  deriving Repr, Inhabited

/-- The outcome of a sweep: how many records it found, why it failed if it did, and
what it delivered. -/
structure Outcome where
  found : Nat
  failure : Option Failure
  delivered : Option Delivery
  deriving Repr, Inhabited

/-- A notifier: given a delivery, it answers with a failure or with nothing. -/
abbrev Notifier := Delivery → Option Failure

/-- The log entry of a record left failed. -/
def leftFailed (t : Transaction) : Log.Entry :=
  .make .warning "Transaction left in FAILED status" [
    ("transaction_id", .text (Bytes.ofString t.id.toText)), ("account_number", .text t.accountNumber),
    ("type", .text (Bytes.ofString t.type.text)), ("amount", .text (Bytes.ofString t.amount.toText)),
    ("created_at", .instant t.timestamp), ("failed_at", .instant t.lastModifiedAt)]

/-- Where a sweep ending at `upTo` starts: a settle margin before the last sweep's end,
or a lookback before `upTo` when there was none. A last sweep that ended at the unset
instant (the first moment of year 1) counts as none, since that is how "unset" reads. -/
def windowStart (memory : SweepMemory) (lookback : Int) (upTo : Instant) : Instant :=
  match memory.lastRun with
  | some t => if t.isZero then upTo.addNanos (-lookback) else t.addNanos (-settleMargin)
  | none => upTo.addNanos (-lookback)

/-- The records of a listing that are new to the reporter and changed before `upTo`. -/
def fresh (memory : SweepMemory) (upTo : Instant) (found : List Transaction) : List Transaction :=
  found.filter fun t => !(memory.reported.any (·.1 == t.id)) && t.lastModifiedAt < upTo

/-- The memory after a successful sweep that reported `failed`. -/
def remember (memory : SweepMemory) (upTo : Instant) (failed : List Transaction) : SweepMemory :=
  let reported := memory.reported ++ failed.map fun t => (t.id, t.lastModifiedAt)
  { lastRun := some upTo
    reported := reported.filter fun (_, changed) => !(changed < upTo.addNanos (-settleMargin)) }

/-- Runs one sweep. -/
def run (lookback : Int) (notifier : Option Notifier) : Engine Outcome := do
  let upTo ← now
  let memory := (← get).sweep
  let since := windowStart memory lookback upTo
  match ← storeRead .listByStatus (fun s => .ok (s.listByStatus .failed since)) with
  | .error f => return ⟨0, some (.note "failed to list failed transactions" f), none⟩
  | .ok found =>
    let failed := fresh memory upTo found
    for t in failed do emit (leftFailed t)
    let delivery : Delivery := ⟨failed, since, upTo⟩
    let delivered := if failed.isEmpty then none else notifier.map fun _ => delivery
    match notifier.bind fun n => if failed.isEmpty then none else n delivery with
    | some f => return ⟨failed.length, some (.note "failed to send report" f), delivered⟩
    | none =>
      emit (.make .info "Reconciliation finished" [("since", .instant since),
        ("until", .instant upTo), ("failed", .int failed.length)])
      modify fun w => { w with sweep := remember memory upTo failed }
      return ⟨failed.length, none, delivered⟩

end Ledger.Sweep
