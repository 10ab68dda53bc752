import Ledger.Store.Memory
import Ledger.Store.Fault
import Ledger.Log
/-!
# The world the service runs in

The clock, the store, the fault plan, the identifiers issued, the log and the reconciler's
memory. Service code runs in `Engine`, a state monad over the world, and store calls go
through the fault plan first.
-/

namespace Ledger

/-- What the reconciler remembers between sweeps: when the last successful sweep ended,
and the records it has reported, with the change time they had then. -/
structure SweepMemory where
  lastRun : Option Instant := none
  reported : List (Uuid × Instant) := []
  deriving Repr, Inhabited

/-- The state of a running service. The journal holds the log entries, newest first. -/
structure World where
  clock : Instant
  store : Store := {}
  faults : List FaultRule := []
  issued : Nat := 0
  journal : List Log.Entry := []
  sweep : SweepMemory := {}
  deriving Repr, Inhabited

/-- A computation of the service. -/
abbrev Engine := StateM World

/-- A computation of the service that may fail. -/
abbrev Action := ExceptT Failure Engine

namespace Engine

/-- The current time. -/
def now : Engine Instant := do return (← get).clock

/-- A new identifier: the identifiers are issued in sequence. -/
def freshId : Engine Uuid :=
  modifyGet fun w => (Uuid.ofSequence (w.issued + 1), { w with issued := w.issued + 1 })

/-- Writes a log entry. -/
def emit (e : Log.Entry) : Engine Unit := modify fun w => { w with journal := e :: w.journal }

/-- Calls the store through the fault plan. -/
def storeCall (op : StoreOp) (act : Store → Except Failure (Store × α)) : Engine (Except Failure α) := do
  let w ← get
  let (rules, fault) := checkFaults op w.faults
  set { w with faults := rules }
  match fault with
  | some f => return .error f
  | none =>
    match act w.store with
    | .ok (s, a) => do
      modify fun w => { w with store := s }
      return .ok a
    | .error f => return .error f

/-- Reads the store through the fault plan. -/
def storeRead (op : StoreOp) (act : Store → Except Failure α) : Engine (Except Failure α) :=
  storeCall op fun s => (act s).map (s, ·)

end Engine
end Ledger
