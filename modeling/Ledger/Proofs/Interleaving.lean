import Mathlib
import Ledger.Engine.Service
/-!
# Interleaved calls of the transaction service

`createTransaction` as a machine of atomic steps over a shared store: a `Phase` says what a
call has read and decided, `Call.step` makes its next step, and a `System` of calls moves one
call or the clock at a time under an `Env`.
-/

namespace Ledger.Interleaving

open Service

/-- The settings the calls run under: the rate limit and the balance rules. -/
structure Setting where
  limit : RateLimit
  rules : Rules

/-- Whether calls lock their account: rate limiting is enabled and strict. -/
def Setting.strict (set : Setting) : Bool := set.limit.enabled && set.limit.strict

/-- What a call asks for: the account number, the amount and the type. -/
structure Request where
  number : Bytes
  amount : Decimal
  type : TxnType

/-- What a call returns: the stored record and the updated account, or a failure. -/
abbrev Outcome := Except Failure (Transaction × Account)

/-- Where a call stands between two of its atomic steps. -/
inductive Phase where
  /-- Nothing done yet. -/
  | start
  /-- The account was read; the call waits for its lock. -/
  | found (a : Account)
  /-- The lock is held; the account is read again next. -/
  | locked
  /-- The account as the rate check and the balance rules see it. -/
  | ready (a : Account)
  /-- The rate check passed. -/
  | allowed (a : Account)
  /-- The balance rules, applied at `checkedAt`, gave the new balance. -/
  | checked (a : Account) (balance : Decimal) (checkedAt : Instant)
  /-- The record was drafted under a fresh id and stamped. -/
  | drafted (a : Account) (balance : Decimal) (checkedAt : Instant) (draft : Transaction)
  /-- The record is stored; the new balance is stored next. -/
  | stored (a : Account) (balance : Decimal) (checkedAt : Instant) (txn : Transaction)
  /-- Storing the balance failed with `f`; the record is read back next. -/
  | compensating (id : Uuid) (f : Failure)
  /-- The record was read back at `version`; it is marked failed next. -/
  | marking (id : Uuid) (f : Failure) (version : Int)
  /-- The outcome is known; the lock is released next. -/
  | exiting (o : Outcome)
  /-- The call returned. -/
  | done (o : Outcome)

/-- A call: its request, its phase, and the account whose lock it holds. -/
structure Call where
  request : Request
  phase : Phase
  lock : Option Int

/-- What the calls share: the store, the clock and the count of identifiers issued. -/
structure Shared where
  store : Store
  clock : Instant
  issued : Nat

/-- A read of the store: it fails with the injected failure, if there is one. -/
def Shared.read (sh : Shared) (fault : Option Failure) (act : Store → Except Failure α) :
    Except Failure α :=
  match fault with
  | some f => .error f
  | none => act sh.store

/-- A write to the store: it fails with the injected failure, if there is one, and
otherwise runs the operation; a failed write leaves the store as it was. -/
def Shared.write (sh : Shared) (fault : Option Failure)
    (act : Store → Except Failure (Store × α)) : Except Failure (α × Shared) :=
  match fault with
  | some f => .error f
  | none => (act sh.store).map fun (s, a) => (a, { sh with store := s })

/-- The store operation the next step of a phase makes, if any. -/
def Phase.storeOp (set : Setting) : Phase → Option StoreOp
  | .start | .locked => some .findAccount
  | .ready _ => if set.limit.enabled then some .countSince else none
  | .drafted .. => some .createRecord
  | .stored .. => some .updateBalance
  | .compensating .. => some .findRecord
  | .marking .. => some .updateStatus
  | _ => none

/-- Whether a call is not running: not started, or returned. -/
def Phase.isIdle : Phase → Bool
  | .start | .done _ => true
  | _ => false

/-- The phase a call enters with its outcome: it still releases its lock, if it holds one. -/
def Call.finish (c : Call) (o : Outcome) : Call :=
  { c with phase := if c.lock.isSome then .exiting o else .done o }

/-- One atomic step of a call. `busy` tells which accounts' locks are held, and `fault` is
the failure injected into the step's store operation, if any. A call waiting for a held
lock stays as it is. -/
def Call.step (set : Setting) (busy : Int → Bool) (fault : Option Failure) (c : Call)
    (sh : Shared) : Call × Shared :=
  let r := c.request
  match c.phase with
  | .start =>
    match validate set.rules r.amount r.type with
    | .error f => ({ c with phase := .done (.error f) }, sh)
    | .ok () =>
      match sh.read fault (·.findByNumber r.number) with
      | .ok a => ({ c with phase := if set.strict then .found a else .ready a }, sh)
      | .error f => ({ c with phase := .done (.error (lookupFailure r.number f)) }, sh)
  | .found a =>
    if busy a.id then (c, sh) else ({ c with phase := .locked, lock := some a.id }, sh)
  | .locked =>
    match sh.read fault (·.findByNumber r.number) with
    | .ok a => ({ c with phase := .ready a }, sh)
    | .error f => (c.finish (.error (lookupFailure r.number f)), sh)
  | .ready a =>
    if !set.limit.enabled then ({ c with phase := .allowed a }, sh)
    else
      let since := sh.clock.addNanos (-rateWindow)
      match sh.read fault fun s => .ok (s.countSince a.id since) with
      | .ok n =>
        if (n : Int) < set.limit.maxPerMinute then ({ c with phase := .allowed a }, sh)
        else (c.finish (.error (rateFailure set.limit)), sh)
      | .error f => (c.finish (.error (countFailure f)), sh)
  | .allowed a =>
    match applyRules set.rules sh.clock a r.amount r.type with
    | .ok b => ({ c with phase := .checked a b sh.clock }, sh)
    | .error f => (c.finish (.error f), sh)
  | .checked a b at_ =>
    let draft := draftRecord (Uuid.ofSequence (sh.issued + 1)) a r.amount r.type sh.clock
    ({ c with phase := .drafted a b at_ draft }, { sh with issued := sh.issued + 1 })
  | .drafted a b at_ d =>
    match sh.write fault (·.createRecord d sh.clock) with
    | .ok (t, sh') => ({ c with phase := .stored a b at_ t }, sh')
    | .error f => (c.finish (.error (recordFailure f)), sh)
  | .stored a b _ t =>
    match sh.write fault (·.updateBalance a.id a.version b sh.clock) with
    | .ok ((v, changed), sh') =>
      (c.finish (.ok (t, { a with balance := b, version := v, lastModifiedAt := changed })), sh')
    | .error f => ({ c with phase := .compensating t.id f }, sh)
  | .compensating id f =>
    match sh.read fault (·.findRecord id) with
    | .ok t => ({ c with phase := .marking id f t.version }, sh)
    | .error _ => (c.finish (.error (updateFailure f)), sh)
  | .marking id f v =>
    match sh.write fault (·.updateStatus id .failed v sh.clock) with
    | .ok (_, sh') => (c.finish (.error (updateFailure f)), sh')
    | .error _ => (c.finish (.error (updateFailure f)), sh)
  | .exiting o => ({ c with phase := .done o, lock := none }, sh)
  | .done _ => (c, sh)

/-- Calls running together over one shared state. -/
structure System (n : Nat) where
  shared : Shared
  calls : Fin n → Call

/-- Whether some call holds the lock of an account. -/
def System.busy (sys : System n) (x : Int) : Bool := decide (∃ j, (sys.calls j).lock = some x)

/-- Call `i` makes its next step. -/
def System.advance (set : Setting) (sys : System n) (i : Fin n) (fault : Option Failure) :
    System n :=
  let r := (sys.calls i).step set sys.busy fault sys.shared
  ⟨r.2, Function.update sys.calls i r.1⟩

/-- The calls of a family, none started, over a shared state. -/
def System.start (sh : Shared) (reqs : Fin n → Request) : System n :=
  ⟨sh, fun i => ⟨reqs i, .start, none⟩⟩

/-- What the world around the calls may do: which store operations an injected failure
may hit, how the clock may move, and whether a call only steps while all others are idle. -/
structure Env where
  mayFail : StoreOp → Prop
  clockMoves : Instant → Instant → Prop
  serial : Prop

/-- One step of a system: a call makes its next step, possibly with a failure injected into
its store operation, or the clock moves. -/
inductive Step (set : Setting) (env : Env) {n : Nat} : System n → System n → Prop
  | call (sys : System n) (i : Fin n) (fault : Option Failure)
      (hfault : ∀ f ∈ fault, ∃ op, (sys.calls i).phase.storeOp set = some op ∧ env.mayFail op)
      (hturn : env.serial → ∀ j, j ≠ i → (sys.calls j).phase.isIdle) :
      Step set env sys (sys.advance set i fault)
  | tick (sys : System n) (t : Instant) (hmove : env.clockMoves sys.shared.clock t) :
      Step set env sys { sys with shared := { sys.shared with clock := t } }

/-- The systems a run can reach from a start. -/
def Reachable (set : Setting) (env : Env) (sys₀ sys : System n) : Prop :=
  Relation.ReflTransGen (Step set env) sys₀ sys

/-- The system after the calls of a schedule make one step each, in order, with no failure
injected. -/
def System.run (set : Setting) (sys : System n) (schedule : List (Fin n)) : System n :=
  schedule.foldl (fun sys i => sys.advance set i none) sys

/-- Where calls need not take turns, every schedule is a run. -/
theorem System.reachable_run (set : Setting) {env : Env} (hpar : ¬env.serial) (sys : System n)
    (schedule : List (Fin n)) : Reachable set env sys (sys.run set schedule) := by
  induction schedule generalizing sys with
  | nil => exact .refl
  | cons i rest ih =>
    have hstep : Step set env sys (sys.advance set i none) :=
      .call sys i none (fun f hf => by cases hf) fun hserial => absurd hserial hpar
    exact .head hstep (ih _)

end Ledger.Interleaving
