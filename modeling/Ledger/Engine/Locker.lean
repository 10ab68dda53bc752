/-!
# The per-account locker

The locker hands out one mutex per account and keeps it in its table while some caller uses
it. Taking the lock is two atomic steps (`enter`, `acquire`) and giving it back two more
(`unlock`, `leave`); an entry made again for an account is a new cell.
-/

namespace Ledger

/-- An entry of the locker: whether its mutex is held, and how many callers took the entry
and have not given it back. -/
structure LockCell where
  held : Bool := false
  refs : Int := 0
  deriving Repr, DecidableEq, Inhabited

/-- The locker: its table from account ids to the addresses of their cells, the heap of
cells, and the next address never used. -/
structure Locker where
  table : Int → Option Nat := fun _ => none
  cells : Nat → LockCell := fun _ => {}
  next : Nat := 0

namespace Locker

/-- The heap with the cell at address `p` replaced. -/
def setCell (l : Locker) (p : Nat) (c : LockCell) : Locker :=
  { l with cells := fun q => if q = p then c else l.cells q }

/-- The table with the entry of account `id` replaced. -/
def setEntry (l : Locker) (id : Int) (e : Option Nat) : Locker :=
  { l with table := fun x => if x = id then e else l.table x }

/-- The entry of an account: the one in the table, or else a new cell at a fresh address,
entered in the table. Gives the entry's address. -/
def entry (l : Locker) (id : Int) : Nat × Locker :=
  match l.table id with
  | some p => (p, l)
  | none => (l.next, { (l.setEntry id (some l.next)).setCell l.next {} with next := l.next + 1 })

/-- The section under the locker's mutex that takes an entry: the account's entry, with its
count raised. Gives the entry's address. -/
def enter (l : Locker) (id : Int) : Nat × Locker :=
  let (p, l) := l.entry id
  (p, l.setCell p { l.cells p with refs := (l.cells p).refs + 1 })

/-- Acquiring the mutex of a cell; there is no such step while another caller holds it. -/
def acquire (l : Locker) (p : Nat) : Option Locker :=
  if (l.cells p).held then none else some (l.setCell p { l.cells p with held := true })

/-- Releasing the mutex of a cell. -/
def unlock (l : Locker) (p : Nat) : Locker := l.setCell p { l.cells p with held := false }

/-- The section under the locker's mutex that gives an entry back: the cell's count lowered,
and the account's entry removed when the count reaches zero. -/
def leave (l : Locker) (id : Int) (p : Nat) : Locker :=
  let refs := (l.cells p).refs - 1
  let l := l.setCell p { l.cells p with refs := refs }
  if refs = 0 then l.setEntry id none else l

end Locker
end Ledger
