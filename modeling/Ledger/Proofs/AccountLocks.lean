import Mathlib
import Ledger.Engine.Locker
/-!
# The per-account locker excludes and counts

Callers of the locker interleave its four atomic steps in any order. In every reachable state
each entry counts the callers of its account and at most one caller holds an account's lock,
even across the removal and re-creation of its entry (`locker_excludes_and_counts`).
-/

namespace Ledger.Locker

/-! ## The heap and the table -/

@[simp]
theorem setCell_cells (l : Locker) (p : Nat) (c : LockCell) (q : Nat) :
    (l.setCell p c).cells q = if q = p then c else l.cells q := rfl

@[simp]
theorem setCell_table (l : Locker) (p : Nat) (c : LockCell) : (l.setCell p c).table = l.table :=
  rfl

@[simp]
theorem setCell_next (l : Locker) (p : Nat) (c : LockCell) : (l.setCell p c).next = l.next := rfl

@[simp]
theorem setEntry_table (l : Locker) (id : Int) (e : Option Nat) (x : Int) :
    (l.setEntry id e).table x = if x = id then e else l.table x := rfl

@[simp]
theorem setEntry_cells (l : Locker) (id : Int) (e : Option Nat) :
    (l.setEntry id e).cells = l.cells := rfl

@[simp]
theorem setEntry_next (l : Locker) (id : Int) (e : Option Nat) : (l.setEntry id e).next = l.next :=
  rfl

/-- Taking an entry the table has raises its count. -/
theorem enter_of_some {l : Locker} {id : Int} {p : Nat} (h : l.table id = some p) :
    l.enter id = (p, l.setCell p { l.cells p with refs := (l.cells p).refs + 1 }) := by
  simp [enter, entry, h]

/-- Taking an entry the table lacks enters a fresh cell, counted once, at the next address. -/
theorem enter_of_none {l : Locker} {id : Int} (h : l.table id = none) :
    (l.enter id).1 = l.next ∧
      (∀ x, (l.enter id).2.table x = if x = id then some l.next else l.table x) ∧
      (∀ q, (l.enter id).2.cells q = if q = l.next then { refs := 1 } else l.cells q) ∧
      (l.enter id).2.next = l.next + 1 := by
  refine ⟨by simp [enter, entry, h], fun x => ?_, fun q => ?_, by simp [enter, entry, h]⟩
  · simp [enter, entry, h]
  · by_cases hq : q = l.next <;> simp [enter, entry, h, hq]

/-- Acquiring succeeds exactly on a free mutex, and marks it held. -/
theorem acquire_eq_some {l l' : Locker} {p : Nat} :
    l.acquire p = some l' ↔
      (l.cells p).held = false ∧ l' = l.setCell p { l.cells p with held := true } := by
  unfold acquire
  cases h : (l.cells p).held <;> simp [eq_comm]

theorem leave_cells (l : Locker) (id : Int) (p q : Nat) :
    (l.leave id p).cells q =
      if q = p then { l.cells p with refs := (l.cells p).refs - 1 } else l.cells q := by
  by_cases hzero : (l.cells p).refs - 1 = 0 <;> simp [leave, hzero]

theorem leave_table (l : Locker) (id : Int) (p : Nat) (x : Int) :
    (l.leave id p).table x =
      if (l.cells p).refs - 1 = 0 ∧ x = id then none else l.table x := by
  by_cases hzero : (l.cells p).refs - 1 = 0 <;> by_cases hx : x = id <;> simp [leave, hzero, hx]

@[simp]
theorem unlock_table (l : Locker) (p : Nat) : (l.unlock p).table = l.table := rfl

@[simp]
theorem unlock_cells (l : Locker) (p q : Nat) :
    (l.unlock p).cells q = if q = p then { l.cells p with held := false } else l.cells q := rfl

@[simp]
theorem unlock_next (l : Locker) (p : Nat) : (l.unlock p).next = l.next := rfl

@[simp]
theorem leave_next (l : Locker) (id : Int) (p : Nat) : (l.leave id p).next = l.next := by
  by_cases hzero : (l.cells p).refs - 1 = 0 <;> simp [leave, hzero]

/-! ## Callers -/

/-- Where a caller of the locker stands. -/
inductive Stage where
  /-- It has not called for the lock yet. -/
  | idle
  /-- It raised the count of the cell at `p` and waits for the cell's mutex. -/
  | waiting (p : Nat)
  /-- It holds the mutex of the cell at `p`: taking the lock returned. -/
  | holding (p : Nat)
  /-- It released the mutex; it gives the entry back next. -/
  | releasing (p : Nat)
  /-- Giving the lock back returned. -/
  | done
  deriving DecidableEq, Repr

/-- The cell a caller counts itself in, from raising its count until lowering it. -/
def Stage.cell : Stage → Option Nat
  | waiting p | holding p | releasing p => some p
  | idle | done => none

/-- A caller: the account whose lock it takes, and where it stands. -/
structure Caller where
  account : Int
  stage : Stage

/-- Callers over one locker. -/
structure Contention (n : Nat) where
  locker : Locker
  callers : Fin n → Caller

namespace Contention

variable {n : Nat}

/-- The empty locker, with the callers on their accounts, none started. -/
def start (accounts : Fin n → Int) : Contention n := ⟨{}, fun i => ⟨accounts i, .idle⟩⟩

/-- Caller `i` moves to `stage`, and the locker becomes `l`. -/
def move (sys : Contention n) (i : Fin n) (l : Locker) (stage : Stage) : Contention n :=
  ⟨l, Function.update sys.callers i { sys.callers i with stage := stage }⟩

/-- The next step of caller `i`, when it can make one: it waits while the mutex it wants is
held, and makes no step once giving the lock back returned. -/
def advance (sys : Contention n) (i : Fin n) : Option (Contention n) :=
  let c := sys.callers i
  match c.stage with
  | .idle =>
    let r := sys.locker.enter c.account
    some (sys.move i r.2 (.waiting r.1))
  | .waiting p => (sys.locker.acquire p).map fun l => sys.move i l (.holding p)
  | .holding p => some (sys.move i (sys.locker.unlock p) (.releasing p))
  | .releasing p => some (sys.move i (sys.locker.leave c.account p) .done)
  | .done => none

/-- Some caller makes its next step. -/
def Step (sys sys' : Contention n) : Prop := ∃ i, sys.advance i = some sys'

/-- The states some interleaving of the callers' steps reaches from the start. -/
def Reachable (accounts : Fin n → Int) (sys : Contention n) : Prop :=
  Relation.ReflTransGen Step (start accounts) sys

/-- The callers of account `x` that have raised their count and not yet lowered it. -/
def users (sys : Contention n) (x : Int) : Finset (Fin n) :=
  Finset.univ.filter fun i => (sys.callers i).account = x ∧ (sys.callers i).stage.cell.isSome

/-- Caller `i` holds the lock of account `x`. -/
def Holds (sys : Contention n) (i : Fin n) (x : Int) : Prop :=
  (sys.callers i).account = x ∧ ∃ p, (sys.callers i).stage = .holding p

/-- The state after the callers of a schedule try one step each, in order; a caller that
cannot move is passed over. -/
def run (sys : Contention n) : List (Fin n) → Contention n
  | [] => sys
  | i :: rest => ((sys.advance i).getD sys).run rest

theorem reachable_run {accounts : Fin n → Int} {sys : Contention n}
    (h : Reachable accounts sys) (schedule : List (Fin n)) :
    Reachable accounts (sys.run schedule) := by
  induction schedule generalizing sys with
  | nil => exact h
  | cons i rest ih =>
    cases hstep : sys.advance i with
    | none => simpa [run, hstep] using ih h
    | some sys' => simpa [run, hstep] using ih (h.tail ⟨i, hstep⟩)

/-! ## Moving one caller -/

section Move

variable (sys : Contention n) (i : Fin n) (l : Locker) (s : Stage)

@[simp]
theorem move_locker : (sys.move i l s).locker = l := rfl

@[simp]
theorem move_self : (sys.move i l s).callers i = { sys.callers i with stage := s } := by
  simp [move]

@[simp]
theorem move_of_ne {j : Fin n} (h : j ≠ i) : (sys.move i l s).callers j = sys.callers j := by
  simp [move, h]

theorem stage_move (j : Fin n) :
    ((sys.move i l s).callers j).stage = if j = i then s else (sys.callers j).stage := by
  by_cases hj : j = i
  · subst hj
    simp
  · simp [hj]

/-- Some caller holds a mutex after the move when the mover does, or another caller did. -/
theorem exists_holding_move (q : Nat) :
    (∃ j, ((sys.move i l s).callers j).stage = .holding q) ↔
      s = .holding q ∨ ∃ j, j ≠ i ∧ (sys.callers j).stage = .holding q := by
  constructor
  · rintro ⟨j, hj⟩
    by_cases hji : j = i
    · subst hji
      exact .inl (by simpa using hj)
    · exact .inr ⟨j, hji, by simpa [hji] using hj⟩
  · rintro (hs | ⟨j, hji, hj⟩)
    · exact ⟨i, by simpa using hs⟩
    · exact ⟨j, by simpa [hji] using hj⟩

theorem mem_users {x : Int} {j : Fin n} :
    j ∈ sys.users x ↔ (sys.callers j).account = x ∧ (sys.callers j).stage.cell.isSome := by
  simp [users]

/-- A move between two stages that both count the caller keeps every account's callers. -/
theorem users_move_of_counted (hold : (sys.callers i).stage.cell.isSome)
    (hnew : s.cell.isSome) : (sys.move i l s).users = sys.users := by
  funext x
  ext j
  by_cases hj : j = i
  · subst hj
    simp [mem_users, hold, hnew]
  · simp [mem_users, hj]

/-- Raising the count adds the caller to its account's callers. -/
theorem users_move_enter (hold : (sys.callers i).stage.cell = none) (hnew : s.cell.isSome)
    (x : Int) :
    (sys.move i l s).users x =
      if (sys.callers i).account = x then insert i (sys.users x) else sys.users x := by
  ext j
  by_cases hj : j = i
  · subst hj
    by_cases hx : (sys.callers j).account = x <;> simp [mem_users, hold, hnew, hx]
  · by_cases hx : (sys.callers i).account = x <;> simp [mem_users, hj, hx]

/-- Lowering the count removes the caller from its account's callers. -/
theorem users_move_leave (hnew : s.cell = none) (x : Int) :
    (sys.move i l s).users x = (sys.users x).erase i := by
  ext j
  by_cases hj : j = i
  · subst hj
    simp [mem_users, hnew]
  · simp [mem_users, hj]

/-- A move between two stages that hold no mutex keeps who holds each mutex. -/
theorem holding_move_iff (hold : ∀ p, (sys.callers i).stage ≠ .holding p)
    (hnew : ∀ p, s ≠ .holding p) (j : Fin n) (q : Nat) :
    ((sys.move i l s).callers j).stage = .holding q ↔ (sys.callers j).stage = .holding q := by
  by_cases hj : j = i
  · subst hj
    simp only [move_self]
    exact ⟨fun h => absurd h (hnew q), fun h => absurd h (hold q)⟩
  · simp [hj]

end Move

/-! ## The invariant -/

/-- What every reachable state of the callers and the locker satisfies. -/
structure Sound (sys : Contention n) : Prop where
  /-- A counted caller finds its own cell entered for its account. -/
  entered : ∀ i p, (sys.callers i).stage.cell = some p →
    sys.locker.table (sys.callers i).account = some p
  /-- Distinct accounts have distinct cells. -/
  distinct : ∀ x y p, sys.locker.table x = some p → sys.locker.table y = some p → x = y
  /-- An entry's count is the number of its account's counted callers, and is positive. -/
  counted : ∀ x p, sys.locker.table x = some p →
    (sys.locker.cells p).refs = (sys.users x).card ∧ 0 < (sys.users x).card
  /-- A cell's mutex is held exactly when a caller holds it. -/
  held : ∀ p, (sys.locker.cells p).held = true ↔ ∃ i, (sys.callers i).stage = .holding p
  /-- One caller at most holds a cell's mutex. -/
  single : ∀ i j p, (sys.callers i).stage = .holding p → (sys.callers j).stage = .holding p →
    i = j
  /-- Every entered cell lies below the next address. -/
  below : ∀ x p, sys.locker.table x = some p → p < sys.locker.next

variable {sys : Contention n}

theorem Sound.start (accounts : Fin n → Int) : Sound (start accounts) where
  entered i p h := by simp [Contention.start, Stage.cell] at h
  distinct x y p h := by simp [Contention.start] at h
  counted x p h := by simp [Contention.start] at h
  held p := by simp [Contention.start]
  single i j p h := by simp [Contention.start] at h
  below x p h := by simp [Contention.start] at h

/-- Raising the count of an entry the table has. -/
theorem Sound.enter_some (hs : Sound sys) {i : Fin n} (hi : (sys.callers i).stage = .idle)
    {p : Nat} (hp : sys.locker.table (sys.callers i).account = some p) :
    Sound (sys.move i (sys.locker.setCell p
      { sys.locker.cells p with refs := (sys.locker.cells p).refs + 1 }) (.waiting p)) := by
  have hnot : i ∉ sys.users (sys.callers i).account := by simp [mem_users, hi, Stage.cell]
  have hholds := holding_move_iff sys i (sys.locker.setCell p
    { sys.locker.cells p with refs := (sys.locker.cells p).refs + 1 }) (.waiting p)
    (by simp [hi]) (by simp)
  constructor
  · intro j q hq
    by_cases hj : j = i
    · subst hj
      simp only [move_self, Stage.cell, Option.some.injEq] at hq
      simpa [hq] using hp
    · simp only [move_of_ne _ _ _ _ hj] at hq ⊢
      simpa using hs.entered j q hq
  · intro y z q hy hz
    exact hs.distinct y z q (by simpa using hy) (by simpa using hz)
  · intro y q hy
    simp only [move_locker, setCell_table] at hy
    rw [users_move_enter _ _ _ _ (by simp [hi, Stage.cell]) (by simp [Stage.cell])]
    by_cases hyx : (sys.callers i).account = y
    · -- the entry is the caller's own: its count rises with its callers
      subst hyx
      have hqp : q = p := Option.some.inj (hy.symm.trans hp)
      subst hqp
      obtain ⟨hrefs, -⟩ := hs.counted _ q hp
      rw [if_pos rfl, Finset.card_insert_of_notMem hnot]
      simp [hrefs]
    · have hqp : q ≠ p := fun h => hyx (hs.distinct _ y q (h ▸ hp) hy)
      simpa [hqp, hyx] using hs.counted y q hy
  · intro q
    simp only [hholds, move_locker, setCell_cells]
    by_cases hq : q = p
    · subst hq
      simpa using hs.held q
    · simpa [hq] using hs.held q
  · intro j k q hj hk
    exact hs.single j k q ((hholds j q).mp hj) ((hholds k q).mp hk)
  · intro y q hy
    simpa using hs.below y q (by simpa using hy)

/-- Entering a fresh cell for an account the table lacks. -/
theorem Sound.enter_none (hs : Sound sys) {i : Fin n} (hi : (sys.callers i).stage = .idle)
    (hn : sys.locker.table (sys.callers i).account = none) :
    Sound (sys.move i (sys.locker.enter (sys.callers i).account).2
      (.waiting (sys.locker.enter (sys.callers i).account).1)) := by
  obtain ⟨hp, htable, hcells, hnext⟩ := enter_of_none hn
  rw [hp]
  -- no caller counts itself for the account, and every counted cell is below the fresh one
  have hnone : ∀ j, j ∉ sys.users (sys.callers i).account := by
    intro j hj
    obtain ⟨hacc, hsome⟩ := (mem_users sys).mp hj
    obtain ⟨q, hq⟩ := Option.isSome_iff_exists.mp hsome
    have hentry := hs.entered j q hq
    rw [hacc, hn] at hentry
    cases hentry
  have hfresh : ∀ j q, (sys.callers j).stage.cell = some q → q < sys.locker.next :=
    fun j q hq => hs.below _ q (hs.entered j q hq)
  constructor
  · intro j q hq
    by_cases hj : j = i
    · subst hj
      simp only [move_self, Stage.cell, Option.some.injEq] at hq
      simp [htable, hq]
    · simp only [move_of_ne _ _ _ _ hj, move_locker] at hq ⊢
      have hacc : (sys.callers j).account ≠ (sys.callers i).account :=
        fun h => hnone j ((mem_users sys).mpr ⟨h, by simp [hq]⟩)
      simpa [htable, hacc] using hs.entered j q hq
  · intro y z q hy hz
    simp only [move_locker, htable] at hy hz
    by_cases hyi : y = (sys.callers i).account <;> by_cases hzi : z = (sys.callers i).account
    · rw [hyi, hzi]
    · simp only [hyi, hzi, if_true, if_false, Option.some.injEq] at hy hz
      have := hs.below z q hz
      omega
    · simp only [hyi, hzi, if_true, if_false, Option.some.injEq] at hy hz
      have := hs.below y q hy
      omega
    · simp only [hyi, hzi, if_false] at hy hz
      exact hs.distinct y z q hy hz
  · intro y q hy
    simp only [move_locker, htable] at hy
    rw [users_move_enter _ _ _ _ (by simp [hi, Stage.cell]) (by simp [Stage.cell]), move_locker,
      hcells]
    by_cases hyi : (sys.callers i).account = y
    · -- the fresh entry is counted once, by the caller alone
      subst hyi
      simp only [if_true, Option.some.injEq] at hy
      subst hy
      simp [Finset.eq_empty_of_forall_notMem hnone]
    · have hy' : sys.locker.table y = some q := by simpa [Ne.symm hyi] using hy
      have hq : q ≠ sys.locker.next := by
        have := hs.below y q hy'
        omega
      simpa [hq, hyi] using hs.counted y q hy'
  · intro q
    rw [exists_holding_move]
    simp only [move_locker, hcells, reduceCtorEq, false_or]
    by_cases hq : q = sys.locker.next
    · -- no caller holds the fresh cell
      subst hq
      simp only [if_true, Bool.false_eq_true, false_iff, not_exists, not_and]
      intro j _ hj
      have := hfresh j sys.locker.next (by simp [hj, Stage.cell])
      omega
    · simp only [hq, if_false, hs.held q]
      constructor
      · rintro ⟨j, hj⟩
        exact ⟨j, fun hji => by subst hji; simp [hi] at hj, hj⟩
      · rintro ⟨j, -, hj⟩
        exact ⟨j, hj⟩
  · intro j k q hj hk
    have hholds := holding_move_iff sys i (sys.locker.enter (sys.callers i).account).2
      (.waiting sys.locker.next) (by simp [hi]) (by simp)
    exact hs.single j k q ((hholds j q).mp hj) ((hholds k q).mp hk)
  · intro y q hy
    simp only [move_locker, htable, hnext] at hy ⊢
    by_cases hyi : y = (sys.callers i).account
    · simp only [hyi, if_true, Option.some.injEq] at hy
      omega
    · simp only [hyi, if_false] at hy
      have := hs.below y q hy
      omega

/-- Acquiring a free mutex. -/
theorem Sound.acquire (hs : Sound sys) {i : Fin n} {p : Nat}
    (hi : (sys.callers i).stage = .waiting p) (hfree : (sys.locker.cells p).held = false) :
    Sound (sys.move i (sys.locker.setCell p { sys.locker.cells p with held := true })
      (.holding p)) := by
  have husers := users_move_of_counted sys i
    (sys.locker.setCell p { sys.locker.cells p with held := true }) (.holding p)
    (by simp [hi, Stage.cell]) (by simp [Stage.cell])
  constructor
  · intro j q hq
    by_cases hj : j = i
    · subst hj
      simp only [move_self, Stage.cell, Option.some.injEq] at hq
      subst hq
      simpa using hs.entered j _ (by simp [hi, Stage.cell])
    · simp only [move_of_ne _ _ _ _ hj] at hq ⊢
      simpa using hs.entered j q hq
  · intro y z q hy hz
    exact hs.distinct y z q (by simpa using hy) (by simpa using hz)
  · intro y q hy
    simp only [husers, move_locker, setCell_table, setCell_cells] at hy ⊢
    by_cases hq : q = p
    · subst hq
      simpa using hs.counted y q hy
    · simpa [hq] using hs.counted y q hy
  · intro q
    rw [exists_holding_move]
    simp only [move_locker, setCell_cells, Stage.holding.injEq]
    by_cases hq : q = p
    · subst hq
      simp
    · -- the mover holds another mutex, and held none before
      simp only [hq, if_false, Ne.symm hq, false_or, hs.held q]
      constructor
      · rintro ⟨j, hj⟩
        exact ⟨j, fun hji => by subst hji; simp [hi] at hj, hj⟩
      · rintro ⟨j, -, hj⟩
        exact ⟨j, hj⟩
  · intro j k q hj hk
    simp only [stage_move] at hj hk
    -- a second holder of the mutex would have found it held
    have hnot : ∀ m, m ≠ i → (sys.callers m).stage ≠ .holding p := by
      intro m _ hm
      have := (hs.held p).mpr ⟨m, hm⟩
      simp [hfree] at this
    by_cases hji : j = i <;> by_cases hki : k = i
    · rw [hji, hki]
    · simp only [hji, if_true, hki, if_false, Stage.holding.injEq] at hj hk
      exact absurd (hj ▸ hk) (hnot k hki)
    · simp only [hji, if_true, hki, if_false, Stage.holding.injEq] at hj hk
      exact absurd (hk ▸ hj) (hnot j hji)
    · simp only [hji, hki, if_false] at hj hk
      exact hs.single j k q hj hk
  · intro y q hy
    simpa using hs.below y q (by simpa using hy)

/-- Releasing a held mutex. -/
theorem Sound.unlock (hs : Sound sys) {i : Fin n} {p : Nat}
    (hi : (sys.callers i).stage = .holding p) :
    Sound (sys.move i (sys.locker.unlock p) (.releasing p)) := by
  have husers := users_move_of_counted sys i (sys.locker.unlock p) (.releasing p)
    (by simp [hi, Stage.cell]) (by simp [Stage.cell])
  constructor
  · intro j q hq
    by_cases hj : j = i
    · subst hj
      simp only [move_self, Stage.cell, Option.some.injEq] at hq
      subst hq
      simpa using hs.entered j _ (by simp [hi, Stage.cell])
    · simp only [move_of_ne _ _ _ _ hj] at hq ⊢
      simpa using hs.entered j q hq
  · intro y z q hy hz
    exact hs.distinct y z q (by simpa using hy) (by simpa using hz)
  · intro y q hy
    simp only [husers, move_locker, unlock_table, unlock_cells] at hy ⊢
    by_cases hq : q = p
    · subst hq
      simpa using hs.counted y q hy
    · simpa [hq] using hs.counted y q hy
  · intro q
    rw [exists_holding_move]
    simp only [move_locker, unlock_cells, reduceCtorEq, false_or]
    by_cases hq : q = p
    · -- the mover was the mutex's one holder
      subst hq
      simp only [if_true, Bool.false_eq_true, false_iff, not_exists, not_and]
      intro j hji hj
      exact hji (hs.single j i q hj hi)
    · simp only [hq, if_false, hs.held q]
      constructor
      · rintro ⟨j, hj⟩
        refine ⟨j, fun hji => ?_, hj⟩
        subst hji
        rw [hi] at hj
        exact hq (Stage.holding.inj hj).symm
      · rintro ⟨j, -, hj⟩
        exact ⟨j, hj⟩
  · intro j k q hj hk
    have hholds : ∀ m, ((sys.move i (sys.locker.unlock p) (.releasing p)).callers m).stage =
        .holding q → (sys.callers m).stage = .holding q := by
      intro m hm
      by_cases hmi : m = i
      · subst hmi
        simp at hm
      · simpa [hmi] using hm
    exact hs.single j k q (hholds j hj) (hholds k hk)
  · intro y q hy
    simpa using hs.below y q (by simpa using hy)

/-- Giving an entry back: the count is lowered, and the entry removed once it is zero. -/
theorem Sound.leave (hs : Sound sys) {i : Fin n} {p : Nat}
    (hi : (sys.callers i).stage = .releasing p) :
    Sound (sys.move i (sys.locker.leave (sys.callers i).account p) .done) := by
  have hp : sys.locker.table (sys.callers i).account = some p :=
    hs.entered i p (by simp [hi, Stage.cell])
  have hmem : i ∈ sys.users (sys.callers i).account := by simp [mem_users, hi, Stage.cell]
  obtain ⟨hrefs, hpos⟩ := hs.counted _ p hp
  have husers := users_move_leave sys i (sys.locker.leave (sys.callers i).account p) .done
    (by simp [Stage.cell])
  -- when the count reaches zero the mover was its account's only counted caller
  have honly : (sys.locker.cells p).refs - 1 = 0 →
      ∀ j ∈ sys.users (sys.callers i).account, j = i := by
    intro hzero j hj
    have hcard : (sys.users (sys.callers i).account).card = 1 := by omega
    exact Finset.card_le_one.mp hcard.le j hj i hmem
  have hholds := holding_move_iff sys i (sys.locker.leave (sys.callers i).account p) .done
    (by simp [hi]) (by simp)
  constructor
  · intro j q hq
    by_cases hj : j = i
    · subst hj
      simp [Stage.cell] at hq
    · simp only [move_of_ne _ _ _ _ hj, move_locker, leave_table] at hq ⊢
      have hentry := hs.entered j q hq
      by_cases hzero : (sys.locker.cells p).refs - 1 = 0
      · have hacc : (sys.callers j).account ≠ (sys.callers i).account := fun h =>
          hj (honly hzero j ((mem_users sys).mpr ⟨h, by simp [hq]⟩))
        simpa [hzero, hacc] using hentry
      · simpa [hzero] using hentry
  · intro y z q hy hz
    simp only [move_locker, leave_table] at hy hz
    split at hy
    · cases hy
    · split at hz
      · cases hz
      · exact hs.distinct y z q hy hz
  · intro y q hy
    simp only [move_locker, leave_table] at hy
    split at hy
    · cases hy
    rename_i hkept
    rw [husers, move_locker, leave_cells]
    by_cases hq : q = p
    · -- the mover's own entry, kept since its count stays positive
      subst hq
      have hyx : y = (sys.callers i).account := hs.distinct y _ q hy hp
      subst hyx
      have hzero : (sys.locker.cells q).refs - 1 ≠ 0 := fun h => hkept ⟨h, rfl⟩
      rw [if_pos rfl, Finset.card_erase_of_mem hmem]
      constructor
      · simp only
        omega
      · omega
    · have hyx : y ≠ (sys.callers i).account := fun h => hq (Option.some.inj (hy.symm.trans (h ▸ hp)))
      have hnot : i ∉ sys.users y := fun h => hyx ((mem_users sys).mp h).1.symm
      simpa [hq, Finset.erase_eq_of_notMem hnot] using hs.counted y q hy
  · intro q
    simp only [hholds, move_locker, leave_cells]
    by_cases hq : q = p
    · subst hq
      simpa using hs.held q
    · simpa [hq] using hs.held q
  · intro j k q hj hk
    exact hs.single j k q ((hholds j q).mp hj) ((hholds k q).mp hk)
  · intro y q hy
    simp only [move_locker, leave_table, leave_next] at hy ⊢
    split at hy
    · cases hy
    · exact hs.below y q hy

/-- Every step of a caller keeps the invariant. -/
theorem Sound.advance (hs : Sound sys) {i : Fin n} {sys' : Contention n}
    (h : sys.advance i = some sys') : Sound sys' := by
  rcases hstage : (sys.callers i).stage with _ | p | p | p | _ <;>
    simp only [Contention.advance, hstage] at h
  · -- idle: the account's entry is taken, or a fresh one made
    cases h
    cases hx : sys.locker.table (sys.callers i).account with
    | none => exact hs.enter_none hstage hx
    | some p =>
      rw [enter_of_some hx]
      exact hs.enter_some hstage hx
  · obtain ⟨l, hl, rfl⟩ := Option.map_eq_some_iff.mp h
    obtain ⟨hfree, rfl⟩ := acquire_eq_some.mp hl
    exact hs.acquire hstage hfree
  · cases h
    exact hs.unlock hstage
  · cases h
    exact hs.leave hstage
  · cases h

theorem Sound.reachable {accounts : Fin n → Int} (h : Reachable accounts sys) : Sound sys := by
  induction h with
  | refl => exact Sound.start accounts
  | tail _ hstep ih =>
    obtain ⟨i, hi⟩ := hstep
    exact ih.advance hi

/-! ## Who holds a lock -/

theorem holds_move (sys : Contention n) (i : Fin n) (l : Locker) (s : Stage) (j : Fin n) (x : Int) :
    (sys.move i l s).Holds j x ↔
      if j = i then (sys.callers i).account = x ∧ ∃ p, s = .holding p else sys.Holds j x := by
  by_cases hj : j = i
  · subst hj
    simp [Holds]
  · simp [Holds, hj]

/-- Holding the mutex of a counted caller's cell is holding the lock of that caller's account. -/
theorem Sound.holding_iff (hs : Sound sys) {i : Fin n} {p : Nat}
    (hi : (sys.callers i).stage.cell = some p) (j : Fin n) :
    (sys.callers j).stage = .holding p ↔ sys.Holds j (sys.callers i).account := by
  have hip := hs.entered i p hi
  constructor
  · intro hj
    have hjp := hs.entered j p (by simp [hj, Stage.cell])
    exact ⟨hs.distinct _ _ p hjp hip, p, hj⟩
  · rintro ⟨hjx, q, hjq⟩
    -- both cells are the one entry of the account
    have hjq' := hs.entered j q (by simp [hjq, Stage.cell])
    rw [hjx, hip] at hjq'
    cases hjq'
    exact hjq

/-- A waiting caller takes its lock exactly when no caller holds the lock of its account. -/
theorem Sound.advance_waiting_isSome (hs : Sound sys) {i : Fin n} {p : Nat}
    (hi : (sys.callers i).stage = .waiting p) :
    (sys.advance i).isSome ↔ ∀ j, ¬ sys.Holds j (sys.callers i).account := by
  have hcell : (sys.callers i).stage.cell = some p := by simp [hi, Stage.cell]
  simp only [Contention.advance, hi, Option.isSome_map]
  constructor
  · intro hfree j hj
    have hheld := (hs.held p).mpr ⟨j, (hs.holding_iff hcell j).mpr hj⟩
    simp [Locker.acquire, hheld] at hfree
  · intro hnone
    cases hheld : (sys.locker.cells p).held
    · simp [Locker.acquire, hheld]
    · obtain ⟨j, hj⟩ := (hs.held p).mp hheld
      exact absurd ((hs.holding_iff hcell j).mp hj) (hnone j)

/-- Acquiring adds the caller to the holders of its account's lock. -/
theorem holds_advance_waiting {i : Fin n} {p : Nat} {sys' : Contention n}
    (hi : (sys.callers i).stage = .waiting p) (h : sys.advance i = some sys') (j : Fin n)
    (x : Int) : sys'.Holds j x ↔ if j = i then (sys.callers i).account = x else sys.Holds j x := by
  simp only [Contention.advance, hi] at h
  obtain ⟨l, -, rfl⟩ := Option.map_eq_some_iff.mp h
  rw [holds_move]
  by_cases hj : j = i <;> simp [hj]

/-- Releasing takes the caller out of the holders, and is always a step. -/
theorem holds_advance_holding {i : Fin n} {p : Nat} (hi : (sys.callers i).stage = .holding p) :
    ∃ sys', sys.advance i = some sys' ∧ ∀ j x, sys'.Holds j x ↔ j ≠ i ∧ sys.Holds j x := by
  refine ⟨sys.move i (sys.locker.unlock p) (.releasing p), by simp only [Contention.advance, hi],
    fun j x => ?_⟩
  rw [holds_move]
  by_cases hj : j = i <;> simp [hj]

/-- However the callers' steps interleave, at most one caller holds an account's lock, and the
table's entries count exactly the callers between raising and lowering their count; so the
table is empty once no caller is between taking the lock and giving it back. -/
theorem locker_excludes_and_counts {accounts : Fin n → Int} {sys : Contention n}
    (h : Reachable accounts sys) :
    (∀ i j x, sys.Holds i x → sys.Holds j x → i = j) ∧
      (∀ x, (∃ p, sys.locker.table x = some p) ↔ ∃ i, i ∈ sys.users x) ∧
      (∀ x p, sys.locker.table x = some p → (sys.locker.cells p).refs = (sys.users x).card) ∧
      ((∀ i, (sys.callers i).stage = .idle ∨ (sys.callers i).stage = .done) →
        ∀ x, sys.locker.table x = none) := by
  have hs := Sound.reachable h
  refine ⟨?_, fun x => ?_, fun x p hp => (hs.counted x p hp).1, ?_⟩
  · rintro i j x ⟨hix, p, hip⟩ ⟨hjx, q, hjq⟩
    -- both find the account's one entry, so they hold the same mutex
    have hp := hs.entered i p (by simp [hip, Stage.cell])
    have hq := hs.entered j q (by simp [hjq, Stage.cell])
    rw [hix] at hp
    rw [hjx] at hq
    have hpq : p = q := Option.some.inj (hp.symm.trans hq)
    subst hpq
    exact hs.single i j p hip hjq
  · constructor
    · rintro ⟨p, hp⟩
      exact Finset.card_pos.mp (hs.counted x p hp).2
    · rintro ⟨i, hi⟩
      obtain ⟨hix, hsome⟩ := (mem_users sys).mp hi
      obtain ⟨p, hp⟩ := Option.isSome_iff_exists.mp hsome
      exact ⟨p, hix ▸ hs.entered i p hp⟩
  · intro hquiet x
    cases hx : sys.locker.table x with
    | none => rfl
    | some p =>
      obtain ⟨i, hi⟩ := Finset.card_pos.mp (hs.counted x p hx).2
      obtain ⟨-, hsome⟩ := (mem_users sys).mp hi
      rcases hquiet i with hstage | hstage <;> simp [hstage, Stage.cell] at hsome

/-- Two callers on account 7 and one on account 8: the first takes account 7's lock, the
second waits for it, and the third takes account 8's lock and gives it back. -/
theorem locker_excludes_and_counts_of_three_callers :
    let sys := (start ![7, 7, 8]).run [0, 1, 0, 2, 2, 2, 2]
    Reachable ![7, 7, 8] sys ∧
      ((∀ i j x, sys.Holds i x → sys.Holds j x → i = j) ∧
        (∀ x, (∃ p, sys.locker.table x = some p) ↔ ∃ i, i ∈ sys.users x) ∧
        (∀ x p, sys.locker.table x = some p → (sys.locker.cells p).refs = (sys.users x).card) ∧
        ((∀ i, (sys.callers i).stage = .idle ∨ (sys.callers i).stage = .done) →
          ∀ x, sys.locker.table x = none)) :=
  ⟨reachable_run .refl _, locker_excludes_and_counts (reachable_run .refl _)⟩

/-- Once account 7's only caller has given its lock back, the next caller on account 7 gets
a new cell at a fresh address. -/
example : ((start ![7, 7]).run [0, 0, 0, 0, 1]).locker.table 7 = some 1 := by decide

end Contention
end Ledger.Locker
