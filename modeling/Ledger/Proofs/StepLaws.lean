import Ledger.Proofs.StoreLaws
import Ledger.Proofs.DecimalValue
import Ledger.Proofs.RunAlone
import Ledger.Proofs.AccountLocks
/-!
# What one step of a call can do

A step keeps its call's request and the clock, takes a lock only when no call holds it, and
has one of the few effects `Effect` lists. The invariants of the machine are proved from
these lemmas, not by opening `Call.step` again.
-/

namespace Ledger.Interleaving

open Service

/-! ## The checks a call makes -/

/-- A request that passes validation has a type the engine accepts and a positive amount. -/
theorem validate_eq_ok {rules : Rules} {amount : Decimal} {type : TxnType}
    (h : validate rules amount type = .ok ()) :
    (type = .deposit ∨ type = .withdrawal) ∧ 0 < amount.toRat := by
  unfold validate at h
  split at h
  · cases h
  · rename_i hvalid
    split at h
    · cases h
    · rename_i hpos
      refine ⟨?_, by simpa using hpos⟩
      cases type with
      | deposit => exact .inl rfl
      | withdrawal => exact .inr rfl
      | other s => simp [TxnType.isValid] at hvalid

/-- The balance rules give a deposit the sum of balance and amount, and a withdrawal the
difference, when the balance covers the amount and, once the account is past its grace
period at the instant of the check, the difference keeps the minimum balance. -/
theorem applyRules_eq_ok {rules : Rules} {now : Instant} {a : Account} {amount b : Decimal}
    {type : TxnType} (h : applyRules rules now a amount type = .ok b) :
    (type = .deposit ∧ b = a.balance.add amount) ∨
      (type ≠ .deposit ∧ b = a.balance.sub amount ∧ amount.toRat ≤ a.balance.toRat ∧
        (rules.graceDays < a.ageInDays now → rules.minimumBalance.toRat ≤ b.toRat)) := by
  dsimp only [applyRules] at h
  split at h
  · rename_i hdeposit
    cases h
    exact .inl ⟨by simpa using hdeposit, rfl⟩
  · rename_i hdeposit
    split at h
    · cases h
    · rename_i hcovers
      split at h
      · cases h
      · rename_i hfloor
        cases h
        refine .inr ⟨by simpa using hdeposit, rfl, ?_, ?_⟩
        · simpa [Decimal.lt_eq_true_iff] using hcovers
        · intro hold
          simpa [hold, Decimal.lt_eq_true_iff] using hfloor

/-! ## What a step can do -/

/-- The record a call holds unsettled: stored, and neither committed to its account nor
compensated. -/
def Phase.pending : Phase → Option Uuid
  | .stored _ _ _ t => some t.id
  | .compensating id _ | .marking id _ _ => some id
  | _ => none

/-- The outcome a call has settled on, once it has one. -/
def Phase.outcome : Phase → Option Outcome
  | .exiting o | .done o => some o
  | _ => none

@[simp]
theorem finish_request (c : Call) (o : Outcome) : (c.finish o).request = c.request := rfl

@[simp]
theorem finish_lock (c : Call) (o : Outcome) : (c.finish o).lock = c.lock := rfl

@[simp]
theorem finish_pending (c : Call) (o : Outcome) : (c.finish o).phase.pending = none := by
  unfold Call.finish
  split <;> rfl

@[simp]
theorem finish_outcome (c : Call) (o : Outcome) : (c.finish o).phase.outcome = some o := by
  unfold Call.finish
  split <;> rfl

/-- What one step of a call does to the store, and to the record the call holds. -/
inductive Effect (fault : Option Failure) (now : Instant) (c : Call) (s : Store) :
    Call → Store → Prop
  /-- The store is untouched, and the call holds what it held. -/
  | keep {c' : Call} (hpending : c'.phase.pending = c.phase.pending) : Effect fault now c s c' s
  /-- Reading the record back, after its balance update failed, failed: the call returns and
  the record stays as it is. -/
  | lostRead {id : Uuid} {f : Failure} (hc : c.phase = .compensating id f)
      (hfail : fault.isSome ∨ ∃ e, s.findRecord id = .error e) :
      Effect fault now c s (c.finish (.error (updateFailure f))) s
  /-- Marking the record failed failed: the call returns and the record stays as it is. -/
  | lostMark {id : Uuid} {f : Failure} {v : Int} (hc : c.phase = .marking id f v)
      (hfail : fault.isSome ∨ ∃ e, s.updateStatus id .failed v now = .error e) :
      Effect fault now c s (c.finish (.error (updateFailure f))) s
  /-- The drafted record is stored. -/
  | insert {a : Account} {b : Decimal} {at_ : Instant} {d t : Transaction} {s' : Store}
      (hc : c.phase = .drafted a b at_ d) (hcreate : s.createRecord d now = .ok (s', t)) :
      Effect fault now c s { c with phase := .stored a b at_ t } s'
  /-- The new balance is stored: the call commits. -/
  | commit {a : Account} {b : Decimal} {at_ : Instant} {t : Transaction} {s' : Store} {v : Int}
      {changed : Instant} (hc : c.phase = .stored a b at_ t)
      (hupdate : s.updateBalance a.id a.version b now = .ok (s', v, changed)) :
      Effect fault now c s
        (c.finish (.ok (t, { a with balance := b, version := v, lastModifiedAt := changed }))) s'
  /-- The record is marked failed: the compensation is done. -/
  | mark {id : Uuid} {f : Failure} {v : Int} {s' : Store} {r : Int × Instant}
      (hc : c.phase = .marking id f v) (hupdate : s.updateStatus id .failed v now = .ok (s', r)) :
      Effect fault now c s (c.finish (.error (updateFailure f))) s'

section Laws

variable (set : Setting) (busy : Int → Bool) (fault : Option Failure) (c : Call) (sh : Shared)

theorem Shared.read_eq_error {α : Type} {act : Store → Except Failure α} {e : Failure}
    (h : sh.read fault act = .error e) : fault.isSome ∨ ∃ e', act sh.store = .error e' := by
  unfold Shared.read at h
  rcases fault with _ | f
  · exact .inr ⟨e, h⟩
  · exact .inl rfl

theorem Shared.read_eq_ok {α : Type} {act : Store → Except Failure α} {a : α}
    (h : sh.read fault act = .ok a) : fault = none ∧ act sh.store = .ok a := by
  unfold Shared.read at h
  rcases fault with _ | f
  · exact ⟨rfl, h⟩
  · cases h

theorem Shared.write_eq_error {α : Type} {act : Store → Except Failure (Store × α)} {e : Failure}
    (h : sh.write fault act = .error e) : fault.isSome ∨ ∃ e', act sh.store = .error e' := by
  unfold Shared.write at h
  rcases fault with _ | f
  · cases hact : act sh.store with
    | ok p => simp [hact, Except.map] at h
    | error e' => exact .inr ⟨e', rfl⟩
  · exact .inl rfl

/-- A step keeps the call's request. -/
@[simp]
theorem Call.step_request : (c.step set busy fault sh).1.request = c.request := by
  dsimp only [Call.step]
  split <;> (repeat' split) <;> rfl

/-- A step keeps the clock. -/
@[simp]
theorem Call.step_clock : (c.step set busy fault sh).2.clock = sh.clock := by
  dsimp only [Call.step]
  split <;> (repeat' split) <;>
    first | rfl | (rename_i hw; rw [(Shared.write_eq_ok hw).2.2])

/-- A step keeps the call's lock, takes the lock of the account it found when no call holds
it, or releases the lock on the way out. -/
theorem Call.step_lock :
    (c.step set busy fault sh).1.lock = c.lock ∨
      (∃ a, c.phase = .found a ∧ busy a.id = false ∧
        (c.step set busy fault sh).1.lock = some a.id) ∨
      (c.step set busy fault sh).1.lock = none := by
  rcases c with ⟨r, p, l⟩
  cases p
  case found a =>
    dsimp only [Call.step]
    split
    · exact .inl rfl
    · next hfree => exact .inr (.inl ⟨a, rfl, by simpa using hfree, rfl⟩)
  case exiting o => exact .inr (.inr rfl)
  all_goals (dsimp only [Call.step]; (repeat' split) <;> exact .inl rfl)

/-- A step that neither takes the lock nor leaves keeps the lock as it was. -/
theorem Call.step_lock_of_steady (hfound : ∀ a, c.phase ≠ .found a)
    (hexit : ∀ o, c.phase ≠ .exiting o) : (c.step set busy fault sh).1.lock = c.lock := by
  rcases c with ⟨r, p, l⟩
  cases p
  case found a => exact absurd rfl (hfound a)
  case exiting o => exact absurd rfl (hexit o)
  all_goals
    dsimp only [Call.step]
    repeat' split
  all_goals rfl

/-- Every step has one of the effects `Effect` lists. -/
theorem Call.step_effect :
    Effect fault sh.clock c sh.store (c.step set busy fault sh).1
      (c.step set busy fault sh).2.store := by
  rcases c with ⟨r, p, l⟩
  cases p with
  | start =>
    dsimp only [Call.step]
    split
    · exact .keep rfl
    · split
      · exact .keep (by split <;> rfl)
      · exact .keep rfl
  | found a =>
    dsimp only [Call.step]
    split <;> exact .keep rfl
  | locked =>
    dsimp only [Call.step]
    split
    · exact .keep rfl
    · exact .keep (by rw [finish_pending]; rfl)
  | ready a =>
    dsimp only [Call.step]
    split
    · exact .keep rfl
    · split
      · split
        · exact .keep rfl
        · exact .keep (by rw [finish_pending]; rfl)
      · exact .keep (by rw [finish_pending]; rfl)
  | allowed a =>
    dsimp only [Call.step]
    split
    · exact .keep rfl
    · exact .keep (by rw [finish_pending]; rfl)
  | checked a b at_ => exact .keep rfl
  | drafted a b at_ d =>
    dsimp only [Call.step]
    split
    · next t sh' hw => exact .insert rfl (Shared.write_eq_ok hw).2.1
    · exact .keep (by rw [finish_pending]; rfl)
  | stored a b at_ t =>
    dsimp only [Call.step]
    split
    · next v changed sh' hw => exact .commit rfl (Shared.write_eq_ok hw).2.1
    · exact .keep rfl
  | compensating id f =>
    dsimp only [Call.step]
    split
    · exact .keep rfl
    · next e hr => exact .lostRead rfl (Shared.read_eq_error _ _ hr)
  | marking id f v =>
    dsimp only [Call.step]
    split
    · next u sh' hw => exact .mark rfl (Shared.write_eq_ok hw).2.1
    · next e hw => exact .lostMark rfl (Shared.write_eq_error _ _ hw)
  | exiting o => exact .keep rfl
  | done o => exact .keep rfl

end Laws

/-! ## The lock and the locker

A call takes its account's lock in one step, when no call holds it (`System.busy`). The locker
takes it in two steps (`enter`, `acquire`) and gives it back in two (`unlock`, `leave`). While
the calls' locks agree with the locker's holders, each step of a call is its caller's
`acquire`, its caller's `unlock`, or no step of the locker. -/

section Locker

variable {n : Nat} {set : Setting} {sys : System n} {lk : Locker.Contention n}

/-- Each call keeps the lock of the account whose mutex its caller of the locker holds. -/
def LocksAgree (sys : System n) (lk : Locker.Contention n) : Prop :=
  ∀ j x, (sys.calls j).lock = some x ↔ lk.Holds j x

/-- How a call stands with its caller of the locker: a call that found its account waits on
that account's mutex, and a call leaving with a lock holds that lock's mutex. -/
structure Paired (c : Call) (k : Locker.Caller) : Prop where
  found : ∀ a, c.phase = .found a → k.account = a.id ∧ ∃ p, k.stage = .waiting p
  exiting : ∀ o, c.phase = .exiting o → c.lock.isSome → ∃ p, k.stage = .holding p

theorem System.advance_calls (i : Fin n) (fault : Option Failure) (j : Fin n) :
    (sys.advance set i fault).calls j =
      if j = i then ((sys.calls i).step set sys.busy fault sys.shared).1 else sys.calls j := by
  by_cases hj : j = i
  · subst hj
    simp [System.advance]
  · simp [System.advance, hj]

/-- An account is busy exactly when a caller of the locker holds its lock. -/
theorem LocksAgree.busy_iff (h : LocksAgree sys lk) (x : Int) :
    sys.busy x = true ↔ ∃ j, lk.Holds j x := by
  simpa [System.busy] using exists_congr fun j => h j x

/-- A step that keeps the call's lock keeps the agreement, with no step of the locker. -/
theorem LocksAgree.advance_of_lock (h : LocksAgree sys lk) {i : Fin n} {fault : Option Failure}
    (hlock : ((sys.calls i).step set sys.busy fault sys.shared).1.lock = (sys.calls i).lock) :
    LocksAgree (sys.advance set i fault) lk := by
  intro j x
  rw [System.advance_calls]
  by_cases hj : j = i
  · subst hj
    rw [if_pos rfl, hlock]
    exact h j x
  · rw [if_neg hj]
    exact h j x

/-- Taking the lock: a call that found account `a` takes its lock in the step in which its
caller, waiting on `a`, acquires the mutex, and waits exactly when that caller waits. -/
theorem found_step_follows_acquire (hs : lk.Sound) (h : LocksAgree sys lk) {i : Fin n}
    {a : Account} {p : Nat} (hfound : (sys.calls i).phase = .found a)
    (hwait : (lk.callers i).stage = .waiting p) (hacc : (lk.callers i).account = a.id)
    (fault : Option Failure) :
    (((sys.advance set i fault).calls i).lock = some a.id ↔ (lk.advance i).isSome) ∧
      LocksAgree (sys.advance set i fault) ((lk.advance i).getD lk) := by
  -- the waiting caller holds nothing, so the call holds no lock yet
  have hnone : (sys.calls i).lock = none := by
    cases hl : (sys.calls i).lock with
    | none => rfl
    | some y =>
      obtain ⟨-, q, hq⟩ := (h i y).mp hl
      rw [hwait] at hq
      cases hq
  have hfree : (lk.advance i).isSome ↔ sys.busy a.id = false := by
    rw [hs.advance_waiting_isSome hwait, hacc, ← Bool.not_eq_true, h.busy_iff]
    simp
  have hstep : (sys.calls i).step set sys.busy fault sys.shared =
      if sys.busy a.id then (sys.calls i, sys.shared)
      else ({ sys.calls i with phase := .locked, lock := some a.id }, sys.shared) := by
    rw [Call.step.eq_def, hfound]
  cases hb : sys.busy a.id
  · -- the account is free: the call and its caller both take the lock
    obtain ⟨lk', hlk'⟩ := Option.isSome_iff_exists.mp (hfree.mpr hb)
    refine ⟨by simp [System.advance_calls, hstep, hb, hlk'], ?_⟩
    rw [hlk', Option.getD_some]
    intro j x
    rw [System.advance_calls, Locker.Contention.holds_advance_waiting hwait hlk', hacc]
    by_cases hj : j = i
    · subst hj
      simp [hstep, hb]
    · simp [hj, h j x]
  · -- the account is held: both wait
    have hwaits : lk.advance i = none := by
      cases hadv : lk.advance i with
      | none => rfl
      | some lk' => simp [hadv, hb] at hfree
    refine ⟨by simp [System.advance_calls, hstep, hb, hnone, hwaits], ?_⟩
    rw [hwaits, Option.getD_none]
    exact h.advance_of_lock (by rw [hstep, hb]; rfl)

/-- Giving the lock back: the call's last step is its caller's release of the mutex. -/
theorem exiting_step_follows_unlock (h : LocksAgree sys lk) {i : Fin n} {o : Outcome} {p : Nat}
    (hexit : (sys.calls i).phase = .exiting o) (hhold : (lk.callers i).stage = .holding p)
    (fault : Option Failure) :
    ∃ lk', lk.advance i = some lk' ∧ LocksAgree (sys.advance set i fault) lk' := by
  obtain ⟨lk', hlk', hholds⟩ := Locker.Contention.holds_advance_holding hhold
  refine ⟨lk', hlk', fun j x => ?_⟩
  rw [System.advance_calls, hholds]
  by_cases hj : j = i
  · subst hj
    simp [Call.step.eq_def, hexit]
  · simp [hj, h j x]

/-- The locker realizes the calls' lock: in a state the locker's invariant holds of, with the
locks in agreement and each call paired with its caller, a step of a call is matched by no
step of the locker or by one step of its caller, and the locks agree after it. -/
theorem call_step_follows_locker (hs : lk.Sound) (h : LocksAgree sys lk) (i : Fin n)
    (hpair : Paired (sys.calls i) (lk.callers i)) (fault : Option Failure) :
    ∃ lk', (lk' = lk ∨ lk.advance i = some lk') ∧ LocksAgree (sys.advance set i fault) lk' := by
  by_cases hfound : ∃ a, (sys.calls i).phase = .found a
  · obtain ⟨a, ha⟩ := hfound
    obtain ⟨hacc, p, hwait⟩ := hpair.found a ha
    have hagree : LocksAgree (sys.advance set i fault) ((lk.advance i).getD lk) :=
      (found_step_follows_acquire hs h ha hwait hacc fault).2
    cases hadv : lk.advance i with
    | none => exact ⟨lk, .inl rfl, by simpa [hadv] using hagree⟩
    | some lk' => exact ⟨lk', .inr rfl, by simpa [hadv] using hagree⟩
  by_cases hexit : ∃ o, (sys.calls i).phase = .exiting o
  · obtain ⟨o, ho⟩ := hexit
    cases hl : (sys.calls i).lock with
    | none =>
      refine ⟨lk, .inl rfl, h.advance_of_lock ?_⟩
      simp [Call.step.eq_def, ho, hl]
    | some x =>
      obtain ⟨p, hhold⟩ := hpair.exiting o ho (by simp [hl])
      obtain ⟨lk', hlk', hagree⟩ : ∃ lk', lk.advance i = some lk' ∧
          LocksAgree (sys.advance set i fault) lk' := exiting_step_follows_unlock h ho hhold fault
      exact ⟨lk', .inr hlk', hagree⟩
  · simp only [not_exists] at hfound hexit
    exact ⟨lk, .inl rfl, h.advance_of_lock (Call.step_lock_of_steady _ _ _ _ _ hfound hexit)⟩

end Locker

end Ledger.Interleaving
